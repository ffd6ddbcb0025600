/-!
Byte strings. Keys and values of the store, packed keys, certificates and record bytes are all
plain lists of bytes, ordered lexicographically.
-/
namespace NameRegistry

/-- A string of bytes. -/
abbrev Bytes := List UInt8

/-- The lexicographic order of byte strings is linear. -/
instance : Std.IsLinearOrder Bytes := inferInstance

/-- One byte string is below another if it is at most that one, and not the other way round. -/
instance : Std.LawfulOrderLT Bytes := inferInstance

/-- Byte strings that compare as equal are equal. -/
instance : LawfulBEq Bytes := inferInstance

end NameRegistry
