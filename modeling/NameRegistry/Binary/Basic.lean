import NameRegistry.Address
/-!
The binary form of values: numbers with the least byte first, texts and lists behind their length
in eight bytes, an optional value behind a byte that tells whether it is there.
-/
namespace NameRegistry.Binary

/-- The lowest `width` bytes of a number, the least first. -/
def number : Nat → Nat → Bytes
  | 0, _ => []
  | width + 1, n => (n % 256).toUInt8 :: number width (n / 256)

def int64 (n : Int64) : Bytes := number 8 n.toUInt64.toNat

/-- Bytes behind their length. -/
def block (bytes : Bytes) : Bytes := number 8 bytes.length ++ bytes

/-- A text behind the length of its bytes. -/
def text (text : String) : Bytes := block (Utf8.encode text)

def list {α : Type} (item : α → Bytes) (items : List α) : Bytes :=
  number 8 items.length ++ items.flatMap item

def option {α : Type} (some : α → Bytes) : Option α → Bytes
  | none => [0]
  | .some value => 1 :: some value

/-- Takes a value from the front of a byte string, if one stands there. -/
abbrev Reader (α : Type) := StateT Bytes Option α

namespace Reader

/-- A reader that finds nothing. -/
def fail {α : Type} : Reader α := fun _ => none

def take (count : Nat) : Reader Bytes := fun bytes =>
  if count ≤ bytes.length then some (bytes.splitAt count) else none

/-- The number of bytes with the least first. -/
def valueOf (bytes : Bytes) : Nat := bytes.foldr (fun byte n => byte.toNat + 256 * n) 0

/-- Reads a number of `width` bytes. -/
def number (width : Nat) : Reader Nat := return valueOf (← take width)

def int64 : Reader Int64 := return (UInt64.ofNat (← number 8)).toInt64

/-- Reads bytes behind their length. -/
def block : Reader Bytes := do take (← number 8)

/-- Reads a text. -/
def text : Reader String := do
  match Utf8.decode (← block) with
  | .ok text => return text
  | .error _ => fail

def items {α : Type} (item : Reader α) : Nat → Reader (List α)
  | 0 => return []
  | count + 1 => return (← item) :: (← items item count)

def list {α : Type} (item : Reader α) : Reader (List α) := do items item (← number 8)

def option {α : Type} (value : Reader α) : Reader (Option α) := do
  match ← number 1 with
  | 0 => return none
  | 1 => return some (← value)
  | _ => fail

/-- Reads an address. -/
def address : Reader Address := do
  match Address.ofBytes (← take 20) with
  | .ok address => return address
  | .error _ => fail

end Reader

end NameRegistry.Binary
