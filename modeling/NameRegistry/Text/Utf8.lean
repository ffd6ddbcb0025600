import NameRegistry.Bytes
/-!
Text as bytes in UTF-8. A byte string is cut into segments, each a character or a maximal part of
no character; reading strictly fails at the first bad segment, reading leniently puts U+FFFD in
the place of each.
-/
namespace NameRegistry.Utf8

def encodeChar (c : Char) : Bytes := String.utf8EncodeChar c

def encode (text : String) : Bytes := text.toList.flatMap encodeChar

def size (text : String) : Nat := (encode text).length

/-- A character that has begun: `taken` bytes of it are read and carry the bits `code`, `owed`
more are to come, and the next one lies in `low ..= high`. -/
structure Begun where
  taken : Nat
  owed : Nat
  low : UInt8
  high : UInt8
  code : Nat
  deriving DecidableEq, Repr

/-- A piece of a byte string: a character, `length` bytes that begin no character of what follows,
or the same at the very end, where more bytes could have completed it. -/
inductive Segment
  | character (c : Char)
  | broken (length : Nat)
  | unfinished (length : Nat)
  deriving DecidableEq, Repr

/-- What a first byte tells: the whole segment, or a character that has begun. -/
def start (byte : UInt8) : Segment ⊕ Begun :=
  if byte < 0x80 then .inl (.character (Char.ofNat byte.toNat))
  else if byte < 0xC2 then .inl (.broken 1)
  else if byte < 0xE0 then .inr ⟨1, 1, 0x80, 0xBF, byte.toNat - 0xC0⟩
  else if byte < 0xF0 then
    .inr ⟨1, 2, if byte = 0xE0 then 0xA0 else 0x80, if byte = 0xED then 0x9F else 0xBF,
      byte.toNat - 0xE0⟩
  else if byte < 0xF5 then
    .inr ⟨1, 3, if byte = 0xF0 then 0x90 else 0x80, if byte = 0xF4 then 0x8F else 0xBF,
      byte.toNat - 0xF0⟩
  else .inl (.broken 1)

/-- The character after one more byte of it. -/
def Begun.continue (begun : Begun) (byte : UInt8) : Segment ⊕ Begun :=
  let code := begun.code * 64 + (byte.toNat - 0x80)
  if begun.owed ≤ 1 then .inl (.character (Char.ofNat code))
  else .inr ⟨begun.taken + 1, begun.owed - 1, 0x80, 0xBF, code⟩

/-- The segments of a byte string, given the character that is open before it. A byte that cannot
continue the open character ends it and is read anew as a first byte. -/
def segmentsFrom : Option Begun → Bytes → List Segment
  | none, [] => []
  | some begun, [] => [.unfinished begun.taken]
  | none, byte :: rest =>
    match start byte with
    | .inl segment => segment :: segmentsFrom none rest
    | .inr begun => segmentsFrom (some begun) rest
  | some begun, byte :: rest =>
    if begun.low ≤ byte ∧ byte ≤ begun.high then
      match begun.continue byte with
      | .inl segment => segment :: segmentsFrom none rest
      | .inr begun => segmentsFrom (some begun) rest
    else
      match start byte with
      | .inl segment => .broken begun.taken :: segment :: segmentsFrom none rest
      | .inr next => .broken begun.taken :: segmentsFrom (some next) rest

/-- The segments of a byte string. -/
def segments (bytes : Bytes) : List Segment := segmentsFrom none bytes

/-- Why bytes are no text: at `index`, `length` bytes that no character can begin with, or a
character that the end cuts off. -/
inductive DecodeError
  | broken (length index : Nat)
  | unfinished (index : Nat)
  deriving DecidableEq, Repr

/-- The wording of a decoding error. -/
def DecodeError.message : DecodeError → String
  | .broken length index => s!"invalid utf-8 sequence of {length} bytes from index {index}"
  | .unfinished index => s!"incomplete utf-8 byte sequence from index {index}"

/-- The characters of segments that start at `index`, up to the first bad one. -/
def charactersFrom (index : Nat) : List Segment → Except DecodeError (List Char)
  | [] => .ok []
  | .character c :: rest => (charactersFrom (index + (encodeChar c).length) rest).map (c :: ·)
  | .broken length :: _ => .error (.broken length index)
  | .unfinished _ :: _ => .error (.unfinished index)

/-- Reads bytes as text. -/
def decode (bytes : Bytes) : Except DecodeError String :=
  (charactersFrom 0 (segments bytes)).map String.ofList

/-- The character that a segment is shown as: a bad one as U+FFFD. -/
def Segment.shown : Segment → Char
  | .character c => c
  | .broken _ | .unfinished _ => '\ufffd'

/-- Reads bytes as text, with U+FFFD in the place of each bad segment. -/
def decodeLossy (bytes : Bytes) : String := String.ofList ((segments bytes).map Segment.shown)

end NameRegistry.Utf8
