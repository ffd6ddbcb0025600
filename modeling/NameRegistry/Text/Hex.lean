import NameRegistry.Text.Quoted
import NameRegistry.Text.Utf8
/-!
Hexadecimal text. Bytes are written with two lower-case digits each and read back in either case.
-/
namespace NameRegistry.Hex

/-- The two digits of a byte. -/
def digits (byte : UInt8) : List Char :=
  [Nat.digitChar (byte.toNat / 16), Nat.digitChar (byte.toNat % 16)]

def encode (bytes : Bytes) : String := String.ofList (bytes.flatMap digits)

/-- Why a text is not hexadecimal. An offending byte is named with its position among the bytes. -/
inductive DecodeError
  | oddLength
  | notADigit (byte : UInt8) (index : Nat)
  deriving DecidableEq, Repr

/-- The wording of a decoding error; a byte is shown as the character of that number. -/
def DecodeError.message : DecodeError → String
  | .oddLength => "Odd number of digits"
  | .notADigit byte index =>
    s!"Invalid character {Quoted.character (Char.ofNat byte.toNat)} at position {index}"

/-- The value of a digit, of either case. -/
def digitValue? (byte : UInt8) : Option UInt8 :=
  if 0x30 ≤ byte ∧ byte ≤ 0x39 then some (byte - 0x30)
  else if 0x61 ≤ byte ∧ byte ≤ 0x66 then some (byte - 0x57)
  else if 0x41 ≤ byte ∧ byte ≤ 0x46 then some (byte - 0x37)
  else none

/-- Reads pairs of digits, the first of which stands at `index`. -/
def pairsFrom (index : Nat) : Bytes → Except DecodeError Bytes
  | high :: low :: rest =>
    match digitValue? high, digitValue? low with
    | none, _ => .error (.notADigit high index)
    | some _, none => .error (.notADigit low (index + 1))
    | some h, some l => (pairsFrom (index + 2) rest).map ((h * 16 + l) :: ·)
  | _ => .ok []

/-- Reads hexadecimal text. The length is tested before the digits. -/
def decode (text : String) : Except DecodeError Bytes :=
  let bytes := Utf8.encode text
  if bytes.length % 2 = 0 then pairsFrom 0 bytes else .error .oddLength

end NameRegistry.Hex
