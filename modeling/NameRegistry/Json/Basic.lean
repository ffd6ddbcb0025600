import NameRegistry.Text.Scientific
import NameRegistry.Text.Utf8
/-!
JSON values as they are written. Strings and numbers are kept as far as their literals tell them
apart: whether a string is text, and whether a number is in range, shows only where it is used.
-/
namespace NameRegistry.Json

/-- A piece of a string literal: a byte, or a UTF-16 code unit beyond ASCII that was escaped. -/
inductive Piece
  | byte (byte : UInt8)
  | unit (unit : UInt16) (beyond_ascii : 0x80 ≤ unit)
  deriving DecidableEq, Repr

/-- A JSON value. A number with a fraction or an exponent is a `real`, and so is a negative
zero. -/
inductive Value
  | null
  | bool (value : Bool)
  | integer (value : Int)
  | real (negative : Bool) (magnitude : Scientific)
  | string (pieces : List Piece)
  | array (items : List Value)
  | object (members : List (List Piece × Value))

/-- The bytes that stand for themselves in a string literal. -/
def plain (bytes : Bytes) : List Piece := bytes.map .byte

/-- A text as the pieces of a string literal. -/
def pieces (text : String) : List Piece := plain (Utf8.encode text)

def isHigh (unit : UInt16) : Bool := 0xD800 ≤ unit && unit ≤ 0xDBFF

def isLow (unit : UInt16) : Bool := 0xDC00 ≤ unit && unit ≤ 0xDFFF

/-- The character of a pair of code units. -/
def paired (high low : UInt16) : Char :=
  Char.ofNat (0x10000 + (high.toNat - 0xD800) * 0x400 + (low.toNat - 0xDC00))

/-- The bytes of a string literal, after the first half of a pair if one is given. A half without
its other half is not allowed. -/
def bytesFrom : Option UInt16 → List Piece → Option Bytes
  | none, [] => some []
  | none, .byte byte :: rest => (bytesFrom none rest).map (byte :: ·)
  | none, .unit unit _ :: rest =>
    if isHigh unit then bytesFrom (some unit) rest
    else if isLow unit then none
    else (bytesFrom none rest).map (Utf8.encodeChar (Char.ofNat unit.toNat) ++ ·)
  | some high, .unit unit _ :: rest =>
    if isLow unit then (bytesFrom none rest).map (Utf8.encodeChar (paired high unit) ++ ·)
    else none
  | some _, _ => none

/-- The text of a string literal, if it is text. -/
def text? (pieces : List Piece) : Option String := do
  (Utf8.decode (← bytesFrom none pieces)).toOption

/-- Whether an integer is finite. It is kept as it is if it fits in a word, and taken for a real
otherwise. -/
def isFiniteInteger (value : Int) : Bool :=
  value.natAbs < 18446744073709551616 ||
    (Scientific.ofDigits (Decimal.digits value.natAbs) []).isFinite

mutual

/-- Whether a value nests at most `depth` deep, all its strings are text and all its numbers are
finite. -/
def Value.isSound : Nat → Value → Bool
  | _, null | _, bool _ => true
  | _, integer value => isFiniteInteger value
  | _, real _ magnitude => magnitude.isFinite
  | _, string pieces => (text? pieces).isSome
  | 0, array _ | 0, object _ => false
  | depth + 1, array items => areSound depth items
  | depth + 1, object members => areSoundMembers depth members

def Value.areSound (depth : Nat) : List Value → Bool
  | [] => true
  | item :: rest => item.isSound depth && areSound depth rest

def Value.areSoundMembers (depth : Nat) : List (List Piece × Value) → Bool
  | [] => true
  | (key, value) :: rest =>
    (text? key).isSome && value.isSound depth && areSoundMembers depth rest

end

end NameRegistry.Json
