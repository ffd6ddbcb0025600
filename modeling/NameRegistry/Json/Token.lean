import NameRegistry.Json.Basic
/-!
The tokens of a JSON text. Every token has one written form here, and reading a text into tokens
accepts all the forms that the grammar has.
-/
namespace NameRegistry.Json

/-- A token: punctuation, a literal name, a number or a string. -/
inductive Token
  | openArray
  | closeArray
  | openObject
  | closeObject
  | comma
  | colon
  | null
  | bool (value : Bool)
  | integer (value : Int)
  | real (negative : Bool) (magnitude : Scientific)
  | string (pieces : List Piece)
  deriving DecidableEq, Repr

def isBlank (byte : UInt8) : Bool :=
  byte = 0x20 || byte = 0x09 || byte = 0x0A || byte = 0x0D

/-- The punctuation of a byte. -/
def punctuation? (byte : UInt8) : Option Token :=
  if byte = 0x5B then some .openArray
  else if byte = 0x5D then some .closeArray
  else if byte = 0x7B then some .openObject
  else if byte = 0x7D then some .closeObject
  else if byte = 0x2C then some .comma
  else if byte = 0x3A then some .colon
  else none

def quote : UInt8 := 0x22

/-- The byte that begins an escape. -/
def backslash : UInt8 := 0x5C

/-- The digits of the exponent and the rest, for text that follows the mark of an exponent. -/
def exponent? (bytes : Bytes) : Option Int :=
  let (negative, digits) := match bytes with
    | 0x2D :: rest => (true, rest)
    | 0x2B :: rest => (false, rest)
    | rest => (false, rest)
  if digits ≠ [] ∧ digits.all Decimal.isDigit then
    let value : Int := Decimal.value digits
    some (if negative then -value else value)
  else none

/-- A number with the given sign, digits before the point and, if there is a point, digits behind
it; `rest` is what follows. -/
def numberAfter (negative : Bool) (whole : Bytes) (fraction : Option Bytes) (rest : Bytes) :
    Option Token :=
  let magnitude := Scientific.ofDigits whole (fraction.getD [])
  if fraction = some [] then none
  else match rest with
    | [] =>
      let value : Int := Decimal.value whole
      if fraction.isNone ∧ ¬(negative ∧ value = 0) then
        some (.integer (if negative then -value else value))
      else some (.real negative magnitude)
    | mark :: rest =>
      if mark = 0x65 ∨ mark = 0x45 then do
        let places ← exponent? rest
        return .real negative { magnitude with exponent := magnitude.exponent + places }
      else none

/-- The number that a word denotes. -/
def number? (word : Bytes) : Option Token :=
  let (negative, word) := match word with
    | 0x2D :: rest => (true, rest)
    | rest => (false, rest)
  let whole := word.takeWhile Decimal.isDigit
  let rest := word.dropWhile Decimal.isDigit
  if whole = [] ∨ (whole.head? = some 0x30 ∧ 1 < whole.length) then none
  else match rest with
    | 0x2E :: rest =>
      numberAfter negative whole (some (rest.takeWhile Decimal.isDigit))
        (rest.dropWhile Decimal.isDigit)
    | rest => numberAfter negative whole none rest

/-- The token of a word, which is a run of bytes without blanks, punctuation and quotes. -/
def word? (word : Bytes) : Option Token :=
  if word = Utf8.encode "null" then some .null
  else if word = Utf8.encode "true" then some (.bool true)
  else if word = Utf8.encode "false" then some (.bool false)
  else number? word

/-- The byte that a single letter stands for behind a backslash. -/
def escaped? (letter : UInt8) : Option UInt8 :=
  if letter = quote ∨ letter = backslash ∨ letter = 0x2F then some letter
  else if letter = 0x62 then some 0x08
  else if letter = 0x66 then some 0x0C
  else if letter = 0x6E then some 0x0A
  else if letter = 0x72 then some 0x0D
  else if letter = 0x74 then some 0x09
  else none

/-- The value of a hexadecimal digit, of either case. -/
def hexDigit? (byte : UInt8) : Option UInt16 :=
  if 0x30 ≤ byte ∧ byte ≤ 0x39 then some (byte - 0x30).toUInt16
  else if 0x61 ≤ byte ∧ byte ≤ 0x66 then some (byte - 0x57).toUInt16
  else if 0x41 ≤ byte ∧ byte ≤ 0x46 then some (byte - 0x37).toUInt16
  else none

/-- The piece of an escaped code unit. -/
def pieceOfUnit (unit : UInt16) : Piece :=
  if h : 0x80 ≤ unit then .unit unit h else .byte unit.toUInt8

/-- Where in a text a byte stands: between tokens, in a word, or in a string, there possibly
behind a backslash or among the `owed` digits of an escape. What has been read of a word or a
string is kept in reverse. -/
inductive Place
  | between
  | word (read : Bytes)
  | string (read : List Piece)
  | escape (read : List Piece)
  | digits (read : List Piece) (owed : Nat) (unit : UInt16)

/-- The tokens of the rest of a text, for a byte at the given place. -/
def tokensFrom : Place → Bytes → Option (List Token)
  | .between, [] => some []
  | .word read, [] => (word? read.reverse).map ([·])
  | .string _, [] | .escape _, [] | .digits _ _ _, [] => none
  | .between, byte :: rest =>
    if isBlank byte then tokensFrom .between rest
    else if byte = quote then tokensFrom (.string []) rest
    else match punctuation? byte with
      | some token => (tokensFrom .between rest).map (token :: ·)
      | none => tokensFrom (.word [byte]) rest
  | .word read, byte :: rest =>
    if isBlank byte then do
      let token ← word? read.reverse
      return token :: (← tokensFrom .between rest)
    else if byte = quote then do
      let token ← word? read.reverse
      return token :: (← tokensFrom (.string []) rest)
    else match punctuation? byte with
      | some mark => do
        let token ← word? read.reverse
        return token :: mark :: (← tokensFrom .between rest)
      | none => tokensFrom (.word (byte :: read)) rest
  | .string read, byte :: rest =>
    if byte = quote then (tokensFrom .between rest).map (.string read.reverse :: ·)
    else if byte = backslash then tokensFrom (.escape read) rest
    else if byte < 0x20 then none
    else tokensFrom (.string (.byte byte :: read)) rest
  | .escape read, byte :: rest =>
    if byte = 0x75 then tokensFrom (.digits read 4 0) rest
    else match escaped? byte with
      | some byte => tokensFrom (.string (.byte byte :: read)) rest
      | none => none
  | .digits read owed unit, byte :: rest =>
    match hexDigit? byte with
    | none => none
    | some digit =>
      let unit := unit * 16 + digit
      if owed ≤ 1 then tokensFrom (.string (pieceOfUnit unit :: read)) rest
      else tokensFrom (.digits read (owed - 1) unit) rest

/-- The tokens of a text. -/
def tokens? (text : Bytes) : Option (List Token) := tokensFrom .between text

/-- A byte as two hexadecimal digits in lower case. -/
def hexBytes (byte : UInt8) : Bytes :=
  [byte / 16, byte % 16].map fun digit => if digit < 10 then 0x30 + digit else 0x57 + digit

/-- The written form of a byte of a string: quotes, backslashes and control characters are
escaped, with a letter if there is one. -/
def escapeByte (byte : UInt8) : Bytes :=
  if byte = quote ∨ byte = backslash then [backslash, byte]
  else if byte = 0x08 then [backslash, 0x62]
  else if byte = 0x0C then [backslash, 0x66]
  else if byte = 0x0A then [backslash, 0x6E]
  else if byte = 0x0D then [backslash, 0x72]
  else if byte = 0x09 then [backslash, 0x74]
  else if byte < 0x20 then [backslash, 0x75, 0x30, 0x30] ++ hexBytes byte
  else [byte]

/-- The written form of a piece of a string. -/
def Piece.written : Piece → Bytes
  | .byte b => escapeByte b
  | .unit u _ => [backslash, 0x75] ++ hexBytes (u / 256).toUInt8 ++ hexBytes (u % 256).toUInt8

/-- The written form of an integer. -/
def writtenInteger (value : Int) : Bytes :=
  if value < 0 then 0x2D :: Decimal.digits value.natAbs else Decimal.digits value.natAbs

/-- The written form of a token. -/
def Token.written : Token → Bytes
  | openArray => [0x5B]
  | closeArray => [0x5D]
  | openObject => [0x7B]
  | closeObject => [0x7D]
  | comma => [0x2C]
  | colon => [0x3A]
  | null => Utf8.encode "null"
  | bool true => Utf8.encode "true"
  | bool false => Utf8.encode "false"
  | integer value => writtenInteger value
  | real negative magnitude =>
    (if negative then [0x2D] else []) ++ Decimal.digits magnitude.significand.toNat ++ 0x65 ::
      writtenInteger magnitude.exponent
  | string pieces => quote :: pieces.flatMap Piece.written ++ [quote]

end NameRegistry.Json
