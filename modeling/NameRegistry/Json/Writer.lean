import NameRegistry.Json.Token
/-!
Writing JSON texts, without any blanks or laid out over lines.
-/
namespace NameRegistry.Json

mutual

/-- The tokens of a value. -/
def Value.tokens : Value → List Token
  | null => [.null]
  | bool value => [.bool value]
  | integer value => [.integer value]
  | real negative magnitude => [.real negative magnitude]
  | string pieces => [.string pieces]
  | array [] => [.openArray, .closeArray]
  | array (item :: rest) => .openArray :: (item.tokens ++ itemTokens rest)
  | object [] => [.openObject, .closeObject]
  | object ((key, value) :: rest) =>
    .openObject :: .string key :: .colon :: (value.tokens ++ memberTokens rest)

/-- The tokens of the items behind the first, up to the end of the array. -/
def Value.itemTokens : List Value → List Token
  | [] => [.closeArray]
  | item :: rest => .comma :: (item.tokens ++ itemTokens rest)

/-- The tokens of the members behind the first, up to the end of the object. -/
def Value.memberTokens : List (List Piece × Value) → List Token
  | [] => [.closeObject]
  | (key, value) :: rest =>
    .comma :: .string key :: .colon :: (value.tokens ++ memberTokens rest)

end

/-- A value without blanks. -/
def Value.compact (value : Value) : Bytes := value.tokens.flatMap Token.written

/-- A new line at the given depth. -/
def newLine (depth : Nat) : Bytes := 0x0A :: List.replicate (2 * depth) 0x20

/-- How far a token moves what follows it to the right. -/
def Token.depthAfter (depth : Nat) : Token → Nat
  | openArray | openObject => depth + 1
  | closeArray | closeObject => depth - 1
  | _ => depth

/-- The blanks between two tokens, where the first leaves the given depth: every item and member
has a line of its own, as has the end of what is not empty. -/
def gap (depth : Nat) : Token → Token → Bytes
  | .openArray, .closeArray => []
  | .openObject, .closeObject => []
  | _, .closeArray => newLine (depth - 1)
  | _, .closeObject => newLine (depth - 1)
  | .openArray, _ => newLine depth
  | .openObject, _ => newLine depth
  | .comma, _ => newLine depth
  | .colon, _ => [0x20]
  | _, _ => []

/-- The tokens behind the given one, laid out over lines. -/
def laidOut (depth : Nat) (previous : Token) : List Token → Bytes
  | [] => []
  | token :: rest =>
    gap depth previous token ++ token.written ++ laidOut (token.depthAfter depth) token rest

/-- A value laid out over lines, two spaces for each level. -/
def Value.pretty (value : Value) : Bytes :=
  match value.tokens with
  | [] => []
  | first :: rest => first.written ++ laidOut (first.depthAfter 0) first rest

end NameRegistry.Json
