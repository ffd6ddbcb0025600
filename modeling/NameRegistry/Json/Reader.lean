import NameRegistry.Json.Token
/-!
Reading JSON texts. The tokens drive a machine that keeps the arrays and objects which are still
open; a text is read if the machine ends with one complete value.
-/
namespace NameRegistry.Json

/-- The members of an object. -/
abbrev Members := List (List Piece × Value)

/-- An array or object that is open around a value: what it has so far, in reverse, and for an
object the key of the value. -/
inductive Frame
  | item (items : List Value)
  | member (members : Members) (key : List Piece)

/-- What is expected next. -/
inductive State
  | atValue (above : List Frame)
  | atItemOrEnd (above : List Frame)
  | atKeyOrEnd (above : List Frame)
  | atKey (members : Members) (above : List Frame)
  | atColon (members : Members) (key : List Piece) (above : List Frame)
  | afterItem (items : List Value) (above : List Frame)
  | afterMember (members : Members) (above : List Frame)
  | complete (value : Value)

/-- The state after a value within the given arrays and objects. -/
def State.deliver (value : Value) : List Frame → State
  | [] => complete value
  | .item items :: above => afterItem (value :: items) above
  | .member members key :: above => afterMember ((key, value) :: members) above

/-- The state after the first token of a value. -/
def State.begin (above : List Frame) : Token → Option State
  | .openArray => some (atItemOrEnd above)
  | .openObject => some (atKeyOrEnd above)
  | .null => some (deliver .null above)
  | .bool value => some (deliver (.bool value) above)
  | .integer value => some (deliver (.integer value) above)
  | .real negative magnitude => some (deliver (.real negative magnitude) above)
  | .string pieces => some (deliver (.string pieces) above)
  | .closeArray | .closeObject | .comma | .colon => none

/-- The state after one more token. -/
def State.next : State → Token → Option State
  | atValue above, token => begin above token
  | atItemOrEnd above, .closeArray => some (deliver (.array []) above)
  | atItemOrEnd above, token => begin (.item [] :: above) token
  | atKeyOrEnd above, .closeObject => some (deliver (.object []) above)
  | atKeyOrEnd above, .string key => some (atColon [] key above)
  | atKey members above, .string key => some (atColon members key above)
  | atColon members key above, .colon => some (atValue (.member members key :: above))
  | afterItem items above, .comma => some (atValue (.item items :: above))
  | afterItem items above, .closeArray => some (deliver (.array items.reverse) above)
  | afterMember members above, .comma => some (atKey members above)
  | afterMember members above, .closeObject => some (deliver (.object members.reverse) above)
  | _, _ => none

/-- The state after all the tokens. -/
def State.run (state : State) : List Token → Option State
  | [] => some state
  | token :: rest => do (← state.next token).run rest

def Value.ofTokens? (tokens : List Token) : Option Value := do
  match ← (State.atValue []).run tokens with
  | .complete value => return value
  | _ => none

def Value.ofBytes? (text : Bytes) : Option Value := do Value.ofTokens? (← tokens? text)

end NameRegistry.Json
