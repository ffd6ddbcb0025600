import NameRegistry.Json.Basic
/-!
Records in JSON. A record is an object with the names of its fields as keys, or an array of its
fields in order. Members of other names are passed over, but no field may occur twice.
-/
namespace NameRegistry.Json

def Value.text? : Value → Option String
  | string pieces => Json.text? pieces
  | _ => none

def Value.bool? : Value → Option Bool
  | bool value => some value
  | _ => none

/-- The integer of a value, within the given bounds. -/
def Value.integer? (low high : Int) : Value → Option Int
  | integer value => if low ≤ value ∧ value ≤ high then some value else none
  | _ => none

def Value.int64? (value : Value) : Option Int64 :=
  (value.integer? Int64.minValue.toInt Int64.maxValue.toInt).map Int64.ofInt

def Value.uint64? (value : Value) : Option UInt64 :=
  (value.integer? 0 18446744073709551615).map fun n => UInt64.ofNat n.toNat

def Value.byte? (value : Value) : Option UInt8 :=
  (value.integer? 0 255).map fun n => UInt8.ofNat n.toNat

def Value.list? {α : Type} (item? : Value → Option α) : Value → Option (List α)
  | array items => items.mapM item?
  | _ => none

/-- A value that `null` stands in for if it is not there. -/
def Value.option? {α : Type} (some? : Value → Option α) : Value → Option (Option α)
  | null => some none
  | value => (some? value).map some

/-- The members of an object with their keys as text. -/
def keyed? (members : List (List Piece × Value)) : Option (List (String × Value)) :=
  members.mapM fun member => do return (← Json.text? member.1, member.2)

/-- The values of a key, of which there may be at most one. -/
def only? (members : List (String × Value)) (name : String) : Option (Option Value) :=
  match members.filter fun member => member.1 = name with
  | [] => some none
  | [member] => some (some member.2)
  | _ => none

/-- The fields of a record in the order of their names; `none` stands for one that is missing. -/
def Value.fields? (names : List String) : Value → Option (List (Option Value))
  | object members => do
    let members ← keyed? members
    names.mapM (only? members)
  | array items => if items.length = names.length then some (items.map some) else none
  | _ => none

/-- The fields of a record that may not have members of other names. -/
def Value.exactFields? (names : List String) (value : Value) :
    Option (List (Option Value)) := do
  if let object members := value then
    let members ← keyed? members
    if members.any fun member => !names.contains member.1 then none
  value.fields? names

/-- A field that has to be there. -/
def required {α : Type} (read? : Value → Option α) (field : Option Value) : Option α :=
  field.bind read?

/-- A field that may be missing, or `null`. -/
def optional {α : Type} (read? : Value → Option α) : Option Value → Option (Option α)
  | none => some none
  | some value => value.option? read?

/-- The name of a choice without data: a string, or an object with `null` under that name. -/
def Value.choice? : Value → Option String
  | string pieces => Json.text? pieces
  | object [(key, null)] => Json.text? key
  | _ => none

/-- The name and the data of a choice: an object with one member. -/
def Value.variant? : Value → Option (String × Value)
  | object [(key, value)] => do return (← Json.text? key, value)
  | _ => none

def Value.ofText (text : String) : Value := string (pieces text)

/-- Bytes as a value: the list of their numbers. -/
def Value.ofByteList (bytes : Bytes) : Value := array (bytes.map fun byte => integer byte.toNat)

def Value.ofOption {α : Type} (write : α → Value) : Option α → Value
  | none => null
  | some value => write value

def Value.record (fields : List (String × Value)) : Value :=
  object (fields.map fun field => (pieces field.1, field.2))

end NameRegistry.Json
