import NameRegistry.Json.Message
import NameRegistry.Proofs.Json.Reader
import NameRegistry.Proofs.Json.Records

namespace NameRegistry

open Json

@[simp] theorem TransferFlag.ofJson?_ofText (flag : TransferFlag) :
    ofJson? (.ofText flag.name) = some flag := by
  rw [ofJson?, Value.ofText, Value.choice?, text?_pieces]
  cases flag <;> decide

namespace Json.Value

@[simp] theorem variant?_record (key : String) (value : Value) :
    (record [(key, value)]).variant? = some (key, value) := by
  rw [record, List.map_singleton, variant?, text?_pieces]
  rfl

@[simp] theorem bool?_bool (value : Bool) : (bool value).bool? = some value := rfl

end Json.Value

namespace Message

/-- The fields of a message, with the payer of the fee behind the others. -/
def fieldsJson (message : Message) : List (String × Value) :=
  message.keyAndFields.2 ++ [("fee_payer", .ofOption Address.toJson message.feePayer)]

theorem toJson_eq_record (message : Message) :
    message.toJson = .record [(message.keyAndFields.1, .record message.fieldsJson)] := rfl

theorem nodup_fieldsJson (message : Message) : (message.fieldsJson.map Prod.fst).Nodup := by
  obtain ⟨signer, feePayer, action⟩ := message
  cases action with
  | domain name action => cases action <;> simp [fieldsJson, keyAndFields]
  | account domain name action => cases action <;> simp [fieldsJson, keyAndFields]

theorem fields?_fieldsJson (message : Message) :
    (Value.record message.fieldsJson).fields? (message.fieldsJson.map Prod.fst) =
      some (message.fieldsJson.map fun field => some field.2) :=
  Value.fields?_record message.nodup_fieldsJson rfl

section Actions

variable (signer : Address) (feePayer : Option Address)

-- The reader asks for the fields by the names that the writer gives them, in the same order; with
-- the fields in hand, each of them is read from what it is written as.
theorem domainMessage?_fieldsJson (name : String) (action : DomainAction) :
    domainMessage? (keyAndFields ⟨signer, feePayer, .domain name action⟩).1
        (.record (fieldsJson ⟨signer, feePayer, .domain name action⟩)) =
      some ⟨signer, feePayer, .domain name action⟩ := by
  have hfields := fields?_fieldsJson ⟨signer, feePayer, .domain name action⟩
  cases action
  all_goals
    simp only [fieldsJson, keyAndFields, List.cons_append, List.nil_append, List.map_cons,
      List.map_nil] at hfields ⊢
    simp [domainMessage?, hfields, ofDomainFields, required_some]

theorem accountMessage?_fieldsJson (domain name : String) (action : AccountAction) :
    accountMessage? (keyAndFields ⟨signer, feePayer, .account domain name action⟩).1
        (.record (fieldsJson ⟨signer, feePayer, .account domain name action⟩)) =
      some ⟨signer, feePayer, .account domain name action⟩ := by
  have hfields := fields?_fieldsJson ⟨signer, feePayer, .account domain name action⟩
  cases action
  all_goals
    simp only [fieldsJson, keyAndFields, List.cons_append, List.nil_append, List.map_cons,
      List.map_nil] at hfields ⊢
    simp [accountMessage?, hfields, ofAccountFields, required_some,
      Value.list?_map Target.ofJson?_toJson]

theorem domainMessage?_account (domain name : String) (action : AccountAction) (value : Value) :
    domainMessage? (keyAndFields ⟨signer, feePayer, .account domain name action⟩).1 value =
      none := by
  cases action <;> simp [keyAndFields, domainMessage?]

end Actions

theorem ofJson?_record (key : String) (value : Value) :
    ofJson? (.record [(key, value)]) =
      (domainMessage? key value).or (accountMessage? key value) := by
  rw [ofJson?, Value.variant?_record]
  rfl

theorem ofJson?_toJson (message : Message) : ofJson? message.toJson = some message := by
  rw [toJson_eq_record, ofJson?_record]
  obtain ⟨signer, feePayer, action⟩ := message
  cases action with
  | domain name action => rw [domainMessage?_fieldsJson, Option.some_or]
  | account domain name action =>
      rw [domainMessage?_account, Option.none_or, accountMessage?_fieldsJson]

/-- Whatever a message asks for, and whatever its texts, addresses, targets and certificates are, it
is read from its JSON text: what is read is the message, with its route, its signer and the payer of
its fee. -/
theorem text_round_trip (message : Message) :
    ∃ read, (Value.ofBytes? message.toJson.compact).bind ofJson? = some read ∧ read = message ∧
      read.route = message.route ∧ read.signer = message.signer ∧
        read.payer = message.payer := by
  refine ⟨message, ?_, rfl, rfl, rfl, rfl⟩
  rw [Value.ofBytes?_compact, Option.bind_some, ofJson?_toJson]

end Message

end NameRegistry
