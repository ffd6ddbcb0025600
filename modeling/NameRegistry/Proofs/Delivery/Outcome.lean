import NameRegistry.Proofs.Delivery.Direct

namespace NameRegistry

/-- The stores that deliveries lead to from the empty one, under one usable configuration. Each
delivery has a block and a collector of fees of its own, and may fail. -/
inductive Delivered (language : PatternLanguage) (config : Config) : Store → Prop
  | empty : Delivered language config ∅
  | deliver {store : Store} {collectFee : Context → Message → Address → Except Error Unit}
      {environment : Environment} (context : Context) (message : Message) :
      Delivered language config store →
      Environment.fixed language config collectFee = .ok environment → message.action.Fits →
      Delivered language config (environment.deliver context message store).store

theorem Delivered.reachable {language : PatternLanguage} {config : Config} {store : Store}
    (h : Delivered language config store) : Reachable store := by
  induction h with
  | empty => exact .empty
  | deliver context message _ _ hmessage ih => exact ih.deliver _ context message hmessage

namespace Environment

variable {language : PatternLanguage} {config : Config}
  {collectFee : Context → Message → Address → Except Error Unit} {environment : Environment}
  {store : Store} {records : Records}

theorem situation_of_fixed (hfixed : fixed language config collectFee = .ok environment)
    (context : Context) (store : Store) :
    environment.situation context store = ⟨language, config, context, store⟩ := by
  obtain ⟨_, rfl⟩ := fixed_eq_ok hfixed
  rfl

theorem configuration_of_fixed (hfixed : fixed language config collectFee = .ok environment)
    (context : Context) : environment.configuration context = config := by
  obtain ⟨_, rfl⟩ := fixed_eq_ok hfixed
  rfl

theorem charge_of_fixed (hfixed : fixed language config collectFee = .ok environment)
    (context : Context) (message : Message) :
    (environment.charge context message).1 =
      (collectFee context message message.payer).mapError fun error =>
        error.context s!"collecting {message.route} fee from {message.payer}" := by
  obtain ⟨_, rfl⟩ := fixed_eq_ok hfixed
  rfl

theorem result_deliver_eq (hfixed : fixed language config collectFee = .ok environment)
    (h : Consistent store records) (context : Context) {message : Message}
    (hmessage : message.action.Fits) :
    (environment.deliver context message store).result = (do
      let _ ← Decision.onMessage (environment.situation context store) message
      (environment.charge context message).1) := by
  rw [result_deliver, dispatch]
  cases hdecision : Decision.onMessage (environment.situation context store) message with
  | error failure => rfl
  | ok change =>
      obtain ⟨_ | _, charges⟩ := environment.charge context message
      · rfl
      · obtain ⟨_, after, happly, _⟩ := apply_of_onMessage hfixed h context hmessage hdecision
        dsimp only
        rw [happly]
        rfl

theorem charges_deliver_of_ok {context : Context} {message : Message} {change : Change}
    (h : Decision.onMessage (environment.situation context store) message = .ok change) :
    (environment.deliver context message store).charges =
      (environment.charge context message).2 := by
  rw [charges_deliver, dispatch, h]
  dsimp only
  obtain ⟨_ | _, charges⟩ := environment.charge context message
  · rfl
  · dsimp only
    cases change.apply store <;> rfl

theorem charges_deliver_of_error {context : Context} {message : Message} {failure : Failure}
    (h : Decision.onMessage (environment.situation context store) message = .error failure) :
    (environment.deliver context message store).charges = [] := by
  rw [charges_deliver, dispatch, h]

end Environment

namespace Sample

theorem delivered_deliverAll (context : Context) {messages : List Message} {store : Store}
    (h : Delivered Pattern.language Config.testing store)
    (hmessages : ∀ message ∈ messages, message.action.Fits) :
    Delivered Pattern.language Config.testing (deliverAll context messages store) := by
  induction messages generalizing store with
  | nil => exact h
  | cons message rest ih =>
      obtain ⟨hmessage, hrest⟩ := List.forall_mem_cons.mp hmessages
      exact ih (h.deliver context message fixed_ledger hmessage) hrest

/-- A ledger that charges nothing, with the given configuration. -/
def ledgerUnder (config : Config) : Environment :=
  ⟨Pattern.language, fun _ => config, fun _ => Environment.owns config, Environment.noFees⟩

theorem fixed_ledgerUnder {config : Config} (h : config.validate Pattern.language = .ok ()) :
    Environment.fixed Pattern.language config Environment.noFees =
      .ok (ledgerUnder config) := by
  rw [Environment.fixed, h]
  rfl

theorem delivered_store : Delivered Pattern.language Config.testing store :=
  delivered_deliverAll (block 100) .empty (by decide)

end Sample

end NameRegistry
