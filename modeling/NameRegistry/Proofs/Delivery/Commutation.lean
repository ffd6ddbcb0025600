import NameRegistry.Proofs.Delivery.Locality
import NameRegistry.Proofs.Delivery.Outcome
import NameRegistry.Proofs.Registry.Cascade

namespace NameRegistry

/-- The change that comes of a message: the one that it is granted, if it is paid for. -/
def Environment.agreed (environment : Environment) (context : Context) (message : Message)
    (store : Store) : Except Failure Change := do
  let change ← Decision.onMessage (environment.situation context store) message
  (environment.charge context message).1
  return change

/-- The records that what comes of a message leaves. -/
def Records.after (records : Records) : Except Failure Change → Records
  | .ok change => change.onRecords records
  | .error _ => records

namespace Environment

variable {language : PatternLanguage} {config : Config}
  {collectFee : Context → Message → Address → Except Error Unit} {environment : Environment}
  {context : Context} {message : Message} {store store' : Store} {records records' : Records}

theorem onMessage_of_agreed {change : Change}
    (h : environment.agreed context message store = .ok change) :
    Decision.onMessage (environment.situation context store) message = .ok change := by
  obtain ⟨_, hdecision, hcharged⟩ := bind_eq_ok_iff.mp h
  obtain ⟨_, _, hchange⟩ := bind_eq_ok_iff.mp hcharged
  obtain rfl := Except.ok.inj hchange
  exact hdecision

theorem result_deliver_eq_agreed (hfixed : fixed language config collectFee = .ok environment)
    (h : Consistent store records) (context : Context) (hmessage : message.action.Fits) :
    (environment.deliver context message store).result =
      (environment.agreed context message store).map fun _ => () := by
  rw [result_deliver_eq hfixed h context hmessage, agreed]
  cases Decision.onMessage (environment.situation context store) message with
  | error failure => rfl
  | ok change =>
      cases (environment.charge context message).1 with
      | error error => rfl
      | ok _ => rfl

theorem consistent_deliver (hfixed : fixed language config collectFee = .ok environment)
    (h : Consistent store records) (context : Context) (hmessage : message.action.Fits) :
    Consistent (environment.deliver context message store).store
      (records.after (environment.agreed context message store)) := by
  have hresult := result_deliver_eq_agreed hfixed h context hmessage
  cases hagreed : environment.agreed context message store with
  | error failure =>
      rw [hagreed, result_deliver] at hresult
      rw [environment.store_deliver_of_error context message store (by rw [hresult]; exact nofun)]
      exact h
  | ok change =>
      rw [hagreed] at hresult
      have hdecision := onMessage_of_agreed hagreed
      obtain ⟨change', hdecision', happly⟩ := deliver_ok hresult
      obtain rfl := Except.ok.inj (hdecision.symm.trans hdecision')
      obtain ⟨_, after, happly', hafter⟩ := apply_of_onMessage hfixed h context hmessage hdecision
      obtain ⟨rfl⟩ := happly.symm.trans happly'
      exact hafter

theorem agreed_congr (h : Consistent store records) (h' : Consistent store' records')
    (hplain : Plain message.action.domainName)
    (hagree : Records.AgreeAt message.action.domainName records records') :
    environment.agreed context message store = environment.agreed context message store' := by
  have hdomain : Registry.domain? store message.action.domainName =
      Registry.domain? store' message.action.domainName := by
    rw [h.holds.domain?_eq h.sound, h'.holds.domain?_eq h'.sound, hagree.domain]
  have haccount (name : String) : Registry.account? store message.action.domainName name =
      Registry.account? store' message.action.domainName name := by
    rw [h.holds.account?_eq h.sound hplain, h'.holds.account?_eq h'.sound hplain, hagree.account]
  have hdecision : Decision.onMessage (environment.situation context store) message =
      Decision.onMessage (environment.situation context store') message :=
    Decision.onMessage_congr hdomain haccount
  rw [agreed, agreed, hdecision]

theorem agreeAt_after_of_ne (h : Consistent store records)
    (hplain : Plain message.action.domainName) {name : String}
    (hname : name ≠ message.action.domainName) (records' : Records) :
    Records.AgreeAt name (records'.after (environment.agreed context message store)) records' := by
  cases hagreed : environment.agreed context message store with
  | error failure => exact .refl name records'
  | ok change =>
      have hgranted :=
        Decision.granted_of_onMessage h.holds h.sound (onMessage_of_agreed hagreed)
      exact change.agreeAt_of_ne (hgranted.within h.sound hplain) hname records'

end Environment

namespace Records

variable {name : String} {records records' : Records} {agreed agreed' : Except Failure Change}

theorem agreeAt_after (agreed : Except Failure Change) (h : AgreeAt name records records') :
    AgreeAt name (records.after agreed) (records'.after agreed) := by
  cases agreed with
  | error failure => exact h
  | ok change => exact change.agreeAt_onRecords h

theorem agreeAt_after_comm (h : ∀ records : Records, AgreeAt name (records.after agreed') records) :
    AgreeAt name ((records.after agreed).after agreed') ((records.after agreed').after agreed) :=
  (h (records.after agreed)).trans (agreeAt_after agreed (h records)).symm

end Records

/-- Two messages about domains of different plain names come to the same in either order: each of
them ends as it would without the other, and the store is the same after both. -/
theorem Reachable.deliver_comm {store : Store} (h : Reachable store)
    {language : PatternLanguage} {config : Config}
    {collectFee : Context → Message → Address → Except Error Unit} {environment : Environment}
    (hfixed : Environment.fixed language config collectFee = .ok environment)
    (context context' : Context) (message message' : Message)
    (hmessage : message.action.Fits) (hmessage' : message'.action.Fits)
    (hplain : '*' ∉ message.action.domainName.toList)
    (hplain' : '*' ∉ message'.action.domainName.toList)
    (hne : message.action.domainName ≠ message'.action.domainName) :
    let first := environment.deliver context message store
    let first' := environment.deliver context' message' store
    (environment.deliver context message first'.store).result = first.result ∧
      (environment.deliver context' message' first.store).result = first'.result ∧
      (environment.deliver context' message' first.store).store =
        (environment.deliver context message first'.store).store := by
  intro first first'
  obtain ⟨records, hconsistent⟩ := h.consistent
  replace hplain := plain_of_notMem hplain
  replace hplain' := plain_of_notMem hplain'
  let agreed := environment.agreed context message store
  let agreed' := environment.agreed context' message' store
  have hapart {name : String} (hname : name ≠ message.action.domainName) (records : Records) :
      Records.AgreeAt name (records.after agreed) records :=
    Environment.agreeAt_after_of_ne hconsistent hplain hname records
  have hapart' {name : String} (hname : name ≠ message'.action.domainName) (records : Records) :
      Records.AgreeAt name (records.after agreed') records :=
    Environment.agreeAt_after_of_ne hconsistent hplain' hname records
  have hfirst : Consistent first.store (records.after agreed) :=
    Environment.consistent_deliver hfixed hconsistent context hmessage
  have hfirst' : Consistent first'.store (records.after agreed') :=
    Environment.consistent_deliver hfixed hconsistent context' hmessage'
  -- Each message finds its own domain as it was before the other.
  have hsame : environment.agreed context message first'.store = agreed :=
    Environment.agreed_congr hfirst' hconsistent hplain (hapart' hne records)
  have hsame' : environment.agreed context' message' first.store = agreed' :=
    Environment.agreed_congr hfirst hconsistent hplain' (hapart hne.symm records)
  have hlast := Environment.consistent_deliver hfixed hfirst' context hmessage
  have hlast' := Environment.consistent_deliver hfixed hfirst context' hmessage'
  rw [hsame] at hlast
  rw [hsame'] at hlast'
  have hrecords : (records.after agreed).after agreed' = (records.after agreed').after agreed := by
    apply Records.eq_of_agreeAt
    intro name
    by_cases hname : name = message.action.domainName
    · exact Records.agreeAt_after_comm (hapart' (hname ▸ hne))
    · exact (Records.agreeAt_after_comm (hapart hname)).symm
  refine ⟨?_, ?_, ?_⟩
  · rw [Environment.result_deliver_eq_agreed hfixed hfirst' context hmessage, hsame,
      Environment.result_deliver_eq_agreed hfixed hconsistent context hmessage]
  · rw [Environment.result_deliver_eq_agreed hfixed hfirst context' hmessage', hsame',
      Environment.result_deliver_eq_agreed hfixed hconsistent context' hmessage']
  · rw [hrecords] at hlast'
    exact Layout.store_eq hlast'.holds hlast.holds

/-- Alice deletes her domain with Bob's account in it, and Bob registers an account of the same name
and with the same target in his, whose name begins with that of hers. -/
theorem deliver_comm_sample :
    let message : Message := ⟨Sample.alice, none, .domain "bank" .delete⟩
    let message' : Message :=
      ⟨Sample.bob, none, .account "banker" "teller" (.register Sample.bob [⟨"iov", "abc"⟩] none)⟩
    let first := Sample.ledger.deliver (Sample.block 200) message Sample.neighbours
    let first' := Sample.ledger.deliver (Sample.block 300) message' Sample.neighbours
    let last := Sample.ledger.deliver (Sample.block 200) message first'.store
    let last' := Sample.ledger.deliver (Sample.block 300) message' first.store
    last.result = .ok () ∧ last'.result = .ok () ∧ last'.store = last.store ∧
      last.store.size = 7 := by
  intro message message' first first' last last'
  obtain ⟨hresult, hresult', hstore⟩ := Reachable.deliver_comm Sample.reachable_neighbours
    Sample.fixed_ledger (Sample.block 200) (Sample.block 300) message message' (by decide)
    (by decide) (by decide) (by decide) (by decide)
  have hfirst : first.result = .ok () := by decide +kernel
  have hfirst' : first'.result = .ok () := by decide +kernel
  exact ⟨hresult.trans hfirst, hresult'.trans hfirst', hstore, by decide +kernel⟩

end NameRegistry
