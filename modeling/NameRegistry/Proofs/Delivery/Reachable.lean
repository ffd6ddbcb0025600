import NameRegistry.Pattern.Reader
import NameRegistry.Proofs.Delivery.Atomicity
import NameRegistry.Proofs.Delivery.Decision
/-!
The stores that deliveries lead to. Each of them holds sound and linked records
(`Reachable.consistent`), since a delivery that goes through makes a change that was granted, and
any other delivery leaves the store as it was (`Environment.deliver_cases`).
-/
namespace NameRegistry

/-- Whether the names in an action have fewer than `2 ^ 64` bytes, as all texts in memory do. -/
def Action.Fits : Action → Prop
  | domain name _ => TextFits name
  | account domainName name _ => TextFits domainName ∧ TextFits name

instance : (action : Action) → Decidable action.Fits
  | .domain name _ => inferInstanceAs (Decidable (TextFits name))
  | .account domainName name _ =>
      inferInstanceAs (Decidable (TextFits domainName ∧ TextFits name))

/-- The stores that deliveries lead to from the empty one, each with an environment and a block of
its own. -/
inductive Reachable : Store → Prop
  | empty : Reachable ∅
  | deliver {store : Store} (environment : Environment) (context : Context) (message : Message) :
      Reachable store → message.action.Fits →
      Reachable (environment.deliver context message store).store

/-- Whether a store holds the records, which are sound and linked. -/
structure Consistent (store : Store) (records : Records) : Prop where
  holds : Holds store records
  sound : records.Sound
  linked : records.Linked

theorem Registry.exists_account?_eq (domainName name : String) :
    ∃ domainName' name', ∀ {store : Store} {records : Records}, Consistent store records →
      account? store domainName name = .ok (records.account? domainName' name') := by
  obtain ⟨domainName', name', hplain, hobject⟩ := Key.exists_plain_object domainName name
  exact ⟨domainName', name', fun h => h.holds.account?_of_object h.sound hplain hobject⟩

namespace Decision

variable {situation : Situation Store} {records : Records} {signer : Address}

theorem plain_of_isValidName {language : PatternLanguage} {config : Config} {name : String}
    (h : DomainGuard.isValidName language config name = .ok true) : Plain name := by
  intro hseparator
  rw [DomainGuard.isValidName, if_pos (List.contains_iff_mem.mpr hseparator)] at h
  cases h

theorem valid_newDomain {name : String} (hfits : TextFits name) (hsigner : signer ≠ Address.empty)
    (hname : DomainGuard.isValidName situation.language situation.config name = .ok true)
    (domainType : DomainType) (broker : Option Address) :
    (newDomain situation name signer domainType broker).Valid := by
  have hrenewal := wholeSeconds_nonneg situation.config.domainRenewal
  have hvalidUntil := le_addSeconds (a := situation.context.now) hrenewal
  rw [Context.toInt_now] at hvalidUntil
  exact ⟨plain_of_isValidName hname, hfits, hsigner,
    Int.le_trans situation.context.in_calendar.1 hvalidUntil⟩

theorem valid_registered {domain : Domain} (hvalid : domain.Valid) {name : String}
    (hfits : TextFits name) {owner : Address} (howner : owner ≠ Address.empty) (validUntil : Int64)
    {targets : List Target} {limit : UInt64} (hcount : targets.length ≤ limit.toNat)
    {language : PatternLanguage} {validity : Validity}
    (htargets : AccountGuard.checkTargets language validity [] targets = .ok ())
    (broker : Option Address) :
    { Account.plain domain.name name owner validUntil with
      targets := targets, broker := broker }.Valid := by
  have hpositive : 0 < Binary.lengthBound := by decide
  obtain ⟨hvalidTargets, hdistinct⟩ := AccountGuard.checkTargets_eq_ok_iff.mp htargets
  have hpackable (target : Target) (htarget : target ∈ targets) : target.Packable :=
    (hvalidTargets target htarget).2.2.1
  refine ⟨hvalid.plain, ?_, howner, hpackable, hdistinct, nofun, .nil⟩
  exact ⟨hvalid.fits, hfits, Nat.lt_of_le_of_lt hcount (UInt64.toNat_lt _),
    fun target htarget => (hpackable target htarget).fits, hpositive, nofun, hpositive⟩

theorem Granted.fits {action : Action} {change : Change}
    (h : Granted situation records signer action change) (hsound : records.Sound)
    (haction : action.Fits) : change.Fits records := by
  cases h with
  | registerDomain hsigner hnew hname =>
      exact ⟨valid_newDomain haction hsigner hname _ _, hnew, rfl⟩
  | renewDomain hfound =>
      obtain ⟨rfl, hvalid⟩ := hsound.domains hfound
      refine ⟨{ hvalid with validUntil := ?_ }, _, hfound, rfl⟩
      exact Int.le_trans hvalid.validUntil (le_addSeconds (wholeSeconds_nonneg _))
  | deleteDomain hfound => exact ⟨_, hfound⟩
  | transferDomain hnewAdmin hfound =>
      obtain ⟨rfl, _⟩ := hsound.domains hfound
      exact ⟨hfound, hnewAdmin⟩
  | flushDomain hfound => exact ⟨_, hfound⟩
  | registerAccount howner hfound _ _ hnew _ hcount htargets =>
      obtain ⟨rfl, hvalid⟩ := hsound.domains hfound
      exact ⟨valid_registered hvalid haction.2 howner _ hcount htargets _, hnew, _, hfound⟩
  | renewAccount _ hfound =>
      obtain ⟨rfl, rfl, _⟩ := hsound.accounts hfound
      exact ⟨_, hfound, rfl⟩
  | deleteAccount hdomain hroot => exact ⟨hroot, _, hdomain⟩
  | transferAccount hnewOwner _ hroot hfound =>
      obtain ⟨rfl, rfl, _⟩ := hsound.accounts hfound
      exact ⟨hfound, hroot, hnewOwner⟩
  | addCertificate hfound _ _ _ _ hnew hcount =>
      exact ⟨hfound, hnew, Nat.lt_of_le_of_lt hcount (UInt64.toNat_lt _)⟩
  | deleteCertificate hfound _ _ hposition =>
      rw [List.idxOf?_eq_some_iff] at hposition
      obtain ⟨hlt, _⟩ := hposition
      exact ⟨hfound, hlt⟩
  | replaceTargets _ hfound _ hcount htargets =>
      obtain ⟨rfl, rfl, _⟩ := hsound.accounts hfound
      obtain ⟨hvalid, hdistinct⟩ := AccountGuard.checkTargets_eq_ok_iff.mp htargets
      exact ⟨hfound, fun target htarget => (hvalid target htarget).2.2.1, hdistinct,
        Nat.lt_of_le_of_lt hcount (UInt64.toNat_lt _)⟩
  | replaceMetadata hfound _ _ hsize =>
      exact ⟨hfound, Nat.lt_of_le_of_lt hsize (UInt64.toNat_lt _)⟩

end Decision

namespace Environment

variable {environment : Environment} {context : Context} {message : Message} {store : Store}

theorem deliver_ok (h : (environment.deliver context message store).result = .ok ()) :
    ∃ change, Decision.onMessage (environment.situation context store) message = .ok change ∧
      change.apply store = .ok () (environment.deliver context message store).store := by
  rw [result_deliver] at h
  rw [store_deliver_of_ok environment context message store h]
  rw [dispatch] at h ⊢
  cases hdecision : Decision.onMessage (environment.situation context store) message with
  | error failure =>
      rw [hdecision] at h
      cases h
  | ok change =>
      rw [hdecision] at h
      refine ⟨change, rfl, ?_⟩
      dsimp only at h ⊢
      rcases hcharge : environment.charge context message with ⟨_ | _, charges⟩
      · rw [hcharge] at h
        cases h
      · rw [hcharge] at h
        cases happly : change.apply store with
        | error failure after =>
            rw [happly] at h
            cases h
        | ok _ after => rfl

/-- On consistent records a delivery either makes a granted change to them or leaves everything as
it was. -/
theorem deliver_cases {records : Records} (h : Consistent store records)
    (hmessage : message.action.Fits) (environment : Environment) (context : Context) :
    (∃ change, Decision.Granted (environment.situation context store) records message.signer
        message.action change ∧
      Consistent (environment.deliver context message store).store (change.onRecords records)) ∨
    (environment.deliver context message store).result ≠ .ok () ∧
      (environment.deliver context message store).store = store := by
  by_cases hresult : (environment.deliver context message store).result = .ok ()
  · left
    obtain ⟨change, hdecision, happly⟩ := deliver_ok hresult
    have hgranted := Decision.granted_of_onMessage h.holds h.sound hdecision
    have hfits := hgranted.fits h.sound hmessage
    refine ⟨change, hgranted, ?_⟩
    by_cases hindexable : change.Indexable
    · obtain ⟨after, happly', hholds⟩ :=
        Change.reaches_apply h.holds h.sound h.linked hfits hindexable
      obtain ⟨rfl⟩ := happly.symm.trans happly'
      exact ⟨hholds, Change.sound_onRecords h.sound h.linked hfits hindexable,
        Change.linked_onRecords h.linked hfits⟩
    -- The one change that is granted and yet fails is never part of a delivery that goes through.
    · obtain ⟨error, after, hfails⟩ := Change.apply_of_not_indexable hindexable store
      cases happly.symm.trans hfails
  · right
    refine ⟨hresult, store_deliver_of_error environment context message store ?_⟩
    rw [← result_deliver]
    exact hresult

theorem granted_of_accepted {records : Records} (h : Consistent store records)
    (haccepted : (environment.deliver context message store).result = .ok ())
    (hmessage : message.action.Fits) :
    ∃ change, Decision.Granted (environment.situation context store) records message.signer
        message.action change ∧
      Consistent (environment.deliver context message store).store (change.onRecords records) := by
  rcases deliver_cases h hmessage environment context with hgranted | ⟨hrefused, _⟩
  · exact hgranted
  · exact absurd haccepted hrefused

end Environment

theorem Reachable.consistent {store : Store} (h : Reachable store) :
    ∃ records, Consistent store records := by
  induction h with
  | empty => exact ⟨Records.empty, holds_empty, Records.Sound.empty, nofun, nofun⟩
  | deliver environment context message _ hmessage ih =>
      obtain ⟨records, hconsistent⟩ := ih
      rcases Environment.deliver_cases hconsistent hmessage environment context with
        ⟨change, _, hafter⟩ | ⟨_, hsame⟩
      · exact ⟨change.onRecords records, hafter⟩
      · rw [hsame]
        exact ⟨records, hconsistent⟩

namespace Sample

/-- A ledger that charges nothing, with the configuration for tests. -/
def ledger : Environment :=
  ⟨Pattern.language, fun _ => Config.testing, fun _ => Environment.owns Config.testing,
    Environment.noFees⟩

def alice : Address := ⟨List.replicate 20 1, rfl⟩

def bob : Address := ⟨List.replicate 20 2, rfl⟩

/-- The block of the given second. -/
def block (second : Int64) : Context := .atSecond second

/-- Alice registers a closed domain. -/
def registerBank : Message := ⟨alice, none, .domain "bank" (.register .closed none)⟩

/-- Alice registers an account of her domain for Bob. -/
def registerTeller : Message :=
  ⟨alice, none, .account "bank" "teller" (.register bob [⟨"iov", "abc"⟩] none)⟩

/-- Bob adds a certificate to his account. -/
def certifyTeller : Message := ⟨bob, none, .account "bank" "teller" (.addCertificate [1, 2, 3])⟩

/-- Delivers messages one after another at one block. -/
def deliverAll (context : Context) (messages : List Message) (store : Store) : Store :=
  messages.foldl (fun store message => (ledger.deliver context message store).store) store

/-- The store with the domain, its root account and the account with its certificate. -/
def store : Store := deliverAll (block 100) [registerBank, registerTeller, certifyTeller] ∅

/-- Bob's account, as it stands in the store. -/
def teller : Account :=
  { Account.plain "bank" "teller" bob neverExpires with
    targets := [⟨"iov", "abc"⟩], certificates := [[1, 2, 3]] }

theorem reachable_deliverAll (context : Context) {messages : List Message} {store : Store}
    (h : Reachable store) (hmessages : ∀ message ∈ messages, message.action.Fits) :
    Reachable (deliverAll context messages store) := by
  induction messages generalizing store with
  | nil => exact h
  | cons message rest ih =>
      obtain ⟨hmessage, hrest⟩ := List.forall_mem_cons.mp hmessages
      exact ih (h.deliver ledger context message hmessage) hrest

theorem reachable_store : Reachable store :=
  reachable_deliverAll (block 100) .empty (by decide)

end Sample

end NameRegistry
