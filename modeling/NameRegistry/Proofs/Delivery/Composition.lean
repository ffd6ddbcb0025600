import NameRegistry.Proofs.Delivery.Transfer
import NameRegistry.Proofs.Registry.Cascade
/-!
What an administrator does to a domain at once, and step by step. A flush comes to the same as the
deletion of the accounts one after another, whatever the order; a transfer or a deletion that takes
the accounts along comes to the same as a flush with the transfer or the deletion after it
(`Reachable.compound_eq_elementary`).
-/
namespace NameRegistry

open Registry

/-- Whether messages are accepted one after another, all at one block, and lead from one store to
another. -/
inductive Environment.Accepts (environment : Environment) (context : Context) :
    List Message → Store → Store → Prop
  | nil (store : Store) : Accepts environment context [] store store
  | cons {message : Message} {rest : List Message} {store after : Store} :
      (environment.deliver context message store).result = .ok () →
      Accepts environment context rest (environment.deliver context message store).store after →
      Accepts environment context (message :: rest) store after

/-- What the administrator of a domain signs to have something done; for everything there may be
another payer. -/
def Domain.order (domain : Domain) (feePayer : Action → Option Address) (action : Action) :
    Message :=
  ⟨domain.admin, feePayer action, action⟩

theorem Holds.nodup_accountNames {store : Store} {records : Records} (h : Holds store records)
    (hsound : records.Sound) {domain : String} (hplain : Plain domain) :
    (accountNames store domain).Nodup := by
  have hrests := KeyValueStore.pairwise_restsUnder store (Key.accountsIn domain)
  rw [accountNames_eq_rests]
  have hdistinct : (KeyValueStore.restsUnder store (Key.accountsIn domain)).Nodup := by
    refine hrests.imp fun hlt heq => ?_
    rw [heq] at hlt
    exact Std.lt_irrefl hlt
  refine hdistinct.map_on ?_
  intro rest hrest rest' hrest' heq
  obtain ⟨account, _, _, rfl⟩ := (h.mem_accountsIn hsound hplain rest).mp hrest
  obtain ⟨account', _, _, rfl⟩ := (h.mem_accountsIn hsound hplain rest').mp hrest'
  rw [Utf8.decodeLossy_encode, Utf8.decodeLossy_encode] at heq
  rw [heq]

namespace Decision

variable {situation : Situation Store} {records : Records} {name : String} {domain : Domain}

theorem loadDomain_administered (h : Holds situation.store records) (hsound : records.Sound)
    (hfound : records.domain? name = some domain) (hclosed : domain.domainType = .closed)
    (hexpired : domain.isExpired situation.context = false) :
    loadDomain situation name (administered domain.admin) = .ok domain := by
  refine (loadDomain_eq_ok_iff (h.domain?_eq hsound name) fun _ hdomain =>
    (hsound.domains hdomain).1).mpr ⟨hfound, ?_⟩
  simp [DomainCheck.Passes, hclosed, hexpired]

theorem onDomain_flush (h : Holds situation.store records) (hsound : records.Sound)
    (hfound : records.domain? name = some domain) (hclosed : domain.domainType = .closed)
    (hexpired : domain.isExpired situation.context = false) :
    onDomain situation domain.admin name .flush = .ok (.flushDomain name) := by
  rw [onDomain, loadDomain_administered h hsound hfound hclosed hexpired]
  rw [← (hsound.domains hfound).1]
  rfl

theorem onDomain_transfer (h : Holds situation.store records) (hsound : records.Sound)
    (hfound : records.domain? name = some domain) (hclosed : domain.domainType = .closed)
    (hexpired : domain.isExpired situation.context = false) {newAdmin : Address}
    (hnewAdmin : newAdmin ≠ Address.empty) (flag : TransferFlag) :
    onDomain situation domain.admin name (.transfer newAdmin flag) =
      .ok (.transferDomain domain newAdmin flag) := by
  have hempty : newAdmin.isEmpty = false := decide_eq_false hnewAdmin
  rw [onDomain, loadDomain_administered h hsound hfound hclosed hexpired, hempty]
  rfl

theorem onDomain_delete (h : Holds situation.store records) (hsound : records.Sound)
    (hfound : records.domain? name = some domain) (hclosed : domain.domainType = .closed) :
    onDomain situation domain.admin name .delete = .ok (.deleteDomain name) := by
  refine bind_eq_ok_iff.mpr ⟨(), ?_, rfl⟩
  exact (deletable_eq_ok_iff (h.domain?_eq hsound name) fun _ hdomain =>
    (hsound.domains hdomain).1).mpr ⟨domain, hfound, hclosed, Or.inl rfl⟩

theorem onAccount_delete (h : Holds situation.store records) (hsound : records.Sound)
    {domainName : String} (hfound : records.domain? domainName = some domain) (hname : name ≠ "")
    {account : Account} (haccount : records.account? domainName name = some account) :
    onAccount situation domain.admin domainName name .delete =
      .ok (.deleteAccount domainName name) := by
  obtain ⟨rfl, hvalid⟩ := hsound.domains hfound
  refine bind_eq_ok_iff.mpr ⟨domain, ?_, bind_eq_ok_iff.mpr ⟨account, ?_, rfl⟩⟩
  · refine (loadDomain_eq_ok_iff (h.domain?_eq hsound domain.name) fun _ hdomain =>
      (hsound.domains hdomain).1).mpr ⟨hfound, ?_⟩
    simp
  · refine loadAccount_notRoot.mpr ⟨hname, ?_⟩
    refine (loadAccount_eq_ok_iff (h.account?_eq hsound hvalid.plain name) (by simp)).mpr
      ⟨haccount, ?_⟩
    simp [AccountCheck.Passes, AccountGuard.of]

end Decision

namespace Environment

variable {environment : Environment} {context : Context} {store : Store} {records : Records}

theorem accepted_of_onMessage (hfree : environment.collectFee = noFees)
    (h : Consistent store records) (context : Context) (message : Message)
    (hmessage : message.action.Fits)
    {change : Change}
    (hdecision : Decision.onMessage (environment.situation context store) message = .ok change)
    (hindexable : change.Indexable) :
    (environment.deliver context message store).result = .ok () ∧
      Consistent (environment.deliver context message store).store (change.onRecords records) := by
  have hgranted := Decision.granted_of_onMessage h.holds h.sound hdecision
  have hfits := hgranted.fits h.sound hmessage
  have hcharge : (environment.charge context message).1 = .ok () := by
    rw [charge, ask, hfree]
    rfl
  obtain ⟨after, happly, hholds⟩ :=
    Change.reaches_apply h.holds h.sound h.linked hfits hindexable
  have hdispatch : environment.dispatch context message store =
      ⟨.ok (), after, (environment.charge context message).2⟩ := by
    rw [dispatch, hdecision]
    generalize environment.charge context message = charged at hcharge
    obtain ⟨_ | _, charges⟩ := charged
    · cases hcharge
    · dsimp only
      rw [happly]
  have hresult : (environment.dispatch context message store).result = .ok () := by
    rw [hdispatch]
  refine ⟨(result_deliver ..).trans hresult, ?_⟩
  rw [store_deliver_of_ok environment context message store hresult, hdispatch]
  exact ⟨hholds, Change.sound_onRecords h.sound h.linked hfits hindexable,
    Change.linked_onRecords h.linked hfits⟩

theorem accepts_deletions (hfree : environment.collectFee = noFees) (h : Consistent store records)
    {name : String} {domain : Domain} (hfound : records.domain? name = some domain)
    (feePayer : Action → Option Address) {names : List String} (hdistinct : names.Nodup)
    (hnames : ∀ accountName ∈ names, accountName ≠ "" ∧
      (records.account? name accountName).isSome) :
    ∃ after,
      environment.Accepts context
        ((names.map fun accountName => .account name accountName .delete).map
          (domain.order feePayer)) store after ∧
      Consistent after (records.changeAccounts name fun accountName found? =>
        if accountName ∈ names then none else found?) := by
  induction names generalizing store records with
  | nil =>
      have hsame : records.changeAccounts name
          (fun accountName found? => if accountName ∈ [] then none else found?) = records := by
        ext <;> grind
      rw [hsame]
      exact ⟨store, .nil store, h⟩
  | cons accountName names ih =>
      obtain ⟨hother, hdistinct⟩ := List.nodup_cons.mp hdistinct
      obtain ⟨⟨hroot, hsome⟩, hnames⟩ := List.forall_mem_cons.mp hnames
      obtain ⟨account, haccount⟩ := Option.isSome_iff_exists.mp hsome
      let action := Action.account name accountName .delete
      have hmessage : action.Fits := by
        obtain ⟨rfl, rfl, hvalid⟩ := h.sound.accounts haccount
        exact ⟨hvalid.fits.domain, hvalid.fits.name⟩
      obtain ⟨haccepted, hdeleted⟩ := accepted_of_onMessage hfree h context
        (domain.order feePayer action) hmessage
        (Decision.onAccount_delete h.holds h.sound hfound hroot haccount) trivial
      -- The accounts that are still to be deleted are there as before.
      have hthere : ∀ accountName' ∈ names, accountName' ≠ "" ∧
          ((records.setAccount name accountName none).account? name accountName').isSome := by
        intro accountName' hmem
        have hne : accountName' ≠ accountName := fun heq => hother (heq ▸ hmem)
        rw [Records.account?_setAccount, if_neg fun hboth => hne hboth.2]
        exact hnames accountName' hmem
      obtain ⟨after, hrest, hafter⟩ := ih hdeleted hfound hdistinct hthere
      refine ⟨after, .cons haccepted hrest, ?_⟩
      have hrecords : (records.setAccount name accountName none).changeAccounts name
            (fun accountName' found? => if accountName' ∈ names then none else found?) =
          records.changeAccounts name (fun accountName' found? =>
            if accountName' ∈ accountName :: names then none else found?) := by
        ext <;> grind
      rwa [← hrecords]

end Environment

namespace Change

theorem onRecords_transfer_flushed (records : Records) (domain : Domain) (newAdmin : Address) :
    (transferDomain domain newAdmin .leave).onRecords
        ((flushDomain domain.name).onRecords records) =
      (transferDomain domain newAdmin .flush).onRecords records := by
  ext <;> grind [onRecords]

theorem onRecords_delete_flushed (records : Records) (name : String) :
    (deleteDomain name).onRecords ((flushDomain name).onRecords records) =
      (deleteDomain name).onRecords records := by
  ext <;> grind [onRecords]

end Change

section Orders

variable {environment : Environment} {context : Context} {store : Store} {records : Records}
  {domain : Domain}

theorem Environment.accepted_order (hfree : environment.collectFee = noFees)
    (h : Consistent store records) (hfound : records.domain? domain.name = some domain)
    (feePayer : Action → Option Address) {action : DomainAction} {change : Change}
    (hdecision : Decision.onDomain (environment.situation context store) domain.admin domain.name
      action = .ok change) (hindexable : change.Indexable) :
    let outcome :=
      environment.deliver context (domain.order feePayer (.domain domain.name action)) store
    outcome.result = .ok () ∧ Consistent outcome.store (change.onRecords records) :=
  accepted_of_onMessage hfree h context (domain.order feePayer (.domain domain.name action))
    (h.sound.domains hfound).2.fits hdecision hindexable

theorem Consistent.flush_eq_deletions (h : Consistent store records)
    (hfree : environment.collectFee = Environment.noFees)
    (hfound : records.domain? domain.name = some domain) (hclosed : domain.domainType = .closed)
    (hexpired : domain.isExpired context = false) (feePayer : Action → Option Address)
    {names : List String} (hperm : names.Perm ((accountNames store domain.name).filter (· ≠ ""))) :
    ∃ after,
      environment.Accepts context [domain.order feePayer (.domain domain.name .flush)] store after ∧
      environment.Accepts context
        ((names.map fun accountName => .account domain.name accountName .delete).map
          (domain.order feePayer)) store after := by
  have hplain := (h.sound.domains hfound).2.plain
  have hmem (accountName : String) : accountName ∈ names ↔
      (records.account? domain.name accountName).isSome ∧ decide (accountName ≠ "") := by
    rw [hperm.mem_iff, List.mem_filter, h.holds.mem_accountNames hplain]
  have hdistinct : names.Nodup :=
    hperm.nodup_iff.mpr ((h.holds.nodup_accountNames h.sound hplain).filter _)
  obtain ⟨hflush, hflushed⟩ := Environment.accepted_order hfree h hfound feePayer
    (Decision.onDomain_flush h.holds h.sound hfound hclosed hexpired) trivial
  obtain ⟨after, haccepts, hafter⟩ := Environment.accepts_deletions hfree h hfound feePayer
    hdistinct fun accountName hname => by simpa [and_comm] using (hmem accountName).mp hname
  rw [changeAccounts_names (fun _ => none) rfl hmem] at hafter
  simp only [decide_eq_true_eq] at hafter
  obtain rfl := Layout.store_eq hafter.holds hflushed.holds
  exact ⟨_, .cons hflush (.nil _), haccepts⟩

theorem Consistent.eq_behind_flush (h : Consistent store records)
    (hfree : environment.collectFee = Environment.noFees)
    (hfound : records.domain? domain.name = some domain) (hclosed : domain.domainType = .closed)
    (hexpired : domain.isExpired context = false) (feePayer : Action → Option Address)
    {atOnce behind : DomainAction} {change change' : Change}
    (hdecision : Decision.onDomain (environment.situation context store) domain.admin domain.name
      atOnce = .ok change) (hindexable : change.Indexable)
    (hdecision' : ∀ store', Consistent store' ((Change.flushDomain domain.name).onRecords records) →
      Decision.onDomain (environment.situation context store') domain.admin domain.name behind =
        .ok change') (hindexable' : change'.Indexable)
    (hsame : change'.onRecords ((Change.flushDomain domain.name).onRecords records) =
      change.onRecords records) :
    ∃ after,
      environment.Accepts context [domain.order feePayer (.domain domain.name atOnce)] store
        after ∧
      environment.Accepts context
        [domain.order feePayer (.domain domain.name .flush),
          domain.order feePayer (.domain domain.name behind)] store after := by
  obtain ⟨hflush, hflushed⟩ := Environment.accepted_order hfree h hfound feePayer
    (Decision.onDomain_flush h.holds h.sound hfound hclosed hexpired) trivial
  obtain ⟨hatOnce, hafter⟩ :=
    Environment.accepted_order hfree h hfound feePayer hdecision hindexable
  obtain ⟨hbehind, hafter'⟩ := Environment.accepted_order hfree hflushed hfound feePayer
    (hdecision' _ hflushed) hindexable'
  rw [hsame] at hafter'
  have hstore := Layout.store_eq hafter'.holds hafter.holds
  exact ⟨_, .cons hatOnce (.nil _), .cons hflush (.cons hbehind (hstore ▸ .nil _))⟩

end Orders

/-- Without fees, what the administrator of a closed domain that has not expired does to it at once
is accepted and leaves the store that the steps leave, all of which are accepted: a flush, a
transfer with a flush, and a deletion. -/
theorem Reachable.compound_eq_elementary {store : Store} (h : Reachable store)
    (environment : Environment) (hfree : environment.collectFee = Environment.noFees)
    (context : Context) {name : String} {domain : Domain}
    (hfound : domain? store name = .ok (some domain)) (hclosed : domain.domainType = .closed)
    (hexpired : domain.isExpired context = false) (feePayer : Action → Option Address) :
    let leads (actions : List Action) (after : Store) : Prop :=
      environment.Accepts context (actions.map (domain.order feePayer)) store after
    (∀ names : List String, names.Perm ((accountNames store name).filter (· ≠ "")) →
      ∃ after, leads [.domain name .flush] after ∧
        leads (names.map fun accountName => .account name accountName .delete) after) ∧
    (∀ newAdmin, newAdmin ≠ Address.empty →
      ∃ after, leads [.domain name (.transfer newAdmin .flush)] after ∧
        leads [.domain name .flush, .domain name (.transfer newAdmin .leave)] after) ∧
    ∃ after, leads [.domain name .delete] after ∧
      leads [.domain name .flush, .domain name .delete] after := by
  intro leads
  obtain ⟨records, hconsistent⟩ := h.consistent
  rw [hconsistent.holds.domain?_eq hconsistent.sound] at hfound
  replace hfound := Except.ok.inj hfound
  obtain ⟨rfl, _⟩ := hconsistent.sound.domains hfound
  refine ⟨?_, ?_, ?_⟩
  · intro names hperm
    exact hconsistent.flush_eq_deletions hfree hfound hclosed hexpired feePayer hperm
  · intro newAdmin hnewAdmin
    exact hconsistent.eq_behind_flush hfree hfound hclosed hexpired feePayer
      (Decision.onDomain_transfer hconsistent.holds hconsistent.sound hfound hclosed hexpired
        hnewAdmin .flush) trivial
      (fun _ hflushed => Decision.onDomain_transfer hflushed.holds hflushed.sound hfound hclosed
        hexpired hnewAdmin .leave) trivial
      (Change.onRecords_transfer_flushed records domain newAdmin)
  · exact hconsistent.eq_behind_flush hfree hfound hclosed hexpired feePayer
      (Decision.onDomain_delete hconsistent.holds hconsistent.sound hfound hclosed) trivial
      (fun _ hflushed => Decision.onDomain_delete hflushed.holds hflushed.sound hfound hclosed)
      trivial (Change.onRecords_delete_flushed records domain.name)

/-- Alice flushes her domain, passes it on to Bob or deletes it, with an account of Bob and one of
her own in it, or takes the steps one by one, beginning with the account that is listed last. -/
theorem compound_sample :
    let leads (actions : List Action) (after : Store) : Prop :=
      Sample.ledger.Accepts (Sample.block 200) (actions.map (Sample.bank.order fun _ => none))
        Sample.vaultStore after
    accountNames Sample.vaultStore "bank" = ["", "teller", "vault"] ∧
      (∃ after, leads [.domain "bank" .flush] after ∧
        leads [.account "bank" "vault" .delete, .account "bank" "teller" .delete] after) ∧
      (∃ after, leads [.domain "bank" (.transfer Sample.bob .flush)] after ∧
        leads [.domain "bank" .flush, .domain "bank" (.transfer Sample.bob .leave)] after) ∧
      ∃ after, leads [.domain "bank" .delete] after ∧
        leads [.domain "bank" .flush, .domain "bank" .delete] after := by
  intro leads
  have hfound : domain? Sample.vaultStore "bank" = .ok (some Sample.bank) := by decide +kernel
  have hnames : accountNames Sample.vaultStore "bank" = ["", "teller", "vault"] := by
    decide +kernel
  obtain ⟨hflush, htransfer, hdelete⟩ := Reachable.compound_eq_elementary
    Sample.reachable_vaultStore Sample.ledger rfl (Sample.block 200) hfound rfl (by decide)
    fun _ => none
  refine ⟨hnames, ?_, htransfer Sample.bob (by decide), hdelete⟩
  apply hflush ["vault", "teller"]
  rw [hnames]
  exact .swap "teller" "vault" []

end NameRegistry
