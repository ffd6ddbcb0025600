import NameRegistry.Proofs.Registry.Accounts

namespace NameRegistry

namespace Domain

@[grind =]
def recordSlot (domain : Domain) : Slot := .domainRecord domain.name

@[grind =]
def ownerSlot (domain : Domain) : Slot := .domainByOwner domain.admin domain.name

end Domain

namespace Registry

variable {store : Store} {slots : Slot → Option Bytes}

theorem layout_setDomain (domain : Domain) (h : Layout store slots) :
    Layout (setDomain domain store) (write slots [domain.recordSlot] (some domain.toBytes)) :=
  h.set domain.recordSlot trivial domain.toBytes

theorem layout_indexDomain (domain : Domain) (h : Layout store slots)
    (hadmin : domain.admin ≠ Address.empty) :
    Layout (indexDomain domain store) (write slots [domain.ownerSlot] (some [])) := by
  have hempty : domain.admin.isEmpty = false := decide_eq_false hadmin
  rw [indexDomain, hempty]
  exact h.insert domain.ownerSlot trivial (key_domainsOf _ _)

theorem layout_unindexDomain (domain : Domain) (h : Layout store slots)
    (hadmin : domain.admin ≠ Address.empty) :
    Layout (unindexDomain domain store) (write slots [domain.ownerSlot] none) := by
  have hempty : domain.admin.isEmpty = false := decide_eq_false hadmin
  rw [unindexDomain, hempty]
  exact h.erase domain.ownerSlot trivial (key_domainsOf _ _)

variable {records : Records}

theorem holds_createDomain (domain : Domain) (h : Holds store records)
    (hadmin : domain.admin ≠ Address.empty) (hnew : records.domain? domain.name = none) :
    Holds (createDomain domain store) (records.setDomain domain.name (some domain)) := by
  have hslots : write (write records.slots [domain.recordSlot] (some domain.toBytes))
        [domain.ownerSlot] (some []) =
      (records.setDomain domain.name (some domain)).slots := by
    funext slot
    cases slot <;> simp only [write, Records.slots] <;> grind
  rw [Holds, ← hslots]
  exact layout_indexDomain domain (layout_setDomain domain h) hadmin

theorem holds_setDomain (domain : Domain) (h : Holds store records) {before : Domain}
    (hfound : records.domain? domain.name = some before) (hadmin : domain.admin = before.admin) :
    Holds (setDomain domain store) (records.setDomain domain.name (some domain)) := by
  have hslots : write records.slots [domain.recordSlot] (some domain.toBytes) =
      (records.setDomain domain.name (some domain)).slots := by
    funext slot
    cases slot <;> simp only [write, Records.slots] <;> grind
  rw [Holds, ← hslots]
  exact layout_setDomain domain h

theorem holds_transferDomain (domain : Domain) (h : Holds store records)
    (hadmin : domain.admin ≠ Address.empty)
    (hfound : records.domain? domain.name = some domain) {newAdmin : Address}
    (hnewAdmin : newAdmin ≠ Address.empty) :
    Holds (transferDomain domain newAdmin store)
      (records.setDomain domain.name (some (transferred domain newAdmin))) := by
  have hslots : write (write (write records.slots [domain.ownerSlot] none)
      [(transferred domain newAdmin).recordSlot] (some (transferred domain newAdmin).toBytes))
        [(transferred domain newAdmin).ownerSlot] (some []) =
      (records.setDomain domain.name (some (transferred domain newAdmin))).slots := by
    funext slot
    cases slot <;> simp only [write, Records.slots] <;> grind [transferred]
  rw [Holds, ← hslots]
  exact layout_indexDomain (transferred domain newAdmin)
    (layout_setDomain _ (layout_unindexDomain domain h hadmin)) hnewAdmin

theorem reaches_forM_names {domain : String} {step : String → Update Store Unit}
    (change : Option Account → Option Account)
    (hstep : ∀ {store : Store} {records : Records}, Holds store records → records.Sound →
      ∀ name, Reaches (step name) store ()
        (records.setAccount domain name (change (records.account? domain name))).slots)
    (hchange : ∀ {records : Records}, records.Sound → ∀ name,
      (records.setAccount domain name (change (records.account? domain name))).Sound)
    (htwice : ∀ found, change (change found) = change found)
    (h : Holds store records) (hsound : records.Sound) (names : List String) :
    Reaches (names.forM step) store ()
      (records.changeAccounts domain fun name found =>
        if name ∈ names then change found else found).slots := by
  induction names generalizing store records with
  | nil =>
      have hsame : records.changeAccounts domain
          (fun name found => if name ∈ [] then change found else found) = records := by
        ext <;> grind
      rw [hsame]
      exact reaches_pure h
  | cons name names ih =>
      -- If the name comes again, its step finds the account changed and leaves it so (`htwice`).
      have hrest : (records.setAccount domain name
          (change (records.account? domain name))).changeAccounts domain
            (fun name found => if name ∈ names then change found else found) =
          records.changeAccounts domain
            (fun name' found => if name' ∈ name :: names then change found else found) := by
        ext <;> grind
      rw [← hrest]
      exact reaches_bind (hstep h hsound name) fun _ hafter => ih hafter (hchange hsound name)

theorem changeAccounts_names {domain : String} {names : List String} {chosen : String → Bool}
    (change : Option Account → Option Account) (hnone : change none = none)
    (hnames : ∀ name, name ∈ names ↔ (records.account? domain name).isSome ∧ chosen name) :
    records.changeAccounts domain
        (fun name found => if name ∈ names then change found else found) =
      records.changeAccounts domain
        fun name found => if chosen name then change found else found := by
  ext domain' name : 3
  · rfl
  · simp only [Records.account?_changeAccounts, hnames]
    cases hfound : records.account? domain' name <;> grind

theorem reaches_deleteAccounts (h : Holds store records) (hsound : records.Sound) {domain : String}
    (hplain : Plain domain) (names : List String) :
    Reaches (deleteAccounts domain names) store ()
      (records.changeAccounts domain fun name found =>
        if name ∈ names then none else found).slots := by
  apply reaches_forM_names (fun _ => none) _ _ _ h hsound names
  · intro store records h hsound name
    exact reaches_discard (reaches_deleteAccount h hsound hplain name)
  · intro records hsound name
    exact hsound.setAccount (by simp)
  · intro _
    rfl

theorem reaches_deleteDomain (h : Holds store records) (hsound : records.Sound) {name : String}
    {domain : Domain} (hfound : records.domain? name = some domain) :
    Reaches (deleteDomain name) store true
      ((records.changeAccounts name fun _ _ => none).setDomain name none).slots := by
  obtain ⟨rfl, hvalid⟩ := hsound.domains hfound
  have hdomain : domain? store domain.name = .ok (some domain) := by
    rw [h.domain?_eq hsound, hfound]
  have hnames (name : String) : name ∈ accountNames store domain.name ↔
      (records.account? domain.name name).isSome ∧ true := by
    rw [h.mem_accountNames hvalid.plain]
    simp
  have haccounts := reaches_deleteAccounts h hsound hvalid.plain (accountNames store domain.name)
  rw [changeAccounts_names (fun _ => none) rfl hnames] at haccounts
  refine reaches_get (reaches_lift hdomain (reaches_get ?_))
  refine reaches_bind haccounts fun after hafter => ?_
  refine reaches_bind (reaches_modify ?_) fun _ hdeleted => reaches_pure hdeleted
  have hslots : write (write (records.changeAccounts domain.name fun _ _ => none).slots
        [domain.recordSlot] none) [domain.ownerSlot] none =
      ((records.changeAccounts domain.name fun _ _ => none).setDomain domain.name none).slots := by
    funext slot
    cases slot <;> simp only [write, Records.slots] <;> grind
  rw [← hslots]
  exact layout_unindexDomain domain (hafter.delete domain.recordSlot trivial) hvalid.admin

theorem reaches_flushDomain (h : Holds store records) (hsound : records.Sound) {name : String}
    {domain : Domain} (hfound : records.domain? name = some domain) :
    Reaches (flushDomain name) store true
      (records.changeAccounts name
        fun name' found => if name' ≠ "" then none else found).slots := by
  obtain ⟨rfl, hvalid⟩ := hsound.domains hfound
  have hdomain : domain? store domain.name = .ok (some domain) := by
    rw [h.domain?_eq hsound, hfound]
  have hnames (name : String) : name ∈ (accountNames store domain.name).filter (· ≠ "") ↔
      (records.account? domain.name name).isSome ∧ decide (name ≠ "") := by
    rw [List.mem_filter, h.mem_accountNames hvalid.plain]
  have haccounts := reaches_deleteAccounts h hsound hvalid.plain
    ((accountNames store domain.name).filter (· ≠ ""))
  rw [changeAccounts_names (fun _ => none) rfl hnames] at haccounts
  simp only [decide_eq_true_eq] at haccounts
  refine reaches_get (reaches_lift hdomain (reaches_get ?_))
  exact reaches_bind haccounts fun _ hafter => reaches_pure hafter

end Registry

end NameRegistry
