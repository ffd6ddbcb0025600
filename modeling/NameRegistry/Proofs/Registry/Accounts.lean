import Mathlib.Data.List.Nodup
import NameRegistry.Proofs.Registry.Names

namespace NameRegistry

namespace Account

@[grind =]
def recordSlot (account : Account) : Slot := .accountRecord account.domain account.name

@[grind =]
def ownerSlot (account : Account) : Slot :=
  .accountByOwner account.owner account.domain account.name

@[grind =]
def targetSlot (account : Account) (target : Target) : Slot :=
  .accountByTarget target account.domain account.name

@[grind =]
def certificateSlot (account : Account) (certificate : Bytes) : Slot :=
  .accountByCertificate certificate account.domain account.name

end Account

namespace Registry

variable {store : Store} {slots : Slot → Option Bytes}

theorem layout_setAccount (account : Account) (h : Layout store slots)
    (hplain : Plain account.domain) :
    Layout (setAccount account store)
      (write slots [account.recordSlot] (some account.toBytes)) := by
  rw [setAccount, Key.account_eq_cons]
  exact h.set account.recordSlot hplain account.toBytes

theorem layout_indexOwner (account : Account) (h : Layout store slots)
    (hplain : Plain account.domain) (howner : account.owner ≠ Address.empty) :
    Layout (indexOwner account store) (write slots [account.ownerSlot] (some [])) := by
  have hempty : account.owner.isEmpty = false := decide_eq_false howner
  rw [indexOwner, hempty]
  exact h.insert account.ownerSlot hplain (key_accountsOf _ _ _)

theorem layout_unindexOwner (account : Account) (h : Layout store slots)
    (hplain : Plain account.domain) (howner : account.owner ≠ Address.empty) :
    Layout (unindexOwner account store) (write slots [account.ownerSlot] none) := by
  have hempty : account.owner.isEmpty = false := decide_eq_false howner
  rw [unindexOwner, hempty]
  exact h.erase account.ownerSlot hplain (key_accountsOf _ _ _)

variable {account : Account}

theorem scope_of_target (haccount : account.Indexable) {target : Target}
    (htarget : target ∈ account.targets) : (account.targetSlot target).Sound ∧
      ∃ scope, accountsAt target = .ok scope ∧
        scope.key account.object = (account.targetSlot target).key := by
  have hpackable := haccount.targets target htarget
  obtain ⟨scope, hscope, hkey⟩ := accountsAt_of_packable hpackable
  exact ⟨⟨hpackable, haccount.plain⟩, scope, hscope, hkey _ _⟩

theorem scope_of_certificate (haccount : account.Indexable) {certificate : Bytes}
    (hcertificate : certificate ∈ account.certificates) :
    (account.certificateSlot certificate).Sound ∧
      ∃ scope, accountsWith certificate = .ok scope ∧
        scope.key account.object = (account.certificateSlot certificate).key := by
  have hpackable := haccount.certificates certificate hcertificate
  obtain ⟨scope, hscope, hkey⟩ := accountsWith_of_packable hpackable
  exact ⟨⟨hpackable, haccount.plain⟩, scope, hscope, hkey _ _⟩

theorem reaches_indexTargets (h : Layout store slots) (haccount : account.Indexable) :
    Reaches (indexTargets account) store ()
      (write slots (account.targets.map account.targetSlot) (some [])) :=
  reaches_index h fun _ => scope_of_target haccount

theorem reaches_unindexTargets (h : Layout store slots) (haccount : account.Indexable) :
    Reaches (unindexTargets account) store ()
      (write slots (account.targets.map account.targetSlot) none) :=
  reaches_unindex h fun _ => scope_of_target haccount

theorem reaches_indexCertificates (h : Layout store slots) (haccount : account.Indexable) :
    Reaches (indexCertificates account) store ()
      (write slots (account.certificates.map account.certificateSlot) (some [])) :=
  reaches_index h fun _ => scope_of_certificate haccount

theorem reaches_unindexCertificates (h : Layout store slots) (haccount : account.Indexable) :
    Reaches (unindexCertificates account) store ()
      (write slots (account.certificates.map account.certificateSlot) none) :=
  reaches_unindex h fun _ => scope_of_certificate haccount

variable {records : Records}

theorem reaches_createAccount (h : Holds store records) (haccount : account.Indexable)
    (hnew : records.account? account.domain account.name = none) :
    Reaches (createAccount account) store ()
      (records.setAccount account.domain account.name (some account)).slots := by
  have hwritten := layout_indexOwner account (layout_setAccount account h haccount.plain)
    haccount.plain haccount.owner
  have hslots : write (write (write (write records.slots [account.recordSlot]
      (some account.toBytes)) [account.ownerSlot] (some []))
        (account.targets.map account.targetSlot) (some []))
          (account.certificates.map account.certificateSlot) (some []) =
      (records.setAccount account.domain account.name (some account)).slots := by
    funext slot
    cases slot <;> simp only [write, Records.slots] <;> grind
  rw [← hslots]
  refine reaches_bind (reaches_modify hwritten) fun _ hwritten => ?_
  refine reaches_bind (reaches_indexTargets hwritten haccount) ?_
  exact fun _ hindexed => reaches_indexCertificates hindexed haccount

theorem reaches_deleteAccount_found (h : Holds store records) (haccount : account.Indexable)
    (hfits : account.Fits)
    (hfound : records.account? account.domain account.name = some account) :
    Reaches (deleteAccount account.domain account.name) store true
      (records.setAccount account.domain account.name none).slots := by
  have hslots : write (write (write (write records.slots [account.ownerSlot] none)
      (account.targets.map account.targetSlot) none)
        (account.certificates.map account.certificateSlot) none) [account.recordSlot] none =
      (records.setAccount account.domain account.name none).slots := by
    funext slot
    cases slot <;> simp only [write, Records.slots] <;> grind
  have howner := layout_unindexOwner account h haccount.plain haccount.owner
  rw [← hslots]
  refine reaches_get (reaches_lift (h.account?_of_fits haccount.plain hfits hfound) ?_)
  refine reaches_bind (reaches_modify howner) fun _ howner => ?_
  refine reaches_bind (reaches_unindexTargets howner haccount) fun _ htargets => ?_
  refine reaches_bind (reaches_unindexCertificates htargets haccount) fun _ hcertificates => ?_
  refine reaches_bind (reaches_modify ?_) fun _ hdeleted => reaches_pure hdeleted
  rw [Key.account_eq_cons]
  exact hcertificates.delete account.recordSlot haccount.plain

theorem reaches_deleteAccount (h : Holds store records) (hsound : records.Sound) {domain : String}
    (hplain : Plain domain) (name : String) :
    Reaches (deleteAccount domain name) store (records.account? domain name).isSome
      (records.setAccount domain name none).slots := by
  cases hfound : records.account? domain name with
  | none =>
      have hread := h.account?_eq hsound hplain name
      have hsame : records.setAccount domain name none = records := by
        rw [← hfound, Records.setAccount_self]
      rw [hfound] at hread
      rw [hsame]
      exact reaches_get (reaches_lift hread (reaches_pure h))
  | some account =>
      obtain ⟨rfl, rfl, hvalid⟩ := hsound.accounts hfound
      exact reaches_deleteAccount_found h hvalid.indexable hvalid.fits hfound

/-- An account that has passed to another owner. With `reset` it has been cleared. -/
@[grind =]
def moved (account : Account) (newOwner : Address) (reset : Bool) : Account :=
  { if reset then cleared account else account with owner := newOwner }

@[simp] theorem moved_domain (account : Account) (newOwner : Address) (reset : Bool) :
    (moved account newOwner reset).domain = account.domain := by
  cases reset <;> rfl

@[simp] theorem moved_name (account : Account) (newOwner : Address) (reset : Bool) :
    (moved account newOwner reset).name = account.name := by
  cases reset <;> rfl

@[simp] theorem moved_owner (account : Account) (newOwner : Address) (reset : Bool) :
    (moved account newOwner reset).owner = newOwner := rfl

@[simp] theorem moved_validUntil (account : Account) (newOwner : Address) (reset : Bool) :
    (moved account newOwner reset).validUntil = account.validUntil := by
  cases reset <;> rfl

@[simp] theorem moved_broker (account : Account) (newOwner : Address) (reset : Bool) :
    (moved account newOwner reset).broker = account.broker := by
  cases reset <;> rfl

theorem valid_moved (h : account.Valid) {newOwner : Address} (howner : newOwner ≠ Address.empty)
    (reset : Bool) : (moved account newOwner reset).Valid := by
  cases reset with
  | false => exact { h with owner := howner, fits := { h.fits with } }
  | true =>
      have hpositive : 0 < Binary.lengthBound := by decide
      refine ⟨h.plain, ?_, howner, nofun, .nil, nofun, .nil⟩
      exact ⟨h.fits.domain, h.fits.name, hpositive, nofun, hpositive, nofun, hpositive⟩

theorem slots_moved (hfound : records.account? account.domain account.name = some account)
    (newOwner : Address) :
    write (write (write records.slots [account.ownerSlot] none) [account.recordSlot]
        (some (moved account newOwner false).toBytes))
          [(moved account newOwner false).ownerSlot] (some []) =
      (records.setAccount account.domain account.name
        (some (moved account newOwner false))).slots := by
  funext slot
  cases slot <;> simp only [write, Records.slots] <;> grind

theorem slots_moved_cleared (hfound : records.account? account.domain account.name = some account)
    (newOwner : Address) :
    write (write (write (write (write records.slots [account.ownerSlot] none)
        (account.targets.map account.targetSlot) none)
          (account.certificates.map account.certificateSlot) none) [account.recordSlot]
            (some (moved account newOwner true).toBytes))
              [(moved account newOwner true).ownerSlot] (some []) =
      (records.setAccount account.domain account.name
        (some (moved account newOwner true))).slots := by
  funext slot
  cases slot <;> simp only [write, Records.slots] <;> grind [cleared]

theorem reaches_transferAccount (h : Holds store records) (haccount : account.Indexable)
    (hfound : records.account? account.domain account.name = some account) {newOwner : Address}
    (howner : newOwner ≠ Address.empty) (reset : Bool) :
    Reaches (transferAccount account newOwner reset) store (moved account newOwner reset)
      (records.setAccount account.domain account.name
        (some (moved account newOwner reset))).slots := by
  have hunindexed := layout_unindexOwner account h haccount.plain haccount.owner
  cases reset with
  | false =>
      rw [← slots_moved hfound newOwner]
      refine reaches_bind (reaches_modify hunindexed) fun _ hunindexed => ?_
      refine reaches_bind (reaches_modify ?_) fun _ hwritten => reaches_pure hwritten
      exact layout_indexOwner _ (layout_setAccount (moved account newOwner false)
        hunindexed haccount.plain) haccount.plain howner
  | true =>
      rw [← slots_moved_cleared hfound newOwner]
      refine reaches_bind (reaches_modify hunindexed) fun _ hunindexed => ?_
      refine reaches_bind (reaches_unindexTargets hunindexed haccount) fun _ htargets => ?_
      refine reaches_bind (reaches_unindexCertificates htargets haccount) fun _ hcleared => ?_
      refine reaches_bind (reaches_modify ?_) fun _ hwritten => reaches_pure hwritten
      exact layout_indexOwner _ (layout_setAccount (moved account newOwner true)
        hcleared haccount.plain) haccount.plain howner

/-- An account with one more certificate. -/
@[grind =]
def certified (account : Account) (certificate : Bytes) : Account :=
  { account with certificates := account.certificates ++ [certificate] }

theorem valid_certified (h : account.Valid) {certificate : Bytes}
    (hpackable : Packed.Packable certificate) (hnew : certificate ∉ account.certificates)
    (hcount : account.certificates.length + 1 < Binary.lengthBound) :
    (certified account certificate).Valid := by
  have hmem {other : Bytes} (hother : other ∈ account.certificates ++ [certificate]) :
      other ∈ account.certificates ∨ other = certificate := by
    simpa using hother
  have hdistinct : (account.certificates ++ [certificate]).Nodup :=
    List.nodup_append.mpr ⟨h.distinct, by simp, by grind⟩
  refine ⟨h.plain, ?_, h.owner, h.targets, h.ids, ?_, hdistinct⟩
  · refine { h.fits with certificatesCount := ?_, certificates := ?_ }
    · rw [certified, List.length_append]
      exact hcount
    · intro other hother
      rcases hmem hother with hother | rfl
      · exact h.fits.certificates other hother
      · exact hpackable.lt_lengthBound
  · intro other hother
    rcases hmem hother with hother | rfl
    · exact h.certificates other hother
    · exact hpackable

theorem reaches_addCertificate (h : Holds store records) (hplain : Plain account.domain)
    (hfound : records.account? account.domain account.name = some account) {certificate : Bytes}
    (hpackable : Packed.Packable certificate) :
    Reaches (addCertificate account certificate) store (certified account certificate)
      (records.setAccount account.domain account.name
        (some (certified account certificate))).slots := by
  obtain ⟨scope, hscope, hkey⟩ := accountsWith_of_packable hpackable
  have hwritten := layout_setAccount (certified account certificate) h hplain
  have hslots : write (write records.slots [account.recordSlot]
      (some (certified account certificate).toBytes)) [account.certificateSlot certificate]
        (some []) =
      (records.setAccount account.domain account.name
        (some (certified account certificate))).slots := by
    funext slot
    cases slot <;> simp only [write, Records.slots] <;> grind
  rw [← hslots]
  refine reaches_bind (reaches_modify hwritten) fun _ hwritten => ?_
  refine reaches_bind (reaches_lift hscope (reaches_modify ?_)) fun _ hindexed =>
    reaches_pure hindexed
  exact hwritten.insert (account.certificateSlot certificate) ⟨hpackable, hplain⟩
    (hkey _ _)

theorem addCertificate_of_not_packable (account : Account) (store : Store) {certificate : Bytes}
    (hpackable : ¬ Packed.Packable certificate) :
    ∃ error after, addCertificate account certificate store = .error (.error error) after := by
  cases hscope : accountsWith certificate with
  | ok scope => exact absurd ((accountsWith_eq_ok_iff.mp hscope).1) hpackable
  | error error =>
      refine ⟨error, setAccount (certified account certificate) store, ?_⟩
      rw [addCertificate, hscope]
      rfl

/-- An account without the certificate at a position. -/
@[grind =]
def decertified (account : Account) (position : Nat) : Account :=
  { account with certificates := account.certificates.eraseIdx position }

theorem valid_decertified (h : account.Valid) (position : Nat) :
    (decertified account position).Valid := by
  have hcount := List.length_eraseIdx_le account.certificates position
  have hmem {other : Bytes} (hother : other ∈ account.certificates.eraseIdx position) :
      other ∈ account.certificates := List.mem_of_mem_eraseIdx hother
  refine ⟨h.plain, ?_, h.owner, h.targets, h.ids, ?_, h.distinct.eraseIdx position⟩
  · refine { h.fits with certificatesCount := ?_, certificates := ?_ }
    · exact Nat.lt_of_le_of_lt hcount h.fits.certificatesCount
    · exact fun other hother => h.fits.certificates other (hmem hother)
  · exact fun other hother => h.certificates other (hmem hother)

theorem reaches_deleteCertificate (h : Holds store records) (haccount : account.Indexable)
    (hdistinct : account.certificates.Nodup)
    (hfound : records.account? account.domain account.name = some account) {position : Nat}
    {certificate : Bytes} (hposition : account.certificates[position]? = some certificate) :
    Reaches (deleteCertificate account position) store (decertified account position)
      (records.setAccount account.domain account.name
        (some (decertified account position))).slots := by
  have hmem : certificate ∈ account.certificates := List.mem_of_getElem? hposition
  obtain ⟨hslot, scope, hscope, hkey⟩ := scope_of_certificate haccount hmem
  have hwritten := layout_setAccount (decertified account position) h haccount.plain
  have herased (other : Bytes) : other ∈ account.certificates.eraseIdx position ↔
      other ∈ account.certificates ∧ other ≠ certificate := by
    obtain ⟨hlt, rfl⟩ := List.getElem?_eq_some_iff.mp hposition
    rw [← hdistinct.erase_getElem, hdistinct.mem_erase_iff, and_comm]
  have hslots : write (write records.slots [account.recordSlot]
      (some (decertified account position).toBytes)) [account.certificateSlot certificate] none =
      (records.setAccount account.domain account.name
        (some (decertified account position))).slots := by
    funext slot
    cases slot <;> simp only [write, Records.slots] <;> grind
  rw [← hslots, deleteCertificate, hposition]
  refine reaches_bind (reaches_modify hwritten) fun _ hwritten => ?_
  refine reaches_bind (reaches_lift hscope (reaches_modify ?_)) fun _ hindexed =>
    reaches_pure hindexed
  exact hwritten.erase (account.certificateSlot certificate) hslot hkey

theorem valid_retargeted (h : account.Valid) {targets : List Target}
    (htargets : ∀ target ∈ targets, target.Packable) (hids : (targets.map Target.id).Nodup)
    (hcount : targets.length < Binary.lengthBound) :
    { account with targets := targets }.Valid := by
  refine ⟨h.plain, ?_, h.owner, htargets, hids, h.certificates, h.distinct⟩
  refine { h.fits with targetsCount := hcount, targets := ?_ }
  exact fun target htarget => (htargets target htarget).fits

theorem reaches_replaceTargets (h : Holds store records) (haccount : account.Indexable)
    (hfound : records.account? account.domain account.name = some account) {targets : List Target}
    (htargets : ∀ target ∈ targets, target.Packable) :
    Reaches (replaceTargets account targets) store { account with targets := targets }
      (records.setAccount account.domain account.name
        (some { account with targets := targets })).slots := by
  have hslots : write (write (write records.slots (account.targets.map account.targetSlot) none)
      [account.recordSlot] (some { account with targets := targets }.toBytes))
        (targets.map account.targetSlot) (some []) =
      (records.setAccount account.domain account.name
        (some { account with targets := targets })).slots := by
    funext slot
    cases slot <;> simp only [write, Records.slots] <;> grind
  rw [← hslots]
  refine reaches_bind (reaches_unindexTargets h haccount) fun _ hunindexed => ?_
  have hwritten := layout_setAccount { account with targets := targets } hunindexed
    haccount.plain
  refine reaches_bind (reaches_modify hwritten) fun _ hwritten => ?_
  refine reaches_bind (reaches_indexTargets hwritten { haccount with targets := htargets })
    fun _ hindexed => reaches_pure hindexed

theorem holds_setAccount (h : Holds store records) {before : Account}
    (hplain : Plain account.domain)
    (hfound : records.account? account.domain account.name = some before)
    (howner : account.owner = before.owner) (htargets : account.targets = before.targets)
    (hcertificates : account.certificates = before.certificates) :
    Holds (setAccount account store)
      (records.setAccount account.domain account.name (some account)) := by
  have hslots : write records.slots [account.recordSlot] (some account.toBytes) =
      (records.setAccount account.domain account.name (some account)).slots := by
    funext slot
    cases slot <;> simp only [write, Records.slots] <;> grind
  rw [Holds, ← hslots]
  exact layout_setAccount account h hplain

theorem reaches_replaceMetadata (h : Holds store records) (hplain : Plain account.domain)
    (hfound : records.account? account.domain account.name = some account) (uri : String) :
    Reaches (replaceMetadata account uri) store { account with metadataUri := uri }
      (records.setAccount account.domain account.name
        (some { account with metadataUri := uri })).slots := by
  have hwritten : Holds (setAccount { account with metadataUri := uri } store)
      (records.setAccount account.domain account.name
        (some { account with metadataUri := uri })) :=
    holds_setAccount h hplain hfound rfl rfl rfl
  exact reaches_bind (reaches_modify hwritten) fun _ hwritten => reaches_pure hwritten

end Registry

end NameRegistry
