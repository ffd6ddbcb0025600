import NameRegistry.Proofs.Failure
import NameRegistry.Proofs.Key.Object
import NameRegistry.Proofs.Key.Packed
import NameRegistry.Registry.Domains
/-!
Slots of the store. A slot names a key by what stands there: the record of a domain or an account,
or the marker of one of the indexes. Slots whose domain names hold no separator and whose subjects
can be packed have different keys (`key_inj`).
-/
namespace NameRegistry

open Packed

/-- A place in the store, named by what stands there. -/
inductive Slot
  | domainRecord (name : String)
  | accountRecord (domain name : String)
  | domainByOwner (owner : Address) (name : String)
  | accountByOwner (owner : Address) (domain name : String)
  | accountByTarget (target : Target) (domain name : String)
  | accountByCertificate (certificate : Bytes) (domain name : String)
  deriving DecidableEq

/-- Whether a target can be packed. -/
def Target.Packable (target : Target) : Prop :=
  Packed.Packable (Utf8.encode target.id) ∧ Packed.Packable (Utf8.encode target.address)

instance (target : Target) : Decidable target.Packable := inferInstanceAs (Decidable (_ ∧ _))

theorem Target.Packable.components {target : Target} (h : target.Packable) :
    ∀ component ∈ [Utf8.encode target.id, Utf8.encode target.address],
      Packed.Packable component := by
  simpa using And.intro h.1 h.2

namespace Slot

/-- What the key of an index entry holds between the tag of its index and its object. -/
def targetSubject (target : Target) : Bytes :=
  joined [Utf8.encode target.id, Utf8.encode target.address]

/-- The key of a slot. -/
def key : Slot → Bytes
  | .domainRecord name => 0 :: Utf8.encode name
  | .accountRecord domain name => 1 :: Key.object domain name
  | .domainByOwner owner name => 2 :: 1 :: (owner.bytes ++ Utf8.encode name)
  | .accountByOwner owner domain name => 2 :: 2 :: (owner.bytes ++ Key.object domain name)
  | .accountByTarget target domain name =>
      2 :: 3 :: (targetSubject target ++ Key.object domain name)
  | .accountByCertificate certificate domain name =>
      2 :: 4 :: (joined [certificate] ++ Key.object domain name)

/-- Whether the domain name of an account's slot holds no separator and its subject can be
packed. -/
def Sound : Slot → Prop
  | .domainRecord _ => True
  | .accountRecord domain _ => Plain domain
  | .domainByOwner _ _ => True
  | .accountByOwner _ domain _ => Plain domain
  | .accountByTarget target domain _ => target.Packable ∧ Plain domain
  | .accountByCertificate certificate domain _ => Packable certificate ∧ Plain domain

theorem targetSubject_append_inj {target target' : Target} {rest rest' : Bytes}
    (h : target.Packable) (h' : target'.Packable)
    (heq : targetSubject target ++ rest = targetSubject target' ++ rest') :
    target = target' ∧ rest = rest' := by
  obtain ⟨hcomponents, hrest⟩ := joined_append_inj h.components h'.components rfl heq
  simp only [List.cons.injEq, and_true] at hcomponents
  obtain ⟨id, address⟩ := target
  obtain ⟨id', address'⟩ := target'
  obtain rfl : id = id' := Utf8.encode_injective hcomponents.1
  obtain rfl : address = address' := Utf8.encode_injective hcomponents.2
  exact ⟨rfl, hrest⟩

theorem certificate_append_inj {certificate certificate' rest rest' : Bytes}
    (h : Packable certificate) (h' : Packable certificate')
    (heq : joined [certificate] ++ rest = joined [certificate'] ++ rest') :
    certificate = certificate' ∧ rest = rest' := by
  obtain ⟨hcomponents, hrest⟩ :=
    joined_append_inj (List.forall_mem_singleton.mpr h) (List.forall_mem_singleton.mpr h') rfl heq
  exact ⟨(List.cons.inj hcomponents).1, hrest⟩

theorem owner_append_inj {owner owner' : Address} {rest rest' : Bytes}
    (heq : owner.bytes ++ rest = owner'.bytes ++ rest') : owner = owner' ∧ rest = rest' := by
  obtain ⟨hbytes, hrest⟩ :=
    List.append_inj heq (owner.length_eq.trans owner'.length_eq.symm)
  obtain ⟨bytes, hlength⟩ := owner
  obtain ⟨bytes', hlength'⟩ := owner'
  obtain rfl : bytes = bytes' := hbytes
  exact ⟨rfl, hrest⟩

theorem key_inj {slot slot' : Slot} (h : slot.Sound) (h' : slot'.Sound)
    (heq : slot.key = slot'.key) : slot = slot' := by
  cases slot <;> cases slot' <;> simp only [key, List.cons.injEq, true_and] at heq
  case domainRecord.domainRecord => rw [Utf8.encode_injective heq]
  case accountRecord.accountRecord =>
    obtain ⟨rfl, rfl⟩ := Key.object_inj h h' heq
    rfl
  case domainByOwner.domainByOwner =>
    obtain ⟨rfl, hname⟩ := owner_append_inj heq
    rw [Utf8.encode_injective hname]
  case accountByOwner.accountByOwner =>
    obtain ⟨rfl, hobject⟩ := owner_append_inj heq
    obtain ⟨rfl, rfl⟩ := Key.object_inj h h' hobject
    rfl
  case accountByTarget.accountByTarget =>
    obtain ⟨rfl, hobject⟩ := targetSubject_append_inj h.1 h'.1 heq
    obtain ⟨rfl, rfl⟩ := Key.object_inj h.2 h'.2 hobject
    rfl
  case accountByCertificate.accountByCertificate =>
    obtain ⟨rfl, hobject⟩ := certificate_append_inj h.1 h'.1 heq
    obtain ⟨rfl, rfl⟩ := Key.object_inj h.2 h'.2 hobject
    rfl
  all_goals simp at heq

end Slot

theorem Key.targetSubject_eq_ok_iff {target : Target} {subject : Bytes} :
    targetSubject target = .ok subject ↔
      target.Packable ∧ subject = Slot.targetSubject target := by
  have hcomponents : (∀ component ∈ [Utf8.encode target.id, Utf8.encode target.address],
      Packed.Packable component) ↔ target.Packable := by
    simp [Target.Packable]
  have hcontext (result : Except Error Bytes) (context : String) :
      withContext context result = .ok subject ↔ result = .ok subject := by
    cases result with
    | error _ => exact ⟨nofun, nofun⟩
    | ok _ => rfl
  rw [targetSubject, hcontext, pack_eq_ok_iff, hcomponents]
  rfl

namespace Registry

theorem accountsAt_eq_ok_iff {target : Target} {scope : Scope} :
    accountsAt target = .ok scope ↔ target.Packable ∧
      scope = .ofBytes (Key.index Index.accountsByTarget.tag) (Slot.targetSubject target) := by
  rw [accountsAt, bind_pure_eq_ok_iff]
  constructor
  · rintro ⟨subject, hsubject, rfl⟩
    obtain ⟨hpackable, rfl⟩ := Key.targetSubject_eq_ok_iff.mp hsubject
    exact ⟨hpackable, rfl⟩
  · rintro ⟨hpackable, rfl⟩
    exact ⟨_, Key.targetSubject_eq_ok_iff.mpr ⟨hpackable, rfl⟩, rfl⟩

theorem accountsWith_eq_ok_iff {certificate : Bytes} {scope : Scope} :
    accountsWith certificate = .ok scope ↔ Packable certificate ∧
      scope = .ofBytes (Key.index Index.accountsByCertificate.tag) (joined [certificate]) := by
  rw [accountsWith, bind_pure_eq_ok_iff, Key.certificateSubject]
  constructor
  · rintro ⟨subject, hsubject, rfl⟩
    obtain ⟨hpackable, rfl⟩ := pack_eq_ok_iff.mp hsubject
    exact ⟨List.forall_mem_singleton.mp hpackable, rfl⟩
  · rintro ⟨hpackable, rfl⟩
    exact ⟨_, pack_eq_ok_iff.mpr ⟨List.forall_mem_singleton.mpr hpackable, rfl⟩, rfl⟩

theorem key_of_accountsAt {target : Target} {scope : Scope} (h : accountsAt target = .ok scope)
    (domain name : String) :
    scope.key (Key.object domain name) = (Slot.accountByTarget target domain name).key := by
  obtain ⟨_, rfl⟩ := accountsAt_eq_ok_iff.mp h
  simp [Scope.key, Scope.ofBytes, Key.index, Index.tag, Slot.key]

theorem key_of_accountsWith {certificate : Bytes} {scope : Scope}
    (h : accountsWith certificate = .ok scope) (domain name : String) :
    scope.key (Key.object domain name) =
      (Slot.accountByCertificate certificate domain name).key := by
  obtain ⟨_, rfl⟩ := accountsWith_eq_ok_iff.mp h
  simp [Scope.key, Scope.ofBytes, Key.index, Index.tag, Slot.key]

theorem accountsAt_of_packable {target : Target} (h : target.Packable) :
    ∃ scope, accountsAt target = .ok scope ∧
      ∀ domain name, scope.key (Key.object domain name) =
        (Slot.accountByTarget target domain name).key := by
  have hscope := accountsAt_eq_ok_iff.mpr ⟨h, rfl⟩
  exact ⟨_, hscope, key_of_accountsAt hscope⟩

theorem accountsWith_of_packable {certificate : Bytes} (h : Packable certificate) :
    ∃ scope, accountsWith certificate = .ok scope ∧
      ∀ domain name, scope.key (Key.object domain name) =
        (Slot.accountByCertificate certificate domain name).key := by
  have hscope := accountsWith_eq_ok_iff.mpr ⟨h, rfl⟩
  exact ⟨_, hscope, key_of_accountsWith hscope⟩

theorem key_accountsOf (owner : Address) (domain name : String) :
    (accountsOf owner).key (Key.object domain name) =
      (Slot.accountByOwner owner domain name).key := by
  simp [accountsOf, Scope.key, Scope.ofBytes, Key.index, Index.tag, Slot.key]

theorem key_domainsOf (owner : Address) (name : String) :
    (domainsOf owner).key (Utf8.encode name) = (Slot.domainByOwner owner name).key := by
  simp [domainsOf, Scope.key, Scope.ofBytes, Key.index, Index.tag, Slot.key]

end Registry

end NameRegistry
