import NameRegistry.Proofs.Store.Mirror
import NameRegistry.Registry.Domains

namespace NameRegistry

variable {σ : Type} [KeyValueStore σ] [LawfulStore σ]

namespace Scope

theorem contents_insert (scope : Scope) (object : Bytes) (store : σ) :
    contents (scope.insert object store) = scope.insert object (contents store) :=
  LawfulStore.contents_set store _ _

theorem contains_contents (scope : Scope) (object : Bytes) (store : σ) :
    scope.contains (contents store) object = scope.contains store object :=
  congrArg Option.isSome (LawfulStore.get?_eq store _).symm

theorem contents_erase (scope : Scope) (object : Bytes) (store : σ) :
    contents (scope.erase object store).2 = (scope.erase object (contents store)).2 := by
  rw [erase, erase, contains_contents]
  split
  · exact LawfulStore.contents_delete store _
  · rfl

end Scope

namespace Registry

theorem account?_contents (store : σ) (domain name : String) :
    account? (contents store) domain name = account? store domain name := by
  rw [account?, account?, LawfulStore.get?_eq store]
  rfl

theorem domain?_contents (store : σ) (name : String) :
    domain? (contents store) name = domain? store name := by
  rw [domain?, domain?, LawfulStore.get?_eq store]
  rfl

theorem accountNames_contents (store : σ) (domain : String) :
    accountNames (contents store) domain = accountNames store domain :=
  congrArg List.reverse (LawfulStore.visit_eq store _ _ _).symm

theorem contents_setAccount (account : Account) (store : σ) :
    contents (setAccount account store) = setAccount account (contents store) :=
  LawfulStore.contents_set store _ _

theorem contents_setDomain (domain : Domain) (store : σ) :
    contents (setDomain domain store) = setDomain domain (contents store) :=
  LawfulStore.contents_set store _ _

theorem contents_indexOwner (account : Account) (store : σ) :
    contents (indexOwner account store) = indexOwner account (contents store) := by
  rw [indexOwner, indexOwner]
  split
  · rfl
  · exact Scope.contents_insert _ _ store

theorem contents_unindexOwner (account : Account) (store : σ) :
    contents (unindexOwner account store) = unindexOwner account (contents store) := by
  rw [unindexOwner, unindexOwner]
  split
  · rfl
  · exact Scope.contents_erase _ _ store

theorem contents_indexDomain (domain : Domain) (store : σ) :
    contents (indexDomain domain store) = indexDomain domain (contents store) := by
  rw [indexDomain, indexDomain]
  split
  · rfl
  · exact Scope.contents_insert _ _ store

theorem contents_unindexDomain (domain : Domain) (store : σ) :
    contents (unindexDomain domain store) = unindexDomain domain (contents store) := by
  rw [unindexDomain, unindexDomain]
  split
  · rfl
  · exact Scope.contents_erase _ _ store

theorem contents_createDomain (domain : Domain) (store : σ) :
    contents (createDomain domain store) = createDomain domain (contents store) := by
  rw [createDomain, createDomain, contents_indexDomain, contents_setDomain]

theorem contents_transferDomain (domain : Domain) (newOwner : Address) (store : σ) :
    contents (transferDomain domain newOwner store) =
      transferDomain domain newOwner (contents store) := by
  rw [transferDomain, transferDomain, contents_createDomain, contents_unindexDomain]

theorem mirrors_index (scope : Except Error Scope) (object : Bytes) :
    Mirrors (σ := σ) (index scope object) (index scope object) :=
  mirrors_bind (mirrors_lift scope) fun scope =>
    mirrors_modify (scope.contents_insert object)

theorem mirrors_unindex (scope : Except Error Scope) (object : Bytes) :
    Mirrors (σ := σ) (unindex scope object) (unindex scope object) :=
  mirrors_bind (mirrors_lift scope) fun scope =>
    mirrors_modify (scope.contents_erase object)

theorem mirrors_indexTargets (account : Account) :
    Mirrors (σ := σ) (indexTargets account) (indexTargets account) :=
  mirrors_forM fun target => mirrors_index (accountsAt target) account.object

theorem mirrors_unindexTargets (account : Account) :
    Mirrors (σ := σ) (unindexTargets account) (unindexTargets account) :=
  mirrors_forM fun target => mirrors_unindex (accountsAt target) account.object

theorem mirrors_indexCertificates (account : Account) :
    Mirrors (σ := σ) (indexCertificates account) (indexCertificates account) :=
  mirrors_forM fun certificate => mirrors_index (accountsWith certificate) account.object

theorem mirrors_unindexCertificates (account : Account) :
    Mirrors (σ := σ) (unindexCertificates account) (unindexCertificates account) :=
  mirrors_forM fun certificate => mirrors_unindex (accountsWith certificate) account.object

theorem contents_write (account : Account) (store : σ) :
    contents (indexOwner account (setAccount account store)) =
      indexOwner account (setAccount account (contents store)) := by
  rw [contents_indexOwner, contents_setAccount]

theorem mirrors_createAccount (account : Account) :
    Mirrors (σ := σ) (createAccount account) (createAccount account) := by
  refine mirrors_bind (mirrors_modify (contents_write account)) fun _ => ?_
  exact mirrors_bind (mirrors_indexTargets account) fun _ => mirrors_indexCertificates account

theorem mirrors_deleteAccount (domain name : String) :
    Mirrors (σ := σ) (deleteAccount domain name) (deleteAccount domain name) := by
  refine mirrors_get fun store => ?_
  rw [account?_contents]
  refine mirrors_bind (mirrors_lift _) fun found => ?_
  rcases found with _ | account
  · exact mirrors_pure false
  · refine mirrors_bind (mirrors_modify (contents_unindexOwner account)) fun _ => ?_
    refine mirrors_bind (mirrors_unindexTargets account) fun _ => ?_
    refine mirrors_bind (mirrors_unindexCertificates account) fun _ => ?_
    refine mirrors_bind (mirrors_modify fun store => ?_) fun _ => mirrors_pure true
    exact LawfulStore.contents_delete store _

theorem mirrors_transferAccount (account : Account) (newOwner : Address) (reset : Bool) :
    Mirrors (σ := σ) (transferAccount account newOwner reset)
      (transferAccount account newOwner reset) := by
  refine mirrors_bind (mirrors_modify (contents_unindexOwner account)) fun _ => ?_
  have hwrite (updated : Account) :
      Mirrors (σ := σ)
        (do
          modify fun store => indexOwner updated (setAccount updated store)
          return updated)
        (do
          modify fun store => indexOwner updated (setAccount updated store)
          return updated) :=
    mirrors_bind (mirrors_modify (contents_write updated)) fun _ => mirrors_pure updated
  cases reset with
  | false => exact hwrite _
  | true =>
      refine mirrors_bind (mirrors_unindexTargets account) fun _ => ?_
      exact mirrors_bind (mirrors_unindexCertificates account) fun _ => hwrite _

theorem mirrors_addCertificate (account : Account) (certificate : Bytes) :
    Mirrors (σ := σ) (addCertificate account certificate)
      (addCertificate account certificate) := by
  refine mirrors_bind (mirrors_modify (contents_setAccount _)) fun _ => ?_
  exact mirrors_bind (mirrors_index _ _) fun _ => mirrors_pure _

theorem mirrors_deleteCertificate (account : Account) (position : Nat) :
    Mirrors (σ := σ) (deleteCertificate account position)
      (deleteCertificate account position) := by
  rw [deleteCertificate, deleteCertificate]
  split
  · exact mirrors_throw _
  · refine mirrors_bind (mirrors_modify (contents_setAccount _)) fun _ => ?_
    exact mirrors_bind (mirrors_unindex _ _) fun _ => mirrors_pure _

theorem mirrors_replaceTargets (account : Account) (targets : List Target) :
    Mirrors (σ := σ) (replaceTargets account targets) (replaceTargets account targets) := by
  refine mirrors_bind (mirrors_unindexTargets account) fun _ => ?_
  refine mirrors_bind (mirrors_modify (contents_setAccount _)) fun _ => ?_
  exact mirrors_bind (mirrors_indexTargets _) fun _ => mirrors_pure _

theorem mirrors_replaceMetadata (account : Account) (uri : String) :
    Mirrors (σ := σ) (replaceMetadata account uri) (replaceMetadata account uri) :=
  mirrors_bind (mirrors_modify (contents_setAccount _)) fun _ => mirrors_pure _

theorem mirrors_deleteAccounts (domain : String) (names : List String) :
    Mirrors (σ := σ) (deleteAccounts domain names) (deleteAccounts domain names) :=
  mirrors_forM fun name => mirrors_discard (mirrors_deleteAccount domain name)

theorem mirrors_deleteDomain (name : String) :
    Mirrors (σ := σ) (deleteDomain name) (deleteDomain name) := by
  refine mirrors_get fun store => ?_
  rw [domain?_contents]
  refine mirrors_bind (mirrors_lift _) fun found => ?_
  rcases found with _ | domain
  · exact mirrors_pure false
  · refine mirrors_get fun store => ?_
    rw [accountNames_contents]
    refine mirrors_bind (mirrors_deleteAccounts name _) fun _ => ?_
    refine mirrors_bind (mirrors_modify fun store => ?_) fun _ => mirrors_pure true
    rw [contents_unindexDomain]
    exact congrArg _ (LawfulStore.contents_delete store _)

theorem mirrors_flushDomain (name : String) :
    Mirrors (σ := σ) (flushDomain name) (flushDomain name) := by
  refine mirrors_get fun store => ?_
  rw [domain?_contents]
  refine mirrors_bind (mirrors_lift _) fun found => ?_
  rcases found with _ | domain
  · exact mirrors_pure false
  · refine mirrors_get fun store => ?_
    rw [accountNames_contents]
    exact mirrors_bind (mirrors_deleteAccounts name _) fun _ => mirrors_pure true

end Registry

end NameRegistry
