import NameRegistry.Delivery.Basic
import NameRegistry.Proofs.Delivery.Dependence
import NameRegistry.Proofs.Registry.Contents

namespace NameRegistry

variable {σ : Type} [KeyValueStore σ] [LawfulStore σ]

/-- What checks look at, with the contents in place of the store. -/
def Situation.onContents (situation : Situation σ) : Situation Store :=
  situation.over (contents situation.store)

theorem Decision.onMessage_onContents (situation : Situation σ) (message : Message) :
    onMessage situation.onContents message = onMessage situation message :=
  onMessage_congr (Registry.domain?_contents situation.store _)
    (Registry.account?_contents situation.store _)

namespace Change

open Registry

theorem mirrors_transferIfOwned (domain : String) (owner newOwner : Address) (name : String) :
    Mirrors (σ := σ) (transferIfOwned domain owner newOwner name)
      (transferIfOwned domain owner newOwner name) := by
  refine mirrors_get fun store => ?_
  rw [account?_contents]
  refine mirrors_bind (mirrors_lift _) fun found => ?_
  rcases found with _ | account
  · exact mirrors_pure ()
  · dsimp only
    split
    · exact mirrors_discard (mirrors_transferAccount account newOwner false)
    · exact mirrors_pure ()

theorem mirrors_settleAccounts (domain : Domain) (newAdmin : Address) (flag : TransferFlag) :
    Mirrors (σ := σ) (settleAccounts domain newAdmin flag)
      (settleAccounts domain newAdmin flag) := by
  cases flag with
  | flush => exact mirrors_discard (mirrors_flushDomain domain.name)
  | owned =>
      refine mirrors_get fun store => ?_
      rw [accountNames_contents]
      exact mirrors_forM fun name => mirrors_transferIfOwned _ _ newAdmin name
  | leave => exact mirrors_pure ()

theorem mirrors_moveDomain (domain : Domain) (newAdmin : Address) (flag : TransferFlag) :
    Mirrors (σ := σ) (moveDomain domain newAdmin flag) (moveDomain domain newAdmin flag) := by
  refine mirrors_bind (mirrors_modify (contents_transferDomain domain newAdmin)) fun _ => ?_
  refine mirrors_bind (mirrors_settleAccounts domain newAdmin flag) fun _ => ?_
  refine mirrors_get fun store => ?_
  rw [account?_contents]
  refine mirrors_bind (mirrors_lift _) fun found => ?_
  rcases found with _ | root
  · exact mirrors_pure ()
  · exact mirrors_discard (mirrors_transferAccount root newAdmin true)

theorem mirrors_apply (change : Change) : Mirrors (σ := σ) change.apply change.apply := by
  cases change with
  | createDomain domain root =>
      refine mirrors_bind (mirrors_modify (contents_createDomain domain)) fun _ => ?_
      exact mirrors_createAccount root
  | setDomain domain => exact mirrors_modify (contents_setDomain domain)
  | deleteDomain name => exact mirrors_discard (mirrors_deleteDomain name)
  | transferDomain domain newAdmin flag => exact mirrors_moveDomain domain newAdmin flag
  | flushDomain name => exact mirrors_discard (mirrors_flushDomain name)
  | createAccount account => exact mirrors_createAccount account
  | setAccount account => exact mirrors_modify (contents_setAccount account)
  | deleteAccount domain name => exact mirrors_discard (mirrors_deleteAccount domain name)
  | transferAccount account newOwner reset =>
      exact mirrors_discard (mirrors_transferAccount account newOwner reset)
  | addCertificate account certificate =>
      exact mirrors_discard (mirrors_addCertificate account certificate)
  | deleteCertificate account position =>
      exact mirrors_discard (mirrors_deleteCertificate account position)
  | replaceTargets account targets =>
      exact mirrors_discard (mirrors_replaceTargets account targets)
  | replaceMetadata account uri => exact mirrors_discard (mirrors_replaceMetadata account uri)

end Change

end NameRegistry
