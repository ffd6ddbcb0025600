import NameRegistry.Proofs.Delivery.Reachable

namespace NameRegistry

/-- Whether records have the same domain under a name, with the same accounts. -/
structure Records.AgreeAt (name : String) (records records' : Records) : Prop where
  domain : records.domain? name = records'.domain? name
  account (accountName : String) :
    records.account? name accountName = records'.account? name accountName

namespace Records.AgreeAt

variable {name : String} {records records' records'' : Records}

theorem refl (name : String) (records : Records) : AgreeAt name records records :=
  ⟨rfl, fun _ => rfl⟩

theorem symm (h : AgreeAt name records records') : AgreeAt name records' records :=
  ⟨h.domain.symm, fun accountName => (h.account accountName).symm⟩

theorem trans (h : AgreeAt name records records') (h' : AgreeAt name records' records'') :
    AgreeAt name records records'' :=
  ⟨h.domain.trans h'.domain,
    fun accountName => (h.account accountName).trans (h'.account accountName)⟩

end Records.AgreeAt

theorem Records.eq_of_agreeAt {records records' : Records}
    (h : ∀ name, AgreeAt name records records') : records = records' := by
  ext1
  · funext name
    exact (h name).domain
  · funext name accountName
    exact (h name).account accountName

namespace Change

/-- Whether a change is to one domain and its accounts. -/
def Within (name : String) : Change → Prop
  | createDomain domain root => domain.name = name ∧ root.domain = name
  | setDomain domain | transferDomain domain _ _ => domain.name = name
  | deleteDomain name' | flushDomain name' | deleteAccount name' _ => name' = name
  | createAccount account | setAccount account | transferAccount account _ _
  | addCertificate account _ | deleteCertificate account _ | replaceTargets account _
  | replaceMetadata account _ => account.domain = name

variable {name : String} {change : Change}

theorem agreeAt_of_ne (h : change.Within name) {other : String} (hother : other ≠ name)
    (records : Records) : Records.AgreeAt other (change.onRecords records) records := by
  cases change <;> constructor <;> grind [Within, onRecords]

theorem agreeAt_onRecords (change : Change) {records records' : Records}
    (hagree : Records.AgreeAt name records records') :
    Records.AgreeAt name (change.onRecords records) (change.onRecords records') := by
  obtain ⟨hdomain, haccount⟩ := hagree
  cases change <;> constructor <;> grind [onRecords]

end Change

theorem Records.Sound.names_of_object {records : Records} (hsound : records.Sound)
    {account : Account} (hfound : records.account? account.domain account.name = some account)
    {domainName name : String} (hplain : Plain domainName)
    (hobject : Key.object account.domain account.name = Key.object domainName name) :
    account.domain = domainName ∧ account.name = name :=
  Key.object_inj (hsound.accounts hfound).2.2.plain hplain hobject

namespace Decision.Granted

variable {situation : Situation Store} {records : Records} {signer : Address} {change : Change}

theorem within {action : Action} (h : Granted situation records signer action change)
    (hsound : records.Sound) (hplain : Plain action.domainName) :
    change.Within action.domainName := by
  cases h with
  | registerDomain => exact ⟨rfl, rfl⟩
  | renewDomain hfound => exact (hsound.domains hfound).1
  | deleteDomain => rfl
  | transferDomain _ hfound => exact (hsound.domains hfound).1
  | flushDomain => rfl
  | registerAccount => rfl
  | renewAccount _ hfound => exact (hsound.accounts hfound).1
  | deleteAccount => rfl
  | transferAccount _ _ _ hfound => exact (hsound.accounts hfound).1
  | addCertificate hfound hobject => exact (hsound.names_of_object hfound hplain hobject).1
  | deleteCertificate hfound hobject => exact (hsound.names_of_object hfound hplain hobject).1
  | replaceTargets _ hfound => exact (hsound.accounts hfound).1
  | replaceMetadata hfound hobject => exact (hsound.names_of_object hfound hplain hobject).1

theorem onRecords_account {domainName name : String} {action : AccountAction}
    (h : Granted situation records signer (.account domainName name action) change)
    (hsound : records.Sound) (hplain : Plain domainName) :
    ∃ found, change.onRecords records = records.setAccount domainName name found := by
  cases h with
  | registerAccount => exact ⟨some _, rfl⟩
  | renewAccount _ hfound =>
      obtain ⟨rfl, rfl, _⟩ := hsound.accounts hfound
      exact ⟨some _, rfl⟩
  | deleteAccount => exact ⟨none, rfl⟩
  | transferAccount _ _ _ hfound =>
      obtain ⟨rfl, rfl, _⟩ := hsound.accounts hfound
      exact ⟨some _, rfl⟩
  | addCertificate hfound hobject =>
      obtain ⟨rfl, rfl⟩ := hsound.names_of_object hfound hplain hobject
      exact ⟨some _, rfl⟩
  | deleteCertificate hfound hobject =>
      obtain ⟨rfl, rfl⟩ := hsound.names_of_object hfound hplain hobject
      exact ⟨some _, rfl⟩
  | replaceTargets _ hfound =>
      obtain ⟨rfl, rfl, _⟩ := hsound.accounts hfound
      exact ⟨some _, rfl⟩
  | replaceMetadata hfound hobject =>
      obtain ⟨rfl, rfl⟩ := hsound.names_of_object hfound hplain hobject
      exact ⟨some _, rfl⟩

end Decision.Granted

end NameRegistry
