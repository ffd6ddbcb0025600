import NameRegistry.Delivery.Decision
import NameRegistry.Proofs.Registry.Domains
/-!
Changes, by the records that they leave. `Change.Fits` says what the checks of a message assure of
a change; a change that fits is carried out on the records as `Change.onRecords` says, and leaves
them sound and linked. Only a certificate that cannot be indexed makes it fail.
-/
namespace NameRegistry

namespace Change

open Registry

/-- An account that has passed to another owner if the given one had it. -/
@[grind =]
def passedOn (owner newOwner : Address) (account : Account) : Account :=
  if account.owner = owner then moved account newOwner false else account

/-- What becomes of an account other than the root account when its domain is transferred. -/
@[grind =]
def settled (owner newOwner : Address) : TransferFlag → Option Account → Option Account
  | .flush, _ => none
  | .owned, found => found.map (passedOn owner newOwner)
  | .leave, found => found

/-- The records that a change leaves. -/
def onRecords (records : Records) : Change → Records
  | createDomain domain root =>
      (records.setDomain domain.name (some domain)).setAccount root.domain root.name (some root)
  | setDomain domain => records.setDomain domain.name (some domain)
  | deleteDomain name => (records.changeAccounts name fun _ _ => none).setDomain name none
  | transferDomain domain newAdmin flag =>
      (records.setDomain domain.name (some (transferred domain newAdmin))).changeAccounts
        domain.name fun name found =>
          if name = "" then found.map (moved · newAdmin true)
          else settled domain.admin newAdmin flag found
  | flushDomain name =>
      records.changeAccounts name fun name' found => if name' ≠ "" then none else found
  | createAccount account => records.setAccount account.domain account.name (some account)
  | setAccount account => records.setAccount account.domain account.name (some account)
  | deleteAccount domain name => records.setAccount domain name none
  | transferAccount account newOwner reset =>
      records.setAccount account.domain account.name (some (moved account newOwner reset))
  | addCertificate account certificate =>
      records.setAccount account.domain account.name (some (certified account certificate))
  | deleteCertificate account position =>
      records.setAccount account.domain account.name (some (decertified account position))
  | replaceTargets account targets =>
      records.setAccount account.domain account.name (some { account with targets := targets })
  | replaceMetadata account uri =>
      records.setAccount account.domain account.name (some { account with metadataUri := uri })

/-- What the checks of a message assure of the change that it asks for. -/
def Fits (records : Records) : Change → Prop
  | createDomain domain root =>
      domain.Valid ∧ records.domain? domain.name = none ∧ root = Decision.rootAccount domain
  | setDomain domain =>
      domain.Valid ∧ ∃ before, records.domain? domain.name = some before ∧
        domain = { before with validUntil := domain.validUntil }
  | deleteDomain name => ∃ domain, records.domain? name = some domain
  | transferDomain domain newAdmin _ =>
      records.domain? domain.name = some domain ∧ newAdmin ≠ Address.empty
  | flushDomain name => ∃ domain, records.domain? name = some domain
  | createAccount account =>
      account.Valid ∧ records.account? account.domain account.name = none ∧
        ∃ domain, records.domain? account.domain = some domain
  | setAccount account =>
      ∃ before, records.account? account.domain account.name = some before ∧
        account = { before with validUntil := account.validUntil }
  | deleteAccount domain name => name ≠ "" ∧ ∃ parent, records.domain? domain = some parent
  | transferAccount account newOwner _ =>
      records.account? account.domain account.name = some account ∧ account.name ≠ "" ∧
        newOwner ≠ Address.empty
  | addCertificate account certificate =>
      records.account? account.domain account.name = some account ∧
        certificate ∉ account.certificates ∧
          account.certificates.length + 1 < Binary.lengthBound
  | deleteCertificate account position =>
      records.account? account.domain account.name = some account ∧
        position < account.certificates.length
  | replaceTargets account targets =>
      records.account? account.domain account.name = some account ∧
        (∀ target ∈ targets, target.Packable) ∧ (targets.map Target.id).Nodup ∧
          targets.length < Binary.lengthBound
  | replaceMetadata account uri =>
      records.account? account.domain account.name = some account ∧ TextFits uri

/-- Whether a change puts nothing into an index that cannot be packed. -/
def Indexable : Change → Prop
  | addCertificate _ certificate => Packed.Packable certificate
  | _ => True

variable {store : Store} {records : Records}

@[simp] theorem passedOn_domain (owner newOwner : Address) (account : Account) :
    (passedOn owner newOwner account).domain = account.domain := by
  rw [passedOn]
  split <;> rfl

@[simp] theorem passedOn_name (owner newOwner : Address) (account : Account) :
    (passedOn owner newOwner account).name = account.name := by
  rw [passedOn]
  split <;> rfl

theorem valid_passedOn {account : Account} (h : account.Valid) (owner : Address)
    {newOwner : Address} (hnewOwner : newOwner ≠ Address.empty) :
    (passedOn owner newOwner account).Valid := by
  rw [passedOn]
  split
  · exact valid_moved h hnewOwner false
  · exact h

theorem reaches_transferIfOwned (h : Holds store records) (hsound : records.Sound)
    {domain : String} (hplain : Plain domain) (owner : Address) {newOwner : Address}
    (hnewOwner : newOwner ≠ Address.empty) (name : String) :
    Reaches (transferIfOwned domain owner newOwner name) store ()
      (records.setAccount domain name
        ((records.account? domain name).map (passedOn owner newOwner))).slots := by
  have hsame : records.setAccount domain name (records.account? domain name) = records := by
    ext <;> grind
  refine reaches_get (reaches_lift (h.account?_eq hsound hplain name) ?_)
  cases hfound : records.account? domain name with
  | none =>
      rw [hfound] at hsame
      rw [Option.map_none, hsame]
      exact reaches_pure h
  | some account =>
      obtain ⟨rfl, rfl, hvalid⟩ := hsound.accounts hfound
      rw [hfound] at hsame
      simp only [Option.map_some, passedOn]
      split
      · exact reaches_discard
          (reaches_transferAccount h hvalid.indexable hfound hnewOwner false)
      · rw [hsame]
        exact reaches_pure h

theorem passedOn_passedOn (owner newOwner : Address) (found : Option Account) :
    (found.map (passedOn owner newOwner)).map (passedOn owner newOwner) =
      found.map (passedOn owner newOwner) := by
  cases found with
  | none => rfl
  | some account => grind [cleared]

theorem reaches_settleAccounts (h : Holds store records) (hsound : records.Sound)
    {domain found : Domain} (hplain : Plain domain.name)
    (hfound : records.domain? domain.name = some found) {newAdmin : Address}
    (hnewAdmin : newAdmin ≠ Address.empty) (flag : TransferFlag) :
    Reaches (settleAccounts domain newAdmin flag) store ()
      (records.changeAccounts domain.name fun name found =>
        if name ≠ "" then settled domain.admin newAdmin flag found else found).slots := by
  cases flag with
  | flush => exact reaches_discard (reaches_flushDomain h hsound hfound)
  | owned =>
      have hnames (name : String) :
          name ∈ (Registry.accountNames store domain.name).filter (· ≠ "") ↔
            (records.account? domain.name name).isSome ∧ decide (name ≠ "") := by
        rw [List.mem_filter, h.mem_accountNames hplain]
      refine reaches_get ?_
      have haccounts := changeAccounts_names (Option.map (passedOn domain.admin newAdmin)) rfl
        hnames
      simp only [decide_eq_true_eq] at haccounts
      simp only [settled]
      rw [← haccounts]
      apply reaches_forM_names _ _ _ _ h hsound
      · intro store records h hsound name
        exact reaches_transferIfOwned h hsound hplain domain.admin hnewAdmin name
      · intro records hsound name
        apply hsound.setAccount
        intro account haccount
        obtain ⟨before, hbefore, rfl⟩ := Option.map_eq_some_iff.mp haccount
        obtain ⟨hdomain, hname, hvalid⟩ := hsound.accounts hbefore
        rw [passedOn_domain, passedOn_name]
        exact ⟨hdomain, hname, valid_passedOn hvalid domain.admin hnewAdmin⟩
      · exact passedOn_passedOn domain.admin newAdmin
  | leave =>
      have hsame : records.changeAccounts domain.name (fun name found =>
          if name ≠ "" then settled domain.admin newAdmin .leave found else found) = records := by
        ext <;> grind
      rw [hsame]
      exact reaches_pure h

theorem valid_rootAccount {domain : Domain} (h : domain.Valid) :
    (Decision.rootAccount domain).Valid := by
  have hpositive : 0 < Binary.lengthBound := by decide
  refine ⟨h.plain, ?_, h.admin, nofun, .nil, nofun, .nil⟩
  exact ⟨h.fits, hpositive, hpositive, nofun, hpositive, nofun, hpositive⟩

theorem valid_transferred {domain : Domain} (h : domain.Valid) {newAdmin : Address}
    (hnewAdmin : newAdmin ≠ Address.empty) : (transferred domain newAdmin).Valid :=
  { h with admin := hnewAdmin }

theorem valid_settled {account after : Account} (h : account.Valid) (owner : Address)
    {newOwner : Address} (hnewOwner : newOwner ≠ Address.empty) {flag : TransferFlag}
    (hafter : settled owner newOwner flag (some account) = some after) :
    after.domain = account.domain ∧ after.name = account.name ∧ after.Valid := by
  cases flag with
  | flush => cases hafter
  | owned =>
      obtain rfl := Option.some.inj hafter
      exact ⟨passedOn_domain .., passedOn_name .., valid_passedOn h owner hnewOwner⟩
  | leave =>
      obtain rfl := Option.some.inj hafter
      exact ⟨rfl, rfl, h⟩

theorem settled_none (owner newOwner : Address) (flag : TransferFlag) :
    settled owner newOwner flag none = none := by
  cases flag <;> rfl

theorem sound_settled (hsound : records.Sound) (domain : String) (owner : Address)
    {newOwner : Address} (hnewOwner : newOwner ≠ Address.empty) (flag : TransferFlag) :
    (records.changeAccounts domain fun name found =>
      if name ≠ "" then settled owner newOwner flag found else found).Sound := by
  apply hsound.changeAccounts
  intro name account haccount
  split at haccount
  · cases hbefore : records.account? domain name with
    | none =>
        rw [hbefore, settled_none] at haccount
        cases haccount
    | some before =>
        obtain ⟨hdomain, hname, hvalid⟩ := hsound.accounts hbefore
        rw [hbefore] at haccount
        obtain ⟨hdomain', hname', hvalid'⟩ := valid_settled hvalid owner hnewOwner haccount
        exact ⟨hdomain'.trans hdomain, hname'.trans hname, hvalid'⟩
  · exact hsound.accounts haccount

theorem onRecords_transferDomain {domain : Domain} {root : Account}
    (hroot : records.account? domain.name "" = some root) (newAdmin : Address)
    (flag : TransferFlag) :
    (transferDomain domain newAdmin flag).onRecords records =
      ((records.setDomain domain.name (some (transferred domain newAdmin))).changeAccounts
        domain.name fun name found =>
          if name ≠ "" then settled domain.admin newAdmin flag found else found).setAccount
            domain.name "" (some (moved root newAdmin true)) := by
  ext <;> grind [onRecords]

theorem sound_setAccount (hsound : records.Sound) {account after : Account}
    (hfound : records.account? account.domain account.name = some account)
    (hdomain : after.domain = account.domain) (hname : after.name = account.name)
    (hvalid : account.Valid → after.Valid) :
    (records.setAccount account.domain account.name (some after)).Sound := by
  apply hsound.setAccount
  intro account' hafter
  obtain rfl := Option.some.inj hafter
  exact ⟨hdomain, hname, hvalid (hsound.accounts hfound).2.2⟩

theorem sound_onRecords (hsound : records.Sound) (hlinked : records.Linked) {change : Change}
    (hfits : change.Fits records) (hindexable : change.Indexable) :
    (change.onRecords records).Sound := by
  cases change with
  | createDomain domain root =>
      obtain ⟨hvalid, _, rfl⟩ := hfits
      apply (hsound.setDomain _).setAccount
      · intro account haccount
        obtain rfl := Option.some.inj haccount
        exact ⟨rfl, rfl, valid_rootAccount hvalid⟩
      · intro domain' hdomain
        obtain rfl := Option.some.inj hdomain
        exact ⟨rfl, hvalid⟩
  | setDomain domain =>
      apply hsound.setDomain
      intro domain' hdomain
      obtain rfl := Option.some.inj hdomain
      exact ⟨rfl, hfits.1⟩
  | deleteDomain name =>
      exact (hsound.changeAccounts (by simp)).setDomain (by simp)
  | transferDomain domain newAdmin flag =>
      obtain ⟨hfound, hnewAdmin⟩ := hfits
      obtain ⟨root, hroot, _⟩ := hlinked.root hfound
      obtain ⟨hdomain, hname, hvalid⟩ := hsound.accounts hroot
      rw [onRecords_transferDomain hroot]
      apply (sound_settled (hsound.setDomain _) domain.name domain.admin hnewAdmin flag).setAccount
      · intro account haccount
        obtain rfl := Option.some.inj haccount
        rw [moved_domain, moved_name]
        exact ⟨hdomain, hname, valid_moved hvalid hnewAdmin true⟩
      · intro domain' hdomain
        obtain rfl := Option.some.inj hdomain
        exact ⟨rfl, valid_transferred (hsound.domains hfound).2 hnewAdmin⟩
  | flushDomain name =>
      apply hsound.changeAccounts
      intro name' account haccount
      split at haccount
      · cases haccount
      · exact hsound.accounts haccount
  | createAccount account =>
      apply hsound.setAccount
      intro account' haccount
      obtain rfl := Option.some.inj haccount
      exact ⟨rfl, rfl, hfits.1⟩
  | setAccount account =>
      obtain ⟨before, hfound, hafter⟩ := hfits
      obtain ⟨hdomain, hname, hvalid⟩ := hsound.accounts hfound
      apply hsound.setAccount
      intro account' haccount
      obtain rfl := Option.some.inj haccount
      refine ⟨rfl, rfl, ?_⟩
      rw [hafter]
      exact { hvalid with fits := { hvalid.fits with } }
  | deleteAccount domain name => exact hsound.setAccount (by simp)
  | transferAccount account newOwner reset =>
      obtain ⟨hfound, _, hnewOwner⟩ := hfits
      exact sound_setAccount hsound hfound (moved_domain ..) (moved_name ..)
        fun hvalid => valid_moved hvalid hnewOwner reset
  | addCertificate account certificate =>
      obtain ⟨hfound, hnew, hcount⟩ := hfits
      exact sound_setAccount hsound hfound rfl rfl
        fun hvalid => valid_certified hvalid hindexable hnew hcount
  | deleteCertificate account position =>
      exact sound_setAccount hsound hfits.1 rfl rfl fun hvalid => valid_decertified hvalid position
  | replaceTargets account targets =>
      obtain ⟨hfound, htargets, hids, hcount⟩ := hfits
      exact sound_setAccount hsound hfound rfl rfl
        fun hvalid => valid_retargeted hvalid htargets hids hcount
  | replaceMetadata account uri =>
      exact sound_setAccount hsound hfits.1 rfl rfl
        fun hvalid => { hvalid with fits := { hvalid.fits with metadataUri := hfits.2 } }

theorem linked_setAccount (hlinked : records.Linked) {domain name : String} {before after : Account}
    (hfound : records.account? domain name = some before)
    (howner : name = "" → after.owner = before.owner) :
    (records.setAccount domain name (some after)).Linked where
  root {name' domain'} hdomain := by
    obtain ⟨root, hroot, hadmin⟩ := hlinked.root hdomain
    rw [Records.account?_setAccount]
    split
    · rename_i hnames
      obtain ⟨rfl, rfl⟩ := hnames
      obtain rfl := Option.some.inj (hfound.symm.trans hroot)
      exact ⟨after, rfl, (howner rfl).trans hadmin⟩
    · exact ⟨root, hroot, hadmin⟩
  parent {domain' name' account} haccount := by
    rw [Records.account?_setAccount] at haccount
    split at haccount
    · rename_i hnames
      obtain ⟨rfl, rfl⟩ := hnames
      exact hlinked.parent hfound
    · exact hlinked.parent haccount

theorem linked_onRecords (hlinked : records.Linked) {change : Change}
    (hfits : change.Fits records) : (change.onRecords records).Linked := by
  have hroot := @hlinked.root
  have hparent := @hlinked.parent
  cases change with
  | createDomain domain root =>
      obtain ⟨_, _, rfl⟩ := hfits
      constructor
      · intro name domain' hdomain
        grind [onRecords, Decision.rootAccount, Account.plain]
      · intro domain' name account haccount
        grind [onRecords, Decision.rootAccount, Account.plain]
  | setDomain domain =>
      obtain ⟨_, before, hfound, hafter⟩ := hfits
      have hadmin : domain.admin = before.admin := by rw [hafter]
      constructor
      · intro name domain' hdomain
        grind [onRecords]
      · intro domain' name account haccount
        grind [onRecords]
  | deleteDomain name =>
      constructor
      · intro name' domain hdomain
        grind [onRecords]
      · intro domain name' account haccount
        grind [onRecords]
  | transferDomain domain newAdmin flag =>
      -- The root account that there is passes to the new administrator with the domain.
      obtain ⟨root, hfound, _⟩ := hlinked.root hfits.1
      constructor
      · intro name domain' hdomain
        grind [onRecords, transferred, moved_owner]
      · intro domain' name account haccount
        grind [onRecords, Fits]
  | flushDomain name =>
      constructor
      · intro name' domain hdomain
        grind [onRecords]
      · intro domain name' account haccount
        grind [onRecords]
  | createAccount account =>
      -- The account is new, so it is not the root account of a domain that there is.
      obtain ⟨_, hnew, parent, hfound⟩ := hfits
      constructor
      · intro name domain hdomain
        grind [onRecords]
      · intro domain name account' haccount
        grind [onRecords]
  | setAccount account =>
      obtain ⟨before, hfound, hafter⟩ := hfits
      refine linked_setAccount hlinked hfound fun _ => ?_
      rw [hafter]
  | deleteAccount domain name =>
      obtain ⟨hname, _⟩ := hfits
      constructor
      · intro name' domain' hdomain
        grind [onRecords]
      · intro domain' name' account haccount
        grind [onRecords]
  | transferAccount account newOwner reset =>
      exact linked_setAccount hlinked hfits.1 fun hroot => absurd hroot hfits.2.1
  | addCertificate account certificate =>
      exact linked_setAccount hlinked hfits.1 fun _ => rfl
  | deleteCertificate account position =>
      exact linked_setAccount hlinked hfits.1 fun _ => rfl
  | replaceTargets account targets =>
      exact linked_setAccount hlinked hfits.1 fun _ => rfl
  | replaceMetadata account uri =>
      exact linked_setAccount hlinked hfits.1 fun _ => rfl

theorem reaches_moveDomain (h : Holds store records) (hsound : records.Sound)
    (hlinked : records.Linked) {domain : Domain}
    (hfound : records.domain? domain.name = some domain) {newAdmin : Address}
    (hnewAdmin : newAdmin ≠ Address.empty) (flag : TransferFlag) :
    Reaches (moveDomain domain newAdmin flag) store ()
      ((transferDomain domain newAdmin flag).onRecords records).slots := by
  obtain ⟨root, hroot, _⟩ := hlinked.root hfound
  obtain ⟨hdomain, hname, hvalid⟩ := hsound.accounts hroot
  have hdomainValid := (hsound.domains hfound).2
  have hsound' : (records.setDomain domain.name (some (transferred domain newAdmin))).Sound := by
    apply hsound.setDomain
    intro domain' hdomain
    obtain rfl := Option.some.inj hdomain
    exact ⟨rfl, valid_transferred hdomainValid hnewAdmin⟩
  have hsettled := sound_settled hsound' domain.name domain.admin hnewAdmin flag
  have htransferred := holds_transferDomain domain h hdomainValid.admin hfound hnewAdmin
  have hfound' : (records.setDomain domain.name (some (transferred domain newAdmin))).domain?
      domain.name = some (transferred domain newAdmin) := if_pos rfl
  rw [onRecords_transferDomain hroot]
  refine reaches_bind (reaches_modify htransferred) fun _ htransferred => ?_
  refine reaches_bind (reaches_settleAccounts htransferred hsound' hdomainValid.plain
    hfound' hnewAdmin flag) fun _ hafter => ?_
  refine reaches_get (reaches_lift (Holds.account?_eq hafter hsettled hdomainValid.plain "") ?_)
  -- No account without a name is settled, so the root account is still the one that there was.
  have hroot' : ((records.setDomain domain.name (some (transferred domain newAdmin))).changeAccounts
      domain.name fun name found =>
        if name ≠ "" then settled domain.admin newAdmin flag found else found).account?
          domain.name "" = some root := by
    simpa using hroot
  rw [hroot']
  have hmoved := reaches_transferAccount hafter hvalid.indexable
    (by rw [hdomain, hname, hroot']) hnewAdmin true
  rw [hdomain, hname] at hmoved
  exact reaches_discard hmoved

/-- A change that fits is carried out on the records. -/
theorem reaches_apply (h : Holds store records) (hsound : records.Sound) (hlinked : records.Linked)
    {change : Change} (hfits : change.Fits records) (hindexable : change.Indexable) :
    Reaches change.apply store () (change.onRecords records).slots := by
  cases change with
  | createDomain domain root =>
      obtain ⟨hvalid, hnew, rfl⟩ := hfits
      have hcreated := holds_createDomain domain h hvalid.admin hnew
      -- As the domain is not there yet, none of its accounts is, the root account included.
      have hroot :
          (records.setDomain domain.name (some domain)).account? domain.name "" = none := by
        cases hfound : records.account? domain.name "" with
        | none => exact hfound
        | some root =>
            obtain ⟨parent, hparent⟩ := hlinked.parent hfound
            cases hnew.symm.trans hparent
      refine reaches_bind (reaches_modify hcreated) fun _ hcreated => ?_
      exact reaches_createAccount hcreated (valid_rootAccount hvalid).indexable hroot
  | setDomain domain =>
      obtain ⟨_, before, hfound, hafter⟩ := hfits
      exact reaches_modify (holds_setDomain domain h hfound (by rw [hafter]))
  | deleteDomain name =>
      obtain ⟨domain, hfound⟩ := hfits
      exact reaches_discard (reaches_deleteDomain h hsound hfound)
  | transferDomain domain newAdmin flag =>
      exact reaches_moveDomain h hsound hlinked hfits.1 hfits.2 flag
  | flushDomain name =>
      obtain ⟨domain, hfound⟩ := hfits
      exact reaches_discard (reaches_flushDomain h hsound hfound)
  | createAccount account => exact reaches_createAccount h hfits.1.indexable hfits.2.1
  | setAccount account =>
      obtain ⟨before, hfound, hafter⟩ := hfits
      obtain ⟨hdomain, _, hvalid⟩ := hsound.accounts hfound
      refine reaches_modify (holds_setAccount h (hdomain ▸ hvalid.plain) hfound ?_ ?_ ?_) <;>
        rw [hafter]
  | deleteAccount domain name =>
      obtain ⟨_, parent, hparent⟩ := hfits
      obtain ⟨rfl, hvalid⟩ := hsound.domains hparent
      exact reaches_discard (reaches_deleteAccount h hsound hvalid.plain name)
  | transferAccount account newOwner reset =>
      obtain ⟨hfound, _, hnewOwner⟩ := hfits
      have hvalid := (hsound.accounts hfound).2.2
      exact reaches_discard (reaches_transferAccount h hvalid.indexable hfound hnewOwner reset)
  | addCertificate account certificate =>
      have hvalid := (hsound.accounts hfits.1).2.2
      exact reaches_discard (reaches_addCertificate h hvalid.plain hfits.1 hindexable)
  | deleteCertificate account position =>
      obtain ⟨hfound, hposition⟩ := hfits
      have hvalid := (hsound.accounts hfound).2.2
      exact reaches_discard (reaches_deleteCertificate h hvalid.indexable hvalid.distinct hfound
        (List.getElem?_eq_getElem hposition))
  | replaceTargets account targets =>
      have hvalid := (hsound.accounts hfits.1).2.2
      exact reaches_discard (reaches_replaceTargets h hvalid.indexable hfits.1 hfits.2.1)
  | replaceMetadata account uri =>
      have hvalid := (hsound.accounts hfits.1).2.2
      exact reaches_discard (reaches_replaceMetadata h hvalid.plain hfits.1 uri)

theorem apply_of_not_indexable {change : Change} (h : ¬ change.Indexable) (store : Store) :
    ∃ error after, change.apply store = .error (.error error) after := by
  cases change with
  | addCertificate account certificate =>
      obtain ⟨error, after, hfails⟩ := addCertificate_of_not_packable account store h
      refine ⟨error, after, ?_⟩
      change EStateM.bind (Registry.addCertificate account certificate) _ store = _
      simp only [EStateM.bind, hfails]
  | _ => exact absurd trivial h

end Change

end NameRegistry
