import NameRegistry.Proofs.Delivery.Locality

namespace NameRegistry

open Registry

/-- Whether an action is a renewal, of a domain or of an account. -/
def Action.isRenewal : Action → Bool
  | domain _ .renew | account _ _ .renew => true
  | _ => false

theorem Registry.moved_moved (account : Account) (newOwner : Address) (reset : Bool) :
    moved (moved account newOwner reset) newOwner reset = moved account newOwner reset := by
  cases reset <;> rfl

theorem Account.Valid.notMem_decertified {account : Account} (h : account.Valid)
    {certificate : Bytes} {position : Nat}
    (hposition : account.certificates.idxOf? certificate = some position) :
    certificate ∉ (decertified account position).certificates := by
  have herase : (decertified account position).certificates =
      account.certificates.erase certificate := by
    rw [List.erase_eq_eraseIdx, hposition]
    rfl
  rw [herase]
  exact h.distinct.not_mem_erase

namespace Records

theorem Sound.eq_of_object {records : Records} {account updated found : Account}
    (hsound : (records.setAccount account.domain account.name (some updated)).Sound)
    (hfound : (records.setAccount account.domain account.name (some updated)).account?
      found.domain found.name = some found)
    (hobject : Key.object found.domain found.name = Key.object account.domain account.name) :
    found = updated := by
  have hwritten : (records.setAccount account.domain account.name (some updated)).account?
      account.domain account.name = some updated := if_pos ⟨rfl, rfl⟩
  obtain ⟨hdomain, _, hvalid⟩ := hsound.accounts hwritten
  obtain ⟨hdomain', hname'⟩ := hsound.names_of_object hfound (hdomain ▸ hvalid.plain) hobject
  rw [hdomain', hname', hwritten] at hfound
  exact (Option.some.inj hfound).symm

end Records

namespace Change

theorem settled_settled (owner newOwner : Address) (flag : TransferFlag)
    (found? : Option Account) :
    settled owner newOwner flag (settled owner newOwner flag found?) =
      settled owner newOwner flag found? := by
  cases flag with
  | flush => rfl
  | owned => exact passedOn_passedOn owner newOwner found?
  | leave => rfl

theorem onRecords_onRecords (change : Change) (records : Records) :
    change.onRecords (change.onRecords records) = change.onRecords records := by
  cases change with
  | transferDomain domain newAdmin flag =>
      have hroot (found? : Option Account) : (found?.map (moved · newAdmin true)).map
          (moved · newAdmin true) = found?.map (moved · newAdmin true) := by
        cases found? with
        | none => rfl
        | some root => rw [Option.map_some, Option.map_some, moved_moved]
      have hothers := settled_settled domain.admin newAdmin flag
      ext domainName name : 3
      · grind [onRecords]
      · simp only [onRecords, Records.account?_changeAccounts, Records.account?_setDomain]
        grind
  | createDomain | deleteDomain | flushDomain => ext <;> grind [onRecords]
  | setDomain => ext <;> grind [onRecords]
  | _ => exact Records.setAccount_setAccount _ _ _ _ _

end Change

theorem Decision.Granted.onRecords_again {situation situation' : Situation Store}
    {records : Records} {signer : Address} {action : Action} {change change' : Change}
    (h : Granted situation records signer action change) (hrecords : records.Sound)
    (hsound : (change.onRecords records).Sound) (haction : action.isRenewal = false)
    (hagain : Granted situation' (change.onRecords records) signer action change') :
    change'.onRecords (change.onRecords records) = change.onRecords records := by
  refine Eq.trans ?_ (change.onRecords_onRecords records)
  cases h with
  | renewDomain | renewAccount => cases haction
  -- What has been registered is there the second time, and what has been deleted is not.
  | registerDomain =>
      cases hagain with
      | registerDomain _ hnew => simp [Change.onRecords, newDomain] at hnew
  | registerAccount =>
      cases hagain with
      | registerAccount _ _ _ _ hnew => simp [Change.onRecords, Account.plain] at hnew
  | deleteDomain =>
      cases hagain with
      | deleteDomain hfound => simp [Change.onRecords] at hfound
  | deleteAccount =>
      cases hagain with
      | deleteAccount _ _ hfound => simp [Change.onRecords] at hfound
  | addCertificate _ hobject =>
      cases hagain with
      | addCertificate hfound' hobject' _ _ _ hnew =>
          obtain rfl := hsound.eq_of_object hfound' (hobject'.trans hobject.symm)
          simp [certified] at hnew
  | deleteCertificate hfound hobject _ hposition =>
      cases hagain with
      | deleteCertificate hfound' hobject' _ hposition' =>
          obtain rfl := hsound.eq_of_object hfound' (hobject'.trans hobject.symm)
          have hgone := (hrecords.accounts hfound).2.2.notMem_decertified hposition
          rw [← List.isSome_idxOf?, hposition'] at hgone
          exact absurd rfl hgone
  | flushDomain =>
      cases hagain with
      | flushDomain => rfl
  | @transferDomain _ domain newAdmin flag _ hfound _ hadmin =>
      cases hagain with
      | transferDomain _ hfound' _ hadmin' =>
          obtain ⟨rfl, _⟩ := hrecords.domains hfound
          obtain rfl : transferred domain newAdmin = _ := by
            simpa [Change.onRecords] using hfound'
          -- Only whoever has passed the domain to himself may pass it on again.
          obtain rfl : newAdmin = domain.admin := hadmin'.trans hadmin.symm
          rfl
  | @transferAccount _ _ domain account newOwner reset _ hdomain _ hfound =>
      cases hagain with
      | transferAccount _ hdomain' _ hfound' =>
          obtain ⟨rfl, rfl, _⟩ := hrecords.accounts hfound
          obtain rfl : domain = _ := Option.some.inj (hdomain.symm.trans hdomain')
          obtain rfl : moved account newOwner (reset || domain.domainType = .opened) = _ := by
            simpa [Change.onRecords] using hfound'
          simp only [Change.onRecords, moved_moved, moved_domain, moved_name]
  | @replaceTargets _ _ _ account targets _ hfound =>
      cases hagain with
      | replaceTargets _ hfound' =>
          obtain ⟨rfl, rfl, _⟩ := hrecords.accounts hfound
          obtain rfl : { account with targets := targets } = _ := by
            simpa [Change.onRecords] using hfound'
          rfl
  | replaceMetadata _ hobject =>
      cases hagain with
      | replaceMetadata hfound' hobject' =>
          obtain rfl := hsound.eq_of_object hfound' (hobject'.trans hobject.symm)
          rfl

/-- If a message that is no renewal goes through and is delivered once more at the same block, the
store stays as the first delivery left it, whether the second one goes through or not. -/
theorem Reachable.deliver_twice {store : Store} (h : Reachable store) (environment : Environment)
    (context : Context) (message : Message) (hmessage : message.action.Fits)
    (haction : message.action.isRenewal = false)
    (haccepted : (environment.deliver context message store).result = .ok ()) :
    let first := environment.deliver context message store
    (environment.deliver context message first.store).store = first.store := by
  intro first
  obtain ⟨records, hconsistent⟩ := h.consistent
  obtain ⟨change, hgranted, hfirst⟩ :=
    Environment.granted_of_accepted hconsistent haccepted hmessage
  rcases Environment.deliver_cases hfirst hmessage environment context with
    ⟨change', hagain, hsecond⟩ | ⟨_, hsame⟩
  · rw [hgranted.onRecords_again hconsistent.sound hfirst.sound haction hagain] at hsecond
    exact Layout.store_eq hsecond.holds hfirst.holds
  · exact hsame

/-- Alice takes Bob's account over and clears it, and is let do so again, to no effect. -/
theorem deliver_twice_sample :
    let message : Message := ⟨Sample.alice, none, .account "bank" "teller"
      (.transfer Sample.alice true)⟩
    let first := Sample.ledger.deliver (Sample.block 200) message Sample.store
    let second := Sample.ledger.deliver (Sample.block 200) message first.store
    first.result = .ok () ∧ first.store ≠ Sample.store ∧ second.result = .ok () ∧
      second.store = first.store := by
  intro message first second
  have haccepted : first.result = .ok () := by decide +kernel
  exact ⟨haccepted, by decide +kernel, by decide +kernel,
    Reachable.deliver_twice Sample.reachable_store Sample.ledger (Sample.block 200) message
      (by decide) rfl haccepted⟩

end NameRegistry
