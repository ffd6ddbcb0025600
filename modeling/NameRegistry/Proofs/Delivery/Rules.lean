import NameRegistry.Proofs.Delivery.Succession
import NameRegistry.Proofs.Guard.Requirement
import NameRegistry.Proofs.Registry.Listing

namespace NameRegistry

namespace Config

/-- Whether the rules of a configuration allow a domain. -/
structure AllowsDomain (language : PatternLanguage) (config : Config) (domain : Domain) :
    Prop where
  noSeparator : '*' ∉ domain.name.toList
  name : language.isMatch config.validity.domainName domain.name = true

/-- Whether the rules of a configuration allow an account. -/
structure AllowsAccount (language : PatternLanguage) (config : Config) (account : Account) :
    Prop where
  name : account.name ≠ "" → language.isMatch config.validity.accountName account.name = true
  targetsCount : account.targets.length ≤ config.targetsMax.toNat
  targets : config.AllowsTargets language account.targets
  certificatesCount : account.certificates.length ≤ config.certificatesMax.toNat
  certificateSizes : ∀ certificate ∈ account.certificates,
    1 ≤ certificate.length ∧ certificate.length ≤ config.certificateSizeMax.toNat
  distinct : account.certificates.Nodup
  metadataSize : Utf8.size account.metadataUri ≤ config.metadataSizeMax.toNat

/-- Whether every record of a store stands under its own names and is allowed. -/
structure Governs (language : PatternLanguage) (config : Config) (store : Store) : Prop where
  domains {key value : Bytes} :
    (key, value) ∈ KeyValueStore.entriesUnder store Key.domains →
      ∃ domain, Domain.ofBytes value = .ok domain ∧ key = Key.domain domain.name ∧
        config.AllowsDomain language domain
  accounts {key value : Bytes} :
    (key, value) ∈ KeyValueStore.entriesUnder store Key.accounts →
      ∃ account, Account.ofBytes value = .ok account ∧
        key = Key.account account.domain account.name ∧ config.AllowsAccount language account

variable {language : PatternLanguage} {config : Config}

theorem allowsTargets_of_checkTargets {targets : List Target}
    (h : AccountGuard.checkTargets language config.validity [] targets = .ok ()) :
    config.AllowsTargets language targets := by
  obtain ⟨hvalid, hdistinct⟩ := AccountGuard.checkTargets_eq_ok_iff.mp h
  refine ⟨fun target htarget => ?_, hdistinct⟩
  obtain ⟨hid, haddress, hpackable, _⟩ := hvalid target htarget
  exact ⟨Validity.isMatch_of_accepts hid, Validity.isMatch_of_accepts haddress, hpackable⟩

theorem allowsAccount_registered {domainName name : String} {owner : Address} {validUntil : Int64}
    {targets : List Target} {broker : Option Address}
    (hname : name ≠ "" → language.isMatch config.validity.accountName name = true)
    (hcount : targets.length ≤ config.targetsMax.toNat)
    (htargets : config.AllowsTargets language targets) :
    config.AllowsAccount language { Account.plain domainName name owner validUntil with
      targets := targets, broker := broker } where
  name := hname
  targetsCount := hcount
  targets := htargets
  certificatesCount := Nat.zero_le _
  certificateSizes := nofun
  distinct := .nil
  metadataSize := Nat.zero_le _

theorem allowsTargets_nil : config.AllowsTargets language [] := ⟨nofun, .nil⟩

namespace AllowsAccount

variable {account : Account}

theorem moved (h : config.AllowsAccount language account) (newOwner : Address) (reset : Bool) :
    config.AllowsAccount language (Registry.moved account newOwner reset) := by
  cases reset with
  | false => exact { h with }
  | true => exact allowsAccount_registered h.name (Nat.zero_le _) allowsTargets_nil

theorem certified (h : config.AllowsAccount language account) {certificate : Bytes}
    (hsome : 1 ≤ certificate.length) (hsize : certificate.length ≤ config.certificateSizeMax.toNat)
    (hnew : certificate ∉ account.certificates)
    (hcount : account.certificates.length < config.certificatesMax.toNat) :
    config.AllowsAccount language (Registry.certified account certificate) := by
  refine { h with certificatesCount := ?_, certificateSizes := ?_, distinct := ?_ }
  · simp only [Registry.certified, List.length_append, List.length_singleton]
    omega
  · intro other hother
    rcases List.mem_append.mp hother with hother | hother
    · exact h.certificateSizes other hother
    · obtain rfl := List.mem_singleton.mp hother
      exact ⟨hsome, hsize⟩
  · rw [Registry.certified, ← List.concat_eq_append]
    exact h.distinct.concat hnew

theorem decertified (h : config.AllowsAccount language account) (position : Nat) :
    config.AllowsAccount language (Registry.decertified account position) := by
  have hcount := List.length_eraseIdx_le account.certificates position
  exact { h with
    certificatesCount := Nat.le_trans hcount h.certificatesCount
    certificateSizes := fun other hother =>
      h.certificateSizes other (List.mem_of_mem_eraseIdx hother)
    distinct := h.distinct.eraseIdx position }

end AllowsAccount

theorem keeps_rules (language : PatternLanguage) (config : Config) :
    config.Keeps language (config.AllowsDomain language) (config.AllowsAccount language) where
  domains hstep hbefore := by
    cases hstep with
    | kept => exact hbefore _ rfl
    | registered hname =>
        have hplain := Decision.plain_of_isValidName hname
        rw [DomainGuard.isValidName, if_neg (List.contains_iff_mem.not.mpr hplain)] at hname
        exact ⟨notMem_of_plain hplain, Validity.isMatch_of_accepts hname⟩
    | renewed => exact { hbefore _ rfl with }
    | transferred => exact { hbefore _ rfl with }
  accounts hstep hbefore := by
    cases hstep with
    | kept => exact hbefore _ rfl
    | root => exact allowsAccount_registered (absurd rfl) (Nat.zero_le _) allowsTargets_nil
    | registered hname hcount htargets =>
        exact allowsAccount_registered (fun _ => Validity.isMatch_of_accepts hname) hcount
          (allowsTargets_of_checkTargets htargets)
    | renewed => exact { hbefore _ rfl with }
    | moved => exact (hbefore _ rfl).moved _ _
    | certified hsome hsize hnew hcount =>
        exact (hbefore _ rfl).certified hsome hsize hnew hcount
    | decertified => exact (hbefore _ rfl).decertified _
    | retargeted hcount htargets =>
        exact { hbefore _ rfl with
          targetsCount := hcount, targets := allowsTargets_of_checkTargets htargets }
    | described hsize =>
        exact { hbefore _ rfl with metadataSize := hsize }

end Config

/-- Where deliveries under one configuration lead, its rules allow every record. -/
theorem Delivered.governed {language : PatternLanguage} {config : Config} {store : Store}
    (h : Delivered language config store) : config.Governs language store := by
  obtain ⟨records, hconsistent, hall⟩ := h.exists_records (config.keeps_rules language)
  constructor
  · intro key value hentry
    obtain ⟨domain, hread, hkey, hfound⟩ :=
      hconsistent.holds.domain_of_entry hconsistent.sound hentry
    exact ⟨domain, hread, hkey.symm, hall.domains hfound⟩
  · intro key value hentry
    obtain ⟨account, hread, hkey, hfound⟩ :=
      hconsistent.holds.account_of_entry hconsistent.sound hentry
    exact ⟨account, hread, hkey.symm, hall.accounts hfound⟩

/-- The store after Bob has added certificates up to the limit and tried one more. -/
def Sample.certifiedStore : Store :=
  Sample.deliverAll (Sample.block 100)
    ([[4], [5], [6]].map fun certificate =>
      ⟨Sample.bob, none, .account "bank" "teller" (.addCertificate certificate)⟩) Sample.store

theorem governed_sample :
    Registry.account? Sample.certifiedStore "bank" "teller" =
        .ok (some { Account.plain "bank" "teller" Sample.bob neverExpires with
          targets := [⟨"iov", "abc"⟩], certificates := [[1, 2, 3], [4], [5]] }) ∧
      Delivered Pattern.language Config.testing Sample.certifiedStore ∧
      Config.testing.Governs Pattern.language Sample.certifiedStore := by
  have hdelivered : Delivered Pattern.language Config.testing Sample.certifiedStore :=
    Sample.delivered_deliverAll (Sample.block 100) Sample.delivered_store (by decide)
  exact ⟨by decide +kernel, hdelivered, Delivered.governed hdelivered⟩

end NameRegistry
