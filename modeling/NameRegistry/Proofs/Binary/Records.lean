import NameRegistry.Binary.Records
import NameRegistry.Proofs.Binary.Reading

namespace NameRegistry

open Binary Reader

/-- Whether the length of a text can be written. -/
def TextFits (text : String) : Prop := Utf8.size text < lengthBound

instance (text : String) : Decidable (TextFits text) :=
  inferInstanceAs (Decidable (Utf8.size text < lengthBound))

/-- Whether the lengths of a target's texts can be written. -/
structure Target.Fits (target : Target) : Prop where
  id : TextFits target.id
  address : TextFits target.address

/-- Whether the lengths of everything in an account can be written. -/
structure Account.Fits (account : Account) : Prop where
  domain : TextFits account.domain
  name : TextFits account.name
  targetsCount : account.targets.length < lengthBound
  targets : ∀ target ∈ account.targets, target.Fits
  certificatesCount : account.certificates.length < lengthBound
  certificates : ∀ certificate ∈ account.certificates, certificate.length < lengthBound
  metadataUri : TextFits account.metadataUri

theorem reads_domainType (domainType : DomainType) :
    Reads DomainType.reader (Binary.number 4 domainType.tag) domainType := by
  have htag : domainType.tag < 256 ^ 4 := by cases domainType <;> decide
  rw [← List.append_nil (Binary.number 4 domainType.tag)]
  refine reads_bind _ (reads_number htag) ?_
  cases domainType <;> exact reads_pure _

theorem reads_target {target : Target} (h : target.Fits) :
    Reads Target.reader target.toBytes target :=
  reads_bind (fun id => do return Target.mk id (← Reader.text)) (reads_text h.id)
    (reads_map (Target.mk target.id) (reads_text h.address))

theorem Domain.reads {domain : Domain} (h : TextFits domain.name) :
    Reads Domain.reader domain.toBytes domain := by
  have hbytes : domain.toBytes =
      Binary.text domain.name ++ (domain.admin.bytes ++ (Binary.int64 domain.validUntil ++
        (Binary.number 4 domain.domainType.tag ++ (Binary.int64 domain.accountRenewal ++
          (Binary.option Address.bytes domain.broker ++ []))))) := by
    simp only [Domain.toBytes, List.append_assoc, List.append_nil]
  rw [hbytes]
  refine reads_bind _ (reads_text h) ?_
  refine reads_bind _ (reads_address domain.admin) ?_
  refine reads_bind _ (reads_int64 domain.validUntil) ?_
  refine reads_bind _ (reads_domainType domain.domainType) ?_
  refine reads_bind _ (reads_int64 domain.accountRenewal) ?_
  refine reads_bind _ (reads_option fun broker _ => reads_address broker) ?_
  exact reads_pure domain

theorem Account.reads {account : Account} (h : account.Fits) :
    Reads Account.reader account.toBytes account := by
  have hbytes : account.toBytes =
      Binary.text account.domain ++ (Binary.text account.name ++ (account.owner.bytes ++
        (Binary.int64 account.validUntil ++ (Binary.list Target.toBytes account.targets ++
          (Binary.list Binary.block account.certificates ++
            (Binary.option Address.bytes account.broker ++
              (Binary.text account.metadataUri ++ []))))))) := by
    simp only [Account.toBytes, List.append_assoc, List.append_nil]
  have htargets := reads_list h.targetsCount fun target htarget =>
    reads_target (h.targets target htarget)
  have hcertificates := reads_list h.certificatesCount fun certificate hcertificate =>
    reads_block (h.certificates certificate hcertificate)
  rw [hbytes]
  refine reads_bind _ (reads_text h.domain) ?_
  refine reads_bind _ (reads_text h.name) ?_
  refine reads_bind _ (reads_address account.owner) ?_
  refine reads_bind _ (reads_int64 account.validUntil) ?_
  refine reads_bind _ htargets ?_
  refine reads_bind _ hcertificates ?_
  refine reads_bind _ (reads_option fun broker _ => reads_address broker) ?_
  refine reads_bind _ (reads_text h.metadataUri) ?_
  exact reads_pure account

theorem Domain.ofBytes_toBytes_append {domain : Domain} (h : TextFits domain.name)
    (rest : Bytes) : Domain.ofBytes (domain.toBytes ++ rest) = .ok domain := by
  rw [Domain.ofBytes, Domain.reads h rest]

theorem Account.ofBytes_toBytes_append {account : Account} (h : account.Fits) (rest : Bytes) :
    Account.ofBytes (account.toBytes ++ rest) = .ok account := by
  rw [Account.ofBytes, Account.reads h rest]

theorem Domain.ofBytes_toBytes {domain : Domain} (h : TextFits domain.name) :
    Domain.ofBytes domain.toBytes = .ok domain := by
  rw [← List.append_nil domain.toBytes, Domain.ofBytes_toBytes_append h]

theorem Account.ofBytes_toBytes {account : Account} (h : account.Fits) :
    Account.ofBytes account.toBytes = .ok account := by
  rw [← List.append_nil account.toBytes, Account.ofBytes_toBytes_append h]

theorem exact_domainType :
    Exact DomainType.reader (fun domainType => Binary.number 4 domainType.tag) fun _ => True := by
  intro bytes rest domainType h
  obtain ⟨tag, behind, htag, hread⟩ := bind_eq_some_iff.mp h
  obtain ⟨rfl, _⟩ := exact_number 4 htag
  split at hread
  · obtain ⟨rfl, rfl⟩ := pure_eq_some_iff.mp hread
    exact ⟨rfl, trivial⟩
  · obtain ⟨rfl, rfl⟩ := pure_eq_some_iff.mp hread
    exact ⟨rfl, trivial⟩
  · cases hread

theorem exact_target : Exact Target.reader Target.toBytes Target.Fits := by
  intro bytes rest target h
  obtain ⟨id, behind, hid, h⟩ := bind_eq_some_iff.mp h
  obtain ⟨address, behind', haddress, h⟩ := bind_eq_some_iff.mp h
  obtain ⟨rfl, rfl⟩ := pure_eq_some_iff.mp h
  obtain ⟨rfl, hidFits⟩ := exact_text hid
  obtain ⟨rfl, haddressFits⟩ := exact_text haddress
  exact ⟨(List.append_assoc _ _ _).symm, hidFits, haddressFits⟩

theorem Domain.exact : Exact Domain.reader Domain.toBytes fun domain => TextFits domain.name := by
  intro bytes rest domain h
  obtain ⟨name, _, hname, h⟩ := bind_eq_some_iff.mp h
  obtain ⟨admin, _, hadmin, h⟩ := bind_eq_some_iff.mp h
  obtain ⟨validUntil, _, hvalidUntil, h⟩ := bind_eq_some_iff.mp h
  obtain ⟨domainType, _, hdomainType, h⟩ := bind_eq_some_iff.mp h
  obtain ⟨accountRenewal, _, haccountRenewal, h⟩ := bind_eq_some_iff.mp h
  obtain ⟨broker, _, hbroker, h⟩ := bind_eq_some_iff.mp h
  obtain ⟨rfl, rfl⟩ := pure_eq_some_iff.mp h
  obtain ⟨rfl, hnameFits⟩ := exact_text hname
  obtain ⟨rfl, _⟩ := exact_address hadmin
  obtain ⟨rfl, _⟩ := exact_int64 hvalidUntil
  obtain ⟨rfl, _⟩ := exact_domainType hdomainType
  obtain ⟨rfl, _⟩ := exact_int64 haccountRenewal
  obtain ⟨rfl, _⟩ := exact_option exact_address hbroker
  refine ⟨?_, hnameFits⟩
  simp only [Domain.toBytes, List.append_assoc]

theorem Account.exact : Exact Account.reader Account.toBytes Account.Fits := by
  intro bytes rest account h
  obtain ⟨domain, _, hdomain, h⟩ := bind_eq_some_iff.mp h
  obtain ⟨name, _, hname, h⟩ := bind_eq_some_iff.mp h
  obtain ⟨owner, _, howner, h⟩ := bind_eq_some_iff.mp h
  obtain ⟨validUntil, _, hvalidUntil, h⟩ := bind_eq_some_iff.mp h
  obtain ⟨targets, _, htargets, h⟩ := bind_eq_some_iff.mp h
  obtain ⟨certificates, _, hcertificates, h⟩ := bind_eq_some_iff.mp h
  obtain ⟨broker, _, hbroker, h⟩ := bind_eq_some_iff.mp h
  obtain ⟨metadataUri, _, hmetadataUri, h⟩ := bind_eq_some_iff.mp h
  obtain ⟨rfl, rfl⟩ := pure_eq_some_iff.mp h
  obtain ⟨rfl, hdomainFits⟩ := exact_text hdomain
  obtain ⟨rfl, hnameFits⟩ := exact_text hname
  obtain ⟨rfl, _⟩ := exact_address howner
  obtain ⟨rfl, _⟩ := exact_int64 hvalidUntil
  obtain ⟨rfl, htargetsCount, htargetsFit⟩ := exact_list exact_target htargets
  obtain ⟨rfl, hcertificatesCount, hcertificatesFit⟩ := exact_list exact_block hcertificates
  obtain ⟨rfl, _⟩ := exact_option exact_address hbroker
  obtain ⟨rfl, hmetadataUriFits⟩ := exact_text hmetadataUri
  refine ⟨?_, hdomainFits, hnameFits, htargetsCount, htargetsFit, hcertificatesCount,
    hcertificatesFit, hmetadataUriFits⟩
  simp only [Account.toBytes, List.append_assoc]

/-- Whether records that fit are read from the byte strings that begin with their bytes and from no
others, and bytes that end before a record does are reported. -/
structure Canonical {ρ : Type} (toBytes : ρ → Bytes) (ofBytes : Bytes → Except Error ρ)
    (fits : ρ → Prop) : Prop where
  read {record : ρ} (rest : Bytes) : fits record → ofBytes (toBytes record ++ rest) = .ok record
  begins {bytes : Bytes} {record : ρ} :
    ofBytes bytes = .ok record → toBytes record <+: bytes ∧ fits record
  truncated {bytes : Bytes} {record : ρ} :
    fits record → bytes <+: toBytes record → bytes ≠ toBytes record →
      ∃ error, ofBytes bytes = .error error ∧ error.kind = .serialization

theorem canonical_of_exact {ρ : Type} {reader : Reader ρ} {toBytes : ρ → Bytes}
    {ofBytes : Bytes → Except Error ρ} {fits : ρ → Prop}
    (hreads : ∀ {record}, fits record → Reads reader (toBytes record) record)
    (hexact : Exact reader toBytes fits)
    (hofBytes : ∀ bytes, ofBytes bytes =
      (reader bytes).elim (.error corrupted) fun found => .ok found.1) :
    Canonical toBytes ofBytes fits := by
  have hread {record : ρ} (rest : Bytes) (h : fits record) :
      ofBytes (toBytes record ++ rest) = .ok record := by
    rw [hofBytes, hreads h rest]
    rfl
  have hbegins {bytes : Bytes} {record : ρ} (h : ofBytes bytes = .ok record) :
      toBytes record <+: bytes ∧ fits record := by
    rw [hofBytes] at h
    cases hfound : reader bytes with
    | none =>
        rw [hfound] at h
        cases h
    | some found =>
        rw [hfound] at h
        obtain rfl := Except.ok.inj h
        obtain ⟨rfl, hfits⟩ := hexact hfound
        exact ⟨List.prefix_append _ _, hfits⟩
  refine ⟨hread, hbegins, ?_⟩
  rintro bytes record hfits ⟨missing, hbytes⟩ hshort
  cases hfound : reader bytes with
  | none =>
      refine ⟨corrupted, ?_, rfl⟩
      rw [hofBytes, hfound]
      rfl
  | some found =>
      -- The record that is read would be read from all the bytes too.
      obtain ⟨other, rest⟩ := found
      obtain ⟨hother, hotherFits⟩ := hexact hfound
      have hwhole := hread [] hfits
      have hsame := hread (rest ++ missing) hotherFits
      rw [← List.append_assoc, ← hother, hbytes] at hsame
      rw [List.append_nil, hsame] at hwhole
      obtain rfl := Except.ok.inj hwhole
      have hlength := congrArg List.length hbytes
      have hlength' := congrArg List.length hother
      rw [List.length_append] at hlength hlength'
      have hmissing : missing = [] := List.eq_nil_of_length_eq_zero (by omega)
      rw [hmissing, List.append_nil] at hbytes
      exact absurd hbytes hshort

/-- A domain or an account is read from the byte strings that begin with its bytes, and from no
others. -/
theorem canonical_records :
    Canonical Domain.toBytes Domain.ofBytes (fun domain => TextFits domain.name) ∧
      Canonical Account.toBytes Account.ofBytes Account.Fits := by
  constructor
  · refine canonical_of_exact Domain.reads Domain.exact fun bytes => ?_
    rw [Domain.ofBytes]
    cases Domain.reader bytes <;> rfl
  · refine canonical_of_exact Account.reads Account.exact fun bytes => ?_
    rw [Account.ofBytes]
    cases Account.reader bytes <;> rfl

end NameRegistry
