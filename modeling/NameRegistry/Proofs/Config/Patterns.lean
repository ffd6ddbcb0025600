import NameRegistry.Config.Patterns
import NameRegistry.Proofs.Failure

namespace NameRegistry

/-- Whether a text is a pattern that matches another one. -/
def PatternLanguage.isMatch (language : PatternLanguage) (pattern text : String) : Bool :=
  match language.read pattern with
  | .ok test => test text
  | .error _ => false

theorem PatternLanguage.eq_isMatch_of_readField {language : PatternLanguage}
    {field pattern : String} {test : String → Bool}
    (h : language.readField field pattern = .ok test) : test = language.isMatch pattern := by
  funext text
  rw [readField] at h
  rw [isMatch]
  cases hread : language.read pattern with
  | ok _ =>
      rw [hread] at h
      exact congrFun (Except.ok.inj h).symm text
  | error _ =>
      rw [hread] at h
      cases h

/-- The pattern for what a text names, as it is written. -/
def Validity.pattern (validity : Validity) : Subject → String
  | .domainName => validity.domainName
  | .accountName => validity.accountName
  | .blockchainId => validity.blockchainId
  | .blockchainAddress => validity.blockchainAddress

theorem Validity.pattern_of_read {language : PatternLanguage} {validity : Validity}
    {patterns : Patterns} (h : validity.read language = .ok patterns) (subject : Subject) :
    patterns.pattern subject = language.isMatch (validity.pattern subject) := by
  obtain ⟨_, hdomain, h⟩ := bind_eq_ok_iff.mp h
  obtain ⟨_, haccount, h⟩ := bind_eq_ok_iff.mp h
  obtain ⟨_, hid, h⟩ := bind_eq_ok_iff.mp h
  obtain ⟨_, haddress, rfl⟩ := bind_pure_eq_ok_iff.mp h
  cases subject with
  | domainName => exact language.eq_isMatch_of_readField hdomain
  | accountName => exact language.eq_isMatch_of_readField haccount
  | blockchainId => exact language.eq_isMatch_of_readField hid
  | blockchainAddress => exact language.eq_isMatch_of_readField haddress

/-- Whether the patterns of a configuration can be read. -/
def Config.Readable (language : PatternLanguage) (config : Config) : Prop :=
  ∃ patterns, config.validity.read language = .ok patterns

namespace Config

variable {language : PatternLanguage} {config : Config}

theorem readable_of_validate (h : config.validate language = .ok ()) :
    config.Readable language := by
  obtain ⟨patterns, hread, _⟩ := bind_eq_ok_iff.mp h
  exact ⟨patterns, hread⟩

theorem Readable.accepts_eq (h : config.Readable language) (subject : Subject) (text : String) :
    config.validity.accepts language subject text =
      .ok (language.isMatch (config.validity.pattern subject) text) := by
  obtain ⟨patterns, hread⟩ := h
  rw [Validity.accepts, hread, ← Validity.pattern_of_read hread]
  rfl

end Config

theorem Validity.isMatch_of_accepts {language : PatternLanguage} {validity : Validity}
    {subject : Subject} {text : String} (h : validity.accepts language subject text = .ok true) :
    language.isMatch (validity.pattern subject) text = true := by
  obtain ⟨patterns, hread, h⟩ := bind_eq_ok_iff.mp h
  rw [← Validity.pattern_of_read hread]
  exact Except.ok.inj h

end NameRegistry
