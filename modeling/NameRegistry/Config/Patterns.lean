import NameRegistry.Config.Basic
import NameRegistry.Key.Packed
import NameRegistry.Pattern.Language
/-!
The patterns of a configuration in a language of patterns, and which configurations are usable.
-/
namespace NameRegistry

/-- The patterns of a configuration, read, with the texts that they were read from. -/
structure Patterns where
  source : Validity
  domainName : String → Bool
  accountName : String → Bool
  blockchainId : String → Bool
  blockchainAddress : String → Bool

/-- The pattern of a field; one that cannot be read is named with the reason. -/
def PatternLanguage.readField (language : PatternLanguage) (field text : String) :
    Except Error (String → Bool) :=
  (language.read text).mapError fun reason => ⟨.config, s!"{field}: {reason}"⟩

/-- Reads the patterns, up to the first that cannot be read. -/
def Validity.read (language : PatternLanguage) (validity : Validity) : Except Error Patterns := do
  return {
    source := validity
    domainName := ← language.readField "valid_domain_name" validity.domainName
    accountName := ← language.readField "valid_account_name" validity.accountName
    blockchainId := ← language.readField "valid_blockchain_id" validity.blockchainId
    blockchainAddress :=
      ← language.readField "valid_blockchain_address" validity.blockchainAddress }

/-- Something that a pattern of the configuration is for. -/
inductive Subject
  | domainName
  | accountName
  | blockchainId
  | blockchainAddress
  deriving DecidableEq, Repr

def Patterns.pattern (patterns : Patterns) : Subject → String → Bool
  | .domainName => patterns.domainName
  | .accountName => patterns.accountName
  | .blockchainId => patterns.blockchainId
  | .blockchainAddress => patterns.blockchainAddress

/-- Whether a text is valid for what it names. All the patterns have to be readable for it. -/
def Validity.accepts (language : PatternLanguage) (validity : Validity) (subject : Subject)
    (text : String) : Except Error Bool := do
  return (← validity.read language).pattern subject text

namespace Config

/-- Whether the limits and periods of a configuration can be worked with. -/
def checkLimits (config : Config) : Except Error Unit := do
  let size := config.certificateSizeMax
  require (size ≠ 0 && size.toNat ≤ Packed.maxLength) .config
    s!"certificate_size_max must be within 1..={Packed.maxLength}, got {size}"
  require (!config.domainRenewal.isZero) .config "domain_renewal_period must not be zero"

/-- Whether a configuration is usable: its patterns can be read, a certificate of every allowed
size can be indexed, and a renewal adds some time. -/
def validate (language : PatternLanguage) (config : Config) : Except Error Unit := do
  let _ ← config.validity.read language
  config.checkLimits

end Config

end NameRegistry
