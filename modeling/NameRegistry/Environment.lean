import NameRegistry.Config.Patterns
import NameRegistry.Message
/-!
What is around the registry: the language of patterns, and the ledger, where the configuration comes
from and who collects the fees.
-/
namespace NameRegistry

/-- What the registry asks of what is around it. `collectFee` charges a payer for a message and may
refuse. -/
structure Environment where
  language : PatternLanguage
  configuration : Context → Config
  isOwner : Context → Address → Bool
  collectFee : Context → Message → Address → Except Error Unit

namespace Environment

/-- Whether an address owns a configuration; the empty address owns none. -/
def owns (config : Config) (address : Address) : Bool :=
  !address.isEmpty && config.configurer = address

/-- The environment with one usable configuration throughout. -/
def fixed (language : PatternLanguage) (config : Config)
    (collectFee : Context → Message → Address → Except Error Unit) :
    Except Error Environment := do
  config.validate language
  return ⟨language, fun _ => config, fun _ => owns config, collectFee⟩

/-- A collector that charges nothing. -/
def noFees : Context → Message → Address → Except Error Unit := fun _ _ _ => .ok ()

end Environment

end NameRegistry
