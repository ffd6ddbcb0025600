import NameRegistry.Config.Patterns
import NameRegistry.Context
/-!
What the checks of a message look at.
-/
namespace NameRegistry

/-- What a check looks at beside the record: the configuration with the language of its patterns,
the block and the store. -/
structure Situation (σ : Type) where
  language : PatternLanguage
  config : Config
  context : Context
  store : σ

end NameRegistry
