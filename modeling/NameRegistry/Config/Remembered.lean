import NameRegistry.Config.Patterns
/-!
A configuration that remembers its patterns. They are read once; as long as the texts are the same
they need not be read again, and after a change of the texts what is remembered is passed over.
-/
namespace NameRegistry

/-- A configuration with the patterns that were the first to be read from it. -/
structure RememberedConfig where
  config : Config
  patterns : Option Patterns

namespace RememberedConfig

/-- A configuration of which no patterns have been read. -/
def fresh (config : Config) : RememberedConfig := ⟨config, none⟩

/-- The same memory for another configuration. -/
def reconfigure (remembered : RememberedConfig) (config : Config) : RememberedConfig :=
  { remembered with config := config }

/-- The patterns, and what is remembered after they were asked for. -/
def read (language : PatternLanguage) (remembered : RememberedConfig) :
    Except Error Patterns × RememberedConfig :=
  let validity := remembered.config.validity
  match remembered.patterns with
  | some patterns =>
    (if patterns.source = validity then .ok patterns else validity.read language, remembered)
  | none =>
    match validity.read language with
    | .ok patterns => (.ok patterns, { remembered with patterns := some patterns })
    | .error error => (.error error, remembered)

def accepts (language : PatternLanguage) (remembered : RememberedConfig) (subject : Subject)
    (text : String) : Except Error Bool × RememberedConfig :=
  let (patterns, remembered) := remembered.read language
  (patterns.map fun patterns => patterns.pattern subject text, remembered)

def validate (language : PatternLanguage) (remembered : RememberedConfig) :
    Except Error Unit × RememberedConfig :=
  let (patterns, remembered) := remembered.read language
  (patterns.bind fun _ => remembered.config.checkLimits, remembered)

end RememberedConfig

end NameRegistry
