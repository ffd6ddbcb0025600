/-!
Languages of patterns. The registry is not tied to one: it only asks which texts are patterns, and
which texts each of these matches.
-/
namespace NameRegistry

/-- A language of patterns. A text that is a pattern is read as the test of the texts that it
matches; a text that is none is refused with a reason. -/
structure PatternLanguage where
  read : String → Except String (String → Bool)

end NameRegistry
