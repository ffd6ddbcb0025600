/-!
The version of the registry.
-/
namespace NameRegistry

/-- The version of the registry's rules and formats. -/
def version : String := "0.1.0"

end NameRegistry
