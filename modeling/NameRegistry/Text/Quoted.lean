import NameRegistry.Text.Unprintable
/-!
Text in quotes for messages: characters without a printed form, backslashes and the enclosing quote
are escaped.
-/
namespace NameRegistry.Quoted

/-- A character between two characters `quote`. -/
def escape (quote c : Char) : List Char :=
  if c = quote ∨ c = '\\' then ['\\', c]
  else if c = '\n' then ['\\', 'n']
  else if c = '\r' then ['\\', 'r']
  else if c = '\t' then ['\\', 't']
  else if c = Char.ofNat 0 then ['\\', '0']
  else if isUnprintable c then ['\\', 'u', '{'] ++ Nat.toDigits 16 c.toNat ++ ['}']
  else [c]

/-- A character in single quotes. -/
def character (c : Char) : String := String.ofList ('\'' :: escape '\'' c ++ ['\''])

/-- A text in double quotes. -/
def text (s : String) : String := String.ofList ('"' :: s.toList.flatMap (escape '"') ++ ['"'])

end NameRegistry.Quoted
