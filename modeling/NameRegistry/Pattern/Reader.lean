import NameRegistry.Pattern.Basic
import NameRegistry.Pattern.Language
import NameRegistry.Text.Decimal
/-!
The written form of patterns: literals, escapes, classes, anchors, groups, alternatives and
repetitions. Other forms are not read.
-/
namespace NameRegistry.Pattern

/-- A group that is being read: the alternatives before the present one and the parts of the
present one, both in reverse. -/
structure Level where
  alternatives : List Pattern
  parts : List Pattern

namespace Level

def fresh : Level := ⟨[], []⟩

/-- One pattern after the other, for a list in reverse. -/
def chain (parts : List Pattern) : Pattern :=
  parts.foldl (fun rest part => .sequence part rest) .nothing

def add (level : Level) (part : Pattern) : Level := { level with parts := part :: level.parts }

/-- The group with its last part repeated, if there is one to repeat. -/
def repeatLast (level : Level) (least : Nat) (most : Option Nat) : Option Level :=
  match level.parts with
  | [] => none
  | last :: parts => some { level with parts := .repeated last least most :: parts }

/-- The group with the next alternative begun. -/
def branch (level : Level) : Level := ⟨chain level.parts :: level.alternatives, []⟩

def pattern (level : Level) : Pattern :=
  level.alternatives.foldl (fun others one => .either one others) (chain level.parts)

end Level

/-- A class that is being read: whether it is negated, and its ranges so far. -/
structure Class where
  negated : Bool
  ranges : List (Char × Char)

namespace Class

def add (set : Class) (low high : Char) : Class := { set with ranges := (low, high) :: set.ranges }

/-- The class with the character that is held back, if there is one. -/
def release (set : Class) : Option Char → Class
  | some c => set.add c c
  | none => set

def pattern (set : Class) : Pattern := .oneOf set.negated set.ranges.reverse

end Class

/-- Where in a pattern a character stands. In a class, a character is held back until it is known
that it does not begin a range. -/
inductive Place
  | outside
  | behindRepetition
  | escape
  | classOpen
  | classStart (set : Class)
  | inClass (set : Class) (held : Option Char)
  | classEscape (set : Class) (held : Option Char)
  | range (set : Class) (low : Char)
  | rangeEscape (set : Class) (low : Char)
  | least (digits : List Char)
  | most (least : Nat) (digits : List Char)

/-- Whether a backslash before the character makes it a literal. -/
def isEscapable (c : Char) : Bool :=
  c.toNat < 0x80 && !c.isAlphanum && c ≠ '<' && c ≠ '>'

/-- The number that digits in reverse denote. -/
def count (digits : List Char) : Nat :=
  digits.foldr (fun digit n => 10 * n + (digit.toNat - '0'.toNat)) 0

/-- A character outside of classes, escapes and counts: the next place, the group and the groups
around it. -/
def outside? (level : Level) (around : List Level) (c : Char) :
    Option (Place × Level × List Level) :=
  if c = '\\' then some (.escape, level, around)
  else if c = '[' then some (.classOpen, level, around)
  else if c = '(' then some (.outside, .fresh, level :: around)
  else if c = ')' then
    match around with
    | [] => none
    | outer :: around => some (.outside, outer.add level.pattern, around)
  else if c = '|' then some (.outside, level.branch, around)
  else if c = '*' then return (.behindRepetition, ← level.repeatLast 0 none, around)
  else if c = '+' then return (.behindRepetition, ← level.repeatLast 1 none, around)
  else if c = '?' then return (.behindRepetition, ← level.repeatLast 0 (some 1), around)
  else if c = '{' then
    if level.parts.isEmpty then none else some (.least [], level, around)
  else
    let part :=
      if c = '^' then .start else if c = '$' then .finish else if c = '.' then .anything
      else .literal c
    some (.outside, level.add part, around)

/-- A character of a class behind its beginning; `none` stands for the end of the class. -/
def member (set : Class) (held : Option Char) (c : Char) : Option Place :=
  if c = ']' then none
  else if c = '\\' then some (.classEscape set held)
  else match held with
    | some low =>
      if c = '-' then some (.range set low) else some (.inClass (set.add low low) (some c))
    | none => some (.inClass set (some c))

/-- A character at the beginning of a class, where hyphens stand for themselves, and so does a
closing bracket before anything else. -/
def firstMember (set : Class) (c : Char) : Option Place :=
  if c = '-' then some (.classStart (set.add '-' '-'))
  else if c = ']' ∧ set.ranges.isEmpty then some (.inClass (set.add c c) none)
  else member set none c

/-- Whether a character in a class begins a class within it or ends an operator on classes. -/
def isOperator (held : Option Char) (c : Char) : Bool :=
  c = '[' || held = some c && (c = '&' || c = '-' || c = '~')

/-- Goes on in a class, or closes it where there is no further place in it. -/
def stay (level : Level) (around : List Level) (set : Class) :
    Option Place → Place × Level × List Level
  | some place => (place, level, around)
  | none => (.outside, level.add set.pattern, around)

/-- One more character of a pattern. -/
def next? (level : Level) (around : List Level) (c : Char) :
    Place → Option (Place × Level × List Level)
  | .outside => outside? level around c
  | .behindRepetition =>
    if c = '?' then some (.outside, level, around) else outside? level around c
  | .escape =>
    if isEscapable c then some (.outside, level.add (.literal c), around) else none
  | .classOpen =>
    if c = '^' then some (.classStart ⟨true, []⟩, level, around)
    else if isOperator none c then none
    else some (stay level around ⟨false, []⟩ (firstMember ⟨false, []⟩ c))
  | .classStart set =>
    if isOperator none c then none else some (stay level around set (firstMember set c))
  | .inClass set held =>
    if isOperator held c then none
    else some (stay level around (set.release held) (member set held c))
  | .classEscape set held =>
    if isEscapable c then some (.inClass (set.release held) (some c), level, around) else none
  | .range set low =>
    if c = ']' then some (.outside, level.add ((set.add low low).add '-' '-').pattern, around)
    else if c = '\\' then some (.rangeEscape set low, level, around)
    else if c = '-' then none
    else if low ≤ c then some (.inClass (set.add low c) none, level, around)
    else none
  | .rangeEscape set low =>
    if isEscapable c ∧ low ≤ c then some (.inClass (set.add low c) none, level, around) else none
  | .least digits =>
    if c.isDigit then some (.least (c :: digits), level, around)
    else if digits.isEmpty then none
    else if c = ',' then some (.most (count digits) [], level, around)
    else if c = '}' then
      return (.behindRepetition, ← level.repeatLast (count digits) (some (count digits)), around)
    else none
  | .most least digits =>
    if c.isDigit then some (.most least (c :: digits), level, around)
    else if c = '}' then
      if digits.isEmpty then return (.behindRepetition, ← level.repeatLast least none, around)
      else if least ≤ count digits then
        return (.behindRepetition, ← level.repeatLast least (some (count digits)), around)
      else none
    else none

/-- Reads the rest of a pattern. It must end outside of classes, escapes, counts and groups. -/
def readFrom (place : Place) (level : Level) (around : List Level) : List Char → Option Pattern
  | [] =>
    match place, around with
    | .outside, [] | .behindRepetition, [] => some level.pattern
    | _, _ => none
  | c :: rest => do
    let (place, level, around) ← next? level around c place
    readFrom place level around rest

def ofText? (text : String) : Option Pattern := readFrom .outside .fresh [] text.toList

/-- What is said of a text that is not read. -/
def refusal : String := "not a pattern"

/-- The language of these patterns. -/
def language : PatternLanguage where
  read text :=
    match ofText? text with
    | some pattern => .ok pattern.isMatch
    | none => .error refusal

end NameRegistry.Pattern
