/-!
Patterns on text. Matching follows all ways at once: marks stand before each character of a text
and behind the last, and a pattern carries them from where an occurrence of it may begin to where
one may end.
-/
namespace NameRegistry

/-- A pattern on a text. `start` and `finish` match nothing, at the beginning and at the very end
of the text; `anything` is any character but a line feed; `oneOf` is a character within one of the
ranges, or within none of them if it is negated. -/
inductive Pattern
  | nothing
  | start
  | finish
  | anything
  | literal (c : Char)
  | oneOf (negated : Bool) (ranges : List (Char × Char))
  | sequence (first second : Pattern)
  | either (first second : Pattern)
  | repeated (body : Pattern) (least : Nat) (most : Option Nat)
  deriving DecidableEq, Repr

namespace Pattern

/-- Marks where there is one in either of two lists. -/
def union (first second : List Bool) : List Bool := List.zipWith (· || ·) first second

/-- The marks behind the characters that are accepted, of those before them. -/
def carry (accepts : Char → Bool) (chars : List Char) (marks : List Bool) : List Bool :=
  false :: List.zipWith (fun c mark => mark && accepts c) chars marks

/-- The mark at the beginning alone. -/
def keepFirst : List Bool → List Bool
  | [] => []
  | mark :: rest => mark :: rest.map fun _ => false

/-- The mark at the end alone. -/
def keepLast : List Bool → List Bool
  | [] => []
  | [mark] => [mark]
  | _ :: rest => false :: keepLast rest

/-- The marks behind `n` occurrences. -/
def exactly (move : List Bool → List Bool) : Nat → List Bool → List Bool
  | 0, marks => marks
  | n + 1, marks => exactly move n (move marks)

/-- The marks behind up to `n` occurrences. Once an occurrence adds none, no further one will. -/
def upTo (move : List Bool → List Bool) : Nat → List Bool → List Bool
  | 0, marks => marks
  | n + 1, marks =>
    let more := union marks (move marks)
    if more = marks then marks else upTo move n more

/-- The marks behind a pattern, of those before it. Each further round of an unbounded repetition
adds a mark or nothing, so that it needs no more rounds than there are marks. -/
def move (chars : List Char) : Pattern → List Bool → List Bool
  | nothing, marks => marks
  | start, marks => keepFirst marks
  | finish, marks => keepLast marks
  | anything, marks => carry (· ≠ '\n') chars marks
  | literal expected, marks => carry (· = expected) chars marks
  | oneOf negated ranges, marks =>
    carry (fun c => (ranges.any fun range => range.1 ≤ c && c ≤ range.2) != negated) chars marks
  | sequence first second, marks => move chars second (move chars first marks)
  | either first second, marks => union (move chars first marks) (move chars second marks)
  | repeated body least most, marks =>
    let further := match most with
      | none => marks.length
      | some most => most - least
    upTo (move chars body) further (exactly (move chars body) least marks)

/-- Whether a pattern matches anywhere in a text. -/
def isMatch (pattern : Pattern) (text : String) : Bool :=
  let chars := text.toList
  (pattern.move chars (List.replicate (chars.length + 1) true)).any id

end Pattern

end NameRegistry
