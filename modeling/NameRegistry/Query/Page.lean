import NameRegistry.Error
import NameRegistry.Word
/-!
Pages of a list. Pages count from one; a page number or size that is not positive stands for the
first page and for the usual size. The same is computed once over the integers and once in words,
where every step has to have a result.
-/
namespace NameRegistry

/-- A page of a list: its number and its size, as they were asked for. -/
structure Page where
  offset : Int64
  resultsPerPage : Int64
  deriving DecidableEq, Repr

namespace Page

/-- The size of a page if none is asked for. -/
def usualSize : Int := 100

def size (page : Page) : Int :=
  if page.resultsPerPage.toInt ≤ 0 then usualSize else page.resultsPerPage.toInt

def number (page : Page) : Int := if page.offset.toInt ≤ 0 then 1 else page.offset.toInt

/-- The position of the first item of a page among `total` items, if the end of the page is a
number of 64 bits and the page has an item. -/
def first? (page : Page) (total : Nat) : Option Nat :=
  let finish := page.number * page.size
  let first := finish - page.size
  if finish ≤ Int64.maxValue.toInt ∧ first < total then some first.toNat else none

/-- The items of a page. An empty list has nothing on any page; of another list, the page has to
hold an item. -/
def slice {α : Type} (page : Page) (items : List α) : Except Error (List α) :=
  if items.isEmpty then .ok []
  else match page.first? items.length with
    | some first => .ok ((items.drop first).take page.size.toNat)
    | none =>
      .error ⟨.invalidRequest,
        s!"invalid offset {page.number} for {items.length} results at {page.size} per page"⟩

section Words

open Word

variable (page : Page)

/-- The size of a page as a word. -/
def sizeWord : Int64 := if page.resultsPerPage ≤ 0 then 100 else page.resultsPerPage

/-- The number of a page as a word. -/
def numberWord : Int64 := if page.offset ≤ 0 then 1 else page.offset

/-- The refusal of a page among `total` items that holds none of them. -/
def refusal (total : Nat) : Error :=
  ⟨.invalidRequest, s!"invalid offset {page.number} for {total} results at {page.size} per page"⟩

/-- The last position of a page that begins at `first`, among `total` items. -/
def lastInWords (first total : UInt64) : Except Trap UInt64 := do
  let width := (unsigned? page.sizeWord.toInt).getD greatest
  let more ← orOverflow (unsigned? (width.toNat - 1))
  let last := (unsigned? (first.toNat + more.toNat)).getD greatest
  return min last (← orOverflow (unsigned? (total.toNat - 1)))

/-- The first and the last position of a page among `total` items, computed in words; an empty list
has none. -/
def boundsInWords (total : UInt64) : Except Trap (Except Error (Option (UInt64 × UInt64))) :=
  if total = 0 then .ok (.ok none)
  else match signed? (page.numberWord.toInt * page.sizeWord.toInt) with
    | none => .ok (.error (page.refusal total.toNat))
    | some finish => do
      let first ← orOverflow (signed? (finish.toInt - page.sizeWord.toInt))
      match unsigned? first.toInt with
      | none => return .error (page.refusal total.toNat)
      | some first =>
        if first < total then return .ok (some (first, ← page.lastInWords first total))
        else return .error (page.refusal total.toNat)

/-- The items of a page, computed in words. -/
def sliceInWords {α : Type} (items : List α) : Except Trap (Except Error (List α)) := do
  match ← page.boundsInWords (.ofNat items.length) with
  | .error error => return .error error
  | .ok none => return .ok (items.extract 0 0)
  | .ok (some (first, last)) => return .ok (← between first last items)

end Words

end Page

end NameRegistry
