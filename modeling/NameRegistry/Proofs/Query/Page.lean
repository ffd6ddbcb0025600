import Mathlib.Algebra.Group.Nat.Defs
import NameRegistry.Query.Page

namespace NameRegistry.Page

variable {α : Type}

theorem one_le_number (page : Page) : 1 ≤ page.number := by
  rw [number]
  split <;> omega

theorem one_le_size (page : Page) : 1 ≤ page.size := by
  rw [size]
  split
  · decide
  · omega

theorem size_le (page : Page) : page.size ≤ Int64.maxValue.toInt := by
  have hmax : Int64.maxValue.toInt = 2 ^ 63 - 1 := by decide
  have hlt := page.resultsPerPage.toInt_lt
  rw [size, hmax]
  split
  · decide
  · omega

/-- How many items there are before a page. -/
def before (page : Page) : Int := (page.number - 1) * page.size

theorem before_nonneg (page : Page) : 0 ≤ page.before :=
  Int.mul_nonneg (Int.sub_nonneg.mpr page.one_le_number)
    (Int.le_trans (by decide) page.one_le_size)

theorem number_mul_size (page : Page) : page.number * page.size = page.before + page.size := by
  rw [before, Int.sub_mul, Int.one_mul, Int.sub_add_cancel]

theorem before_add_size_le {page : Page} {total : Nat} (htotal : total < 2 ^ 62)
    (h : page.before < total) : page.before + page.size ≤ Int64.maxValue.toInt := by
  have hmax : Int64.maxValue.toInt = 2 ^ 63 - 1 := by decide
  have hsize := page.one_le_size
  rcases Int.lt_or_eq_of_le page.one_le_number with hnumber | hnumber
  -- Behind the first page, the size is not greater than the number of the items before the page.
  · have hbefore : 1 * page.size ≤ page.before :=
      Int.mul_le_mul_of_nonneg_right (by omega) (by omega)
    omega
  · have hbefore : page.before = 0 := by rw [before, ← hnumber, Int.sub_self, Int.zero_mul]
    rw [hbefore, Int.zero_add]
    exact page.size_le

theorem slice_nil (page : Page) : page.slice ([] : List α) = .ok [] := rfl

theorem slice_map {β : Type} (page : Page) (f : α → β) (items : List α) :
    page.slice (items.map f) = (page.slice items).map (List.map f) := by
  rw [slice, slice, List.isEmpty_map, List.length_map]
  split
  · rfl
  · cases page.first? items.length with
    | none => rfl
    | some first => simp [Except.map]

theorem slice_of_lt {page : Page} {items : List α} (hlength : items.length < 2 ^ 62)
    (h : page.before < items.length) :
    page.slice items = .ok ((items.drop page.before.toNat).take page.size.toNat) := by
  have hend := before_add_size_le hlength h
  have hitems : items.isEmpty = false := by
    rcases items with _ | ⟨item, rest⟩
    · exact absurd h (Int.not_lt.mpr page.before_nonneg)
    · rfl
  have hfirst : page.first? items.length = some page.before.toNat := by
    rw [first?, number_mul_size, Int.add_sub_cancel]
    exact if_pos ⟨hend, h⟩
  rw [slice, hitems, hfirst]
  rfl

/-- How many pages of a size there are; an empty list has one, without items. -/
def count (size total : Nat) : Nat := (total - 1) / size + 1

/-- The items on the page that stands behind `position` others. -/
def part (size : Nat) (items : List α) (position : Nat) : List α :=
  (items.drop (position * size)).take size

/-- The items, page by page. -/
def parts (size : Nat) (items : List α) : List (List α) :=
  (List.range (count size items.length)).map (part size items)

theorem flatten_range_parts (size : Nat) (items : List α) (number : Nat) :
    ((List.range number).map (part size items)).flatten = items.take (number * size) := by
  induction number with
  | zero => simp
  | succ number ih =>
      rw [List.range_succ, List.map_append, List.flatten_append, ih, List.map_singleton,
        List.flatten_singleton, part, Nat.succ_mul, List.take_add]

theorem length_le_count_mul {size : Nat} (hsize : 0 < size) (total : Nat) :
    total ≤ count size total * size := by
  have hdiv := Nat.lt_div_mul_add hsize (a := total - 1)
  rw [count, Nat.succ_mul]
  omega

theorem flatten_parts {size : Nat} (hsize : 0 < size) (items : List α) :
    (parts size items).flatten = items := by
  rw [parts, flatten_range_parts, List.take_of_length_le (length_le_count_mul hsize _)]

/-- The page of a size that stands behind `position` others. -/
def behind (position : Nat) (size : Int64) : Page := ⟨.ofNat (position + 1), size⟩

theorem size_behind {size : Int64} (hsize : 0 < size.toInt) (position : Nat) :
    (behind position size).size = size.toInt := if_neg (Int.not_le.mpr hsize)

theorem before_behind {size : Int64} (hsize : 0 < size.toInt) {position : Nat}
    (hposition : position < 2 ^ 62) : (behind position size).before = position * size.toInt := by
  have hoffset : (Int64.ofNat (position + 1)).toInt = position + 1 :=
    Int64.toInt_ofNat_of_lt (by omega)
  have hnumber : (behind position size).number = position + 1 := by
    rw [number, behind, hoffset, if_neg (by omega)]
  rw [before, hnumber, size_behind hsize, Int.add_sub_cancel]

theorem slice_behind {size : Int64} (hsize : 0 < size.toInt) {items : List α}
    (hlength : items.length < 2 ^ 62) {position : Nat}
    (hposition : position < count size.toInt.toNat items.length) :
    (behind position size).slice items = .ok (part size.toInt.toNat items position) := by
  obtain ⟨width, hwidth⟩ := Int.eq_ofNat_of_zero_le (Int.le_of_lt hsize)
  have hpositive : 0 < width := by omega
  rw [hwidth, Int.toNat_natCast] at hposition ⊢
  have hle : position * width ≤ items.length - 1 :=
    (Nat.le_div_iff_mul_le hpositive).mp (Nat.le_of_lt_succ hposition)
  have hposition' : position ≤ position * width := Nat.le_mul_of_pos_right position hpositive
  have hbefore : (behind position size).before = (position * width : Nat) := by
    rw [before_behind hsize (by omega), hwidth, Int.natCast_mul]
  rcases items with _ | ⟨item, rest⟩
  · rw [part, List.drop_nil, List.take_nil]
    exact slice_nil _
  · have hlt : (behind position size).before < (item :: rest).length := by
      rw [hbefore]
      exact Int.ofNat_lt.mpr (Nat.lt_of_le_of_lt hle (by simp))
    rw [slice_of_lt hlength hlt, size_behind hsize, hwidth, hbefore]
    rfl

end NameRegistry.Page
