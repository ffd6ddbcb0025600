import NameRegistry.Pattern.Basic

namespace NameRegistry.Pattern

/-- Whether the marks stand before and behind the characters, and behind accepted ones only. -/
structure Passed (accepts : Char → Bool) (chars : List Char) (marks : List Bool) : Prop where
  length : marks.length = chars.length + 1
  accepted {position : Nat} :
    marks[position]? = some true → ∀ c ∈ chars.take position, accepts c = true

/-- Whether a character is in a class. -/
def inClass (negated : Bool) (ranges : List (Char × Char)) (c : Char) : Bool :=
  (ranges.any fun range => range.1 ≤ c && c ≤ range.2) != negated

section Passed

variable {accepts : Char → Bool} {chars : List Char} {marks marks' : List Bool}

theorem passed_keepFirst (h : marks.length = chars.length + 1) :
    Passed accepts chars (keepFirst marks) := by
  rcases marks with _ | ⟨mark, rest⟩
  · cases h
  · refine ⟨by simpa [keepFirst] using h, fun {position} hmark => ?_⟩
    rcases position with _ | position
    · simp
    · rw [keepFirst, List.getElem?_cons_succ, List.getElem?_map] at hmark
      cases hrest : rest[position]? <;> simp [hrest] at hmark

theorem passed_carry (h : Passed accepts chars marks) :
    Passed accepts chars (carry accepts chars marks) := by
  have hlength := h.length
  refine ⟨by simp [carry, hlength], fun {position} hmark => ?_⟩
  rcases position with _ | position
  · simp [carry] at hmark
  · rw [carry, List.getElem?_cons_succ, List.getElem?_zipWith_eq_some] at hmark
    obtain ⟨c, mark, hc, hbefore, hboth⟩ := hmark
    obtain ⟨rfl, hc'⟩ := Bool.and_eq_true_iff.mp hboth
    rw [List.take_add_one, hc]
    intro other hother
    rcases List.mem_append.mp hother with hother | hother
    · exact h.accepted hbefore other hother
    · obtain rfl := List.mem_singleton.mp hother
      exact hc'

theorem passed_union (h : Passed accepts chars marks) (h' : Passed accepts chars marks') :
    Passed accepts chars (union marks marks') := by
  refine ⟨by simp [union, h.length, h'.length], fun {position} hmark => ?_⟩
  rw [union, List.getElem?_zipWith_eq_some] at hmark
  obtain ⟨mark, mark', hfirst, hsecond, hor⟩ := hmark
  rcases Bool.or_eq_true_iff.mp hor with rfl | rfl
  · exact h.accepted hfirst
  · exact h'.accepted hsecond

variable {move : List Bool → List Bool}

theorem passed_exactly (hmove : ∀ marks, Passed accepts chars marks →
    Passed accepts chars (move marks)) (n : Nat) (h : Passed accepts chars marks) :
    Passed accepts chars (exactly move n marks) := by
  induction n generalizing marks with
  | zero => exact h
  | succ n ih => exact ih (hmove marks h)

theorem passed_upTo (hmove : ∀ marks, Passed accepts chars marks →
    Passed accepts chars (move marks)) (n : Nat) (h : Passed accepts chars marks) :
    Passed accepts chars (upTo move n marks) := by
  induction n generalizing marks with
  | zero => exact h
  | succ n ih =>
      rw [upTo]
      split
      · exact h
      · exact ih (passed_union h (hmove marks h))

theorem Passed.repeated {negated : Bool} {ranges : List (Char × Char)}
    (h : Passed (inClass negated ranges) chars marks) (least : Nat) (most : Option Nat) :
    Passed (inClass negated ranges) chars
      (Pattern.move chars (.repeated (.oneOf negated ranges) least most) marks) := by
  have hmove (marks : List Bool) (h : Passed (inClass negated ranges) chars marks) :
      Passed (inClass negated ranges) chars (Pattern.move chars (.oneOf negated ranges) marks) :=
    passed_carry h
  exact passed_upTo hmove _ (passed_exactly hmove _ h)

end Passed

theorem keepLast_eq_some_true {marks : List Bool} {position : Nat}
    (h : (keepLast marks)[position]? = some true) :
    position + 1 = marks.length ∧ marks[position]? = some true := by
  induction marks generalizing position with
  | nil => simp [keepLast] at h
  | cons mark rest ih =>
      rcases rest with _ | ⟨mark', rest⟩
      · rcases position with _ | position
        · exact ⟨rfl, h⟩
        · simp [keepLast] at h
      · rcases position with _ | position
        · simp [keepLast] at h
        · change (keepLast (mark' :: rest))[position]? = some true at h
          obtain ⟨hlength, hmark⟩ := ih h
          exact ⟨by simpa using hlength, hmark⟩

/-- A class repeated between the beginning and the end of a text, as it is read. -/
def whole (negated : Bool) (ranges : List (Char × Char)) (least : Nat) (most : Option Nat) :
    Pattern :=
  .sequence .start (.sequence (.repeated (.oneOf negated ranges) least most)
    (.sequence .finish .nothing))

theorem isMatch_whole {negated : Bool} {ranges : List (Char × Char)} {least : Nat}
    {most : Option Nat} {text : String}
    (h : (whole negated ranges least most).isMatch text = true) :
    ∀ c ∈ text.toList, inClass negated ranges c = true := by
  obtain ⟨mark, hmem, rfl⟩ := List.any_eq_true.mp h
  obtain ⟨position, hmark⟩ := List.mem_iff_getElem?.mp hmem
  obtain ⟨hlast, hmark⟩ := keepLast_eq_some_true hmark
  have hfirst : Passed (inClass negated ranges) text.toList
      (keepFirst (List.replicate (text.toList.length + 1) true)) :=
    passed_keepFirst List.length_replicate
  have hpassed := hfirst.repeated least most
  have hwhole : position = text.toList.length := Nat.succ.inj (hlast.trans hpassed.length)
  have hchars := hpassed.accepted hmark
  rwa [hwhole, List.take_length] at hchars

end NameRegistry.Pattern
