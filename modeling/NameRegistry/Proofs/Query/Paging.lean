import NameRegistry.Proofs.Failure
import NameRegistry.Proofs.Query.Page
/-!
Pages in arithmetic of 64-bit words. The bounds of a page, computed in words, never leave the words
and never leave the list (`Page.sliceInWords_eq`), so that the items of a page are those between two
multiples of its size over all the integers (`Page.paging_exact`).
-/
namespace NameRegistry

namespace Word

theorem signed?_toInt (word : Int64) : signed? word.toInt = some word := by
  rw [signed?, if_pos ⟨word.minValue_le_toInt, word.toInt_le⟩, Int64.ofInt_toInt]

theorem unsigned?_toNat (word : UInt64) : unsigned? word.toNat = some word := by
  have hlt := word.toNat_lt_size
  rw [unsigned?, if_pos ⟨Int.natCast_nonneg _, Int.ofNat_lt.mpr hlt⟩, Int.toNat_natCast,
    UInt64.ofNat_toNat]

theorem exists_toInt_eq {n : Int} (hlow : Int64.minValue.toInt ≤ n)
    (hhigh : n ≤ Int64.maxValue.toInt) : ∃ word : Int64, word.toInt = n := by
  have hmin : Int64.minValue.toInt = -2 ^ 63 := by decide
  have hmax : Int64.maxValue.toInt = 2 ^ 63 - 1 := by decide
  exact ⟨.ofInt n, Int64.toInt_ofInt_of_le (by omega) (by omega)⟩

theorem exists_toNat_eq {n : Int} (hlow : 0 ≤ n) (hhigh : n < 18446744073709551616) :
    ∃ word : UInt64, (word.toNat : Int) = n := by
  have hword : n.toNat < UInt64.size := by
    rw [UInt64.size]
    omega
  refine ⟨.ofNat n.toNat, ?_⟩
  rw [UInt64.toNat_ofNat_of_lt' hword, Int.toNat_of_nonneg hlow]

end Word

namespace Page

open Word

variable {α : Type} (page : Page)

theorem toInt_sizeWord : page.sizeWord.toInt = page.size := by
  rw [sizeWord, size, apply_ite Int64.toInt]
  simp only [Int64.le_iff_toInt_le]
  rfl

theorem toInt_numberWord : page.numberWord.toInt = page.number := by
  rw [numberWord, number, apply_ite Int64.toInt]
  simp only [Int64.le_iff_toInt_le]
  rfl

theorem lastInWords_eq {first total : UInt64} (htotal : total ≠ 0)
    (hend : first.toNat + page.size ≤ Int64.maxValue.toInt) :
    ∃ last, page.lastInWords first total = .ok last ∧
      (last.toNat + 1 : Int) = min (first.toNat + page.size) total.toNat := by
  have hmax : Int64.maxValue.toInt = 2 ^ 63 - 1 := by decide
  have hsize := page.one_le_size
  have hpositive : 0 < total.toNat := by
    refine Nat.pos_of_ne_zero fun hzero => htotal ?_
    rw [← UInt64.toNat_inj, hzero]
    rfl
  obtain ⟨width, hwidth⟩ : ∃ width : UInt64, (width.toNat : Int) = page.size :=
    exists_toNat_eq (by omega) (by omega)
  obtain ⟨more, hmore⟩ : ∃ more : UInt64, (more.toNat : Int) = width.toNat - 1 :=
    exists_toNat_eq (by omega) (by omega)
  obtain ⟨finish, hfinish⟩ : ∃ finish : UInt64, (finish.toNat : Int) = first.toNat + more.toNat :=
    exists_toNat_eq (by omega) (by omega)
  have hlt := total.toNat_lt
  obtain ⟨last, hlast⟩ : ∃ last : UInt64, (last.toNat : Int) = total.toNat - 1 :=
    exists_toNat_eq (by omega) (by omega)
  refine ⟨min finish last, ?_, ?_⟩
  · rw [lastInWords, toInt_sizeWord, ← hwidth, unsigned?_toNat]
    simp only [Option.getD_some]
    rw [← hmore, unsigned?_toNat, ← hlast, unsigned?_toNat]
    change Except.ok (min ((unsigned? (first.toNat + more.toNat)).getD greatest) last) = _
    rw [← hfinish, unsigned?_toNat, Option.getD_some]
  · rw [UInt64.toNat_min]
    omega

section Bounds

variable {page : Page} {total : UInt64}

theorem boundsInWords_eq (hsome : total ≠ 0)
    (hend : page.before + page.size ≤ Int64.maxValue.toInt) :
    ∃ first : UInt64, (first.toNat : Int) = page.before ∧ page.boundsInWords total =
      if first < total then
        (page.lastInWords first total).map fun last => .ok (some (first, last))
      else .ok (.error (page.refusal total.toNat)) := by
  have hmin : Int64.minValue.toInt = -2 ^ 63 := by decide
  have hmax : Int64.maxValue.toInt = 2 ^ 63 - 1 := by decide
  have hbefore := page.before_nonneg
  have hsize := page.one_le_size
  obtain ⟨finish, hfinish⟩ : ∃ finish : Int64, finish.toInt = page.before + page.size :=
    exists_toInt_eq (by omega) hend
  obtain ⟨start, hstart⟩ : ∃ start : Int64, start.toInt = finish.toInt - page.size :=
    exists_toInt_eq (by omega) (by omega)
  obtain ⟨first, hfirst⟩ : ∃ first : UInt64, (first.toNat : Int) = start.toInt :=
    exists_toNat_eq (by omega) (by omega)
  refine ⟨first, by omega, ?_⟩
  rw [boundsInWords, if_neg hsome, toInt_numberWord, toInt_sizeWord, number_mul_size, ← hfinish,
    signed?_toInt]
  dsimp only
  rw [← hstart, signed?_toInt, orOverflow]
  simp only [bind, Except.bind]
  rw [← hfirst, unsigned?_toNat]
  dsimp only
  split
  · cases page.lastInWords first total <;> rfl
  · rfl

theorem boundsInWords_of_lt (htotal : total.toNat < 2 ^ 62) (h : page.before < total.toNat) :
    ∃ first last, page.boundsInWords total = .ok (.ok (some (first, last))) ∧
      (first.toNat : Int) = page.before ∧
      (last.toNat + 1 : Int) = min (page.before + page.size) total.toNat := by
  have hbefore := page.before_nonneg
  have hend := before_add_size_le htotal h
  have hsome : total ≠ 0 := by
    rintro rfl
    exact absurd h (Int.not_lt.mpr hbefore)
  obtain ⟨first, hfirst, hbounds⟩ := boundsInWords_eq hsome hend
  rw [← hfirst] at h hend
  obtain ⟨last, hlast, hposition⟩ := page.lastInWords_eq hsome hend
  have hlt : first < total := UInt64.lt_iff_toNat_lt.mpr (Int.ofNat_lt.mp h)
  refine ⟨first, last, ?_, hfirst, hfirst ▸ hposition⟩
  rw [hbounds, if_pos hlt, hlast]
  rfl

theorem boundsInWords_of_le (hsome : total ≠ 0) (h : total.toNat ≤ page.before) :
    page.boundsInWords total = .ok (.error (page.refusal total.toNat)) := by
  by_cases hend : page.before + page.size ≤ Int64.maxValue.toInt
  · obtain ⟨first, hfirst, hbounds⟩ := boundsInWords_eq hsome hend
    have hge : ¬ first < total := by
      rw [UInt64.lt_iff_toNat_lt]
      omega
    rw [hbounds, if_neg hge]
  -- If the end of the page is no word, the page is refused for that alone.
  · have hnone : signed? (page.before + page.size) = none := if_neg fun hrange => hend hrange.2
    rw [boundsInWords, if_neg hsome, toInt_numberWord, toInt_sizeWord, number_mul_size, hnone]

end Bounds

variable {page} {items : List α}

theorem extract_eq_part (items : List α) (start size : Nat) :
    items.extract start (min (start + size) items.length) = (items.drop start).take size := by
  rw [List.extract_eq_take_drop, List.take_eq_take_iff, List.length_drop]
  omega

theorem slice_eq_extract (hlength : items.length < 2 ^ 62) (h : page.before < items.length) :
    page.slice items = .ok (items.extract page.before.toNat
      (min (page.number * page.size) items.length).toNat) := by
  have hbefore := page.before_nonneg
  have hsize := page.one_le_size
  have hend : (min (page.number * page.size) items.length).toNat =
      min (page.before.toNat + page.size.toNat) items.length := by
    rw [number_mul_size]
    omega
  rw [slice_of_lt hlength h, hend, extract_eq_part]

theorem between_bounds {first last : UInt64} (hlength : items.length < 2 ^ 62)
    (h : page.before < items.length) (hfirst : (first.toNat : Int) = page.before)
    (hlast : (last.toNat + 1 : Int) = min (page.before + page.size) items.length) :
    between first last items = .ok (items.extract page.before.toNat
      (min (page.number * page.size) items.length).toNat) := by
  have hsize := page.one_le_size
  have hgreatest : last ≠ greatest := by
    rintro rfl
    have hvalue : greatest.toNat = 2 ^ 64 - 1 := by decide
    omega
  have hrange : last ≠ greatest ∧ first.toNat ≤ last.toNat + 1 ∧ last.toNat < items.length :=
    ⟨hgreatest, by omega, by omega⟩
  rw [between, if_pos hrange, number_mul_size, ← hfirst, Int.toNat_natCast, hfirst, ← hlast]
  rfl

theorem slice_eq_refusal (hsome : items ≠ []) (h : items.length ≤ page.before) :
    page.slice items = .error (page.refusal items.length) := by
  have hnone : page.first? items.length = none := by
    rw [first?, number_mul_size, Int.add_sub_cancel]
    exact if_neg fun hfirst => Int.not_lt.mpr h hfirst.2
  rw [slice, List.isEmpty_eq_false_iff.mpr hsome, hnone]
  rfl

theorem sliceInWords_eq (page : Page) (hlength : items.length < 2 ^ 62) :
    page.sliceInWords items = .ok (page.slice items) := by
  rcases items with _ | ⟨item, rest⟩
  · rfl
  generalize hitems : item :: rest = items at hlength ⊢
  have hsome : items ≠ [] := hitems ▸ List.cons_ne_nil item rest
  have htotal : (UInt64.ofNat items.length).toNat = items.length :=
    UInt64.toNat_ofNat_of_lt' (Nat.lt_trans hlength (by decide))
  rw [← htotal] at hlength
  rcases Int.lt_or_le page.before items.length with h | h
  · obtain ⟨first, last, hbounds, hfirst, hlast⟩ := boundsInWords_of_lt hlength (htotal.symm ▸ h)
    rw [htotal] at hlength hlast
    rw [sliceInWords, hbounds, slice_eq_extract hlength h]
    change (between first last items >>= _) = _
    rw [between_bounds hlength h hfirst hlast]
    rfl
  · have hwords : UInt64.ofNat items.length ≠ 0 := by
      intro hzero
      rw [hzero] at htotal
      exact hsome (List.length_eq_zero_iff.mp htotal.symm)
    rw [sliceInWords, boundsInWords_of_le hwords (htotal.symm ▸ h), htotal,
      slice_eq_refusal hsome h]
    rfl

theorem le_ceil_mul {size : Nat} (hsize : 0 < size) (total : Nat) :
    total ≤ (total + size - 1) / size * size := by
  have hdiv := Nat.lt_div_mul_add hsize (a := total + size - 1)
  omega

theorem ceil_le_count {size : Nat} (hsize : 0 < size) (total : Nat) :
    (total + size - 1) / size ≤ count size total := by
  rw [count, ← Nat.add_div_right _ hsize]
  exact Nat.div_le_div_right (by omega)

/-- Every list of fewer than `2 ^ 62` items is paged exactly. Whatever numbers of 64 bits are asked
for, the computation in words has a result, which is that over the integers: nothing of an empty
list, and of another one the items from the first multiple of the size up to the next one or to the
end of the list, if there are such items. The pages of a size, one after another, are the list. -/
theorem paging_exact (items : List α) (hlength : items.length < 2 ^ 62) :
    (∀ page : Page, page.sliceInWords items = .ok (page.slice items) ∧
      (items = [] → page.slice items = .ok []) ∧
      (items ≠ [] → (page.number - 1) * page.size < items.length →
        page.slice items = .ok (items.extract ((page.number - 1) * page.size).toNat
          (min (page.number * page.size) items.length).toNat)) ∧
      (items ≠ [] → items.length ≤ (page.number - 1) * page.size →
        ∃ detail, page.slice items = .error ⟨.invalidRequest, detail⟩)) ∧
    ∀ size : Int64, 0 < size.toInt →
      ∃ pages : List (List α), pages.flatten = items ∧
        (List.range ((items.length + size.toInt.toNat - 1) / size.toInt.toNat)).mapM
          (fun position => slice ⟨.ofNat (position + 1), size⟩ items) = .ok pages := by
  refine ⟨fun page => ⟨page.sliceInWords_eq hlength, ?_, ?_, ?_⟩, ?_⟩
  · rintro rfl
    exact slice_nil page
  · exact fun _ h => slice_eq_extract hlength h
  · exact fun hsome h => ⟨_, slice_eq_refusal hsome h⟩
  · intro size hsize
    have hpositive : 0 < size.toInt.toNat := by omega
    refine ⟨(List.range ((items.length + size.toInt.toNat - 1) / size.toInt.toNat)).map
      (part size.toInt.toNat items), ?_, ?_⟩
    · rw [flatten_range_parts, List.take_of_length_le (le_ceil_mul hpositive _)]
    · apply mapM_eq_ok_map
      intro position hposition
      exact slice_behind hsize hlength
        (Nat.lt_of_lt_of_le (List.mem_range.mp hposition) (ceil_le_count hpositive _))

/-- Three items on pages of two, the second of which is short. -/
theorem paging_exact_short_page :
    [1, 2, 3].length < 2 ^ 62 ∧
    sliceInWords ⟨2, 2⟩ [1, 2, 3] = .ok (.ok [3]) ∧
    ∃ detail, sliceInWords ⟨.maxValue, .maxValue⟩ [1, 2, 3] =
      .ok (.error ⟨.invalidRequest, detail⟩) := by
  have hlength : [1, 2, 3].length < 2 ^ 62 := by decide
  have hpages := (paging_exact [1, 2, 3] hlength).1
  obtain ⟨hshort, -, hitems, -⟩ := hpages ⟨2, 2⟩
  obtain ⟨hfar, -, -, hbehind⟩ := hpages ⟨.maxValue, .maxValue⟩
  refine ⟨hlength, ?_, ?_⟩
  · rw [hshort, hitems (by simp) (by decide)]
    rfl
  · obtain ⟨detail, hrefused⟩ := hbehind (by simp) (by decide)
    exact ⟨detail, by rw [hfar, hrefused]⟩

end Page

end NameRegistry
