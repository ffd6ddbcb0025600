import NameRegistry.Proofs.Registry.Isolation
import NameRegistry.Proofs.Text.Utf8
/-!
Subjects that are texts. Nothing stands between a subject and the objects behind it, so that two
scopes leave each other alone exactly if neither of their stems begins with the other
(`Scope.isolated_iff_apart`, `Scope.apart_iff`). Texts are written character by character, so for
two of them it is their characters that matter (`Scope.texts_isolated_iff`).
-/
namespace NameRegistry

namespace Scope

theorem apart_iff {scope scope' : Scope} :
    scope.Apart scope' ↔ ¬ scope.stem <+: scope'.stem ∧ ¬ scope'.stem <+: scope.stem := by
  constructor
  · intro hapart
    constructor
    · rintro ⟨rest, hrest⟩
      exact hapart rest [] (by rw [key, key, hrest, List.append_nil])
    · rintro ⟨rest, hrest⟩
      exact hapart [] rest (by rw [key, key, hrest, List.append_nil])
  · rintro ⟨hstem, hstem'⟩ object object' hkey
    have hbegins : scope.stem <+: scope'.key object' := ⟨object, hkey⟩
    exact (List.prefix_or_prefix_of_prefix hbegins (List.prefix_append _ _)).elim hstem hstem'

theorem apart_ofText_iff {index : Bytes} {subject subject' : String} :
    (ofText index subject).Apart (ofText index subject') ↔
      ¬ subject.toList <+: subject'.toList ∧ ¬ subject'.toList <+: subject.toList := by
  rw [apart_iff]
  simp only [ofText, ofBytes, List.prefix_append_right_inj, Utf8.encode_prefix_iff]

section Answers

variable {σ : Type} [KeyValueStore σ] [LawfulStore σ]

theorem isolated_iff_apart {scope scope' : Scope} (store : σ) :
    (∀ object, scope'.AnswersAlike (scope.insert object store) store ∧
      scope'.AnswersAlike (scope.erase object store).2 store) ↔ scope.Apart scope' := by
  constructor
  · intro hisolated object object' hkey
    -- Under a shared key the other scope would find the object after the one and not after the
    -- other, and answers neither time otherwise than before.
    have hinserted := (hisolated object).1.contains object'
    have herased := (hisolated object).2.contains object'
    rw [contains, KeyValueStore.has, get?_insert, if_pos hkey.symm] at hinserted
    rw [contains, KeyValueStore.has, get?_erase, if_pos hkey.symm] at herased
    cases hinserted.trans herased.symm
  · exact fun hapart object => hapart.answersAlike object store

/-- On every store and in every index, objects come under one text and go from under it without a
change to what is found under another one exactly if neither text begins with the other. -/
theorem texts_isolated_iff (store : σ) (index : Bytes) (subject subject' : String) :
    (∀ object, (ofText index subject').AnswersAlike
        ((ofText index subject).insert object store) store ∧
      (ofText index subject').AnswersAlike ((ofText index subject).erase object store).2 store) ↔
    ¬ subject.toList <+: subject'.toList ∧ ¬ subject'.toList <+: subject.toList :=
  (isolated_iff_apart store).trans apart_ofText_iff

/-- An object that comes under one text is not found under another one. -/
theorem texts_isolated_sample :
    let index := Key.index Index.domainsByOwner.tag
    let store := (ofText index "btc").insert [121] (∅ : Store)
    (¬ "eth".toList <+: "btc".toList ∧ ¬ "btc".toList <+: "eth".toList) ∧
      (ofText index "btc").objects ((ofText index "eth").insert [120] store) = [[121]] := by
  intro index store
  have hdiffer : ¬ "eth".toList <+: "btc".toList ∧ ¬ "btc".toList <+: "eth".toList := by decide
  have hisolated := (texts_isolated_iff store index "eth" "btc").mpr hdiffer [120]
  exact ⟨hdiffer, hisolated.1.objects.trans (by decide +kernel)⟩

/-- An object that comes under a text is found under a longer one, less what that text goes on
with. -/
theorem texts_not_isolated :
    let index := Key.index Index.domainsByOwner.tag
    let before : Store := ∅
    let after := (ofText index "a").insert [98, 120] before
    "a" ≠ "ab" ∧
      (ofText index "ab").contains before [120] = false ∧
      (ofText index "ab").contains after [120] = true ∧
      (ofText index "ab").objects before = [] ∧
      (ofText index "ab").objects after = [[120]] ∧
      (ofText index "ab").objects ((ofText index "a").erase [98, 120] after).2 = [] := by
  decide +kernel

end Answers

end Scope

end NameRegistry
