import NameRegistry.Pattern.Reader
import NameRegistry.Proofs.Config.Remembered
/-!
Remembering shows in no answer. Several configurations are changed, cloned, validated and asked,
each by its position. They answer as configurations would from which no pattern has been read yet
(`PatternReader.memory_transparent`).
-/
namespace NameRegistry

namespace Config

/-- A call on one of several configurations: its fields are changed, a clone of it is put behind the
others, it is validated, or it is asked whether it accepts a text. -/
inductive Call
  | change (config : Config)
  | clone
  | validate
  | accepts (subject : Subject) (text : String)

inductive Reply
  | nothing
  | validated (result : Except Error Unit)
  | accepted (result : Except Error Bool)
  deriving DecidableEq

/-- How configurations answer, and what they are after a call that is not a clone. -/
@[ext]
structure Behaviour (σ : Type) where
  answer : σ → Call → Reply
  after : σ → Call → σ

namespace Behaviour

variable {σ τ : Type}

/-- The configurations behind a call on the one at a position, if there is one. -/
def applyAt (behaviour : Behaviour σ) (all : List σ) (position : Nat) (call : Call) : List σ :=
  match all[position]? with
  | none => all
  | some one =>
    match call with
    | .clone => all ++ [one]
    | call => all.set position (behaviour.after one call)

/-- The answers to calls on the configurations at some positions. -/
def answers (behaviour : Behaviour σ) (all : List σ) : List (Nat × Call) → List (Option Reply)
  | [] => []
  | (position, call) :: rest =>
    all[position]?.map (behaviour.answer · call) ::
      behaviour.answers (behaviour.applyAt all position call) rest

/-- How plain configurations answer if each call is put to one that is built for it. -/
def afresh (behaviour : Behaviour σ) (fresh : Config → σ) : Behaviour Config where
  answer config call := behaviour.answer (fresh config) call
  after
    | _, .change config => config
    | config, _ => config

/-- Whether the answers to all calls are those of configurations that are built for them. -/
def Transparent (behaviour : Behaviour σ) (fresh : Config → σ) : Prop :=
  ∀ (configs : List Config) (history : List (Nat × Call)),
    behaviour.answers (configs.map fresh) history =
      (behaviour.afresh fresh).answers configs history

/-- Whether configurations behave as what they are viewed as, as long as they are sound. -/
structure ViewedAs (behaviour : Behaviour σ) (other : Behaviour τ) (view : σ → τ)
    (sound : σ → Prop) : Prop where
  answer {one : σ} (call : Call) :
    sound one → behaviour.answer one call = other.answer (view one) call
  after {one : σ} (call : Call) :
    sound one → view (behaviour.after one call) = other.after (view one) call
  sound {one : σ} (call : Call) : sound one → sound (behaviour.after one call)

namespace ViewedAs

variable {behaviour : Behaviour σ} {other : Behaviour τ} {view : σ → τ} {sound : σ → Prop}

theorem applyAt (h : behaviour.ViewedAs other view sound) {all : List σ}
    (hall : ∀ one ∈ all, sound one) (position : Nat) (call : Call) :
    (behaviour.applyAt all position call).map view =
        other.applyAt (all.map view) position call ∧
      ∀ one ∈ behaviour.applyAt all position call, sound one := by
  rw [Behaviour.applyAt, Behaviour.applyAt, List.getElem?_map]
  cases hfound : all[position]? with
  | none => exact ⟨rfl, hall⟩
  | some found =>
      have hsound : sound found := hall found (List.mem_of_getElem? hfound)
      have hset : (all.set position (behaviour.after found call)).map view =
          (all.map view).set position (other.after (view found) call) := by
        rw [List.map_set, h.after call hsound]
      have hmem : ∀ one ∈ all.set position (behaviour.after found call), sound one := by
        intro one hone
        rcases List.mem_or_eq_of_mem_set hone with hone | rfl
        · exact hall one hone
        · exact h.sound call hsound
      cases call with
      | clone =>
          refine ⟨List.map_append, fun one hone => ?_⟩
          rcases List.mem_append.mp hone with hone | hone
          · exact hall one hone
          · obtain rfl := List.mem_singleton.mp hone
            exact hsound
      | _ => exact ⟨hset, hmem⟩

theorem answers (h : behaviour.ViewedAs other view sound) {all : List σ}
    (hall : ∀ one ∈ all, sound one) (history : List (Nat × Call)) :
    behaviour.answers all history = other.answers (all.map view) history := by
  induction history generalizing all with
  | nil => rfl
  | cons step rest ih =>
      obtain ⟨position, call⟩ := step
      obtain ⟨hview, hsound⟩ := h.applyAt hall position call
      have hanswer : all[position]?.map (behaviour.answer · call) =
          (all.map view)[position]?.map (other.answer · call) := by
        rw [List.getElem?_map, Option.map_map]
        cases hfound : all[position]? with
        | none => rfl
        | some found =>
            exact congrArg some (h.answer call (hall found (List.mem_of_getElem? hfound)))
      rw [Behaviour.answers, Behaviour.answers, hanswer, ih hsound, hview]

theorem isTransparent {fresh : Config → σ} {view : σ → Config}
    (h : behaviour.ViewedAs (behaviour.afresh fresh) view sound)
    (hview : ∀ config, view (fresh config) = config) (hfresh : ∀ config, sound (fresh config)) :
    behaviour.Transparent fresh := by
  intro configs history
  have hmap : (configs.map fresh).map view = configs := by
    rw [List.map_map]
    exact (List.map_congr_left fun config _ => hview config).trans (List.map_id configs)
  rw [h.answers (List.forall_mem_map.mpr fun config _ => hfresh config), hmap]

end ViewedAs

end Behaviour

end Config

open Config

namespace PatternReader

variable {reader : PatternReader}

/-- How configurations answer that remember their patterns. -/
def remembering (reader : PatternReader) : Behaviour reader.Remembered where
  answer remembered
    | .validate => .validated (remembered.read.1.bind fun _ => remembered.config.checkLimits)
    | .accepts subject text =>
      .accepted (remembered.read.1.map fun patterns => reader.isMatch patterns subject text)
    | _ => .nothing
  after remembered
    | .change config => { remembered with config := config }
    | .clone => remembered
    | _ => remembered.read.2

theorem remembering_viewedAs (reader : PatternReader) :
    reader.remembering.ViewedAs (reader.remembering.afresh reader.fresh) Remembered.config
      Remembered.Faithful where
  answer {remembered} call h := by
    have hread : remembered.read.1 = (reader.fresh remembered.config).read.1 :=
      h.read_eq.trans (Remembered.faithful_fresh remembered.config).read_eq.symm
    cases call with
    | validate => exact congrArg (fun read => Reply.validated (Except.bind read _)) hread
    | accepts subject text => exact congrArg (fun read => Reply.accepted (Except.map _ read)) hread
    | _ => rfl
  after {remembered} call _ := by
    cases call with
    | change config => rfl
    | clone => rfl
    | _ => exact remembered.config_read
  sound call h := by
    cases call with
    | change config => exact h
    | clone => exact h
    | _ => exact h.read

end PatternReader

namespace RememberedConfig

/-- How the configurations of the registry answer, in a language of patterns. -/
def remembering (language : PatternLanguage) : Behaviour RememberedConfig where
  answer remembered
    | .validate => .validated (remembered.validate language).1
    | .accepts subject text => .accepted (remembered.accepts language subject text).1
    | _ => .nothing
  after remembered
    | .change config => remembered.reconfigure config
    | .clone => remembered
    | .validate => (remembered.validate language).2
    | .accepts subject text => (remembered.accepts language subject text).2

theorem remembering_viewedAs (language : PatternLanguage) :
    (remembering language).ViewedAs (PatternReader.of language).remembering (toReader language)
      fun _ => True where
  answer {remembered} call _ := by
    cases call with
    | validate =>
        change Reply.validated ((remembered.read language).1.bind fun _ =>
          (remembered.read language).2.config.checkLimits) =
            .validated ((remembered.toReader language).read.1.bind fun _ =>
              remembered.config.checkLimits)
        rw [config_read, read_toReader]
        rfl
    | accepts subject text =>
        change Reply.accepted ((remembered.read language).1.map fun patterns =>
          patterns.pattern subject text) = .accepted ((remembered.toReader language).read.1.map _)
        rw [read_toReader]
        rfl
    | _ => rfl
  after {remembered} call _ := by
    have hread : (remembered.read language).2.toReader language =
        (remembered.toReader language).read.2 := by rw [read_toReader]
    cases call with
    | change config => rfl
    | clone => rfl
    | _ => exact hread
  sound _ _ := trivial

end RememberedConfig

/-- Whatever is done with configurations, and whatever reads their patterns, every answer and every
error is the one that would come if no pattern had been read before. So it is with the
configurations of the registry, in every language of patterns. -/
theorem PatternReader.memory_transparent :
    (∀ reader : PatternReader, reader.remembering.Transparent reader.fresh) ∧
      ∀ language : PatternLanguage,
        (RememberedConfig.remembering language).Transparent RememberedConfig.fresh := by
  have hreader (reader : PatternReader) : reader.remembering.Transparent reader.fresh :=
    reader.remembering_viewedAs.isTransparent (fun _ => rfl) Remembered.faithful_fresh
  refine ⟨hreader, fun language configs history => ?_⟩
  have hviewed := RememberedConfig.remembering_viewedAs language
  have hafresh : (RememberedConfig.remembering language).afresh RememberedConfig.fresh =
      (of language).remembering.afresh (of language).fresh := by
    ext config call
    · exact hviewed.answer call trivial
    · rfl
  rw [hviewed.answers (fun _ _ => trivial), List.map_map, hafresh]
  exact hreader (of language) configs history

/-- A pattern that cannot be read takes the place of one that is remembered, and gives way to it
again. The clone is not concerned. -/
theorem PatternReader.memory_transparent_unreadable :
    let unreadable : Config :=
      { Config.testing with validity := { Config.testing.validity with accountName := "([a-z" } }
    let history : List (Nat × Call) :=
      [(0, .validate), (0, .clone), (0, .change unreadable), (0, .accepts .accountName "bob"),
        (1, .accepts .accountName "bob"), (0, .change .testing), (0, .accepts .accountName "*")]
    (RememberedConfig.remembering Pattern.language).answers [.fresh .testing] history =
      [some (.validated (.ok ())), some .nothing, some .nothing,
        some (.accepted (.error ⟨.config, "valid_account_name: not a pattern"⟩)),
        some (.accepted (.ok true)), some .nothing, some (.accepted (.ok false))] := by
  intro unreadable history
  exact (PatternReader.memory_transparent.2 Pattern.language [.testing] history).trans
    (by decide +kernel)

end NameRegistry
