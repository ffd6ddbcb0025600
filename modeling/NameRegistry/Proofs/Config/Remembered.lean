import NameRegistry.Config.Remembered
import NameRegistry.Proofs.Failure

namespace NameRegistry

theorem Validity.source_of_read {language : PatternLanguage} {validity : Validity}
    {patterns : Patterns} (h : validity.read language = .ok patterns) :
    patterns.source = validity := by
  rw [Validity.read] at h
  obtain ⟨_, _, h⟩ := bind_eq_ok_iff.mp h
  obtain ⟨_, _, h⟩ := bind_eq_ok_iff.mp h
  obtain ⟨_, _, h⟩ := bind_eq_ok_iff.mp h
  obtain ⟨_, _, rfl⟩ := bind_pure_eq_ok_iff.mp h
  rfl

theorem PatternLanguage.kind_of_readField {language : PatternLanguage} {field text : String}
    {error : Error} (h : language.readField field text = .error error) :
    error.kind = .config := by
  rw [readField] at h
  cases hread : language.read text with
  | ok _ =>
      rw [hread] at h
      cases h
  | error reason =>
      rw [hread] at h
      exact Except.error.inj h ▸ rfl

theorem Validity.kind_of_read {language : PatternLanguage} {validity : Validity} {error : Error}
    (h : validity.read language = .error error) : error.kind = .config := by
  simp only [Validity.read, bind_eq_error_iff] at h
  rcases h with h | ⟨_, _, h | ⟨_, _, h | ⟨_, _, h | ⟨_, _, h⟩⟩⟩⟩
  · exact language.kind_of_readField h
  · exact language.kind_of_readField h
  · exact language.kind_of_readField h
  · exact language.kind_of_readField h
  · cases h

theorem Config.kind_of_validate {language : PatternLanguage} {config : Config} {error : Error}
    (h : config.validate language = .error error) : error.kind = .config := by
  rcases bind_eq_error_iff.mp h with h | ⟨_, _, h⟩
  · exact Validity.kind_of_read h
  · rcases bind_eq_error_iff.mp h with h | ⟨_, _, h⟩
    · exact kind_of_require h
    · exact kind_of_require h

/-- What reads the patterns of a configuration and matches texts with them. Both depend on texts
alone, and what has been read tells which texts it was read from. -/
structure PatternReader where
  Patterns : Type
  read : Validity → Except Error Patterns
  source : Patterns → Validity
  isMatch : Patterns → Subject → String → Bool
  source_of_read {validity : Validity} {patterns : Patterns} :
    read validity = .ok patterns → source patterns = validity

namespace PatternReader

/-- The reader of a language. -/
def of (language : PatternLanguage) : PatternReader where
  Patterns := NameRegistry.Patterns
  read := Validity.read language
  source := Patterns.source
  isMatch := Patterns.pattern
  source_of_read := Validity.source_of_read

/-- A configuration with the patterns that were the first to be read from it. -/
structure Remembered (reader : PatternReader) where
  config : Config
  patterns : Option reader.Patterns

/-- A configuration of which no patterns have been read. -/
def fresh (reader : PatternReader) (config : Config) : reader.Remembered := ⟨config, none⟩

namespace Remembered

variable {reader : PatternReader}

/-- The patterns, and what is remembered after they were asked for. -/
def read (remembered : reader.Remembered) : Except Error reader.Patterns × reader.Remembered :=
  let validity := remembered.config.validity
  match remembered.patterns with
  | some patterns =>
    (if reader.source patterns = validity then .ok patterns else reader.read validity, remembered)
  | none =>
    match reader.read validity with
    | .ok patterns => (.ok patterns, { remembered with patterns := some patterns })
    | .error error => (.error error, remembered)

/-- Whether the patterns that are remembered are those of their texts. -/
def Faithful (remembered : reader.Remembered) : Prop :=
  ∀ patterns, remembered.patterns = some patterns →
    reader.read (reader.source patterns) = .ok patterns

theorem faithful_fresh (config : Config) : (reader.fresh config).Faithful := nofun

theorem config_read (remembered : reader.Remembered) :
    remembered.read.2.config = remembered.config := by
  rw [read]
  split
  · rfl
  · split <;> rfl

theorem Faithful.read {remembered : reader.Remembered} (h : remembered.Faithful) :
    remembered.read.2.Faithful := by
  rw [Remembered.read]
  split
  · exact h
  · split
    · next patterns hread =>
        intro _ hremembered
        obtain rfl := Option.some.inj hremembered
        rw [reader.source_of_read hread]
        exact hread
    · exact h

theorem Faithful.read_eq {remembered : reader.Remembered} (h : remembered.Faithful) :
    remembered.read.1 = reader.read remembered.config.validity := by
  rw [Remembered.read]
  split
  · next patterns hpatterns =>
      split
      · next hsource =>
          rw [← hsource]
          exact (h patterns hpatterns).symm
      · rfl
  · split
    · next hread => exact hread.symm
    · next hread => exact hread.symm

end Remembered

end PatternReader

namespace RememberedConfig

variable (language : PatternLanguage)

/-- The configurations, with their memories, that come of reading patterns in a language and
changing fields. Asking whether a text is accepted and validating read the patterns. -/
inductive Arises : RememberedConfig → Prop
  | fresh (config : Config) : Arises (fresh config)
  | reconfigure {remembered : RememberedConfig} (config : Config) (h : Arises remembered) :
      Arises (remembered.reconfigure config)
  | read {remembered : RememberedConfig} (h : Arises remembered) :
      Arises (remembered.read language).2

/-- The same configuration and memory, of the reader of a language. -/
def toReader (remembered : RememberedConfig) : (PatternReader.of language).Remembered :=
  ⟨remembered.config, remembered.patterns⟩

theorem read_toReader (remembered : RememberedConfig) :
    (remembered.toReader language).read =
      ((remembered.read language).1, (remembered.read language).2.toReader language) := by
  obtain ⟨config, _ | patterns⟩ := remembered
  · dsimp only [RememberedConfig.read, PatternReader.Remembered.read, toReader, PatternReader.of]
    cases config.validity.read language <;> rfl
  · rfl

theorem config_read (remembered : RememberedConfig) :
    (remembered.read language).2.config = remembered.config := by
  have hconfig := (remembered.toReader language).config_read
  rw [read_toReader] at hconfig
  exact hconfig

variable {language}

theorem Arises.faithful {remembered : RememberedConfig} (h : remembered.Arises language) :
    (remembered.toReader language).Faithful := by
  induction h with
  | fresh config => exact nofun
  | reconfigure config _ ih => exact ih
  | read _ ih =>
      have hfaithful := ih.read
      rw [read_toReader] at hfaithful
      exact hfaithful

theorem Arises.read_eq {remembered : RememberedConfig} (h : remembered.Arises language) :
    (remembered.read language).1 = remembered.config.validity.read language := by
  have heq := h.faithful.read_eq
  rw [read_toReader] at heq
  exact heq

theorem Arises.validate_eq {remembered : RememberedConfig} (h : remembered.Arises language) :
    (remembered.validate language).1 = remembered.config.validate language := by
  change (remembered.read language).1.bind
    (fun _ => (remembered.read language).2.config.checkLimits) = _
  rw [h.read_eq, config_read]
  rfl

end RememberedConfig

end NameRegistry
