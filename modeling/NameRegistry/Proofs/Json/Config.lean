import NameRegistry.Json.Config
import NameRegistry.OrderedMap.Lemmas
import NameRegistry.Pattern.Reader
import NameRegistry.Proofs.Config.Remembered
import NameRegistry.Proofs.Json.Reader
import NameRegistry.Proofs.Json.Records

namespace NameRegistry

open Json

namespace Duration

@[simp] theorem ofJson?_toJson (duration : Duration) : ofJson? duration.toJson = some duration := by
  have hfields : duration.toJson.exactFields? ["secs", "nanos"] =
      some [some (.integer duration.seconds.toNat), some (.integer duration.nanos.value)] :=
    Value.exactFields?_record (by decide) rfl
  have hseconds := duration.seconds.toNat_lt
  have hnanos := duration.nanos.lt_second
  have hwhole : duration.nanos.value / 1000000000 = 0 := Nat.div_eq_of_lt hnanos
  have hpart : Nanos.ofTotal duration.nanos.value = duration.nanos := by
    simp only [Nanos.ofTotal, Nat.mod_eq_of_lt hnanos]
  rw [ofJson?, hfields, Option.bind_eq_bind, Option.bind_some]
  dsimp only
  rw [required_some, required_some, Value.integer?_integer (by omega) (by omega),
    Value.integer?_integer (by omega) (by omega)]
  simp only [Option.bind_eq_bind, Option.bind_some, Int.toNat_natCast, hwhole, hpart,
    Nat.add_zero, if_pos duration.seconds.toNat_lt_size, UInt64.ofNat_toNat]

end Duration

namespace FeeSchedule

theorem feesOfJson?_record (fees : OrderedMap String UInt64) :
    feesOfJson? (.record (fees.entries.map fun entry => (entry.1, .integer entry.2.toNat))) =
      some fees := by
  have hread (entry : String × UInt64) : (do
      return (entry.1, ← (Value.integer entry.2.toNat).uint64?)) = some entry := by
    rw [Value.uint64?_integer]
    rfl
  rw [Value.record, feesOfJson?, keyed?_record, Option.bind_eq_bind, Option.bind_some,
    mapM_written hread]
  exact congrArg some (OrderedMap.ofList_entries fees)

@[simp] theorem ofJson?_toJson (schedule : FeeSchedule) :
    ofJson? schedule.toJson = some schedule := by
  have hfields : schedule.toJson.fields? ["denom", "fees", "default_fee"] =
      some [some (.ofText schedule.denom), some (.record (schedule.fees.entries.map fun entry =>
        (entry.1, .integer entry.2.toNat))), some (.integer schedule.defaultFee.toNat)] :=
    Value.fields?_record (by decide) rfl
  simp [ofJson?, hfields, required, feesOfJson?_record]

end FeeSchedule

namespace Config

theorem ofJson?_toJson (config : Config) : ofJson? config.toJson = some config := by
  have hfields : config.toJson.fields? fieldNames =
      some [some config.configurer.toJson, some (.ofText config.validity.domainName),
        some (.ofText config.validity.accountName), some (.ofText config.validity.blockchainId),
        some (.ofText config.validity.blockchainAddress), some config.domainRenewal.toJson,
        some config.domainGrace.toJson, some config.accountRenewal.toJson,
        some (.integer config.targetsMax.toNat), some (.integer config.certificatesMax.toNat),
        some (.integer config.certificateSizeMax.toNat),
        some (.integer config.metadataSizeMax.toNat), some config.fees.toJson] :=
    Value.fields?_record (by decide) rfl
  rw [ofJson?, hfields, Option.bind_eq_bind, Option.bind_some]
  simp only [required_some, Address.ofJson?_toJson, Value.text?_ofText, Duration.ofJson?_toJson,
    Value.uint64?_integer, FeeSchedule.ofJson?_toJson]
  rfl

theorem ofFile_toFile (language : PatternLanguage) (config : Config) :
    ofFile language config.toFile = (config.validate language).map fun _ => config := by
  rw [ofFile, toFile, Value.ofBytes?_pretty, Option.bind_some, ofJson?_toJson]
  change (config.validate language >>= fun _ => pure config) = _
  cases config.validate language <;> rfl

end Config

namespace RememberedConfig

/-- Whatever the language of patterns, the texts, periods, limits and fees of a configuration are,
and whatever it remembers, what it is written to its file as is read again as the same configuration
if it is usable; if not, the file is refused with the error that validating it gives, which is one
of the configuration. -/
theorem Arises.file_round_trip {language : PatternLanguage} {remembered : RememberedConfig}
    (h : remembered.Arises language) :
    ((remembered.validate language).1 = .ok () →
      Config.ofFile language remembered.config.toFile = .ok remembered.config) ∧
    ∀ error, (remembered.validate language).1 = .error error →
      error.kind = .config ∧
        Config.ofFile language remembered.config.toFile = .error error := by
  rw [h.validate_eq, Config.ofFile_toFile]
  constructor
  · intro hvalid
    rw [hvalid]
    rfl
  · intro error hinvalid
    rw [hinvalid]
    exact ⟨Config.kind_of_validate hinvalid, rfl⟩

/-- The patterns of the configuration for tests are remembered when one of its texts changes to one
that has to be escaped in the file. Without room for certificates, it is not usable. -/
theorem file_round_trip_escaped :
    let changed : Config :=
      { Config.testing with
        validity := { Config.testing.validity with accountName := "^[\\.\"\né]+$" }
        targetsMax := 18446744073709551615 }
    let remembered := ((fresh .testing).read Pattern.language).2.reconfigure changed
    let unusable := remembered.reconfigure { changed with certificateSizeMax := 0 }
    remembered.patterns.isSome ∧
      Config.ofFile Pattern.language changed.toFile = .ok changed ∧
      ∃ error, (unusable.validate Pattern.language).1 = .error error ∧ error.kind = .config ∧
        Config.ofFile Pattern.language unusable.config.toFile = .error error := by
  intro changed remembered unusable
  have hremembered : remembered.Arises Pattern.language := .reconfigure _ (.read (.fresh .testing))
  have hunusable : unusable.Arises Pattern.language := .reconfigure _ hremembered
  have hvalid : (remembered.validate Pattern.language).1 = .ok () := by decide +kernel
  have hinvalid : (unusable.validate Pattern.language).1 =
      .error ⟨.config, "certificate_size_max must be within 1..=254, got 0"⟩ := by decide +kernel
  refine ⟨by decide +kernel, hremembered.file_round_trip.1 hvalid, _, hinvalid, ?_⟩
  exact hunusable.file_round_trip.2 _ hinvalid

end RememberedConfig

end NameRegistry
