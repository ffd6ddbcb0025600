import NameRegistry.Config.Patterns
import NameRegistry.Json.Reader
import NameRegistry.Json.Records
import NameRegistry.Json.Writer
/-!
Configurations in JSON, and the file that holds one.
-/
namespace NameRegistry

open Json

namespace Duration

def toJson (duration : Duration) : Value :=
  .record [("secs", .integer duration.seconds.toNat), ("nanos", .integer duration.nanos.value)]

/-- The span of a record; nanoseconds may amount to whole seconds. -/
def ofJson? (value : Value) : Option Duration := do
  match ← value.exactFields? ["secs", "nanos"] with
  | [seconds, nanos] =>
    let seconds ← required (Value.integer? 0 18446744073709551615) seconds
    let nanos ← required (Value.integer? 0 4294967295) nanos
    let seconds := seconds.toNat + nanos.toNat / 1000000000
    if seconds < UInt64.size then some ⟨UInt64.ofNat seconds, .ofTotal nanos.toNat⟩
    else none
  | _ => none

end Duration

namespace FeeSchedule

def toJson (schedule : FeeSchedule) : Value :=
  .record [("denom", .ofText schedule.denom),
    ("fees",
      .record (schedule.fees.entries.map fun entry => (entry.1, .integer entry.2.toNat))),
    ("default_fee", .integer schedule.defaultFee.toNat)]

/-- The fees of an object; of two fees of one route the later one holds. -/
def feesOfJson? : Value → Option (OrderedMap String UInt64)
  | .object members => do
    let members ← keyed? members
    let fees ← members.mapM fun member => do return (member.1, ← member.2.uint64?)
    return .ofList fees
  | _ => none

/-- The schedule of a record. -/
def ofJson? (value : Value) : Option FeeSchedule := do
  match ← value.fields? ["denom", "fees", "default_fee"] with
  | [denom, fees, defaultFee] =>
    return ⟨← required Value.text? denom, ← required feesOfJson? fees,
      ← required Value.uint64? defaultFee⟩
  | _ => none

end FeeSchedule

namespace Config

/-- The names of the fields of a configuration. -/
def fieldNames : List String :=
  ["configurer", "valid_domain_name", "valid_account_name", "valid_blockchain_id",
    "valid_blockchain_address", "domain_renewal_period", "domain_grace_period",
    "account_renewal_period", "resources_max", "certificates_max", "certificate_size_max",
    "metadata_size_max", "fees"]

def toJson (config : Config) : Value :=
  let validity := config.validity
  .record (fieldNames.zip
    [config.configurer.toJson, .ofText validity.domainName, .ofText validity.accountName,
      .ofText validity.blockchainId, .ofText validity.blockchainAddress,
      config.domainRenewal.toJson, config.domainGrace.toJson, config.accountRenewal.toJson,
      .integer config.targetsMax.toNat, .integer config.certificatesMax.toNat,
      .integer config.certificateSizeMax.toNat, .integer config.metadataSizeMax.toNat,
      config.fees.toJson])

/-- The configuration of a record. -/
def ofJson? (value : Value) : Option Config := do
  match ← value.fields? fieldNames with
  | [configurer, domainName, accountName, blockchainId, blockchainAddress, domainRenewal,
      domainGrace, accountRenewal, targetsMax, certificatesMax, certificateSizeMax,
      metadataSizeMax, fees] =>
    return {
      configurer := ← required Address.ofJson? configurer
      validity :=
        { domainName := ← required Value.text? domainName
          accountName := ← required Value.text? accountName
          blockchainId := ← required Value.text? blockchainId
          blockchainAddress := ← required Value.text? blockchainAddress }
      domainRenewal := ← required Duration.ofJson? domainRenewal
      domainGrace := ← required Duration.ofJson? domainGrace
      accountRenewal := ← required Duration.ofJson? accountRenewal
      targetsMax := ← required Value.uint64? targetsMax
      certificatesMax := ← required Value.uint64? certificatesMax
      certificateSizeMax := ← required Value.uint64? certificateSizeMax
      metadataSizeMax := ← required Value.uint64? metadataSizeMax
      fees := ← required FeeSchedule.ofJson? fees }
  | _ => none

/-- The text of a configuration file. -/
def toFile (config : Config) : Bytes := config.toJson.pretty

/-- The configuration that a file holds, if it is usable. -/
def ofFile (language : PatternLanguage) (text : Bytes) : Except Error Config := do
  let some config := (Value.ofBytes? text).bind ofJson?
    | throw ⟨.serialization, "malformed configuration"⟩
  config.validate language
  return config

end Config

end NameRegistry
