import NameRegistry.Address
import NameRegistry.OrderedMap
import NameRegistry.Time
/-!
The configuration of the registry: who owns it, which names are valid, how long things last, how
much an account may hold and what messages cost.
-/
namespace NameRegistry

/-- A span of time in seconds and nanoseconds. -/
structure Duration where
  seconds : UInt64
  nanos : Nanos
  deriving DecidableEq, Repr

namespace Duration

def ofSeconds (seconds : UInt64) : Duration := ⟨seconds, .zero⟩

/-- The whole seconds of a span, held at the end of the range of times. -/
def wholeSeconds (duration : Duration) : Int64 := .ofIntClamp duration.seconds.toNat

def isZero (duration : Duration) : Bool := duration.seconds = 0 && duration.nanos.value = 0

end Duration

/-- What messages cost, by their route. -/
structure FeeSchedule where
  denom : String
  fees : OrderedMap String UInt64
  defaultFee : UInt64
  deriving DecidableEq

/-- The fee of a route; one that is not listed costs the default fee. -/
def FeeSchedule.feeFor (schedule : FeeSchedule) (route : String) : UInt64 :=
  (schedule.fees.get? route).getD schedule.defaultFee

/-- The patterns that names and targets have to match, as texts. -/
structure Validity where
  domainName : String
  accountName : String
  blockchainId : String
  blockchainAddress : String
  deriving DecidableEq, Repr

/-- The configuration. A renewal of a domain adds `domainRenewal`; for `domainGrace` after its
end only the administrator may delete it. -/
structure Config where
  configurer : Address
  validity : Validity
  domainRenewal : Duration
  domainGrace : Duration
  accountRenewal : Duration
  targetsMax : UInt64
  certificatesMax : UInt64
  certificateSizeMax : UInt64
  metadataSizeMax : UInt64
  fees : FeeSchedule
  deriving DecidableEq

namespace Config

def standardFees : FeeSchedule where
  denom := "tiov"
  fees := .ofList [("register_domain", 10000), ("renew_domain", 10000),
    ("register_account", 100), ("renew_account", 100), ("transfer_domain", 1000),
    ("transfer_account", 100)]
  defaultFee := 10

def standard : Config where
  configurer := .empty
  validity :=
    { domainName := "^[-_a-z0-9]\x7b4,16\x7d$"
      accountName := "^[-_\\.a-z0-9]\x7b1,64\x7d$"
      blockchainId := "^[-a-zA-Z0-9_:]\x7b1,50\x7d$"
      blockchainAddress := "^[-a-zA-Z0-9_:]\x7b1,128\x7d$" }
  domainRenewal := .ofSeconds (365 * 86400)
  domainGrace := .ofSeconds (30 * 86400)
  accountRenewal := .ofSeconds (365 * 86400)
  targetsMax := 10
  certificatesMax := 5
  certificateSizeMax := 200
  metadataSizeMax := 256
  fees := standardFees

/-- A configuration with short domain names and the given periods in seconds. -/
def withShortNames (renewal grace accountRenewal : UInt64) : Config :=
  { standard with
    validity := { standard.validity with domainName := "^[-_a-z0-9]\x7b1,32\x7d$" }
    domainRenewal := .ofSeconds renewal
    domainGrace := .ofSeconds grace
    accountRenewal := .ofSeconds accountRenewal }

/-- The configuration for development: names last a day. -/
def development : Config := withShortNames 86400 3600 86400

/-- The configuration for tests: periods are round numbers of seconds and limits are small. -/
def testing : Config :=
  { withShortNames 1000 100 500 with certificatesMax := 3, metadataSizeMax := 64 }

end Config

end NameRegistry
