import NameRegistry.Delivery.Decision
import NameRegistry.Environment
import NameRegistry.Store.Branch
/-!
Delivery of messages. A message is decided on, then its fee is collected, then the change is
carried out. `dispatch` works on the store as it is; `deliver` works on a branch of the store and
commits it only if all has gone well.
-/
namespace NameRegistry

/-- A fee that was asked for. -/
structure Charge where
  message : Message
  payer : Address
  deriving DecidableEq

/-- What came of a message: whether it went through, the store behind it, and the fees that were
asked for. -/
structure Outcome (σ : Type) where
  result : Except Failure Unit
  store : σ
  charges : List Charge

namespace Environment

/-- Asks the collector for a fee. The answer comes with what was asked for. -/
def ask (environment : Environment) (context : Context) (charge : Charge) :
    Except Error Unit × List Charge :=
  (environment.collectFee context charge.message charge.payer, [charge])

/-- Collects the fee for a message from its payer. -/
def charge (environment : Environment) (context : Context) (message : Message) :
    Except Error Unit × List Charge :=
  let (answer, charges) := environment.ask context ⟨message, message.payer⟩
  (withContext s!"collecting {message.route} fee from {message.payer}" answer, charges)

/-- What the checks of a message look at. -/
def situation {σ : Type} (environment : Environment) (context : Context) (store : σ) :
    Situation σ :=
  ⟨environment.language, environment.configuration context, context, store⟩

variable {σ : Type} [KeyValueStore σ]

/-- Processes a message on the store itself. What was written before a failure stays. -/
def dispatch (environment : Environment) (context : Context) (message : Message) (store : σ) :
    Outcome σ :=
  match Decision.onMessage (environment.situation context store) message with
  | .error failure => ⟨.error failure, store, []⟩
  | .ok change =>
    match environment.charge context message with
    | (.error error, charges) => ⟨.error (.error error), store, charges⟩
    | (.ok (), charges) =>
      match change.apply store with
      | .ok () store => ⟨.ok (), store, charges⟩
      | .error failure store => ⟨.error failure, store, charges⟩

/-- Processes a message on a branch of the store, which is committed if the message went through
and dropped otherwise. -/
def deliver (environment : Environment) (context : Context) (message : Message) (store : σ) :
    Outcome σ :=
  let outcome := environment.dispatch context message (Branch.fresh store)
  match outcome.result with
  | .ok () => { outcome with store := outcome.store.commit }
  | .error _ => { outcome with store := store }

end Environment

end NameRegistry
