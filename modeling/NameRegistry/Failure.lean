import NameRegistry.Error
/-!
Failures. Beside errors, which report a broken rule, there are faults: an operation was used
against its contract, and no caller is meant to handle that. Updates of a store keep what was
written before a failure; to take it back is for the caller.
-/
namespace NameRegistry

/-- A use of an operation against its contract. -/
inductive Fault
  | emptyOwnerIndexed
  | certificateIndexOutOfRange (index count : Nat) (account : String)
  | domainNotLoaded (domain caller : String)
  | domainTakenUnloaded (domain : String)
  | accountNotLoaded (account caller : String)
  | accountTakenUnloaded (account : String)
  | parentMissing (account caller : String)
  deriving DecidableEq, Repr

def Fault.message : Fault → String
  | emptyOwnerIndexed => "cannot index under the empty owner address"
  | certificateIndexOutOfRange index count account =>
    s!"certificate index {index} out of range for account {account} with {count} certificates"
  | domainNotLoaded domain caller =>
    s!"domain controller for {domain}: {caller} requires a prior successful MustExist check"
  | domainTakenUnloaded domain =>
    s!"domain controller for {domain}: into_domain() called before MustExist"
  | accountNotLoaded account caller =>
    s!"account controller for {account}: {caller} requires a prior successful MustExist check"
  | accountTakenUnloaded account =>
    s!"account controller for {account}: into_account() called before MustExist"
  | parentMissing account caller =>
    s!"account controller for {account}: {caller} requires the parent domain, use with_domain"

/-- Why an operation did not come to its end. -/
inductive Failure
  | error (error : Error)
  | fault (fault : Fault)
  deriving DecidableEq, Repr

def Failure.message : Failure → String
  | error e => e.message
  | fault f => f.message

/-- An update of a state that may fail, and then leaves the state as far as it came. -/
abbrev Update (σ α : Type) := EStateM Failure σ α

instance {σ : Type} : MonadLift (Except Error) (EStateM Failure σ) where
  monadLift
    | .ok value => pure value
    | .error error => throw (.error error)

instance {σ : Type} : MonadLift (Except Failure) (EStateM Failure σ) where
  monadLift
    | .ok value => pure value
    | .error failure => throw failure

instance : MonadLift (Except Error) (Except Failure) where
  monadLift result := result.mapError .error

namespace Update

/-- An update whose errors have the context of the enclosing operation. -/
def withContext {σ α : Type} (context : String) (update : Update σ α) : Update σ α := fun state =>
  match update state with
  | .error (.error error) state => .error (.error (error.context context)) state
  | result => result

/-- What an update results in, without the state that it leaves. -/
def evaluate {σ α : Type} (update : Update σ α) (state : σ) : Except Failure α :=
  match update state with
  | .ok value _ => .ok value
  | .error failure _ => .error failure

end Update

end NameRegistry
