import FederatedLearning.LearningError

/-!
# Failures that may be retried

An execution may fail for a transient reason, in which case it is worth trying
again, or for good.  What an execution hands back is looked at from outside: a
bare failure, or one in a box of unknown kind, is recognized as transient, but
anything kept in another container is not.
-/

namespace FederatedLearning

/-- A transient failure: the computation may succeed if it is run again. -/
structure TransientError where
  reason : String
deriving DecidableEq, Repr

def TransientError.message (error : TransientError) : String :=
  "retryable: " ++ error.reason

inductive ExecutionError where
  | transient (cause : TransientError)
  | fatal (reason : String)
deriving DecidableEq, Repr

namespace ExecutionError

def isTransient : ExecutionError → Bool
  | .transient _ => true
  | .fatal _ => false

def message : ExecutionError → String
  | .transient cause => cause.message
  | .fatal reason => "fatal: " ++ reason

end ExecutionError

inductive Failure where
  | transient (error : TransientError)
  | execution (error : ExecutionError)
  | tensor (error : TensorError)
  | learning (error : LearningError)
  | other (text : String)
deriving DecidableEq

namespace Failure

def message : Failure → String
  | .transient error => error.message
  | .execution error => error.message
  | .tensor error => error.message
  | .learning error => error.message
  | .other text => text

/-- The failure that caused this one, when it merely passes one on. -/
def cause? : Failure → Option Failure
  | .execution (.transient cause) => some (.transient cause)
  | .learning (.tensor cause) => some (.tensor cause)
  | _ => none

def isTransient : Failure → Bool
  | .transient _ => true
  | .execution error => error.isTransient
  | _ => false

end Failure

/-- What an execution handed back, as seen from outside. -/
inductive Raised where
  | failure (cause : Failure)
  /-- A failure in a box that does not show its kind. -/
  | boxed (cause : Failure)
  /-- Something kept in a container that is not looked into. -/
  | enclosed (content : Raised)
  | plain
deriving DecidableEq

def Raised.isTransient : Raised → Bool
  | .failure cause | .boxed cause => cause.isTransient
  | .enclosed _ | .plain => false

end FederatedLearning
