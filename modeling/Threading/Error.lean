/-!
# Errors

What can go wrong, as causes (`Error`), and the wording of each
(`Error.message`). An error may have a deeper cause: the refusal of the
operating system, or the failure of a list to grow (`Error.source`).
-/

namespace Threading

/-- Why a thread could not be created: the number the operating system gave, or
    a reason in words. -/
inductive Refusal
  | system (code : Nat)
  | other (reason : String)
  deriving DecidableEq, Repr

/-- The words of the operating system for an error number. -/
def systemText : Nat → String
  | 1 => "Operation not permitted"
  | 11 => "Resource temporarily unavailable"
  | 12 => "Cannot allocate memory"
  | 22 => "Invalid argument"
  | code => s!"Unknown error {code}"

/-- The refusal in words. -/
def Refusal.message : Refusal → String
  | .system code => s!"{systemText code} (os error {code})"
  | .other reason => reason

/-- Why a list could not grow. -/
inductive GrowthFailure
  /-- No list is that long. -/
  | overflow
  /-- Memory is exhausted. -/
  | exhausted
  deriving DecidableEq, Repr

/-- The failure in words. -/
def GrowthFailure.message : GrowthFailure → String
  | .overflow =>
    "memory allocation failed because the computed capacity exceeded the collection's maximum"
  | .exhausted => "memory allocation failed because the memory allocator returned an error"

/-- What a call can fail with. -/
inductive Error
  /-- The operating system did not create the thread of that name. -/
  | spawn (name : String) (refusal : Refusal)
  /-- The closure of the joined thread of that name panicked. -/
  | panicked (name : String)
  /-- A list could not grow by one element. -/
  | allocation (failure : GrowthFailure)
  /-- The pool takes no more tasks. -/
  | shutDown
  /-- A pool was asked for without threads. -/
  | noWorkers
  /-- The permits of a new semaphore exceed its ceiling, or the ceiling is zero. -/
  | invalidSemaphore (initial ceiling : UInt32)
  /-- All permits up to the ceiling are there already. -/
  | semaphoreOverflow (ceiling : UInt32)
  deriving DecidableEq, Repr

namespace Error

/-- The kind of an error, in one word. -/
def kind : Error → String
  | spawn .. => "Spawn"
  | panicked .. => "Panicked"
  | allocation .. => "Allocation"
  | shutDown => "ShutDown"
  | noWorkers => "NoWorkers"
  | invalidSemaphore .. => "InvalidSemaphore"
  | semaphoreOverflow .. => "SemaphoreOverflow"

/-- The error in words. -/
def message : Error → String
  | spawn name refusal => s!"failed to spawn thread `{name}`: {refusal.message}"
  | panicked name => s!"thread `{name}` panicked"
  | allocation failure => s!"allocation failed: {failure.message}"
  | shutDown => "pool is shut down"
  | noWorkers => "pool needs at least one worker"
  | invalidSemaphore initial ceiling =>
    s!"invalid semaphore: initial count {initial} with maximum {ceiling}"
  | semaphoreOverflow ceiling => s!"semaphore count would exceed maximum {ceiling}"

/-- The deeper cause in words, where there is one. -/
def source : Error → Option String
  | spawn _ refusal => some refusal.message
  | allocation failure => some failure.message
  | _ => none

end Error

end Threading
