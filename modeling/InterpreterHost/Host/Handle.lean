import InterpreterHost.Host.Execution

/-!
# Handles of objects

A handle holds one reference to an object and may be on any thread.  The reference is given up on the owning
thread and nowhere else.

## Main definitions

* `Handle` — a handle
* `Handle.release` — give up the reference and wait for it
* `Handle.drop` — give up the reference without waiting
* `Handle.dropping` — give up the reference after running code
* `Handle.clone` — a second handle of the same object

## Design notes

What a handle gives up goes as `Heap.releaseAll` says, by the counts alone.  That the object of a handle, or an
object that goes with it, has a finalizer is left out here; it is told of what calls let go of, which is where their
results can depend on it (`Library.letGo`).
-/

namespace InterpreterHost

/-- A handle: a reference to an object, or nothing once that is given up. -/
structure Handle where
  place : Option Ref
deriving DecidableEq, Repr, Inhabited

namespace Handle

/-- A handle that holds nothing. -/
def null : Handle := ⟨none⟩

/-- A handle that takes over a reference. -/
def of (r : Ref) : Handle := ⟨some r⟩

def isNull (h : Handle) : Bool := h.place.isNone

/-- How a handle that holds nothing is written. -/
def nullText : String := "Object(null)"

/-- Give up the reference and wait until that is done; inside a job it is done at once.  The handle holds nothing
afterwards, whatever comes of it. -/
def release (h : Handle) : Action (Handle × Except BrokerError Unit) := do
  match h.place with
  | none => return (null, .ok ())
  | some r =>
    if (← get).insideJob then
      Action.job (Job.release r)
      return (null, .ok ())
    else return (null, ← Action.execSync (Action.job (Job.release r)))

/-- The warning that a reference is never given up. -/
def leakWarning : String := "python object dropped after the main thread terminated; reference leaked"

/-- Give up the reference as soon as the owning thread comes to it; inside a job that is at once. -/
def drop (h : Handle) : Action Unit := do
  match h.place with
  | none => return
  | some r =>
    if (← get).insideJob then Action.job (Job.release r)
    else if let .error _ ← Action.exec (.of (Job.release r)) then Action.warn leakWarning

/-- A handle with a reference more. -/
def ofShared (r : Ref) : Job Handle := do
  Job.retain r
  return of r

/-- A second handle of the same object. -/
def clone (h : Handle) : Action (Except BrokerError Handle) := do
  match h.place with
  | none => return .ok null
  | some r =>
    if (← get).insideJob then return .ok (← Action.job (ofShared r))
    else Action.execSync (Action.job (ofShared r))

/-- Run code and then let go of the handle, whatever comes of it. -/
def dropping (h : Handle) (code : ExceptT ε Action α) : ExceptT ε Action α := ExceptT.mk do
  let result ← tryCatch code.run fun p => do
    h.drop
    throw p
  h.drop
  return result

/-- Take the reference out of the handle, inside a job. -/
def take (h : Handle) : Option Ref × Handle := (h.place, null)

end Handle

end InterpreterHost
