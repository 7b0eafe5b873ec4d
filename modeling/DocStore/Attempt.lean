import DocStore.Failure

/-!
# Attempts

Computations that work on a state and may fail.  What was done to the state before
a failure stays done.
-/

namespace DocStore

abbrev Attempt (σ α : Type) := ExceptT Failure (StateM σ) α

namespace Attempt

variable {σ τ α : Type}

def ofResult (result : Except Failure α) : Attempt σ α :=
  fun state => (result, state)

/-- An outcome that depends on the state and leaves it alone. -/
def reading (result : σ → Except Failure α) : Attempt σ α :=
  fun state => (result state, state)

/-- A step from one state to another, which may be refused. -/
def step (next : σ → Except Failure σ) : Attempt σ Unit :=
  fun state =>
    match next state with
    | .ok next => (.ok (), next)
    | .error failure => (.error failure, state)

def onPart (part : σ → τ) (withPart : σ → τ → σ) (attempt : Attempt τ α) : Attempt σ α :=
  fun state =>
    let (result, changed) := attempt.run (part state)
    (result, withPart state changed)

def retold (tell : Failure → Failure) (attempt : Attempt σ α) : Attempt σ α :=
  fun state =>
    let (result, changed) := attempt.run state
    (result.mapError tell, changed)

end Attempt

end DocStore
