import Clusterflux.Coordinator.Service

/-!
# What the primitive steps of handlers return

The clock and the durable store are streams of answers.  Each primitive step takes
the next answer of one stream and leaves the service alone.
-/

namespace Clusterflux

open StatefulProgram

namespace Machine

/-- The machine after one more reading of the clock. -/
def afterClock (machine : Machine) : Machine :=
  { machine with environment := { machine.environment with
      toWorld := machine.environment.afterClock } }

/-- The machine after one more write. -/
def afterStore (machine : Machine) : Machine :=
  { machine with environment := { machine.environment with
      toWorld := machine.environment.afterStore } }

variable (machine : Machine)

@[simp] theorem service_afterClock : machine.afterClock.service = machine.service := rfl

@[simp] theorem service_afterStore : machine.afterStore.service = machine.service := rfl

@[simp] theorem clock_afterClock (index : ℕ) :
    machine.afterClock.environment.clock index = machine.environment.clock (index + 1) := rfl

@[simp] theorem clock_afterStore (index : ℕ) :
    machine.afterStore.environment.clock index = machine.environment.clock index := rfl

end Machine

/-- The clock was set before the epoch. -/
def clockFailure : Failure :=
  protocolError "system clock error: second time provided was later than self"

def storeFailure : Failure := .error (.durable "durable store rejected the write")

namespace Handler

variable {machine : Machine}

theorem service_bind {α : Type} (next : CoordinatorService → Handler α) (machine : Machine) :
    (Handler.service >>= next) machine = next machine.service machine := rfl

theorem currentEpochSeconds_of_some {now : ℕ} (hclock : machine.environment.clock 0 = some now) :
    Handler.currentEpochSeconds machine = .ok now machine.afterClock := by
  change orFail (machine.environment.clock 0) _ machine.afterClock = _
  rw [hclock]
  rfl

theorem currentEpochSeconds_of_none (hclock : machine.environment.clock 0 = none) :
    Handler.currentEpochSeconds machine = .error clockFailure machine.afterClock := by
  change orFail (machine.environment.clock 0) _ machine.afterClock = _
  rw [hclock]
  rfl

theorem currentEpochSeconds_eq_ok_iff {after : Machine} {now : ℕ} :
    Handler.currentEpochSeconds machine = .ok now after ↔
      machine.environment.clock 0 = some now ∧ machine.afterClock = after := by
  change orFail (machine.environment.clock 0) _ machine.afterClock = _ ↔ _
  rw [orFail_eq_ok_iff]

theorem persistDurableState_of_accepts (haccepts : machine.environment.storeAccepts 0 = true) :
    Handler.persistDurableState machine = .ok ⟨⟩ machine.afterStore := by
  change ensure (machine.environment.storeAccepts 0 = true) _ machine.afterStore = _
  exact ensure_of haccepts _ _

theorem persistDurableState_of_refuses (hrefuses : machine.environment.storeAccepts 0 = false) :
    Handler.persistDurableState machine = .error storeFailure machine.afterStore := by
  change ensure (machine.environment.storeAccepts 0 = true) _ machine.afterStore = _
  exact ensure_eq_error_iff.mpr ⟨by rw [hrefuses]; exact Bool.false_ne_true, rfl, rfl⟩

end Handler

end Clusterflux
