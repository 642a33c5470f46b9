import Clusterflux.Core.Primitives

/-!
# A running guest

A guest may burn a number of fuel units per second.  Whenever it is resumed its
fuel is refilled for the time that has passed, up to a capacity; what is less than
a unit is carried over to the next refill in billionths of a unit.

A node collects the output of the commands a task runs.  Each stream keeps its end, and
says whether something of it is missing.
-/

namespace Clusterflux

/-! ## Fuel -/

def nanosPerSecond : ℕ := 1000000000

def u128Max : ℕ := 2 ^ 128 - 1

structure FuelTokenBucket where
  fuelUnitsPerSecond : ℕ
  capacity : ℕ
  fractionalFuelNumerator : ℕ

namespace FuelTokenBucket

def new (fuelUnitsPerSecond capacity : ℕ) : FuelTokenBucket :=
  ⟨fuelUnitsPerSecond, capacity, 0⟩

/-- The refilled fuel and the bucket, after so many nanoseconds. -/
def refillAfter (bucket : FuelTokenBucket) (currentFuel elapsed : ℕ) : ℕ × FuelTokenBucket :=
  let earnedNumerator := min (min (elapsed * bucket.fuelUnitsPerSecond) u128Max +
    bucket.fractionalFuelNumerator) u128Max
  let refill := min (earnedNumerator / nanosPerSecond) u64Max
  let refilled := min (min (currentFuel + refill) u64Max) bucket.capacity
  (refilled, { bucket with
    fractionalFuelNumerator :=
      if refilled = bucket.capacity then 0 else earnedNumerator % nanosPerSecond })

end FuelTokenBucket

/-! ## Logs -/

namespace CommandLogs

def defaultCommandLogLimitBytes : ℕ := 256 * 1024

structure LogStream where
  text : List Char
  truncated : Bool

structure CommandOutput where
  stdout : LogStream
  stderr : LogStream
  logBackpressured : Bool

/-- The logs of a task have the fields of one output. -/
abbrev NativeCommandLogState := CommandOutput

abbrev len (text : List Char) : ℕ := (text.map Char.utf8Size).sum

def appendBoundedLogTail (current addition : List Char) (maximum : ℕ) : List Char × Bool :=
  let combined := current ++ addition
  if len combined ≤ maximum then (combined, false)
  else (suffixWithin maximum combined,
    decide (len combined > len (suffixWithin maximum combined)))

/-- `truncated |= output.truncated || append_bounded_log_tail(..)`: an output that is
truncated itself is not appended. -/
def LogStream.record (log output : LogStream) : LogStream :=
  if output.truncated then { log with truncated := true }
  else
    let appended := appendBoundedLogTail log.text output.text defaultCommandLogLimitBytes
    ⟨appended.1, log.truncated || appended.2⟩

def NativeCommandLogState.record (logs : NativeCommandLogState) (output : CommandOutput) :
    NativeCommandLogState :=
  ⟨logs.stdout.record output.stdout, logs.stderr.record output.stderr,
    logs.logBackpressured || output.logBackpressured⟩

end CommandLogs

end Clusterflux
