import Clusterflux.Foundation.Runs
import Clusterflux.Node.GuestRun

/-!
# What the fuel of a guest adds up to

The refills of a run add what its time allows, whatever the guest burns in between.
-/

namespace Clusterflux

open LabelledRuns

namespace FuelTokenBucket

/-- The numbers of the bucket fit their types, and less than a unit is carried over;
nothing is from a full bucket. -/
structure Valid (bucket : FuelTokenBucket) (fuel : ℕ) : Prop where
  rate : bucket.fuelUnitsPerSecond < 2 ^ 64
  capacity : bucket.capacity < 2 ^ 64
  fraction : bucket.fractionalFuelNumerator < nanosPerSecond
  full : fuel = bucket.capacity → bucket.fractionalFuelNumerator = 0

variable {bucket : FuelTokenBucket} {fuel elapsed : ℕ}

/-- Nothing saturates before the refill is capped. -/
theorem refillAfter_eq (hvalid : bucket.Valid fuel) (helapsed : elapsed < 2 ^ 64)
    (currentFuel : ℕ) : bucket.refillAfter currentFuel elapsed =
      let earned := elapsed * bucket.fuelUnitsPerSecond + bucket.fractionalFuelNumerator
      let refilled := min (currentFuel + earned / nanosPerSecond) bucket.capacity
      (refilled, { bucket with
        fractionalFuelNumerator :=
          if refilled = bucket.capacity then 0 else earned % nanosPerSecond }) := by
  have hproduct : elapsed * bucket.fuelUnitsPerSecond ≤ (2 ^ 64 - 1) * (2 ^ 64 - 1) :=
    Nat.mul_le_mul (by omega) (by have := hvalid.rate; omega)
  have hfraction := hvalid.fraction
  have hcapacity := hvalid.capacity
  have hearned : min (min (elapsed * bucket.fuelUnitsPerSecond) u128Max +
        bucket.fractionalFuelNumerator) u128Max =
      elapsed * bucket.fuelUnitsPerSecond + bucket.fractionalFuelNumerator := by
    simp only [u128Max, nanosPerSecond] at *
    omega
  have hrefilled : ∀ earned, min (min (currentFuel + min (earned / nanosPerSecond) u64Max) u64Max)
      bucket.capacity = min (currentFuel + earned / nanosPerSecond) bucket.capacity := by
    intro earned
    simp only [u64Max]
    omega
  simp only [refillAfter, hearned, hrefilled]

end FuelTokenBucket

/-! ## Runs -/

/-- A bucket and the fuel of its guest after a refill. -/
structure FuelMeter where
  bucket : FuelTokenBucket
  fuel : ℕ

/-- What the guest burns before the next refill, and when that comes. -/
structure FuelStep where
  consumed : ℕ
  elapsed : ℕ

def FuelStep.refill (step : FuelStep) (meter : FuelMeter) : FuelMeter :=
  let refilled := meter.bucket.refillAfter (meter.fuel - step.consumed) step.elapsed
  ⟨refilled.2, refilled.1⟩

namespace FuelMeter

def run (meter : FuelMeter) (steps : List FuelStep) : FuelMeter :=
  replay FuelStep.refill meter steps

/-- The guest burns what it has, and no refill waits for 2^64 nanoseconds. -/
abbrev Allows (meter : FuelMeter) (steps : List FuelStep) : Prop :=
  Follows FuelStep.refill (fun step meter => step.consumed ≤ meter.fuel ∧ step.elapsed < 2 ^ 64)
    meter steps

/-- Every refill leaves room in the bucket. -/
abbrev StaysBelow (meter : FuelMeter) (steps : List FuelStep) : Prop :=
  Follows FuelStep.refill (fun step meter => (step.refill meter).fuel < meter.bucket.capacity)
    meter steps

/-- What the refills add. -/
def added (meter : FuelMeter) : List FuelStep → ℕ
  | [] => 0
  | step :: steps => ((step.refill meter).fuel - (meter.fuel - step.consumed)) +
      (step.refill meter).added steps

def elapsed (steps : List FuelStep) : ℕ := (steps.map (·.elapsed)).sum

def consumed (steps : List FuelStep) : ℕ := (steps.map (·.consumed)).sum

/-- The fuel with what is carried over, in billionths of a unit. -/
def credit (meter : FuelMeter) : ℕ :=
  meter.fuel * nanosPerSecond + meter.bucket.fractionalFuelNumerator

@[simp]
theorem run_cons (meter : FuelMeter) (step : FuelStep) (steps : List FuelStep) :
    meter.run (step :: steps) = (step.refill meter).run steps := rfl

/-- What a number of refills does to a valid meter.  What is added comes from the time that
has passed, and below the capacity nothing of that is lost. -/
structure Refills (before : FuelMeter) (steps : List FuelStep) (after : FuelMeter) : Prop where
  valid : after.bucket.Valid after.fuel
  rate : after.bucket.fuelUnitsPerSecond = before.bucket.fuelUnitsPerSecond
  capacity : after.bucket.capacity = before.bucket.capacity
  bounded : steps ≠ [] → after.fuel ≤ before.bucket.capacity
  added : before.added steps * nanosPerSecond + after.bucket.fractionalFuelNumerator ≤
    elapsed steps * before.bucket.fuelUnitsPerSecond + before.bucket.fractionalFuelNumerator
  exact : before.StaysBelow steps →
    before.added steps * nanosPerSecond + after.bucket.fractionalFuelNumerator =
      elapsed steps * before.bucket.fuelUnitsPerSecond + before.bucket.fractionalFuelNumerator

variable {meter : FuelMeter} {step : FuelStep} {steps later : List FuelStep}

theorem refills_step (hvalid : meter.bucket.Valid meter.fuel) (helapsed : step.elapsed < 2 ^ 64) :
    Refills meter [step] (step.refill meter) := by
  have hstep := FuelTokenBucket.refillAfter_eq hvalid helapsed (meter.fuel - step.consumed)
  obtain ⟨hrate, hcapacity, hfraction, -⟩ := hvalid
  dsimp only at hstep
  split at hstep
  all_goals
    rename_i hcapped
    simp only [FuelStep.refill, hstep]
    refine ⟨⟨hrate, hcapacity, ?_, fun hfull => ?_⟩, rfl, rfl, fun _ => min_le_right _ _, ?_,
      fun hbelow => ?_⟩
    -- the product is never taken apart
    all_goals simp only [added, Follows, elapsed, FuelStep.refill, hstep, List.map_cons,
      List.sum_cons, List.map_nil, List.sum_nil, Nat.add_zero, nanosPerSecond] at * <;>
        generalize step.elapsed * meter.bucket.fuelUnitsPerSecond = earned at * <;> omega

/-- Refills one after the other add up. -/
theorem refills_run (hvalid : meter.bucket.Valid meter.fuel) (hallows : meter.Allows steps) :
    Refills meter steps (meter.run steps) := by
  induction steps generalizing meter with
  | nil => exact ⟨hvalid, rfl, rfl, nofun, by simp [added, elapsed, run, replay],
      fun _ => by simp [added, elapsed, run, replay]⟩
  | cons step steps ih =>
    obtain ⟨⟨-, helapsed⟩, hrest⟩ := hallows
    have hfirst := refills_step hvalid helapsed
    have hlater := ih hfirst.valid hrest
    refine ⟨hlater.valid, hlater.rate.trans hfirst.rate, hlater.capacity.trans hfirst.capacity,
      fun _ => ?_, ?_, fun hbelow => ?_⟩
    · cases steps with
      | nil => exact hfirst.bounded (List.cons_ne_nil _ _)
      | cons next steps => exact hfirst.capacity ▸ hlater.bounded (List.cons_ne_nil _ _)
    · have hadded := hfirst.added
      have hrest := hlater.added
      rw [hfirst.rate] at hrest
      simp only [added, elapsed, run_cons, List.map_cons, List.sum_cons, Nat.add_mul,
        List.map_nil, List.sum_nil] at *
      omega
    · have hadded := hfirst.exact ⟨hbelow.1, trivial⟩
      have hrest := hlater.exact hbelow.2
      rw [hfirst.rate] at hrest
      simp only [added, elapsed, run_cons, List.map_cons, List.sum_cons, Nat.add_mul,
        List.map_nil, List.sum_nil] at *
      omega

/-- What is burnt comes from the credit at the start and from the time that has passed. -/
theorem consumed_le (hvalid : meter.bucket.Valid meter.fuel) (hallows : meter.Allows steps) :
    consumed steps * nanosPerSecond ≤
      meter.credit + elapsed steps * meter.bucket.fuelUnitsPerSecond := by
  induction steps generalizing meter with
  | nil => simp [consumed]
  | cons step steps ih =>
    obtain ⟨⟨hburnt, helapsed⟩, hrest⟩ := hallows
    have hfirst := refills_step hvalid helapsed
    have hlater := ih hfirst.valid hrest
    have hadded := hfirst.added
    have hkept : (meter.fuel - step.consumed) * nanosPerSecond + step.consumed * nanosPerSecond =
        meter.fuel * nanosPerSecond := by
      rw [← Nat.add_mul, Nat.sub_add_cancel hburnt]
    have hfuel : (step.refill meter).fuel * nanosPerSecond ≤
        ((step.refill meter).fuel - (meter.fuel - step.consumed)) * nanosPerSecond +
          (meter.fuel - step.consumed) * nanosPerSecond := by
      rw [← Nat.add_mul]
      exact Nat.mul_le_mul_right _ (by omega)
    rw [hfirst.rate] at hlater
    simp only [credit, consumed, added, elapsed, List.map_cons, List.sum_cons, Nat.add_mul,
      List.map_nil, List.sum_nil] at *
    omega

theorem allows_append (hallows : meter.Allows (steps ++ later)) :
    meter.Allows steps ∧ (meter.run steps).Allows later := by
  induction steps generalizing meter with
  | nil => exact ⟨trivial, hallows⟩
  | cons step steps ih =>
    obtain ⟨hfirst, hrest⟩ := hallows
    exact ⟨⟨hfirst, (ih hrest).1⟩, (ih hrest).2⟩

/-- A full bucket carries nothing over, so the credit is worth no more than the capacity. -/
theorem credit_le (hvalid : meter.bucket.Valid meter.fuel)
    (hbounded : meter.fuel ≤ meter.bucket.capacity) :
    meter.credit ≤ meter.bucket.capacity * nanosPerSecond := by
  obtain ⟨-, -, hfraction, hfull⟩ := hvalid
  simp only [credit, nanosPerSecond] at *
  omega

end FuelMeter

open FuelMeter in
/-- However the time is divided into refills, a refill leaves no more than the capacity, the
fuel added is what the rate gives for the time or less, all of it as long as the bucket does
not fill up, and between two refills no more is burnt than the capacity and what the time
between them gives. -/
theorem fuel_budget (rate capacity fuel : ℕ) (hrate : rate < 2 ^ 64) (hcapacity : capacity < 2 ^ 64)
    (steps : List FuelStep) (hallows : Allows ⟨.new rate capacity, fuel⟩ steps) :
    (∀ earlier later, steps = earlier ++ later → earlier ≠ [] →
        (run ⟨.new rate capacity, fuel⟩ earlier).fuel ≤ capacity) ∧
      added ⟨.new rate capacity, fuel⟩ steps * nanosPerSecond ≤ elapsed steps * rate ∧
      (StaysBelow ⟨.new rate capacity, fuel⟩ steps →
        added ⟨.new rate capacity, fuel⟩ steps = elapsed steps * rate / nanosPerSecond) ∧
      ∀ earlier between later, steps = earlier ++ (between ++ later) → earlier ≠ [] →
        consumed between * nanosPerSecond ≤ capacity * nanosPerSecond + elapsed between * rate := by
  have hvalid : (FuelTokenBucket.new rate capacity).Valid fuel :=
    ⟨hrate, hcapacity, show 0 < nanosPerSecond by decide, fun _ => rfl⟩
  have hrefills := refills_run hvalid hallows
  refine ⟨?_, Nat.le_of_add_right_le hrefills.added, fun hbelow => ?_, ?_⟩
  · rintro earlier later rfl hearlier
    exact (refills_run hvalid (allows_append hallows).1).bounded hearlier
  · have hadded := hrefills.exact hbelow
    have hfraction := hrefills.valid.fraction
    simp only [FuelTokenBucket.new, nanosPerSecond] at hadded hfraction ⊢
    omega
  · rintro earlier between later rfl hearlier
    obtain ⟨hfirst, hrest⟩ := allows_append hallows
    have hmiddle := refills_run hvalid hfirst
    have hbound := hmiddle.capacity ▸ hmiddle.bounded hearlier
    calc consumed between * nanosPerSecond
        ≤ _ := consumed_le hmiddle.valid (allows_append hrest).1
      _ ≤ _ := Nat.add_le_add_right (credit_le hmiddle.valid hbound) _
      _ = capacity * nanosPerSecond + elapsed between * rate := by
        rw [hmiddle.rate, hmiddle.capacity]
        rfl

open FuelMeter in
/-- Three refills a third of a second apart add what one second gives. -/
theorem three_refills_add_one_second :
    added ⟨.new 10 100, 0⟩ [⟨0, 333333333⟩, ⟨3, 333333333⟩, ⟨0, 333333334⟩] = 10 := by
  have hallows : Allows ⟨.new 10 100, 0⟩ [⟨0, 333333333⟩, ⟨3, 333333333⟩, ⟨0, 333333334⟩] := by
    decide
  exact (fuel_budget 10 100 0 (by decide) (by decide) _ hallows).2.2.1 (by decide)

end Clusterflux
