import Mathlib.Init
import Mathlib.Order.RelClasses

/-!
# Programs with state and failure

A computation in `EStateM ε σ` keeps the state it has reached when it fails.
This is the behaviour of a method that mutates its receiver and returns early
with an error: the mutations made before the error stay.

This module relates the state before a computation to the state after it,
whatever its outcome, and closes such relations under the control structures.
A relation is proved for the primitive operations once and then carried through
whole programs.
-/

namespace StatefulProgram

universe u v

variable {ε σ α β : Type u} {program first : EStateM ε σ α} {next : α → EStateM ε σ β}
  {property : σ → Prop} {state middle final : σ} {value : α} {failure : ε}

/-! ## Outcomes -/

/-- The state in which a computation ends, whether it returned or failed. -/
def finalState : EStateM.Result ε σ α → σ
  | .ok _ state => state
  | .error _ state => state

/-- The returned value, if the computation returned. -/
def returned : EStateM.Result ε σ α → Option α
  | .ok value _ => some value
  | .error _ _ => none

@[simp]
theorem finalState_ok (value : α) (state : σ) :
    finalState (.ok value state : EStateM.Result ε σ α) = state := rfl

@[simp]
theorem finalState_error (failure : ε) (state : σ) :
    finalState (.error failure state : EStateM.Result ε σ α) = state := rfl

@[simp]
theorem returned_ok (value : α) (state : σ) :
    returned (.ok value state : EStateM.Result ε σ α) = some value := rfl

@[simp]
theorem returned_error (failure : ε) (state : σ) :
    returned (.error failure state : EStateM.Result ε σ α) = none := rfl

/-! ## Guards -/

/-- Continue only if the condition holds. -/
def ensure (condition : Prop) [Decidable condition] (failure : ε) : EStateM ε σ PUnit :=
  if condition then pure ⟨⟩ else throw failure

/-- Continue with the value of an option that has one. -/
def orFail (value : Option α) (failure : ε) : EStateM ε σ α :=
  match value with
  | some value => pure value
  | none => throw failure

/-- Continue with the value of a successful check, and fail with its error. -/
def liftExcept {δ : Type u} (outcome : Except δ α) (failure : δ → ε) : EStateM ε σ α :=
  match outcome with
  | .ok value => pure value
  | .error error => throw (failure error)

/-- Run a computation only if the condition holds. -/
def runIf (condition : Prop) [Decidable condition] (action : EStateM ε σ PUnit) :
    EStateM ε σ PUnit :=
  if condition then action else pure ⟨⟩

/-! ## Evaluation -/

@[simp]
theorem pure_apply (value : α) (state : σ) :
    (pure value : EStateM ε σ α) state = .ok value state := rfl

@[simp]
theorem throw_apply (failure : ε) (state : σ) :
    (throw failure : EStateM ε σ α) state = .error failure state := rfl

@[simp]
theorem get_apply (state : σ) :
    (get : EStateM ε σ σ) state = .ok state state := rfl

@[simp]
theorem modify_apply (change : σ → σ) (state : σ) :
    (modify change : EStateM ε σ PUnit) state = .ok ⟨⟩ (change state) := rfl

theorem set_bind (written state : σ) (next : PUnit → EStateM ε σ β) :
    (set written >>= next) state = next ⟨⟩ written := rfl

theorem bind_apply (first : EStateM ε σ α) (next : α → EStateM ε σ β) (state : σ) :
    (first >>= next) state =
      match first state with
      | .ok value middle => next value middle
      | .error failure middle => .error failure middle := rfl

theorem bind_of_ok (hfirst : first state = .ok value middle) :
    (first >>= next) state = next value middle := by
  rw [bind_apply, hfirst]

theorem bind_of_error (hfirst : first state = .error failure middle) :
    (first >>= next) state = .error failure middle := by
  rw [bind_apply, hfirst]

/-- A sequence returns exactly when both parts return. -/
theorem bind_eq_ok_iff {result : β} :
    (first >>= next) state = .ok result final ↔
      ∃ value middle, first state = .ok value middle ∧
        next value middle = .ok result final := by
  rw [bind_apply]
  cases first state with
  | ok value middle => simp [and_assoc]
  | error failure middle => simp

/-- A sequence fails exactly when one of its parts fails. -/
theorem bind_eq_error_iff :
    (first >>= next) state = .error failure final ↔
      first state = .error failure final ∨
        ∃ value middle, first state = .ok value middle ∧
          next value middle = .error failure final := by
  rw [bind_apply]
  cases first state with
  | ok value middle => simp [and_assoc]
  | error failure middle => simp

theorem ensure_apply (condition : Prop) [Decidable condition] (failure : ε) (state : σ) :
    (ensure condition failure : EStateM ε σ PUnit) state =
      if condition then .ok ⟨⟩ state else .error failure state := by
  unfold ensure
  split <;> rfl

@[simp]
theorem ensure_eq_ok_iff {condition : Prop} [Decidable condition] {value : PUnit} :
    (ensure condition failure : EStateM ε σ PUnit) state = .ok value final ↔
      condition ∧ state = final := by
  rw [ensure_apply]
  split <;> simp_all

@[simp]
theorem ensure_of {condition : Prop} [Decidable condition] (hcondition : condition) (failure : ε)
    (state : σ) : (ensure condition failure : EStateM ε σ PUnit) state = .ok ⟨⟩ state :=
  ensure_eq_ok_iff.mpr ⟨hcondition, rfl⟩

theorem ensure_eq_error_iff {condition : Prop} [Decidable condition] {failure raised : ε} :
    (ensure condition failure : EStateM ε σ PUnit) state = .error raised final ↔
      ¬ condition ∧ failure = raised ∧ state = final := by
  rw [ensure_apply]
  split <;> simp_all

@[simp]
theorem orFail_eq_ok_iff {value : Option α} {result : α} :
    (orFail value failure : EStateM ε σ α) state = .ok result final ↔
      value = some result ∧ state = final := by
  cases value <;> simp [orFail]

@[simp]
theorem orFail_eq_error_iff {value : Option α} {failure raised : ε} :
    (orFail value failure : EStateM ε σ α) state = .error raised final ↔
      value = none ∧ failure = raised ∧ state = final := by
  cases value <;> simp [orFail]

@[simp]
theorem liftExcept_eq_ok_iff {δ : Type u} {outcome : Except δ α} {failure : δ → ε} {result : α} :
    (liftExcept outcome failure : EStateM ε σ α) state = .ok result final ↔
      outcome = .ok result ∧ state = final := by
  cases outcome <;> simp [liftExcept]

@[simp]
theorem liftExcept_eq_error_iff {δ : Type u} {outcome : Except δ α} {failure : δ → ε} {raised : ε} :
    (liftExcept outcome failure : EStateM ε σ α) state = .error raised final ↔
      ∃ error, outcome = .error error ∧ failure error = raised ∧ state = final := by
  cases outcome <;> simp [liftExcept]

theorem runIf_eq_ok_iff {condition : Prop} [Decidable condition] {action : EStateM ε σ PUnit}
    {value : PUnit} :
    runIf condition action state = .ok value final ↔
      if condition then action state = .ok value final else state = final := by
  unfold runIf
  split
  · rfl
  · simp

/-! ## Where a sequence ends -/

/-- A sequence ends where its first part fails or where its second part ends. -/
theorem finalState_bind
    (hfail : ∀ failure middle, first state = .error failure middle → property middle)
    (hnext : ∀ value middle, first state = .ok value middle →
      property (finalState (next value middle))) :
    property (finalState ((first >>= next) state)) := by
  rw [bind_apply]
  cases hrun : first state with
  | error failure middle => exact hfail failure middle hrun
  | ok value middle => exact hnext value middle hrun

/-- A first part whose run is known. -/
theorem finalState_bind_ok (hfirst : first state = .ok value middle)
    (hnext : property (finalState (next value middle))) :
    property (finalState ((first >>= next) state)) := by
  rw [bind_of_ok hfirst]
  exact hnext

/-- The computation looks at the state and may fail, but leaves it alone. -/
class Guards (program : EStateM ε σ α) : Prop where
  finalState_eq : ∀ state, finalState (program state) = state

section Guards

theorem Guards.state_eq (hprogram : Guards program) (hrun : program state = .ok value final) :
    final = state := by
  rw [← hprogram.1 state, hrun, finalState_ok]

@[instance]
theorem Guards.pure (value : α) : Guards (pure value : EStateM ε σ α) := ⟨fun _ => rfl⟩

@[instance]
theorem Guards.get : Guards (get : EStateM ε σ σ) := ⟨fun _ => rfl⟩

@[instance]
theorem Guards.ensure (condition : Prop) [Decidable condition] (failure : ε) :
    Guards (ensure condition failure : EStateM ε σ PUnit) where
  finalState_eq state := by
    rw [ensure_apply]
    split <;> rfl

@[instance]
theorem Guards.orFail (value : Option α) (failure : ε) :
    Guards (orFail value failure : EStateM ε σ α) where
  finalState_eq state := by cases value <;> rfl

@[instance]
theorem Guards.liftExcept {δ : Type u} (outcome : Except δ α) (failure : δ → ε) :
    Guards (liftExcept outcome failure : EStateM ε σ α) where
  finalState_eq state := by cases outcome <;> rfl

theorem Guards.bind (hfirst : Guards first) (hnext : ∀ value, Guards (next value)) :
    Guards (first >>= next) := by
  constructor
  intro state
  have hstate := hfirst.1 state
  rw [bind_apply]
  cases hrun : first state with
  | error failure middle => rwa [hrun] at hstate
  | ok value middle =>
    rw [hrun, finalState_ok] at hstate
    rw [hstate]
    exact (hnext value).1 state

theorem Guards.runIf {condition : Prop} [Decidable condition] {action : EStateM ε σ PUnit}
    (haction : Guards action) : Guards (runIf condition action) := by
  constructor
  intro state
  unfold StatefulProgram.runIf
  split
  · exact haction.1 state
  · rfl

theorem Guards.mapM {ι : Type u} {body : ι → EStateM ε σ α} (hbody : ∀ item, Guards (body item))
    (items : List ι) : Guards (items.mapM body) := by
  induction items with
  | nil => exact Guards.pure _
  | cons item items ih =>
    rw [List.mapM_cons]
    exact Guards.bind (hbody item) fun _ => Guards.bind ih fun _ => Guards.pure _

/-- Every result of a traversal is the result of some item. -/
theorem exists_of_mem_mapM {ι : Type u} {body : ι → EStateM ε σ α} {items : List ι}
    {values : List α} (hrun : items.mapM body state = .ok values final) (hvalue : value ∈ values) :
    ∃ item ∈ items, ∃ before after, body item before = .ok value after := by
  induction items generalizing values state final with
  | nil =>
    cases hrun
    cases hvalue
  | cons item items ih =>
    simp only [List.mapM_cons, bind_eq_ok_iff, pure_apply, EStateM.Result.ok.injEq] at hrun
    obtain ⟨head, middle, hhead, tail, last, htail, rfl, -⟩ := hrun
    obtain rfl | hrest := List.mem_cons.mp hvalue
    · exact ⟨item, List.mem_cons_self, state, middle, hhead⟩
    · obtain ⟨other, hother, hresult⟩ := ih htail hrest
      exact ⟨other, List.mem_cons_of_mem _ hother, hresult⟩

/-- A sequence that starts with a guard ends where it started or where its second
part ends. -/
theorem finalState_bind_guard (hfirst : Guards first) (hstart : property state)
    (hnext : ∀ value, first state = .ok value state → property (finalState (next value state))) :
    property (finalState ((first >>= next) state)) := by
  refine finalState_bind (fun failure middle hrun => ?_) fun value middle hrun => ?_
  · have hstate := hfirst.1 state
    rw [hrun, finalState_error] at hstate
    rw [hstate]
    exact hstart
  · have hstate := hfirst.state_eq hrun
    subst hstate
    exact hnext value hrun

/-- The rule for a guard that is known as an instance. -/
theorem finalState_after [hfirst : Guards first] (hstart : property state)
    (hnext : ∀ value, first state = .ok value state → property (finalState (next value state))) :
    property (finalState ((first >>= next) state)) :=
  finalState_bind_guard hfirst hstart hnext

/-- What follows a guard runs where the guard did. -/
theorem ok_after {result : β} [hfirst : Guards first]
    (hrun : (first >>= next) state = .ok result final) :
    ∃ value, first state = .ok value state ∧ next value state = .ok result final := by
  obtain ⟨value, middle, hvalue, hrest⟩ := bind_eq_ok_iff.mp hrun
  obtain rfl := hfirst.state_eq hvalue
  exact ⟨value, hvalue, hrest⟩

end Guards

/-! ## What a computation may do to the state -/

/-- Every run of the computation, returning or failing, relates the state it
starts in to the state it ends in. -/
def Moves (relation : σ → σ → Prop) (program : EStateM ε σ α) : Prop :=
  ∀ state, relation state (finalState (program state))

section Rules

variable {relation : σ → σ → Prop}

/-- Where a run that returned has led. -/
theorem Moves.of_ok (hprogram : Moves relation program) (hrun : program state = .ok value final) :
    relation state final := by
  simpa [hrun] using hprogram state

/-- Where a run that failed has led. -/
theorem Moves.of_error (hprogram : Moves relation program)
    (hrun : program state = .error failure final) :
    relation state final := by
  simpa [hrun] using hprogram state

theorem Moves.mono {weaker : σ → σ → Prop} (hprogram : Moves relation program)
    (hweaker : ∀ before after, relation before after → weaker before after) :
    Moves weaker program :=
  fun state => hweaker _ _ (hprogram state)

theorem Moves.modify {change : σ → σ} (hchange : ∀ state, relation state (change state)) :
    Moves relation (modify change : EStateM ε σ PUnit) :=
  hchange

theorem Moves.ite {condition : Prop} [Decidable condition] {first second : EStateM ε σ α}
    (hfirst : Moves relation first) (hsecond : Moves relation second) :
    Moves relation (if condition then first else second) := by
  split
  · exact hfirst
  · exact hsecond

variable [IsPreorder σ relation]

@[simp]
theorem Moves.pure (value : α) : Moves relation (pure value : EStateM ε σ α) :=
  fun state => refl_of relation state

@[simp]
theorem Moves.throw (failure : ε) : Moves relation (throw failure : EStateM ε σ α) :=
  fun state => refl_of relation state

@[simp]
theorem Moves.get : Moves relation (get : EStateM ε σ σ) :=
  fun state => refl_of relation state

@[simp]
theorem Moves.ensure (condition : Prop) [Decidable condition] (failure : ε) :
    Moves relation (ensure condition failure : EStateM ε σ PUnit) :=
  Moves.ite (Moves.pure _) (Moves.throw _)

@[simp]
theorem Moves.orFail (value : Option α) (failure : ε) :
    Moves relation (orFail value failure : EStateM ε σ α) := by
  cases value with
  | none => exact Moves.throw _
  | some value => exact Moves.pure _

@[simp]
theorem Moves.liftExcept {δ : Type u} (outcome : Except δ α) (failure : δ → ε) :
    Moves relation (liftExcept outcome failure : EStateM ε σ α) := by
  cases outcome with
  | error error => exact Moves.throw _
  | ok value => exact Moves.pure _

/-- A guard moves nowhere. -/
theorem Guards.moves (hprogram : Guards program) :
    Moves relation program := by
  intro state
  rw [hprogram.1 state]
  exact refl_of relation state

theorem Moves.runIf {condition : Prop} [Decidable condition] {action : EStateM ε σ PUnit}
    (haction : Moves relation action) :
    Moves relation (runIf condition action) :=
  Moves.ite haction (Moves.pure _)

/-- The rule for one run of a sequence, with what its first part established:
the value it returned and the state it reached. -/
theorem bind_related
    (hfirst : relation state (finalState (first state)))
    (hnext : ∀ value middle, first state = .ok value middle →
      relation middle (finalState (next value middle))) :
    relation state (finalState ((first >>= next) state)) := by
  rw [bind_apply]
  cases hrun : first state with
  | error failure middle => simpa [hrun] using hfirst
  | ok value middle =>
    rw [hrun, finalState_ok] at hfirst
    exact trans_of relation hfirst (hnext value middle hrun)

theorem Moves.bind (hfirst : Moves relation first) (hnext : ∀ value, Moves relation (next value)) :
    Moves relation (first >>= next) :=
  fun state => bind_related (hfirst state) fun value middle _ => hnext value middle

/-- The rule for a guard that is known as an instance. -/
theorem Moves.after [hfirst : Guards first] (hnext : ∀ value, Moves relation (next value)) :
    Moves relation (first >>= next) :=
  Moves.bind hfirst.moves hnext

/-- One part of a longer program: it moves on from a state that was reached from the
start, and stops or hands over in a state that is reached from the start. -/
theorem finalState_bind_moves {start state : σ}
    (hreached : relation start state) (hfirst : Moves relation first)
    (hstop : ∀ middle, relation start middle → property middle)
    (hnext : ∀ value middle, relation start middle →
      property (finalState (next value middle))) :
    property (finalState ((first >>= next) state)) := by
  refine finalState_bind (fun failure middle hrun => ?_) fun value middle hrun => ?_
  · exact hstop middle (trans_of relation hreached (hfirst.of_error hrun))
  · exact hnext value middle (trans_of relation hreached (hfirst.of_ok hrun))

end Rules

/-- A loop keeps what each round keeps. -/
theorem finalState_forM {ι : Type v} {items : List ι} {body : ι → EStateM ε σ PUnit}
    (hstate : property state)
    (hbody : ∀ item ∈ items, ∀ state, property state → property (finalState (body item state))) :
    property (finalState (forM items body state)) := by
  induction items generalizing state with
  | nil => exact hstate
  | cons item items ih =>
    rw [List.forM_cons]
    have hround := hbody item (by simp) state hstate
    refine finalState_bind (fun failure middle hrun => ?_) fun _ middle hrun => ?_
    · rwa [hrun] at hround
    · rw [hrun] at hround
      exact ih hround fun later hlater => hbody later (by simp [hlater])

/-! ## Postconditions -/

/-- One run of a program, with what holds if it returns and if it fails. -/
structure Leads (program : EStateM ε σ α) (state : σ) (returns : α → σ → Prop)
    (fails : σ → Prop) : Prop where
  of_ok : ∀ {value : α} {final : σ}, program state = .ok value final → returns value final
  of_error : ∀ {failure : ε} {final : σ}, program state = .error failure final → fails final

section Leads

variable {returns : α → σ → Prop} {fails : σ → Prop}

theorem Leads.pure (hreturns : returns value state) :
    Leads (pure value : EStateM ε σ α) state returns fails where
  of_ok hrun := by
    cases hrun
    exact hreturns
  of_error hrun := by cases hrun

theorem Leads.throw (hfails : fails state) :
    Leads (throw failure : EStateM ε σ α) state returns fails where
  of_ok hrun := by cases hrun
  of_error hrun := by
    cases hrun
    exact hfails

theorem Leads.bind {returns' : β → σ → Prop} (hfirst : Leads first state returns fails)
    (hnext : ∀ value middle, returns value middle → Leads (next value) middle returns' fails) :
    Leads (first >>= next) state returns' fails where
  of_ok hrun := by
    obtain ⟨value, middle, hfirstRun, hnextRun⟩ := bind_eq_ok_iff.mp hrun
    exact (hnext value middle (hfirst.of_ok hfirstRun)).of_ok hnextRun
  of_error hrun := by
    obtain hfirstRun | ⟨value, middle, hfirstRun, hnextRun⟩ := bind_eq_error_iff.mp hrun
    · exact hfirst.of_error hfirstRun
    · exact (hnext value middle (hfirst.of_ok hfirstRun)).of_error hnextRun

/-- A first part whose run is known. -/
theorem Leads.bind_ok {middle : σ} {returns : β → σ → Prop}
    (hfirst : first state = .ok value middle) (hnext : Leads (next value) middle returns fails) :
    Leads (first >>= next) state returns fails where
  of_ok hrun := by
    rw [bind_of_ok hfirst] at hrun
    exact hnext.of_ok hrun
  of_error hrun := by
    rw [bind_of_ok hfirst] at hrun
    exact hnext.of_error hrun

theorem Leads.mono {returns' : α → σ → Prop} {fails' : σ → Prop}
    (hleads : Leads program state returns fails)
    (hreturns : ∀ value final, returns value final → returns' value final)
    (hfails : ∀ final, fails final → fails' final) : Leads program state returns' fails' where
  of_ok hrun := hreturns _ _ (hleads.of_ok hrun)
  of_error hrun := hfails _ (hleads.of_error hrun)

theorem Leads.of_guards (hprogram : Guards program)
    (hreturns : ∀ value, program state = .ok value state → returns value state)
    (hfails : fails state) : Leads program state returns fails where
  of_ok hrun := by
    obtain rfl := hprogram.state_eq hrun
    exact hreturns _ hrun
  of_error hrun := by
    have hstate := hprogram.1 state
    rw [hrun, finalState_error] at hstate
    rw [hstate]
    exact hfails

/-- A program of which only the moves are known. -/
theorem Leads.of_moves {relation : σ → σ → Prop} (hprogram : Moves relation program)
    (hreturns : ∀ value final, relation state final → returns value final)
    (hfails : ∀ final, relation state final → fails final) :
    Leads program state returns fails where
  of_ok hrun := hreturns _ _ (hprogram.of_ok hrun)
  of_error hrun := hfails _ (hprogram.of_error hrun)

/-- A first part that changes nothing. -/
theorem Leads.bind_guards {returns : β → σ → Prop} (hfirst : Guards first) (hfails : fails state)
    (hnext : ∀ value, first state = .ok value state → Leads (next value) state returns fails) :
    Leads (first >>= next) state returns fails := by
  have hleads : Leads first state (fun value final => state = final ∧ first state = .ok value state)
      fails := Leads.of_guards hfirst (fun _ hrun => ⟨rfl, hrun⟩) hfails
  apply hleads.bind
  rintro value _ ⟨rfl, hrun⟩
  exact hnext value hrun

theorem Leads.orFail {value : Option α} (hfails : fails state) :
    Leads (orFail value failure) state (fun result final => state = final ∧ value = some result)
      fails :=
  Leads.of_guards (Guards.orFail _ _) (fun _ hrun => ⟨rfl, (orFail_eq_ok_iff.mp hrun).1⟩) hfails

theorem Leads.finalState (hleads : Leads program state (fun _ => property) property) :
    property (finalState (program state)) := by
  cases hrun : program state with
  | error failure final => exact hleads.of_error hrun
  | ok value final => exact hleads.of_ok hrun

end Leads

/-- The answer is made from what was computed before. -/
theorem finalState_bind_pure (first : EStateM ε σ α) (answer : α → β) (state : σ) :
    finalState ((first >>= fun value => pure (answer value)) state) =
      finalState (first state) := by
  rw [bind_apply]
  cases first state <;> rfl

/-- Leaving a part of the state as it was is a preorder. -/
instance samePart_isPreorder {π : Type v} (part : σ → π) :
    IsPreorder σ (fun before after => part after = part before) where
  refl _ := rfl
  trans _ _ _ hfirst hsecond := hsecond.trans hfirst

end StatefulProgram
