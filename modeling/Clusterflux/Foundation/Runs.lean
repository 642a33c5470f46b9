import Mathlib.Order.RelClasses

/-!
# Runs of a system under conditions on its steps

A system takes labelled steps.  A run is allowed if every step was allowed in the
state it was taken in; a property that every allowed step keeps holds wherever an
allowed run leads.
-/

namespace LabelledRuns

universe u v

variable {σ : Type u} {ι : Type v} {step : ι → σ → σ → Prop} {allowed : ι → σ → Prop}
  {start final : σ} {labels : List ι}

/-- The allowed runs between two states, with the labels of their steps. -/
inductive Run (step : ι → σ → σ → Prop) (allowed : ι → σ → Prop) (start : σ) :
    List ι → σ → Prop
  | nil : Run step allowed start [] start
  | snoc {labels : List ι} {label : ι} {middle final : σ} :
      Run step allowed start labels middle → allowed label middle →
        step label middle final → Run step allowed start (labels ++ [label]) final

/-- A property that every allowed step keeps is kept by every allowed run. -/
theorem Run.invariant {property : σ → Prop} (hrun : Run step allowed start labels final)
    (hstart : property start)
    (hkept : ∀ label before after, property before → allowed label before →
      step label before after → property after) : property final := by
  induction hrun with
  | nil => exact hstart
  | snoc _ hallowed hstep ih => exact hkept _ _ _ ih hallowed hstep

/-- A preorder that contains every allowed step of a run contains the run. -/
theorem Run.related {relation : σ → σ → Prop} [IsPreorder σ relation]
    (hrun : Run step allowed start labels final)
    (hcontains : ∀ label ∈ labels, ∀ before after, allowed label before →
      step label before after → relation before after) : relation start final := by
  induction hrun with
  | nil => exact refl_of relation start
  | snoc _ hallowed hstep ih =>
    refine trans_of relation (ih ?_) (hcontains _ (by simp) _ _ hallowed hstep)
    intro label hlabel
    exact hcontains label (by simp [hlabel])

/-! ## Steps that are functions -/

section Functions

variable {next : ι → σ → σ}

/-- The steps of a list are allowed, one after the other. -/
def Follows (next : ι → σ → σ) (allowed : ι → σ → Prop) : σ → List ι → Prop
  | _, [] => True
  | state, label :: labels => allowed label state ∧ Follows next allowed (next label state) labels

instance decidableFollows [∀ label state, Decidable (allowed label state)] :
    (state : σ) → (labels : List ι) → Decidable (Follows next allowed state labels)
  | _, [] => inferInstanceAs (Decidable True)
  | state, label :: labels =>
    have := decidableFollows (next label state) labels
    inferInstanceAs (Decidable (_ ∧ _))

/-- Where the steps of a list lead. -/
def replay (next : ι → σ → σ) (start : σ) (labels : List ι) : σ :=
  labels.foldl (fun state label => next label state) start

/-- A preorder that contains every step contains where a list of steps leads. -/
theorem related_replay {relation : σ → σ → Prop} [IsPreorder σ relation]
    (hnext : ∀ label state, relation state (next label state)) (start : σ) (labels : List ι) :
    relation start (replay next start labels) := by
  induction labels generalizing start with
  | nil => exact refl_of relation start
  | cons label labels ih => exact trans_of relation (hnext label start) (ih _)

theorem Run.cons {label : ι} {middle : σ} (hallowed : allowed label start)
    (hstep : step label start middle) (hrun : Run step allowed middle labels final) :
    Run step allowed start (label :: labels) final := by
  induction hrun with
  | nil => exact .snoc .nil hallowed hstep
  | snoc _ hlater hlast ih => exact .snoc ih hlater hlast

theorem Run.of_follows (hfollows : Follows next allowed start labels) :
    Run (fun label before after => next label before = after) allowed start labels
      (replay next start labels) := by
  induction labels generalizing start with
  | nil => exact .nil
  | cons label labels ih => exact .cons hfollows.1 rfl (ih hfollows.2)

end Functions

end LabelledRuns
