import Clusterflux.Coordinator.Assignments
import Clusterflux.Foundation.OrderedMaps

/-!
# The life of an assignment

An assignment is offered, acknowledged, renewed and retired.  Time only moves
forward and a fence (attempt and offer epoch) is offered once.  Then an
assignment that was retired, or whose lease was seen to have lapsed, can never
be acted under again: nothing puts it back, nothing moves its lease, and its
authority is refused for good.

The argument rests on one inversion of the operations: whatever stands under an
assignment identifier afterwards either stood there before, or has just been
offered, or comes from a record whose lease had not lapsed.
-/

namespace Clusterflux

/-- The operations on the set of active assignments. -/
inductive AssignmentOperation where
  | offer (kind : AssignmentKind) (scope : NodeScopeKey) (attemptId : String)
      (offerEpoch offerSeconds : ℕ) (ownerIdentity : String)
  | acknowledge (scope : NodeScopeKey) (authority : AssignmentAuthority)
      (assignmentSeconds : ℕ)
  | authorize (scope : NodeScopeKey) (authority : AssignmentAuthority)
      (assignmentSeconds : ℕ)
  | terminalize (authority : AssignmentAuthority) (replayAllowed : Bool)
  /-- Retire every assignment whose lease has lapsed. -/
  | sweep

/-- The operation offers the fence of an authority. -/
def AssignmentOperation.Offers (operation : AssignmentOperation)
    (authority : AssignmentAuthority) : Prop :=
  match operation with
  | .offer _ _ attemptId offerEpoch _ _ =>
    attemptId = authority.attemptId ∧ offerEpoch = authority.offerEpoch
  | _ => False

structure TimedAssignmentOperation where
  now : ℕ
  operation : AssignmentOperation

namespace DurableState

/-- Retire the assignments of a list. -/
def terminalizeAll (durable : DurableState) (now : ℕ) (expired : List ActiveAssignmentRecord) :
    DurableState :=
  expired.foldl
    (fun durable active => durable.terminalizeActiveAssignment active.authority now false)
    durable

/-- Every active record stands under its own identifier, and carries an
acknowledgement time exactly in the states that follow an acknowledgement. -/
def AssignmentsConsistent (durable : DurableState) : Prop :=
  ∀ (id : String) active, durable.activeAssignments[id]? = some active → active.assignmentId = id ∧
      (active.acknowledgedAt.isSome ↔ active.state = .acknowledged ∨ active.state = .running)

/-- No active record has the identifier and the fence of the authority. -/
def Retired (durable : DurableState) (authority : AssignmentAuthority) : Prop :=
  ∀ active, durable.activeAssignments[authority.assignmentId]? = some active →
    ¬ (active.attemptId = authority.attemptId ∧ active.offerEpoch = authority.offerEpoch)

/-- The assignment is in the active set and its lease has not lapsed. -/
def HoldsLease (durable : DurableState) (scope : NodeScopeKey) (authority : AssignmentAuthority)
    (now : ℕ) : Prop :=
  ∃ active, durable.activeAssignments[authority.assignmentId]? = some active ∧
    active.Matches scope authority ∧ now ≤ active.leaseExpiresAt

variable {durable : DurableState} {now : ℕ} {id : String} {active : ActiveAssignmentRecord}

variable {scope : NodeScopeKey} {authority : AssignmentAuthority}

/-! ## Retiring and refusing -/

section

variable (hconsistent : durable.AssignmentsConsistent)
include hconsistent

/-- Retiring only removes: a record that does not have the fence goes back to
where it was. -/
theorem active_of_terminalize {authority : AssignmentAuthority} {replayAllowed : Bool}
    (hafter : (durable.terminalizeActiveAssignment authority now
      replayAllowed).activeAssignments[id]? = some active) :
    durable.activeAssignments[id]? = some active := by
  unfold terminalizeActiveAssignment at hafter
  cases hrecord : durable.activeAssignments[authority.assignmentId]? with
  | none =>
    rw [hrecord] at hafter
    exact hafter
  | some record =>
    rw [hrecord] at hafter
    have hid : record.assignmentId = authority.assignmentId :=
      (hconsistent _ _ hrecord).1
    by_cases hfence : record.attemptId = authority.attemptId ∧
        record.offerEpoch = authority.offerEpoch
    · simp only [if_pos hfence, Std.ExtTreeMap.getElem?_erase] at hafter
      split at hafter
      · cases hafter
      · exact hafter
    · simp only [if_neg hfence, Std.ExtTreeMap.getElem?_insert,
        Std.ExtTreeMap.getElem?_erase, hid] at hafter
      split at hafter
      · rename_i hcompare
        cases Std.LawfulEqCmp.compare_eq_iff_eq.mp hcompare
        rw [hrecord, hafter]
      · exact hafter

theorem terminalize_consistent (authority : AssignmentAuthority) (replayAllowed : Bool) :
    (durable.terminalizeActiveAssignment authority now replayAllowed).AssignmentsConsistent :=
  fun id active hafter => hconsistent id active (active_of_terminalize hconsistent hafter)

theorem active_of_terminalizeAll {expired : List ActiveAssignmentRecord}
    (hafter : (durable.terminalizeAll now expired).activeAssignments[id]? = some active) :
    durable.activeAssignments[id]? = some active := by
  induction expired generalizing durable with
  | nil => exact hafter
  | cons record expired ih =>
    exact active_of_terminalize hconsistent
      (ih (terminalize_consistent hconsistent record.authority false) hafter)

theorem retired_after_terminalize
    (authority : AssignmentAuthority) (now : ℕ) (replayAllowed : Bool) :
    (durable.terminalizeActiveAssignment authority now replayAllowed).Retired authority := by
  intro active hafter hfence
  have hbefore := active_of_terminalize hconsistent hafter
  unfold terminalizeActiveAssignment at hafter
  simp [hbefore, hfence] at hafter

end

theorem authorizeActiveAssignment_fst (durable : DurableState) (scope : NodeScopeKey)
    (authority : AssignmentAuthority) (now assignmentSeconds : ℕ) :
    (durable.authorizeActiveAssignment scope authority now assignmentSeconds).1 =
      durable.activeAssignmentIsAuthorized scope authority now := by
  unfold authorizeActiveAssignment activeAssignmentIsAuthorized
  cases durable.activeAssignments[authority.assignmentId]? with
  | none => rfl
  | some active => by_cases h : active.IsAuthorized scope authority now <;> simp [h]

/-- An authority that does not hold its lease is refused, and an acknowledgement
under it is at most answered from the history. -/
theorem refused_of_not_holdsLease (hlapsed : ¬ durable.HoldsLease scope authority now)
    (assignmentSeconds : ℕ) :
    durable.authorizeActiveAssignment scope authority now assignmentSeconds = (false, durable) ∧
      durable.acknowledgeActiveAssignment scope authority now assignmentSeconds =
        (durable.activeAssignments[authority.assignmentId]?.isNone &&
          durable.terminalAssignmentMatches scope authority, durable) := by
  unfold authorizeActiveAssignment acknowledgeActiveAssignment
  cases hactive : durable.activeAssignments[authority.assignmentId]? with
  | none => simp
  | some active =>
    have hauthorized : ¬ active.IsAuthorized scope authority now :=
      fun hallowed => hlapsed ⟨active, hactive, hallowed.1, hallowed.2.2.1⟩
    have hacknowledged : ¬ active.CanBeAcknowledged scope authority now :=
      fun hallowed => hlapsed ⟨active, hactive, hallowed.1, hallowed.2.1⟩
    simp [hauthorized, hacknowledged]

/-- The sweep finds an acknowledged assignment exactly when its own authority is
no longer accepted. -/
theorem mem_expired_iff_refused (hconsistent : durable.AssignmentsConsistent)
    (hactive : durable.activeAssignments[id]? = some active)
    (hacknowledged : active.acknowledgedAt.isSome) (now assignmentSeconds : ℕ) :
    active ∈ durable.expiredActiveAssignments now ↔
      (durable.authorizeActiveAssignment active.scope active.authority now
        assignmentSeconds).1 = false := by
  obtain ⟨rfl, hstate⟩ := hconsistent id active hactive
  have hmem : active ∈ durable.activeAssignments.values :=
    (OrderedMaps.mem_values_iff _ _).mpr ⟨_, hactive⟩
  have hauthorized : active.IsAuthorized active.scope active.authority now ↔
      now ≤ active.leaseExpiresAt := by
    simp [ActiveAssignmentRecord.IsAuthorized, ActiveAssignmentRecord.Matches,
      ActiveAssignmentRecord.scope, ActiveAssignmentRecord.authority, hacknowledged,
      hstate.mp hacknowledged]
  have hlookup : durable.activeAssignments[active.authority.assignmentId]? = some active :=
    hactive
  simp only [expiredActiveAssignments, List.mem_filter, hmem, true_and, decide_eq_true_eq,
    authorizeActiveAssignment, hlookup, hauthorized]
  split <;> simp <;> omega

/-! ## What one operation leaves under an identifier -/

variable [Primitives]

def perform (durable : DurableState) (now : ℕ) : AssignmentOperation → DurableState
  | .offer kind scope attemptId offerEpoch offerSeconds ownerIdentity =>
    durable.offerActiveAssignment
      (offeredAssignment kind scope attemptId offerEpoch now offerSeconds ownerIdentity)
  | .acknowledge scope authority assignmentSeconds =>
    (durable.acknowledgeActiveAssignment scope authority now assignmentSeconds).2
  | .authorize scope authority assignmentSeconds =>
    (durable.authorizeActiveAssignment scope authority now assignmentSeconds).2
  | .terminalize authority replayAllowed =>
    durable.terminalizeActiveAssignment authority now replayAllowed
  | .sweep => durable.terminalizeAll now (durable.expiredActiveAssignments now)

def performAll (durable : DurableState) (operations : List TimedAssignmentOperation) :
    DurableState :=
  operations.foldl (fun durable timed => durable.perform timed.now timed.operation) durable

/-- The ways a record can come to stand under an identifier. -/
inductive EntryStep (durable : DurableState) (now : ℕ) :
    AssignmentOperation → String → ActiveAssignmentRecord → Prop
  | kept {operation : AssignmentOperation} {id : String} {active : ActiveAssignmentRecord}
      (hactive : durable.activeAssignments[id]? = some active) :
      EntryStep durable now operation id active
  | offered (kind : AssignmentKind) (scope : NodeScopeKey) (attemptId : String)
      (offerEpoch offerSeconds : ℕ) (ownerIdentity : String) :
      EntryStep durable now (.offer kind scope attemptId offerEpoch offerSeconds ownerIdentity)
        (offeredAssignmentId ownerIdentity attemptId offerEpoch)
        (offeredAssignment kind scope attemptId offerEpoch now offerSeconds ownerIdentity)
  | acknowledged {scope : NodeScopeKey} {authority : AssignmentAuthority}
      {assignmentSeconds : ℕ} {active : ActiveAssignmentRecord}
      (hactive : durable.activeAssignments[authority.assignmentId]? = some active)
      (hallowed : active.CanBeAcknowledged scope authority now) :
      EntryStep durable now (.acknowledge scope authority assignmentSeconds)
        authority.assignmentId (active.acknowledged now assignmentSeconds)
  | renewed {scope : NodeScopeKey} {authority : AssignmentAuthority}
      {assignmentSeconds : ℕ} {active : ActiveAssignmentRecord}
      (hactive : durable.activeAssignments[authority.assignmentId]? = some active)
      (hallowed : active.IsAuthorized scope authority now) :
      EntryStep durable now (.authorize scope authority assignmentSeconds)
        authority.assignmentId (active.renewed now assignmentSeconds)

theorem entryStep_offer {kind : AssignmentKind} {scope : NodeScopeKey} {attemptId : String}
    {offerEpoch offerSeconds : ℕ} {ownerIdentity : String}
    (hafter : (durable.perform now (.offer kind scope attemptId offerEpoch offerSeconds
      ownerIdentity)).activeAssignments[id]? = some active) :
    EntryStep durable now
      (.offer kind scope attemptId offerEpoch offerSeconds ownerIdentity) id active := by
  rcases OrderedMaps.getElem?_insert_eq_some_iff.mp hafter with ⟨rfl, rfl⟩ | ⟨-, hkept⟩
  · exact .offered kind scope attemptId offerEpoch offerSeconds ownerIdentity
  · exact .kept hkept

/-- A record that an operation looks up and changes if it is allowed to. -/
theorem entryStep_of_change {operation : AssignmentOperation} {target : String} {known : Bool}
    {allowed : ActiveAssignmentRecord → Prop} [DecidablePred allowed]
    {change : ActiveAssignmentRecord → ActiveAssignmentRecord}
    (hstep : ∀ {record}, durable.activeAssignments[target]? = some record → allowed record →
      EntryStep durable now operation target (change record))
    (hafter : (match durable.activeAssignments[target]? with
      | none => (known, durable)
      | some record =>
        if allowed record then (true, { durable with
          activeAssignments := durable.activeAssignments.insert target (change record) })
        else (false, durable)).2.activeAssignments[id]? = some active) :
    EntryStep durable now operation id active := by
  cases hactive : durable.activeAssignments[target]? with
  | none =>
    rw [hactive] at hafter
    exact .kept hafter
  | some record =>
    rw [hactive] at hafter
    by_cases hallowed : allowed record
    · simp only [if_pos hallowed] at hafter
      rcases OrderedMaps.getElem?_insert_eq_some_iff.mp hafter with ⟨rfl, rfl⟩ | ⟨-, hkept⟩
      · exact hstep hactive hallowed
      · exact .kept hkept
    · simp only [if_neg hallowed] at hafter
      exact .kept hafter

theorem entryStep_of_perform (hconsistent : durable.AssignmentsConsistent)
    {operation : AssignmentOperation}
    (hafter : (durable.perform now operation).activeAssignments[id]? = some active) :
    EntryStep durable now operation id active := by
  cases operation with
  | offer => exact entryStep_offer hafter
  | acknowledge => exact entryStep_of_change .acknowledged hafter
  | authorize => exact entryStep_of_change .renewed hafter
  | terminalize => exact .kept (active_of_terminalize hconsistent hafter)
  | sweep => exact .kept (active_of_terminalizeAll hconsistent hafter)

/-! ## Invariants of one operation and of a run -/

section

variable (hconsistent : durable.AssignmentsConsistent)
include hconsistent

theorem perform_consistent (now : ℕ) (operation : AssignmentOperation) :
    (durable.perform now operation).AssignmentsConsistent := by
  intro id active hafter
  cases entryStep_of_perform hconsistent hafter with
  | kept hactive => exact hconsistent id active hactive
  | offered => simp [offeredAssignment]
  | acknowledged hactive hallowed =>
    refine ⟨(hconsistent _ _ hactive).1, ?_⟩
    simp [ActiveAssignmentRecord.acknowledged]
  | renewed hactive hallowed =>
    refine ⟨(hconsistent _ _ hactive).1, ?_⟩
    simp [ActiveAssignmentRecord.renewed, hallowed.2.1]

theorem performAll_consistent (operations : List TimedAssignmentOperation) :
    (durable.performAll operations).AssignmentsConsistent := by
  induction operations generalizing durable with
  | nil => exact hconsistent
  | cons timed operations ih => exact ih (perform_consistent hconsistent timed.now timed.operation)

/-- While an assignment does not hold its lease, one operation that does not
offer its fence leaves its record as it is or removes it. -/
theorem matching_active_of_perform
    (hlapsed : ¬ durable.HoldsLease scope authority now) {time : ℕ} (htime : now ≤ time)
    {operation : AssignmentOperation} (hoffer : ¬ operation.Offers authority)
    (hafter : (durable.perform time operation).activeAssignments[authority.assignmentId]? =
      some active)
    (hmatches : active.Matches scope authority) :
    durable.activeAssignments[authority.assignmentId]? = some active := by
  generalize hid : authority.assignmentId = id at hafter
  cases entryStep_of_perform hconsistent hafter with
  | kept hactive => exact hactive
  | offered =>
    obtain ⟨-, -, -, hattempt, hepoch⟩ := hmatches
    exact absurd ⟨hattempt, hepoch⟩ hoffer
  | @acknowledged _ _ _ record hactive hallowed =>
    -- an acknowledgement needs an unlapsed lease, which this record did not have
    refine absurd ⟨record, hid ▸ hactive, hmatches, ?_⟩ hlapsed
    exact htime.trans hallowed.2.1
  | @renewed _ _ _ record hactive hallowed =>
    refine absurd ⟨record, hid ▸ hactive, hmatches, ?_⟩ hlapsed
    exact htime.trans hallowed.2.2.1

/-- Over a whole run the record of such an assignment stays or goes. -/
theorem matching_active_of_performAll (hlapsed : ¬ durable.HoldsLease scope authority now)
    {operations : List TimedAssignmentOperation}
    (hclock : ∀ timed ∈ operations, now ≤ timed.now)
    (hoffers : ∀ timed ∈ operations, ¬ timed.operation.Offers authority)
    (hafter : (durable.performAll operations).activeAssignments[authority.assignmentId]? =
      some active)
    (hmatches : active.Matches scope authority) :
    durable.activeAssignments[authority.assignmentId]? = some active := by
  induction operations generalizing durable with
  | nil => exact hafter
  | cons timed operations ih =>
    simp only [List.forall_mem_cons] at hclock hoffers
    have hstep : ∀ {record : ActiveAssignmentRecord},
        (durable.perform timed.now timed.operation).activeAssignments[authority.assignmentId]? =
          some record → record.Matches scope authority →
        durable.activeAssignments[authority.assignmentId]? = some record :=
      matching_active_of_perform hconsistent hlapsed hclock.1 hoffers.1
    apply hstep _ hmatches
    refine ih (perform_consistent hconsistent timed.now timed.operation) ?_ hclock.2
      hoffers.2 hafter
    rintro ⟨record, hrecord, hrecordMatches, hlease⟩
    exact hlapsed ⟨record, hstep hrecord hrecordMatches, hrecordMatches, hlease⟩

end

/-! ## The life of an assignment over whole runs -/

/-- After any operations, take an authority and a later run in which the clock
does not go back and the authority's fence is not offered again.

* Retiring the assignment takes it out of the active set, and an assignment that
  is out of the active set does not come back.
* If the assignment was not in the active set with an unlapsed lease, then its
  record is at most still the one that had lapsed, with the lease it had, its
  authority is refused from then on, and an acknowledgement changes nothing and
  is answered from the history or refused.
* Whatever happened, an acknowledged assignment is in the expiry sweep exactly
  when its own authority is refused. -/
theorem retired_assignment_stays_refused (initial : DurableState)
    (hinitial : initial.AssignmentsConsistent)
    (before after : List TimedAssignmentOperation) (now time : ℕ)
    (scope : NodeScopeKey) (authority : AssignmentAuthority)
    (hclock : (now :: after.map (·.now) ++ [time]).Pairwise (· ≤ ·))
    (hattempts : ∀ timed ∈ after, ¬ timed.operation.Offers authority) :
    let earlier := initial.performAll before
    let later := earlier.performAll after
    (∀ replayAllowed,
      (earlier.terminalizeActiveAssignment authority now replayAllowed).Retired authority) ∧
    (earlier.Retired authority → later.Retired authority) ∧
    (¬ earlier.HoldsLease scope authority now →
      (∀ active, later.activeAssignments[authority.assignmentId]? = some active →
        active.Matches scope authority →
          earlier.activeAssignments[authority.assignmentId]? = some active) ∧
      later.activeAssignmentIsAuthorized scope authority time = false ∧
      ∀ assignmentSeconds, later.authorizeActiveAssignment scope authority time assignmentSeconds =
            (false, later) ∧
          later.acknowledgeActiveAssignment scope authority time assignmentSeconds =
            (later.activeAssignments[authority.assignmentId]?.isNone &&
              later.terminalAssignmentMatches scope authority, later)) ∧
    ∀ (id : String) active, later.activeAssignments[id]? = some active →
      active.acknowledgedAt.isSome →
      ∀ moment assignmentSeconds, active ∈ later.expiredActiveAssignments moment ↔
        (later.authorizeActiveAssignment active.scope active.authority moment
          assignmentSeconds).1 = false := by
  intro earlier later
  have hearlier : earlier.AssignmentsConsistent := performAll_consistent hinitial before
  have hlater : later.AssignmentsConsistent := performAll_consistent hearlier after
  rw [List.cons_append, List.pairwise_cons] at hclock
  have hclock' : ∀ timed ∈ after, now ≤ timed.now := fun timed htimed =>
    hclock.1 _ (List.mem_append_left _ (List.mem_map_of_mem htimed))
  have htime : now ≤ time := hclock.1 _ (List.mem_append_right _ (List.mem_singleton_self time))
  have hkept : ∀ scope, ¬ earlier.HoldsLease scope authority now →
      ∀ active, later.activeAssignments[authority.assignmentId]? = some active →
        active.Matches scope authority →
          earlier.activeAssignments[authority.assignmentId]? = some active :=
    fun scope hlapsed active hafter hmatches =>
      matching_active_of_performAll hearlier hlapsed hclock' hattempts hafter hmatches
  refine ⟨fun replayAllowed => retired_after_terminalize hearlier authority now replayAllowed,
    ?_, ?_, ?_⟩
  · intro hretired active hafter hfence
    have hlapsed : ¬ earlier.HoldsLease active.scope authority now := by
      rintro ⟨record, hrecord, hmatches, -⟩
      exact hretired record hrecord ⟨hmatches.2.2.2.1, hmatches.2.2.2.2⟩
    exact hretired active
      (hkept active.scope hlapsed active hafter ⟨rfl, rfl, rfl, hfence.1, hfence.2⟩) hfence
  · intro hlapsed
    have hlapsedLater : ¬ later.HoldsLease scope authority time := by
      rintro ⟨active, hafter, hmatches, hlease⟩
      exact hlapsed ⟨active, hkept scope hlapsed active hafter hmatches, hmatches,
        htime.trans hlease⟩
    refine ⟨hkept scope hlapsed, ?_, refused_of_not_holdsLease hlapsedLater⟩
    rw [← authorizeActiveAssignment_fst later scope authority time 0,
      (refused_of_not_holdsLease hlapsedLater 0).1]
  · intro id active hactive hacknowledged moment assignmentSeconds
    exact mem_expired_iff_refused hlater hactive hacknowledged moment assignmentSeconds

end DurableState

/-- An offer made at time 0 for 30 seconds cannot be acknowledged at 40 into a
lease that would be accepted at 50. -/
theorem lapsed_offer_stays_refused :
    letI := Primitives.sample
    let scope : NodeScopeKey := ⟨⟨"tenant", by decide⟩, ⟨"project", by decide⟩, ⟨"node", by decide⟩⟩
    let authority : AssignmentAuthority :=
      ⟨DurableState.offeredAssignmentId "owner" "attempt" 1, "attempt", 1⟩
    let kind : AssignmentKind := .processTask ⟨"process", by decide⟩ ⟨"task", by decide⟩
    let earlier := ({} : DurableState).performAll [⟨0, .offer kind scope "attempt" 1 30 "owner"⟩]
    let later := earlier.performAll [⟨40, .acknowledge scope authority 180⟩]
    ¬ earlier.HoldsLease scope authority 31 ∧
      later.authorizeActiveAssignment scope authority 50 180 = (false, later) := by
  let := Primitives.sample
  intro scope authority kind earlier later
  have hlapsed : ¬ earlier.HoldsLease scope authority 31 := by
    rintro ⟨active, hactive, -, hlease⟩
    have hlookup : earlier.activeAssignments[authority.assignmentId]? =
        some (DurableState.offeredAssignment kind scope "attempt" 1 0 30 "owner") := by
      simp [earlier, authority, DurableState.performAll, DurableState.perform,
        DurableState.offerActiveAssignment, DurableState.offeredAssignment]
    rw [hlookup] at hactive
    cases hactive
    revert hlease
    decide
  exact ⟨hlapsed, ((DurableState.retired_assignment_stays_refused {}
      (by simp [DurableState.AssignmentsConsistent])
    [⟨0, .offer kind scope "attempt" 1 30 "owner"⟩] [⟨40, .acknowledge scope authority 180⟩]
    31 50 scope authority (by decide)
    (by simp [AssignmentOperation.Offers])).2.2.1 hlapsed).2.2 180 |>.1⟩

end Clusterflux
