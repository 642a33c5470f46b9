import Clusterflux.Verification.AutomationEvents

/-!
# The index of triggers and runs

A delivery leads to a trigger, a trigger to the key of a run, and a key to the run;
a run leads back to the trigger that started it.  Acceptance, retry and compaction
each write several of the four maps.  That keys and runs stay in step holds
outright; that deliveries and primary triggers do needs a hash without collisions
and triggers that are told apart by their ids.
-/

namespace Clusterflux

open StatefulProgram LabelledRuns OrderedMaps LengthFraming

/-! ## Keys and runs -/

section Keys

variable [Primitives]

/-- The id of a run is made of the digest that is its key. -/
theorem runIdText_fromParts (parts : List Bytes) :
    runIdText (Digest.fromParts parts) = "run-" ++ Primitives.sha256Hex
      ((parts.map fun part => lengthBytes part.length ++ part).flatten) := by
  unfold runIdText Digest.fromParts
  congr 1
  rw [String.toList_append]
  exact String.ofList_toList

theorem runIdText_inj {left right : List Bytes}
    (htext : runIdText (Digest.fromParts left) = runIdText (Digest.fromParts right)) :
    Digest.fromParts left = Digest.fromParts right := by
  rw [runIdText_fromParts, runIdText_fromParts, String.append_right_inj] at htext
  unfold Digest.fromParts
  rw [htext]

/-- Keys and runs stand in a one-to-one correspondence, and the id of a run is made of
its key. -/
structure DurableState.Indexed (durable : DurableState) : Prop where
  named : ∀ (runKey : Digest) (runId : RunId), durable.automatedRunKeys[runKey]? = some runId →
    (∃ parts, runKey = Digest.fromParts parts) ∧ runId.value = runIdText runKey
  stored : ∀ (runKey : Digest) (runId : RunId), durable.automatedRunKeys[runKey]? = some runId →
    ∃ record : AutomatedRunStageRecord, durable.automatedRuns[runId]? = some record ∧
      record.runKey = runKey
  indexed : ∀ (runId : RunId) (record : AutomatedRunStageRecord),
    durable.automatedRuns[runId]? = some record →
    durable.automatedRunKeys[record.runKey]? = some runId

namespace DurableState.Indexed

variable {durable : DurableState} {tenant : TenantId} {project : ProjectId}
  {removed : List (RunId × AutomatedRunStageRecord)}

variable (hindexed : durable.Indexed)
include hindexed

/-- No run is stored under an id whose key is free. -/
theorem lookup_eq_none {parts : List Bytes} {runId : RunId}
    (hfree : durable.automatedRunKeys[Digest.fromParts parts]? = none)
    (hrunId : runId.value = runIdText (Digest.fromParts parts)) :
    durable.automatedRuns[runId]? = none := by
  by_contra hstored
  obtain ⟨record, hrecord⟩ := Option.ne_none_iff_exists'.mp hstored
  have hkey := hindexed.indexed runId record hrecord
  obtain ⟨⟨others, hothers⟩, hnamed⟩ := hindexed.named _ _ hkey
  rw [hothers] at hkey hnamed
  rw [← runIdText_inj (hrunId.symm.trans hnamed), hfree] at hkey
  cases hkey

theorem removeRuns (hremoved : ∀ entry ∈ removed, durable.automatedRuns[entry.1]? = some entry.2) :
    (durable.removeRuns tenant project removed).Indexed where
  named runKey runId hkey := hindexed.named _ _ (runKeys_removeRuns.mp hkey).1
  stored runKey runId hkey := by
    obtain ⟨hkey, hkept⟩ := runKeys_removeRuns.mp hkey
    obtain ⟨record, hrecord, rfl⟩ := hindexed.stored _ _ hkey
    refine ⟨record, runs_removeRuns.mpr ⟨hrecord, fun hgone => hkept ?_⟩, rfl⟩
    obtain ⟨entry, hentry, rfl⟩ := List.mem_map.mp hgone
    rw [hremoved entry hentry] at hrecord
    cases hrecord
    exact List.mem_map.mpr ⟨entry, hentry, rfl⟩
  indexed runId record hrecord := by
    obtain ⟨hrecord, hkept⟩ := runs_removeRuns.mp hrecord
    have hkey := hindexed.indexed _ _ hrecord
    refine runKeys_removeRuns.mpr ⟨hkey, fun hgone => hkept ?_⟩
    obtain ⟨entry, hentry, hsame⟩ := List.mem_map.mp hgone
    have hother := hindexed.indexed _ _ (hremoved entry hentry)
    rw [hsame, hkey] at hother
    exact List.mem_map.mpr ⟨entry, hentry, (Option.some.inj hother).symm⟩

theorem compacts {after : DurableState}
    (hcompacts : durable.Compacts tenant project after) : after.Indexed := by
  obtain rfl | rfl := hcompacts
  · exact hindexed
  · exact hindexed.removeRuns fun entry hentry => (lookup_of_removable hentry).1

/-- A new key and a new run are entered together. -/
theorem insertRun {after : DurableState} {parts : List Bytes}
    {runId : RunId} {record : AutomatedRunStageRecord}
    (hfree : durable.automatedRunKeys[Digest.fromParts parts]? = none)
    (hrunId : runId.value = runIdText (Digest.fromParts parts))
    (hrecord : record.runKey = Digest.fromParts parts)
    (hkeys : after.automatedRunKeys =
      durable.automatedRunKeys.insert (Digest.fromParts parts) runId)
    (hruns : after.automatedRuns = durable.automatedRuns.insert runId record) :
    after.Indexed := by
  have hnone := hindexed.lookup_eq_none hfree hrunId
  constructor
  · intro runKey other hkey
    rw [hkeys, getElem?_insert_eq_some_iff] at hkey
    obtain ⟨rfl, rfl⟩ | ⟨-, hkey⟩ := hkey
    · exact ⟨⟨parts, rfl⟩, hrunId⟩
    · exact hindexed.named runKey other hkey
  · intro runKey other hkey
    rw [hkeys, getElem?_insert_eq_some_iff] at hkey
    obtain ⟨rfl, rfl⟩ | ⟨-, hkey⟩ := hkey
    · exact ⟨record, by simp [hruns], hrecord⟩
    · obtain ⟨stored, hstored, hsame⟩ := hindexed.stored runKey other hkey
      refine ⟨stored, ?_, hsame⟩
      rw [hruns, getElem?_insert_eq_some_iff]
      refine Or.inr ⟨?_, hstored⟩
      rintro rfl
      rw [hnone] at hstored
      cases hstored
  · intro other stored hstored
    rw [hruns, getElem?_insert_eq_some_iff] at hstored
    rw [hkeys, getElem?_insert_eq_some_iff]
    obtain ⟨rfl, rfl⟩ | ⟨-, hstored⟩ := hstored
    · exact Or.inl ⟨hrecord.symm, rfl⟩
    · have hkey := hindexed.indexed other stored hstored
      refine Or.inr ⟨?_, hkey⟩
      intro hsame
      rw [← hsame, hfree] at hkey
      cases hkey

/-- A trigger that joins a run is all that is stored. -/
theorem storeDelivery_known {accepted : AcceptedCommitTriggerRecord}
    {runId : RunId} (hkey : durable.automatedRunKeys[accepted.runKey]? = some runId) :
    durable.storeDelivery accepted accepted.runKey runId (durable.recordFor accepted runId) =
      { durable with
        triggerDeliveries := durable.triggerDeliveries.insert accepted.delivery
          accepted.trigger.triggerId
        acceptedCommitTriggers :=
          durable.acceptedCommitTriggers.insert accepted.trigger.triggerId accepted } := by
  obtain ⟨record, hrecord, -⟩ := hindexed.stored _ _ hkey
  unfold DurableState.storeDelivery DurableState.recordFor
  rw [hrecord, Option.getD_some, insert_eq_self_of_lookup hkey, insert_eq_self_of_lookup hrecord]
  rfl

theorem recordFor_new {accepted : AcceptedCommitTriggerRecord}
    {runId : RunId} (hfree : durable.automatedRunKeys[accepted.runKey]? = none)
    (hrunId : runId.value = runIdText accepted.runKey) :
    durable.recordFor accepted runId = .begun
      (acceptedRun runId accepted.tenant accepted.project accepted.trigger) accepted.runKey := by
  unfold DurableState.recordFor
  rw [hindexed.lookup_eq_none hfree hrunId, Option.getD_none]

theorem accepts {accepted : AcceptedCommitTriggerRecord}
    {after : DurableState} (haccepts : durable.Accepts accepted after) : after.Indexed := by
  cases haccepts with
  | compacted hcompacts => exact hindexed.compacts hcompacts
  | joined _ _ hkey =>
    rw [hindexed.storeDelivery_known hkey]
    exact ⟨hindexed.named, hindexed.stored, hindexed.indexed⟩
  | started _ _ hfree hcompacts _ hrunId =>
    have hmiddle := hindexed.compacts hcompacts
    have hfree := hcompacts.runKeys_eq_none hfree
    rw [hmiddle.recordFor_new hfree hrunId]
    exact hmiddle.insertRun hfree hrunId rfl rfl rfl

theorem retries {runId : RunId} {after : DurableState}
    (hretries : durable.Retries runId after) : after.Indexed := by
  cases hretries with
  | refused => exact hindexed
  | compacted hcompacts => exact hindexed.compacts hcompacts
  | stored _ _ hcompacts _ hfree hrunId _ =>
    exact (hindexed.compacts hcompacts).insertRun hfree hrunId rfl rfl rfl

end DurableState.Indexed

/-- No trigger has been accepted yet. -/
structure Machine.NoAutomation (machine : Machine) : Prop where
  runs : machine.service.durable.automatedRuns = ∅
  runKeys : machine.service.durable.automatedRunKeys = ∅
  triggers : machine.service.durable.acceptedCommitTriggers = ∅
  deliveries : machine.service.durable.triggerDeliveries = ∅

/-! ## Steps that keep the index -/

/-- Runs are known by the same things, and triggers and projects are the same. -/
structure SameIndex (before after : Machine) : Prop where
  runs : ∀ runId : RunId, after.runs[runId]?.map (·.identity) = before.runs[runId]?.map (·.identity)
  triggers : Part.triggers.view after.service = Part.triggers.view before.service
  projects : Part.projects.view after.service = Part.projects.view before.service

omit [Primitives] in
theorem AutomationKeeps.sameIndex {ending : Option ProcessControlKey} {fits : Prop}
    {before after : Machine} (hkeeps : AutomationKeeps ending fits before after) :
    SameIndex before after := by
  refine ⟨fun runId => ?_, hkeeps.triggers, hkeeps.projects⟩
  have hruns := hkeeps.runs runId
  revert hruns
  generalize before.runs[runId]? = first
  generalize after.runs[runId]? = last
  intro hruns
  cases hruns with
  | none => rfl
  | some hrecord => exact congrArg some hrecord.identity

section SameIndex

variable {before after : Machine} {runId : RunId} {record : AutomatedRunStageRecord}

omit [Primitives] in
theorem SameIndex.lookup_before (hsame : SameIndex before after)
    (hrecord : after.runs[runId]? = some record) :
    ∃ earlier, before.runs[runId]? = some earlier ∧ earlier.identity = record.identity := by
  have hruns := hsame.runs runId
  rw [hrecord, Option.map_some, eq_comm, Option.map_eq_some_iff] at hruns
  exact hruns

omit [Primitives] in
theorem SameIndex.lookup_after (hsame : SameIndex before after)
    (hrecord : before.runs[runId]? = some record) :
    ∃ later, after.runs[runId]? = some later ∧ later.identity = record.identity := by
  have hruns := hsame.runs runId
  rw [hrecord, Option.map_some, Option.map_eq_some_iff] at hruns
  exact hruns

end SameIndex

omit [Primitives] in
instance sameIndex_isPreorder : IsPreorder Machine SameIndex where
  refl _ := ⟨fun _ => rfl, rfl, rfl⟩
  trans _ _ _ hfirst hsecond :=
    ⟨fun runId => (hsecond.runs runId).trans (hfirst.runs runId),
      hsecond.triggers.trans hfirst.triggers, hsecond.projects.trans hfirst.projects⟩

omit [Primitives] in
/-- A claim changes no more than the state of a run, whether it has ended or not. -/
theorem claimSourceLoad_sameIndex (triggerId : TriggerId) :
    Moves SameIndex (claimSourceLoad triggerId) := by
  refine Moves.after fun _ => Moves.after fun runId => ?_
  have hmodify : Moves SameIndex (Handler.modifyDurable (·.modifyRun runId fun record =>
      if record.source.isNone then record.withState .loadingSource else record)) := by
    refine fun machine => ⟨fun other => ?_, rfl, rfl⟩
    change ((machine.runs.modify runId _)[other]?).map _ = _
    rw [Std.ExtTreeMap.getElem?_modify]
    split
    case isFalse => rfl
    case isTrue hsame =>
      obtain rfl := Std.LawfulEqCmp.eq_of_compare hsame
      cases machine.runs[runId]? with
      | none => rfl
      | some record =>
        simp only [Option.map_some]
        split <;> rfl
  have hkept : Moves (AutomationKeeps none False) Handler.persistDurableState :=
    persistDurableState_keeps
  refine Moves.bind hmodify fun _ => Moves.bind (hkept.mono fun _ _ => (·.sameIndex)) fun _ => ?_
  exact Moves.pure _

theorem AutomationEvent.Happens.sameIndex [BundleInspection] {event : AutomationEvent}
    {before after : Machine} (hhappens : event.Happens before after) (hwork : event.IsWork) :
    SameIndex before after := by
  by_cases hclaim : ∃ triggerId, event = .claimSource triggerId
  · obtain ⟨triggerId, rfl⟩ := hclaim
    subst hhappens
    exact claimSourceLoad_sameIndex triggerId before
  · have hopen : event.ClaimsOpenRun before := by
      cases event
      case claimSource triggerId => exact absurd ⟨triggerId, rfl⟩ hclaim
      all_goals exact trivial
    exact (hhappens.keeps hwork hopen False.elim).sameIndex

theorem DurableState.Indexed.sameIndex {before after : Machine}
    (hindexed : before.service.durable.Indexed) (hsame : SameIndex before after) :
    after.service.durable.Indexed := by
  have hkeys : after.service.durable.automatedRunKeys = before.service.durable.automatedRunKeys :=
    congrArg (fun triggers => triggers.2.2) hsame.triggers
  constructor
  · rw [hkeys]
    exact hindexed.named
  · intro runKey runId hkey
    rw [hkeys] at hkey
    obtain ⟨record, hrecord, rfl⟩ := hindexed.stored runKey runId hkey
    obtain ⟨later, hlater, hidentity⟩ := hsame.lookup_after hrecord
    exact ⟨later, hlater, congrArg Prod.fst hidentity⟩
  · intro runId record hrecord
    obtain ⟨earlier, hearlier, hidentity⟩ := hsame.lookup_before hrecord
    have hkey : earlier.runKey = record.runKey := congrArg Prod.fst hidentity
    rw [hkeys, ← hkey]
    exact hindexed.indexed runId earlier hearlier

theorem Machine.NoAutomation.indexed {machine : Machine} (hnone : machine.NoAutomation) :
    machine.service.durable.Indexed := by
  constructor
  · simp [hnone.runKeys]
  · simp [hnone.runKeys]
  · simp [hnone.runs]

theorem indexed_of_happens [BundleInspection] {event : AutomationEvent} {before after : Machine}
    (hindexed : before.service.durable.Indexed) (hhappens : event.Happens before after) :
    after.service.durable.Indexed := by
  by_cases hwork : event.IsWork
  · exact hindexed.sameIndex (hhappens.sameIndex hwork)
  · cases event
    case accept accepted =>
      subst hhappens
      exact hindexed.accepts (acceptCommitTrigger_accepts accepted before)
    case retry runId =>
      subst hhappens
      exact hindexed.retries (retryAutomatedRun_retries runId before)
    all_goals exact absurd trivial hwork

/-- Keys and runs correspond, in a machine. -/
def Machine.Indexed (machine : Machine) : Prop := machine.service.durable.Indexed

/-- Whatever happens, keys and runs stay in step. -/
theorem indexed_of_run [BundleInspection] {start final : Machine}
    {events : List AutomationEvent} {allowed : AutomationEvent → Machine → Prop}
    (hstart : start.NoAutomation) (hrun : Run AutomationEvent.Happens allowed start events final) :
    final.Indexed := by
  refine hrun.invariant hstart.indexed ?_
  intro event before after hindexed _ hhappens
  exact indexed_of_happens hindexed hhappens

end Keys

end Clusterflux
