import Clusterflux.Verification.RetentionProvenance
import Clusterflux.Verification.InterchangeRuns

/-!
# One transfer for one errand

A node that asks again for an artifact gets the transfer that is already under
way.  The request ends lapsed transfers at one reading of the clock and looks for a
transfer to renew at a later one.  If a lease lapses between the two readings, its
transfer is neither ended nor renewed, and a second one is created.  In runs in
which that does not happen there is at most one unfinished transfer for an errand.
-/

namespace Clusterflux

open LabelledRuns OrderedMaps StatefulProgram

/-! ## Registries without rivals -/

/-- Every transfer stands under its id, and two unfinished ones with the same
errand are one. -/
structure InterchangeRegistry.Single (registry : InterchangeRegistry) : Prop where
  filed : ∀ (transferId : String) transfer, registry.transfers[transferId]? = some transfer →
    transfer.record.transferId = transferId
  single : ∀ (first second : String) transfer rival,
    registry.transfers[first]? = some transfer → registry.transfers[second]? = some rival →
      transfer.record.state.terminal = false → rival.record.state.terminal = false →
        transfer.record.errand = rival.record.errand → first = second

theorem InterchangeTransfer.Evolves.errand {before after : InterchangeTransfer}
    (hevolves : before.Evolves after) : after.record.errand = before.record.errand :=
  congrArg (fun frame => frame.2.1) hevolves.frame

theorem InterchangeTransfer.Evolves.transferId {before after : InterchangeTransfer}
    (hevolves : before.Evolves after) : after.record.transferId = before.record.transferId :=
  congrArg (fun frame => frame.1) hevolves.frame

theorem InterchangeTransfer.Evolves.unfinished {before after : InterchangeTransfer}
    (hevolves : before.Evolves after) (hactive : after.record.state.terminal = false) :
    before.record.state.terminal = false := by
  cases hstate : before.record.state.terminal with
  | false => rfl
  | true => rw [hevolves.ended hstate] at hactive; cases hactive

namespace InterchangeRegistry.Single

variable {registry after : InterchangeRegistry}

theorem empty : ({} : InterchangeRegistry).Single :=
  ⟨fun _ _ hlookup => by simp at hlookup, fun _ _ _ _ hlookup => by simp at hlookup⟩

/-- Carried transfers have no new rivals. -/
theorem of_carries (hsingle : registry.Single) (hcarries : registry.Carries after) :
    after.Single where
  filed transferId transfer hlookup := by
    obtain ⟨earlier, hearlier, hevolves⟩ := hcarries transferId transfer hlookup
    rw [hevolves.transferId]
    exact hsingle.filed transferId earlier hearlier
  single first second transfer rival hfirst hsecond hactive hrival herrand := by
    obtain ⟨earlier, hearlier, hevolves⟩ := hcarries first transfer hfirst
    obtain ⟨earlier', hearlier', hevolves'⟩ := hcarries second rival hsecond
    apply hsingle.single first second earlier earlier' hearlier hearlier'
    · exact hevolves.unfinished hactive
    · exact hevolves'.unfinished hrival
    · rw [← hevolves.errand, ← hevolves'.errand]
      exact herrand

/-- A transfer may be added if no unfinished one has its errand. -/
theorem insert (hsingle : registry.Single) {transfer : InterchangeTransfer}
    (halone : ∀ (transferId : String) rival, registry.transfers[transferId]? = some rival →
      rival.record.state.terminal = false → rival.record.errand ≠ transfer.record.errand) :
    (registry.store transfer.record.transferId transfer).Single where
  filed transferId found hlookup := by
    rcases getElem?_insert_eq_some_iff.mp hlookup with ⟨hid, rfl⟩ | ⟨-, hother⟩
    · exact hid
    · exact hsingle.filed transferId found hother
  single first second found rival hfirst hsecond hactive hrival herrand := by
    rcases getElem?_insert_eq_some_iff.mp hfirst with ⟨rfl, rfl⟩ | ⟨-, hother⟩
    · rcases getElem?_insert_eq_some_iff.mp hsecond with ⟨hid, -⟩ | ⟨-, hother'⟩
      · exact hid
      · exact absurd herrand.symm (halone second rival hother' hrival)
    · rcases getElem?_insert_eq_some_iff.mp hsecond with ⟨rfl, rfl⟩ | ⟨-, hother'⟩
      · exact absurd herrand (halone first found hother hactive)
      · exact hsingle.single first second found rival hother hother' hactive hrival herrand

end InterchangeRegistry.Single

/-! ## Requests in time -/

/-- The transfer is for what the fields of the request spell. -/
def ArtifactTransferRecord.Answers (record : ArtifactTransferRecord)
    (fields : NodeRequest.RequestArtifactInterchange) : Prop :=
  fields.toNodeFields.Names ⟨record.tenant, record.project, record.destinationNode⟩ ∧
    record.process.value = fields.process ∧ record.artifact.value = fields.artifact

/-- No unfinished transfer for the request has a lease that lapses between the
reading at which lapsed transfers are ended and the reading at which one is looked
for. -/
def InterchangeCall.InTime (call : InterchangeCall) (machine : Machine) : Prop :=
  match call with
  | .request fields => ∀ first now, machine.environment.clock 0 = some first →
      machine.environment.clock 2 = some now → ∀ (transferId : String) transfer,
        machine.service.interchangeRegistry.transfers[transferId]? = some transfer →
          transfer.record.state.terminal = false → transfer.record.Answers fields →
            first ≤ transfer.record.expiresAt → now ≤ transfer.record.expiresAt
  | _ => True

theorem TransferRequest.Spelled.answers_of_errand {request : TransferRequest}
    {fields : NodeRequest.RequestArtifactInterchange} (hspelled : request.Spelled fields)
    {record : ArtifactTransferRecord}
    (herrand : record.errand = (request.destination.tenant, request.destination.project,
      request.process, request.artifact, request.destination.node)) : record.Answers fields := by
  simp only [ArtifactTransferRecord.errand, Prod.mk.injEq] at herrand
  obtain ⟨htenant, hproject, hprocess, hartifact, hnode⟩ := herrand
  rw [ArtifactTransferRecord.Answers, htenant, hproject, hnode, hprocess, hartifact]
  exact ⟨hspelled.destination, hspelled.process, hspelled.artifact⟩

/-- Ids are their texts, so the fields of a request spell one request. -/
theorem TransferRequest.Spelled.errand_of_answers {request : TransferRequest}
    {fields : NodeRequest.RequestArtifactInterchange} (hspelled : request.Spelled fields)
    {record : ArtifactTransferRecord} (hanswers : record.Answers fields) :
    record.errand = (request.destination.tenant, request.destination.project, request.process,
      request.artifact, request.destination.node) := by
  obtain ⟨⟨htenant, hproject, hnode⟩, hprocess, hartifact⟩ := hanswers
  obtain ⟨⟨htenant', hproject', hnode'⟩, hprocess', hartifact'⟩ := hspelled
  simp only [ArtifactTransferRecord.errand, Prod.mk.injEq]
  exact ⟨Id.value_injective (htenant.trans htenant'.symm),
    Id.value_injective (hproject.trans hproject'.symm),
    Id.value_injective (hprocess.trans hprocess'.symm),
    Id.value_injective (hartifact.trans hartifact'.symm),
    Id.value_injective (hnode.trans hnode'.symm)⟩

section InTime

variable {machine : Machine} {fields : NodeRequest.RequestArtifactInterchange} {first now : ℕ}
  {request : TransferRequest} {transferId : String} {transfer : InterchangeTransfer}

/-- In a request in time, a transfer for it that outlives the expiry can be
renewed. -/
theorem serves_of_inTime (htime : (InterchangeCall.request fields).InTime machine)
    (hfirst : machine.environment.clock 0 = some first)
    (hnow : machine.environment.clock 2 = some now) (hspelled : request.Spelled fields)
    (hlookup :
      (machine.service.expireInterchange first).interchangeRegistry.transfers[transferId]? =
      some transfer)
    (hactive : transfer.record.state.terminal = false)
    (hanswers : transfer.record.Answers fields) :
    transfer.serves request.destination request.process request.artifact now = true := by
  obtain ⟨hstored, hlive⟩ := InterchangeRegistry.lookup_expire_of_unfinished hlookup hactive
  have hfresh : first ≤ transfer.record.expiresAt := by
    simp only [InterchangeRegistry.expired, hactive, Bool.not_false, Bool.true_and,
      Bool.or_eq_false_iff, decide_eq_false_iff_not, not_lt] at hlive
    exact hlive.1.1
  have herrand := hspelled.errand_of_answers hanswers
  simp only [ArtifactTransferRecord.errand, Prod.mk.injEq] at herrand
  obtain ⟨htenant, hproject, hprocess, hartifact, hnode⟩ := herrand
  have hdeadline := htime first now hfirst hnow transferId transfer hstored hactive hanswers hfresh
  simp [InterchangeTransfer.serves, hactive, htenant, hproject, hprocess, hartifact, hnode,
    hdeadline]

theorem errand_of_serves
    (hserves : transfer.serves request.destination request.process request.artifact now = true) :
    transfer.record.state.terminal = false ∧
      transfer.record.errand = (request.destination.tenant, request.destination.project,
        request.process, request.artifact, request.destination.node) := by
  simp only [InterchangeTransfer.serves, decide_eq_true_eq] at hserves
  obtain ⟨-, hactive, htenant, hproject, hprocess, hartifact, hnode⟩ := hserves
  refine ⟨hactive, ?_⟩
  simp only [ArtifactTransferRecord.errand, htenant, hproject, hprocess, hartifact, hnode]

theorem find_eq_none_iff {registry : InterchangeRegistry} {condition : InterchangeTransfer → Bool} :
    registry.find condition = none ↔ ∀ (transferId : String) transfer,
      registry.transfers[transferId]? = some transfer → condition transfer = false := by
  rw [InterchangeRegistry.find, List.find?_eq_none]
  constructor
  · intro hnone transferId transfer hlookup
    have hfalse := hnone (transferId, transfer)
      (Std.ExtTreeMap.mem_toList_iff_getElem?_eq_some.mpr hlookup)
    exact Bool.not_eq_true _ ▸ hfalse
  · rintro hfalse ⟨transferId, transfer⟩ hmem
    have hlookup := Std.ExtTreeMap.mem_toList_iff_getElem?_eq_some.mp hmem
    simp [hfalse transferId transfer hlookup]

/-- A transfer that a request in time creates is alone with its errand. -/
theorem alone_of_creationRequested {terms : TransferTerms}
    (hcreation : CreationRequested machine fields first request terms)
    (htime : (InterchangeCall.request fields).InTime machine)
    (hlookup :
      (machine.service.expireInterchange first).interchangeRegistry.transfers[transferId]? =
      some transfer)
    (hactive : transfer.record.state.terminal = false) :
    transfer.record.errand ≠ terms.record.errand := by
  intro herrand
  have hagreed := hcreation.agreed
  have hrequest : transfer.record.errand = (request.destination.tenant,
      request.destination.project, request.process, request.artifact,
      request.destination.node) := by
    rw [herrand, ← hagreed.destination, ← hagreed.process, ← hagreed.artifact]
    rfl
  have hserves := serves_of_inTime htime hcreation.expiry hcreation.now hcreation.spelled hlookup
    hactive (hcreation.spelled.answers_of_errand hrequest)
  rw [find_eq_none_iff.mp hagreed.unserved transferId transfer hlookup] at hserves
  cases hserves

end InTime

/-! ## Steps and runs -/

theorem InterchangeRegistry.Single.create {registry : InterchangeRegistry} {terms : TransferTerms}
    (hsingle : registry.Single)
    (halone : ∀ (transferId : String) rival, registry.transfers[transferId]? = some rival →
      rival.record.state.terminal = false → rival.record.errand ≠ terms.record.errand) :
    (registry.create terms.transferId terms.transfer maxInterchangeTransfers).2.Single := by
  have hpruned := hsingle.of_carries
    (Follows.pruneTerminalToFit registry maxInterchangeTransfers).carries
  unfold InterchangeRegistry.create
  dsimp only
  split
  · exact hpruned
  · have hadded : ((registry.pruneTerminalToFit maxInterchangeTransfers).store
        terms.transfer.record.transferId terms.transfer).Single := by
      apply hpruned.insert
      intro transferId rival hlookup
      exact halone transferId rival (lookup_of_pruneTerminalToFit hlookup)
    exact hadded

/-- A call in time brings no rivals. -/
theorem single_perform {call : InterchangeCall} {machine : Machine}
    (hsingle : machine.service.interchangeRegistry.Single) (htime : call.InTime machine) :
    (call.perform machine).interchangeRegistry.Single := by
  by_cases hconfiguration : call.KeepsConfiguration
  · have heffect := (call.effect_perform hconfiguration machine).transfers
    generalize (call.perform machine).interchangeRegistry = after at heffect
    cases heffect with
    | evolved hentered hevolves =>
      exact hsingle.of_carries (hentered.carries.trans hevolves.carries)
    | reported hentered scope now =>
      exact hsingle.of_carries (hentered.carries.trans (.reportProgress _ _ _ _ _ _ _))
    | created hcreation =>
      apply InterchangeRegistry.Single.create
      · exact hsingle.of_carries (Entered.carries (.inr ⟨_, hcreation.expiry, rfl⟩))
      · intro transferId rival hlookup hactive
        exact alone_of_creationRequested hcreation htime hlookup hactive
  · cases call with
    | configure configuration =>
      rw [interchangeRegistry_configure]
      exact hsingle
    | _ => exact absurd trivial hconfiguration

/-- The requests among the steps are in time. -/
def CoordinatorStep.InTime (step : CoordinatorStep) (service : CoordinatorService) : Prop :=
  match step with
  | .interchange call environment => call.InTime ⟨service, environment⟩
  | .elsewhere _ => True

/-- The runs of the coordinator in which every request is in time. -/
def RunInTime (start : CoordinatorService) (steps : List CoordinatorStep)
    (final : CoordinatorService) : Prop :=
  Run (fun step before after => after = CoordinatorStep.next before step)
    CoordinatorStep.InTime start steps final

theorem RunInTime.single {service : CoordinatorService} {call : InterchangeCall}
    {environment : Environment} (htime : call.InTime ⟨service, environment⟩) :
    RunInTime service [.interchange call environment] (call.perform ⟨service, environment⟩) :=
  Run.snoc Run.nil htime rfl

/-- No two unfinished transfers of the service have the same errand. -/
def CoordinatorService.SingleTransfers (service : CoordinatorService) : Prop :=
  service.interchangeRegistry.Single

theorem singleTransfers_of_runInTime {start final : CoordinatorService}
    {steps : List CoordinatorStep} (hrun : RunInTime start steps final)
    (hstart : start.SingleTransfers) : final.SingleTransfers := by
  apply Run.invariant hrun hstart
  rintro step before _ hsingle htime rfl
  cases step with
  | interchange call environment => exact single_perform hsingle htime
  | elsewhere other => exact hsingle

/-! ## Repeated requests -/

/-- The node that asks does not have the artifact. -/
def CoordinatorService.Lacks (service : CoordinatorService)
    (fields : NodeRequest.RequestArtifactInterchange) : Prop :=
  ∀ (request : TransferRequest) metadata, request.Spelled fields →
    service.artifactRegistry.metadata request.key = some metadata →
      request.destination.node ∉ metadata.retainingNodes

/-- A request in time that is answered while a transfer for it is under way is
answered with that transfer, and no other is stored. -/
theorem answer_of_inTime {service : CoordinatorService} {environment : Environment}
    {final : Machine}
    {fields : NodeRequest.RequestArtifactInterchange} {response : CoordinatorResponse} {first : ℕ}
    {transferId : String} {transfer : InterchangeTransfer}
    (hsingle : service.interchangeRegistry.Single)
    (htime : (InterchangeCall.request fields).InTime ⟨service, environment⟩)
    (hlacks : service.Lacks fields)
    (hrun : handleRequestArtifactInterchange fields ⟨service, environment⟩ = .ok response final)
    (hfirst : environment.clock 0 = some first)
    (hlookup : (service.expireInterchange first).interchangeRegistry.transfers[transferId]? =
      some transfer)
    (hactive : transfer.record.state.terminal = false)
    (hanswers : transfer.record.Answers fields) :
    (∃ authorization record, response =
        .artifactTransferAuthorization (some authorization) (some record) ∧
      record.transferId = transferId) ∧
      ∀ other : String, other ∈ final.service.interchangeRegistry.transfers ↔
        other ∈ (service.expireInterchange first).interchangeRegistry.transfers := by
  have hexpired : Entered ⟨service, environment⟩ (service.expireInterchange first) :=
    .inr ⟨first, hfirst, rfl⟩
  have hentered := hsingle.of_carries hexpired.carries
  have hanswer := (handleRequestArtifactInterchange_leads fields ⟨service, environment⟩).of_ok hrun
  generalize final.service = after at hanswer
  cases hanswer with
  | present hfirst' hspelled hmetadata hretained =>
    rw [ArtifactRegistry.metadata, CoordinatorService.artifactRegistry_expireInterchange]
      at hmetadata
    exact absurd hretained (hlacks _ _ hspelled hmetadata)
  | renewed hfirst' hnow hspelled hfound =>
    rename_i first' now request id found
    obtain rfl : first' = first := Option.some.inj (hfirst'.symm.trans hfirst)
    obtain ⟨hstored, hserves⟩ := InterchangeRegistry.lookup_of_find hfound
    obtain ⟨hfound', herrand⟩ := errand_of_serves hserves
    have hsame : id = transferId := hentered.single id transferId found transfer hstored hlookup
      hfound' hactive (herrand.trans (hspelled.errand_of_answers hanswers).symm)
    subst hsame
    refine ⟨⟨_, _, rfl, ?_⟩, fun other => ?_⟩
    · rw [(InterchangeTransfer.evolves_renewed _ _ _).transferId]
      exact hentered.filed id found hstored
    · rw [InterchangeRegistry.store, Std.ExtTreeMap.mem_insert, Std.LawfulEqCmp.compare_eq_iff_eq]
      refine ⟨?_, .inr⟩
      rintro (rfl | hother)
      · exact Std.ExtTreeMap.mem_iff_isSome_getElem?.mpr (by rw [hstored]; rfl)
      · exact hother
  | created hcreation =>
    rename_i first' request terms
    obtain rfl : first' = first := Option.some.inj (hcreation.expiry.symm.trans hfirst)
    have hserves := serves_of_inTime htime hfirst hcreation.now hcreation.spelled hlookup hactive
      hanswers
    rw [find_eq_none_iff.mp hcreation.agreed.unserved transferId transfer hlookup] at hserves
    cases hserves

/-- In every run whose requests are in time, an errand has at most one unfinished
transfer; and a further request in time, by a node without the artifact, that is
answered while such a transfer is under way is answered with its id and stores no
other. -/
theorem unfinished_transfers_single {start final : CoordinatorService}
    {steps : List CoordinatorStep} (hstart : start.SingleTransfers)
    (hrun : RunInTime start steps final) :
    (∀ (first second : String) transfer rival,
      final.interchangeRegistry.transfers[first]? = some transfer →
        final.interchangeRegistry.transfers[second]? = some rival →
          transfer.record.state.terminal = false → rival.record.state.terminal = false →
            transfer.record.errand = rival.record.errand → first = second) ∧
      ∀ (environment : Environment) (fields : NodeRequest.RequestArtifactInterchange)
        (response : CoordinatorResponse) (last : Machine) (first : ℕ) (transferId : String)
        (transfer : InterchangeTransfer),
        (InterchangeCall.request fields).InTime ⟨final, environment⟩ → final.Lacks fields →
        handleRequestArtifactInterchange fields ⟨final, environment⟩ = .ok response last →
        environment.clock 0 = some first →
        (final.expireInterchange first).interchangeRegistry.transfers[transferId]? = some transfer →
        transfer.record.state.terminal = false → transfer.record.Answers fields →
        (∃ authorization record, response =
            .artifactTransferAuthorization (some authorization) (some record) ∧
          record.transferId = transferId) ∧
          ∀ other : String, other ∈ last.service.interchangeRegistry.transfers ↔
            other ∈ (final.expireInterchange first).interchangeRegistry.transfers := by
  have hfinal : final.interchangeRegistry.Single := singleTransfers_of_runInTime hrun hstart
  refine ⟨hfinal.single, ?_⟩
  intro environment fields response last first transferId transfer htime hlacks hanswered hfirst
    hlookup hactive hanswers
  exact answer_of_inTime hfinal htime hlacks hanswered hfirst hlookup hactive hanswers

namespace TransferSample

def requestFields : NodeRequest.RequestArtifactInterchange where
  toNodeFields := nodeFields destination
  process := "process"
  artifact := "artifact"
  offset := 0

/-! ### A request repeated in time -/

theorem single_service : service.SingleTransfers := InterchangeRegistry.Single.empty

/-- The service after the first request. -/
def requested : CoordinatorService :=
  (InterchangeCall.request requestFields).perform ⟨service, requestEnvironment⟩

/-- There is no transfer yet that could lapse. -/
theorem runInTime_requested :
    RunInTime service [.interchange (.request requestFields) requestEnvironment] requested := by
  apply RunInTime.single
  intro first now _ _ transferId transfer hlookup
  have hempty : service.interchangeRegistry.transfers = ∅ := rfl
  rw [hempty] at hlookup
  simp at hlookup

/-- At a standing clock nothing lapses. -/
theorem repeated_inTime :
    (InterchangeCall.request requestFields).InTime ⟨requested, laterEnvironment⟩ := by
  intro first now hfirst hnow _ transfer _ _ _ hdeadline
  have hsame : first = now := Option.some.inj (hfirst.symm.trans hnow)
  exact hsame ▸ hdeadline

/-- Only the source has the artifact. -/
theorem requested_lacks : requested.Lacks requestFields := by
  intro request metadata hspelled hmetadata
  have hsource : ∀ stored ∈ requested.artifactRegistry.artifacts.values,
      stored.retainingNodes = {source} := by decide +kernel
  rw [hsource metadata ((mem_values_iff _ _).mpr ⟨_, hmetadata⟩), Finset.mem_singleton]
  intro hnode
  have hvalue := hspelled.destination.2.2
  rw [hnode] at hvalue
  revert hvalue
  decide

/-! ### A lease that lapses within a request -/

/-- Transfers may go without progress for as long as their leases last. -/
def patientConfiguration : CoordinatorArtifactInterchangeConfiguration :=
  { noProgressTimeoutSeconds := 600 }

def patientService : CoordinatorService :=
  { service with artifactInterchangeConfiguration := patientConfiguration }

def renewedAdvertisement (node : NodeId) : IrohEndpointAdvertisement :=
  { advertisement node with expiresAt := 660 }

/-- Both nodes were seen again and advertised their endpoints again. -/
def refreshed : CoordinatorService :=
  { patientService with
    nodeRegistry :=
      { lastSeenEpochSeconds := ((∅ : OrderedMap NodeScopeKey ℕ).insert (scope source) 600).insert
          (scope destination) 600
        irohEndpointAdvertisements :=
          ((∅ : OrderedMap NodeScopeKey IrohEndpointAdvertisement).insert (scope source)
            (renewedAdvertisement source)).insert (scope destination)
              (renewedAdvertisement destination) } }

def lapsingClock (index : ℕ) : ℕ := if index < 2 then 605 else 606

/-- The clock advances after its second reading. -/
def lapsingEnvironment : Environment :=
  { environment 606 (by decide) ["CCCCCCCCCCCCCCCCCCCCCCCCCCCCCCCCCCCCCCCCCCC",
      "DDDDDDDDDDDDDDDDDDDDDDDDDDDDDDDDDDDDDDDDDDD"] (by decide) with
    clock := fun index => some (lapsingClock index)
    clock_bounded := by
      rintro index _ ⟨⟩
      unfold lapsingClock
      split <;> decide }

/-- The same request at the time 5 and again when the lease of 600 seconds lapses. -/
def lapsingRun : List CoordinatorStep :=
  [.interchange (.request requestFields) requestEnvironment, .elsewhere refreshed,
    .interchange (.request requestFields) lapsingEnvironment]

/-- The transfers for the sample errand after the steps, with their states. -/
def rivalsAfter (start : CoordinatorService) (steps : List CoordinatorStep) :
    List (String × ArtifactTransferState) :=
  ((steps.foldl CoordinatorStep.next start).interchangeRegistry.transfers.toList.filter
    fun (_, transfer) => transfer.record.errand = (terms {}).record.errand).map
      fun (transferId, transfer) => (transferId, transfer.record.state)

theorem spelled_requestFields : TransferRequest.Spelled
    ⟨scope destination, (terms {}).process, (terms {}).artifact, 0⟩ requestFields :=
  ⟨⟨rfl, rfl, rfl⟩, rfl, rfl⟩

end TransferSample

open TransferSample in
/-- A lease that lapses between the first and the third reading of the clock in a
request: its transfer stays, and the request creates a second one. -/
theorem lapsing_lease_leads_to_rival : patientConfiguration.validate = .ok () ∧
      Monotone lapsingClock ∧
      rivalsAfter patientService lapsingRun = [(transferId, .sourceSelected),
          ("artifact_interchange_CCCCCCCCCCCCCCCCCCCCCCCCCCCCCCCCCCCCCCCCCCC",
            .sourceSelected)] := by
  refine ⟨by decide +kernel, ?_, by decide +kernel⟩
  intro first second hle
  unfold lapsingClock
  split <;> split <;> omega

open TransferSample in
/-- A request repeated in time is answered with the transfer under way. -/
theorem repeated_request_answered_with_same_transfer :
    ∃ authorization record, returned (handleRequestArtifactInterchange
        requestFields ⟨requested, laterEnvironment⟩) =
      some (.artifactTransferAuthorization (some authorization) (some record)) ∧
        record.transferId = transferId := by
  have hstored : ((requested.expireInterchange
      6).interchangeRegistry.transfers[transferId]?.map fun transfer =>
        (transfer.record.state, transfer.record.errand)) =
      some (.sourceSelected, (terms {}).record.errand) := by decide +kernel
  obtain ⟨transfer, hlookup, hrecord⟩ := Option.map_eq_some_iff.mp hstored
  obtain ⟨hstate, herrand⟩ := Prod.mk.inj hrecord
  have hreturned : (returned (handleRequestArtifactInterchange requestFields
      ⟨requested, laterEnvironment⟩)).isSome = true := by
    decide +kernel
  cases hrun : handleRequestArtifactInterchange requestFields ⟨requested, laterEnvironment⟩ with
  | error failure last =>
    rw [hrun] at hreturned
    cases hreturned
  | ok response last =>
    obtain ⟨⟨authorization, record, rfl, hid⟩, -⟩ :=
      (unfinished_transfers_single single_service runInTime_requested).2 laterEnvironment
        requestFields response last 6 transferId transfer
        repeated_inTime requested_lacks hrun rfl hlookup
        (by rw [hstate]; rfl) (spelled_requestFields.answers_of_errand herrand)
    exact ⟨authorization, record, rfl, hid⟩

end Clusterflux
