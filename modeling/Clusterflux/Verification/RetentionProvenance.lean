import Clusterflux.Foundation.Runs
import Clusterflux.Verification.ArtifactRetention
import Clusterflux.Verification.TransferCalls

/-!
# Where retaining locations come from

The coordinator counts a node among the holders of an artifact when the node
published the artifact, when it proved the bytes as the destination of a
transfer, and when a capability report of the node lists the id of the artifact.
The first two are evidence for the content that is stored now.  The third is
not: a report carries ids only.

The history of a run records the evidence.  What it says about an artifact starts
afresh with every publication.
-/

namespace Clusterflux

open StatefulProgram LabelledRuns OrderedMaps

section

/-! ## Evidence -/

inductive CopyEvidence where
  | published (key : ArtifactScopeKey) (digest : Digest) (size : ℕ) (node : NodeId)
  | proved (key : ArtifactScopeKey) (digest : Digest) (size : ℕ) (node : NodeId)

/-- The content that was published last, and who has published or proved it
since. -/
structure ArtifactCopies where
  digest : Digest
  size : ℕ
  holders : Finset NodeId

def ArtifactCopies.prove (copies : ArtifactCopies) (digest : Digest) (size : ℕ)
    (node : NodeId) : ArtifactCopies :=
  if copies.digest = digest ∧ copies.size = size then
    { copies with holders := insert node copies.holders }
  else copies

def CopyEvidence.extend (key : ArtifactScopeKey) (copies : Option ArtifactCopies) :
    CopyEvidence → Option ArtifactCopies
  | .published artifact digest size node =>
    if artifact = key then some ⟨digest, size, {node}⟩ else copies
  | .proved artifact digest size node =>
    if artifact = key then copies.map (·.prove digest size node) else copies

/-- What a history says about the copies of an artifact. -/
def provenCopies (history : List CopyEvidence) (key : ArtifactScopeKey) : Option ArtifactCopies :=
  history.foldl (CopyEvidence.extend key) none

/-- The node has published or proved the content of the artifact since it was
published. -/
def Vouched (history : List CopyEvidence) (key : ArtifactScopeKey)
    (metadata : ArtifactMetadata) (node : NodeId) : Prop :=
  ∃ copies, provenCopies history key = some copies ∧ copies.digest = metadata.digest ∧
    copies.size = metadata.size ∧ node ∈ copies.holders

theorem provenCopies_append_published (history : List CopyEvidence)
    (artifact key : ArtifactScopeKey) (digest : Digest) (size : ℕ) (node : NodeId) :
    provenCopies (history ++ [.published artifact digest size node]) key =
      if artifact = key then some ⟨digest, size, {node}⟩ else provenCopies history key := by
  rw [provenCopies, List.foldl_append]
  rfl

def CopyEvidence.IsProof : CopyEvidence → Prop
  | .published .. => False
  | .proved .. => True

variable {history : List CopyEvidence} {key : ArtifactScopeKey} {middle : ArtifactRegistry}
  {flush : ArtifactFlush} {pinned : Finset ArtifactScopeKey} {protectedProcesses : Finset ProcessId}
  {request : NodeRequest.ReportNodeCapabilities} {machine : Machine}

/-- Proofs keep the content that was published and add the holders that proved it. -/
theorem provenCopies_append_proofs {evidence : List CopyEvidence}
    (hproofs : ∀ proof ∈ evidence, proof.IsProof)
    {copies : ArtifactCopies} (hcopies : provenCopies history key = some copies) :
    ∃ later, provenCopies (history ++ evidence) key = some later ∧
      later.digest = copies.digest ∧ later.size = copies.size ∧ copies.holders ⊆ later.holders ∧
        ∀ node, .proved key copies.digest copies.size node ∈ evidence → node ∈ later.holders := by
  induction evidence generalizing history copies with
  | nil =>
    rw [List.append_nil]
    exact ⟨copies, hcopies, rfl, rfl, Finset.Subset.refl _, fun node hnode => by cases hnode⟩
  | cons proof evidence ih =>
    have hrest : ∀ other ∈ evidence, other.IsProof :=
      fun other hother => hproofs other (List.mem_cons_of_mem _ hother)
    have hhead : ∃ next, provenCopies (history ++ [proof]) key = some next ∧
        next.digest = copies.digest ∧ next.size = copies.size ∧ copies.holders ⊆ next.holders ∧
          ∀ node, .proved key copies.digest copies.size node = proof → node ∈ next.holders := by
      rw [provenCopies, List.foldl_append, ← provenCopies, hcopies, List.foldl_cons, List.foldl_nil]
      cases proof with
      | published _ _ _ _ => exact absurd (hproofs _ List.mem_cons_self) id
      | proved artifact digest size holder =>
        rw [CopyEvidence.extend]
        split_ifs with hkey
        · refine ⟨copies.prove digest size holder, rfl, ?_⟩
          unfold ArtifactCopies.prove
          split_ifs with hcontent
          · refine ⟨rfl, rfl, Finset.subset_insert _ _, fun node hnode => ?_⟩
            cases hnode
            exact Finset.mem_insert_self _ _
          · refine ⟨rfl, rfl, Finset.Subset.refl _, fun node hnode => ?_⟩
            cases hnode
            exact absurd ⟨rfl, rfl⟩ hcontent
        · refine ⟨copies, rfl, rfl, rfl, Finset.Subset.refl _, fun node hnode => ?_⟩
          cases hnode
          exact absurd rfl hkey
    obtain ⟨next, hnext, hdigest, hsize, hkept, hadded⟩ := hhead
    obtain ⟨later, hlater, hdigest', hsize', hkept', hadded'⟩ := ih hrest hnext
    rw [List.append_assoc, List.singleton_append] at hlater
    refine ⟨later, hlater, hdigest'.trans hdigest, hsize'.trans hsize, hkept.trans hkept',
      fun node hnode => ?_⟩
    rw [hdigest, hsize] at hadded'
    obtain hfirst | hlast := List.mem_cons.mp hnode
    · exact hkept' (hadded node hfirst)
    · exact hadded' node hlast

/-- Evidence counts when the request that carries it was accepted. -/
def ifAccepted {ε α : Type} (outcome : Except ε α) (evidence : List CopyEvidence) :
    List CopyEvidence :=
  match outcome with
  | .ok _ => evidence
  | .error _ => []

/-! ## What a step adds -/

namespace ArtifactRegistry

/-- Every entry was there before with the same content, and every holder it did
not have before is proved by the evidence. -/
def CopiesFrom (evidence : List CopyEvidence) (before after : ArtifactRegistry) : Prop :=
  ∀ (key : ArtifactScopeKey) (metadata : ArtifactMetadata), after.artifacts[key]? = some metadata →
      ∃ earlier, before.artifacts[key]? = some earlier ∧ earlier.digest = metadata.digest ∧
        earlier.size = metadata.size ∧ ∀ node ∈ metadata.retainingNodes,
          node ∈ earlier.retainingNodes ∨ .proved key metadata.digest metadata.size node ∈ evidence

variable {before after : ArtifactRegistry}

theorem CopiesFrom.of_artifacts_eq (evidence : List CopyEvidence)
    (heq : after.artifacts = before.artifacts) : CopiesFrom evidence before after := by
  intro key metadata hlookup
  rw [heq] at hlookup
  exact ⟨metadata, hlookup, rfl, rfl, fun node hnode => Or.inl hnode⟩

theorem CopiesFrom.stored {evidence : List CopyEvidence}
    (hcopies : CopiesFrom evidence before middle) (heq : after.artifacts = middle.artifacts) :
    CopiesFrom evidence before after := by
  intro key metadata hlookup
  rw [heq] at hlookup
  exact hcopies key metadata hlookup

theorem CopiesFrom.started {evidence : List CopyEvidence}
    (hcopies : CopiesFrom evidence middle after) (heq : middle.artifacts = before.artifacts) :
    CopiesFrom evidence before after := by
  unfold CopiesFrom at hcopies ⊢
  rwa [← heq]

theorem CopiesFrom.mono {evidence more : List CopyEvidence}
    (hcopies : CopiesFrom evidence before after) (hmore : evidence ⊆ more) :
    CopiesFrom more before after := by
  intro key metadata hlookup
  obtain ⟨earlier, hearlier, hdigest, hsize, hholders⟩ := hcopies key metadata hlookup
  exact ⟨earlier, hearlier, hdigest, hsize, fun node hnode =>
    (hholders node hnode).imp_right fun hproved => hmore hproved⟩

theorem artifacts_releaseTransferHolds (registry : ArtifactRegistry)
    (released : List ReleasedTransferHold) :
    (registry.releaseTransferHolds released).artifacts = registry.artifacts := by
  unfold releaseTransferHolds
  induction released generalizing registry with
  | nil => rfl
  | cons hold released ih => exact ih (registry.removeHold hold.1 hold.2)

/-- After a flush an entry is the new one or was there before. -/
theorem lookup_of_flush {registry : ArtifactRegistry}
    (hflush : before.flushMetadataWithProtectedProcesses flush pinned protectedProcesses =
      .ok registry) {metadata : ArtifactMetadata}
    (hlookup : registry.artifacts[key]? = some metadata) :
    flush.key = key ∧ metadata.digest = flush.digest ∧ metadata.size = flush.size ∧
        metadata.retainingNodes = {flush.retainingNode} ∨
      flush.key ≠ key ∧ before.artifacts[key]? = some metadata := by
  unfold flushMetadataWithProtectedProcesses at hflush
  cases heviction : before.flushEviction flush pinned protectedProcesses with
  | error message =>
    rw [heviction] at hflush
    cases hflush
  | ok eviction =>
    rw [heviction] at hflush
    cases hflush
    rw [artifacts_addHold, getElem?_insert_eq_some_iff] at hlookup
    obtain ⟨hkey, rfl⟩ | ⟨hkey, hearlier⟩ := hlookup
    · exact Or.inl ⟨hkey, rfl, rfl, rfl⟩
    · refine Or.inr ⟨hkey, ?_⟩
      cases eviction with
      | none => exact hearlier
      | some evicted => exact (getElem?_erase_eq_some_iff.mp hearlier).2

/-- Recording a verified location adds one holder to the content it is about. -/
theorem copiesFrom_recordVerified {node : NodeId} {digest : Digest} {size : ℕ}
    (hrecorded : before.recordVerifiedRetainingLocation key node digest size = some after) :
    CopiesFrom [.proved key digest size node] before after := by
  unfold recordVerifiedRetainingLocation at hrecorded
  cases hstored : before.artifacts[key]? with
  | none =>
    rw [hstored] at hrecorded
    cases hrecorded
  | some stored =>
    rw [hstored] at hrecorded
    dsimp only at hrecorded
    split_ifs at hrecorded with hcontent
    cases hrecorded
    obtain ⟨rfl, rfl⟩ := hcontent
    intro other metadata hlookup
    obtain ⟨rfl, rfl⟩ | ⟨-, hearlier⟩ := getElem?_insert_eq_some_iff.mp hlookup
    · refine ⟨stored, hstored, rfl, rfl, fun holder hholder => ?_⟩
      obtain rfl | hheld := Finset.mem_insert.mp hholder
      · exact Or.inr (by simp)
      · exact Or.inl hheld
    · exact ⟨metadata, hearlier, rfl, rfl, fun holder hholder => Or.inl hholder⟩

theorem copiesFrom_removeRetaining (evidence : List CopyEvidence) (registry : ArtifactRegistry)
    (key : ArtifactScopeKey) (node : NodeId) :
    CopiesFrom evidence registry (registry.removeRetainingLocation key node) := by
  intro other metadata hlookup
  rw [removeRetainingLocation, Std.ExtTreeMap.getElem?_modify] at hlookup
  split_ifs at hlookup with hkey
  · obtain ⟨earlier, hearlier, rfl⟩ := Option.map_eq_some_iff.mp hlookup
    rw [Std.LawfulEqOrd.eq_of_compare hkey] at hearlier
    exact ⟨earlier, hearlier, rfl, rfl, fun holder hholder =>
      Or.inl (Finset.mem_of_mem_erase hholder)⟩
  · exact ⟨metadata, hlookup, rfl, rfl, fun holder hholder => Or.inl hholder⟩

end ArtifactRegistry

namespace InterchangeTransfer

/-- The evidence in a report on a transfer: the destination has the exact bytes. -/
def evidence (transfer : InterchangeTransfer) (scope : NodeScopeKey) (report : TransferReport) :
    List CopyEvidence :=
  if transfer.record.state.terminal = false ∧ transfer.concerns scope ∧
      report.state = .completed ∧ transfer.provesCompletion scope report then
    [.proved transfer.key transfer.destinationAuthorization.lease.digest
      transfer.destinationAuthorization.lease.sizeBytes scope.node]
  else []

variable {transfer : InterchangeTransfer} {scope : NodeScopeKey} {report : TransferReport}
  {before after : ArtifactRegistry}

/-- An accepted report adds the destination of the transfer, which proved the bytes,
or nothing. -/
theorem copiesFrom_reportEffects (hactive : transfer.record.state.terminal = false)
    (hconcerns : transfer.concerns scope)
    (heffects : transfer.reportEffects scope report before = .ok after) :
    ArtifactRegistry.CopiesFrom (transfer.evidence scope report) before after := by
  unfold reportEffects at heffects
  dsimp only at heffects
  split_ifs at heffects with hcompleted hproves hterminal hmissing hsource
  · split at heffects
    · rename_i recorded hrecorded
      cases heffects
      rw [← hproves.1] at hrecorded
      rw [evidence, if_pos ⟨hactive, hconcerns, hcompleted, hproves⟩]
      exact ArtifactRegistry.copiesFrom_recordVerified hrecorded
    · cases heffects
  · cases heffects
    exact ArtifactRegistry.copiesFrom_removeRetaining _ _ _ _
  · cases heffects
    exact .of_artifacts_eq _ rfl

theorem evidence_withReadyAssignments :
    (transfer.withReadyAssignments scope report).evidence scope report =
      transfer.evidence scope report := by
  simp [evidence, concerns, key, provesCompletion]

/-- A refused report adds nothing, an accepted one what it proves. -/
theorem copiesFrom_reportProgress (lifetimes : TransferLifetimes) (now : ℕ) :
    let result := transfer.reportProgress before scope report lifetimes now
    ArtifactRegistry.CopiesFrom (ifAccepted result.1 (transfer.evidence scope report)) before
      result.2.2 := by
  rw [reportProgress]
  by_cases hconcerns : transfer.concerns scope = true
  · rw [if_neg (not_not.mpr hconcerns)]
    by_cases hterminal : transfer.record.state.terminal = true
    · rw [if_pos hterminal]
      exact .of_artifacts_eq _ rfl
    · rw [if_neg hterminal]
      dsimp only
      split_ifs
      · exact .of_artifacts_eq _ rfl
      · exact .of_artifacts_eq _ rfl
      · exact .of_artifacts_eq _ rfl
      · cases heffects : (transfer.withReadyAssignments scope report).reportEffects scope report
            before with
        | error error => exact .of_artifacts_eq _ rfl
        | ok artifacts =>
          dsimp only [ifAccepted]
          rw [← evidence_withReadyAssignments]
          refine copiesFrom_reportEffects ?_ ?_ heffects
          · simpa using hterminal
          · simpa [concerns] using hconcerns
  · rw [if_pos hconcerns]
    exact .of_artifacts_eq _ rfl

end InterchangeTransfer

namespace CoordinatorService

/-- The evidence in a report on a transfer that the coordinator knows. -/
def transferEvidence (service : CoordinatorService) (scope : NodeScopeKey) (transferId : String)
    (report : TransferReport) : List CopyEvidence :=
  match service.interchangeRegistry.transfers[transferId]? with
  | none => []
  | some transfer => transfer.evidence scope report

variable (service : CoordinatorService)

theorem artifactRegistry_expireInterchange (now : ℕ) :
    (service.expireInterchange now).artifactRegistry.artifacts =
      service.artifactRegistry.artifacts :=
  ArtifactRegistry.artifacts_releaseTransferHolds _ _

/-- A transfer that has lapsed proves nothing any more. -/
theorem transferEvidence_expireInterchange (scope : NodeScopeKey)
    (transferId : String) (report : TransferReport) (now : ℕ) :
    (service.expireInterchange now).transferEvidence scope transferId report ⊆
      service.transferEvidence scope transferId report := by
  unfold transferEvidence
  cases hstored : (service.expireInterchange now).interchangeRegistry.transfers[transferId]? with
  | none => exact List.nil_subset _
  | some stored =>
    simp only [expireInterchange, InterchangeRegistry.expire, Std.ExtTreeMap.getElem?_filter',
      Option.filter_eq_some_iff] at hstored
    obtain ⟨before, hbefore, rfl | ⟨-, rfl⟩⟩ :=
      InterchangeRegistry.lookup_endTransfers hstored.1
    · rw [hbefore]
      exact List.Subset.refl _
    · have hnothing : (before.ended .expired .transferLeaseExpired now).evidence scope report =
          [] := by
        rw [InterchangeTransfer.evidence, if_neg]
        rintro ⟨hactive, -⟩
        cases hactive
      dsimp only
      rw [hnothing]
      exact List.nil_subset _

theorem copiesFrom_reportInterchange (scope : NodeScopeKey)
    (transferId : String) (report : TransferReport) (now : ℕ) :
    let result := service.reportInterchange scope transferId report now
    ArtifactRegistry.CopiesFrom
      (ifAccepted result.1 (service.transferEvidence scope transferId report))
      service.artifactRegistry result.2.artifactRegistry := by
  intro result
  have hrelease : result.2.artifactRegistry.artifacts =
      (service.interchangeRegistry.reportProgress service.artifactRegistry scope transferId report
        service.artifactInterchangeConfiguration.lifetimes now).2.2.artifacts :=
    ArtifactRegistry.artifacts_releaseTransferHolds _ _
  cases hstored : service.interchangeRegistry.transfers[transferId]? with
  | none =>
    rw [InterchangeRegistry.reportProgress_unknown hstored] at hrelease
    exact .of_artifacts_eq _ hrelease
  | some transfer =>
    rw [(InterchangeRegistry.reportProgress_of_stored hstored).2.2] at hrelease
    have houtcome : result.1 = (transfer.reportProgress service.artifactRegistry scope report
        service.artifactInterchangeConfiguration.lifetimes now).1 :=
      (InterchangeRegistry.reportProgress_of_stored hstored).1
    have hevidence : service.transferEvidence scope transferId report =
        transfer.evidence scope report := by
      rw [transferEvidence, hstored]
    rw [houtcome, hevidence]
    exact (InterchangeTransfer.copiesFrom_reportProgress _ now).stored hrelease

end CoordinatorService

/-! ## The handlers -/

/-- What a report on a transfer proves, to a coordinator that accepts it. -/
def NodeRequest.ReportArtifactInterchange.evidence
    (request : NodeRequest.ReportArtifactInterchange) (machine : Machine) : List CopyEvidence :=
  match Handler.parseNodeScope request.toNodeFields machine,
      handleReportArtifactInterchange request machine with
  | .ok scope _, .ok _ _ =>
    machine.service.transferEvidence scope request.transferId (transferReport request)
  | _, _ => []

/-- The artifacts of the machine are those of before, with the holders the evidence
proves. -/
def CopiesMove (evidence : List CopyEvidence) (before after : Machine) : Prop :=
  ArtifactRegistry.CopiesFrom evidence before.service.artifactRegistry
    after.service.artifactRegistry

def SameArtifacts (before after : Machine) : Prop :=
  after.service.artifactRegistry.artifacts = before.service.artifactRegistry.artifacts

theorem SameArtifacts.copies {before after : Machine} (hsame : SameArtifacts before after)
    (evidence : List CopyEvidence) : CopiesMove evidence before after :=
  .of_artifacts_eq evidence hsame

theorem Entered.artifacts {machine : Machine} {service : CoordinatorService}
    (hentered : Entered machine service) :
    service.artifactRegistry.artifacts = machine.service.artifactRegistry.artifacts := by
  obtain rfl | ⟨first, -, rfl⟩ := hentered
  · rfl
  · exact machine.service.artifactRegistry_expireInterchange first

theorem Entered.transferEvidence_subset {machine : Machine} {service : CoordinatorService}
    (hentered : Entered machine service) (scope : NodeScopeKey) (transferId : String)
    (report : TransferReport) :
    service.transferEvidence scope transferId report ⊆
      machine.service.transferEvidence scope transferId report := by
  obtain rfl | ⟨first, -, rfl⟩ := hentered
  · exact List.Subset.refl _
  · exact machine.service.transferEvidence_expireInterchange _ _ _ first

theorem parseNodeScope_of_enterInterchange {fields : NodeFields} {machine middle : Machine}
    {scope : NodeScopeKey} {now : ℕ}
    (hentered : enterInterchange fields machine = .ok (scope, now) middle) :
    Handler.parseNodeScope fields machine = .ok scope machine := by
  obtain ⟨named, hscope, hrest⟩ := ok_after hentered
  simp only [bind_eq_ok_iff, pure_apply, EStateM.Result.ok.injEq, Prod.mk.injEq] at hrest
  obtain ⟨_, _, _, _, _, _, _, _, _, ⟨rfl, -⟩, -⟩ := hrest
  exact hscope

theorem copiesMove_handleReportArtifactInterchange
    (request : NodeRequest.ReportArtifactInterchange) (machine : Machine) :
    CopiesMove (request.evidence machine) machine
      (finalState (handleReportArtifactInterchange request machine)) := by
  have hleads := enterInterchange_leads request.toNodeFields machine
  cases hentered : enterInterchange request.toNodeFields machine with
  | error failure middle =>
    have hrun : handleReportArtifactInterchange request machine = .error failure middle := by
      rw [handleReportArtifactInterchange, bind_of_error hentered]
    rw [hrun]
    exact SameArtifacts.copies (hleads.of_error hentered).artifacts _
  | ok entered middle =>
    obtain ⟨scope, now⟩ := entered
    have hmiddle := (hleads.of_ok hentered).2
    have hreport := middle.service.copiesFrom_reportInterchange scope request.transferId
      (transferReport request) now
    rw [NodeRequest.ReportArtifactInterchange.evidence,
      parseNodeScope_of_enterInterchange hentered, handleReportArtifactInterchange,
      bind_of_ok hentered]
    dsimp only
    rw [bind_of_ok (service_apply middle)]
    dsimp only at hreport
    cases houtcome : (middle.service.reportInterchange scope request.transferId
      (transferReport request) now).1 with
    | error error =>
      rw [houtcome] at hreport
      exact hreport.started hmiddle.artifacts
    | ok progress =>
      rw [houtcome] at hreport
      refine (hreport.mono ?_).started hmiddle.artifacts
      exact hmiddle.transferEvidence_subset _ _ _

/-- The ids that a capability report makes the coordinator reconcile with. -/
def NodeRequest.ReportNodeCapabilities.Lists (request : NodeRequest.ReportNodeCapabilities)
    (artifact : ArtifactId) : Prop :=
  request.online = true ∧ artifact.value ∈ request.artifactLocations

/-- What a capability report makes of the artifacts: it leaves them alone, or
reconciles the node with ids that it lists. -/
inductive Reconciles (request : NodeRequest.ReportNodeCapabilities) (before after : Machine) :
    Prop where
  | refused (hsame : SameArtifacts before after)
  | reconciled (scope : NodeScopeKey) (locations : Finset ArtifactId)
      (hnames : request.toNodeFields.Names scope)
      (hlists : ∀ artifact ∈ locations, request.Lists artifact)
      (hartifacts : after.service.artifactRegistry.artifacts =
        (before.service.artifactRegistry.reconcileNodeRetention scope locations).artifacts)

theorem lists_of_mapM {machine middle : Machine} {ids : List ArtifactId}
    (hids : request.artifactLocations.mapM (Handler.newId .artifact) machine = .ok ids middle)
    {artifact : ArtifactId}
    (hartifact : artifact ∈ (if request.online then ids.toFinset else ∅ : Finset ArtifactId)) :
    request.Lists artifact := by
  split_ifs at hartifact with honline
  · obtain ⟨value, hvalue, before, after, hnew⟩ :=
      exists_of_mem_mapM hids (List.mem_toFinset.mp hartifact)
    obtain ⟨hid, -⟩ := liftExcept_eq_ok_iff.mp hnew
    refine ⟨honline, ?_⟩
    rwa [Id.tryNew_eq_ok_iff.mp hid]
  · exact absurd hartifact (Finset.notMem_empty artifact)

theorem reconciles_handleReportNodeCapabilities (request : NodeRequest.ReportNodeCapabilities)
    (machine : Machine) :
    Reconciles request machine (finalState (handleReportNodeCapabilities request machine)) := by
  have hrefused : Reconciles request machine machine := .refused rfl
  refine finalState_after hrefused fun scope hscope => ?_
  refine finalState_after hrefused fun service _ => ?_
  refine finalState_after hrefused fun _ _ => ?_
  refine finalState_after hrefused fun _ _ => ?_
  refine finalState_after hrefused fun _ _ => ?_
  refine finalState_after hrefused fun _ _ => ?_
  refine finalState_after hrefused fun _ _ => ?_
  refine finalState_bind_guard (Guards.mapM (newId_guards _) _) hrefused fun ids hids => ?_
  refine finalState_bind_ok rfl ?_
  refine .reconciled scope _ (newNodeScope_eq_ok hscope)
    (fun artifact hartifact => lists_of_mapM hids hartifact) (congrArg ArtifactRegistry.artifacts
      ((?_ : Moves (Touches {.nodes}) _) _ .artifacts (by decide)))
  refine Moves.bind (Moves.bind Touches.livenessNowEpochSeconds fun _ =>
    Moves.after fun _ => Moves.pure _) fun _ => ?_
  refine Moves.bind Touches.currentEpochSeconds fun _ => ?_
  refine Moves.after fun _ => ?_
  refine Moves.bind (Touches.modifyNodes (by decide)) fun _ => ?_
  refine Moves.after fun _ => ?_
  exact Moves.bind Touches.persistDurableState fun _ => Moves.pure _

/-! ## Runs -/

/-- A coordinator and what has been published and proved to it. -/
structure RetentionSystem where
  machine : Machine
  history : List CopyEvidence

inductive RetentionEvent where
  | publish (flush : ArtifactFlush) (pinned : Finset ArtifactScopeKey)
      (protectedProcesses : Finset ProcessId)
  | reportTransfer (request : NodeRequest.ReportArtifactInterchange)
  | reportCapabilities (request : NodeRequest.ReportNodeCapabilities)
  /-- Anything that only takes copies or artifacts away. -/
  | other

namespace RetentionSystem

/-- Every artifact has the content that was published last, and every node that
counts as a copy published or proved it. -/
def Genuine (system : RetentionSystem) : Prop :=
  ∀ (key : ArtifactScopeKey) (metadata : ArtifactMetadata),
    system.machine.service.artifactRegistry.artifacts[key]? = some metadata →
      ∃ copies, provenCopies system.history key = some copies ∧
        copies.digest = metadata.digest ∧ copies.size = metadata.size ∧
        metadata.retainingNodes ⊆ copies.holders

/-- Nothing was published yet. -/
structure IsEmpty (system : RetentionSystem) : Prop where
  artifacts : system.machine.service.artifactRegistry.artifacts = ∅
  history : system.history = []

theorem IsEmpty.genuine {system : RetentionSystem} (hempty : system.IsEmpty) : system.Genuine := by
  intro key metadata hlookup
  rw [hempty.artifacts, Std.ExtTreeMap.getElem?_empty] at hlookup
  cases hlookup

theorem Genuine.of_copies {machine after : Machine} {evidence : List CopyEvidence}
    (hgenuine : Genuine ⟨machine, history⟩) (hproofs : ∀ proof ∈ evidence, proof.IsProof)
    (hcopies : CopiesMove evidence machine after) : Genuine ⟨after, history ++ evidence⟩ := by
  intro key metadata hlookup
  obtain ⟨earlier, hearlier, hdigest, hsize, hholders⟩ := hcopies key metadata hlookup
  obtain ⟨copies, hproven, hdigest', hsize', hretaining⟩ := hgenuine key earlier hearlier
  obtain ⟨later, hlater, hdigest'', hsize'', hkept, hadded⟩ :=
    provenCopies_append_proofs hproofs hproven
  rw [hdigest'.trans hdigest, hsize'.trans hsize] at hadded
  refine ⟨later, hlater, hdigest''.trans (hdigest'.trans hdigest),
    hsize''.trans (hsize'.trans hsize), fun node hnode => ?_⟩
  obtain hheld | hproved := hholders node hnode
  · exact hkept (hretaining hheld)
  · exact hadded node hproved

theorem Genuine.publish {machine after : Machine} (hgenuine : Genuine ⟨machine, history⟩)
    (hflush : machine.service.artifactRegistry.flushMetadataWithProtectedProcesses flush pinned
      protectedProcesses = .ok after.service.artifactRegistry) :
    Genuine ⟨after, history ++
      [.published flush.key flush.digest flush.size flush.retainingNode]⟩ := by
  intro key metadata hlookup
  rw [provenCopies_append_published]
  obtain ⟨hkey, hdigest, hsize, hretaining⟩ | ⟨hkey, hearlier⟩ :=
    ArtifactRegistry.lookup_of_flush hflush hlookup
  · rw [if_pos hkey]
    exact ⟨_, rfl, hdigest.symm, hsize.symm, hretaining.subset⟩
  · rw [if_neg hkey]
    exact hgenuine key metadata hearlier

/-- The node that reports has published or proved every artifact it lists. -/
def ListsGenuine (system : RetentionSystem) (request : NodeRequest.ReportNodeCapabilities) : Prop :=
  ∀ (scope : NodeScopeKey) (key : ArtifactScopeKey) (metadata : ArtifactMetadata),
    request.toNodeFields.Names scope → key.tenant = scope.tenant → key.project = scope.project →
      request.Lists key.artifact →
      system.machine.service.artifactRegistry.artifacts[key]? = some metadata →
        Vouched system.history key metadata scope.node

theorem Genuine.reconcile {machine after : Machine} (hgenuine : Genuine ⟨machine, history⟩)
    (hlisted : ListsGenuine ⟨machine, history⟩ request)
    (hreconciles : Reconciles request machine after) : Genuine ⟨after, history⟩ := by
  intro key metadata hlookup
  cases hreconciles with
  | refused hsame =>
    rw [hsame] at hlookup
    exact hgenuine key metadata hlookup
  | reconciled scope locations hnames hlists hartifacts =>
    rw [hartifacts, ArtifactRegistry.reconcileNodeRetention, Std.ExtTreeMap.getElem?_map] at hlookup
    obtain ⟨earlier, hearlier, rfl⟩ := Option.map_eq_some_iff.mp hlookup
    obtain ⟨copies, hproven, hdigest, hsize, hretaining⟩ := hgenuine key earlier hearlier
    split_ifs with hscope hlocated
    · refine ⟨copies, hproven, hdigest, hsize, Finset.insert_subset ?_ hretaining⟩
      obtain ⟨vouched, hvouched, -, -, hholder⟩ := hlisted scope key earlier hnames hscope.1
        hscope.2 (hlists _ hlocated) hearlier
      rw [hproven] at hvouched
      cases hvouched
      exact hholder
    · exact ⟨copies, hproven, hdigest, hsize, (Finset.erase_subset _ _).trans hretaining⟩
    · exact ⟨copies, hproven, hdigest, hsize, hretaining⟩

end RetentionSystem

namespace RetentionEvent

inductive Happens : RetentionEvent → RetentionSystem → RetentionSystem → Prop
  | publish {flush : ArtifactFlush} {pinned : Finset ArtifactScopeKey}
      {protectedProcesses : Finset ProcessId} {machine after : Machine}
      (history : List CopyEvidence)
      (hflush : machine.service.artifactRegistry.flushMetadataWithProtectedProcesses flush
        pinned protectedProcesses = .ok after.service.artifactRegistry) :
      Happens (.publish flush pinned protectedProcesses) ⟨machine, history⟩
        ⟨after, history ++ [.published flush.key flush.digest flush.size flush.retainingNode]⟩
  | reportTransfer (request : NodeRequest.ReportArtifactInterchange) (machine : Machine)
      (history : List CopyEvidence) :
      Happens (.reportTransfer request) ⟨machine, history⟩
        ⟨finalState (handleReportArtifactInterchange request machine),
          history ++ request.evidence machine⟩
  | reportCapabilities (request : NodeRequest.ReportNodeCapabilities) (machine : Machine)
      (history : List CopyEvidence) :
      Happens (.reportCapabilities request) ⟨machine, history⟩
        ⟨finalState (handleReportNodeCapabilities request machine), history⟩
  | other {machine after : Machine} (history : List CopyEvidence)
      (hcopies : CopiesMove [] machine after) :
      Happens .other ⟨machine, history⟩ ⟨after, history⟩

/-- A capability report lists only what the node has published or proved. -/
def Truthful : RetentionEvent → RetentionSystem → Prop
  | .reportCapabilities request, system => system.ListsGenuine request
  | _, _ => True

theorem isProof_of_mem_evidence {request : NodeRequest.ReportArtifactInterchange}
    {proof : CopyEvidence} (hproof : proof ∈ request.evidence machine) :
    proof.IsProof := by
  unfold NodeRequest.ReportArtifactInterchange.evidence CoordinatorService.transferEvidence
    InterchangeTransfer.evidence at hproof
  split at hproof
  · split at hproof
    · cases hproof
    · split_ifs at hproof
      · rw [List.mem_singleton.mp hproof]
        trivial
      · cases hproof
  · cases hproof

theorem genuine_of_happens {event : RetentionEvent} {before after : RetentionSystem}
    (hgenuine : before.Genuine) (htruthful : event.Truthful before)
    (hhappens : event.Happens before after) : after.Genuine := by
  cases hhappens with
  | publish history hflush => exact hgenuine.publish hflush
  | reportTransfer request machine history =>
    exact hgenuine.of_copies (fun _ hproof => isProof_of_mem_evidence hproof)
      (copiesMove_handleReportArtifactInterchange request machine)
  | reportCapabilities request machine history =>
    exact hgenuine.reconcile htruthful (reconciles_handleReportNodeCapabilities request machine)
  | other history hcopies =>
    have hkept := hgenuine.of_copies (fun proof hproof => by cases hproof) hcopies
    rwa [List.append_nil] at hkept

end RetentionEvent

/-- In every run from an empty registry in which capability reports are truthful, every
node that counts as a copy of an artifact has published or proved its content. -/
theorem retaining_nodes_are_genuine {start final : RetentionSystem}
    {events : List RetentionEvent} (hempty : start.IsEmpty)
    (hrun : Run RetentionEvent.Happens RetentionEvent.Truthful start events final)
    (key : ArtifactScopeKey) (metadata : ArtifactMetadata)
    (hstored : final.machine.service.artifactRegistry.artifacts[key]? = some metadata)
    (node : NodeId) (hnode : node ∈ metadata.retainingNodes) :
    Vouched final.history key metadata node := by
  have hgenuine : final.Genuine := hrun.invariant hempty.genuine
    fun _ _ _ hbefore htruthful hhappens =>
      RetentionEvent.genuine_of_happens hbefore htruthful hhappens
  obtain ⟨copies, hproven, hdigest, hsize, hretaining⟩ := hgenuine key metadata hstored
  exact ⟨copies, hproven, hdigest, hsize, hretaining hnode⟩

end

namespace RetentionSample

def tenant : TenantId := ⟨"tenant", tenant_valid⟩

def project : ProjectId := ⟨"project", project_valid⟩

def producer : NodeId := ⟨"node-a", by decide⟩

def other : NodeId := ⟨"node-b", by decide⟩

def key : ArtifactScopeKey := ⟨tenant, project, ⟨"report", by decide⟩⟩

def flush : ArtifactFlush where
  key := key
  process := ⟨"process", process_valid⟩
  producerTask := ⟨"task", task_valid⟩
  retainingNode := producer
  digest := ⟨"sha256:content"⟩
  size := 7

def enrolled (identities : OrderedMap NodeScopeKey NodeIdentityRecord) (node : NodeId) :
    OrderedMap NodeScopeKey NodeIdentityRecord :=
  identities.insert ⟨tenant, project, node⟩ ⟨node, tenant, project, "public-key", "scope", none⟩

/-- Two enrolled nodes and no artifact. -/
def start : RetentionSystem where
  machine :=
    { service :=
        { coordinator := { durable := { nodeIdentities := enrolled (enrolled ∅ producer) other } } }
      environment := steadyEnvironment 100 hundred_le }
  history := []

def published : RetentionSystem where
  machine := { start.machine with service := { start.machine.service with
    artifactRegistry := (start.machine.service.artifactRegistry.flushMetadataWithProtectedProcesses
      flush ∅ ∅).toOption.getD {} } }
  history := [.published key flush.digest flush.size producer]

/-- An online node that lists the id of the artifact. -/
def report (node : String) : NodeRequest.ReportNodeCapabilities where
  tenant := "tenant"
  project := "project"
  node := node
  capabilities := ⟨.linux, "x86_64", ∅, ∅, ∅, .executionOnly, []⟩
  cachedEnvironmentDigests := []
  dependencyCacheDigests := []
  sourceSnapshots := []
  artifactLocations := ["report"]
  online := true

def reported (node : String) : RetentionSystem :=
  ⟨finalState (handleReportNodeCapabilities (report node) published.machine), published.history⟩

theorem start_isEmpty : start.IsEmpty := ⟨rfl, rfl⟩

theorem publish_happens : (RetentionEvent.publish flush ∅ ∅).Happens start published := by
  have hflush : start.machine.service.artifactRegistry.flushMetadataWithProtectedProcesses flush
      ∅ ∅ = .ok published.machine.service.artifactRegistry := rfl
  exact .publish [] hflush

/-- After the report of a node the artifact is stored and the node counts as a copy. -/
def counts (name : String) (node : NodeId) : Bool :=
  (reported name).machine.service.artifactRegistry.artifacts[key]?.any fun metadata =>
    node ∈ metadata.retainingNodes

theorem stored_of_counts {name : String} {node : NodeId} (hcounts : counts name node = true) :
    ∃ metadata : ArtifactMetadata,
      (reported name).machine.service.artifactRegistry.artifacts[key]? = some metadata ∧
        node ∈ metadata.retainingNodes := by
  obtain ⟨metadata, hlookup, hnode⟩ := (Option.any_eq_true _ _).mp hcounts
  exact ⟨metadata, hlookup, of_decide_eq_true hnode⟩

theorem key_of_lists {scope : NodeScopeKey} {artifact : ArtifactScopeKey} {name : String}
    (hnames : (report name).toNodeFields.Names scope) (htenant : artifact.tenant = scope.tenant)
    (hproject : artifact.project = scope.project) (hlists : (report name).Lists artifact.artifact) :
    artifact = key := by
  obtain ⟨tenantId, projectId, artifactId⟩ := artifact
  have hartifact : artifactId = key.artifact := Id.value_injective (List.mem_singleton.mp hlists.2)
  have htenantId : tenantId = tenant := htenant.trans (Id.value_injective hnames.1)
  have hprojectId : projectId = project := hproject.trans (Id.value_injective hnames.2.1)
  rw [hartifact, htenantId, hprojectId]
  rfl

theorem producer_lists_genuine : published.ListsGenuine (report "node-a") := by
  intro scope artifact metadata hnames htenant hproject hlists hlookup
  have htruthful : (RetentionEvent.publish flush ∅ ∅).Truthful start := trivial
  have hgenuine : published.Genuine :=
    RetentionEvent.genuine_of_happens start_isEmpty.genuine htruthful publish_happens
  obtain ⟨copies, hproven, hdigest, hsize, -⟩ := hgenuine artifact metadata hlookup
  refine ⟨copies, hproven, hdigest, hsize, ?_⟩
  have hnode : scope.node = producer := Id.value_injective hnames.2.2
  rw [key_of_lists hnames htenant hproject hlists] at hproven
  cases hproven
  exact Finset.mem_singleton.mpr hnode

end RetentionSample

open RetentionSample in
/-- A node that lists the id of an artifact counts as a copy of content it has neither
published nor proved. -/
theorem capability_report_adds_unproved_copy :
    ¬ ∀ (start final : RetentionSystem) (events : List RetentionEvent) (key : ArtifactScopeKey)
        (metadata : ArtifactMetadata) (node : NodeId),
      start.IsEmpty → Run RetentionEvent.Happens (fun _ _ => True) start events final →
        final.machine.service.artifactRegistry.artifacts[key]? = some metadata →
          node ∈ metadata.retainingNodes → Vouched final.history key metadata node := by
  intro hgenuine
  have hrun : Run RetentionEvent.Happens (fun _ _ => True) start [.publish flush ∅ ∅,
        .reportCapabilities (report "node-b")]
      (reported "node-b") :=
    Run.snoc (Run.snoc Run.nil trivial publish_happens) trivial (.reportCapabilities _ _ _)
  have hcounts : counts "node-b" other = true := by
    decide +kernel
  obtain ⟨metadata, hlookup, hnode⟩ := stored_of_counts hcounts
  obtain ⟨copies, hproven, -, -, hholder⟩ := hgenuine _ _ _ _ metadata _
    start_isEmpty hrun hlookup hnode
  cases hproven
  exact absurd hholder (by decide)

open RetentionSample in
/-- The producer may list what it has published. -/
theorem producer_report_is_genuine : ∃ metadata : ArtifactMetadata,
      (reported "node-a").machine.service.artifactRegistry.artifacts[key]? = some metadata ∧
        producer ∈ metadata.retainingNodes ∧
        Vouched (reported "node-a").history key metadata
          producer := by
  have hcounts : counts "node-a" producer = true := by
    decide +kernel
  obtain ⟨metadata, hstored, hnode⟩ := stored_of_counts hcounts
  have hrun : Run RetentionEvent.Happens RetentionEvent.Truthful start [.publish flush ∅ ∅,
        .reportCapabilities (report "node-a")]
      (reported "node-a") :=
    Run.snoc (Run.snoc Run.nil trivial publish_happens)
      producer_lists_genuine (.reportCapabilities _ _ _)
  exact ⟨metadata, hstored, hnode, retaining_nodes_are_genuine start_isEmpty hrun
    _ metadata hstored _ hnode⟩

end Clusterflux
