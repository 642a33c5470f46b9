import Clusterflux.Verification.EndpointBindings
import Clusterflux.Verification.Footprints
import Clusterflux.Verification.TransferEvolution

/-!
# What a call of the interchange does

The coordinator handles requests of nodes, cancellations, revocations and drains
one after the other, each with its own view of the clock and the random source.
Most calls first end lapsed transfers and then work on what is left; a request may
create a transfer and a report may meter bytes.  The outcomes of all calls are
listed once here; counts, sums, holds and uniqueness of transfers follow from the
list.
-/

namespace Clusterflux

open StatefulProgram

variable {readings first now : ℕ} {fields : NodeRequest.RequestArtifactInterchange}
  {machine middle last : Machine} {request : TransferRequest} {metadata : ArtifactMetadata}
  {advertisement : IrohEndpointAdvertisement} {terms : TransferTerms} {scope : NodeScopeKey}

/-! ## Steps that change nothing -/

@[instance]
theorem parseId_guards (kind : IdKind) (value : String) : Guards (Handler.parseId kind value) :=
  Guards.liftExcept _ _

@[instance]
theorem parseNodeScope_guards (fields : NodeFields) : Guards (Handler.parseNodeScope fields) :=
  Guards.bind (parseId_guards _ _) fun _ => Guards.bind (parseId_guards _ _) fun _ =>
    Guards.bind (parseId_guards _ _) fun _ => Guards.pure _

@[instance]
theorem authorizeInterchangeNode_guards (scope : NodeScopeKey) :
    Guards (authorizeInterchangeNode scope) :=
  Guards.bind service_guards fun _ => Guards.ensure _ _

theorem names_of_parseNodeScope {fields : NodeFields}
    (hrun : Handler.parseNodeScope fields machine = .ok scope middle) : fields.Names scope := by
  simp only [Handler.parseNodeScope, Handler.parseId, bind_eq_ok_iff, liftExcept_eq_ok_iff,
    pure_apply, EStateM.Result.ok.injEq] at hrun
  obtain ⟨tenant, _, ⟨htenant, -⟩, project, _, ⟨hproject, -⟩, node, _, ⟨hnode, -⟩, rfl, -⟩ := hrun
  exact ⟨Id.tryNew_eq_ok_iff.mp htenant, Id.tryNew_eq_ok_iff.mp hproject,
    Id.tryNew_eq_ok_iff.mp hnode⟩

/-- The service is the same, and so are the tokens that will be drawn. -/
def Quiet (before after : Machine) : Prop :=
  after.service = before.service ∧ after.environment.tokens = before.environment.tokens

instance : IsPreorder Machine Quiet where
  refl _ := ⟨rfl, rfl⟩
  trans _ _ _ hfirst hsecond := ⟨hsecond.1.trans hfirst.1, hsecond.2.trans hfirst.2⟩

namespace Quiet

theorem readClock : Moves Quiet Handler.readClock := fun _ => ⟨rfl, rfl⟩

theorem currentEpochSeconds : Moves Quiet Handler.currentEpochSeconds :=
  Moves.bind readClock fun _ => Moves.orFail _ _

theorem livenessNowEpochSeconds : Moves Quiet Handler.livenessNowEpochSeconds :=
  Moves.bind readClock fun _ => Moves.pure _

theorem nodeIsLive (scope : NodeScopeKey) : Moves Quiet (Handler.nodeIsLive scope) :=
  Moves.bind livenessNowEpochSeconds fun _ => Moves.after fun _ => Moves.pure _

theorem activeAdvertisement (scope : NodeScopeKey) : Moves Quiet (activeAdvertisement scope) :=
  Moves.bind currentEpochSeconds fun _ => Moves.after fun _ => Moves.orFail _ _

theorem findSource (destination : NodeScopeKey) (sources : List NodeId) :
    Moves Quiet (findSource destination sources) := by
  induction sources with
  | nil => exact Moves.pure _
  | cons source sources ih =>
    refine Moves.bind (nodeIsLive _) fun live => Moves.ite ?_ ih
    exact Moves.bind livenessNowEpochSeconds fun _ => Moves.after fun _ =>
      Moves.ite (Moves.pure _) ih

end Quiet

/-- The service is as it was. -/
def SameService (before after : Machine) : Prop := after.service = before.service

instance : IsPreorder Machine SameService := samePart_isPreorder Machine.service

namespace SameService

theorem of_quiet {α : Type} {program : Handler α} (hmoves : Moves Quiet program) :
    Moves SameService program :=
  hmoves.mono fun _ _ hquiet => hquiet.1

theorem generateOpaqueToken (label : String) :
    Moves SameService (Handler.generateOpaqueToken label) :=
  Moves.bind (fun _ => rfl) fun _ => Moves.after fun _ => Moves.pure _

theorem generateTransferSecret : Moves SameService Handler.generateTransferSecret :=
  Moves.bind (fun _ => rfl) fun _ => Moves.liftExcept _ _

theorem persistDurableState : Moves SameService Handler.persistDurableState :=
  Moves.bind (fun _ => rfl) fun _ => Moves.ensure _ _

/-- Agreeing on terms draws tokens and changes nothing in the service. -/
theorem negotiateTransfer (request : TransferRequest) (metadata : ArtifactMetadata)
    (advertisement : IrohEndpointAdvertisement) (now : ℕ) :
    Moves SameService (negotiateTransfer request metadata advertisement now) :=
  Moves.after fun _ => Moves.after fun _ =>
    Moves.bind (of_quiet (Quiet.findSource _ _)) fun _ =>
    Moves.after fun _ => Moves.after fun _ =>
    Moves.bind (of_quiet (Quiet.activeAdvertisement _)) fun _ =>
    Moves.bind (generateOpaqueToken _) fun _ => Moves.bind (generateOpaqueToken _) fun _ =>
    Moves.bind generateTransferSecret fun _ => Moves.pure _

/-- The answer does not change the service any more. -/
theorem answer {δ α β : Type} (outcome : Except δ α) (failure : δ → Failure)
    (response : α → β) (machine : Machine) :
    (finalState ((do
      let value ← liftExcept outcome failure
      return response value : Handler β) machine)).service = machine.service :=
  (Moves.after fun _ => Moves.pure _ : Moves SameService _) machine

end SameService

/-! ## Entering the interchange -/

/-- The service as it was, or after the lapsed transfers were ended at the first
reading of the clock. -/
def Entered (machine : Machine) (service : CoordinatorService) : Prop :=
  service = machine.service ∨ ∃ first, machine.environment.clock 0 = some first ∧
      service = machine.service.expireInterchange first

/-- The lapsed transfers were ended at the first reading of the clock, and the
given number of readings has been made. -/
structure EnteredAt (readings : ℕ) (machine : Machine) (first : ℕ) (middle : Machine) : Prop where
  reading : machine.environment.clock 0 = some first
  service : middle.service = machine.service.expireInterchange first
  clock : ∀ index, middle.environment.clock index = machine.environment.clock (index + readings)
  tokens : middle.environment.tokens = machine.environment.tokens

theorem EnteredAt.entered (hentered : EnteredAt readings machine first middle) :
    Entered machine middle.service :=
  .inr ⟨first, hentered.reading, hentered.service⟩

theorem EnteredAt.of_quiet (hentered : EnteredAt readings machine first middle)
    (hquiet : Quiet middle last)
    (hclock : ∀ index, last.environment.clock index = middle.environment.clock (index + 1)) :
    EnteredAt (readings + 1) machine first last where
  reading := hentered.reading
  service := hquiet.1.trans hentered.service
  clock index := by
    rw [hclock, hentered.clock]
    congr 1
    omega
  tokens := hquiet.2.trans hentered.tokens

section Reading

variable {fails : Machine → Prop}

/-- A reading of the clock that cannot be before the epoch. -/
theorem currentEpochSeconds_leads (hfails : ∀ final, Quiet machine final → fails final) :
    Leads Handler.currentEpochSeconds machine
      (fun now final => machine.environment.clock 0 = some now ∧ Quiet machine final ∧
        ∀ index, final.environment.clock index = machine.environment.clock (index + 1)) fails where
  of_ok hrun := by
    simp only [Handler.currentEpochSeconds, bind_eq_ok_iff, orFail_eq_ok_iff] at hrun
    obtain ⟨reading, middle, hreading, hnow, rfl⟩ := hrun
    cases hreading
    exact ⟨hnow, ⟨rfl, rfl⟩, fun _ => rfl⟩
  of_error hrun := hfails _ (Quiet.currentEpochSeconds.of_error hrun)

theorem nodeIsLive_leads (scope : NodeScopeKey)
    (hfails : ∀ final, Quiet machine final → fails final) :
    Leads (Handler.nodeIsLive scope) machine (fun _ final => Quiet machine final ∧
        ∀ index, final.environment.clock index = machine.environment.clock (index + 1)) fails where
  of_ok hrun := by
    simp only [Handler.nodeIsLive, Handler.livenessNowEpochSeconds, bind_eq_ok_iff, pure_apply,
      EStateM.Result.ok.injEq] at hrun
    obtain ⟨now, first, ⟨reading, _, hreading, rfl, rfl⟩, service, second, hservice, -, rfl⟩ := hrun
    cases hreading
    cases hservice
    exact ⟨⟨rfl, rfl⟩, fun _ => rfl⟩
  of_error hrun := hfails _ ((Quiet.nodeIsLive scope).of_error hrun)

end Reading

theorem expireInterchangeState_leads (machine : Machine) :
    Leads expireInterchangeState machine (fun _ final => ∃ first, EnteredAt 1 machine first final)
      (fun final => Entered machine final.service) := by
  refine Leads.bind (currentEpochSeconds_leads fun final hquiet => .inl hquiet.1) ?_
  rintro first middle ⟨hfirst, hquiet, hclock⟩
  refine ⟨fun hrun => ?_, fun hrun => by cases hrun⟩
  cases hrun
  refine ⟨first, hfirst, ?_, hclock, hquiet.2⟩
  exact congrArg (CoordinatorService.expireInterchange · first) hquiet.1

theorem enterInterchange_leads (fields : NodeFields) (machine : Machine) :
    Leads (enterInterchange fields) machine
      (fun entered final => fields.Names entered.1 ∧ Entered machine final.service)
      (fun final => Entered machine final.service) := by
  apply Leads.bind_guards (parseNodeScope_guards fields) (.inl rfl)
  intro scope hscope
  apply Leads.bind_guards (authorizeInterchangeNode_guards scope) (.inl rfl)
  intro _ _
  apply Leads.bind (expireInterchangeState_leads machine)
  rintro _ middle ⟨first, hentered⟩
  have hquiet : ∀ final, Quiet middle final → Entered machine final.service := by
    intro final hquiet
    rw [hquiet.1]
    exact hentered.entered
  apply Leads.bind (currentEpochSeconds_leads hquiet)
  rintro now last ⟨-, hlast, -⟩
  exact Leads.pure ⟨names_of_parseNodeScope hscope, hquiet last hlast⟩

/-! ## Requests -/

/-- The id of a transfer with the given token. -/
def tokenTransferId (token : String) : String := "artifact_interchange" ++ "_" ++ token

/-- The request is the one that the fields spell. -/
structure TransferRequest.Spelled (request : TransferRequest)
    (fields : NodeRequest.RequestArtifactInterchange) : Prop where
  destination : fields.toNodeFields.Names request.destination
  process : request.process.value = fields.process
  artifact : request.artifact.value = fields.artifact

/-- The request asks for a range of an artifact that the service knows. -/
structure TransferRequest.Known (request : TransferRequest) (metadata : ArtifactMetadata)
    (service : CoordinatorService) : Prop where
  found : service.artifactRegistry.metadata request.key = some metadata
  offset_le : request.offset ≤ metadata.size

theorem admitTransferRequest_leads (fields : NodeRequest.RequestArtifactInterchange)
    (machine : Machine) :
    Leads (admitTransferRequest fields) machine (fun admitted final => admitted.1.Spelled fields ∧
        admitted.1.Known admitted.2 final.service ∧ ∃ first, EnteredAt 2 machine first final)
      (fun final => Entered machine final.service) := by
  apply Leads.bind_guards (parseNodeScope_guards _) (.inl rfl)
  intro scope hscope
  apply Leads.bind_guards (authorizeInterchangeNode_guards scope) (.inl rfl)
  intro _ _
  apply Leads.bind (expireInterchangeState_leads machine)
  rintro _ middle ⟨first, hexpired⟩
  apply Leads.bind (nodeIsLive_leads scope fun final hquiet => ?_)
  · rintro live last ⟨hquiet, hclock⟩
    have hentered := hexpired.of_quiet hquiet hclock
    -- the checks that follow change nothing
    refine Leads.of_guards ?_ ?_ hentered.entered
    · exact Guards.bind (Guards.ensure _ _) fun _ => Guards.bind (parseId_guards _ _) fun _ =>
        Guards.bind (parseId_guards _ _) fun _ => Guards.bind service_guards fun _ =>
        Guards.bind (Guards.ensure _ _) fun _ => Guards.bind (Guards.orFail _ _) fun _ =>
        Guards.bind (Guards.ensure _ _) fun _ => Guards.bind (Guards.ensure _ _) fun _ =>
        Guards.bind (Guards.ensure _ _) fun _ => Guards.pure _
    · intro admitted hrun
      simp only [Handler.parseId, bind_eq_ok_iff, ensure_eq_ok_iff, orFail_eq_ok_iff, pure_apply,
        liftExcept_eq_ok_iff, EStateM.Result.ok.injEq] at hrun
      obtain ⟨_, _, ⟨-, rfl⟩, process, _, ⟨hprocess, rfl⟩, artifact, _, ⟨hartifact, rfl⟩, service,
        _, hservice, _, _, ⟨-, rfl⟩, metadata, _, ⟨hmetadata, rfl⟩, _, _, ⟨-, rfl⟩, _, _,
        ⟨-, rfl⟩, _, _, ⟨hoffset, rfl⟩, rfl, rfl⟩ := hrun
      cases hservice
      exact ⟨⟨names_of_parseNodeScope hscope, Id.tryNew_eq_ok_iff.mp hprocess,
        Id.tryNew_eq_ok_iff.mp hartifact⟩, ⟨hmetadata, hoffset⟩, first, hentered⟩
  · rw [hquiet.1]
    exact hexpired.entered

/-- What was checked before a transfer was created: no transfer serves the request
and no limit is reached. -/
structure Agreed (registry : InterchangeRegistry)
    (configuration : CoordinatorArtifactInterchangeConfiguration) (request : TransferRequest)
    (terms : TransferTerms) : Prop where
  destination : terms.destination = request.destination
  process : terms.process = request.process
  artifact : terms.artifact = request.artifact
  unserved : registry.find (·.serves request.destination request.process request.artifact
    terms.now) = none
  unobstructed : registry.admissionObstacle request configuration (terms.size - terms.offset)
    terms.now = none
  providing : (registry.providing request terms.sourceNode).length <
    configuration.maxProviderLeasesPerNode

/-- A request that leads to the creation of a transfer: lapsed transfers are ended
at the first reading of the clock, the terms are of the third. -/
structure CreationRequested (machine : Machine) (fields : NodeRequest.RequestArtifactInterchange)
    (first : ℕ) (request : TransferRequest) (terms : TransferTerms) : Prop where
  expiry : machine.environment.clock 0 = some first
  now : machine.environment.clock 2 = some terms.now
  spelled : request.Spelled fields
  known : (machine.service.expireInterchange first).artifactRegistry.artifacts.contains
    terms.transfer.key = true
  offset_le : terms.offset ≤ terms.size
  source : (machine.service.expireInterchange first).nodeRegistry.Advertises
    terms.sourceAdvertisement
  destination : (machine.service.expireInterchange first).nodeRegistry.Advertises
    terms.destinationAdvertisement
  transferId : ∃ token, machine.environment.tokens 0 = some token ∧
    terms.transferId = tokenTransferId token
  nonce : ∃ token, machine.environment.tokens 1 = some token ∧
    terms.nonce = "artifact_interchange_nonce" ++ "_" ++ token
  agreed : Agreed (machine.service.expireInterchange first).interchangeRegistry
    machine.service.artifactInterchangeConfiguration request terms

/-- The ways in which a request is answered. -/
inductive RequestAnswer (machine : Machine) (fields : NodeRequest.RequestArtifactInterchange) :
    CoordinatorResponse → CoordinatorService → Prop
  /-- The node has the artifact already. -/
  | present {first now : ℕ} {request : TransferRequest} {metadata : ArtifactMetadata}
      {transferId : String}
      (hfirst : machine.environment.clock 0 = some first)
      (hspelled : request.Spelled fields)
      (hmetadata : (machine.service.expireInterchange first).artifactRegistry.metadata
        request.key = some metadata)
      (hretained : request.destination.node ∈ metadata.retainingNodes) :
      RequestAnswer machine fields (.artifactTransferAuthorization none
          (some (localTransfer request metadata.size transferId now)))
        (machine.service.expireInterchange first)
  | renewed {first now : ℕ} {request : TransferRequest} {transferId : String}
      {transfer : InterchangeTransfer}
      (hfirst : machine.environment.clock 0 = some first)
      (hnow : machine.environment.clock 2 = some now)
      (hspelled : request.Spelled fields)
      (hfound : (machine.service.expireInterchange first).interchangeRegistry.find
        (·.serves request.destination request.process request.artifact now) =
          some (transferId, transfer)) :
      RequestAnswer machine fields (.artifactTransferAuthorization
          (some (transfer.renewed machine.service.artifactInterchangeConfiguration.lifetimes
            now).destinationAuthorization)
          (some (transfer.renewed machine.service.artifactInterchangeConfiguration.lifetimes
            now).record))
        { machine.service.expireInterchange first with
          interchangeRegistry := (machine.service.expireInterchange
            first).interchangeRegistry.store transferId
              (transfer.renewed machine.service.artifactInterchangeConfiguration.lifetimes now) }
  | created {first : ℕ} {request : TransferRequest} {terms : TransferTerms}
      (hcreation : CreationRequested machine fields first request terms) :
      RequestAnswer machine fields
        (.artifactTransferAuthorization (some terms.transfer.destinationAuthorization)
          (some terms.record))
        ((machine.service.expireInterchange first).createInterchange terms).2

/-- What a refused request leaves behind: lapsed transfers may have been ended, and
the registry may have been found full. -/
def RequestRefused (machine : Machine) (fields : NodeRequest.RequestArtifactInterchange)
    (service : CoordinatorService) : Prop :=
  Entered machine service ∨
    ∃ first request terms, CreationRequested machine fields first request terms ∧
      service = ((machine.service.expireInterchange first).createInterchange terms).2

/-! ### Negotiation -/

theorem run_generateOpaqueToken {label text : String}
    (hrun : Handler.generateOpaqueToken label machine = .ok text middle) :
    ∃ token, machine.environment.tokens 0 = some token ∧ text = label ++ "_" ++ token ∧
      ∀ index, middle.environment.tokens index = machine.environment.tokens (index + 1) := by
  simp only [Handler.generateOpaqueToken, bind_eq_ok_iff, orFail_eq_ok_iff, pure_apply,
    EStateM.Result.ok.injEq] at hrun
  obtain ⟨drawn, first, hdrawn, token, second, ⟨htoken, rfl⟩, rfl, rfl⟩ := hrun
  cases hdrawn
  exact ⟨token, htoken, rfl, fun _ => rfl⟩

theorem advertises_of_activeAdvertisement
    (hrun : activeAdvertisement scope machine = .ok advertisement middle) :
    machine.service.nodeRegistry.Advertises advertisement := by
  simp only [activeAdvertisement, bind_eq_ok_iff, orFail_eq_ok_iff] at hrun
  obtain ⟨time, first, htime, service, second, hservice, hadvertised, -⟩ := hrun
  cases hservice
  rw [(Moves.of_ok Quiet.currentEpochSeconds htime).1] at hadvertised
  exact ⟨scope, (Option.filter_eq_some_iff.mp hadvertised).1⟩

/-- What is known about terms that were agreed on. -/
structure Negotiated (request : TransferRequest) (metadata : ArtifactMetadata)
    (advertisement : IrohEndpointAdvertisement) (machine : Machine) (terms : TransferTerms) :
    Prop where
  size : terms.size = metadata.size
  offset : terms.offset = request.offset
  destination : terms.destinationAdvertisement = advertisement
  source : machine.service.nodeRegistry.Advertises terms.sourceAdvertisement
  transferId : ∃ token, machine.environment.tokens 0 = some token ∧
    terms.transferId = tokenTransferId token
  nonce : ∃ token, machine.environment.tokens 1 = some token ∧
    terms.nonce = "artifact_interchange_nonce" ++ "_" ++ token
  agreed : Agreed machine.service.interchangeRegistry
    machine.service.artifactInterchangeConfiguration request terms

theorem negotiated_of_run (hunserved : machine.service.interchangeRegistry.find
      (·.serves request.destination request.process request.artifact now) = none)
    (hrun : negotiateTransfer request metadata advertisement now machine = .ok terms last) :
    terms.now = now ∧ Negotiated request metadata advertisement machine terms := by
  simp only [negotiateTransfer, bind_eq_ok_iff, ensure_eq_ok_iff, orFail_eq_ok_iff, pure_apply,
    EStateM.Result.ok.injEq] at hrun
  obtain ⟨service, first, hservice, _, second, ⟨hobstacle, rfl⟩, source, third, hsource, node,
    fourth, ⟨-, rfl⟩, _, fifth, ⟨hproviding, rfl⟩, sourceAdvertisement, sixth, hadvertisement,
    transferId, seventh, htransferId, nonce, eighth, hnonce, secret, ninth, -, rfl, rfl⟩ := hrun
  cases hservice
  have hfound := Moves.of_ok (Quiet.findSource _ _) hsource
  have hpeer := Moves.of_ok (Quiet.activeAdvertisement _) hadvertisement
  have hadvertised := advertises_of_activeAdvertisement hadvertisement
  rw [hfound.1] at hadvertised
  obtain ⟨token, htoken, rfl, hshift⟩ := run_generateOpaqueToken htransferId
  obtain ⟨nonceToken, hnonceToken, rfl, -⟩ := run_generateOpaqueToken hnonce
  have hsixth : sixth.environment.tokens = machine.environment.tokens := hpeer.2.trans hfound.2
  rw [hsixth] at htoken
  rw [hshift, hsixth] at hnonceToken
  exact ⟨rfl, rfl, rfl, rfl, hadvertised, ⟨token, htoken, rfl⟩, ⟨nonceToken, hnonceToken, rfl⟩,
    rfl, rfl, rfl, hunserved, Option.isNone_iff_eq_none.mp hobstacle, hproviding⟩

/-- Creating a transfer is the last thing a request does. -/
theorem createTransfer_leads (terms : TransferTerms) (machine : Machine) :
    Leads (createTransfer terms) machine
      (fun response final => response = .artifactTransferAuthorization
          (some terms.transfer.destinationAuthorization) (some terms.record) ∧
        final.service = (machine.service.createInterchange terms).2)
      (fun final => final.service = (machine.service.createInterchange terms).2) := by
  apply Leads.bind_ok (service_apply machine)
  generalize machine.service.createInterchange terms = outcome
  obtain ⟨created, service⟩ := outcome
  have hmodified : Leads (Handler.modifyService fun _ => service) machine
      (fun _ final => final.service = service) (fun final => final.service = service) :=
    ⟨fun hrun => by cases hrun; rfl, fun hrun => by cases hrun⟩
  apply hmodified.bind
  intro _ middle hmiddle
  refine Leads.bind_guards (Guards.ensure _ _) hmiddle fun _ _ => ?_
  exact Leads.pure ⟨rfl, hmiddle⟩

/-- A request that finds no transfer to renew, in a service entered before. -/
theorem negotiate_leads (hfirst : machine.environment.clock 0 = some first)
    (hnow : machine.environment.clock 2 = some now)
    (hservice : middle.service = machine.service.expireInterchange first)
    (htokens : middle.environment.tokens = machine.environment.tokens)
    (hspelled : request.Spelled fields) (hknown : request.Known metadata middle.service)
    (hadvertised : middle.service.nodeRegistry.Advertises advertisement)
    (hunserved : middle.service.interchangeRegistry.find
      (·.serves request.destination request.process request.artifact now) = none) :
    Leads (do
        let terms ← negotiateTransfer request metadata advertisement now
        createTransfer terms) middle
      (fun response final => RequestAnswer machine fields response final.service)
      (fun final => RequestRefused machine fields final.service) := by
  have hsame := SameService.negotiateTransfer request metadata advertisement now
  have hnegotiated : Leads (negotiateTransfer request metadata advertisement now) middle
      (fun terms final => final.service = machine.service.expireInterchange first ∧
        CreationRequested machine fields first request terms)
      (fun final => RequestRefused machine fields final.service) := by
    refine ⟨fun {terms last} hrun => ?_, fun {failure last} hrun => ?_⟩
    · obtain ⟨rfl, hterms⟩ := negotiated_of_run hunserved hrun
      obtain ⟨hsize, hoffset, rfl, hsource, htransferId, hnonce, hagreed⟩ := hterms
      have hkey : terms.transfer.key = request.key := by
        rw [InterchangeTransfer.key, TransferRequest.key, ← hagreed.destination, ← hagreed.artifact]
        rfl
      refine ⟨(hsame.of_ok hrun : _ = _).trans hservice, ?_⟩
      rw [htokens] at htransferId hnonce
      rw [hservice] at hsource hagreed hadvertised hknown
      refine ⟨hfirst, hnow, hspelled, ?_, ?_, hsource, hadvertised, htransferId, hnonce,
        hagreed⟩
      · rw [hkey, Std.ExtTreeMap.contains_eq_isSome_getElem?]
        exact Option.isSome_iff_exists.mpr ⟨metadata, hknown.found⟩
      · rw [hsize, hoffset]
        exact hknown.offset_le
    · exact .inl (.inr ⟨first, hfirst, (hsame.of_error hrun : _ = _).trans hservice⟩)
  apply hnegotiated.bind
  rintro terms last ⟨hlast, hcreation⟩
  apply (createTransfer_leads terms last).mono
  · rintro response final ⟨rfl, hfinal⟩
    rw [hfinal, hlast]
    exact .created hcreation
  · intro final hfinal
    exact .inr ⟨first, request, terms, hcreation, hfinal.trans (by rw [hlast])⟩

theorem requestTransfer_leads (hentered : EnteredAt 3 machine first middle)
    (hspelled : request.Spelled fields) (hknown : request.Known metadata middle.service)
    (hnow : machine.environment.clock 2 = some now) :
    Leads (requestTransfer request metadata now) middle
      (fun response final => RequestAnswer machine fields response final.service)
      (fun final => RequestRefused machine fields final.service) := by
  have hadvertised : Leads (activeAdvertisement request.destination) middle
      (fun advertisement final => Quiet middle final ∧
        middle.service.nodeRegistry.Advertises advertisement)
      (fun final => RequestRefused machine fields final.service) := by
    refine ⟨fun hrun => ?_, fun hrun => ?_⟩
    · exact ⟨(Quiet.activeAdvertisement _).of_ok hrun, advertises_of_activeAdvertisement hrun⟩
    · have hquiet := (Quiet.activeAdvertisement _).of_error hrun
      exact .inl (.inr ⟨first, hentered.reading, hquiet.1.trans hentered.service⟩)
  apply hadvertised.bind
  rintro advertisement last ⟨hquiet, hpeer⟩
  rw [← hquiet.1] at hknown hpeer
  have hservice := hquiet.1.trans hentered.service
  apply Leads.bind_ok (service_apply last)
  cases hfind : last.service.interchangeRegistry.find
      (·.serves request.destination request.process request.artifact now) with
  | none =>
    simp only [InterchangeRegistry.renew, hfind]
    exact negotiate_leads hentered.reading hnow hservice (hquiet.2.trans hentered.tokens) hspelled
      hknown hpeer hfind
  | some found =>
    obtain ⟨transferId, transfer⟩ := found
    simp only [InterchangeRegistry.renew, hfind]
    refine ⟨fun {response final} hrun => ?_, fun hrun => by cases hrun⟩
    cases hrun
    rw [hservice] at hfind
    have hanswer := RequestAnswer.renewed hentered.reading hnow hspelled hfind
    simp only [hservice]
    exact hanswer

/-- Whatever a request is answered, it is answered in one of three ways. -/
theorem handleRequestArtifactInterchange_leads
    (fields : NodeRequest.RequestArtifactInterchange) (machine : Machine) :
    Leads (handleRequestArtifactInterchange fields) machine
      (fun response final => RequestAnswer machine fields response final.service)
      (fun final => RequestRefused machine fields final.service) := by
  apply Leads.bind ((admitTransferRequest_leads fields machine).mono (fun _ _ h => h)
    fun _ hentered => .inl hentered)
  rintro ⟨request, metadata⟩ middle ⟨hspelled, hknown, first, hentered⟩
  have hquiet : ∀ final, Quiet middle final → RequestRefused machine fields final.service :=
    fun final hquiet => .inl (.inr ⟨first, hentered.reading, hquiet.1.trans hentered.service⟩)
  apply Leads.bind (currentEpochSeconds_leads hquiet)
  rintro now last ⟨hnow, hlast, hclock⟩
  have hread := hentered.of_quiet hlast hclock
  rw [hentered.clock] at hnow
  by_cases hretained : request.destination.node ∈ metadata.retainingNodes
  · simp only [if_pos hretained]
    have hmetadata := hknown.found
    rw [hentered.service] at hmetadata
    have hdrawn : Leads (Handler.generateOpaqueToken "artifact_local") last
        (fun _ final => final.service = machine.service.expireInterchange first)
        (fun final => RequestRefused machine fields final.service) :=
      Leads.of_moves (SameService.generateOpaqueToken _)
        (fun _ final (hsame : final.service = last.service) => hsame.trans hread.service)
        fun final (hsame : final.service = last.service) =>
          .inl (.inr ⟨first, hread.reading, hsame.trans hread.service⟩)
    apply hdrawn.bind
    intro transferId final hfinal
    apply Leads.pure
    rw [hfinal]
    exact .present hentered.reading hspelled hmetadata hretained
  · simp only [if_neg hretained]
    rw [← hlast.1] at hknown
    exact requestTransfer_leads hread hspelled hknown hnow

/-! ## Every call -/

/-- The change leaves transfers, holds and the configuration alone, and the
advertisements valid. -/
structure Elsewhere (before after : CoordinatorService) : Prop where
  transfers : after.interchangeRegistry = before.interchangeRegistry
  holds : after.artifactRegistry.holds = before.artifactRegistry.holds
  configuration : after.artifactInterchangeConfiguration = before.artifactInterchangeConfiguration
  advertises : before.nodeRegistry.AdvertisesValid → after.nodeRegistry.AdvertisesValid

@[refl]
theorem Elsewhere.refl (service : CoordinatorService) : Elsewhere service service :=
  ⟨rfl, rfl, rfl, id⟩

def MovesElsewhere (before after : Machine) : Prop := Elsewhere before.service after.service

instance : IsPreorder Machine MovesElsewhere where
  refl machine := .refl machine.service
  trans _ _ _ hfirst hsecond :=
    ⟨hsecond.transfers.trans hfirst.transfers, hsecond.holds.trans hfirst.holds,
      hsecond.configuration.trans hfirst.configuration, hsecond.advertises ∘ hfirst.advertises⟩

theorem MovesElsewhere.of_sameService {α : Type} {program : Handler α}
    (hmoves : Moves SameService program) : Moves MovesElsewhere program :=
  hmoves.mono fun _ after (hsame : after.service = _) => by rw [MovesElsewhere, hsame]

/-- What the coordinator is asked to do about transfers.  Cancellations and
aborts of processes, the deadlines of a drain and the release of a node appear by
what they do to transfers and holds. -/
inductive InterchangeCall where
  | request (fields : NodeRequest.RequestArtifactInterchange)
  | report (request : NodeRequest.ReportArtifactInterchange)
  | pollProvider (fields : NodeFields)
  | pollReceiver (fields : NodeFields)
  | acknowledge (request : NodeRequest.AcknowledgeArtifactAssignment)
  | advertise (request : NodeRequest.ReportIrohEndpointAdvertisement)
  | configure (configuration : CoordinatorArtifactInterchangeConfiguration)
  | expire
  | cancelProcess (key : ProcessControlKey) (now : ℕ)
  | revokeNode (fields : NodeFields) (actorUser : String)
  | softDrain (scope : NodeScopeKey)
  | hardDrain (scope : NodeScopeKey) (now : ℕ)
  | releaseNode (scope : NodeScopeKey)

namespace InterchangeCall

/-- The service after the call. -/
def perform (call : InterchangeCall) (machine : Machine) : CoordinatorService :=
  match call with
  | .request fields => (finalState (handleRequestArtifactInterchange fields machine)).service
  | .report message => (finalState (handleReportArtifactInterchange message machine)).service
  | .pollProvider fields =>
    (finalState (handlePollArtifactProviderAssignment fields machine)).service
  | .pollReceiver fields =>
    (finalState (handlePollArtifactReceiverAssignment fields machine)).service
  | .acknowledge message =>
    (finalState (handleAcknowledgeArtifactAssignment message machine)).service
  | .advertise message =>
    (finalState (handleReportIrohEndpointAdvertisement message machine)).service
  | .configure configuration =>
    (finalState (configureArtifactInterchange configuration machine)).service
  | .expire => (finalState (expireInterchangeState machine)).service
  | .cancelProcess key now => machine.service.cancelArtifactInterchanges key now
  | .revokeNode fields actorUser =>
    (finalState (handleRevokeNodeCredential fields actorUser machine)).service
  | .softDrain scope => machine.service.applySoftDrainPolicy scope
  | .hardDrain scope now => machine.service.cancelTransfersForHardDrain scope now
  | .releaseNode scope => machine.service.releaseNode scope

end InterchangeCall

/-- The outcomes of calls.  Lapsed transfers may be ended first; what follows is a
change elsewhere or one of the ways in which transfers and holds change. -/
inductive CallOutcome (machine : Machine) : InterchangeCall → CoordinatorService → Prop
  | elsewhere {call : InterchangeCall} {entered after : CoordinatorService}
      (hentered : Entered machine entered) (helsewhere : Elsewhere entered after) :
      CallOutcome machine call after
  | reassigned {call : InterchangeCall} {entered : CoordinatorService}
      {registry : InterchangeRegistry} (hentered : Entered machine entered)
      (hreassigns : entered.interchangeRegistry.Reassigns registry) :
      CallOutcome machine call { entered with interchangeRegistry := registry }
  | renewed {fields : NodeRequest.RequestArtifactInterchange} {entered : CoordinatorService}
      {request : TransferRequest} {now : ℕ} {transferId : String} {transfer : InterchangeTransfer}
      (hentered : Entered machine entered)
      (hfound : entered.interchangeRegistry.find
        (·.serves request.destination request.process request.artifact now) =
          some (transferId, transfer)) (lifetimes : TransferLifetimes) :
      CallOutcome machine (.request fields) { entered with
        interchangeRegistry :=
          entered.interchangeRegistry.store transferId (transfer.renewed lifetimes now) }
  | created {fields : NodeRequest.RequestArtifactInterchange} {first : ℕ}
      {request : TransferRequest} {terms : TransferTerms}
      (hcreation : CreationRequested machine fields first request terms) :
      CallOutcome machine (.request fields)
        ((machine.service.expireInterchange first).createInterchange terms).2
  | reported {message : NodeRequest.ReportArtifactInterchange} {entered : CoordinatorService}
      {scope : NodeScopeKey} (hentered : Entered machine entered)
      (hnames : message.toNodeFields.Names scope) (now : ℕ) :
      CallOutcome machine (.report message)
        (entered.reportInterchange scope message.transferId (transferReport message) now).2
  | configured (configuration : CoordinatorArtifactInterchangeConfiguration) :
      CallOutcome machine (.configure configuration) { machine.service with
        artifactInterchangeConfiguration := configuration
        nodeRegistry := machine.service.nodeRegistry.clearAdvertisements }
  | cancelled (key : ProcessControlKey) (now : ℕ) :
      CallOutcome machine (.cancelProcess key now)
        (machine.service.cancelArtifactInterchanges key now)
  | softDrained (scope : NodeScopeKey) :
      CallOutcome machine (.softDrain scope) (machine.service.applySoftDrainPolicy scope)
  | hardDrained (scope : NodeScopeKey) (now : ℕ) :
      CallOutcome machine (.hardDrain scope now)
        (machine.service.cancelTransfersForHardDrain scope now)
  | revoked {fields : NodeFields} {actorUser : String} {scope : NodeScopeKey}
      {after : CoordinatorService} (hnames : fields.Names scope) (now : ℕ)
      (hfailed : Elsewhere { machine.service with
        interchangeRegistry := machine.service.interchangeRegistry.failNode scope now } after) :
      CallOutcome machine (.revokeNode fields actorUser) after

section Outcomes

variable {call : InterchangeCall} {service after : CoordinatorService}

theorem Entered.outcome (hentered : Entered machine service) : CallOutcome machine call service :=
  .elsewhere hentered (.refl service)

/-- However the program ends, it leaves an outcome of the call. -/
abbrev LeavesOutcome (machine : Machine) (call : InterchangeCall) {α : Type} (program : Handler α)
    (middle : Machine) : Prop :=
  Leads program middle (fun _ final => CallOutcome machine call final.service)
    (fun final => CallOutcome machine call final.service)

theorem outcome_handleRequestArtifactInterchange
    (fields : NodeRequest.RequestArtifactInterchange) (machine : Machine) :
    LeavesOutcome machine (.request fields) (handleRequestArtifactInterchange fields) machine := by
  apply (handleRequestArtifactInterchange_leads fields machine).mono
  · intro response final hanswer
    generalize final.service = after at hanswer
    cases hanswer with
    | present hfirst => exact Entered.outcome (.inr ⟨_, hfirst, rfl⟩)
    | renewed hfirst hnow hspelled hfound => exact .renewed (.inr ⟨_, hfirst, rfl⟩) hfound _
    | created hcreation => exact .created hcreation
  · rintro final (hentered | ⟨first, request, terms, hcreation, hfinal⟩)
    · exact hentered.outcome
    · rw [hfinal]
      exact .created hcreation

/-- A handler that enters and then works on the transfers that are left. -/
theorem outcome_enterInterchange {fields : NodeFields}
    {next : NodeScopeKey × ℕ → Handler CoordinatorResponse}
    (hnext : ∀ entered middle, fields.Names entered.1 → Entered machine middle.service →
      CallOutcome machine call (finalState (next entered middle)).service) :
    CallOutcome machine call (finalState ((enterInterchange fields >>= next) machine)).service := by
  have hleads := enterInterchange_leads fields machine
  cases hrun : enterInterchange fields machine with
  | error failure final =>
    rw [bind_of_error hrun]
    exact (hleads.of_error hrun).outcome
  | ok entered middle =>
    rw [bind_of_ok hrun]
    obtain ⟨hnames, hentered⟩ := hleads.of_ok hrun
    exact hnext entered middle hnames hentered

/-- What is registered has passed its checks. -/
theorem outcome_handleReportIrohEndpointAdvertisement
    (message : NodeRequest.ReportIrohEndpointAdvertisement) (machine : Machine) :
    LeavesOutcome machine (.advertise message) (handleReportIrohEndpointAdvertisement message)
      machine := by
  have hstart : Entered machine machine.service := .inl rfl
  refine Leads.bind_guards (parseNodeScope_guards _) hstart.outcome fun scope _ => ?_
  refine Leads.bind_guards (authorizeInterchangeNode_guards scope) hstart.outcome fun _ _ => ?_
  apply Leads.bind ((expireInterchangeState_leads machine).mono (fun _ _ hentered => hentered)
    fun _ hentered => hentered.outcome)
  rintro _ middle ⟨first, hmiddle⟩
  have hentered := hmiddle.entered
  refine Leads.bind_guards (Guards.liftExcept _ _) hentered.outcome fun _ hvalid => ?_
  refine Leads.bind_guards (Guards.ensure _ _) hentered.outcome fun _ _ => ?_
  refine Leads.bind_ok (service_apply middle) ?_
  refine Leads.bind_guards (Guards.ensure _ _) hentered.outcome fun _ _ => ?_
  have hquiet : ∀ final, Quiet middle final → Entered machine final.service := by
    intro final hquiet
    rw [hquiet.1]
    exact hentered
  apply Leads.bind (currentEpochSeconds_leads fun final hfinal => (hquiet final hfinal).outcome)
  rintro now last ⟨-, hlast, -⟩
  have hsame := hquiet last hlast
  refine Leads.bind_guards (Guards.ensure _ _) hsame.outcome fun _ _ => ?_
  refine Leads.bind_guards (Guards.ensure _ _) hsame.outcome fun _ _ => ?_
  refine Leads.bind_guards (Guards.liftExcept _ _) hsame.outcome fun registry hregister => ?_
  have hregistered := (liftExcept_eq_ok_iff.mp hregister).1
  rw [← hlast.1] at hregistered
  have hregistry : NodeRegistry.perform (.register scope message.advertisement)
      last.service.nodeRegistry = registry := by
    rw [NodeRegistry.perform, hregistered]
  have hafter : CallOutcome machine (.advertise message)
      { last.service with nodeRegistry := registry } := by
    refine .elsewhere hsame ⟨rfl, rfl, rfl, fun hbefore => ?_⟩
    rw [← hregistry]
    refine hbefore.perform _ fun other advertisement hoperation => ?_
    obtain ⟨-, rfl⟩ := EndpointOperation.register.inj hoperation
    exact (liftExcept_eq_ok_iff.mp hvalid).1
  refine ⟨fun hrun => ?_, fun hrun => by cases hrun⟩
  cases hrun
  exact hafter

/-- A revocation that gets as far as the transfers fails those of the node. -/
theorem outcome_handleRevokeNodeCredential (fields : NodeFields) (actorUser : String)
    (machine : Machine) :
    LeavesOutcome machine (.revokeNode fields actorUser)
      (handleRevokeNodeCredential fields actorUser) machine := by
  -- a part of the revocation that does not concern the transfers
  have hpart : ∀ {α : Type} {program : Handler α} {middle : Machine},
      Moves MovesElsewhere program → MovesElsewhere machine middle →
        Leads program middle (fun _ final => MovesElsewhere machine final)
          (fun final => CallOutcome machine (.revokeNode fields actorUser) final.service) := by
    intro α program middle hmoves hmiddle
    exact Leads.of_moves hmoves (fun _ _ hmoved => trans_of MovesElsewhere hmiddle hmoved)
      fun _ hmoved => .elsewhere (.inl rfl) (trans_of MovesElsewhere hmiddle hmoved)
  refine Leads.bind_guards (newRevocation_guards _ _) (Entered.outcome (.inl rfl)) ?_
  rintro ⟨scope, actor⟩ hscope
  refine (hpart service_guards.moves (refl_of _ machine)).bind fun _ first hfirst => ?_
  refine (hpart (Moves.liftExcept _ _) hfirst).bind fun _ second hsecond => ?_
  refine (hpart (fun _ => ⟨rfl, rfl, rfl, id⟩) hsecond).bind fun _ third hthird => ?_
  refine (hpart (fun _ => ⟨rfl, rfl, rfl, fun hvalid => ?_⟩) hthird).bind
    fun _ fourth hfourth => ?_
  · exact NodeRegistry.AdvertisesValid.perform hvalid (.removeNode scope) nofun
  refine (hpart (.of_sameService (.of_quiet Quiet.currentEpochSeconds)) hfourth).bind
    fun now fifth hfifth => ?_
  have hrest : ∀ final : Machine, Elsewhere { fifth.service with
      interchangeRegistry := fifth.service.interchangeRegistry.failNode scope now } final.service →
        CallOutcome machine (.revokeNode fields actorUser) final.service := by
    intro final hfinal
    refine .revoked (newRevocation_eq_ok hscope) now ⟨?_, ?_, ?_, ?_⟩
    · exact hfinal.transfers.trans (congrArg (·.failNode scope now) hfifth.transfers)
    · exact hfinal.holds.trans hfifth.holds
    · exact hfinal.configuration.trans hfifth.configuration
    · exact hfinal.advertises ∘ hfifth.advertises
  refine Leads.bind_ok rfl (Leads.of_moves (?_ : Moves MovesElsewhere _) (fun _ => hrest) hrest)
  exact Moves.bind (fun _ => ⟨rfl, rfl, rfl, id⟩) fun _ =>
    Moves.bind (fun _ => ⟨rfl, rfl, rfl, id⟩) fun _ =>
    Moves.bind (fun _ => ⟨rfl, rfl, rfl, id⟩) fun _ =>
    Moves.bind (.of_sameService .persistDurableState) fun _ => Moves.pure _

theorem outcome_configureArtifactInterchange
    (configuration : CoordinatorArtifactInterchangeConfiguration) (machine : Machine) :
    LeavesOutcome machine (.configure configuration) (configureArtifactInterchange configuration)
      machine := by
  have hstart : CallOutcome machine (.configure configuration) machine.service :=
    Entered.outcome (.inl rfl)
  refine Leads.bind_guards (Guards.liftExcept _ _) hstart fun _ _ => ?_
  refine Leads.bind_ok (service_apply machine) ?_
  refine Leads.bind_guards (Guards.ensure _ _) hstart fun _ _ => ?_
  refine ⟨fun hrun => ?_, fun hrun => by cases hrun⟩
  cases hrun
  exact .configured configuration

/-- Every call has one of the outcomes. -/
theorem InterchangeCall.outcome_perform (call : InterchangeCall) (machine : Machine) :
    CallOutcome machine call (call.perform machine) := by
  cases call with
  | request fields => exact (outcome_handleRequestArtifactInterchange fields machine).finalState
  | report message =>
    refine outcome_enterInterchange fun entered middle hnames hmiddle => ?_
    exact (SameService.answer _ _ _ _).symm ▸ .reported hmiddle hnames entered.2
  | pollProvider fields =>
    refine outcome_enterInterchange fun entered middle _ hmiddle => ?_
    exact .reassigned hmiddle (.pollProviderAssignment _ entered.1 entered.2 _)
  | pollReceiver fields =>
    refine outcome_enterInterchange fun entered middle _ hmiddle => ?_
    exact .reassigned hmiddle (.pollReceiverAssignment _ entered.1 entered.2 _)
  | acknowledge message =>
    refine outcome_enterInterchange fun entered middle _ hmiddle => ?_
    exact (SameService.answer _ _ _ _).symm ▸
      .reassigned hmiddle (.acknowledgeAssignment _ entered.1 _ _ entered.2)
  | advertise message =>
    exact (outcome_handleReportIrohEndpointAdvertisement message machine).finalState
  | configure configuration =>
    exact (outcome_configureArtifactInterchange configuration machine).finalState
  | expire =>
    have hleads : LeavesOutcome machine .expire expireInterchangeState machine :=
      (expireInterchangeState_leads machine).mono
        (fun _ _ ⟨_, hentered⟩ => hentered.entered.outcome) fun _ hentered => hentered.outcome
    exact hleads.finalState
  | cancelProcess key now => exact .cancelled key now
  | revokeNode fields actorUser =>
    exact (outcome_handleRevokeNodeCredential fields actorUser machine).finalState
  | softDrain scope => exact .softDrained scope
  | hardDrain scope now => exact .hardDrained scope now
  | releaseNode scope =>
    refine .elsewhere (.inl rfl) ⟨rfl, rfl, rfl, fun hvalid => ?_⟩
    exact NodeRegistry.AdvertisesValid.perform hvalid (.markReleased scope) nofun

/-! ## The transfers after a call -/

/-- What a call does to the transfers.  Lapsed transfers may be ended first; then
the rest changes without additions, or one report is taken, or one transfer is
created. -/
inductive TransferEffect (machine : Machine) : InterchangeCall → InterchangeRegistry → Prop
  | evolved {call : InterchangeCall} {entered : CoordinatorService} {after : InterchangeRegistry}
      (hentered : Entered machine entered)
      (hevolves : entered.interchangeRegistry.Evolves after) :
      TransferEffect machine call after
  | reported {message : NodeRequest.ReportArtifactInterchange} {entered : CoordinatorService}
      (hentered : Entered machine entered) (scope : NodeScopeKey) (now : ℕ) :
      TransferEffect machine (.report message)
        (entered.interchangeRegistry.reportProgress entered.artifactRegistry scope
          message.transferId (transferReport message)
          entered.artifactInterchangeConfiguration.lifetimes now).2.1
  | created {fields : NodeRequest.RequestArtifactInterchange} {first : ℕ}
      {request : TransferRequest} {terms : TransferTerms}
      (hcreation : CreationRequested machine fields first request terms) :
      TransferEffect machine (.request fields)
        ((machine.service.expireInterchange first).interchangeRegistry.create terms.transferId
          terms.transfer maxInterchangeTransfers).2

/-- What a call does to the transfers, under the configuration there is. -/
structure CallEffect (machine : Machine) (call : InterchangeCall) (after : CoordinatorService) :
    Prop where
  configuration : after.artifactInterchangeConfiguration =
    machine.service.artifactInterchangeConfiguration
  transfers : TransferEffect machine call after.interchangeRegistry

section

variable (hentered : Entered machine service)
include hentered

theorem Entered.configuration :
    service.artifactInterchangeConfiguration =
      machine.service.artifactInterchangeConfiguration := by
  obtain rfl | ⟨first, -, rfl⟩ := hentered <;> rfl

theorem Entered.follows :
    machine.service.interchangeRegistry.Follows service.interchangeRegistry := by
  obtain rfl | ⟨first, -, rfl⟩ := hentered
  · exact (InterchangeRegistry.Evolves.refl _).toFollows
  · exact InterchangeRegistry.Follows.expire _ _ _ _ _

theorem Entered.carries : machine.service.interchangeRegistry.Carries service.interchangeRegistry :=
  hentered.follows.carries

end

/-- The call does not change the configuration. -/
def InterchangeCall.KeepsConfiguration : InterchangeCall → Prop
  | .configure _ => False
  | _ => True

/-- A creation that finds the registry full still makes room in it. -/
theorem createInterchange_eq (service : CoordinatorService) (terms : TransferTerms) :
    let after := (service.createInterchange terms).2
    after.artifactInterchangeConfiguration = service.artifactInterchangeConfiguration ∧
      after.nodeRegistry = service.nodeRegistry ∧
      after.interchangeRegistry = (service.interchangeRegistry.create terms.transferId
        terms.transfer maxInterchangeTransfers).2 := by
  unfold CoordinatorService.createInterchange
  split <;> rename_i hcreate <;> rw [hcreate] <;> exact ⟨rfl, rfl, rfl⟩

theorem CallOutcome.effect (houtcome : CallOutcome machine call after)
    (hconfiguration : call.KeepsConfiguration) : CallEffect machine call after := by
  cases houtcome with
  | elsewhere hentered helsewhere =>
    refine ⟨helsewhere.configuration.trans hentered.configuration, ?_⟩
    rw [helsewhere.transfers]
    exact .evolved hentered (.refl _)
  | reassigned hentered hreassigns =>
    exact ⟨hentered.configuration, .evolved hentered hreassigns.evolves⟩
  | renewed hentered hfound lifetimes =>
    refine ⟨hentered.configuration, .evolved hentered ?_⟩
    exact .store (InterchangeRegistry.lookup_of_find hfound).1
      (InterchangeTransfer.evolves_renewed _ _ _)
      (InterchangeTransfer.meteredBodyBytes_renewed _ _ _)
  | created hcreation =>
    obtain ⟨hconfigured, -, hregistry⟩ := createInterchange_eq _ _
    exact ⟨hconfigured, hregistry ▸ .created hcreation⟩
  | reported hentered hnames now => exact ⟨hentered.configuration, .reported hentered _ now⟩
  | configured => exact hconfiguration.elim
  | cancelled key now => exact ⟨rfl, .evolved (.inl rfl) (.cancelProcess _ _ _ _ now)⟩
  | softDrained scope => exact ⟨rfl, .evolved (.inl rfl) (.refl _)⟩
  | hardDrained scope now => exact ⟨rfl, .evolved (.inl rfl) (.cancelNodeForHardDrain _ scope now)⟩
  | revoked hnames now hfailed =>
    refine ⟨hfailed.configuration, ?_⟩
    rw [hfailed.transfers]
    exact .evolved (.inl rfl) (.failNode _ _ _)

/-- What a call can do. -/
theorem InterchangeCall.effect_perform (call : InterchangeCall)
    (hconfiguration : call.KeepsConfiguration) (machine : Machine) :
    CallEffect machine call (call.perform machine) :=
  (call.outcome_perform machine).effect hconfiguration

/-! ## Admitted terms -/

theorem Entered.advertises (hentered : Entered machine service)
    (hvalid : machine.service.nodeRegistry.AdvertisesValid) :
    service.nodeRegistry.AdvertisesValid := by
  obtain rfl | ⟨first, -, rfl⟩ := hentered
  · exact hvalid
  · exact hvalid.perform (.expire first machine.service.nodeStaleAfterSeconds) nofun

/-- Advertisements that are stored after a call are valid if those before it were. -/
theorem CallOutcome.advertises (houtcome : CallOutcome machine call after)
    (hvalid : machine.service.nodeRegistry.AdvertisesValid) :
    after.nodeRegistry.AdvertisesValid := by
  cases houtcome with
  | elsewhere hentered helsewhere => exact helsewhere.advertises (hentered.advertises hvalid)
  | reassigned hentered | renewed hentered | reported hentered => exact hentered.advertises hvalid
  | created hcreation =>
    rw [(createInterchange_eq _ _).2.1]
    exact Entered.advertises (.inr ⟨_, hcreation.expiry, rfl⟩) hvalid
  | configured => exact hvalid.perform .clear nofun
  | cancelled | softDrained | hardDrained => exact hvalid
  | revoked hnames now hfailed => exact hfailed.advertises hvalid

end Outcomes

namespace CoordinatorService

/-- The service after calls, each in its own environment. -/
def performCalls (service : CoordinatorService) :
    List (InterchangeCall × Environment) → CoordinatorService
  | [] => service
  | (call, environment) :: calls => (call.perform ⟨service, environment⟩).performCalls calls

theorem advertisesValid_performCalls {service : CoordinatorService}
    (hvalid : service.nodeRegistry.AdvertisesValid)
    (calls : List (InterchangeCall × Environment)) :
    (service.performCalls calls).nodeRegistry.AdvertisesValid := by
  induction calls generalizing service with
  | nil => exact hvalid
  | cons step calls ih => exact ih ((step.1.outcome_perform ⟨service, step.2⟩).advertises hvalid)

end CoordinatorService

/-- Whatever was called before, a transfer is created on admitted terms. -/
theorem CreationRequested.admitted {calls : List (InterchangeCall × Environment)}
    (hrun : machine.service = CoordinatorService.performCalls {} calls)
    (hcreation : CreationRequested machine fields first request terms) :
    ∃ admitted : AdmittedTerms, admitted.toTransferTerms = terms := by
  have hvalid : machine.service.nodeRegistry.AdvertisesValid := by
    rw [hrun]
    refine CoordinatorService.advertisesValid_performCalls ?_ calls
    rintro advertisement ⟨scope, hadvertised⟩
    simp [NodeRegistry.advertisement] at hadvertised
  have hentered := Entered.advertises (.inr ⟨_, hcreation.expiry, rfl⟩) hvalid
  obtain ⟨token, htoken, hid⟩ := hcreation.transferId
  obtain ⟨nonce, hnonce, htext⟩ := hcreation.nonce
  exact ⟨{ toTransferTerms := terms
           offset_le := hcreation.offset_le
           source_advertised := hentered _ hcreation.source
           destination_advertised := hentered _ hcreation.destination
           transferId_token := ⟨token, machine.environment.tokens_size _ _ htoken, hid⟩
           nonce_token := ⟨nonce, machine.environment.tokens_size _ _ hnonce, htext⟩ }, rfl⟩

/-- The token of a transfer to be created is not that of a stored one. -/
def Environment.TokenUnused (environment : Environment) (registry : InterchangeRegistry) : Prop :=
  ∀ token, environment.tokens 0 = some token → registry.transfers[tokenTransferId token]? = none

/-- The id of a created transfer was not in use before the call. -/
theorem CreationRequested.absent (hcreation : CreationRequested machine fields first request terms)
    (hunused : machine.environment.TokenUnused machine.service.interchangeRegistry) :
    machine.service.interchangeRegistry.transfers[terms.transferId]? = none := by
  obtain ⟨token, htoken, hid⟩ := hcreation.transferId
  rw [hid]
  exact hunused token htoken

/-! ## Runs -/

/-- A step of the coordinator as far as transfers are concerned: a call of the
interchange, or anything else, which leaves the transfers and their configuration
alone. -/
inductive CoordinatorStep where
  | interchange (call : InterchangeCall) (environment : Environment)
  | elsewhere (service : CoordinatorService)

def CoordinatorStep.next (service : CoordinatorService) : CoordinatorStep → CoordinatorService
  | .interchange call environment => call.perform ⟨service, environment⟩
  | .elsewhere other => { other with
      interchangeRegistry := service.interchangeRegistry
      artifactInterchangeConfiguration := service.artifactInterchangeConfiguration }

/-- A change of the configuration leaves the transfers alone. -/
theorem interchangeRegistry_configure
    (configuration : CoordinatorArtifactInterchangeConfiguration) (machine : Machine) :
    ((InterchangeCall.configure configuration).perform machine).interchangeRegistry =
      machine.service.interchangeRegistry :=
  (Moves.after fun _ => Moves.after fun _ =>
    Moves.after fun _ => fun _ => rfl : Moves (fun before after : Machine =>
        after.service.interchangeRegistry = before.service.interchangeRegistry) _) machine

end Clusterflux
