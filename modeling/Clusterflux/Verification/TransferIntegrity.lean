import Clusterflux.Foundation.OrderedMaps
import Clusterflux.Foundation.Runs
import Clusterflux.Transfer.Receiver

/-!
# Integrity of downloads

Whatever a partial file holds, whatever a provider sends, and wherever a download is cut
and resumed: a file appears at a destination only with the size and the digest of a
lease, and a file that is there is never replaced.  A complete file with a wrong digest
is removed when it is verified, and the next download starts from nothing.
-/

namespace Clusterflux.Transfer

open LabelledRuns LengthFraming StatefulProgram

/-! ## Destinations -/

/-- A regular file with the bytes the lease is for. -/
def Genuine [Primitives] (lease : ArtifactTransferLease) (entry : Entry Bytes) : Prop :=
  ∃ content, entry = .regular content ∧ content.length = lease.sizeBytes ∧
    Digest.sha256 content = lease.digest

/-- What a download under the lease may do to the destinations. -/
structure Sound [Primitives] (lease : ArtifactTransferLease) (destination : String)
    (before after : Disk) : Prop where
  others : ∀ path, path ≠ destination → after.destinations[path]? = before.destinations[path]?
  kept : ∀ entry, before.destinations[destination]? = some entry →
    after.destinations[destination]? = some entry
  installed : before.destinations[destination]? = none →
    ∀ entry, after.destinations[destination]? = some entry → Genuine lease entry

section Destinations

variable [Primitives] {lease : ArtifactTransferLease} {destination : String} {before after : Disk}

theorem sound_of_destinations_eq (hsame : after.destinations = before.destinations) :
    Sound lease destination before after := by
  constructor
  case others => exact fun path _ => by rw [hsame]
  case kept => exact fun entry hentry => by rw [hsame, hentry]
  case installed =>
    intro hfree entry hentry
    rw [hsame, hfree] at hentry
    cases hentry

instance : IsPreorder Disk (Sound lease destination) where
  refl _ := sound_of_destinations_eq rfl
  trans before middle after hfirst hsecond := by
    constructor
    case others =>
      intro path hpath
      exact (hsecond.others path hpath).trans (hfirst.others path hpath)
    case kept => exact fun entry hentry => hsecond.kept entry (hfirst.kept entry hentry)
    case installed =>
      intro hfree entry hentry
      cases hmiddle : middle.destinations[destination]? with
      | none => exact hsecond.installed hmiddle entry hentry
      | some found =>
        have hkept := hsecond.kept found hmiddle
        rw [hentry] at hkept
        cases hkept
        exact hfirst.installed hfree entry hmiddle

end Destinations

def SameDestinations (before after : Disk) : Prop := after.destinations = before.destinations

instance : IsPreorder Disk SameDestinations where
  refl _ := rfl
  trans _ _ _ hfirst hsecond := hsecond.trans hfirst

/-! ## Partial files -/

/-- The session has hashed what the file holds. -/
structure Attached (disk : Disk) (session : PartialSession) : Prop where
  stored : disk.partials[session.stem]? = some (.regular session.hasher)
  counted : session.receivedBytes = session.hasher.length

/-- The partial file is there with these bytes, or was created empty. -/
inductive Opened (stem : String) (disk : Disk) : Bytes → Disk → Prop
  | existing {content : Bytes} (hlookup : disk.partials[stem]? = some (.regular content)) :
      Opened stem disk content disk
  | created (hlookup : disk.partials[stem]? = none) :
      Opened stem disk [] { disk with partials := disk.partials.insert stem (.regular []) }

theorem openPartialFile_eq_ok_iff {stem : String} {disk after : Disk} {content : Bytes} :
    openPartialFile stem disk = .ok content after ↔ Opened stem disk content after := by
  rw [openPartialFile, bind_of_ok (get_apply _)]
  constructor
  · intro hopened
    cases hlookup : disk.partials[stem]? with
    | none =>
      rw [hlookup] at hopened
      cases hopened
      exact .created hlookup
    | some entry =>
      rw [hlookup] at hopened
      cases entry with
      | directory => cases hopened
      | regular content =>
        cases hopened
        exact .existing hlookup
  · rintro (hlookup | hlookup) <;> rw [hlookup] <;> rfl

theorem Opened.lookup {stem : String} {disk after : Disk} {content : Bytes}
    (hopened : Opened stem disk content after) :
    after.partials[stem]? = some (.regular content) := by
  cases hopened with
  | existing hlookup => exact hlookup
  | created => exact Std.ExtTreeMap.getElem?_insert_self

/-- The metadata a session persists. -/
def PartialSession.written (session : PartialSession) (now : ℕ) : PartialMetadata :=
  { session.metadata with
    receivedContiguousBytes := session.receivedBytes
    lastUpdate := now }

/-- The disk with metadata persisted. -/
def Disk.withMetadata (disk : Disk) (stem : String) (metadata : PartialMetadata) : Disk :=
  { disk with metadata := disk.metadata.insert stem (.regular (some metadata)) }

theorem persistMetadata_apply (session : PartialSession) (now : ℕ) (disk : Disk) :
    session.persistMetadata now disk = .ok { session with metadata := session.written now }
      (disk.withMetadata session.stem (session.written now)) := rfl

section Preparation

variable [Primitives] {config : PartialStoreConfig} {now : ℕ}
  {authorization : ArtifactTransferAuthorization} {reading : Except ReceiveFault Unit}
  {before after : Disk} {session : PartialSession}

/-- How a session comes about. -/
structure Prepared (config : PartialStoreConfig) (authorization : ArtifactTransferAuthorization)
    (now : ℕ) (before : Disk) (session : PartialSession) (after : Disk) : Prop where
  capacity : ensureCapacity config before (partialStem authorization)
    authorization.lease.sizeBytes = .ok ()
  stem : session.stem = partialStem authorization
  adopted : ∃ metadata, adoptMetadata before session.stem (expectedMetadata authorization now) =
    .ok metadata ∧ session.metadata = { metadata with
      receivedContiguousBytes := session.receivedBytes
      lastUpdate := now }
  fits : session.hasher.length ≤ authorization.lease.sizeBytes
  counted : session.receivedBytes = session.hasher.length
  disk : ∃ middle, Opened session.stem before session.hasher middle ∧
    after = middle.withMetadata session.stem session.metadata

theorem prepared_of_prepare
    (hprepare : prepare config authorization now reading before = .ok session after) :
    Prepared config authorization now before session after := by
  rw [prepare, bind_of_ok (get_apply _)] at hprepare
  obtain ⟨_, hcapacity, hprepare⟩ := ok_after hprepare
  obtain ⟨metadata, hadopted, hprepare⟩ := ok_after hprepare
  obtain ⟨content, middle, hopened, hprepare⟩ := bind_eq_ok_iff.mp hprepare
  obtain ⟨_, hfits, hprepare⟩ := ok_after hprepare
  obtain ⟨_, -, hprepare⟩ := ok_after hprepare
  rw [persistMetadata_apply] at hprepare
  cases hprepare
  constructor
  case capacity => exact (liftExcept_eq_ok_iff.mp hcapacity).1
  case stem => rfl
  case adopted => exact ⟨metadata, (liftExcept_eq_ok_iff.mp hadopted).1, rfl⟩
  case fits => exact (ensure_eq_ok_iff.mp hfits).1
  case counted => rfl
  case disk => exact ⟨_, openPartialFile_eq_ok_iff.mp hopened, rfl⟩

theorem Prepared.attached (hprepared : Prepared config authorization now before session after) :
    Attached after session := by
  obtain ⟨middle, hopened, rfl⟩ := hprepared.disk
  exact ⟨hopened.lookup, hprepared.counted⟩

/-- Without a partial file a session starts from nothing. -/
theorem Prepared.receivedBytes_of_absent
    (hprepared : Prepared config authorization now before session after)
    (habsent : before.partials[partialStem authorization]? = none) :
    session.receivedBytes = 0 ∧ session.hasher = [] := by
  obtain ⟨middle, hopened, -⟩ := hprepared.disk
  have hcounted := hprepared.counted
  rw [← hprepared.stem] at habsent
  generalize session.hasher = content at hopened hcounted
  cases hopened with
  | existing hlookup =>
    rw [habsent] at hlookup
    cases hlookup
  | created => exact ⟨hcounted, rfl⟩

end Preparation

/-! ## Bodies -/

section Bodies

variable {expectedSize : ℕ} {session : PartialSession} {disk : Disk}

theorem write_destinations (disk : Disk) (stem : String) (position : ℕ) (bytes : Bytes) :
    (disk.write stem position bytes).destinations = disk.destinations := by
  unfold Disk.write
  split <;> rfl

theorem write_metadata (disk : Disk) (stem : String) (position : ℕ) (bytes : Bytes) :
    (disk.write stem position bytes).metadata = disk.metadata := by
  unfold Disk.write
  split <;> rfl

/-- A chunk is appended to the file and to the hash alike. -/
theorem Attached.receive (hattached : Attached disk session) (bytes : Bytes) :
    Attached (disk.write session.stem session.receivedBytes bytes) (session.receive bytes) := by
  constructor
  case stored =>
    rw [Disk.write, hattached.stored, hattached.counted]
    have happended : session.hasher.take session.hasher.length ++ bytes ++
        session.hasher.drop (session.hasher.length + bytes.length) = session.hasher ++ bytes := by
      rw [List.take_length, List.drop_eq_nil_of_le (Nat.le_add_right _ _), List.append_nil]
    dsimp only
    rw [happended]
    exact Std.ExtTreeMap.getElem?_insert_self
  case counted =>
    change session.receivedBytes + bytes.length = (session.hasher ++ bytes).length
    rw [hattached.counted, List.length_append]

/-- Bodies touch neither the destinations nor the metadata. -/
theorem receiveBody_frame (expectedSize : ℕ) (events : List BodyEvent) (session : PartialSession)
    (disk : Disk) :
    (receiveBody expectedSize events session disk).2.2.destinations = disk.destinations ∧
      (receiveBody expectedSize events session disk).2.2.metadata = disk.metadata ∧
      (receiveBody expectedSize events session disk).2.1.stem = session.stem ∧
      (receiveBody expectedSize events session disk).2.1.metadata = session.metadata := by
  induction events generalizing session disk with
  | nil => exact ⟨rfl, rfl, rfl, rfl⟩
  | cons event events ih =>
    cases event with
    | interrupted bytes written error =>
      unfold receiveBody
      split
      case h_1 => exact ⟨rfl, rfl, rfl, rfl⟩
      case h_2 => exact ⟨write_destinations _ _ _ _, write_metadata _ _ _ _, rfl, rfl⟩
    | chunk bytes =>
      unfold receiveBody
      split
      case isTrue => exact ih session disk
      case isFalse =>
        split
        case h_1 => exact ⟨rfl, rfl, rfl, rfl⟩
        case h_2 =>
          obtain ⟨hdestinations, hmetadata, hstem, hsession⟩ := ih (session.receive bytes)
            (disk.write session.stem session.receivedBytes bytes)
          exact ⟨hdestinations.trans (write_destinations _ _ _ _),
            hmetadata.trans (write_metadata _ _ _ _), hstem, hsession⟩

/-- After a body that came to its end the hash is still that of the file. -/
theorem attached_of_receiveBody {events : List BodyEvent} {received : PartialSession}
    {after : Disk} (hattached : Attached disk session)
    (hbody : receiveBody expectedSize events session disk = (.finished, received, after)) :
    Attached after received := by
  induction events generalizing session disk with
  | nil =>
    cases hbody
    exact hattached
  | cons event events ih =>
    cases event with
    | interrupted bytes written error =>
      unfold receiveBody at hbody
      split at hbody
      case h_1 => cases hbody
      case h_2 => cases error <;> cases hbody
    | chunk bytes =>
      unfold receiveBody at hbody
      split at hbody
      case isTrue => exact ih hattached hbody
      case isFalse =>
        split at hbody
        case h_1 => cases hbody
        case h_2 => exact ih (hattached.receive bytes) hbody

end Bodies

/-! ## Downloads -/

theorem moves_remove (session : PartialSession) : Moves SameDestinations session.remove := by
  have hunfinished : Moves SameDestinations (removePartial session.stem) := by
    intro disk
    rw [removePartial, bind_of_ok (get_apply _)]
    apply bind_related (Moves.ensure _ _ disk)
    intro _ _ hensured
    obtain ⟨-, rfl⟩ := ensure_eq_ok_iff.mp hensured
    rfl
  have hmetadata : Moves SameDestinations (removeMetadata session.stem) := by
    intro disk
    rw [removeMetadata, bind_of_ok (get_apply _)]
    apply bind_related (Moves.ensure _ _ disk)
    intro _ _ hensured
    obtain ⟨-, rfl⟩ := ensure_eq_ok_iff.mp hensured
    rfl
  exact Moves.bind hunfinished fun _ => hmetadata

theorem moves_openPartialFile (stem : String) : Moves SameDestinations (openPartialFile stem) := by
  intro disk
  rw [openPartialFile, bind_of_ok (get_apply _)]
  cases disk.partials[stem]? with
  | none => rfl
  | some entry => cases entry <;> rfl

theorem moves_persistMetadata (session : PartialSession) (now : ℕ) :
    Moves SameDestinations (session.persistMetadata now) := fun _ => rfl

section Downloads

variable [Primitives] {lease : ArtifactTransferLease} {destination : String}

theorem moves_prepare (config : PartialStoreConfig)
    (authorization : ArtifactTransferAuthorization) (now : ℕ)
    (reading : Except ReceiveFault Unit) :
    Moves SameDestinations (prepare config authorization now reading) := by
  refine Moves.bind Moves.get fun disk => ?_
  refine Moves.after fun _ => ?_
  refine Moves.after fun metadata => ?_
  refine Moves.bind (moves_openPartialFile _) fun content => ?_
  refine Moves.after fun _ => ?_
  refine Moves.after fun _ => ?_
  exact moves_persistMetadata _ _

theorem Moves.sound {α : Type} {program : Receiver α} (hprogram : Moves SameDestinations program) :
    Moves (Sound lease destination) program :=
  hprogram.mono fun _ _ => sound_of_destinations_eq

theorem sound_link {session : PartialSession} {disk : Disk}
    (hstored : disk.partials[session.stem]? = some (.regular session.hasher))
    (hlength : session.hasher.length = lease.sizeBytes)
    (hdigest : Digest.sha256 session.hasher = lease.digest) :
    Sound lease destination disk
      (finalState (session.link destination lease.digest lease.sizeBytes disk)) := by
  rw [PartialSession.link, bind_of_ok (get_apply _),
    bind_of_ok (orFail_eq_ok_iff.mpr ⟨hstored, rfl⟩)]
  cases hlookup : disk.destinations[destination]? with
  | none =>
    constructor
    case others =>
      exact fun path hpath => OrderedMaps.getElem?_insert_of_ne hpath.symm
    case kept =>
      intro entry hentry
      rw [hlookup] at hentry
      cases hentry
    case installed =>
      intro _ entry hentry
      have hinserted : (disk.destinations.insert destination
          (Entry.regular session.hasher))[destination]? = some entry := hentry
      rw [Std.ExtTreeMap.getElem?_insert_self] at hinserted
      cases hinserted
      exact ⟨session.hasher, rfl, hlength, hdigest⟩
  | some entry =>
    cases entry with
    | directory => exact refl_of _ disk
    | regular content =>
      refine (?_ : Moves (Sound lease destination) _) disk
      exact Moves.after fun _ => Moves.ensure _ _

theorem sound_conclude {session : PartialSession} {disk : Disk} (hattached : Attached disk session)
    (now : ℕ) (synchronizing : Except ReceiveFault Unit) :
    Sound lease destination disk
      (finalState (session.conclude lease destination now synchronizing disk)) := by
  unfold PartialSession.conclude
  split
  case isTrue =>
    exact Moves.sound (Moves.bind (moves_persistMetadata _ _) fun _ => Moves.throw _) disk
  case isFalse hcomplete =>
    apply bind_related (Moves.liftExcept _ _ disk)
    intro _ _ hfirst
    obtain ⟨-, rfl⟩ := liftExcept_eq_ok_iff.mp hfirst
    apply bind_related (Moves.liftExcept _ _ disk)
    intro actualDigest _ hsecond
    obtain ⟨hdigest, rfl⟩ := liftExcept_eq_ok_iff.mp hsecond
    split
    case isTrue =>
      exact Moves.sound (Moves.bind (moves_remove _) fun _ => Moves.throw _) disk
    case isFalse hsame =>
      have hhashed : Digest.sha256 session.hasher = lease.digest := by
        rw [← not_not.mp hsame]
        exact sha256_of_fromSha256Hex hdigest
      have hlength : session.hasher.length = lease.sizeBytes := by
        rw [← hattached.counted]
        exact not_not.mp hcomplete
      unfold PartialSession.install
      apply bind_related (sound_link hattached.stored hlength hhashed)
      intro _ middle _
      exact Moves.sound (moves_remove session) middle

theorem sound_transfer {session : PartialSession} {disk : Disk} (hattached : Attached disk session)
    (now : ℕ) (exchange : Exchange) :
    Sound lease destination disk
      (finalState (session.transfer lease destination now exchange disk)) := by
  obtain ⟨hdestinations, -, -, -⟩ := receiveBody_frame lease.sizeBytes exchange.body session disk
  have hbody : Sound lease destination disk
      (receiveBody lease.sizeBytes exchange.body session disk).2.2 :=
    sound_of_destinations_eq hdestinations
  rw [PartialSession.transfer, bind_of_ok (get_apply _)]
  rcases hreceived : receiveBody lease.sizeBytes exchange.body session disk with
    ⟨outcome, received, after⟩
  rw [hreceived] at hbody
  apply trans_of _ hbody
  cases outcome with
  | dropped => exact refl_of _ after
  | failed error =>
    exact Moves.sound (Moves.bind (moves_persistMetadata _ _) fun _ => Moves.throw _) after
  | finished =>
    apply bind_related (sound_conclude (attached_of_receiveBody hattached hreceived) now
      exchange.synchronizing)
    intro _ middle _
    exact Moves.pure received middle

theorem sound_download (scope : EndpointIdentity) (config : PartialStoreConfig)
    (authorization : ArtifactTransferAuthorization) (destination : String) (now : ℕ)
    (exchange : Exchange) :
    Moves (Sound authorization.lease destination)
      (download scope config authorization destination now exchange) := by
  refine Moves.after fun _ => ?_
  refine Moves.bind Moves.get fun disk => ?_
  refine Moves.after fun present => ?_
  apply Moves.ite
  · exact Moves.pure _
  · intro before
    apply bind_related (Moves.sound
      (moves_prepare config authorization now exchange.reading) before)
    intro session middle hprepare
    have hattached := (prepared_of_prepare hprepare).attached
    apply bind_related (Moves.liftExcept _ _ middle)
    intro _ _ hfirst
    obtain ⟨-, rfl⟩ := liftExcept_eq_ok_iff.mp hfirst
    apply bind_related (Moves.liftExcept _ _ _)
    intro response _ hsecond
    obtain ⟨-, rfl⟩ := liftExcept_eq_ok_iff.mp hsecond
    apply bind_related (Moves.liftExcept _ _ _)
    intro _ _ hthird
    obtain ⟨-, rfl⟩ := liftExcept_eq_ok_iff.mp hthird
    apply bind_related (sound_transfer hattached now exchange)
    intro received final _
    exact Moves.pure _ final

/-! ## Sequences of downloads -/

/-- A download with all that happens to it from outside. -/
structure Attempt where
  scope : EndpointIdentity
  config : PartialStoreConfig
  authorization : ArtifactTransferAuthorization
  destination : String
  now : ℕ
  exchange : Exchange

def Attempt.download (attempt : Attempt) : Receiver CompletedTransfer :=
  Transfer.download attempt.scope attempt.config attempt.authorization attempt.destination
    attempt.now attempt.exchange

def Attempt.Occurs (attempt : Attempt) (before after : Disk) : Prop :=
  finalState (attempt.download before) = after

/-- The file at the path was there before, or one of the downloads installed it. -/
def Accounted (attempts : List Attempt) (path : String) (start final : Disk) : Prop :=
  final.destinations[path]? = start.destinations[path]? ∨
    start.destinations[path]? = none ∧ ∃ attempt ∈ attempts, attempt.destination = path ∧
      ∃ entry, final.destinations[path]? = some entry ∧ Genuine attempt.authorization.lease entry

/-- No sequence of downloads replaces a file or installs anything but the bytes of a lease. -/
theorem accounted_of_run {attempts : List Attempt} {start final : Disk}
    (hrun : Run Attempt.Occurs (fun _ _ => True) start attempts final) (path : String) :
    Accounted attempts path start final := by
  induction hrun with
  | nil => exact .inl rfl
  | @snoc attempts attempt middle final _ _ hoccurs ih =>
    have hsound : Sound attempt.authorization.lease attempt.destination middle final := by
      rw [← hoccurs]
      exact sound_download _ _ _ _ _ _ middle
    have hearlier : Accounted (attempts ++ [attempt]) path start middle := by
      obtain hsame | ⟨hfree, earlier, hearlier, hinstalled⟩ := ih
      · exact .inl hsame
      · exact .inr ⟨hfree, earlier, List.mem_append_left _ hearlier, hinstalled⟩
    cases hmiddle : middle.destinations[path]? with
    | some entry =>
      -- What is at the path already stays.
      have hkept : final.destinations[path]? = middle.destinations[path]? := by
        by_cases hpath : path = attempt.destination
        · subst hpath
          rw [hsound.kept entry hmiddle, hmiddle]
        · exact hsound.others path hpath
      unfold Accounted
      rw [hkept]
      exact hearlier
    | none =>
      have hfree : start.destinations[path]? = none := by
        obtain hsame | ⟨hfree, -⟩ := hearlier
        · rw [← hsame, hmiddle]
        · exact hfree
      cases hfinal : final.destinations[path]? with
      | none => exact .inl (hfinal.trans hfree.symm)
      | some entry =>
        by_cases hpath : path = attempt.destination
        · subst hpath
          exact .inr ⟨hfree, attempt, by simp, rfl, entry, hfinal,
            hsound.installed hmiddle entry hfinal⟩
        · rw [hsound.others path hpath, hmiddle] at hfinal
          cases hfinal

/-! ## Verification -/

/-- The download gets as far as verifying these bytes of its partial file. -/
inductive Attempt.Verifies (attempt : Attempt) (before : Disk) (content : Bytes) : Prop
  | intro {session received : PartialSession} {response : GetArtifactResponse}
      {middle after : Disk}
      (hauthorized : validateAuthorization attempt.scope attempt.authorization attempt.now = .ok ())
      (hfree : verifyExistingDestination before attempt.destination
        attempt.authorization.lease.digest attempt.authorization.lease.sizeBytes = .ok false)
      (hprepare : prepare attempt.config attempt.authorization attempt.now
        attempt.exchange.reading before = .ok session middle)
      (hconnected : attempt.exchange.connecting = .ok ())
      (hresponse : attempt.exchange.response = .ok response)
      (haccepted : checkResponse attempt.authorization.lease session.receivedBytes response =
        .ok ())
      (hbody : receiveBody attempt.authorization.lease.sizeBytes attempt.exchange.body session
        middle = (.finished, received, after))
      (hsynchronized : attempt.exchange.synchronizing = .ok ())
      (hcontent : after.partials[partialStem attempt.authorization]? = some (.regular content))

omit [Primitives] in
/-- A session whose files are regular removes both. -/
theorem remove_apply {session : PartialSession} {disk : Disk}
    (hunfinished : disk.partials[session.stem]? ≠ some .directory)
    (hmetadata : disk.metadata[session.stem]? ≠ some .directory) :
    session.remove disk = .ok () { disk with
      partials := disk.partials.erase session.stem
      metadata := disk.metadata.erase session.stem } := by
  have hfirst : removePartial session.stem disk =
      .ok () { disk with partials := disk.partials.erase session.stem } := by
    rw [removePartial, bind_of_ok (get_apply _), bind_of_ok (ensure_of hunfinished _ _)]
    rfl
  rw [PartialSession.remove, bind_of_ok hfirst, removeMetadata, bind_of_ok (get_apply _)]
  apply (bind_of_ok (ensure_of hmetadata _ _)).trans
  rfl

/-- Complete bytes with a wrong digest are removed. -/
theorem conclude_of_mismatch (hhash : Primitives.HashesToSha256) {session : PartialSession}
    {disk : Disk} (hattached : Attached disk session)
    (hmetadata : disk.metadata[session.stem]? ≠ some .directory)
    (hlength : session.hasher.length = lease.sizeBytes)
    (hdigest : Digest.sha256 session.hasher ≠ lease.digest) (now : ℕ) :
    session.conclude lease destination now (.ok ()) disk =
      .error (.failed .digestMismatch) { disk with
        partials := disk.partials.erase session.stem
        metadata := disk.metadata.erase session.stem } := by
  have hcomplete : ¬ session.receivedBytes ≠ lease.sizeBytes := by
    rw [hattached.counted, hlength]
    exact not_not.mpr rfl
  have hhashed : Digest.fromSha256Hex (Primitives.sha256Hex session.hasher) =
      .ok (Digest.sha256 session.hasher) := if_pos (hhash session.hasher)
  have hregular : disk.partials[session.stem]? ≠ some .directory := by
    rw [hattached.stored]
    rintro ⟨⟩
  rw [PartialSession.conclude, if_neg hcomplete, bind_of_ok (liftExcept_eq_ok_iff.mpr ⟨rfl, rfl⟩),
    bind_of_ok (liftExcept_eq_ok_iff.mpr ⟨hhashed, rfl⟩), if_pos hdigest,
    bind_of_ok (remove_apply hregular hmetadata)]
  rfl

/-- A verification of complete bytes with a wrong digest removes the partial file. -/
theorem download_of_mismatch (hhash : Primitives.HashesToSha256) {attempt : Attempt}
    {before : Disk} {content : Bytes} (hverifies : attempt.Verifies before content)
    (hlength : content.length = attempt.authorization.lease.sizeBytes)
    (hdigest : Digest.sha256 content ≠ attempt.authorization.lease.digest) :
    ∃ after, attempt.download before = .error (.failed .digestMismatch) after ∧
      after.partials[partialStem attempt.authorization]? = none ∧
      after.metadata[partialStem attempt.authorization]? = none := by
  obtain ⟨hauthorized, hfree, hprepare, hconnected, hresponse, haccepted, hbody, hsynchronized,
    hcontent⟩ := hverifies
  rename_i session received response middle after
  have hprepared := prepared_of_prepare hprepare
  have hattached := attached_of_receiveBody hprepared.attached hbody
  obtain ⟨-, hmetadata, hstem, -⟩ :=
    receiveBody_frame attempt.authorization.lease.sizeBytes attempt.exchange.body session middle
  rw [hbody] at hmetadata hstem
  have hname : received.stem = partialStem attempt.authorization := hstem.trans hprepared.stem
  have hhasher : received.hasher = content := by
    have hstored := hattached.stored
    rw [hname, hcontent] at hstored
    cases hstored
    rfl
  have hregular : after.metadata[received.stem]? ≠ some .directory := by
    obtain ⟨opened, -, hmiddle⟩ := hprepared.disk
    rw [show after.metadata = middle.metadata from hmetadata, hmiddle,
      show received.stem = session.stem from hstem]
    change (opened.metadata.insert _ _)[_]? ≠ _
    rw [Std.ExtTreeMap.getElem?_insert_self]
    rintro ⟨⟩
  have hconclude : received.conclude attempt.authorization.lease attempt.destination attempt.now
      (.ok ()) after = .error (.failed .digestMismatch) { after with
        partials := after.partials.erase received.stem
        metadata := after.metadata.erase received.stem } := by
    apply conclude_of_mismatch hhash hattached hregular
    · rw [hhasher, hlength]
    · rwa [hhasher]
  have htransfer : session.transfer attempt.authorization.lease attempt.destination attempt.now
      attempt.exchange middle = .error (.failed .digestMismatch) { after with
        partials := after.partials.erase received.stem
        metadata := after.metadata.erase received.stem } := by
    rw [PartialSession.transfer, bind_of_ok (get_apply _), hbody, hsynchronized]
    apply (set_bind after middle _).trans
    exact bind_of_error hconclude
  have hdownload : attempt.download before = .error (.failed .digestMismatch) { after with
        partials := after.partials.erase received.stem
        metadata := after.metadata.erase received.stem } := by
    rw [Attempt.download, download, bind_of_ok (liftExcept_eq_ok_iff.mpr ⟨hauthorized, rfl⟩),
      bind_of_ok (get_apply _), bind_of_ok (liftExcept_eq_ok_iff.mpr ⟨hfree, rfl⟩),
      if_neg (by decide), bind_of_ok hprepare,
      bind_of_ok (liftExcept_eq_ok_iff.mpr ⟨hconnected, rfl⟩),
      bind_of_ok (liftExcept_eq_ok_iff.mpr ⟨hresponse, rfl⟩),
      bind_of_ok (liftExcept_eq_ok_iff.mpr ⟨haccepted, rfl⟩)]
    exact bind_of_error htransfer
  rw [← hname]
  exact ⟨_, hdownload, Std.ExtTreeMap.getElem?_erase_self, Std.ExtTreeMap.getElem?_erase_self⟩

/-- Whatever partial files hold and however downloads are cut and resumed: a destination
is never replaced, what is installed has the size and the digest of a lease, and complete
bytes with a wrong digest are removed when they are verified, so that the next download
starts from nothing. -/
theorem downloads_keep_integrity (hhash : Primitives.HashesToSha256) :
    (∀ (attempts : List Attempt) (start final : Disk),
      Run Attempt.Occurs (fun _ _ => True) start attempts final →
        ∀ path, Accounted attempts path start final) ∧
    ∀ (attempt : Attempt) (before : Disk) (content : Bytes), attempt.Verifies before content →
      content.length = attempt.authorization.lease.sizeBytes →
      Digest.sha256 content ≠ attempt.authorization.lease.digest →
        ∃ after, attempt.download before = .error (.failed .digestMismatch) after ∧
          after.partials[partialStem attempt.authorization]? = none ∧
          after.metadata[partialStem attempt.authorization]? = none ∧
          ∀ (later : Attempt) (session : PartialSession) (final : Disk),
            partialStem later.authorization = partialStem attempt.authorization →
            prepare later.config later.authorization later.now later.exchange.reading after =
              .ok session final → session.receivedBytes = 0 ∧ session.hasher = [] := by
  refine ⟨fun attempts start final hrun path => accounted_of_run hrun path, ?_⟩
  intro attempt before content hverifies hlength hdigest
  obtain ⟨after, hdownload, hunfinished, hmetadata⟩ :=
    download_of_mismatch hhash hverifies hlength hdigest
  refine ⟨after, hdownload, hunfinished, hmetadata, ?_⟩
  intro later session final hstem hprepare
  apply (prepared_of_prepare hprepare).receivedBytes_of_absent
  rw [hstem, hunfinished]

end Downloads

/-! ## A provider that sends other bytes -/

def sampleDigest : Digest :=
  ⟨"sha256:0000000000000000000000000000000000000000000000000000000000000002"⟩

/-- A lease for one byte, kept until the given time. -/
def sampleLease (transferId : String) (retention : ℕ) : ArtifactTransferLease where
  transferId := transferId
  tenant := ⟨"t", by decide⟩
  project := ⟨"p", by decide⟩
  process := ⟨"v", by decide⟩
  artifact := ⟨"a", by decide⟩
  digest := sampleDigest
  sizeBytes := 1
  sourceNode := ⟨"m", by decide⟩
  sourceEndpointId := "m"
  destinationNode := ⟨"n", by decide⟩
  destinationEndpointId := "n"
  allowedOffset := 0
  maximumBytes := 1
  relayPolicy := .relayFallbackAllowed
  directPathDeadlineMs := 0
  expiresAt := 10
  activeLeaseExpiresAt := retention
  nonce := "o"

def sampleAuthorization (transferId : String) (retention : ℕ) : ArtifactTransferAuthorization where
  lease := sampleLease transferId retention
  transferSecret := [1]
  peer := ⟨⟨"m", by decide⟩, "m", 1, [], []⟩

def sampleScope : EndpointIdentity := ⟨⟨"t", by decide⟩, ⟨"p", by decide⟩, ⟨"n", by decide⟩, "n"⟩

def sampleConfig : PartialStoreConfig := ⟨1, 1⟩

def emptyDisk : Disk := ⟨∅, ∅, ∅⟩

/-- The first session of a transfer. -/
def firstSession [Primitives] (authorization : ArtifactTransferAuthorization) (now : ℕ) :
    PartialSession :=
  ⟨partialStem authorization, expectedMetadata authorization now, [], 0⟩

/-- The disk with an empty partial file of the transfer. -/
def firstDisk [Primitives] (authorization : ArtifactTransferAuthorization) (now : ℕ) : Disk :=
  ⟨(∅ : OrderedMap String (Entry Bytes)).insert (partialStem authorization) (.regular []),
    (∅ : OrderedMap String (Entry (Option PartialMetadata))).insert (partialStem authorization)
      (.regular (some (expectedMetadata authorization now))), ∅⟩

theorem prepare_emptyDisk [Primitives] {config : PartialStoreConfig}
    {authorization : ArtifactTransferAuthorization}
    (hcapacity : ensureCapacity config emptyDisk (partialStem authorization)
      authorization.lease.sizeBytes = .ok ()) (now : ℕ) :
    prepare config authorization now (.ok ()) emptyDisk =
      .ok (firstSession authorization now) (firstDisk authorization now) := by
  have hunfinished : emptyDisk.partials[partialStem authorization]? = none :=
    Std.ExtTreeMap.getElem?_empty
  have hmetadata : adoptMetadata emptyDisk (partialStem authorization)
      (expectedMetadata authorization now) = .ok (expectedMetadata authorization now) := by
    rw [adoptMetadata, show emptyDisk.metadata[partialStem authorization]? = none from
      Std.ExtTreeMap.getElem?_empty]
  rw [prepare, bind_of_ok (get_apply _), bind_of_ok (liftExcept_eq_ok_iff.mpr ⟨hcapacity, rfl⟩),
    bind_of_ok (liftExcept_eq_ok_iff.mpr ⟨hmetadata, rfl⟩),
    bind_of_ok (openPartialFile_eq_ok_iff.mpr (.created hunfinished))]
  apply (bind_of_ok (ensure_of (Nat.zero_le _) _ _)).trans
  rfl

/-- A download whose provider sends one byte that is not the artifact. -/
def sampleAttempt : Attempt where
  scope := sampleScope
  config := sampleConfig
  authorization := sampleAuthorization "x" 20
  destination := "d"
  now := 1
  exchange :=
    { reading := .ok ()
      connecting := .ok ()
      response := .ok (.accepted ⟨"a", by decide⟩ sampleDigest 1 0 1)
      body := [.chunk [7]]
      synchronizing := .ok () }

theorem verifies_sampleAttempt [Primitives] : sampleAttempt.Verifies emptyDisk [7] := by
  have hcontent : ((firstDisk (sampleAuthorization "x" 20) 1).write
      (partialStem (sampleAuthorization "x" 20)) 0 [7]).partials[partialStem
        (sampleAuthorization "x" 20)]? = some (.regular [7]) := by
    rw [Disk.write, firstDisk, Std.ExtTreeMap.getElem?_insert_self]
    exact Std.ExtTreeMap.getElem?_insert_self
  exact .intro rfl rfl (prepare_emptyDisk rfl 1) rfl rfl rfl rfl rfl hcontent

/-- The byte is removed, and the next download starts from nothing. -/
theorem wrong_byte_is_removed :
    letI := Primitives.sample
    sampleAttempt.Verifies emptyDisk [7] ∧
      ∃ after, sampleAttempt.download emptyDisk = .error (.failed .digestMismatch) after ∧
        after.partials[partialStem sampleAttempt.authorization]? = none := by
  let := Primitives.sample
  refine ⟨verifies_sampleAttempt, ?_⟩
  obtain ⟨after, hdownload, hunfinished, -⟩ :=
    (downloads_keep_integrity Primitives.sample_hashesToSha256).2 sampleAttempt emptyDisk [7]
      verifies_sampleAttempt rfl (by decide)
  exact ⟨after, hdownload, hunfinished⟩

end Clusterflux.Transfer
