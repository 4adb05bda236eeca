import SecFusion.Intelligence.EvidenceIdentity

/-!
# Observations read back

The model of `packages/intelligence/ingestion/replay.py`.  The loader rebuilds the
envelope of an observation from its row, its artifact and the file, and tells a payload
from a body by the media type alone.  `Stored` is what a session keeps of an accepted
call; from it, an observation replays exactly, unless a body was declared to be JSON and
is not written as the ingress writes an object (`replaysExactly_iff`).
-/

namespace SecFusion.Intelligence.Ingestion

open Foundations SecFusion.Sources
open EvidenceIngress (locate newArtifact newObservation)

structure ObservationReplay where
  (observationId artifactId : String)
  envelope : IngestEnvelope
  metadataComplete : Bool
  metadataRecovery : Option String

structure ObservationEnvelopeLoader where
  /-- The ingress whose artifact store the loader reads. -/
  ingress : EvidenceIngress
  /-- `json.loads(body.decode("utf-8"))`, or none where that raises. -/
  loads : Bytes → Option JsonValue
  /-- What is read of a canonical text is an object with that text. -/
  canonical : ∀ payload, ∃ again,
    loads (ingress.hashing.canonicalPayload payload) = some (.object again) ∧
      ingress.hashing.canonicalPayload again = ingress.hashing.canonicalPayload payload

/-- `observation.acquisition_run_id or f"replay:{observation.observation_id}"` -/
def ObservationModel.replayRunId (observation : ObservationModel) : String :=
  if observation.acquisitionRunId = "" then s!"replay:{observation.observationId}"
  else observation.acquisitionRunId

namespace ObservationEnvelopeLoader

variable (loader : ObservationEnvelopeLoader)

def content (mediaType : String) (body : Bytes) :
    Except Raised Content :=
  if mediaType = "application/json" then
    match loader.loads body with
    | none => .error (.runtimeError "persisted JSON artifact cannot be decoded")
    | some (.object payload) => .ok (.payload payload)
    | some _ => .error (.runtimeError "persisted JSON artifact root must be an object")
  else .ok (.body body)

def load (state : EvidenceState) (observationId : String) :
    Except Raised ObservationReplay := do
  let observation ← fetch (state.observations.get? observationId)
    (.lookupError s!"observation not found: {observationId}")
  let artifact ← fetch
    (state.artifacts.rows.find? fun row => row.observationId = observation.observationId)
    (.runtimeError "observation exists without evidence artifact")
  let present ← loader.ingress.file state.files artifact.storageUri
  let body ← fetch present
    (.runtimeError "filesystem artifact read failed: FileNotFoundError")
  let contentHash := loader.ingress.hashing.sha256 body
  require (contentHash = observation.contentHash ∧ contentHash = artifact.contentHash)
    (.runtimeError "artifact bytes do not match persisted observation content hash")
  let metadataRecovery :=
    if observation.requestMetadataCaptured then none else some "historical_metadata_missing"
  let requestMetadata := match metadataRecovery with
    | none => observation.requestMetadata
    | some recovery =>
        JsonObject.set observation.requestMetadata "_request_metadata_recovery" (.string recovery)
  let content ← loader.content artifact.mediaType body
  .ok {
    observationId := observation.observationId
    artifactId := artifact.artifactId
    envelope := {
      acquisitionRunId := observation.replayRunId
      trigger := observation.acquisitionTrigger
      sourceId := observation.sourceId
      externalObjectId := observation.externalObjectId
      canonicalUrl := observation.canonicalUrl
      publishedAt := observation.publishedAt
      updatedAt := observation.updatedAt
      observedAt := observation.observedAt
      externalRevision := observation.externalRevision
      contentHash := observation.contentHash
      mediaType := artifact.mediaType
      content, requestMetadata
      idempotencyKey := observation.idempotencyKey }
    metadataComplete := observation.requestMetadataCaptured
    metadataRecovery }

end ObservationEnvelopeLoader

/-! ## What a session keeps of an accepted call -/

/-- The rows of every call that was accepted afresh are there, and an observation has one
artifact. -/
structure Stored (ingress : EvidenceIngress) (session : Session) : Prop where
  rows : ∀ {call ack}, (call, Except.ok ack) ∈ session.log → ack.replay = false →
    ack.observationId = call.draw.observationId ∧ call.Owned ∧
    (∃ key, newObservation call.source call.envelope call.draw key ∈
      session.state.observations.rows) ∧
    newArtifact call.source call.envelope call.draw
      (.artifact ingress.bucket call.envelope.contentHash) ∈ session.state.artifacts.rows
  single : (session.state.artifacts.rows.map (·.observationId)).Nodup

variable {loader : ObservationEnvelopeLoader} {ingress : EvidenceIngress} {session : Session} {call : IngressCall}

theorem Stored.after (stored : Stored ingress session) (filed : Filed ingress session)
    (built : Built ingress.hashing call.envelope)
    (newObservation : ∀ row ∈ session.state.observations.rows,
      row.observationId ≠ call.draw.observationId)
    (newArtifact : ∀ row ∈ session.state.artifacts.rows, row.artifactId ≠ call.draw.artifactId) :
    Stored ingress (session.call ingress call) := by
  -- a call that files nothing is answered with a replay or with an error
  have unchanged : ∀ answer, (∀ ack, answer = .ok ack → ack.replay = true) →
      ingress.accept call.source call.envelope call.draw session.state =
        (answer, session.state) → Stored ingress (session.call ingress call) := by
    intro answer replays same
    rw [Session.call, same]
    refine ⟨fun {_ ack} member fresh => ?_, stored.single⟩
    rcases mem_append.1 member with earlier | last
    · exact stored.rows earlier fresh
    · cases mem_singleton.1 last
      simp [replays ack rfl] at fresh
  by_cases owned : call.Owned
  · by_cases recorded : ∃ row ∈ session.state.observations.rows, row.Records call.envelope
    · obtain ⟨row, member, records⟩ := recorded
      obtain ⟨ack, -, replay, same⟩ := filed.tables.accept_replays owned built member records
      exact unchanged _ (fun again given => Except.ok.inj given ▸ replay) same
    · obtain ⟨key, next, accepted, -, rows, artifacts⟩ := filed.tables.accept_files owned built
        (fun row member records => recorded ⟨row, member, records⟩) newObservation newArtifact
      rw [Session.call, accepted]
      refine ⟨fun {_ ack} member fresh => ?_, ?_⟩
      · rw [rows, artifacts]
        rcases mem_append.1 member with earlier | last
        · obtain ⟨sameId, ours, ⟨under, observed⟩, kept⟩ := stored.rows earlier fresh
          exact ⟨sameId, ours, ⟨under, mem_append_left _ observed⟩,
            mem_append_left _ kept⟩
        · cases mem_singleton.1 last
          exact ⟨rfl, owned, ⟨key, by simp⟩, by simp⟩
      · -- the artifact of an earlier row is of an earlier observation
        have apart : call.draw.observationId ∉
            session.state.artifacts.rows.map (·.observationId) := by
          intro member
          obtain ⟨earlier, earlierMember, drawn⟩ := mem_map.1 member
          obtain ⟨row, rowMember, rowId, -⟩ := filed.tables.filed earlier earlierMember
          exact newObservation row rowMember (rowId.trans drawn)
        rw [artifacts, map_append]
        exact stored.single.append (by simp) (List.disjoint_singleton.2 apart)
  · exact unchanged _ (fun _ given => by cases given) (if_pos owned)

/-! ## Loading -/

/-- The envelope with what the loader takes from elsewhere. -/
abbrev loadedAs (envelope : IngestEnvelope) (runId key : String) (content : Content) :
    IngestEnvelope :=
  { envelope with acquisitionRunId := runId, idempotencyKey := key, content }

/-- **An observation replays exactly**: what is loaded is the envelope, up to its run, its
key and the form of its content, with the same bytes; and accepting it replays the
observation and changes nothing. -/
def ReplaysExactly (loader : ObservationEnvelopeLoader) (state : EvidenceState)
    (observationId : String) (envelope : IngestEnvelope) : Prop :=
  ∃ replay, loader.load state observationId = .ok replay ∧
    (∃ runId key content, replay.envelope = loadedAs envelope runId key content) ∧
    replay.envelope.contentBytes loader.ingress.hashing =
      envelope.contentBytes loader.ingress.hashing ∧
    ∀ (source : SourceDefinition) (draw : Draw), replay.envelope.sourceId = source.sourceId →
      ∃ again : ObservationAck, again.observationId = observationId ∧ again.replay = true ∧
        loader.ingress.accept source replay.envelope draw state = (.ok again, state)

/-- The content is not declared to be JSON, or is written as the ingress writes an object. -/
def Canonical (hashing : Hashing) (envelope : IngestEnvelope) : Prop :=
  envelope.mediaType = "application/json" →
    ∃ payload, envelope.contentBytes hashing = hashing.canonicalPayload payload

section Loading

variable {ack : ObservationAck} (filed : Filed loader.ingress session)
  (stored : Stored loader.ingress session) (built : Built loader.ingress.hashing call.envelope)
  (logged : (call, .ok ack) ∈ session.log) (fresh : ack.replay = false)

include filed stored built logged fresh

/-- **What is loaded** for an accepted call is its envelope with the content that the
loader reads, under the key of the observation. -/
theorem load_eq : ∃ row ∈ session.state.observations.rows, row.observationId = ack.observationId ∧
      row.contentHash = call.envelope.contentHash ∧
      loader.load session.state ack.observationId =
        (loader.content call.envelope.mediaType
          (call.envelope.contentBytes loader.ingress.hashing)).map fun content =>
            { observationId := ack.observationId
              artifactId := call.draw.artifactId
              envelope := loadedAs call.envelope row.replayRunId row.idempotencyKey content
              metadataComplete := true
              metadataRecovery := none } := by
  obtain ⟨sameId, owned, ⟨key, observed⟩, kept⟩ := stored.rows logged fresh
  obtain ⟨row, -, rowId, -, -, present⟩ := filed.tables.filed _ kept
  obtain ⟨body, found⟩ := isSome_iff_exists.1 present
  have read : body = call.envelope.contentBytes loader.ingress.hashing :=
    loader.ingress.hashing.injective <|
      (filed.tables.faithful _ body found).trans built.contentHash
  have attached : (session.state.artifacts.rows.find? fun artifact =>
      artifact.observationId = call.draw.observationId) =
        some (newArtifact call.source call.envelope call.draw
          (.artifact loader.ingress.bucket call.envelope.contentHash)) := by
    cases first : session.state.artifacts.rows.find? fun artifact =>
        artifact.observationId = call.draw.observationId with
    | none => simpa [newArtifact] using find?_eq_none.1 first _ kept
    | some other =>
        have same : other.observationId = call.draw.observationId := by
          simpa using find?_some first
        rw [inj_on_of_nodup_map stored.single (mem_of_find?_eq_some first) kept same]
  refine ⟨_, observed, sameId.symm, rfl, ?_⟩
  have readable : loader.ingress.file session.state.files
      (.artifact loader.ingress.bucket call.envelope.contentHash) = .ok (some body) := by
    rw [EvidenceIngress.file, if_pos rfl]
    exact congrArg Except.ok found
  have shown : session.state.observations.get? call.draw.observationId = some _ :=
    get?_eq_some.2 ⟨observed, rfl⟩
  unfold ObservationEnvelopeLoader.load
  simp only [sameId, shown, fetch, ok_bind, newObservation, attached,
    newArtifact, readable, read, built.contentHash.symm, and_self, require_of, if_true]
  cases loader.content call.envelope.mediaType
      (call.envelope.contentBytes loader.ingress.hashing) with
  | error raised => rfl
  | ok content =>
      rw [ok_bind, ← show call.envelope.sourceId = call.source.sourceId from owned]
      rfl

theorem replaysExactly_of_canonical
    (written : Canonical loader.ingress.hashing call.envelope) :
    ReplaysExactly loader session.state ack.observationId call.envelope := by
  obtain ⟨row, member, rowId, sameContent, loaded⟩ := load_eq filed stored built logged fresh
  obtain ⟨content, read, bytes⟩ : ∃ content,
      loader.content call.envelope.mediaType
        (call.envelope.contentBytes loader.ingress.hashing) = .ok content ∧
      (loadedAs call.envelope row.replayRunId row.idempotencyKey content).contentBytes
        loader.ingress.hashing = call.envelope.contentBytes loader.ingress.hashing := by
    by_cases json : call.envelope.mediaType = "application/json"
    · obtain ⟨payload, same⟩ := written json
      obtain ⟨again, decoded, sameBytes⟩ := loader.canonical payload
      refine ⟨.payload again, ?_, sameBytes.trans same.symm⟩
      rw [ObservationEnvelopeLoader.content, if_pos json, same, decoded]
    · exact ⟨_, if_neg json, rfl⟩
  rw [read] at loaded
  refine ⟨_, loaded, ⟨_, _, _, rfl⟩, bytes, fun source draw owned => ?_⟩
  -- the key of the observation leads back to it
  have located : loader.ingress.locate session.state
      (loadedAs call.envelope row.replayRunId row.idempotencyKey content) = .ok (.inl row) := by
    rw [locate, filed.tables.observed_of_mem member]
    exact if_pos sameContent
  obtain ⟨again, sameId, replays⟩ := @Tables.accept_located row loader.ingress session.state
    ⟨source, _, draw⟩ filed.tables owned member located sameContent
  exact ⟨again, sameId.trans rowId, replays⟩

theorem canonical_of_replaysExactly
    (replays : ReplaysExactly loader session.state ack.observationId call.envelope) :
    Canonical loader.ingress.hashing call.envelope := by
  intro json
  obtain ⟨row, -, -, -, loaded⟩ := load_eq filed stored built logged fresh
  obtain ⟨replay, given, -, bytes, -⟩ := replays
  rw [given, ObservationEnvelopeLoader.content, if_pos json] at loaded
  split at loaded
  · cases loaded
  · cases loaded
    exact ⟨_, bytes.symm⟩
  · cases loaded

end Loading

theorem stored_acceptAll (ingress : EvidenceIngress) (calls : List IngressCall)
    (built : ∀ call ∈ calls, Built ingress.hashing call.envelope)
    (observationIds : (calls.map fun call => call.draw.observationId).Nodup)
    (artifactIds : (calls.map fun call => call.draw.artifactId).Nodup) :
    (Filed ingress (acceptAll ingress calls) ∧
      (acceptAll ingress calls).log.map Prod.fst = calls) ∧
        Stored ingress (acceptAll ingress calls) :=
  acceptAll_induction ⟨fun member => absurd member not_mem_nil, .nil⟩
    (fun filed built newObservation newArtifact stored =>
      stored.after filed built newObservation newArtifact) calls built observationIds artifactIds

/-- **When observations replay exactly.**  However the store was reached, the observation
of an envelope that was accepted afresh replays exactly, unless the content is declared
to be JSON and is not written as the ingress writes an object. -/
theorem replaysExactly_iff (loader : ObservationEnvelopeLoader)
    (calls : List IngressCall) (built : ∀ call ∈ calls, Built loader.ingress.hashing call.envelope)
    (observationIds : (calls.map fun call => call.draw.observationId).Nodup)
    (artifactIds : (calls.map fun call => call.draw.artifactId).Nodup)
    {ack : ObservationAck} (logged : (call, .ok ack) ∈ (acceptAll loader.ingress calls).log)
    (fresh : ack.replay = false) :
    ReplaysExactly loader (acceptAll loader.ingress calls).state ack.observationId call.envelope ↔
      Canonical loader.ingress.hashing call.envelope := by
  obtain ⟨⟨filed, inOrder⟩, stored⟩ :=
    stored_acceptAll loader.ingress calls built observationIds artifactIds
  have builtHere : Built loader.ingress.hashing call.envelope :=
    built call (inOrder ▸ mem_map_of_mem logged)
  exact ⟨canonical_of_replaysExactly filed stored builtHere logged fresh,
    replaysExactly_of_canonical filed stored builtHere logged fresh⟩

/-- The loader of the runs below, which reads two texts of the empty object. -/
def plainLoader : ObservationEnvelopeLoader where
  ingress := plainIngress
  loads bytes :=
    if bytes = encode "\x7b\x7d" ∨ bytes = [123, 32, 125] then some (.object []) else none
  canonical _ := ⟨[], if_pos (.inl rfl), rfl⟩

/-- The observation that was filed under a collision key replays exactly. -/
theorem replaysExactly_iff_revisedPackage :
    ReplaysExactly plainLoader (acceptAll plainIngress revisedPackage).state "observation-2"
      (packageCall "npm" "1" [2] "2").envelope :=
  (@replaysExactly_iff (packageCall "npm" "1" [2] "2") plainLoader revisedPackage
    (fun call member => by
      simp only [revisedPackage, mem_cons, not_mem_nil, or_false] at member
      rcases member with rfl | rfl | rfl <;> exact .binary _ _ _)
    (by decide) (by decide)
    ⟨"observation-2", some "artifact-2", 0, false⟩ (by decide +kernel) rfl).2
    (fun json => absurd json (by decide))

/-- The call that offers `\x7b \x7d`, an object with a blank, as a body of JSON. -/
def declaredJson : IngressCall where
  source := { sourceId := "registry" }
  envelope := forBinaryPayload plainHashing
    { acquisitionRunId := "run", trigger := .scheduled, sourceId := "registry",
      externalObjectId := "npm", observedAt := 0 } [123, 32, 125] "application/json"
  draw := { now := 0, observationId := "observation-1", artifactId := "artifact-1" }

/-- **A body of JSON is rewritten.**  The blank is lost when the observation is loaded. -/
theorem declaredJson_differs :
    ¬ ∀ (loader : ObservationEnvelopeLoader) (calls : List IngressCall),
      (∀ call ∈ calls, Built loader.ingress.hashing call.envelope) →
      (calls.map fun call => call.draw.observationId).Nodup →
      (calls.map fun call => call.draw.artifactId).Nodup →
      ∀ call ack, (call, .ok ack) ∈ (acceptAll loader.ingress calls).log → ack.replay = false →
        ReplaysExactly loader (acceptAll loader.ingress calls).state ack.observationId
          call.envelope := by
  intro always
  have built : Built plainHashing declaredJson.envelope := .binary _ _ _
  have builtAll : ∀ call ∈ [declaredJson], Built plainHashing call.envelope :=
    fun call member => mem_singleton.1 member ▸ built
  have logged : (declaredJson, .ok ⟨"observation-1", some "artifact-1", 0, false⟩) ∈
      (acceptAll plainIngress [declaredJson]).log := by decide +kernel
  obtain ⟨⟨filed, -⟩, stored⟩ :=
    stored_acceptAll plainIngress [declaredJson] builtAll (by decide) (by decide)
  obtain ⟨_, same⟩ := @canonical_of_replaysExactly plainLoader _ _ _ filed stored built
    logged rfl (always plainLoader [declaredJson] builtAll (by decide) (by decide) _ _ logged rfl) rfl
  exact absurd (show [123, 32, 125] = encode "\x7b\x7d" from same) (by decide +kernel)

end SecFusion.Intelligence.Ingestion
