import SecFusion.Foundations.Table
import SecFusion.Foundations.Text
import SecFusion.Raised
import SecFusion.Sources.Contracts

/-!
# The evidence ingress

The model of `packages/intelligence/ingestion/evidence.py` over the tables of
observations and evidence artifacts and the content-addressed files of
`storage/artifacts.py`.

An envelope is looked up by its idempotency key.  If the observation that is found has
other content, it is looked up once more under a key that also hashes the content;
what is not found is filed, under the key of the last look.  `accept` answers beside
the state it leaves, since a file that has been written stays when the transaction
fails.
-/

namespace SecFusion.Intelligence.Ingestion

open Foundations SecFusion.Sources

/-! ## Rows and files -/

/-- One row of `observations`. -/
structure ObservationModel where
  (observationId sourceId acquisitionRunId : String)
  acquisitionTrigger : AcquisitionTrigger
  externalObjectId : String
  (externalRevision canonicalUrl : Option String)
  (publishedAt updatedAt : Option ℤ)
  observedAt : ℤ
  contentHash : String
  requestMetadata : JsonObject
  requestMetadataCaptured : Bool
  idempotencyKey : String
  createdAt : ℤ

/-- Where an artifact is kept. -/
inductive StorageUri where
  /-- `artifact://{bucket}/sha256/{content_hash[:2]}/{content_hash}` -/
  | artifact (bucket contentHash : String)
  /-- A locator outside every bucket. -/
  | foreign (text : String)
  deriving DecidableEq

/-- One row of `evidence_artifacts`. -/
structure EvidenceArtifactModel where
  (artifactId observationId mediaType : String)
  storageUri : StorageUri
  contentHash : String
  accessRights : JsonObject
  trustClass : String
  createdAt : ℤ

structure EvidenceState where
  observations : Table ObservationModel String ObservationModel.observationId := Table.empty
  artifacts : Table EvidenceArtifactModel String EvidenceArtifactModel.artifactId := Table.empty
  /-- The files of the bucket, by the digest in their path. -/
  files : String → Option Bytes := fun _ => none

structure ObservationAck where
  observationId : String
  artifactId : Option String
  acceptedAt : ℤ
  replay : Bool
  deriving DecidableEq

/-- The ingress: its hash functions and the bucket of its artifact store. -/
structure EvidenceIngress where
  hashing : Hashing
  bucket : String

/-- What one call reads from outside: the clock, and two new identifiers. -/
structure Draw where
  now : ℤ
  (observationId artifactId : String)
  deriving DecidableEq

namespace EvidenceIngress

variable (ingress : EvidenceIngress)

/-! ## The artifact store -/

/-- `FilesystemArtifactStore.put` -/
def put (files : String → Option Bytes) (contentHash : String) (body : Bytes) :
    Except Raised (StorageUri × (String → Option Bytes)) :=
  if ingress.hashing.sha256 body ≠ contentHash then
    .error (.valueError "artifact body does not match declared content_hash")
  else
    match files contentHash with
    | some present =>
        if ingress.hashing.sha256 present ≠ contentHash then
          .error (.runtimeError "content-addressed artifact path contains different bytes")
        else .ok (.artifact ingress.bucket contentHash, files)
    | none =>
        .ok (.artifact ingress.bucket contentHash, update files contentHash (some body))

/-- The file behind a locator. -/
def file (files : String → Option Bytes) (uri : StorageUri) : Except Raised (Option Bytes) :=
  match uri with
  | .artifact bucket contentHash =>
      if bucket = ingress.bucket then .ok (files contentHash)
      else .error (.valueError "artifact URI is outside configured bucket")
  | .foreign _ => .error (.valueError "artifact URI is outside configured bucket")

/-! ## Accepting an envelope -/

/-- `_revision_collision_key` -/
def revisionCollisionKey (envelope : IngestEnvelope) : String :=
  ingress.hashing.sha256 (encode s!"{envelope.idempotencyKey}:{envelope.contentHash}")

/-- The observation under an idempotency key. -/
def observed (state : EvidenceState) (key : String) : Option ObservationModel :=
  state.observations.rows.find? fun row => row.idempotencyKey = key

/-- The observation that an envelope repeats, or the key to file a new one under. -/
def locate (state : EvidenceState) (envelope : IngestEnvelope) :
    Except Raised (ObservationModel ⊕ String) :=
  match observed state envelope.idempotencyKey with
  | none => .ok (.inr envelope.idempotencyKey)
  | some existing =>
      if existing.contentHash = envelope.contentHash then .ok (.inl existing)
      else
        let effectiveIdempotencyKey := ingress.revisionCollisionKey envelope
        match observed state effectiveIdempotencyKey with
        | none => .ok (.inr effectiveIdempotencyKey)
        | some collision =>
            if collision.contentHash ≠ envelope.contentHash then
              .error (.runtimeError "revision collision key resolved to unexpected content hash")
            else .ok (.inl collision)

/-- The files after the replay of an artifact, which puts a lost file back. -/
def recover (files : String → Option Bytes) (artifact : EvidenceArtifactModel)
    (envelope : IngestEnvelope) : Except Raised (String → Option Bytes) := do
  let present ← ingress.file files artifact.storageUri
  if present.isSome then .ok files
  else
    let (restored, files) ← ingress.put files artifact.contentHash
      (envelope.contentBytes ingress.hashing)
    let recovered ← ingress.file files artifact.storageUri
    if restored ≠ artifact.storageUri ∧ recovered.isNone then
      .error (.runtimeError "artifact replay recovery changed persisted storage URI")
    else if recovered.map ingress.hashing.sha256 ≠ some artifact.contentHash then
      .error (.runtimeError "artifact replay recovery restored mismatched bytes")
    else .ok files

/-- `_replay_ack` -/
def replayAck (state : EvidenceState) (observation : ObservationModel)
    (envelope : IngestEnvelope) : Except Raised (ObservationAck × (String → Option Bytes)) :=
  match state.artifacts.rows.find? fun row => row.observationId = observation.observationId with
  | none => .error (.runtimeError "observation exists without evidence artifact")
  | some artifact =>
      if artifact.contentHash ≠ envelope.contentHash then
        .error (.runtimeError "replayed artifact content hash does not match observation")
      else do
        let files ← ingress.recover state.files artifact envelope
        .ok ({ observationId := observation.observationId
               artifactId := some artifact.artifactId
               acceptedAt := observation.createdAt
               replay := true }, files)

def newObservation (source : SourceDefinition) (envelope : IngestEnvelope) (draw : Draw)
    (effectiveIdempotencyKey : String) : ObservationModel where
  observationId := draw.observationId
  sourceId := source.sourceId
  acquisitionRunId := envelope.acquisitionRunId
  acquisitionTrigger := envelope.trigger
  externalObjectId := envelope.externalObjectId
  externalRevision := envelope.externalRevision
  canonicalUrl := envelope.canonicalUrl
  publishedAt := envelope.publishedAt
  updatedAt := envelope.updatedAt
  observedAt := envelope.observedAt
  contentHash := envelope.contentHash
  requestMetadata := envelope.requestMetadata
  requestMetadataCaptured := true
  idempotencyKey := effectiveIdempotencyKey
  createdAt := draw.now

def newArtifact (source : SourceDefinition) (envelope : IngestEnvelope) (draw : Draw)
    (storageUri : StorageUri) : EvidenceArtifactModel where
  artifactId := draw.artifactId
  observationId := draw.observationId
  mediaType := envelope.mediaType
  storageUri
  contentHash := envelope.contentHash
  accessRights := source.accessRights
  trustClass := "external_untrusted"
  createdAt := draw.now

/-- The two insertions of a new observation, with the constraints of the tables. -/
def insertEvidence (state : EvidenceState) (observation : ObservationModel)
    (artifact : EvidenceArtifactModel) : Except Raised EvidenceState := do
  require (∀ row ∈ state.observations.rows, row.idempotencyKey ≠ observation.idempotencyKey)
    (.integrityError "uq_observations_idempotency_key")
  let observations ← fetch (state.observations.insert? observation)
    (.integrityError "observations_pkey")
  require (∀ row ∈ state.artifacts.rows,
      (row.observationId, row.contentHash) ≠ (artifact.observationId, artifact.contentHash))
    (.integrityError "uq_evidence_artifact_observation_hash")
  let artifacts ← fetch (state.artifacts.insert? artifact)
    (.integrityError "evidence_artifacts_pkey")
  .ok { state with observations, artifacts }

/-- `accept`, with the answer beside the state. -/
def accept (source : SourceDefinition) (envelope : IngestEnvelope) (draw : Draw)
    (state : EvidenceState) : Except Raised ObservationAck × EvidenceState :=
  if envelope.sourceId ≠ source.sourceId then
    (.error (.valueError "envelope source_id does not match source definition"), state)
  else
    match ingress.locate state envelope with
    | .error raised => (.error raised, state)
    | .ok (.inl observation) =>
        match ingress.replayAck state observation envelope with
        | .error raised => (.error raised, state)
        | .ok (ack, files) => (.ok ack, { state with files })
    | .ok (.inr effectiveIdempotencyKey) =>
        match ingress.put state.files envelope.contentHash
            (envelope.contentBytes ingress.hashing) with
        | .error raised => (.error raised, state)
        | .ok (storageUri, files) =>
            let written := { state with files }
            match insertEvidence written
                (newObservation source envelope draw effectiveIdempotencyKey)
                (newArtifact source envelope draw storageUri) with
            | .error raised => (.error raised, written)
            | .ok filed =>
                (.ok { observationId := draw.observationId
                       artifactId := some draw.artifactId
                       acceptedAt := draw.now
                       replay := false }, filed)

end EvidenceIngress

/-! ## Sequences of calls -/

structure IngressCall where
  source : SourceDefinition
  envelope : IngestEnvelope
  draw : Draw
  deriving DecidableEq

/-- The envelope is from the source it is offered for. -/
def IngressCall.Owned (call : IngressCall) : Prop :=
  call.envelope.sourceId = call.source.sourceId

instance (call : IngressCall) : Decidable call.Owned :=
  inferInstanceAs (Decidable (_ = _))

/-- The state, and every call so far with its answer. -/
structure Session where
  state : EvidenceState := {}
  log : List (IngressCall × Except Raised ObservationAck) := []

/-- The session after one more call. -/
def Session.call (ingress : EvidenceIngress) (session : Session) (call : IngressCall) : Session :=
  let (answer, state) := ingress.accept call.source call.envelope call.draw session.state
  { state, log := session.log ++ [(call, answer)] }

/-- The session after some calls on empty tables. -/
def acceptAll (ingress : EvidenceIngress) (calls : List IngressCall) : Session :=
  calls.foldl (Session.call ingress) {}

end SecFusion.Intelligence.Ingestion
