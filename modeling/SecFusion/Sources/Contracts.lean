import SecFusion.Foundations.Json

/-!
# Source contracts

The part of `packages/sources/contracts.py` that the services share: the roles of a
source, and the envelope in which its content arrives.  An envelope names its content
by a hash and itself by the hash of a text that joins the source, the object and the
revision.
-/

namespace SecFusion.Sources

open Foundations

/-- What a source is good for. -/
inductive SourceRole where
  | signal
  | telemetry
  | primary
  | forensic
  | authority
  | reference
  deriving DecidableEq

/-- What a run was started by. -/
inductive AcquisitionTrigger where
  | scheduled
  | onDemand
  | investigation
  | replay
  | promotion
  deriving DecidableEq

/-- The part of a source's definition that the services below read. -/
structure SourceDefinition where
  sourceId : String
  accessRights : JsonObject := []
  deriving DecidableEq

/-! ## Envelopes -/

abbrev Bytes := List UInt8

/-- `text.encode()` -/
def encode (text : String) : Bytes := text.toByteArray.data.toList

theorem encode_injective : Function.Injective encode := by
  intro left right same
  have arrays : left.toByteArray.data = right.toByteArray.data := Array.toList_inj.1 same
  exact String.toByteArray_inj.1 (congrArg ByteArray.mk arrays)

/-- `sha256(...).hexdigest()`, taken as free of collisions, and the canonical text of a
payload. -/
structure Hashing where
  sha256 : Bytes → String
  canonicalPayload : JsonObject → Bytes
  injective : Function.Injective sha256
  /-- A digest is written in hexadecimal digits. -/
  noColon : ∀ bytes, ':' ∉ (sha256 bytes).toList

/-- What an envelope holds: a payload or a body, and not both. -/
inductive Content where
  | payload (payload : JsonObject)
  | body (body : Bytes)
  deriving DecidableEq

structure IngestEnvelope where
  acquisitionRunId : String
  trigger : AcquisitionTrigger
  (sourceId externalObjectId : String)
  canonicalUrl : Option String := none
  (publishedAt updatedAt : Option ℤ := none)
  observedAt : ℤ
  externalRevision : Option String := none
  mediaType : String := "application/json"
  content : Content
  contentHash : String
  requestMetadata : JsonObject := []
  idempotencyKey : String
  deriving DecidableEq

/-- `external_revision or content_hash` -/
def revisionOr (externalRevision : Option String) (contentHash : String) : String :=
  match externalRevision with
  | none | some "" => contentHash
  | some revision => revision

/-- The text whose hash an envelope is known by. -/
def identityText (sourceId externalObjectId identity : String) : String :=
  s!"{sourceId}:{externalObjectId}:{identity}"

section Envelopes

variable (hashing : Hashing)

/-- `content_bytes` -/
def IngestEnvelope.contentBytes (envelope : IngestEnvelope) : Bytes :=
  match envelope.content with
  | .body body => body
  | .payload payload => hashing.canonicalPayload payload

/-- What the caller of a builder gives, apart from the content. -/
structure EnvelopeFields where
  acquisitionRunId : String
  trigger : AcquisitionTrigger
  (sourceId externalObjectId : String)
  canonicalUrl : Option String := none
  (publishedAt updatedAt : Option ℤ := none)
  externalRevision : Option String := none
  requestMetadata : Option JsonObject := none
  /-- As given, or what the clock says. -/
  observedAt : ℤ

def EnvelopeFields.envelope (fields : EnvelopeFields) (content : Content) (mediaType : String)
    (contentHash : String) : IngestEnvelope :=
  let identity := revisionOr fields.externalRevision contentHash
  { acquisitionRunId := fields.acquisitionRunId
    trigger := fields.trigger
    sourceId := fields.sourceId
    externalObjectId := fields.externalObjectId
    canonicalUrl := fields.canonicalUrl
    publishedAt := fields.publishedAt
    updatedAt := fields.updatedAt
    observedAt := fields.observedAt
    externalRevision := fields.externalRevision
    mediaType
    content
    contentHash
    requestMetadata := fields.requestMetadata.getD []
    idempotencyKey := hashing.sha256 <|
      encode (identityText fields.sourceId fields.externalObjectId identity) }

def forJsonPayload (fields : EnvelopeFields) (payload : JsonObject) : IngestEnvelope :=
  fields.envelope hashing (.payload payload) "application/json"
    (hashing.sha256 (hashing.canonicalPayload payload))

def forBinaryPayload (fields : EnvelopeFields) (body : Bytes) (mediaType : String) :
    IngestEnvelope :=
  fields.envelope hashing (.body body) mediaType (hashing.sha256 body)

/-- One of the two builders made the envelope. -/
inductive Built : IngestEnvelope → Prop
  | json (fields : EnvelopeFields) (payload : JsonObject) :
      Built (forJsonPayload hashing fields payload)
  | binary (fields : EnvelopeFields) (body : Bytes) (mediaType : String) :
      Built (forBinaryPayload hashing fields body mediaType)

variable {hashing} {envelope : IngestEnvelope}

/-- The text behind an envelope's idempotency key. -/
def IngestEnvelope.text (envelope : IngestEnvelope) : String :=
  identityText envelope.sourceId envelope.externalObjectId
    (revisionOr envelope.externalRevision envelope.contentHash)

theorem Built.contentHash (built : Built hashing envelope) :
    envelope.contentHash = hashing.sha256 (envelope.contentBytes hashing) := by
  cases built <;> rfl

theorem Built.idempotencyKey (built : Built hashing envelope) :
    envelope.idempotencyKey = hashing.sha256 (encode envelope.text) := by
  cases built <;> rfl

end Envelopes

end SecFusion.Sources
