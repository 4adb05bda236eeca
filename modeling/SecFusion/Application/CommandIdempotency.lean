import SecFusion.Raised
import SecFusion.Foundations.Json
import SecFusion.Foundations.Table

/-!
# Command records

The model of `apps/application/command_idempotency.py`: a command with a key is claimed
by a pending record, which the command completes or fails; a second command with the key
is answered from a completed record and refused otherwise.
-/

namespace SecFusion.Application

open Foundations

inductive CommandStatus where
  | pending
  | completed
  | failed
  deriving DecidableEq

/-- `(principal_scope, operation, key)`, the identity of a command record. -/
abbrev CommandKey := String × String × String

/-- One row of `product_command_records`. -/
structure ProductCommandRecordModel where
  identity : CommandKey
  requestDigest : String
  responseRef : Option String := none
  responsePayload : Option JsonObject := none
  status : CommandStatus := .pending
  createdAt : ℤ
  deriving DecidableEq

abbrev CommandRecords := Table ProductCommandRecordModel CommandKey (·.identity)

/-- `IdempotencyConflictError`. -/
def idempotencyConflict (detail : String) : Raised :=
  .applicationError .idempotencyConflict detail

/-- The end of `claim_command`, when there is a record under the key. -/
def replayCommand (existing : ProductCommandRecordModel) (digest : String) :
    Except Raised ProductCommandRecordModel := do
  require (existing.requestDigest = digest)
    (idempotencyConflict "Idempotency-Key was used with another request")
  require (existing.status ≠ .failed)
    (idempotencyConflict "the original command failed; submit a new command")
  require (existing.status = .completed ∧ existing.responseRef ≠ none ∧
      existing.responseRef ≠ some "")
    (idempotencyConflict "command is still in progress")
  return existing

/-- `claim_command`: the record of the command, if it has a key, and whether it is a
replay. -/
def claimCommand (records : CommandRecords) (principal operation : String)
    (key : Option String) (digest : String) (now : ℤ) :
    Except Raised ((Option ProductCommandRecordModel × Bool) × CommandRecords) :=
  match key with
  | none => .ok ((none, false), records)
  | some key => do
      require (key ≠ "" ∧ key.length ≤ 128)
        (.valueError "Idempotency-Key must contain 1-128 characters")
      match records.get? (principal, operation, key) with
      | none => do
          let record : ProductCommandRecordModel :=
            { identity := (principal, operation, key), requestDigest := digest, createdAt := now }
          let next ← fetch (records.insert? record)
            (idempotencyConflict "command is still being admitted")
          return ((some record, false), next)
      | some existing => do
          let replayed ← replayCommand existing digest
          return ((some replayed, true), records)

def completed (responseRef : String) (responsePayload : Option JsonObject)
    (record : ProductCommandRecordModel) : ProductCommandRecordModel :=
  { record with responseRef := some responseRef, responsePayload, status := .completed }

theorem completed_identity (responseRef : String) (responsePayload : Option JsonObject)
    (record : ProductCommandRecordModel) :
    (completed responseRef responsePayload record).identity = record.identity := rfl

/-- `complete_command`. -/
def completeCommand (records : CommandRecords) (record : Option ProductCommandRecordModel)
    (responseRef : String) (responsePayload : Option JsonObject := none) : CommandRecords :=
  match record with
  | none => records
  | some claimed =>
      records.update claimed.identity (completed responseRef responsePayload)
        (completed_identity responseRef responsePayload)

/-- The response reference of an answered question. -/
def turnRef (sessionId : String) (turnIndex : ℕ) : String :=
  sessionId ++ ":" ++ toString turnIndex

end SecFusion.Application
