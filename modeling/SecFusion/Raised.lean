import SecFusion.Foundations.Transaction

/-!
# Exceptions

The exceptions the modelled services raise, with their texts.  A raised
exception rolls the transaction back, so which one it is matters to the caller
and never to the store.
-/

namespace SecFusion

/-- The classes of `ApplicationError`, by their codes. -/
inductive ApplicationErrorCode where
  | resourceNotFound
  | revisionConflict
  | lifecycleConflict
  | permissionDenied
  | dependencyUnavailable
  | deadlineExceeded
  | decisionValidationFailed
  | idempotencyConflict
  deriving DecidableEq

/-- An exception class of the services, with its message. -/
inductive Raised where
  | lookupError (message : String)
  | valueError (message : String)
  /-- A `ValueError` whose text ends with the quantity it refuses. -/
  | amountRejected (message : String) (amount : ℚ)
  | runtimeError (message : String)
  | overflowError (message : String)
  /-- A constraint of the database schema was violated. -/
  | integrityError (constraint : String)
  /-- `BudgetExceeded`, with the two quantities its text reports. -/
  | budgetExceeded (message : String) (requested remaining : ℚ)
  | stateRevisionConflict (message : String)
  | statePatchRejected (message : String)
  | evidenceNeedResolutionRejected (message : String)
  | capabilityDenied (message : String)
  | sandboxUnavailable (message : String)
  | sourceSchemaChanged (message : String)
  | timeoutError (message : String)
  /-- `ModelProviderResponseError`, with the status of the answer. -/
  | modelResponseError (statusCode : Option ℕ)
  | applicationError (code : ApplicationErrorCode) (detail : String)
  /-- An exception outside `Exception`, of the named class. -/
  | baseException (name : String)
  deriving DecidableEq

end SecFusion
