import SecFusion.Raised
import SecFusion.Foundations.Dict
import SecFusion.Foundations.Json
import SecFusion.Foundations.Text

/-!
# Sandbox contracts

The data model of `packages/runtime/sandbox`: profiles and their selection, what a caller
asks of a sandbox, the lease of an instance, and what an execution in it answers.
-/

namespace SecFusion.Sandbox

open Foundations

/-! ## Profiles -/

inductive IsolationClass where
  | none
  | processRestricted
  | containerStandard
  | microvmUntrusted
  | fullvmBrowser
  deriving DecidableEq

/-- The values that the validator of `SandboxProfile` leaves to `network_mode`. -/
inductive NetworkMode where
  | deny
  | allowlist
  | proxied
  deriving DecidableEq

/-- The values that it leaves to `credential_injection`. -/
inductive CredentialInjection where
  | none
  | gateway
  deriving DecidableEq

/-- The part of `SandboxProfile` that the broker reads. -/
structure SandboxProfile where
  (profileId revision : String)
  isolationClass : IsolationClass
  backend : String
  wallTimeoutSeconds : Option ℕ := .none
  writablePaths : List String := []
  networkMode : NetworkMode := .deny
  allowedDestinations : List String := []
  credentialInjection : CredentialInjection := .none
  artifactExportPolicy : String := "explicit"
  wall_pos : ∀ seconds ∈ wallTimeoutSeconds, 0 < seconds := by decide
  identified : (isBlank profileId || isBlank revision || isBlank backend) = false :=
    by decide
  deriving DecidableEq

/-- The text by which an envelope names its profile. -/
def SandboxProfile.ref (profile : SandboxProfile) : String :=
  profile.profileId ++ "@" ++ profile.revision

def processRestrictedProfile : SandboxProfile where
  profileId := "process_restricted"
  revision := "1"
  isolationClass := .processRestricted
  backend := "openshell"

def containerStandardProfile : SandboxProfile where
  profileId := "container_standard"
  revision := "1"
  isolationClass := .containerStandard
  backend := "openshell+docker"
  writablePaths := ["/workspace", "/tmp"]
  networkMode := .proxied
  credentialInjection := .gateway

def microvmUntrustedProfile : SandboxProfile where
  profileId := "microvm_untrusted"
  revision := "1"
  isolationClass := .microvmUntrusted
  backend := "firecracker"

/-- `default_sandbox_profiles`. -/
def defaultSandboxProfiles : Dict IsolationClass SandboxProfile where
  entries := [(.processRestricted, processRestrictedProfile),
    (.containerStandard, containerStandardProfile), (.microvmUntrusted, microvmUntrustedProfile)]
  nodup := by decide

/-- `SandboxSelection` -/
structure SandboxSelection where
  profile : Option SandboxProfile := .none
  available : Bool
  reason : Option String := .none

/-- `profiles or default_sandbox_profiles()` -/
def orDefaultProfiles (profiles : Dict IsolationClass SandboxProfile) :
    Dict IsolationClass SandboxProfile :=
  if profiles.entries = [] then defaultSandboxProfiles else profiles

/-- `select_sandbox_profile`. -/
def selectSandboxProfile (minimumIsolation : IsolationClass) (availableBackends : List String)
    (profiles : Dict IsolationClass SandboxProfile) : SandboxSelection :=
  if minimumIsolation = .none then { available := true }
  else
    match (orDefaultProfiles profiles).get? minimumIsolation with
    | .none => { available := false, reason := some "sandbox_profile_unavailable" }
    | some profile =>
        if ∀ component ∈ profile.backend.toList.splitOn '+',
            ofList component ∈ availableBackends then
          { available := true, profile := some profile }
        else { available := false, reason := some "sandbox_unavailable" }

/-! ## Requests -/

/-- `ref.startswith("artifact:")` -/
def isArtifactRef (ref : String) : Bool := (afterHead? "artifact:" ref).isSome

/-- `".." in PurePosixPath(path).parts` -/
def climbs (path : String) : Bool := ['.', '.'] ∈ path.toList.splitOn '/'

/-- `_validate_absolute_sandbox_path`, as a condition. -/
def AbsoluteSandboxPath (path : String) : Prop :=
  path.toList.head? = some '/' ∧ climbs path = false

instance (path : String) : Decidable (AbsoluteSandboxPath path) :=
  inferInstanceAs (Decidable (_ ∧ _))

/-- `_validate_relative_export_path`. -/
def validateRelativeExportPath (path : String) : Except Raised Unit :=
  require (¬ (path.toList.head? = some '/' ∨ climbs path = true ∨ isBlank path = true))
    (.valueError "sandbox export path must be normalized relative path")

structure SandboxCreateRequest where
  requestId : String
  minimumIsolation : IsolationClass
  (workspaceArtifactRefs readonlyArtifactRefs requestedWritablePaths : List String := [])
  (networkDestinations credentialScope : List String := [])
  mounts_artifacts : ∀ ref ∈ workspaceArtifactRefs ++ readonlyArtifactRefs,
    isArtifactRef ref = true := by decide
  paths_absolute : ∀ path ∈ requestedWritablePaths, AbsoluteSandboxPath path := by decide

structure SandboxGrants where
  fulfilledObligationKinds : List String := []
  (networkGrantRef credentialGrantRef : Option String := .none)

structure SandboxLeaseSpec where
  (executionId taskRunId : String)
  profile : SandboxProfile
  (workspaceArtifactRefs readonlyArtifactRefs writablePaths networkDestinations : List String := [])
  networkGrantRef : Option String := .none
  credentialScope : List String := []
  credentialGrantRef : Option String := .none
  deriving DecidableEq

structure SandboxExecRequest where
  (operationId programRef : String)
  arguments : JsonObject := []
  inputArtifactRefs : List String := []
  requestedTimeoutSeconds : ℚ
  timeout_pos : 0 < requestedTimeoutSeconds := by decide
  program_ref : (afterHead? "program:" programRef).isSome ∨ isArtifactRef programRef := by
    decide
  inputs_artifacts : ∀ ref ∈ inputArtifactRefs, isArtifactRef ref := by decide
  deriving DecidableEq

structure SandboxBackendExecResult where
  status : String
  exitCode : Option ℤ := .none
  (stdoutArtifactRef stderrArtifactRef failureCode : Option String := .none)

structure SandboxExecResult where
  (sandboxExecutionId operationId status : String)
  exitCode : Option ℤ := .none
  (stdoutArtifactRef stderrArtifactRef : Option String := .none)
  timeoutSeconds : ℚ
  (startedAt finishedAt : ℤ)
  failureCode : Option String := .none
  replay : Bool := false

/-! ## Checks of the broker -/

/-- `_validate_request_against_profile`. -/
def validateRequestAgainstProfile (request : SandboxCreateRequest) (profile : SandboxProfile)
    (grants : SandboxGrants) : Except Raised Unit := do
  require (∀ path ∈ request.requestedWritablePaths, path ∈ profile.writablePaths)
    (.valueError "sandbox writable path exceeds profile")
  require (¬ (profile.networkMode = .deny ∧ request.networkDestinations ≠ []))
    (.valueError "sandbox profile denies network")
  require (profile.networkMode = .allowlist →
      ∀ destination ∈ request.networkDestinations, destination ∈ profile.allowedDestinations)
    (.valueError "sandbox destination exceeds profile allowlist")
  require (profile.networkMode = .proxied → request.networkDestinations ≠ [] →
      grants.networkGrantRef.isSome)
    (.valueError "proxied sandbox network requires NetworkGrant")
  if request.credentialScope ≠ [] then do
    require (profile.credentialInjection = .gateway)
      (.valueError "sandbox profile does not allow credential injection")
    require grants.credentialGrantRef.isSome
      (.valueError "sandbox credential scope requires CredentialGrant")
  else return ()

/-- `_validate_backend_artifact_refs`. -/
def validateBackendArtifactRefs (result : SandboxExecResult) : Except Raised Unit :=
  require ((∀ ref ∈ result.stdoutArtifactRef, isArtifactRef ref = true) ∧
      ∀ ref ∈ result.stderrArtifactRef, isArtifactRef ref = true)
    (.runtimeError "sandbox backend output must be ArtifactRef")

end SecFusion.Sandbox
