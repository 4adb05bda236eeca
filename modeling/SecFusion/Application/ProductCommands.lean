import SecFusion.Application.CommandIdempotency

/-!
# Product commands

Calls of `start_investigation`, `cancel_investigation` and `ask_question` that carry an
idempotency key, each in a session of its own, with their transactions interleaved in any
way.  `claim_command` inserts the record of a command in the transaction of the caller, so
what another call sees of it is decided when that transaction ends: `start_investigation`
and `cancel_investigation` end it with their writes and the completed record, `ask_question`
does so too when it only starts or continues an investigation, and otherwise it commits the
pending record with the runtime it has opened and settles the record later.

What a use case writes besides the record is an arbitrary value of the type `δ`, and which
way a use case takes is not determined by the model.  A retrieval that fails rolls the claim
back and commits the failed attempt alone, which is kept apart from the writes of commands.
-/

namespace SecFusion.Application

open Foundations

variable {δ : Type}

/-! ## Calls -/

inductive ProductOperation where
  | startInvestigation
  | cancelInvestigation
  | askQuestion
  deriving DecidableEq

def ProductOperation.value : ProductOperation → String
  | startInvestigation => "start_investigation"
  | cancelInvestigation => "cancel_investigation"
  | askQuestion => "ask_question"

/-- What `claim_command` is given. -/
structure ProductCall where
  principal : String
  operation : ProductOperation
  (key digest : String)

def ProductCall.identity (call : ProductCall) : CommandKey :=
  (call.principal, call.operation.value, call.key)

def ProductCall.record (call : ProductCall) (now : ℤ) : ProductCommandRecordModel where
  identity := call.identity
  requestDigest := call.digest
  createdAt := now

inductive CallStage where
  /-- Before `session.get`. -/
  | entered
  /-- No record was found, and the insertion is next. -/
  | inserting
  /-- The insertion has raised `IntegrityError`, and the record is read again. -/
  | conflicting
  /-- The record is inserted, in a transaction that has not ended. -/
  | claimed (record : ProductCommandRecordModel)
  /-- The pending record is committed, and the model is asked. -/
  | running (record : ProductCommandRecordModel)
  /-- `claim_command` has answered with a completed record. -/
  | replaying (record : ProductCommandRecordModel)
  | returned (responseRef : String)
  | raised
  deriving DecidableEq

/-- A call is in a transaction that has inserted its record. -/
def CallStage.isClaimed : CallStage → Bool
  | claimed _ => true
  | entered | inserting | conflicting | running _ | replaying _ | returned _ | raised => false

def CallStage.isOver : CallStage → Bool
  | returned _ | raised => true
  | entered | inserting | conflicting | claimed _ | running _ | replaying _ => false

structure CommandAttempt where
  call : ProductCall
  stage : CallStage

/-- What is committed, and the calls that have been made.  A call is named by its place. -/
structure CommandSystem (δ : Type) where
  records : CommandRecords
  attempts : List CommandAttempt
  /-- The writes that are committed, with the calls that have made them. -/
  applied : List (ℕ × δ)
  /-- The calls whose failed retrieval attempt is committed. -/
  failedRetrievals : List ℕ

def CommandSystem.initial : CommandSystem δ := ⟨.empty, [], [], []⟩

def CommandSystem.attempt? (system : CommandSystem δ) (position : ℕ) : Option CommandAttempt :=
  system.attempts[position]?

def CommandSystem.withCall (system : CommandSystem δ) (call : ProductCall) : CommandSystem δ :=
  { system with attempts := system.attempts ++ [⟨call, .entered⟩] }

def CommandSystem.withStage (system : CommandSystem δ) (position : ℕ) (stage : CallStage) :
    CommandSystem δ :=
  { system with
    attempts := system.attempts.modify position fun attempt => { attempt with stage } }

open CommandSystem (attempt? withCall withStage)

/-! ## Claiming -/

/-- The end of `claim_command`, on the record that was read. -/
def stageOfExisting (existing : ProductCommandRecordModel) (digest : String) : CallStage :=
  match replayCommand existing digest with
  | .ok record => .replaying record
  | .error _ => .raised

/-- The first `session.get`, after the check of the key. -/
def stageOfRead (records : CommandRecords) (call : ProductCall) : CallStage :=
  if call.key = "" ∨ 128 < call.key.length then .raised
  else
    match records.get? call.identity with
    | none => .inserting
    | some existing => stageOfExisting existing call.digest

/-- The insertion in the savepoint. -/
def stageOfInsert (records : CommandRecords) (call : ProductCall) (now : ℤ) : CallStage :=
  match records.insert? (call.record now) with
  | some _ => .claimed (call.record now)
  | none => .conflicting

/-- `session.get` after the `IntegrityError`. -/
def stageOfReread (records : CommandRecords) (call : ProductCall) : CallStage :=
  match records.get? call.identity with
  | none => .raised
  | some existing => stageOfExisting existing call.digest

/-- Another call has inserted the record of the key and has not ended its transaction. -/
def CommandSystem.Held (system : CommandSystem δ) (identity : CommandKey) : Prop :=
  ∃ attempt ∈ system.attempts, attempt.stage.isClaimed = true ∧ attempt.call.identity = identity

instance (system : CommandSystem δ) (identity : CommandKey) : Decidable (system.Held identity) :=
  inferInstanceAs (Decidable (∃ attempt ∈ system.attempts, _))

variable {records : CommandRecords} {call : ProductCall} {found : CommandAttempt} {other : ℕ}
  {stage : CallStage}

/-! ## Use cases -/

/-- How a use case goes on after `claim_command`. -/
inductive UseCaseTurn (δ : Type) where
  /-- `start_investigation` and `cancel_investigation`: the writes, the completed record and
  the commit; reading the view for the answer may raise afterwards. -/
  | finishes (caseId : String) (writes : δ) (answers : Bool)
  /-- `ask_question`: the writes with a turn of the session, the completed record and the
  commit. -/
  | settles (sessionId : String) (turnIndex : ℕ) (payload : JsonObject) (writes : δ)
  /-- `ask_question`: the runtime is opened and committed. -/
  | opens (writes : δ)
  /-- `_retrieve_query`: the transaction is rolled back, and the failed attempt is committed,
  unless that fails too. -/
  | failsRetrieval (recorded : Bool)
  /-- The failure handler of `ask_question`. -/
  | fails (runId : String) (writes : δ)
  /-- `ask_question` ends the run as blocked, with the record as it is. -/
  | blocks (writes : δ)
  /-- A replay is answered. -/
  | replays
  /-- The transaction, if there is one, is rolled back. -/
  | raises

def failedCommand (runId : String) (record : ProductCommandRecordModel) :
    ProductCommandRecordModel :=
  { record with responseRef := some ("task-run:" ++ runId), status := .failed }

theorem failedCommand_identity (runId : String) (record : ProductCommandRecordModel) :
    (failedCommand runId record).identity = record.identity := rfl

/-- What a turn commits, and where the call stands then. -/
structure TurnEffect (δ : Type) where
  records : CommandRecords
  writes : Option δ := none
  failedRetrieval : Bool := false
  stage : CallStage

/-- A turn of a use case, when it is one that the use case may take where it stands. -/
def takeTurn (records : CommandRecords) (operation : ProductOperation) :
    CallStage → UseCaseTurn δ → Option (TurnEffect δ)
  | .claimed record, .finishes caseId writes answers =>
      if operation = .askQuestion then none
      else some {
        records := records.put (completed caseId none record)
        writes := some writes
        stage := if answers then .returned caseId else .raised }
  | .claimed record, .settles sessionId turnIndex payload writes =>
      if operation = .askQuestion then some {
        records := records.put (completed (turnRef sessionId turnIndex) (some payload) record)
        writes := some writes
        stage := .returned (turnRef sessionId turnIndex) }
      else none
  | .claimed record, .opens writes =>
      if operation = .askQuestion then some {
        records := records.put record
        writes := some writes
        stage := .running record }
      else none
  | .claimed _, .failsRetrieval recorded =>
      if operation = .askQuestion then
        some { records, failedRetrieval := recorded, stage := .raised }
      else none
  | .running record, .settles sessionId turnIndex payload writes => some {
      records := completeCommand records (some record) (turnRef sessionId turnIndex) (some payload)
      writes := some writes
      stage := .returned (turnRef sessionId turnIndex) }
  | .running record, .fails runId writes => some {
      records := records.update record.identity (failedCommand runId)
        (failedCommand_identity runId)
      writes := some writes
      stage := .raised }
  | .running _, .blocks writes => some { records, writes := some writes, stage := .raised }
  | .replaying record, .replays =>
      some { records, stage := .returned (record.responseRef.getD "") }
  | stage, .raises => if stage.isOver then none else some { records, stage := .raised }
  | _, _ => none

def CommandSystem.settle (system : CommandSystem δ) (position : ℕ) (effect : TurnEffect δ) :
    CommandSystem δ :=
  { system.withStage position effect.stage with
    records := effect.records
    applied := system.applied ++ (effect.writes.map (position, ·)).toList
    failedRetrievals :=
      if effect.failedRetrieval then system.failedRetrievals ++ [position]
      else system.failedRetrievals }

/-! ## Moves -/

/-- What may happen next. -/
inductive CommandMove (δ : Type) where
  | calls (call : ProductCall)
  | reads (position : ℕ)
  | inserts (position : ℕ) (now : ℤ)
  | rereads (position : ℕ)
  | turns (position : ℕ) (turn : UseCaseTurn δ)

/-- Why a move cannot be made now. -/
inductive NotNow where
  | noCall
  | elsewhere
  /-- The insertion waits for the end of another transaction. -/
  | blocked

/-- The call at a position, when it stands at a stage. -/
def CommandSystem.attemptAt (system : CommandSystem δ) (position : ℕ) (stage : CallStage) :
    Except NotNow CommandAttempt := do
  let attempt ← fetch (system.attempt? position) .noCall
  require (attempt.stage = stage) .elsewhere
  return attempt

/-- One move.  Of two calls that insert the record of one key, the second waits until the
transaction of the first has ended. -/
def productCommand (move : CommandMove δ) (system : CommandSystem δ) :
    Except NotNow (Unit × CommandSystem δ) :=
  match move with
  | .calls call => .ok ((), system.withCall call)
  | .reads position => do
      let attempt ← system.attemptAt position .entered
      return ((), system.withStage position (stageOfRead system.records attempt.call))
  | .inserts position now => do
      let attempt ← system.attemptAt position .inserting
      require (¬ system.Held attempt.call.identity) .blocked
      return ((), system.withStage position (stageOfInsert system.records attempt.call now))
  | .rereads position => do
      let attempt ← system.attemptAt position .conflicting
      return ((), system.withStage position (stageOfReread system.records attempt.call))
  | .turns position turn => do
      let attempt ← fetch (system.attempt? position) .noCall
      let effect ← fetch
        (takeTurn system.records attempt.call.operation attempt.stage turn) .elsewhere
      return ((), system.settle position effect)

def systemAfter (moves : List (CommandMove δ)) : CommandSystem δ :=
  run productCommand .initial moves

/-! ## What stages say about records -/

/-- A call has inserted the record of its key, in a transaction that has not ended or that
has committed the record as pending. -/
def CallStage.Holds (stage : CallStage) : Prop :=
  ∃ record, stage = .claimed record ∨ stage = .running record

open CallStage (Holds)

/-- A record that a call has inserted and not settled. -/
structure IsPendingOf (call : ProductCall) (record : ProductCommandRecordModel) : Prop where
  identity : record.identity = call.identity
  digest : record.requestDigest = call.digest
  status : record.status = .pending

/-- A record that answers a call. -/
structure IsAnswerOf (call : ProductCall) (record : ProductCommandRecordModel)
    (responseRef : String) : Prop where
  digest : record.requestDigest = call.digest
  status : record.status = .completed
  responseRef : record.responseRef = some responseRef

/-- What the stage of a call says about the committed record of its key. -/
def StageKept (records : CommandRecords) (call : ProductCall) : CallStage → Prop
  | .claimed record => records.get? call.identity = none ∧ IsPendingOf call record
  | .running record => records.get? call.identity = some record ∧ IsPendingOf call record
  | .replaying record => records.get? call.identity = some record ∧
      ∃ responseRef, IsAnswerOf call record responseRef
  | .returned responseRef => ∃ record, records.get? call.identity = some record ∧
      IsAnswerOf call record responseRef
  | .entered | .inserting | .conflicting | .raised => True

theorem stageKept_of_existing {existing : ProductCommandRecordModel}
    (found : records.get? call.identity = some existing) :
    StageKept records call (stageOfExisting existing call.digest) ∧
      ¬ (stageOfExisting existing call.digest).Holds := by
  unfold stageOfExisting
  split
  next record ok =>
    obtain ⟨digest, ok⟩ := require_bind_eq_ok.1 ok
    obtain ⟨-, ok⟩ := require_bind_eq_ok.1 ok
    obtain ⟨⟨status, referred, -⟩, ok⟩ := require_bind_eq_ok.1 ok
    cases ok
    obtain ⟨responseRef, reference⟩ := Option.ne_none_iff_exists'.1 referred
    exact ⟨⟨found, responseRef, digest, status, reference⟩, by simp [Holds]⟩
  next => exact ⟨trivial, by simp [Holds]⟩

theorem stageKept_of_read (records : CommandRecords) (call : ProductCall) :
    StageKept records call (stageOfRead records call) ∧
      ¬ (stageOfRead records call).Holds := by
  unfold stageOfRead
  split
  · exact ⟨trivial, by simp [Holds]⟩
  · split
    next => exact ⟨trivial, by simp [Holds]⟩
    next existing found => exact stageKept_of_existing found

theorem stageKept_of_reread (records : CommandRecords) (call : ProductCall) :
    StageKept records call (stageOfReread records call) ∧
      ¬ (stageOfReread records call).Holds := by
  unfold stageOfReread
  split
  next => exact ⟨trivial, by simp [Holds]⟩
  next existing found => exact stageKept_of_existing found

theorem stageKept_of_insert (records : CommandRecords) (call : ProductCall) (now : ℤ) :
    StageKept records call (stageOfInsert records call now) := by
  unfold stageOfInsert
  split
  next inserted => exact ⟨(insert?_eq_some inserted).2, rfl, rfl, rfl⟩
  next => trivial

/-- What a stage says depends on the record of the key only. -/
theorem StageKept.congr {other : CommandRecords} (kept : StageKept records call stage)
    (same : other.get? call.identity = records.get? call.identity) :
    StageKept other call stage := by
  unfold StageKept at kept ⊢
  rw [same]
  exact kept

/-! ## What turns commit -/

/-- A turn commits writes with the record that the call has claimed, or it commits neither. -/
inductive TurnCases (records : CommandRecords) (call : ProductCall) (stage : CallStage)
    (effect : TurnEffect δ) : Prop
  | commits (record : ProductCommandRecordModel)
      (holds : stage = .claimed record ∨ stage = .running record)
      (others : ∀ identity, identity ≠ call.identity →
        effect.records.get? identity = records.get? identity)
      (recorded : (effect.records.get? call.identity).isSome)
      (kept : StageKept effect.records call effect.stage)
  | quiet (records : effect.records = records) (writes : effect.writes = none)
      (kept : StageKept effect.records call effect.stage)
      (idle : effect.stage = .raised ∨ ∃ responseRef, effect.stage = .returned responseRef)

variable {record : ProductCommandRecordModel}

/-- A settled record answers the call. -/
theorem IsPendingOf.completed
    (pending : IsPendingOf call record) (responseRef : String) (payload : Option JsonObject) :
    IsAnswerOf call (completed responseRef payload record) responseRef :=
  ⟨pending.digest, rfl, rfl⟩

theorem get?_put_record (records : CommandRecords) (row : ProductCommandRecordModel)
    (identity : row.identity = call.identity) :
    (records.put row).get? call.identity = some row ∧
      ∀ other, other ≠ call.identity → (records.put row).get? other = records.get? other := by
  constructor
  · rw [get?_put, if_pos identity]
  · intro other differs
    rw [get?_put, if_neg]
    rw [identity]
    exact fun same => differs same.symm

theorem get?_update_record
    (found : records.get? call.identity = some record) (identity : record.identity = call.identity)
    (rewrite : ProductCommandRecordModel → ProductCommandRecordModel)
    (keeps : ∀ row, (rewrite row).identity = row.identity) :
    (records.update record.identity rewrite keeps).get? call.identity = some (rewrite record) ∧
      ∀ other, other ≠ call.identity →
        (records.update record.identity rewrite keeps).get? other = records.get? other := by
  constructor
  · rw [get?_update, if_pos identity, found, map_some]
  · intro other differs
    rw [get?_update, if_neg]
    rw [identity]
    exact fun same => differs same.symm

variable {effect : TurnEffect δ}

/-- A turn that stores a row under the key, and ends the transaction that way. -/
theorem TurnCases.of_stored {record row : ProductCommandRecordModel}
    (holds : stage = .claimed record ∨ stage = .running record)
    (stored : effect.records.get? call.identity = some row ∧
      ∀ other, other ≠ call.identity → effect.records.get? other = records.get? other)
    (kept : StageKept effect.records call effect.stage) : TurnCases records call stage effect := by
  refine .commits record holds stored.2 ?_ kept
  rw [stored.1, Option.isSome_some]

theorem takeTurn_cases {turn : UseCaseTurn δ}
    (kept : StageKept records call stage)
    (took : takeTurn records call.operation stage turn = some effect) :
    TurnCases records call stage effect := by
  unfold takeTurn at took
  split at took
  next record caseId writes answers =>
    -- the use case commits its writes with the completed record
    obtain ⟨-, pending⟩ := kept
    split at took
    · cases took
    · cases took
      have stored := get?_put_record records (completed caseId none record)
        pending.identity
      cases answers with
      | true =>
          exact .of_stored (.inl rfl) stored ⟨_, stored.1, pending.completed caseId none⟩
      | false => exact .of_stored (.inl rfl) stored trivial
  next record sessionId turnIndex payload writes =>
    obtain ⟨-, pending⟩ := kept
    split at took
    · cases took
      have stored := get?_put_record records
        (completed (turnRef sessionId turnIndex) (some payload) record) pending.identity
      exact .of_stored (.inl rfl) stored ⟨_, stored.1, pending.completed _ _⟩
    · cases took
  next record writes =>
    obtain ⟨-, pending⟩ := kept
    split at took
    · cases took
      have stored := get?_put_record records record pending.identity
      exact .of_stored (.inl rfl) stored ⟨stored.1, pending⟩
    · cases took
  next record recorded =>
    -- the claim is rolled back, and what is committed is no write of the command
    split at took
    · cases took
      exact .quiet rfl rfl trivial (.inl rfl)
    · cases took
  next record sessionId turnIndex payload writes =>
    obtain ⟨found, pending⟩ := kept
    cases took
    have stored := get?_update_record found pending.identity
      (completed (turnRef sessionId turnIndex) (some payload))
      (completed_identity (turnRef sessionId turnIndex) (some payload))
    exact .of_stored (.inr rfl) stored ⟨_, stored.1, pending.completed _ _⟩
  next record runId writes =>
    obtain ⟨found, pending⟩ := kept
    cases took
    have stored := get?_update_record found pending.identity (failedCommand runId)
      (failedCommand_identity runId)
    exact .of_stored (.inr rfl) stored trivial
  next record writes =>
    obtain ⟨found, -⟩ := kept
    cases took
    exact .of_stored (.inr rfl) ⟨found, fun _ _ => rfl⟩ trivial
  next record =>
    obtain ⟨found, responseRef, answers⟩ := kept
    cases took
    refine .quiet rfl rfl ⟨record, found, ?_⟩ (.inr ⟨_, rfl⟩)
    rw [answers.responseRef]
    exact answers
  next =>
    split at took
    · cases took
    · cases took
      exact .quiet rfl rfl trivial (.inl rfl)
  next => cases took

/-! ## One call for a key -/

/-- A call holds the claim of its key, or it has committed writes. -/
def Engaged (system : CommandSystem δ) (position : ℕ) (attempt : CommandAttempt) : Prop :=
  attempt.stage.Holds ∨ ∃ writes, (position, writes) ∈ system.applied

/-- The invariant: what stages say of records is so, at most one call of a key is engaged,
and a key for which writes are committed has a record. -/
structure ClaimsKept (system : CommandSystem δ) : Prop where
  stages : ∀ position (attempt : CommandAttempt), system.attempt? position = some attempt →
    StageKept system.records attempt.call attempt.stage
  unique : ∀ position other (first second : CommandAttempt), system.attempt? position = some first →
    system.attempt? other = some second → first.call.identity = second.call.identity →
    Engaged system position first → Engaged system other second → position = other
  recorded : ∀ position writes, (position, writes) ∈ system.applied →
    ∃ attempt : CommandAttempt, system.attempt? position = some attempt ∧
      (system.records.get? attempt.call.identity).isSome

theorem ClaimsKept.initial : ClaimsKept (.initial : CommandSystem δ) where
  stages _ _ here := by cases here
  unique _ _ _ _ here := by cases here
  recorded _ _ member := by cases member

section

variable {system : CommandSystem δ} {position : ℕ} {attempt : CommandAttempt}

theorem attempt?_withStage (here : system.attempt? position = some attempt) (other : ℕ) :
    (system.withStage position stage).attempt? other =
      if position = other then some { attempt with stage } else system.attempt? other := by
  unfold attempt? at here ⊢
  rw [withStage, List.getElem?_modify]
  by_cases same : position = other
  · subst same
    rw [here, if_pos rfl]
    simp
  · simp [same]

/-- A call at a place after one call has moved is that call at its new stage, or another. -/
theorem attempt?_withStage_cases (here : system.attempt? position = some attempt)
    (moved : (system.withStage position stage).attempt? other = some found) :
    (other = position ∧ found = { attempt with stage }) ∨
      (other ≠ position ∧ system.attempt? other = some found) := by
  rw [attempt?_withStage here] at moved
  split at moved
  next same => exact .inl ⟨same.symm, (Option.some.inj moved).symm⟩
  next differs => exact .inr ⟨fun same => differs same.symm, moved⟩

/-- A call that moves stays the call it is. -/
theorem exists_attempt?_withStage {old : CommandAttempt}
    (here : system.attempt? position = some attempt) (found : system.attempt? other = some old) :
    ∃ new, (system.withStage position stage).attempt? other = some new ∧ new.call = old.call := by
  rw [attempt?_withStage here]
  split
  next same =>
    subst same
    rw [here] at found
    cases found
    exact ⟨_, rfl, rfl⟩
  next => exact ⟨old, found, rfl⟩

section

variable (kept : ClaimsKept system)

include kept

/-- Where nobody becomes engaged, at most one call of a key stays so. -/
theorem ClaimsKept.unique_of_before {next : CommandSystem δ}
    (before : ∀ other found, next.attempt? other = some found → Engaged next other found →
      ∃ old, system.attempt? other = some old ∧ old.call = found.call ∧ Engaged system other old)
    {first second : ℕ} {one two : CommandAttempt} (foundOne : next.attempt? first = some one)
    (foundTwo : next.attempt? second = some two) (same : one.call.identity = two.call.identity)
    (engagedOne : Engaged next first one) (engagedTwo : Engaged next second two) :
    first = second := by
  obtain ⟨oldOne, hereOne, callOne, engagedOne⟩ := before first one foundOne engagedOne
  obtain ⟨oldTwo, hereTwo, callTwo, engagedTwo⟩ := before second two foundTwo engagedTwo
  rw [← callOne, ← callTwo] at same
  exact kept.unique first second oldOne oldTwo hereOne hereTwo same engagedOne engagedTwo

/-- No call of a key is engaged that no transaction holds and that has no record. -/
theorem ClaimsKept.not_engaged
    (here : system.attempt? position = some attempt)
    (free : ¬ system.Held attempt.call.identity)
    (absent : system.records.get? attempt.call.identity = none) :
    ¬ Engaged system position attempt := by
  have said := kept.stages position attempt here
  rintro (⟨record, stage | stage⟩ | ⟨writes, member⟩)
  · refine free ⟨attempt, mem_of_getElem? here, ?_, rfl⟩
    rw [stage]
    rfl
  · rw [stage] at said
    obtain ⟨found, -⟩ := said
    rw [absent] at found
    cases found
  · obtain ⟨same, found, recorded⟩ := kept.recorded position writes member
    rw [here] at found
    cases found
    rw [absent] at recorded
    cases recorded

/-- A call that only reads, or whose insertion is refused, engages nobody. -/
theorem ClaimsKept.unclaimed
    (here : system.attempt? position = some attempt)
    (said : StageKept system.records attempt.call stage) (idle : ¬ stage.Holds) :
    ClaimsKept (system.withStage position stage) where
  stages other found moved := by
    rcases attempt?_withStage_cases here moved with ⟨rfl, rfl⟩ | ⟨-, before⟩
    · exact said
    · exact kept.stages other found before
  unique first second one two foundOne foundTwo same engagedOne engagedTwo := by
    refine kept.unique_of_before (fun other found moved engaged => ?_) foundOne foundTwo same
      engagedOne engagedTwo
    rcases attempt?_withStage_cases here moved with ⟨rfl, rfl⟩ | ⟨-, before⟩
    · exact ⟨attempt, here, rfl, .inr (engaged.resolve_left idle)⟩
    · exact ⟨found, before, rfl, engaged⟩
  recorded other writes member := by
    obtain ⟨old, found, recorded⟩ := kept.recorded other writes member
    obtain ⟨new, moved, same⟩ := exists_attempt?_withStage here found
    exact ⟨new, moved, by rwa [same]⟩

/-- A call that inserts the record of a key that is free is the only one engaged. -/
theorem ClaimsKept.claimed
    (here : system.attempt? position = some attempt)
    (free : ¬ system.Held attempt.call.identity)
    (said : StageKept system.records attempt.call (.claimed record)) :
    ClaimsKept (system.withStage position (.claimed record)) where
  stages other found moved := by
    rcases attempt?_withStage_cases here moved with ⟨rfl, rfl⟩ | ⟨-, before⟩
    · exact said
    · exact kept.stages other found before
  unique first second one two foundOne foundTwo same engagedOne engagedTwo := by
    have alone : ∀ {other found}, system.attempt? other = some found →
        found.call.identity = attempt.call.identity → ¬ Engaged system other found := by
      intro other found before same
      refine kept.not_engaged before ?_ ?_
      · rwa [same]
      · rw [same]
        exact said.1
    rcases attempt?_withStage_cases here foundOne with ⟨rfl, rfl⟩ | ⟨-, beforeOne⟩
    · rcases attempt?_withStage_cases here foundTwo with ⟨rfl, -⟩ | ⟨-, beforeTwo⟩
      · rfl
      · exact absurd engagedTwo (alone beforeTwo same.symm)
    · rcases attempt?_withStage_cases here foundTwo with ⟨rfl, rfl⟩ | ⟨-, beforeTwo⟩
      · exact absurd engagedOne (alone beforeOne same)
      · exact kept.unique first second one two beforeOne beforeTwo same engagedOne engagedTwo
  recorded other writes member := by
    obtain ⟨old, found, recorded⟩ := kept.recorded other writes member
    obtain ⟨new, moved, same⟩ := exists_attempt?_withStage here found
    exact ⟨new, moved, by rwa [same]⟩

/-- A call that is not engaged does not see how the one that is engaged for its key changes
the record. -/
theorem ClaimsKept.stage_of_other
    (here : system.attempt? position = some attempt) (holds : attempt.stage.Holds)
    (differs : other ≠ position) (before : system.attempt? other = some found)
    (others : ∀ identity, identity ≠ attempt.call.identity →
      records.get? identity = system.records.get? identity) :
    StageKept records found.call found.stage := by
  have said := kept.stages other found before
  have own := kept.stages position attempt here
  by_cases same : found.call.identity = attempt.call.identity
  · have unsettled : ∀ record, system.records.get? found.call.identity = some record →
        record.status = .pending := by
      intro record stored
      obtain ⟨claim, stage | stage⟩ := holds
      · rw [stage] at own
        rw [same, own.1] at stored
        cases stored
      · rw [stage] at own
        rw [same, own.1] at stored
        cases stored
        exact own.2.status
    have idle : ¬ found.stage.Holds := fun held =>
      differs (kept.unique other position found attempt before here same (.inl held) (.inl holds))
    cases stage : found.stage with
    | claimed record => exact absurd ⟨record, .inl stage⟩ idle
    | running record => exact absurd ⟨record, .inr stage⟩ idle
    | replaying record =>
        rw [stage] at said
        obtain ⟨stored, responseRef, answers⟩ := said
        have pending := unsettled record stored
        rw [answers.status] at pending
        cases pending
    | returned responseRef =>
        rw [stage] at said
        obtain ⟨record, stored, answers⟩ := said
        have pending := unsettled record stored
        rw [answers.status] at pending
        cases pending
    | entered | inserting | conflicting | raised => exact trivial
  · exact said.congr (others _ same)

end

theorem mem_applied_settle {writes : δ}
    (member : (other, writes) ∈ (system.settle position effect).applied) :
    (other, writes) ∈ system.applied ∨ (other = position ∧ effect.writes = some writes) := by
  refine (mem_append.1 member).imp_right fun new => ?_
  obtain ⟨value, written, same⟩ := map_eq_some_iff.1 (Option.mem_toList.1 new)
  cases same
  exact ⟨rfl, written⟩

theorem ClaimsKept.settle (kept : ClaimsKept system)
    (here : system.attempt? position = some attempt)
    (turns : TurnCases system.records attempt.call attempt.stage effect) :
    ClaimsKept (system.settle position effect) := by
  cases turns with
  | commits record holds others recorded said =>
      have held : attempt.stage.Holds := ⟨record, holds⟩
      refine ⟨fun other found moved => ?_, ?_, fun other writes member => ?_⟩
      · rcases attempt?_withStage_cases here moved with ⟨rfl, rfl⟩ | ⟨differs, before⟩
        · exact said
        · exact kept.stage_of_other here held differs before others
      · intro first second one two foundOne foundTwo same engagedOne engagedTwo
        refine kept.unique_of_before (fun other found moved engaged => ?_) foundOne foundTwo same
          engagedOne engagedTwo
        rcases attempt?_withStage_cases here moved with ⟨rfl, rfl⟩ | ⟨differs, before⟩
        · exact ⟨attempt, here, rfl, .inl held⟩
        · refine ⟨found, before, rfl, engaged.imp_right fun ⟨writes, member⟩ => ⟨writes, ?_⟩⟩
          exact (mem_applied_settle member).resolve_right fun own => differs own.1
      · rcases mem_applied_settle member with earlier | ⟨rfl, -⟩
        · obtain ⟨old, found, present⟩ := kept.recorded other writes earlier
          obtain ⟨new, moved, same⟩ := exists_attempt?_withStage here found
          refine ⟨new, moved, ?_⟩
          rw [same]
          by_cases own : old.call.identity = attempt.call.identity
          · rwa [own]
          · show (effect.records.get? old.call.identity).isSome = true
            rwa [others _ own]
        · obtain ⟨new, moved, same⟩ := exists_attempt?_withStage here here
          exact ⟨new, moved, by rwa [same]⟩
  | quiet records writes said idle =>
      have unmoved : system.settle position effect =
          { system.withStage position effect.stage with
            failedRetrievals := (system.settle position effect).failedRetrievals } := by
        simp [CommandSystem.settle, records, writes, withStage]
      have unheld : ¬ effect.stage.Holds := by
        rcases idle with ended | ⟨responseRef, ended⟩
        · simp [ended, Holds]
        · simp [ended, Holds]
      have moved := kept.unclaimed here (records ▸ said) unheld
      rw [unmoved]
      exact ⟨moved.stages, moved.unique, moved.recorded⟩

theorem attemptAt_ok (found : system.attemptAt position stage = .ok attempt) :
    system.attempt? position = some attempt := by
  obtain ⟨other, here, checked⟩ := fetch_bind_eq_ok.1 found
  obtain ⟨-, same⟩ := require_bind_eq_ok.1 checked
  cases same
  exact here

theorem attempt?_withCall (here : (system.withCall call).attempt? other = some found) :
    system.attempt? other = some found ∨
      (system.attempt? other = none ∧ found = ⟨call, .entered⟩) := by
  unfold attempt? withCall at *
  rw [List.getElem?_append] at here
  split at here
  next => exact .inl here
  next past =>
    refine .inr ⟨List.getElem?_eq_none (not_lt.1 past), ?_⟩
    exact mem_singleton.1 (mem_of_getElem? here)

/-- A new call engages nobody. -/
theorem ClaimsKept.called (kept : ClaimsKept system) (call : ProductCall) :
    ClaimsKept (system.withCall call) where
  stages other found here := by
    rcases attempt?_withCall here with before | ⟨-, rfl⟩
    · exact kept.stages other found before
    · exact trivial
  unique first second one two foundOne foundTwo same engagedOne engagedTwo := by
    refine kept.unique_of_before (fun other found here engaged => ?_) foundOne foundTwo same
      engagedOne engagedTwo
    rcases attempt?_withCall here with before | ⟨absent, rfl⟩
    · exact ⟨found, before, rfl, engaged⟩
    · rcases engaged with held | ⟨writes, member⟩
      · simp [Holds] at held
      · obtain ⟨old, found, -⟩ := kept.recorded other writes member
        rw [absent] at found
        cases found
  recorded other writes member := by
    obtain ⟨old, found, recorded⟩ := kept.recorded other writes member
    refine ⟨old, ?_, recorded⟩
    unfold attempt? withCall at *
    rw [getElem?_append_left (List.getElem?_eq_some_iff.1 found).1, found]

/-- **One move** keeps the invariant. -/
theorem ClaimsKept.move (kept : ClaimsKept system) {next : CommandSystem δ}
    {move : CommandMove δ} {answer : Unit}
    (ok : productCommand move system = .ok (answer, next)) : ClaimsKept next := by
  cases move with
  | calls call =>
      cases ok
      exact kept.called call
  | reads position =>
      obtain ⟨attempt, here, ok⟩ := bind_eq_ok.1 ok
      cases ok
      obtain ⟨said, idle⟩ := stageKept_of_read system.records attempt.call
      exact kept.unclaimed (attemptAt_ok here) said idle
  | inserts position now =>
      obtain ⟨attempt, here, ok⟩ := bind_eq_ok.1 ok
      obtain ⟨free, ok⟩ := require_bind_eq_ok.1 ok
      cases ok
      have said := stageKept_of_insert system.records attempt.call now
      unfold stageOfInsert at said ⊢
      split at said
      next => exact kept.claimed (attemptAt_ok here) free said
      next => exact kept.unclaimed (attemptAt_ok here) said (by simp [Holds])
  | rereads position =>
      obtain ⟨attempt, here, ok⟩ := bind_eq_ok.1 ok
      cases ok
      obtain ⟨said, idle⟩ := stageKept_of_reread system.records attempt.call
      exact kept.unclaimed (attemptAt_ok here) said idle
  | turns position turn =>
      obtain ⟨attempt, here, ok⟩ := fetch_bind_eq_ok.1 ok
      obtain ⟨effect, took, ok⟩ := fetch_bind_eq_ok.1 ok
      cases ok
      exact kept.settle here (takeTurn_cases (kept.stages position attempt here) took)

end

/-! ## Commands are applied once -/

/-- Of the calls of a key one commits writes, and those that return refer to one result, of
the request that is recorded. -/
structure AppliedOnce (system : CommandSystem δ) : Prop where
  applied : ∀ first second one two, system.attempt? first = some one →
    system.attempt? second = some two → one.call.identity = two.call.identity →
    ∀ writes others, (first, writes) ∈ system.applied → (second, others) ∈ system.applied →
      first = second
  agree : ∀ first second one two, system.attempt? first = some one →
    system.attempt? second = some two → one.call.identity = two.call.identity →
    ∀ responseRef other, one.stage = .returned responseRef → two.stage = .returned other →
      responseRef = other
  digest : ∀ position attempt, system.attempt? position = some attempt →
    ∀ responseRef, attempt.stage = .returned responseRef →
    ∃ record, system.records.get? attempt.call.identity = some record ∧
      record.requestDigest = attempt.call.digest ∧ record.responseRef = some responseRef

theorem ClaimsKept.appliedOnce {system : CommandSystem δ} (kept : ClaimsKept system) :
    AppliedOnce system := by
  have answers : ∀ position attempt, system.attempt? position = some attempt →
      ∀ responseRef, attempt.stage = .returned responseRef →
      ∃ record, system.records.get? attempt.call.identity = some record ∧
        IsAnswerOf attempt.call record responseRef := by
    intro position attempt here responseRef stage
    have said := kept.stages position attempt here
    rwa [stage] at said
  refine ⟨?_, ?_, ?_⟩
  · intro first second one two hereOne hereTwo same writes others memberOne memberTwo
    exact kept.unique first second one two hereOne hereTwo same (.inr ⟨writes, memberOne⟩)
      (.inr ⟨others, memberTwo⟩)
  · intro first second one two hereOne hereTwo same responseRef other stageOne stageTwo
    obtain ⟨record, stored, answerOne⟩ := answers first one hereOne responseRef stageOne
    obtain ⟨again, storedAgain, answerTwo⟩ := answers second two hereTwo other stageTwo
    rw [same, storedAgain] at stored
    cases stored
    exact mem_unique answerOne.responseRef answerTwo.responseRef
  · intro position attempt here responseRef stage
    obtain ⟨record, stored, answer⟩ := answers position attempt here responseRef stage
    exact ⟨record, stored, answer.digest, answer.responseRef⟩

/-- **Product commands are applied at most once**, whatever calls are made and in whichever
order they move, wait, commit, roll back and fail. -/
theorem commands_applied_once (moves : List (CommandMove δ)) : AppliedOnce (systemAfter moves) := by
  have preserved : ∀ (system : CommandSystem δ) move answer next, ClaimsKept system →
      productCommand move system = .ok (answer, next) → ClaimsKept next :=
    fun _ _ _ _ kept answered => kept.move answered
  have kept : ClaimsKept (systemAfter moves) := run_invariant preserved .initial moves
  exact kept.appliedOnce

def askedQuestion : ProductCall where
  principal := "analyst"
  operation := .askQuestion
  key := "key"
  digest := "digest"

/-- Of two calls that both find no record, the second waits for the first, and it is refused
while the first is running. -/
example : ((systemAfter [.calls askedQuestion, .calls askedQuestion, .reads 0, .reads 1,
    .inserts 0 0, .inserts 1 0, .turns 0 (.opens "runtime"), .inserts 1 0, .rereads 1,
    .turns 0 (.settles "session" 1 [] "turn")]).attempts.map (·.stage)) =
      [.returned "session:1", .raised] := by
  decide +kernel

end SecFusion.Application
