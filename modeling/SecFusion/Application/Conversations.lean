import SecFusion.Application.Footprints
import SecFusion.Foundations.Paging

/-!
# Conversations

The sessions of `apps/application/question_sessions.py` over whole runs of their two writing
calls, and the two reading calls that list them page by page.

Turns are numbered from one in each session and belong to its principal, and a decision that
is bound to a turn stays (`RunKept`).  `append_turn` replays the turn of a request without
comparing what it is given, so it answers with the question and the outcome that it was
given exactly when the request repeats itself (`Repeats`).

The listings page by keyset: conversations by the session of the last row, whose time is
read again, and the history of a session by a turn index.
-/

namespace SecFusion.Application

open Foundations

/-! ## The calls that write -/

inductive SessionCall where
  | appendTurn (request : AppendTurn) (turnId : String) (now : ℤ)
  | bindInvestigationDecision (principal requestId caseId decisionId : String)

inductive SessionAnswer where
  | turn (turn : QuestionSessionTurnModel)
  | bound (found : Bool)

def sessionStore : SessionCall → SessionStore → Except Raised (SessionAnswer × SessionStore)
  | .appendTurn request turnId now, store => do
      let (turn, next) ← store.appendTurn request turnId now
      return (.turn turn, next)
  | .bindInvestigationDecision principal requestId caseId decisionId, store => do
      let (found, next) ← store.bindInvestigationDecision principal requestId caseId decisionId
      return (.bound found, next)

def sessionsAfter (calls : List SessionCall) : SessionStore := run sessionStore .empty calls

/-! ## What one call does -/

/-- What stays of a turn: everything but the decision, and that once it is bound. -/
structure TurnKept (old new : QuestionSessionTurnModel) : Prop where
  turnId : new.turnId = old.turnId
  sessionId : new.sessionId = old.sessionId
  turnIndex : new.turnIndex = old.turnIndex
  requestId : new.requestId = old.requestId
  question : new.question = old.question
  investigationRef : new.investigationRef = old.investigationRef
  decisionRef : ∀ decision ∈ old.decisionRef, new.decisionRef = some decision

theorem TurnKept.refl (turn : QuestionSessionTurnModel) : TurnKept turn turn :=
  ⟨rfl, rfl, rfl, rfl, rfl, rfl, fun _ found => found⟩

theorem TurnKept.trans {old middle new : QuestionSessionTurnModel} (first : TurnKept old middle)
    (second : TurnKept middle new) : TurnKept old new where
  turnId := second.turnId.trans first.turnId
  sessionId := second.sessionId.trans first.sessionId
  turnIndex := second.turnIndex.trans first.turnIndex
  requestId := second.requestId.trans first.requestId
  question := second.question.trans first.question
  investigationRef := second.investigationRef.trans first.investigationRef
  decisionRef decision found := second.decisionRef decision (first.decisionRef decision found)

/-- The turn that a call appends, in a session of its principal. -/
def Appended (call : SessionCall) (store next : SessionStore) (turn : QuestionSessionTurnModel) :
    Prop :=
  ∃ request turnId now session, call = .appendTurn request turnId now ∧
    turn = SessionStore.newTurn request turnId (store.latestIndex request.sessionId) now ∧
    next.sessions.get? request.sessionId = some session ∧ session.principal = request.principal

/-- What a call leaves: the sessions stay with their principals, the turns stay, and one
is appended at most. -/
structure Writes (call : SessionCall) (store next : SessionStore) : Prop where
  sessions : ∀ sessionId session, store.sessions.get? sessionId = some session →
    ∃ later, next.sessions.get? sessionId = some later ∧ later.principal = session.principal
  turns : ∃ kept added, next.turns.rows = kept ++ Option.toList added ∧
    Forall₂ TurnKept store.turns.rows kept ∧ ∀ turn ∈ added, Appended call store next turn

variable {store next : SessionStore} {request : AppendTurn}
  {turnId principal requestId caseId decisionId sessionId : String} {now limit : ℤ}
  {turn : QuestionSessionTurnModel} {found : Bool} {call : SessionCall} {answer : SessionAnswer}
  {calls : List SessionCall} {model : QuestionSessionModel}

theorem appendTurn_cases (ok : store.appendTurn request turnId now = .ok (turn, next)) :
    ∃ opened, store.openSession request.sessionId request.principal now = .ok opened ∧
      (opened.turnOfRequest? request.sessionId request.requestId = some turn ∧ next = opened ∨
        opened.turnOfRequest? request.sessionId request.requestId = none ∧
          turn = SessionStore.newTurn request turnId (opened.latestIndex request.sessionId) now ∧
          next.turns.rows = opened.turns.rows ++ [turn] ∧
          next.sessions = opened.sessions.update request.sessionId (SessionStore.touched now)
            (SessionStore.touched_sessionId now)) := by
  unfold SessionStore.appendTurn at ok
  obtain ⟨-, ok⟩ := require_bind_eq_ok.1 ok
  obtain ⟨opened, opens, ok⟩ := bind_eq_ok.1 ok
  refine ⟨opened, opens, ?_⟩
  cases present : opened.turnOfRequest? request.sessionId request.requestId with
  | some existing =>
    rw [present] at ok
    cases ok
    exact .inl ⟨rfl, rfl⟩
  | none =>
    rw [present] at ok
    obtain ⟨turns, inserted, ok⟩ := fetch_bind_eq_ok.1 ok
    cases ok
    exact .inr ⟨rfl, rfl, (insert?_eq_some inserted).1, rfl⟩

theorem bindInvestigationDecision_cases
    (ok : store.bindInvestigationDecision principal requestId caseId decisionId =
      .ok (found, next)) :
    next = store ∨ ∃ turn ∈ store.turns.rows, (∀ other ∈ turn.decisionRef, other = decisionId) ∧
      next = { store with
        turns := store.turns.update turn.turnId (SessionStore.bound decisionId)
          (SessionStore.bound_turnId decisionId) } := by
  unfold SessionStore.bindInvestigationDecision at ok
  cases present : store.investigationTurn? principal requestId caseId with
  | none =>
    rw [present] at ok
    cases ok
    exact .inl rfl
  | some turn =>
    rw [present] at ok
    obtain ⟨free, ok⟩ := require_bind_eq_ok.1 ok
    cases ok
    exact .inr ⟨turn, mem_of_find?_eq_some present, free, rfl⟩

theorem writes_of_appendTurn (ok : store.appendTurn request turnId now = .ok (turn, next)) :
    Writes (.appendTurn request turnId now) store next := by
  obtain ⟨opened, opens, outcome⟩ := appendTurn_cases ok
  obtain ⟨sameTurns, ⟨session, found, mine⟩, stays⟩ := openSession_ok opens
  have same : Forall₂ TurnKept store.turns.rows store.turns.rows :=
    forall₂_same.2 fun turn _ => TurnKept.refl turn
  rcases outcome with ⟨_, rfl⟩ | ⟨_, rfl, turns, sessions⟩
  -- a repeated request leaves the session as it was opened
  · refine ⟨fun other before at' => ⟨before, stays other before at', rfl⟩,
      store.turns.rows, none, ?_, same, nofun⟩
    rw [sameTurns, Option.toList_none, append_nil]
  -- another one appends its turn and touches the session
  · have later (other : String) := get?_update opened.sessions request.sessionId
      (SessionStore.touched now) (SessionStore.touched_sessionId now) other
    rw [← sessions] at later
    have sameIndex : opened.latestIndex request.sessionId = store.latestIndex request.sessionId := by
      rw [SessionStore.latestIndex, SessionStore.turnsOf, sameTurns]
      rfl
    refine ⟨fun other before at' => ?_, store.turns.rows,
      some (SessionStore.newTurn request turnId (opened.latestIndex request.sessionId) now), ?_,
      same, ?_⟩
    · have row := later other
      rw [stays other before at'] at row
      split at row
      · exact ⟨_, row, rfl⟩
      · exact ⟨before, row, rfl⟩
    · rw [turns, sameTurns, Option.toList_some]
    · rintro turn ⟨⟩
      have row := later request.sessionId
      rw [if_pos rfl, found] at row
      exact ⟨request, turnId, now, _, rfl, by rw [sameIndex], row, mine⟩

theorem writes_of_bind (ok : store.bindInvestigationDecision principal requestId caseId
      decisionId = .ok (found, next)) :
    Writes (.bindInvestigationDecision principal requestId caseId decisionId) store next := by
  rcases bindInvestigationDecision_cases ok with rfl | ⟨turn, stored, free, rfl⟩
  · refine ⟨fun _ session at' => ⟨session, at', rfl⟩, next.turns.rows, none, ?_, ?_, nofun⟩
    · rw [Option.toList_none, append_nil]
    · exact forall₂_same.2 fun turn _ => TurnKept.refl turn
  · refine ⟨fun _ session at' => ⟨session, at', rfl⟩, _, none, (append_nil _).symm, ?_,
      nofun⟩
    rw [Table.rows_update, forall₂_map_right_iff, forall₂_same]
    intro other member
    split
    · rename_i same
      -- the row of that identifier is the turn, so its decision is the same or none
      have itself : other = turn := eq_of_key member stored same
      refine ⟨rfl, rfl, rfl, rfl, rfl, rfl, fun decision bound => ?_⟩
      rw [itself] at bound
      rw [free decision bound]
      rfl
    · exact TurnKept.refl other

/-- Every call that answers writes like this. -/
theorem writes_of_ok (ok : sessionStore call store = .ok (answer, next)) :
    Writes call store next := by
  cases call with
  | appendTurn request turnId now =>
    obtain ⟨⟨turn, after⟩, appended, ok⟩ := bind_eq_ok.1 ok
    cases ok
    exact writes_of_appendTurn appended
  | bindInvestigationDecision principal requestId caseId decisionId =>
    obtain ⟨⟨found, after⟩, bound, ok⟩ := bind_eq_ok.1 ok
    cases ok
    exact writes_of_bind bound

/-! ## Runs -/

/-- The turns of a session are numbered from one, in the order of their rows. -/
def Numbered (store : SessionStore) : Prop :=
  ∀ sessionId, (store.turnsOf sessionId).map (·.turnIndex) =
    range' 1 (store.turnsOf sessionId).length

/-- Every turn was appended by a call of the principal of its session. -/
def Owned (calls : List SessionCall) (store : SessionStore) : Prop :=
  ∀ turn ∈ store.turns.rows, ∃ session request now,
    store.sessions.get? turn.sessionId = some session ∧
      SessionCall.appendTurn request turn.turnId now ∈ calls ∧
      request.sessionId = turn.sessionId ∧ request.requestId = turn.requestId ∧
      request.question = turn.question ∧ request.principal = session.principal

theorem latestIndex_of_numbered (numbered : Numbered store) (sessionId : String) :
    store.latestIndex sessionId = (store.turnsOf sessionId).length := by
  rw [SessionStore.latestIndex, numbered, foldl_max_range']

/-- The kept turns of a session have the numbers that they had. -/
theorem turnIndices_of_kept {rows kept : List QuestionSessionTurnModel}
    (pointwise : Forall₂ TurnKept rows kept) (sessionId : String) :
    (kept.filter fun turn => turn.sessionId = sessionId).map (·.turnIndex) =
      (rows.filter fun turn => turn.sessionId = sessionId).map (·.turnIndex) := by
  induction pointwise with
  | nil => rfl
  | cons here _ ih =>
    rw [filter_cons, filter_cons, here.sessionId]
    split
    · rw [map_cons, map_cons, ih, here.turnIndex]
    · exact ih

theorem Writes.numbered (writes : Writes call store next) (numbered : Numbered store) :
    Numbered next := by
  intro sessionId
  obtain ⟨kept, added, rows, pointwise, appended⟩ := writes.turns
  have before : (kept.filter fun turn => turn.sessionId = sessionId).map (·.turnIndex) =
      range' 1 (store.turnsOf sessionId).length := by
    rw [turnIndices_of_kept pointwise]
    exact numbered sessionId
  have count : (kept.filter fun turn => turn.sessionId = sessionId).length =
      (store.turnsOf sessionId).length := by
    simpa using congrArg List.length before
  have turns : next.turnsOf sessionId = (kept.filter fun turn => turn.sessionId = sessionId) ++
      (Option.toList added).filter fun turn => turn.sessionId = sessionId := by
    rw [← filter_append, ← rows]
    rfl
  rw [turns, map_append, before, List.length_append, count]
  cases added with
  | none => simp
  | some turn =>
    obtain ⟨request, turnId, now, session, _, rfl, _⟩ := appended turn rfl
    by_cases here : request.sessionId = sessionId
    · -- the next number is one more than the length
      subst here
      have index := latestIndex_of_numbered numbered request.sessionId
      simp only [SessionStore.newTurn, index, Option.toList_some, decide_true,
        List.filter_cons_of_pos, List.filter_nil, map_cons, map_nil, List.length_singleton]
      rw [List.range'_concat, one_mul, Nat.add_comm 1]
    · have elsewhere : ¬ (SessionStore.newTurn request turnId
          (store.latestIndex request.sessionId) now).sessionId = sessionId := here
      simp [elsewhere]

theorem Writes.owned (writes : Writes call store next) (owned : Owned calls store) :
    Owned (calls ++ [call]) next := by
  obtain ⟨kept, added, rows, pointwise, appended⟩ := writes.turns
  intro turn member
  rw [rows, mem_append, Option.mem_toList] at member
  rcases member with stays | new
  · obtain ⟨old, stored, same⟩ := exists_left_of_mem pointwise stays
    obtain ⟨session, request, now, found, called, ofSession, ofRequest, asked, mine⟩ :=
      owned old stored
    obtain ⟨later, laterFound, principal⟩ := writes.sessions _ _ found
    refine ⟨later, request, now, ?_, ?_, ?_, ?_, ?_, mine.trans principal.symm⟩
    · rw [same.sessionId, laterFound]
    · rw [same.turnId]
      exact mem_append_left _ called
    · rw [same.sessionId, ofSession]
    · rw [same.requestId, ofRequest]
    · rw [same.question, asked]
  · obtain ⟨request, turnId, now, session, rfl, rfl, found, mine⟩ := appended turn new
    exact ⟨session, request, now, found, mem_append_right _ mem_cons_self, rfl, rfl,
      rfl, mine.symm⟩

/-- A turn is still there after a call, with the decision it had. -/
theorem Writes.turnKept (writes : Writes call store next) (stored : turn ∈ store.turns.rows) :
    ∃ later ∈ next.turns.rows, TurnKept turn later := by
  obtain ⟨kept, added, rows, pointwise, _⟩ := writes.turns
  obtain ⟨later, found, same⟩ := exists_right_of_mem pointwise stored
  refine ⟨later, ?_, same⟩
  rw [rows]
  exact mem_append_left _ found

theorem sessionsAfter_concat (calls : List SessionCall) (call : SessionCall) :
    sessionsAfter (calls ++ [call]) = transact sessionStore (sessionsAfter calls) call := by
  rw [sessionsAfter, run_append]
  rfl

theorem numbered_sessionsAfter (calls : List SessionCall) : Numbered (sessionsAfter calls) :=
  run_invariant (fun _ _ _ _ numbered ok => (writes_of_ok ok).numbered numbered)
    (fun _ => rfl) calls

theorem owned_sessionsAfter (calls : List SessionCall) : Owned calls (sessionsAfter calls) := by
  induction calls using List.reverseRecOn with
  | nil => exact forall_mem_nil _
  | append_singleton calls call ih =>
    rw [sessionsAfter_concat]
    refine transact_induction (motive := Owned (calls ++ [call])) ?_ fun answer next ok =>
      (writes_of_ok ok).owned ih
    intro turn member
    obtain ⟨session, request, now, found, called, rest⟩ := ih turn member
    exact ⟨session, request, now, found, mem_append_left _ called, rest⟩

/-- **A bound decision is never replaced**, however the run goes on. -/
theorem turnKept_of_run (later : List SessionCall)
    (stored : turn ∈ (sessionsAfter calls).turns.rows) :
    ∃ after ∈ (sessionsAfter (calls ++ later)).turns.rows, TurnKept turn after := by
  rw [sessionsAfter, run_append]
  have step (store : SessionStore) (call : SessionCall) (answer : SessionAnswer)
      (next : SessionStore) (kept : ∃ after ∈ store.turns.rows, TurnKept turn after)
      (ok : sessionStore call store = .ok (answer, next)) :
      ∃ after ∈ next.turns.rows, TurnKept turn after := by
    obtain ⟨middle, found, kept⟩ := kept
    obtain ⟨after, found, keptOn⟩ := (writes_of_ok ok).turnKept found
    exact ⟨after, found, kept.trans keptOn⟩
  exact run_invariant step ⟨turn, stored, TurnKept.refl turn⟩ later

/-! ## What an appended turn carries -/

/-- The turn carries the question and the outcome reference of a request. -/
structure Carries (request : AppendTurn) (turn : QuestionSessionTurnModel) : Prop where
  question : turn.question = request.question
  decisionRef : ∀ decision ∈ request.decisionRef, turn.decisionRef = some decision
  investigationRef : ∀ reference ∈ request.investigationRef,
    turn.investigationRef = some reference

/-- The request is new in its session, or repeats what its turn carries. -/
def Repeats (store : SessionStore) (request : AppendTurn) : Prop :=
  ∀ existing ∈ store.turnOfRequest? request.sessionId request.requestId, Carries request existing

/-- `append_turn` answers with what it was given exactly when the request repeats itself. -/
theorem carries_iff_repeats (ok : store.appendTurn request turnId now = .ok (turn, next)) :
    Carries request turn ↔ Repeats store request := by
  obtain ⟨opened, opens, outcome⟩ := appendTurn_cases ok
  have same : opened.turnOfRequest? request.sessionId request.requestId =
      store.turnOfRequest? request.sessionId request.requestId := by
    rw [SessionStore.turnOfRequest?, SessionStore.turnsOf, (openSession_ok opens).1]
    rfl
  rw [Repeats, ← same]
  rcases outcome with ⟨existing, _⟩ | ⟨new, rfl, _⟩
  · rw [existing]
    simp
  · rw [new]
    exact iff_of_true ⟨rfl, fun _ given => given, fun _ given => given⟩ nofun

/-! ## Listing conversations -/

/-- `AccountConversationView`. -/
structure AccountConversationView where
  sessionId : String
  updatedAt : ℤ
  latestTurn : QuestionSessionTurnModel

/-- `AccountConversationPage`. -/
structure AccountConversationPage where
  items : List AccountConversationView
  hasMore : Bool
  nextCursor : Option String

/-- A session with one of its turns, as the query of `list_owned` joins them. -/
abbrev ConversationRow := QuestionSessionModel × QuestionSessionTurnModel

/-- `min(max(limit, 1), 50)`. -/
def boundedLimit (limit : ℤ) : ℕ := (min (max limit 1) 50).toNat

theorem boundedLimit_pos (limit : ℤ) : 0 < boundedLimit limit := by
  unfold boundedLimit
  omega

/-- `ORDER BY updated_at DESC, session_id`. -/
def recentFirst (first second : ConversationRow) : Prop :=
  second.1.updatedAt < first.1.updatedAt ∨
    (first.1.updatedAt = second.1.updatedAt ∧ first.1.sessionId ≤ second.1.sessionId)

instance : DecidableRel recentFirst := fun _ _ => inferInstanceAs (Decidable (_ ∨ (_ ∧ _)))

/-- The condition that a cursor adds to the query. -/
def AfterCursor (cursor : QuestionSessionModel) (row : ConversationRow) : Prop :=
  row.1.updatedAt < cursor.updatedAt ∨
    (row.1.updatedAt = cursor.updatedAt ∧ cursor.sessionId < row.1.sessionId)

instance (cursor : QuestionSessionModel) : DecidablePred (AfterCursor cursor) :=
  fun _ => inferInstanceAs (Decidable (_ ∨ (_ ∧ _)))

namespace SessionStore

/-- The sessions of a principal, each with its latest turn. -/
def conversationRows (store : SessionStore) (principal : String) : List ConversationRow :=
  (store.sessions.select fun model => model.principal = principal).flatMap fun model =>
    ((store.turnsOf model.sessionId).filter fun turn =>
      turn.turnIndex = store.latestIndex model.sessionId).map fun turn => (model, turn)

/-- The session that a cursor names.  An empty cursor is none. -/
def cursorModel? (store : SessionStore) (principal : String) (cursor : Option String) :
    Except Raised (Option QuestionSessionModel) :=
  match cursor.filter (· ≠ "") with
  | none => .ok none
  | some sessionId => do
      let model ← fetch (store.sessions.get? sessionId)
        (.applicationError .resourceNotFound "question session cursor not found")
      requirePrincipal model principal
      return some model

/-- What is left to list after a cursor. -/
def listedRows (store : SessionStore) (principal : String)
    (cursor : Option QuestionSessionModel) : List ConversationRow :=
  ((store.conversationRows principal).filter fun row =>
    cursor.all fun model => AfterCursor model row).insertionSort recentFirst

/-- `AccountConversationView` of a row. -/
def conversationView (row : ConversationRow) : AccountConversationView :=
  { sessionId := row.1.sessionId, updatedAt := row.1.updatedAt, latestTurn := row.2 }

/-- `QuestionSessionStore.list_owned`. -/
def listOwned (store : SessionStore) (principal : String) (limit : ℤ) (cursor : Option String) :
    Except Raised AccountConversationPage := do
  let cursorModel ← store.cursorModel? principal cursor
  let rows := (store.listedRows principal cursorModel).take (boundedLimit limit + 1)
  let pageRows := rows.take (boundedLimit limit)
  return {
    items := pageRows.map conversationView
    hasMore := decide (boundedLimit limit < rows.length)
    nextCursor := if boundedLimit limit < rows.length
      then pageRows.getLast?.map (·.1.sessionId) else none }

end SessionStore

/-! ### The pages of the listing -/

/-- What a reader of the listing sees of a page. -/
def readConversations (store : SessionStore) (principal : String) (limit : ℤ)
    (cursor : Option String) : Except Raised (Page AccountConversationView String) :=
  (store.listOwned principal limit cursor).map fun page => ⟨page.items, page.nextCursor⟩

def readConversationRows (store : SessionStore) (principal : String) (limit : ℤ)
    (cursor : Option String) : Except Raised (Page ConversationRow String) :=
  (store.cursorModel? principal cursor).map fun cursorModel =>
    frontPage (·.1.sessionId) (boundedLimit limit) (store.listedRows principal cursorModel)

/-- Asking for one row more than the page holds tells whether there are more. -/
theorem readConversations_of_rows (cursor : Option String) (page : Page ConversationRow String)
    (answered : readConversationRows store principal limit cursor = .ok page) :
    readConversations store principal limit cursor =
      .ok ⟨page.items.map SessionStore.conversationView, page.next⟩ := by
  unfold readConversationRows at answered
  unfold readConversations SessionStore.listOwned
  cases found : store.cursorModel? principal cursor with
  | error raised =>
    rw [found] at answered
    cases answered
  | ok cursorModel =>
    rw [found] at answered
    cases answered
    simp [frontPage, List.take_take, Except.map, pure, Except.pure]

instance : Std.Total recentFirst where
  total first second := by
    rcases lt_trichotomy first.1.updatedAt second.1.updatedAt with before | same | after
    · exact .inr (.inl before)
    · rcases le_total first.1.sessionId second.1.sessionId with below | above
      · exact .inl (.inr ⟨same, below⟩)
      · exact .inr (.inr ⟨same.symm, above⟩)
    · exact .inl (.inl after)

instance : IsTrans ConversationRow recentFirst where
  trans first second third := by
    rintro (later | ⟨same, below⟩) (laterStill | ⟨sameStill, belowStill⟩)
    · exact .inl (laterStill.trans later)
    · exact .inl (sameStill ▸ later)
    · exact .inl (same ▸ laterStill)
    · exact .inr ⟨same.trans sameStill, below.trans belowStill⟩

theorem afterCursor_iff (first second : ConversationRow) :
    AfterCursor first.1 second ↔ ¬ recentFirst second first := by
  rw [AfterCursor, recentFirst, not_or, not_and, not_lt, not_le]
  constructor
  · rintro (before | ⟨same, above⟩)
    · exact ⟨before.le, fun same => absurd same before.ne⟩
    · exact ⟨same.le, fun _ => above⟩
  · rintro ⟨notLater, above⟩
    rcases notLater.lt_or_eq with before | same
    · exact .inl before
    · exact .inr ⟨same, above same⟩

/-- The turns with the largest number of a numbered session are its last one. -/
theorem filter_latestIndex (numbered : Numbered store) (sessionId : String) :
    ((store.turnsOf sessionId).filter fun turn => turn.turnIndex = store.latestIndex sessionId) =
      (store.turnsOf sessionId).getLast?.toList := by
  rw [latestIndex_of_numbered numbered]
  have numbers := numbered sessionId
  generalize store.turnsOf sessionId = turns at numbers
  rcases List.eq_nil_or_concat' turns with rfl | ⟨init, last, rfl⟩
  · rfl
  · rw [List.length_append, List.length_singleton, List.range'_concat, one_mul, map_append,
      map_singleton] at numbers
    obtain ⟨earlier, latest⟩ := append_inj' numbers rfl
    -- the turns before the last one have the smaller numbers
    have below : init.filter (fun turn => decide (turn.turnIndex = init.length + 1)) = [] := by
      rw [filter_eq_nil_iff]
      intro turn member
      have listed : turn.turnIndex ∈ range' 1 init.length := by
        rw [← earlier]
        exact mem_map_of_mem member
      rw [mem_range'_1] at listed
      rw [decide_eq_true_eq]
      omega
    have index : last.turnIndex = init.length + 1 := by
      have single := List.cons.inj latest
      omega
    simp [below, index]

theorem conversationRows_eq (numbered : Numbered store) (principal : String) :
    store.conversationRows principal =
      (store.sessions.select fun model => model.principal = principal).filterMap fun model =>
        (store.turnsOf model.sessionId).getLast?.map fun turn => (model, turn) := by
  rw [SessionStore.conversationRows, List.filterMap_eq_flatMap_toList]
  refine List.flatMap_congr fun model _ => ?_
  rw [filter_latestIndex numbered]
  cases (store.turnsOf model.sessionId).getLast? <;> rfl

theorem mem_conversationRows (numbered : Numbered store) {row : ConversationRow} :
    row ∈ store.conversationRows principal ↔
      store.sessions.get? row.1.sessionId = some row.1 ∧ row.1.principal = principal ∧
        (store.turnsOf row.1.sessionId).getLast? = some row.2 := by
  obtain ⟨model, turn⟩ := row
  rw [conversationRows_eq numbered, mem_filterMap]
  constructor
  · rintro ⟨listed, selected, latest⟩
    obtain ⟨turn', last, same⟩ := map_eq_some_iff.1 latest
    cases same
    obtain ⟨stored, mine⟩ := mem_select.1 selected
    exact ⟨get?_of_mem stored, of_decide_eq_true mine, last⟩
  · rintro ⟨found, mine, last⟩
    refine ⟨model, mem_select.2 ⟨mem_of_get? found, decide_eq_true mine⟩, ?_⟩
    rw [last]
    rfl

/-- No session is listed twice. -/
theorem nodup_conversationRows (numbered : Numbered store) (principal : String) :
    ((store.conversationRows principal).map (·.1.sessionId)).Nodup := by
  rw [conversationRows_eq numbered, List.Nodup, pairwise_map, List.pairwise_filterMap]
  have keys : (store.sessions.select fun model => model.principal = principal).Pairwise
      fun first second => first.sessionId ≠ second.sessionId := by
    have distinct := store.sessions.nodup
    rw [List.Nodup, pairwise_map] at distinct
    exact distinct.sublist filter_sublist
  refine keys.imp fun apart first firstRow second secondRow => ?_
  obtain ⟨_, _, rfl⟩ := map_eq_some_iff.1 firstRow
  obtain ⟨_, _, rfl⟩ := map_eq_some_iff.1 secondRow
  exact apart

/-- No session has the empty identifier, which a cursor cannot name. -/
def SessionsNamed (store : SessionStore) : Prop :=
  ∀ model ∈ store.sessions.rows, model.sessionId ≠ ""

/-- The listing begins with its first rows, and resumes behind the row that a cursor
names. -/
theorem lists_conversationRows (numbered : Numbered store) (named : SessionsNamed store)
    (principal : String) (limit : ℤ) :
    Lists (readConversationRows store principal limit) (·.1.sessionId) (boundedLimit limit)
      ((store.conversationRows principal).insertionSort recentFirst) where
  start := by
    have all : store.listedRows principal none =
        (store.conversationRows principal).insertionSort recentFirst := by
      simp [SessionStore.listedRows]
    rw [← all]
    rfl
  resume front row back listed := by
    have nodup := nodup_conversationRows numbered principal
    have member : row ∈ store.conversationRows principal := by
      refine (perm_insertionSort recentFirst _).subset ?_
      rw [listed]
      exact mem_append_right _ mem_cons_self
    obtain ⟨found, mine, _⟩ := (mem_conversationRows numbered).1 member
    have usable : row.1.sessionId ≠ "" := named _ (mem_of_get? found)
    have cursor : store.cursorModel? principal (some row.1.sessionId) = .ok (some row.1) := by
      rw [SessionStore.cursorModel?, Option.filter_some_pos (by simpa using usable)]
      refine fetch_bind_eq_ok.2 ⟨row.1, found, ?_⟩
      exact require_bind_eq_ok.2 ⟨mine, rfl⟩
    have left : store.listedRows principal (some row.1) = back := by
      refine insertionSort_after recentFirst (fun first second => AfterCursor first.1 second)
        afterCursor_iff (List.Nodup.of_map _ nodup) ?_ listed
      -- neither row comes before the other only when they are of one session
      intro first firstListed second secondListed forward backward
      refine inj_on_of_nodup_map nodup firstListed secondListed ?_
      rcases forward with later | ⟨same, below⟩
      · rcases backward with earlier | ⟨same, _⟩
        · exact absurd later (lt_asymm earlier)
        · exact absurd same.symm later.ne'
      · rcases backward with earlier | ⟨_, above⟩
        · exact absurd same.symm earlier.ne'
        · exact le_antisymm below above
    rw [readConversationRows, cursor, ← left]
    rfl

/-- Pages that visit every conversation of a principal once: each session with a turn, with
its latest turn, the most recent first. -/
structure ConversationsVisited (store : SessionStore) (principal : String)
    (pages : List (List AccountConversationView)) : Prop where
  once : (pages.flatten.map (·.sessionId)).Nodup
  complete : ∀ view, view ∈ pages.flatten ↔
    ∃ model, store.sessions.get? view.sessionId = some model ∧ model.principal = principal ∧
      view.updatedAt = model.updatedAt ∧
      (store.turnsOf view.sessionId).getLast? = some view.latestTurn
  inOrder : pages.flatten.Pairwise fun first second =>
    second.updatedAt < first.updatedAt ∨
      (first.updatedAt = second.updatedAt ∧ first.sessionId < second.sessionId)

theorem conversationsVisited (numbered : Numbered store) (named : SessionsNamed store)
    (principal : String) (limit : ℤ) :
    ∃ pages, Following (readConversations store principal limit) none pages ∧
      ConversationsVisited store principal pages := by
  obtain ⟨pages, following, flat⟩ := (lists_conversationRows numbered named principal
    limit).following (boundedLimit_pos limit)
  refine ⟨_, following.mapItems (List.map SessionStore.conversationView)
    readConversations_of_rows, ?_⟩
  have perm := perm_insertionSort recentFirst (store.conversationRows principal)
  have nodup : (((store.conversationRows principal).insertionSort recentFirst).map
      (·.1.sessionId)).Nodup :=
    (perm.map _).nodup_iff.2 (nodup_conversationRows numbered principal)
  constructor
  · rw [← List.map_flatten, flat, map_map]
    exact nodup
  · intro view
    rw [← List.map_flatten, flat, mem_map]
    constructor
    · rintro ⟨row, listed, rfl⟩
      obtain ⟨found, mine, latest⟩ := (mem_conversationRows numbered).1 (perm.subset listed)
      exact ⟨row.1, found, mine, rfl, latest⟩
    · rintro ⟨model, found, mine, updated, latest⟩
      have key : model.sessionId = view.sessionId := key_of_get? found
      refine ⟨(model, view.latestTurn), perm.symm.subset ?_, ?_⟩
      · refine (mem_conversationRows numbered).2 ⟨?_, mine, ?_⟩
        · rw [key, found]
        · rw [key, latest]
      · rw [SessionStore.conversationView, key, ← updated]
  · rw [← List.map_flatten, flat, pairwise_map]
    have sorted := pairwise_insertionSort recentFirst (store.conversationRows principal)
    rw [List.Nodup, pairwise_map] at nodup
    refine (sorted.and nodup).imp ?_
    rintro first second ⟨later | ⟨same, below⟩, apart⟩
    · exact .inl later
    · exact .inr ⟨same, lt_of_le_of_ne below apart⟩

/-! ## Reading a history -/

/-- `QuestionSessionHistoryPage`. -/
structure QuestionSessionHistoryPage where
  sessionId : String
  turns : List QuestionSessionTurnModel
  hasMore : Bool
  nextBeforeTurn : Option ℤ

/-- `ORDER BY turn_index DESC`. -/
def latestFirst (first second : QuestionSessionTurnModel) : Prop :=
  second.turnIndex ≤ first.turnIndex

instance : DecidableRel latestFirst := fun _ _ => inferInstanceAs (Decidable (_ ≤ _))

instance : Std.Total latestFirst where
  total first second := le_total second.turnIndex first.turnIndex

instance : IsTrans QuestionSessionTurnModel latestFirst where
  trans _ _ _ first second := le_trans second first

namespace SessionStore

/-- The turns of a session before the given one, the latest first. -/
def turnsBefore (store : SessionStore) (sessionId : String) (beforeTurn : Option ℤ) :
    List QuestionSessionTurnModel :=
  ((store.turnsOf sessionId).filter fun turn =>
    beforeTurn.all fun before => (turn.turnIndex : ℤ) < before).insertionSort latestFirst

/-- `QuestionSessionStore.read_history_page`. -/
def readHistoryPage (store : SessionStore) (sessionId principal : String) (limit : ℤ)
    (beforeTurn : Option ℤ) : Except Raised QuestionSessionHistoryPage := do
  let model ← fetch (store.sessions.get? sessionId)
    (.applicationError .resourceNotFound "question session not found")
  requirePrincipal model principal
  let rows := (store.turnsBefore sessionId beforeTurn).take (boundedLimit limit + 1)
  let page := (rows.take (boundedLimit limit)).reverse
  return {
    sessionId
    turns := page
    hasMore := decide (boundedLimit limit < rows.length)
    nextBeforeTurn := if boundedLimit limit < rows.length
      then page.head?.map fun turn => (turn.turnIndex : ℤ) else none }

end SessionStore

/-- What a reader of a history sees of a page. -/
def readHistory (store : SessionStore) (sessionId principal : String) (limit : ℤ)
    (beforeTurn : Option ℤ) : Except Raised (Page QuestionSessionTurnModel ℤ) :=
  (store.readHistoryPage sessionId principal limit beforeTurn).map fun page =>
    ⟨page.turns, page.nextBeforeTurn⟩

/-- The rows of that page, which shows them in the order of their numbers. -/
def readTurnRows (store : SessionStore) (sessionId : String) (limit : ℤ)
    (beforeTurn : Option ℤ) : Except Raised (Page QuestionSessionTurnModel ℤ) :=
  .ok (frontPage (fun turn => (turn.turnIndex : ℤ)) (boundedLimit limit)
    (store.turnsBefore sessionId beforeTurn))

theorem readHistory_of_rows (found : store.sessions.get? sessionId = some model)
    (mine : model.principal = principal) (beforeTurn : Option ℤ)
    (page : Page QuestionSessionTurnModel ℤ)
    (ok : readTurnRows store sessionId limit beforeTurn = .ok page) :
    readHistory store sessionId principal limit beforeTurn =
      .ok ⟨page.items.reverse, page.next⟩ := by
  cases ok
  have read : store.readHistoryPage sessionId principal limit beforeTurn = .ok _ :=
    fetch_bind_eq_ok.2 ⟨model, found, require_bind_eq_ok.2 ⟨mine, rfl⟩⟩
  rw [readHistory, read]
  simp [frontPage, List.take_take, Except.map, List.head?_reverse]

/-- The listing of the turns is their numbering, read backwards. -/
theorem turnsBefore_none (numbered : Numbered store) (sessionId : String) :
    (store.turnsOf sessionId).insertionSort latestFirst = (store.turnsOf sessionId).reverse := by
  have increasing : (store.turnsOf sessionId).Pairwise fun first second =>
      first.turnIndex < second.turnIndex := by
    have numbers : ((store.turnsOf sessionId).map (·.turnIndex)).Pairwise (· < ·) := by
      rw [numbered sessionId]
      exact List.pairwise_lt_range'
    exact pairwise_map.1 numbers
  refine List.Perm.eq_of_pairwise ?_ (pairwise_insertionSort latestFirst _)
    (List.pairwise_reverse.2 (increasing.imp le_of_lt))
    ((perm_insertionSort _ _).trans (List.reverse_perm _).symm)
  intro first second firstListed secondListed below above
  have nodup : ((store.turnsOf sessionId).map (·.turnIndex)).Nodup := by
    rw [numbered sessionId]
    exact List.nodup_range'
  exact inj_on_of_nodup_map nodup ((mem_insertionSort _).1 firstListed)
    (List.mem_reverse.1 secondListed) (le_antisymm above below)

theorem lists_turnRows (numbered : Numbered store) (sessionId : String) (limit : ℤ) :
    Lists (readTurnRows store sessionId limit) (fun turn => (turn.turnIndex : ℤ))
      (boundedLimit limit) ((store.turnsOf sessionId).insertionSort latestFirst) where
  start := by
    simp [readTurnRows, SessionStore.turnsBefore]
  resume front row back listed := by
    have nodup : ((store.turnsOf sessionId).map (·.turnIndex)).Nodup := by
      rw [numbered sessionId]
      exact List.nodup_range'
    have left : ((store.turnsOf sessionId).filter fun turn =>
        turn.turnIndex < row.turnIndex).insertionSort latestFirst = back := by
      refine insertionSort_after latestFirst (fun first second =>
        second.turnIndex < first.turnIndex) (fun first second => ?_) (List.Nodup.of_map _ nodup) ?_
        listed
      · rw [latestFirst, not_le]
      · intro first firstListed second secondListed forward backward
        exact inj_on_of_nodup_map nodup firstListed secondListed (le_antisymm backward forward)
    rw [readTurnRows, SessionStore.turnsBefore, ← left]
    simp

/-- Reading a history back page by page shows the turns of the session, each once. -/
theorem historyVisited (numbered : Numbered store)
    (found : store.sessions.get? sessionId = some model) (limit : ℤ) :
    ∃ pages, Following (readHistory store sessionId model.principal limit) none pages ∧
      pages.reverse.flatten = store.turnsOf sessionId := by
  obtain ⟨pages, following, flat⟩ := (lists_turnRows numbered sessionId limit).following
    (boundedLimit_pos limit)
  refine ⟨_, following.mapItems List.reverse
    (fun before page ok => readHistory_of_rows found rfl before page ok), ?_⟩
  rw [← List.reverse_flatten, flat, turnsBefore_none numbered, List.reverse_reverse]

/-! ## The guarantee -/

/-- The call names a session, and if it appends a turn its request repeats itself. -/
def AsksOnce (store : SessionStore) : SessionCall → Prop
  | .appendTurn request _ _ => request.sessionId ≠ "" ∧ Repeats store request
  | .bindInvestigationDecision _ _ _ _ => True

/-- What a run of calls on the sessions leaves. -/
structure ConversationsKept (calls : List SessionCall) : Prop where
  numbered : Numbered (sessionsAfter calls)
  owned : Owned calls (sessionsAfter calls)
  carries : ∀ before request turnId now after turn next,
    calls = before ++ .appendTurn request turnId now :: after →
    (sessionsAfter before).appendTurn request turnId now = .ok (turn, next) →
    Carries request turn
  bound : ∀ before after, calls = before ++ after →
    ∀ turn ∈ (sessionsAfter before).turns.rows, ∀ decision ∈ turn.decisionRef,
      ∃ later ∈ (sessionsAfter calls).turns.rows,
        later.turnId = turn.turnId ∧ later.decisionRef = some decision
  conversations : ∀ principal limit, ∃ pages,
    Following (readConversations (sessionsAfter calls) principal limit) none pages ∧
      ConversationsVisited (sessionsAfter calls) principal pages
  history : ∀ sessionId model limit, (sessionsAfter calls).sessions.get? sessionId = some model →
    ∃ pages, Following (readHistory (sessionsAfter calls) sessionId model.principal limit) none
        pages ∧
      pages.reverse.flatten = (sessionsAfter calls).turnsOf sessionId

/-- A session is opened under the identifier that a request names. -/
theorem sessionsNamed_of_ok (named : SessionsNamed store) (asks : AsksOnce store call)
    (ok : sessionStore call store = .ok (answer, next)) : SessionsNamed next := by
  cases call with
  | appendTurn request turnId now =>
    obtain ⟨⟨turn, after⟩, appended, ok⟩ := bind_eq_ok.1 ok
    cases ok
    obtain ⟨opened, opens, outcome⟩ := appendTurn_cases appended
    have openedNamed : SessionsNamed opened := by
      unfold SessionStore.openSession at opens
      cases present : store.sessions.get? request.sessionId with
      | some model =>
        rw [present] at opens
        obtain ⟨_, opens⟩ := require_bind_eq_ok.1 opens
        cases opens
        exact named
      | none =>
        rw [present] at opens
        obtain ⟨table, inserted, opens⟩ := fetch_bind_eq_ok.1 opens
        cases opens
        intro model member
        rw [(insert?_eq_some inserted).1, mem_append, mem_singleton] at member
        rcases member with stored | rfl
        · exact named model stored
        · exact asks.1
    rcases outcome with ⟨_, rfl⟩ | ⟨_, _, _, sessions⟩
    · exact openedNamed
    · intro model member
      rw [sessions, Table.rows_update, mem_map] at member
      obtain ⟨old, stored, rfl⟩ := member
      split <;> exact openedNamed old stored
  | bindInvestigationDecision principal requestId caseId decisionId =>
    obtain ⟨⟨found, after⟩, bound, ok⟩ := bind_eq_ok.1 ok
    cases ok
    rcases bindInvestigationDecision_cases bound with rfl | ⟨_, _, _, rfl⟩
    · exact named
    · exact named

theorem sessionsNamed_sessionsAfter (asks : Along sessionStore AsksOnce .empty calls) :
    SessionsNamed (sessionsAfter calls) :=
  run_invariant_along (fun _ _ _ _ named asks ok => sessionsNamed_of_ok named asks ok)
    (fun _ member => absurd member not_mem_nil) calls asks

/-- A question of the analyst about a package, answered by a decision. -/
def packageQuestion (question decisionRef : String) : AppendTurn where
  sessionId := "session-1"
  principal := "analyst"
  requestId := "request-1"
  question
  taskKind := "question"
  targetObjectIds := []
  knowledgeRevision := none
  contextId := none
  decisionRef := some decisionRef
  investigationRef := none

end SecFusion.Application
