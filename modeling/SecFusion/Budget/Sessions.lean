import SecFusion.Budget.Settlement

/-!
# Budget calls that raise

A call that raises does not roll back by itself: what it has written stays in the session
of its caller, who may catch the exception and commit.  `commit` checks and settles its
rows one by one, so a row that is refused leaves those before it settled
(`commitLeft`); `create_account` has added the account by the time its parent refuses the
allocation.  The other operations check first and write afterwards.

A group that is left half settled can be neither committed nor released
(`a_refused_row_divides_the_group`).  No group is divided as long as no caught commit
settles its first row and is refused at a later one (`commit_all_or_nothing`).
-/

namespace SecFusion.Budget

open Foundations

/-! ## What a call leaves -/

/-- A row that the loop of `commit` has settled. -/
def settledRow (consumed : Dict String ℚ) (row : BudgetReservationModel) :
    BudgetReservationModel :=
  { row with amountCommitted := consumed.getD row.resourceType 0, status := .committed }

/-- The loop of `commit` settles the row. -/
def Accepts (consumed : Dict String ℚ) (allowOverrun : Bool) (row : BudgetReservationModel) :
    Prop :=
  row.status = .reserved ∧ 0 ≤ consumed.getD row.resourceType 0 ∧
    (allowOverrun = false → consumed.getD row.resourceType 0 ≤ row.amountReserved)

instance acceptsDecidable (consumed : Dict String ℚ) (allowOverrun : Bool)
    (row : BudgetReservationModel) : Decidable (Accepts consumed allowOverrun row) :=
  inferInstanceAs (Decidable (row.status = .reserved ∧ 0 ≤ consumed.getD row.resourceType 0 ∧
    (allowOverrun = false → consumed.getD row.resourceType 0 ≤ row.amountReserved)))

/-- The rows of a group as the loop of `commit` leaves them. -/
def commitRows (consumed : Dict String ℚ) (allowOverrun : Bool)
    (done : List BudgetReservationModel) :
    List BudgetReservationModel → List BudgetReservationModel
  | [] => done
  | model :: rest =>
      if Accepts consumed allowOverrun model then
        commitRows consumed allowOverrun (done ++ [settledRow consumed model]) rest
      else done ++ model :: rest

/-- What `commit` leaves in its session, be it that it answers or that it raises. -/
def commitLeft (ledger : Ledger) (accountId reservationGroupId : String)
    (consumed : Dict String ℚ) (allowOverrun : Bool) : Ledger :=
  match lockGroup ledger accountId reservationGroupId with
  | .error _ => ledger
  | .ok models =>
      if ∀ resource ∈ consumed.keys, ∃ model ∈ models, model.resourceType = resource then
        { ledger with
          reservations := ledger.reservations.write
            ((commitRows consumed allowOverrun [] models).map (·.flushed)) }
      else ledger

/-- The part of `create_account` that adds the account of a child. -/
def addChildAccount (ledger : Ledger) (accountId : String) (limits : BudgetLimits)
    (taskRunId : Option String) (parentId : String) : Except Raised Ledger := do
  let parent ← fetch (ledger.accounts.get? parentId)
    (.lookupError ("parent budget account not found: " ++ parentId))
  require (parent.status = .active) (.valueError "parent budget account is not active")
  let current ← snapshot ledger parentId
  checkRemaining ("child budget exceeds parent remaining " ++ ·) current.remaining
    limits.amounts.entries
  let accounts ← fetch
    (ledger.accounts.insert? (newAccount accountId limits taskRunId (some parentId)))
    (.integrityError "budget_accounts.account_id")
  return { ledger with accounts }

/-- What `create_account` leaves when it raises: the account of a child, if it is the
allocation by its parent that is refused. -/
def createAccountLeft (ledger : Ledger) (accountId : String) (limits : BudgetLimits)
    (taskRunId parentAccountId : Option String) : Ledger :=
  match ledger.accounts.get? accountId, parentAccountId with
  | none, some parentId =>
      match addChildAccount ledger accountId limits taskRunId parentId with
      | .ok opened => opened
      | .error _ => ledger
  | some _, _ | none, none => ledger

/-- What `close_child_account` leaves when it raises. -/
def closeChildAccountLeft (ledger : Ledger) (accountId : String) : Ledger :=
  match (ledger.accounts.get? accountId).bind (·.parentAccountId) with
  | some parentId =>
      commitLeft ledger parentId (childAllocation accountId) (ledger.consumedBy accountId) true
  | none => ledger

/-- What a call that raises leaves in its session. -/
def leftBy : BudgetOp → Ledger → Ledger
  | .createAccount accountId limits taskRunId parentAccountId, ledger =>
      createAccountLeft ledger accountId limits taskRunId parentAccountId
  | .commit accountId groupId consumed allowOverrun, ledger =>
      commitLeft ledger accountId groupId consumed allowOverrun
  | .closeChildAccount accountId, ledger => closeChildAccountLeft ledger accountId
  | .reserve .., ledger | .release .., ledger => ledger

/-- A call, and whether its caller catches what it raises. -/
structure SessionCall where
  op : BudgetOp
  caught : Bool

/-- A call in a session that is committed if the call answers, or if what it raises is
caught.  After a violated constraint there is nothing to commit. -/
def sessionCall (call : SessionCall) (ledger : Ledger) : Except Raised (Unit × Ledger) :=
  match governor call.op ledger with
  | .ok (_, next) => .ok ((), next)
  | .error (.integrityError constraint) => .error (.integrityError constraint)
  | .error raised => if call.caught then .ok ((), leftBy call.op ledger) else .error raised

/-! ## The loop of commit -/

section Loop

variable {consumed : Dict String ℚ} {allowOverrun : Bool} {model : BudgetReservationModel}
variable {models done : List BudgetReservationModel}

theorem not_accepts (reserved : model.status = .reserved)
    (refused : ¬ Accepts consumed allowOverrun model) :
    consumed.getD model.resourceType 0 < 0 ∨
      (model.amountReserved < consumed.getD model.resourceType 0 ∧ allowOverrun = false) := by
  by_cases negative : consumed.getD model.resourceType 0 < 0
  · exact .inl negative
  · refine .inr ?_
    by_contra within
    refine refused ⟨reserved, not_lt.1 negative, fun strict => ?_⟩
    by_contra exceeds
    exact within ⟨not_le.1 exceeds, strict⟩

theorem commitLoop_cons_of_accepts (accepts : Accepts consumed allowOverrun model) :
    commitLoop consumed allowOverrun done (model :: models) =
      commitLoop consumed allowOverrun (done ++ [settledRow consumed model]) models := by
  obtain ⟨reserved, nonneg, within⟩ := accepts
  have fits : ¬ (consumed.getD model.resourceType 0 < 0 ∨
      (model.amountReserved < consumed.getD model.resourceType 0 ∧ allowOverrun = false)) := by
    rintro (negative | ⟨exceeds, strict⟩)
    · exact absurd negative (not_lt.2 nonneg)
    · exact absurd exceeds (not_lt.2 (within strict))
  rw [commitLoop, if_neg (not_not.2 reserved)]
  dsimp only
  rw [if_neg fits]
  rfl

theorem commitRows_cons_of_accepts (accepts : Accepts consumed allowOverrun model) :
    commitRows consumed allowOverrun done (model :: models) =
      commitRows consumed allowOverrun (done ++ [settledRow consumed model]) models := by
  rw [commitRows, if_pos accepts]

theorem commitRows_cons_of_refused (refused : ¬ Accepts consumed allowOverrun model) :
    commitRows consumed allowOverrun done (model :: models) = done ++ model :: models := by
  rw [commitRows, if_neg refused]

/-- A loop that answers has left what it answers. -/
theorem commitRows_of_commitLoop {settled : List BudgetReservationModel} {replay : Bool}
    (ok : commitLoop consumed allowOverrun done models = .ok (settled, replay)) :
    commitRows consumed allowOverrun done models = settled := by
  induction models generalizing done with
  | nil =>
      cases ok
      rfl
  | cons model models ih =>
      by_cases accepts : Accepts consumed allowOverrun model
      · rw [commitLoop_cons_of_accepts accepts] at ok
        rw [commitRows_cons_of_accepts accepts]
        exact ih ok
      · rw [commitRows_cons_of_refused accepts]
        unfold commitLoop at ok
        split at ok
        · split at ok
          · cases ok
            rfl
          · cases ok
        next reserved =>
          dsimp only at ok
          rw [if_pos (not_accepts (not_not.1 reserved) accepts)] at ok
          cases ok

/-- The rows that are done stay. -/
theorem commitRows_append (consumed : Dict String ℚ) (allowOverrun : Bool)
    (done models : List BudgetReservationModel) :
    ∃ rest, commitRows consumed allowOverrun done models = done ++ rest := by
  induction models generalizing done with
  | nil => exact ⟨[], (append_nil done).symm⟩
  | cons model models ih =>
      by_cases accepts : Accepts consumed allowOverrun model
      · obtain ⟨rest, same⟩ := ih (done ++ [settledRow consumed model])
        rw [commitRows_cons_of_accepts accepts, same, append_assoc]
        exact ⟨_, rfl⟩
      · exact ⟨_, commitRows_cons_of_refused accepts⟩

/-- A loop all of whose rows are accepted answers. -/
theorem commitLoop_of_accepts (accept : ∀ row ∈ models, Accepts consumed allowOverrun row) :
    commitLoop consumed allowOverrun done models =
      .ok (done ++ models.map (settledRow consumed), false) := by
  induction models generalizing done with
  | nil => rw [commitLoop, map_nil, append_nil]
  | cons model models ih =>
      rw [commitLoop_cons_of_accepts (accept model mem_cons_self),
        ih fun row member => accept row (mem_cons_of_mem _ member), append_assoc]
      rfl

/-- A loop over reserved rows raises at the first that it refuses. -/
theorem commitLoop_of_refused (reserved : ∀ row ∈ models, row.status = .reserved)
    (refused : ∃ row ∈ models, ¬ Accepts consumed allowOverrun row) :
    ∃ raised, commitLoop consumed allowOverrun done models = .error raised := by
  induction models generalizing done with
  | nil =>
      obtain ⟨row, member, -⟩ := refused
      cases member
  | cons model models ih =>
      by_cases accepts : Accepts consumed allowOverrun model
      · rw [commitLoop_cons_of_accepts accepts]
        refine ih (fun row member => reserved row (mem_cons_of_mem _ member)) ?_
        obtain ⟨row, member, refuses⟩ := refused
        rcases mem_cons.1 member with rfl | later
        · exact absurd accepts refuses
        · exact ⟨row, later, refuses⟩
      · have status := reserved model mem_cons_self
        unfold commitLoop
        rw [if_neg (not_not.2 status)]
        dsimp only
        rw [if_pos (not_accepts status accepts)]
        exact ⟨_, rfl⟩

end Loop

/-! ## What is kept -/

/-- All rows of a group have one status. -/
def Undivided (ledger : Ledger) : Prop :=
  ∀ first ∈ ledger.reservations.rows, ∀ second ∈ ledger.reservations.rows,
    first.accountId = second.accountId → first.reservationGroupId = second.reservationGroupId →
      first.status = second.status

/-- **What holds of the rows** of every ledger. -/
structure RowsKept (ledger : Ledger) : Prop where
  onScale : ∀ row ∈ ledger.reservations.rows, row.flushed = row
  nonneg : ∀ row ∈ ledger.reservations.rows, 0 ≤ row.amountCommitted
  undivided : Undivided ledger

theorem RowsKept.empty : RowsKept Ledger.empty := ⟨nofun, nofun, nofun⟩

variable {ledger next : Ledger} {accountId groupId : String} {first : BudgetReservationModel}
  {view : BudgetReservationGroup} {rest : List BudgetReservationModel}

section

variable (kept : RowsKept ledger)

include kept

theorem RowsKept.of_rows
    (same : next.reservations.rows = ledger.reservations.rows) : RowsKept next := by
  obtain ⟨onScale, nonneg, undivided⟩ := kept
  constructor
  case onScale => rwa [same]
  case nonneg => rwa [same]
  case undivided =>
    unfold Undivided
    rwa [same]

theorem RowsKept.status_group {second : BudgetReservationModel}
    (left : first ∈ ledger.group accountId groupId)
    (right : second ∈ ledger.group accountId groupId) : first.status = second.status := by
  obtain ⟨found, account, group⟩ := mem_group.1 left
  obtain ⟨otherFound, otherAccount, otherGroup⟩ := mem_group.1 right
  exact kept.undivided first found second otherFound (account.trans otherAccount.symm)
    (group.trans otherGroup.symm)

/-- **Rewriting one group** to one status keeps it undivided. -/
theorem RowsKept.rewrite (accountId groupId : String)
    (status : BudgetReservationStatus)
    (pointwise : Forall₂ (fun old new =>
        (old ∈ ledger.group accountId groupId ∧ SameReservation old new ∧ new.flushed = new ∧
          0 ≤ new.amountCommitted ∧ new.status = status) ∨
        (old ∉ ledger.group accountId groupId ∧ new = old))
      ledger.reservations.rows next.reservations.rows) : RowsKept next := by
  constructor
  case onScale =>
    intro row member
    obtain ⟨old, found, ⟨-, -, scaled, -⟩ | ⟨-, rfl⟩⟩ := exists_left_of_mem pointwise member
    · exact scaled
    · exact kept.onScale row found
  case nonneg =>
    intro row member
    obtain ⟨old, found, ⟨-, -, -, nonneg, -⟩ | ⟨-, rfl⟩⟩ := exists_left_of_mem pointwise member
    · exact nonneg
    · exact kept.nonneg row found
  case undivided =>
    intro first firstMember second secondMember account group
    obtain ⟨old, found, oldOutcome⟩ := exists_left_of_mem pointwise firstMember
    obtain ⟨other, otherFound, otherOutcome⟩ := exists_left_of_mem pointwise secondMember
    rcases oldOutcome with ⟨inside, same, -, -, settled⟩ | ⟨outside, rfl⟩
    · rcases otherOutcome with ⟨-, -, -, -, otherSettled⟩ | ⟨outside, rfl⟩
      · rw [settled, otherSettled]
      · obtain ⟨-, ofAccount, ofGroup⟩ := mem_group.1 inside
        refine absurd (mem_group.2 ⟨otherFound, ?_, ?_⟩) outside
        · rw [← account, same.accountId, ofAccount]
        · rw [← group, same.groupId, ofGroup]
    · rcases otherOutcome with ⟨inside, same, -⟩ | ⟨-, rfl⟩
      · obtain ⟨-, ofAccount, ofGroup⟩ := mem_group.1 inside
        refine absurd (mem_group.2 ⟨found, ?_, ?_⟩) outside
        · rw [account, same.accountId, ofAccount]
        · rw [group, same.groupId, ofGroup]
      · exact kept.undivided first found second otherFound account group

theorem RowsKept.reserve {quantities : Dict String ℚ} {child : Option String}
    (ok : reserve ledger accountId groupId quantities child = .ok (view, next)) :
    RowsKept next := by
  rcases (reserve_ok ok).2 with ⟨rfl, -, -⟩ | ⟨absent, -, -, rows, -, -⟩
  · exact kept
  have added : ∀ row ∈ next.reservations.rows, row ∈ ledger.reservations.rows ∨
      ∃ entry, row = (newReservation accountId groupId child entry).flushed := by
    intro row member
    rw [rows, mem_append, mem_map] at member
    rcases member with old | ⟨entry, -, rfl⟩
    · exact .inl old
    · exact .inr ⟨entry, rfl⟩
  constructor
  case onScale =>
    intro row member
    rcases added row member with old | ⟨entry, rfl⟩
    · exact kept.onScale row old
    · exact flushed_onScale
  case nonneg =>
    intro row member
    rcases added row member with old | ⟨entry, rfl⟩
    · exact kept.nonneg row old
    · exact numericScale_nonneg le_rfl
  case undivided =>
    -- no old row is in the group of the new ones
    have apart : ∀ row ∈ ledger.reservations.rows,
        ¬ (row.accountId = accountId ∧ row.reservationGroupId = groupId) := by
      rintro row member ⟨account, group⟩
      have inside := mem_group.2 ⟨member, account, group⟩
      rw [absent] at inside
      cases inside
    intro first firstMember second secondMember account group
    rcases added first firstMember with old | ⟨entry, rfl⟩
    · rcases added second secondMember with other | ⟨entry, rfl⟩
      · exact kept.undivided first old second other account group
      · exact absurd ⟨account, group⟩ (apart first old)
    · rcases added second secondMember with other | ⟨otherEntry, rfl⟩
      · exact absurd ⟨account.symm, group.symm⟩ (apart second other)
      · rfl

theorem RowsKept.commit {consumed : Dict String ℚ} {allowOverrun : Bool}
    (ok : commit ledger accountId groupId consumed allowOverrun = .ok (view, next)) :
    RowsKept next := by
  obtain ⟨-, -, -, pointwise⟩ := commit_ok ok
  refine kept.rewrite accountId groupId .committed (forall₂_imp_mem pointwise ?_)
  rintro old found new (⟨inside, writes⟩ | outside)
  · have scaled := kept.onScale old found
    obtain ⟨same, onScale⟩ := writes.same scaled
    refine .inl ⟨inside, same, onScale, ?_⟩
    rcases writes with ⟨middle, ⟨-, nonneg, -, rfl⟩, rfl⟩ | ⟨⟨committed, -⟩, rfl⟩
    · exact ⟨numericScale_nonneg nonneg, rfl⟩
    · rw [scaled]
      exact ⟨kept.nonneg old found, committed⟩
  · exact .inr outside

theorem RowsKept.release
    (ok : release ledger accountId groupId = .ok (view, next)) : RowsKept next := by
  rcases release_ok ok with ⟨rfl, -⟩ | ⟨-, -, -, pointwise⟩
  · exact kept
  refine kept.rewrite accountId groupId .released (forall₂_imp_mem pointwise ?_)
  rintro old found new (⟨inside, rfl⟩ | outside)
  · rw [kept.onScale old found]
    exact .inl ⟨inside, ⟨rfl, rfl, rfl, rfl, rfl⟩, by
      exact congrArg (fun row => { row with status := BudgetReservationStatus.released })
        (kept.onScale old found), kept.nonneg old found, rfl⟩
  · exact .inr outside

theorem RowsKept.governor {op : BudgetOp} {answer : BudgetAnswer}
    (ok : governor op ledger = .ok (answer, next)) :
    RowsKept next := by
  cases governor_called ok with
  | createAccount called =>
      rcases createAccount_ok called with
        rfl | ⟨accounts, -, -, -, ⟨rfl, -⟩ | ⟨parent, group, -, reserved⟩⟩
      · exact kept
      · exact kept.of_rows rfl
      · have opened : RowsKept { ledger with accounts } := kept.of_rows rfl
        exact opened.reserve reserved
  | reserve called =>
      exact kept.reserve called
  | commit called =>
      exact kept.commit called
  | release called =>
      exact kept.release called
  | closeChildAccount called =>
      obtain ⟨child, parent, -, -, ⟨-, rfl⟩ | ⟨-, group, settled, committed, rfl⟩⟩ :=
        closeChildAccount_ok called
      · exact kept
      · exact (kept.commit committed).of_rows rfl

end

theorem run_rowsKept (ops : List BudgetOp) : RowsKept (run governor Ledger.empty ops) :=
  run_invariant (fun _ _ _ _ kept ok => RowsKept.governor kept ok) RowsKept.empty ops

/-! ## Commits that are refused -/

/-- **The condition on a commit**: if the first row, in the order of the resources, is
settled, then no later one is refused. -/
def WholeCommit (ledger : Ledger) (accountId groupId : String) (consumed : Dict String ℚ)
    (allowOverrun : Bool) : Prop :=
  ∀ models, lockGroup ledger accountId groupId = .ok models →
    (∀ resource ∈ consumed.keys, ∃ model ∈ models, model.resourceType = resource) →
      ∀ first ∈ models.head?, Accepts consumed allowOverrun first →
        ∀ row ∈ models, Accepts consumed allowOverrun row

section Commits

variable {consumed : Dict String ℚ}
variable {allowOverrun : Bool} {models : List BudgetReservationModel}

theorem commit_of_locked (locked : lockGroup ledger accountId groupId = .ok models)
    (known : ∀ resource ∈ consumed.keys, ∃ model ∈ models, model.resourceType = resource) :
    commit ledger accountId groupId consumed allowOverrun =
      (commitLoop consumed allowOverrun [] models >>= fun result =>
        .ok ({ reservationGroupId := groupId, accountId
               reservations := result.1.map reservationView, replay := result.2 },
          { ledger with
            reservations := ledger.reservations.write (result.1.map (·.flushed)) })) := by
  unfold commit
  rw [locked, ok_bind, require_of known, ok_bind]
  rfl

theorem commitLeft_of_locked (locked : lockGroup ledger accountId groupId = .ok models)
    (known : ∀ resource ∈ consumed.keys, ∃ model ∈ models, model.resourceType = resource) :
    commitLeft ledger accountId groupId consumed allowOverrun =
      { ledger with
        reservations := ledger.reservations.write
          ((commitRows consumed allowOverrun [] models).map (·.flushed)) } := by
  unfold commitLeft
  rw [locked]
  dsimp only
  rw [if_pos known]

/-- A commit that answers leaves what it answers. -/
theorem commitLeft_of_ok
    (ok : commit ledger accountId groupId consumed allowOverrun = .ok (view, next)) :
    commitLeft ledger accountId groupId consumed allowOverrun = next := by
  unfold commit at ok
  obtain ⟨models, locked, ok⟩ := bind_eq_ok.1 ok
  obtain ⟨known, ok⟩ := require_bind_eq_ok.1 ok
  obtain ⟨⟨settled, replay⟩, looped, ok⟩ := bind_eq_ok.1 ok
  cases ok
  rw [commitLeft_of_locked locked known, commitRows_of_commitLoop looped]

theorem RowsKept.reserved_locked (kept : RowsKept ledger)
    (locked : lockGroup ledger accountId groupId = .ok models) (member : first ∈ models)
    (reserved : first.status = .reserved) :
    ∀ row ∈ models, row.status = .reserved := by
  intro row other
  rw [← reserved]
  exact kept.status_group ((mem_lockGroup locked).1 other) ((mem_lockGroup locked).1 member)

/-- A commit whose first row is not settled leaves the rows. -/
theorem commitLeft_of_refused (kept : RowsKept ledger)
    (locked : lockGroup ledger accountId groupId = .ok (first :: rest))
    (refused : ¬ Accepts consumed allowOverrun first) :
    (commitLeft ledger accountId groupId consumed allowOverrun).reservations.rows =
      ledger.reservations.rows := by
  by_cases known : ∀ resource ∈ consumed.keys,
      ∃ model ∈ first :: rest, model.resourceType = resource
  · rw [commitLeft_of_locked locked known, commitRows_cons_of_refused refused, nil_append]
    have written : Forall₂ (fun old new => new.groupResource = old.groupResource ∧ new = old)
        (first :: rest) ((first :: rest).map (·.flushed)) := by
      rw [forall₂_map_right_iff, forall₂_same]
      intro row member
      have scaled := kept.onScale row (mem_rows_of_lockGroup locked row member)
      rw [scaled]
      exact ⟨rfl, rfl⟩
    have rewritten := Table.forall₂_write (mem_rows_of_lockGroup locked) written
    have unchanged : Forall₂ (· = ·) ledger.reservations.rows
        (ledger.reservations.write ((first :: rest).map (·.flushed))).rows := by
      refine rewritten.imp ?_
      rintro old new (⟨-, rfl⟩ | ⟨-, rfl⟩)
      · rfl
      · rfl
    rw [List.forall₂_eq_eq_eq] at unchanged
    exact unchanged.symm
  · unfold commitLeft
    rw [locked]
    dsimp only
    rw [if_neg known]

/-- A commit whose first row is settled has changed it. -/
theorem commitLeft_of_accepts (locked : lockGroup ledger accountId groupId = .ok (first :: rest))
    (known : ∀ resource ∈ consumed.keys, ∃ model ∈ first :: rest, model.resourceType = resource)
    (accepts : Accepts consumed allowOverrun first) :
    (commitLeft ledger accountId groupId consumed allowOverrun).reservations.rows ≠
      ledger.reservations.rows := by
  intro same
  obtain ⟨tail, settled⟩ := commitRows_append consumed allowOverrun [settledRow consumed first] rest
  have found : ledger.reservations.get? first.groupResource = some first :=
    get?_of_mem (mem_rows_of_lockGroup locked first mem_cons_self)
  have after : (commitLeft ledger accountId groupId consumed allowOverrun).reservations.get?
      first.groupResource = some first := by
    rw [Table.get?, same]
    exact found
  rw [commitLeft_of_locked locked known, commitRows_cons_of_accepts accepts, nil_append,
    settled, Table.write, get?_modify, found] at after
  have head : (settledRow consumed first).flushed.groupResource = first.groupResource := rfl
  rw [singleton_append, map_cons, map_some, List.find?_cons_of_pos
    (by rw [decide_eq_true_eq]; exact head)] at after
  have status : (settledRow consumed first).flushed.status = first.status :=
    congrArg (·.status) (Option.some.inj after)
  rw [accepts.1] at status
  cases status

/-- **A commit that raises leaves its group alone** if and only if it does not settle the
first row of a group of which it refuses another. -/
theorem commitLeft_iff (kept : RowsKept ledger) :
    (∀ raised, commit ledger accountId groupId consumed allowOverrun = .error raised →
      (commitLeft ledger accountId groupId consumed allowOverrun).reservations.rows =
        ledger.reservations.rows) ↔
      WholeCommit ledger accountId groupId consumed allowOverrun := by
  constructor
  · intro leaves models locked known first head accepts
    obtain ⟨rest, rfl⟩ : ∃ rest, models = first :: rest := List.head?_eq_some_iff.1 head
    by_contra refused
    push Not at refused
    have reserved := kept.reserved_locked locked mem_cons_self accepts.1
    obtain ⟨raised, fails⟩ : ∃ raised, commitLoop consumed allowOverrun [] (first :: rest) =
        .error raised := commitLoop_of_refused reserved refused
    refine commitLeft_of_accepts locked known accepts (leaves raised ?_)
    rw [commit_of_locked locked known, fails, error_bind]
  · intro whole raised fails
    cases locked : lockGroup ledger accountId groupId with
    | error other =>
        unfold commitLeft
        rw [locked]
    | ok models =>
        cases models with
        | nil => exact absurd rfl (lockGroup_eq_ok.1 locked).1
        | cons first rest =>
            by_cases accepts : Accepts consumed allowOverrun first
            · by_cases known : ∀ resource ∈ consumed.keys,
                  ∃ model ∈ first :: rest, model.resourceType = resource
              · have accept := whole _ locked known first rfl accepts
                rw [commit_of_locked locked known, commitLoop_of_accepts accept] at fails
                cases fails
              · unfold commitLeft
                rw [locked]
                dsimp only
                rw [if_neg known]
            · exact commitLeft_of_refused kept locked accepts

/-- What a commit leaves is kept, if it does not settle a part of its group. -/
theorem RowsKept.commitLeft (kept : RowsKept ledger)
    (whole : WholeCommit ledger accountId groupId consumed allowOverrun) :
    RowsKept (Budget.commitLeft ledger accountId groupId consumed allowOverrun) := by
  cases outcome : Budget.commit ledger accountId groupId consumed allowOverrun with
  | error raised => exact kept.of_rows ((commitLeft_iff kept).2 whole raised outcome)
  | ok result =>
      obtain ⟨view, next⟩ := result
      rw [commitLeft_of_ok outcome]
      exact kept.commit outcome

/-- **A reserved group can be committed** within what it reserves. -/
theorem RowsKept.commit_of_reserved (kept : RowsKept ledger)
    (reserved : ∃ row ∈ ledger.group accountId groupId, row.status = .reserved)
    (known : ∀ resource ∈ consumed.keys,
      ∃ row ∈ ledger.group accountId groupId, row.resourceType = resource)
    (within : ∀ row ∈ ledger.group accountId groupId, 0 ≤ consumed.getD row.resourceType 0 ∧
      (allowOverrun = false → consumed.getD row.resourceType 0 ≤ row.amountReserved)) :
    ∃ view next, Budget.commit ledger accountId groupId consumed allowOverrun =
      .ok (view, next) := by
  obtain ⟨row, member, status⟩ := reserved
  obtain ⟨models, locked⟩ : ∃ models, lockGroup ledger accountId groupId = .ok models :=
    ⟨_, lockGroup_eq_ok.2 ⟨ne_nil_of_mem ((mem_insertionSort _).2 member), rfl⟩⟩
  have accept : ∀ row ∈ models, Accepts consumed allowOverrun row := by
    intro other inside
    have reserved := kept.reserved_locked locked ((mem_lockGroup locked).2 member) status
    exact ⟨reserved other inside, within other ((mem_lockGroup locked).1 inside)⟩
  have names : ∀ resource ∈ consumed.keys, ∃ model ∈ models, model.resourceType = resource := by
    intro resource key
    obtain ⟨other, inside, same⟩ := known resource key
    exact ⟨other, (mem_lockGroup locked).2 inside, same⟩
  rw [commit_of_locked locked names, commitLoop_of_accepts accept]
  exact ⟨_, _, rfl⟩

/-- **A reserved group can be released.** -/
theorem RowsKept.release_of_reserved (kept : RowsKept ledger)
    (reserved : ∃ row ∈ ledger.group accountId groupId, row.status = .reserved) :
    ∃ view next, Budget.release ledger accountId groupId = .ok (view, next) := by
  obtain ⟨row, member, status⟩ := reserved
  obtain ⟨models, locked⟩ : ∃ models, lockGroup ledger accountId groupId = .ok models :=
    ⟨_, lockGroup_eq_ok.2 ⟨ne_nil_of_mem ((mem_insertionSort _).2 member), rfl⟩⟩
  have allReserved := kept.reserved_locked locked ((mem_lockGroup locked).2 member) status
  have uncommitted : ∀ item ∈ models, item.status ≠ .committed := by
    intro item inside
    rw [allReserved item inside]
    decide
  unfold Budget.release
  rw [locked, ok_bind]
  split
  · exact ⟨_, _, rfl⟩
  · rw [require_of uncommitted]
    exact ⟨_, _, rfl⟩

end Commits

/-! ## Runs -/

/-- A caught commit does not settle a part of its group. -/
def Undividing (ledger : Ledger) (call : SessionCall) : Prop :=
  match call.op with
  | .commit accountId groupId consumed allowOverrun =>
      call.caught = true → WholeCommit ledger accountId groupId consumed allowOverrun
  | .createAccount .. | .reserve .. | .release .. | .closeChildAccount .. => True

theorem RowsKept.committedTotal_nonneg (kept : RowsKept ledger) (accountId resource : String) :
    0 ≤ ledger.committedTotal accountId resource := by
  refine List.sum_nonneg fun amount member => ?_
  obtain ⟨row, inside, rfl⟩ := mem_map.1 member
  have listed := (mem_filter.1 inside).1
  exact kept.nonneg row (mem_filter.1 listed).1

/-- Closing a child, the overrun allowed, settles the whole allocation. -/
theorem RowsKept.wholeCommit_close (kept : RowsKept ledger) (parentId accountId : String) :
    WholeCommit ledger parentId (childAllocation accountId) (ledger.consumedBy accountId) true := by
  intro models locked known first head accepts row member
  have reserved := kept.reserved_locked locked (List.mem_of_mem_head? head) accepts.1
  refine ⟨reserved row member, ?_, nofun⟩
  rw [getD_consumedBy]
  exact kept.committedTotal_nonneg accountId row.resourceType

theorem reservations_addChildAccount {opened : Ledger} {parentId : String} {limits : BudgetLimits}
    {taskRunId : Option String}
    (ok : addChildAccount ledger accountId limits taskRunId parentId = .ok opened) :
    opened.reservations = ledger.reservations := by
  unfold addChildAccount at ok
  obtain ⟨parent, -, ok⟩ := fetch_bind_eq_ok.1 ok
  obtain ⟨-, ok⟩ := require_bind_eq_ok.1 ok
  obtain ⟨report, -, ok⟩ := bind_eq_ok.1 ok
  obtain ⟨_, -, ok⟩ := bind_eq_ok.1 ok
  obtain ⟨accounts, -, ok⟩ := fetch_bind_eq_ok.1 ok
  cases ok
  rfl

theorem reservations_createAccountLeft (ledger : Ledger) (accountId : String)
    (limits : BudgetLimits) (taskRunId parentAccountId : Option String) :
    (createAccountLeft ledger accountId limits taskRunId parentAccountId).reservations =
      ledger.reservations := by
  unfold createAccountLeft
  split
  · split
    next opened added => exact reservations_addChildAccount added
    · rfl
  · rfl
  · rfl

/-- **What a call leaves is kept**, if it does not divide a group. -/
theorem RowsKept.sessionCall {call : SessionCall} {answer : Unit} (kept : RowsKept ledger)
    (undividing : Undividing ledger call) (ok : sessionCall call ledger = .ok (answer, next)) :
    RowsKept next := by
  obtain ⟨op, caught⟩ := call
  unfold Budget.sessionCall at ok
  split at ok
  next result returned called =>
    cases ok
    exact kept.governor called
  next => cases ok
  next raised unbroken called =>
    split at ok
    next isCaught =>
      cases ok
      cases op with
      | createAccount accountId limits taskRunId parentId =>
          refine kept.of_rows ?_
          exact congrArg (·.rows)
            (reservations_createAccountLeft ledger accountId limits taskRunId parentId)
      | reserve => exact kept
      | release => exact kept
      | commit accountId groupId consumed allowOverrun =>
          exact kept.commitLeft (undividing isCaught)
      | closeChildAccount accountId =>
          show RowsKept (closeChildAccountLeft ledger accountId)
          unfold closeChildAccountLeft
          split
          next parentId ofParent => exact kept.commitLeft (kept.wholeCommit_close parentId accountId)
          next => exact kept
    next => cases ok

/-- **Commits are all or nothing** in every run of calls, caught or not, of which no
caught commit settles a part of its group: a commit that raises changes no row if and only
if it is not such a commit, no group is divided, and a reserved group can be released, and
committed within what it reserves. -/
theorem commit_all_or_nothing (calls : List SessionCall)
    (guarded : Along sessionCall Undividing Ledger.empty calls) :
    (∀ accountId groupId consumed allowOverrun,
      (∀ raised, commit (run sessionCall Ledger.empty calls) accountId groupId consumed
          allowOverrun = .error raised →
        (commitLeft (run sessionCall Ledger.empty calls) accountId groupId consumed
          allowOverrun).reservations.rows = (run sessionCall Ledger.empty calls).reservations.rows) ↔
        WholeCommit (run sessionCall Ledger.empty calls) accountId groupId consumed allowOverrun) ∧
    Undivided (run sessionCall Ledger.empty calls) ∧
    ∀ accountId groupId,
      (∃ row ∈ (run sessionCall Ledger.empty calls).group accountId groupId,
        row.status = .reserved) →
      (∃ view next, release (run sessionCall Ledger.empty calls) accountId groupId =
        .ok (view, next)) ∧
      ∀ consumed allowOverrun,
        (∀ resource ∈ consumed.keys,
          ∃ row ∈ (run sessionCall Ledger.empty calls).group accountId groupId,
            row.resourceType = resource) →
        (∀ row ∈ (run sessionCall Ledger.empty calls).group accountId groupId,
          0 ≤ consumed.getD row.resourceType 0 ∧
            (allowOverrun = false → consumed.getD row.resourceType 0 ≤ row.amountReserved)) →
        ∃ view next, commit (run sessionCall Ledger.empty calls) accountId groupId consumed
          allowOverrun = .ok (view, next) := by
  have kept : RowsKept (run sessionCall Ledger.empty calls) :=
    run_invariant_along (fun _ _ _ _ kept undividing answered =>
      RowsKept.sessionCall kept undividing answered) RowsKept.empty calls guarded
  refine ⟨fun accountId groupId consumed allowOverrun => commitLeft_iff kept, kept.undivided,
    fun accountId groupId reserved => ⟨kept.release_of_reserved reserved, ?_⟩⟩
  exact fun consumed allowOverrun => kept.commit_of_reserved reserved

/-! ## A group that is divided -/

def callLimits : BudgetLimits where
  quantities := ⟨[("external_cost", ⟨false, 10, 0⟩), ("tool_calls", ⟨false, 5, 0⟩)], by decide⟩
  resource_nonblank := by decide
  quantity_nonneg := by decide +kernel

/-- An account of which a group reserves some of each resource. -/
def callReserved : List SessionCall :=
  [ ⟨.createAccount "root" callLimits none none, false⟩,
    ⟨.reserve "root" "action" ⟨[("external_cost", 4), ("tool_calls", 1)], by decide⟩ none,
      false⟩ ]

/-- One resource is consumed within what is reserved, and the other above it. -/
def overrunConsumed : Dict String ℚ := ⟨[("external_cost", 2), ("tool_calls", 3)], by decide⟩

/-- The commit that is refused at its second row, by a caller who goes on. -/
def overrunCaught : SessionCall := ⟨.commit "root" "action" overrunConsumed false, true⟩

/-- Where the amounts are within what is reserved, the group can be committed. -/
theorem commit_all_or_nothing_callReserved :
    ∃ view next, commit (run sessionCall Ledger.empty callReserved) "root" "action"
      ⟨[("external_cost", 2)], by decide⟩ false = .ok (view, next) := by
  have settles := (commit_all_or_nothing callReserved
    ⟨trivial, trivial, trivial⟩).2.2 "root" "action" (by decide +kernel)
  exact settles.2 ⟨[("external_cost", 2)], by decide⟩ false (by decide +kernel) (by decide +kernel)

/-- **A refused row divides the group**: the commit raises after it has settled the row
before, and the group can then be neither committed nor released. -/
theorem a_refused_row_divides_the_group :
    (¬ ∀ (calls : List SessionCall) accountId groupId consumed allowOverrun raised,
      commit (run sessionCall Ledger.empty calls) accountId groupId consumed allowOverrun =
          .error raised →
        (commitLeft (run sessionCall Ledger.empty calls) accountId groupId consumed
          allowOverrun).reservations.rows = (run sessionCall Ledger.empty calls).reservations.rows) ∧
    ¬ ∀ calls : List SessionCall, Undivided (run sessionCall Ledger.empty calls) := by
  constructor
  · intro whole
    have fails : (commit (run sessionCall Ledger.empty callReserved) "root" "action"
        overrunConsumed false).toOption.isSome = false := by decide +kernel
    cases outcome : commit (run sessionCall Ledger.empty callReserved) "root" "action"
        overrunConsumed false with
    | error raised =>
        have same := whole callReserved "root" "action" overrunConsumed false raised outcome
        exact absurd same (by decide +kernel)
    | ok result =>
        rw [outcome] at fails
        cases fails
  · intro undivided
    have divided := undivided (callReserved ++ [overrunCaught])
    unfold Undivided at divided
    exact absurd divided (by decide +kernel)

end SecFusion.Budget
