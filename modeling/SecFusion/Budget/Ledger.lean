import SecFusion.Raised
import SecFusion.Foundations.Dict
import SecFusion.Foundations.Table
import SecFusion.Foundations.Text

/-!
# The budget ledger

The model of `packages/runtime/budget`: accounts in a tree, reservation rows
grouped by a caller-chosen identity, and the five operations of
`BudgetGovernor` over them.

Nothing in the ledger stores how much of a limit is left.  `snapshot` recomputes
it from the rows, by status, every time an operation needs it; a child account
is funded by an ordinary reservation group of its parent whose identity is
`child-allocation:` followed by the child's.

### Amounts

A limit is kept exactly, as the text of a `Decimal` (`BudgetAccountModel.limits`
is a JSON column of strings).  The two amounts of a reservation row are
`NUMERIC(24, 6)` columns: `numericScale` is what such a column returns for what
was written to it.  `flushed` applies it where the session flushes a row.

Timestamps are written and never read by the service, so the rows here do not
carry them.
-/

namespace SecFusion.Budget

open Foundations

/-! ## Contracts -/

/-- A finite `decimal.Decimal`, as `as_tuple` presents it.  Two of them have the
same text exactly when these three fields agree. -/
structure Decimal where
  negative : Bool := false
  digits : ℕ
  exponent : ℤ := 0
  deriving DecidableEq

/-- The number a decimal denotes; comparisons and arithmetic see only this. -/
def Decimal.toRat (d : Decimal) : ℚ :=
  (if d.negative then -1 else 1) * d.digits * (10 : ℚ) ^ d.exponent

/-- What a `NUMERIC(24, 6)` column returns for a nonnegative number: the nearest
multiple of one millionth, ties away from zero. -/
def numericScale (amount : ℚ) : ℚ := round (amount * 1000000) / 1000000

/-- `BudgetLimits`, with what its validator establishes. -/
structure BudgetLimits where
  quantities : Dict String Decimal
  resource_nonblank : ∀ entry ∈ quantities.entries, isBlank entry.1 = false
  quantity_nonneg : ∀ entry ∈ quantities.entries, 0 ≤ entry.2.toRat

inductive BudgetReservationStatus where
  | reserved
  | committed
  | released
  deriving DecidableEq

inductive BudgetAccountStatus where
  | active
  | closed
  deriving DecidableEq

/-- One row of `budget_accounts`. -/
structure BudgetAccountModel where
  accountId : String
  (parentAccountId taskRunId : Option String)
  limits : Dict String Decimal
  status : BudgetAccountStatus
  deriving DecidableEq

/-- One row of `budget_reservations`. -/
structure BudgetReservationModel where
  (reservationId reservationGroupId accountId : String)
  childAccountId : Option String
  resourceType : String
  (amountReserved amountCommitted : ℚ)
  status : BudgetReservationStatus
  deriving DecidableEq

/-- The row as the database keeps it after a flush. -/
def BudgetReservationModel.flushed (row : BudgetReservationModel) : BudgetReservationModel :=
  { row with
    amountReserved := numericScale row.amountReserved
    amountCommitted := numericScale row.amountCommitted }

/-- The columns of the constraint `uq_budget_reservation_group_resource`. -/
def BudgetReservationModel.groupResource (row : BudgetReservationModel) :
    String × String × String :=
  (row.accountId, row.reservationGroupId, row.resourceType)

export BudgetReservationModel (flushed groupResource)

/-- The two tables of the ledger.  Reservations are keyed by account, group and
resource; that `reservation_id` is unique as well is checked where rows are
inserted. -/
structure Ledger where
  accounts : Table BudgetAccountModel String (·.accountId)
  reservations : Table BudgetReservationModel (String × String × String)
    groupResource

/-- The ledger before any call. -/
def Ledger.empty : Ledger := ⟨Table.empty, Table.empty⟩

/-- `BudgetAccountView`. -/
structure BudgetAccountView where
  accountId : String
  (parentAccountId taskRunId : Option String)
  limits : Dict String Decimal
  status : BudgetAccountStatus

/-- `BudgetSnapshot`. -/
structure BudgetSnapshot where
  accountId : String
  (limits reserved committed remaining : Dict String ℚ)

/-- `BudgetReservation`. -/
structure BudgetReservation where
  (reservationId accountId resourceType : String)
  (amountReserved amountCommitted : ℚ)
  status : BudgetReservationStatus

/-- `BudgetReservationGroup`. -/
structure BudgetReservationGroup where
  (reservationGroupId accountId : String)
  reservations : List BudgetReservation
  replay : Bool := false

def accountView (model : BudgetAccountModel) : BudgetAccountView where
  accountId := model.accountId
  parentAccountId := model.parentAccountId
  taskRunId := model.taskRunId
  limits := model.limits
  status := model.status

def reservationView (model : BudgetReservationModel) : BudgetReservation where
  reservationId := model.reservationId
  accountId := model.accountId
  resourceType := model.resourceType
  amountReserved := model.amountReserved
  amountCommitted := model.amountCommitted
  status := model.status

/-- `_serialize_limits`: the limits as text, in increasing order of the resource. -/
def serializeLimits (limits : BudgetLimits) : Dict String Decimal where
  entries := limits.quantities.sorted
  nodup := (limits.quantities.perm_sorted.map Prod.fst).nodup_iff.2 limits.quantities.nodup

/-- `_stable_id`: a name-based UUID, which is taken to determine its name. -/
def stableId (value : String) : String := "secfusion:" ++ value

/-- The reservation group by which a parent funds a child account. -/
def childAllocation (accountId : String) : String := "child-allocation:" ++ accountId

/-! ## Reading the ledger -/

def Ledger.rowsWith (ledger : Ledger) (accountId : String) (status : BudgetReservationStatus) :
    List BudgetReservationModel :=
  ledger.reservations.select fun row => row.accountId = accountId ∧ row.status = status

def Ledger.group (ledger : Ledger) (accountId reservationGroupId : String) :
    List BudgetReservationModel :=
  ledger.reservations.select fun row =>
    row.accountId = accountId ∧ row.reservationGroupId = reservationGroupId

/-- `BudgetGovernor.snapshot`: what is reserved, committed and left of each
limit, summed up from the rows of the account. -/
def snapshot (ledger : Ledger) (accountId : String) : Except Raised BudgetSnapshot := do
  let account ← fetch (ledger.accounts.get? accountId)
    (.lookupError ("budget account not found: " ++ accountId))
  let limits := account.limits.mapEntries fun _ limit => limit.toRat
  let reserved := Dict.tally (·.resourceType) (·.amountReserved)
    (ledger.rowsWith accountId .reserved)
  let committed := Dict.tally (·.resourceType) (·.amountCommitted)
    (ledger.rowsWith accountId .committed)
  let remaining := limits.mapEntries fun resource limit =>
    max 0 (limit - reserved.getD resource 0 - committed.getD resource 0)
  return { accountId, limits, reserved, committed, remaining }

/-- The loop that raises `BudgetExceeded` for the first requested quantity above
what remains of its resource. -/
def checkRemaining (describe : String → String) (remaining : Dict String ℚ)
    (requested : List (String × ℚ)) : Except Raised Unit :=
  match requested.find? fun entry => remaining.getD entry.1 0 < entry.2 with
  | some (resource, amount) =>
      .error (.budgetExceeded (describe resource) amount (remaining.getD resource 0))
  | none => .ok ()

/-- `_lock_group`: the rows of a group in order of their resource. -/
def lockGroup (ledger : Ledger) (accountId reservationGroupId : String) :
    Except Raised (List BudgetReservationModel) := do
  let rows := (ledger.group accountId reservationGroupId).insertionSort
    fun left right => left.resourceType ≤ right.resourceType
  require (rows ≠ [])
    (.lookupError ("budget reservation group not found: " ++ reservationGroupId))
  return rows

/-! ## The operations -/

/-- One new row of `reserve`. -/
def newReservation (accountId reservationGroupId : String) (childAccountId : Option String)
    (entry : String × ℚ) : BudgetReservationModel where
  reservationId := stableId ("budget-reservation:" ++ accountId ++ ":" ++ reservationGroupId ++
    ":" ++ entry.1)
  reservationGroupId := reservationGroupId
  accountId := accountId
  childAccountId := childAccountId
  resourceType := entry.1
  amountReserved := entry.2
  amountCommitted := 0
  status := .reserved

/-- `reserve` on a group that exists: a replay of the same request, or an error. -/
def reserveReplay (existing : List BudgetReservationModel) (ledger : Ledger)
    (accountId reservationGroupId : String) (quantities : Dict String ℚ)
    (childAccountId : Option String) : Except Raised (BudgetReservationGroup × Ledger) := do
  let actual := Dict.ofRows (·.resourceType) (·.amountReserved) existing
  require (actual.Same quantities ∧ ∀ item ∈ existing, item.childAccountId = childAccountId)
    (.valueError "budget reservation group identity is immutable")
  return ({ reservationGroupId, accountId, reservations := existing.map reservationView,
            replay := true }, ledger)

/-- `reserve` on a new group: every quantity must fit in what remains. -/
def reserveFresh (ledger : Ledger) (accountId reservationGroupId : String)
    (quantities : Dict String ℚ) (childAccountId : Option String) :
    Except Raised (BudgetReservationGroup × Ledger) := do
  let current ← snapshot ledger accountId
  checkRemaining ("budget exhausted for " ++ ·) current.remaining quantities.entries
  let models := quantities.sorted.map
    (newReservation accountId reservationGroupId childAccountId)
  require (∀ child ∈ childAccountId, (ledger.accounts.get? child).isSome)
    (.integrityError "budget_reservations.child_account_id")
  require (∀ model ∈ models, ∀ row ∈ ledger.reservations.rows,
      row.reservationId ≠ model.reservationId)
    (.integrityError "budget_reservations.reservation_id")
  let reservations ← fetch (ledger.reservations.insertAll? (models.map (·.flushed)))
    (.integrityError "uq_budget_reservation_group_resource")
  return ({ reservationGroupId, accountId, reservations := models.map reservationView },
    { ledger with reservations })

/-- `BudgetGovernor.reserve`. -/
def reserve (ledger : Ledger) (accountId reservationGroupId : String)
    (quantities : Dict String ℚ) (childAccountId : Option String) :
    Except Raised (BudgetReservationGroup × Ledger) := do
  require (quantities.entries ≠ []) (.valueError "budget reservation requires quantities")
  require (∀ entry ∈ quantities.entries, 0 < entry.2)
    (.valueError "budget reservation quantities must be positive")
  let account ← fetch (ledger.accounts.get? accountId)
    (.lookupError ("budget account not found: " ++ accountId))
  require (account.status = .active) (.valueError "budget account is not active")
  let existing := ledger.group accountId reservationGroupId
  if existing ≠ [] then
    reserveReplay existing ledger accountId reservationGroupId quantities childAccountId
  else
    reserveFresh ledger accountId reservationGroupId quantities childAccountId

/-- The row `create_account` adds. -/
def newAccount (accountId : String) (limits : BudgetLimits)
    (taskRunId parentAccountId : Option String) : BudgetAccountModel where
  accountId := accountId
  parentAccountId := parentAccountId
  taskRunId := taskRunId
  limits := serializeLimits limits
  status := .active

/-- `BudgetGovernor.create_account`. -/
def createAccount (ledger : Ledger) (accountId : String) (limits : BudgetLimits)
    (taskRunId parentAccountId : Option String) : Except Raised (BudgetAccountView × Ledger) :=
  match ledger.accounts.get? accountId with
  | some existing => do
      require (existing.limits = serializeLimits limits ∧ existing.taskRunId = taskRunId ∧
          existing.parentAccountId = parentAccountId)
        (.valueError "budget account identity is immutable")
      return (accountView existing, ledger)
  | none => do
      let quantities := limits.quantities.mapEntries fun _ quantity => quantity.toRat
      let model := newAccount accountId limits taskRunId parentAccountId
      match parentAccountId with
      | none => do
          let accounts ← fetch (ledger.accounts.insert? model)
            (.integrityError "budget_accounts.account_id")
          return (accountView model, { ledger with accounts })
      | some parentId => do
          let parent ← fetch (ledger.accounts.get? parentId)
            (.lookupError ("parent budget account not found: " ++ parentId))
          require (parent.status = .active) (.valueError "parent budget account is not active")
          let current ← snapshot ledger parentId
          checkRemaining ("child budget exceeds parent remaining " ++ ·) current.remaining
            quantities.entries
          let accounts ← fetch (ledger.accounts.insert? model)
            (.integrityError "budget_accounts.account_id")
          let opened : Ledger := { ledger with accounts }
          if quantities.entries ≠ [] then do
            let (_, funded) ← reserve opened parentId (childAllocation accountId) quantities
              (some accountId)
            return (accountView model, funded)
          else
            return (accountView model, opened)

/-- Whether a commit that met a row that is no longer reserved repeats an
earlier one: every row of the group is committed and every quantity named by
the caller is the one recorded. -/
def isCommitReplay (models : List BudgetReservationModel) (consumed : Dict String ℚ) : Bool :=
  let prior := Dict.ofRows (·.resourceType) (·.amountCommitted) models
  models.all (fun item => item.status = .committed) &&
    consumed.entries.all fun entry => prior.getD entry.1 0 = entry.2

/-- The loop of `commit` over the locked rows, `done` being the rows it has
already settled.  Answers the rows and whether it left the loop as a replay. -/
def commitLoop (consumed : Dict String ℚ) (allowOverrun : Bool)
    (done : List BudgetReservationModel) :
    List BudgetReservationModel → Except Raised (List BudgetReservationModel × Bool)
  | [] => .ok (done, false)
  | model :: rest =>
      if model.status ≠ .reserved then
        if isCommitReplay (done ++ model :: rest) consumed then
          .ok (done ++ model :: rest, true)
        else
          .error (.valueError "budget reservation group is no longer reservable")
      else
        let amount := consumed.getD model.resourceType 0
        if amount < 0 ∨ (model.amountReserved < amount ∧ allowOverrun = false) then
          .error (.amountRejected
            ("committed amount exceeds reservation for " ++ model.resourceType) amount)
        else
          commitLoop consumed allowOverrun
            (done ++ [{ model with amountCommitted := amount, status := .committed }]) rest

/-- `BudgetGovernor.commit`. -/
def commit (ledger : Ledger) (accountId reservationGroupId : String) (consumed : Dict String ℚ)
    (allowOverrun : Bool) : Except Raised (BudgetReservationGroup × Ledger) := do
  let models ← lockGroup ledger accountId reservationGroupId
  require (∀ resource ∈ consumed.keys, ∃ model ∈ models, model.resourceType = resource)
    (.valueError "commit contains resource not present in reservation")
  let (settled, replay) ← commitLoop consumed allowOverrun [] models
  return ({ reservationGroupId, accountId, reservations := settled.map reservationView, replay },
    { ledger with reservations := ledger.reservations.write (settled.map (·.flushed)) })

/-- `BudgetGovernor.release`. -/
def release (ledger : Ledger) (accountId reservationGroupId : String) :
    Except Raised (BudgetReservationGroup × Ledger) := do
  let models ← lockGroup ledger accountId reservationGroupId
  if ∀ item ∈ models, item.status = .released then
    return ({ reservationGroupId, accountId, reservations := models.map reservationView,
              replay := true }, ledger)
  else do
    require (∀ item ∈ models, item.status ≠ .committed)
      (.valueError "committed reservation cannot be released")
    let freed := models.map fun model => { model with status := .released }
    return ({ reservationGroupId, accountId, reservations := freed.map reservationView },
      { ledger with reservations := ledger.reservations.write (freed.map (·.flushed)) })

def closeAccount (accounts : Table BudgetAccountModel String (·.accountId)) (accountId : String) :
    Table BudgetAccountModel String (·.accountId) :=
  accounts.modify
    (fun account => if account.accountId = accountId then { account with status := .closed }
      else account)
    (by intro account; split <;> rfl)

/-- `BudgetGovernor.close_child_account`: settle the parent's allocation with
what the child has committed so far, overrun allowed, and close the child. -/
def closeChildAccount (ledger : Ledger) (accountId : String) :
    Except Raised (BudgetAccountView × Ledger) := do
  let child ← fetch (ledger.accounts.get? accountId)
    (.lookupError ("budget account not found: " ++ accountId))
  let parentId ← fetch child.parentAccountId
    (.valueError "close_child_account requires a child budget account")
  if child.status = .closed then
    return (accountView child, ledger)
  else do
    let childSnapshot ← snapshot ledger accountId
    let (_, settled) ← commit ledger parentId (childAllocation accountId)
      childSnapshot.committed true
    return (accountView { child with status := .closed },
      { settled with accounts := closeAccount settled.accounts accountId })

/-! ## The service -/

/-- One call of the governor. -/
inductive BudgetOp where
  | createAccount (accountId : String) (limits : BudgetLimits)
      (taskRunId parentAccountId : Option String)
  | reserve (accountId reservationGroupId : String) (quantities : Dict String ℚ)
      (childAccountId : Option String)
  | commit (accountId reservationGroupId : String) (consumed : Dict String ℚ)
      (allowOverrun : Bool)
  | release (accountId reservationGroupId : String)
  | closeChildAccount (accountId : String)

inductive BudgetAnswer where
  | account (view : BudgetAccountView)
  | group (view : BudgetReservationGroup)

/-- Every operation of the governor, as one transaction over the ledger. -/
def governor : BudgetOp → Ledger → Except Raised (BudgetAnswer × Ledger)
  | .createAccount accountId limits taskRunId parentAccountId, ledger => do
      let (view, next) ← createAccount ledger accountId limits taskRunId parentAccountId
      return (.account view, next)
  | .reserve accountId groupId quantities childAccountId, ledger => do
      let (view, next) ← reserve ledger accountId groupId quantities childAccountId
      return (.group view, next)
  | .commit accountId groupId consumed allowOverrun, ledger => do
      let (view, next) ← commit ledger accountId groupId consumed allowOverrun
      return (.group view, next)
  | .release accountId groupId, ledger => do
      let (view, next) ← release ledger accountId groupId
      return (.group view, next)
  | .closeChildAccount accountId, ledger => do
      let (view, next) ← closeChildAccount ledger accountId
      return (.account view, next)

/-- The call that an answer of the governor comes from. -/
inductive BudgetCalled (ledger next : Ledger) : BudgetOp → BudgetAnswer → Prop
  | createAccount {accountId limits taskRunId parentId view}
      (called : createAccount ledger accountId limits taskRunId parentId = .ok (view, next)) :
      BudgetCalled ledger next (.createAccount accountId limits taskRunId parentId) (.account view)
  | reserve {accountId groupId quantities child view}
      (called : reserve ledger accountId groupId quantities child = .ok (view, next)) :
      BudgetCalled ledger next (.reserve accountId groupId quantities child) (.group view)
  | commit {accountId groupId consumed allowOverrun view}
      (called : commit ledger accountId groupId consumed allowOverrun = .ok (view, next)) :
      BudgetCalled ledger next (.commit accountId groupId consumed allowOverrun) (.group view)
  | release {accountId groupId view}
      (called : release ledger accountId groupId = .ok (view, next)) :
      BudgetCalled ledger next (.release accountId groupId) (.group view)
  | closeChildAccount {accountId view}
      (called : closeChildAccount ledger accountId = .ok (view, next)) :
      BudgetCalled ledger next (.closeChildAccount accountId) (.account view)

theorem governor_called {op : BudgetOp} {answer : BudgetAnswer} {ledger next : Ledger}
    (ok : governor op ledger = .ok (answer, next)) : BudgetCalled ledger next op answer := by
  cases op
  all_goals
    obtain ⟨⟨view, last⟩, called, ok⟩ := bind_eq_ok.1 ok
    cases ok
    constructor
    exact called

end SecFusion.Budget
