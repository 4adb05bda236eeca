import SecFusion.Budget.Effects

/-!
# Budget conservation

What an account has reserved and committed, its child allocations included,
stays under its limits.

The bound is stored nowhere, so it has to be carried through every operation as
an invariant over the whole account tree (`Conserved`).  Two of its clauses are
about allocations and exist for one operation: `close_child_account` settles the
parent's allocation with overrun allowed, and what bounds that settlement is
that the allocation was made for exactly the limits of the child (`allocated`)
and that the child stays under them (`within`, at the child).

Two things can push a row above its share.  A commit that is allowed to overrun
is one; runs in which no commit charges a row more than it reserved are those
`NoOvercharge` describes.  The other is the scale of the amount columns: a limit
is kept exactly while a reserved amount is rounded when it is stored, so a
quantity that is checked against what remains may come back larger than it was
checked.  `KeepsScale` excludes this, and `exceeds_limit_after_rounding` is a run
in which it happens.
-/

namespace SecFusion.Budget

open Foundations

/-! ## What a row charges its account -/

/-- The part of its account's limit that one row takes up. -/
def BudgetReservationModel.charge (row : BudgetReservationModel) : ℚ :=
  match row.status with
  | .reserved => row.amountReserved
  | .committed => row.amountCommitted
  | .released => 0

def ofResource (accountId resource : String) (rows : List BudgetReservationModel) :
    List BudgetReservationModel :=
  rows.filter fun row => row.accountId = accountId ∧ row.resourceType = resource

/-- What a list of rows charges one account for one resource. -/
def usage (accountId resource : String) (rows : List BudgetReservationModel) : ℚ :=
  ((ofResource accountId resource rows).map (·.charge)).sum

def BudgetReservationModel.spent (row : BudgetReservationModel) : ℚ :=
  if row.status = .committed then row.amountCommitted else 0

export BudgetReservationModel (charge spent)

/-- A total over the rows of one status is a sum over all rows of the resource. -/
theorem sum_rowsWith (ledger : Ledger) (accountId resource : String)
    (status : BudgetReservationStatus) (amount : BudgetReservationModel → ℚ) :
    (((ledger.rowsWith accountId status).filter fun row => row.resourceType = resource).map
        amount).sum =
      ((ofResource accountId resource ledger.reservations.rows).map fun row =>
        if row.status = status then amount row else 0).sum := by
  unfold Ledger.rowsWith select ofResource
  generalize ledger.reservations.rows = rows
  induction rows with
  | nil => rfl
  | cons row rows ih =>
      simp only [List.filter_filter, Bool.decide_and] at ih ⊢
      by_cases counts : row.accountId = accountId ∧ row.resourceType = resource
      · obtain ⟨rfl, rfl⟩ := counts
        by_cases has : row.status = status
        · simp [has, ih]
        · simp [has, ih]
      · rcases not_and_or.1 counts with other | other
        · simpa [other] using ih
        · simpa [other] using ih

theorem committedTotal_eq_spent (ledger : Ledger) (accountId resource : String) :
    ledger.committedTotal accountId resource =
      ((ofResource accountId resource ledger.reservations.rows).map (·.spent)).sum :=
  sum_rowsWith ledger accountId resource .committed (·.amountCommitted)

/-- The reserved and the committed sums of the snapshot are the charges of the
account's rows. -/
theorem reservedTotal_add_committedTotal (ledger : Ledger) (accountId resource : String) :
    ledger.reservedTotal accountId resource + ledger.committedTotal accountId resource =
      usage accountId resource ledger.reservations.rows := by
  have charges : ∀ row : BudgetReservationModel, row.charge =
      (if row.status = .reserved then row.amountReserved else 0) + row.spent := by
    intro row
    cases status : row.status <;>
      simp [charge, spent, status]
  rw [Ledger.reservedTotal, sum_rowsWith, committedTotal_eq_spent, ← List.sum_map_add, usage]
  simp only [charges]

@[simp] theorem usage_append (accountId resource : String)
    (first second : List BudgetReservationModel) :
    usage accountId resource (first ++ second) =
      usage accountId resource first + usage accountId resource second := by
  simp [usage, ofResource]

variable {rows added : List BudgetReservationModel} {accountId groupId resource parent : String}
  {ledger next : Ledger} {old new row : BudgetReservationModel}
  {consumed quantities : Dict String ℚ} {allowOverrun : Bool} {view : BudgetReservationGroup}
  {account : BudgetAccountModel} {child taskRunId parentId : Option String} {limit : Decimal}
  {limits : BudgetLimits} {op : BudgetOp} {answer : BudgetAnswer}

/-- Rewriting rows in place without charging any of them more does not charge
the account more. -/
theorem usage_le_of_forall₂ {rewritten : List BudgetReservationModel}
    (pointwise : Forall₂ (fun old new => new.accountId = old.accountId ∧
      new.resourceType = old.resourceType ∧ new.charge ≤ old.charge) rows rewritten)
    (accountId resource : String) :
    usage accountId resource rewritten ≤ usage accountId resource rows := by
  induction pointwise with
  | nil => exact le_rfl
  | @cons old new rows rewritten here _ ih =>
      obtain ⟨account, same, le⟩ := here
      by_cases counts : old.accountId = accountId ∧ old.resourceType = resource
      · simpa [usage, ofResource, account, same, counts] using add_le_add le ih
      · simpa [usage, ofResource, account, same, counts] using ih

/-- The new rows of one group charge each resource with its own quantity. -/
theorem usage_newReservations (accountId groupId resource : String) (child : Option String)
    (quantities : Dict String ℚ) :
    usage accountId resource (quantities.sorted.map fun entry =>
        (newReservation accountId groupId child entry).flushed) =
      ((quantities.get? resource).map numericScale).getD 0 := by
  have charges : usage accountId resource (quantities.sorted.map fun entry =>
      (newReservation accountId groupId child entry).flushed) =
      ((quantities.sorted.filter fun entry => entry.1 = resource).map fun entry =>
        numericScale entry.2).sum := by
    simp [usage, ofResource, List.filter_map, Function.comp_def, newReservation,
      flushed, charge]
  have unsorted := ((quantities.perm_sorted.filter fun entry => entry.1 = resource).map
    fun entry => numericScale entry.2).sum_eq
  rw [charges, unsorted]
  exact Dict.sum_entries quantities resource numericScale

theorem usage_newReservations_of_ne {other : String} (different : accountId ≠ other)
    (groupId resource : String) (child : Option String) (quantities : Dict String ℚ) :
    usage other resource (quantities.sorted.map fun entry =>
        (newReservation accountId groupId child entry).flushed) = 0 := by
  simp [usage, ofResource, List.filter_map, Function.comp_def, newReservation,
    flushed, different]

/-! ## The invariant -/

/-- What every row of a ledger satisfies, whatever the run. -/
structure RowKept (ledger : Ledger) (row : BudgetReservationModel) : Prop where
  /-- Stored amounts are multiples of the column's unit. -/
  onScale : row.flushed = row
  /-- A row belongs to an account, of which its resource is limited. -/
  limited : ∃ account limit, ledger.accounts.get? row.accountId = some account ∧
    account.limits.get? row.resourceType = some limit
  reserved_nonneg : 0 ≤ row.amountReserved
  /-- The child a row names exists (a foreign key). -/
  childExists : ∀ child ∈ row.childAccountId, (ledger.accounts.get? child).isSome

/-- What every account of a ledger satisfies, whatever the run. -/
structure AccountKept (ledger : Ledger) (account : BudgetAccountModel) : Prop where
  /-- An account and its parent are different accounts, both of which exist. -/
  parentExists : ∀ parent ∈ account.parentAccountId,
    (ledger.accounts.get? parent).isSome ∧ parent ≠ account.accountId
  /-- The parent's allocation of an account is for the limits of the account. -/
  allocated : ∀ parent ∈ account.parentAccountId,
    ∀ row ∈ ledger.group parent (childAllocation account.accountId), ∀ limit,
      account.limits.get? row.resourceType = some limit →
        row.amountReserved = numericScale limit.toRat
  /-- An account with limits and a parent has an allocation. -/
  funded : ∀ parent ∈ account.parentAccountId, account.limits.entries ≠ [] →
    ledger.group parent (childAllocation account.accountId) ≠ []

/-- A ledger all of whose rows and accounts are as above. -/
structure WellKept (ledger : Ledger) : Prop where
  row : ∀ row ∈ ledger.reservations.rows, RowKept ledger row
  account : ∀ account ∈ ledger.accounts.rows, AccountKept ledger account

/-- Every account stays under each of its limits. -/
def Within (ledger : Ledger) : Prop :=
  ∀ account ∈ ledger.accounts.rows, ∀ resource limit,
    account.limits.get? resource = some limit →
      usage account.accountId resource ledger.reservations.rows ≤ limit.toRat

/-! ## Rewriting rows in place -/

/-- What no operation ever changes about a row. -/
structure SameReservation (old new : BudgetReservationModel) : Prop where
  accountId : new.accountId = old.accountId
  groupId : new.reservationGroupId = old.reservationGroupId
  child : new.childAccountId = old.childAccountId
  resource : new.resourceType = old.resourceType
  reserved : new.amountReserved = old.amountReserved

theorem SameReservation.mem_group (same : SameReservation old new)
    (oldFound : old ∈ ledger.reservations.rows) (member : new ∈ next.group accountId groupId) :
    old ∈ ledger.group accountId groupId := by
  obtain ⟨-, account, group⟩ := Budget.mem_group.1 member
  refine Budget.mem_group.2 ⟨oldFound, ?_, ?_⟩
  · rw [← same.accountId, account]
  · rw [← same.groupId, group]

/-- Rewriting rows in place keeps the identity of every group. -/
theorem group_ne_nil_of_forall₂
    (pointwise : Forall₂ SameReservation ledger.reservations.rows next.reservations.rows)
    (nonempty : ledger.group accountId groupId ≠ []) :
    next.group accountId groupId ≠ [] := by
  obtain ⟨old, member⟩ := exists_mem_of_ne_nil _ nonempty
  obtain ⟨found, account, group⟩ := mem_group.1 member
  obtain ⟨new, newFound, same⟩ := exists_right_of_mem pointwise found
  refine ne_nil_of_mem (mem_group.2 ⟨newFound, ?_, ?_⟩)
  · rw [same.accountId, account]
  · rw [same.groupId, group]

/-- **Rewriting rows in place**, as `commit` and `release` do, keeps a ledger
well kept. -/
theorem WellKept.rewrite (kept : WellKept ledger) (accounts : next.accounts = ledger.accounts)
    (pointwise : Forall₂ (fun old new => SameReservation old new ∧ new.flushed = new)
      ledger.reservations.rows next.reservations.rows) : WellKept next := by
  have same : Forall₂ SameReservation ledger.reservations.rows next.reservations.rows :=
    pointwise.imp fun _ _ => And.left
  constructor
  case row =>
    intro row member
    obtain ⟨old, found, same, scaled⟩ := exists_left_of_mem pointwise member
    have oldKept := kept.row old found
    constructor
    case onScale => exact scaled
    case limited =>
      rw [accounts, same.accountId, same.resource]
      exact oldKept.limited
    case reserved_nonneg =>
      rw [same.reserved]
      exact oldKept.reserved_nonneg
    case childExists =>
      rw [accounts, same.child]
      exact oldKept.childExists
  case account =>
    rw [accounts]
    intro account found
    have oldKept := kept.account account found
    constructor
    case parentExists =>
      rw [accounts]
      exact oldKept.parentExists
    case allocated =>
      intro parent parentEq row member limit limited
      obtain ⟨old, oldFound, same⟩ := exists_left_of_mem same (mem_group.1 member).1
      rw [same.reserved]
      exact oldKept.allocated parent parentEq old (same.mem_group oldFound member) limit
        (same.resource ▸ limited)
    case funded =>
      intro parent parentEq limits
      exact group_ne_nil_of_forall₂ same (oldKept.funded parent parentEq limits)

/-- Rewriting rows in place without charging any of them more keeps every
account under its limits. -/
theorem Within.rewrite (within : Within ledger) (accounts : next.accounts = ledger.accounts)
    (pointwise : Forall₂ (fun old new => SameReservation old new ∧ new.charge ≤ old.charge)
      ledger.reservations.rows next.reservations.rows) : Within next := by
  intro account found resource limit limited
  rw [accounts] at found
  have lower : usage account.accountId resource next.reservations.rows ≤
      usage account.accountId resource ledger.reservations.rows :=
    usage_le_of_forall₂ (pointwise.imp fun _ _ ⟨same, le⟩ => ⟨same.accountId, same.resource, le⟩)
      account.accountId resource
  exact lower.trans (within account found resource limit limited)

theorem flushed_onScale : row.flushed.flushed = row.flushed := by
  simp [flushed]

theorem SameReservation.refl (row : BudgetReservationModel) : SameReservation row row :=
  ⟨rfl, rfl, rfl, rfl, rfl⟩

/-- What `commit` writes to one row of a well-kept ledger. -/
theorem CommitWrites.same (scaled : old.flushed = old)
    (writes : CommitWrites consumed allowOverrun old new) :
    SameReservation old new ∧ new.flushed = new := by
  have reservedScale : numericScale old.amountReserved = old.amountReserved :=
    congrArg (·.amountReserved) scaled
  rcases writes with ⟨middle, ⟨-, -, -, rfl⟩, rfl⟩ | ⟨-, rfl⟩
  · exact ⟨⟨rfl, rfl, rfl, rfl, reservedScale⟩, flushed_onScale⟩
  · rw [scaled]
    exact ⟨SameReservation.refl old, scaled⟩

/-- A row that is not settled above what it reserved is not charged more. -/
theorem CommitWrites.charge_le (scaled : old.flushed = old)
    (under : old.status = .reserved → consumed.getD old.resourceType 0 ≤ old.amountReserved)
    (writes : CommitWrites consumed allowOverrun old new) : new.charge ≤ old.charge := by
  have reservedScale : numericScale old.amountReserved = old.amountReserved :=
    congrArg (·.amountReserved) scaled
  rcases writes with ⟨middle, ⟨reserved, -, -, rfl⟩, rfl⟩ | ⟨-, rfl⟩
  · have lower := numericScale_mono (under reserved)
    rw [reservedScale] at lower
    simpa [charge, flushed, reserved] using lower
  · rw [scaled]

theorem WellKept.commit (kept : WellKept ledger)
    (ok : commit ledger accountId groupId consumed allowOverrun = .ok (view, next)) :
    WellKept next := by
  obtain ⟨accounts, -, -, pointwise⟩ := commit_ok ok
  refine kept.rewrite accounts (forall₂_imp_mem pointwise ?_)
  rintro old found new (⟨-, writes⟩ | ⟨-, rfl⟩)
  · exact writes.same (kept.row old found).onScale
  · exact ⟨SameReservation.refl _, (kept.row _ found).onScale⟩

theorem Within.commit (kept : WellKept ledger) (within : Within ledger)
    (under : ∀ row ∈ ledger.group accountId groupId, row.status = .reserved →
      consumed.getD row.resourceType 0 ≤ row.amountReserved)
    (ok : commit ledger accountId groupId consumed allowOverrun = .ok (view, next)) :
    Within next := by
  obtain ⟨accounts, -, -, pointwise⟩ := commit_ok ok
  refine within.rewrite accounts (forall₂_imp_mem pointwise ?_)
  rintro old found new (⟨member, writes⟩ | ⟨-, rfl⟩)
  · have scaled := (kept.row old found).onScale
    exact ⟨(writes.same scaled).1, writes.charge_le scaled (under old member)⟩
  · exact ⟨SameReservation.refl _, le_rfl⟩

theorem WellKept.release (kept : WellKept ledger)
    (ok : release ledger accountId groupId = .ok (view, next)) : WellKept next := by
  rcases release_ok ok with ⟨rfl, -⟩ | ⟨accounts, -, -, pointwise⟩
  · exact kept
  · refine kept.rewrite accounts (forall₂_imp_mem pointwise ?_)
    rintro old found new (⟨-, rfl⟩ | ⟨-, rfl⟩)
    · have scaled := (kept.row old found).onScale
      refine ⟨⟨rfl, rfl, rfl, rfl, congrArg (·.amountReserved) scaled⟩, ?_⟩
      simp [flushed]
    · exact ⟨SameReservation.refl _, (kept.row _ found).onScale⟩

theorem Within.release (kept : WellKept ledger) (within : Within ledger)
    (ok : release ledger accountId groupId = .ok (view, next)) : Within next := by
  rcases release_ok ok with ⟨rfl, -⟩ | ⟨accounts, uncommitted, -, pointwise⟩
  · exact within
  · refine within.rewrite accounts (forall₂_imp_mem pointwise ?_)
    rintro old found new (⟨member, rfl⟩ | ⟨-, rfl⟩)
    · have rowKept := kept.row old found
      refine ⟨⟨rfl, rfl, rfl, rfl, congrArg (·.amountReserved) rowKept.onScale⟩, ?_⟩
      cases status : old.status with
      | reserved =>
          simpa [charge, status] using rowKept.reserved_nonneg
      | committed => exact absurd status (uncommitted old member)
      | released => simp [charge, status]
    · exact ⟨SameReservation.refl _, le_rfl⟩

/-! ## Adding rows -/

/-- Accounts are never removed. -/
def Extends (next ledger : Ledger) : Prop :=
  ∀ accountId account, ledger.accounts.get? accountId = some account →
    next.accounts.get? accountId = some account

theorem Extends.isSome (extension : Extends next ledger)
    (existing : (ledger.accounts.get? accountId).isSome) :
    (next.accounts.get? accountId).isSome := by
  obtain ⟨account, found⟩ := isSome_iff_exists.1 existing
  exact isSome_iff_exists.2 ⟨account, extension accountId account found⟩

theorem RowKept.extend (extension : Extends next ledger) (kept : RowKept ledger row) :
    RowKept next row := by
  obtain ⟨account, limit, found, limited⟩ := kept.limited
  exact
    { onScale := kept.onScale
      limited := ⟨account, limit, extension _ _ found, limited⟩
      reserved_nonneg := kept.reserved_nonneg
      childExists := fun child named => extension.isSome (kept.childExists child named) }

/-- The rows of a group after rows have been appended. -/
theorem mem_group_append (rows : next.reservations.rows = ledger.reservations.rows ++ added) :
    row ∈ next.group accountId groupId ↔ row ∈ ledger.group accountId groupId ∨
      (row ∈ added ∧ row.accountId = accountId ∧ row.reservationGroupId = groupId) := by
  rw [mem_group, mem_group, rows, mem_append]
  tauto

/-- Appending the rows of a group that was empty keeps every account: an
account with limits has an allocation already, and the clause about allocations
is empty for one without. -/
theorem AccountKept.append (kept : AccountKept ledger account) (extension : Extends next ledger)
    (rows : next.reservations.rows = ledger.reservations.rows ++ added)
    (ofGroup : ∀ row ∈ added, row.accountId = accountId ∧ row.reservationGroupId = groupId)
    (absent : ledger.group accountId groupId = []) : AccountKept next account := by
  constructor
  case parentExists =>
    intro parent parentEq
    obtain ⟨existing, different⟩ := kept.parentExists parent parentEq
    exact ⟨extension.isSome existing, different⟩
  case allocated =>
    intro parent parentEq row member limit limited
    rcases (mem_group_append rows).1 member with old | ⟨new, ofParent, ofChild⟩
    · exact kept.allocated parent parentEq row old limit limited
    · obtain ⟨rfl, rfl⟩ := ofGroup row new
      have hasLimits : account.limits.entries ≠ [] :=
        ne_nil_of_mem (Dict.get?_eq_some.1 limited)
      have funded := kept.funded parent parentEq hasLimits
      rw [← ofParent, ← ofChild] at funded
      exact absurd absent funded
  case funded =>
    intro parent parentEq hasLimits
    obtain ⟨row, member⟩ :=
      exists_mem_of_ne_nil _ (kept.funded parent parentEq hasLimits)
    exact ne_nil_of_mem ((mem_group_append rows).2 (.inl member))

/-- What `reserve` appends is kept. -/
theorem rowKept_newReservation {entry : String × ℚ} (extension : Extends next ledger)
    (positive : 0 < entry.2) (found : ledger.accounts.get? accountId = some account)
    (limited : account.limits.get? entry.1 = some limit)
    (childExists : ∀ child' ∈ child, (ledger.accounts.get? child').isSome) :
    RowKept next (newReservation accountId groupId child entry).flushed := by
  constructor
  case onScale => exact flushed_onScale
  case limited => exact ⟨account, limit, extension _ _ found, limited⟩
  case reserved_nonneg => exact numericScale_nonneg positive.le
  case childExists => exact fun child' named => extension.isSome (childExists child' named)

/-- What a successful `reserve` keeps, row by row and account by account; the
ledger it starts from need not be well kept as a whole. -/
theorem reserve_keeps (rows : ∀ row ∈ ledger.reservations.rows, RowKept ledger row)
    (ok : reserve ledger accountId groupId quantities child = .ok (view, next)) :
    next.accounts = ledger.accounts ∧ (∀ row ∈ next.reservations.rows, RowKept next row) ∧
      ∀ account, AccountKept ledger account → AccountKept next account := by
  rcases (reserve_ok ok).2 with
    ⟨rfl, -, -⟩ | ⟨absent, -, accounts, appended, childExists, fits⟩
  · exact ⟨rfl, rows, fun _ kept => kept⟩
  · have extension : Extends next ledger := by
      intro accountId account found
      rwa [accounts]
    refine ⟨accounts, fun row member => ?_, fun account kept => ?_⟩
    · rw [appended, mem_append] at member
      rcases member with old | new
      · exact (rows row old).extend extension
      · obtain ⟨entry, listed, rfl⟩ := mem_map.1 new
        obtain ⟨positive, account, limit, found, limited, -⟩ :=
          fits entry (quantities.perm_sorted.mem_iff.1 listed)
        exact rowKept_newReservation extension positive found limited childExists
    · refine kept.append extension appended (fun row new => ?_) absent
      obtain ⟨entry, -, rfl⟩ := mem_map.1 new
      exact ⟨rfl, rfl⟩

theorem WellKept.reserve (kept : WellKept ledger)
    (ok : reserve ledger accountId groupId quantities child = .ok (view, next)) :
    WellKept next := by
  obtain ⟨accounts, rows, others⟩ := reserve_keeps kept.row ok
  refine ⟨rows, fun account found => others account (kept.account account ?_)⟩
  rwa [← accounts]

theorem numericScale_charge (scaled : row.flushed = row) :
    numericScale row.charge = row.charge := by
  unfold charge
  split
  · exact congrArg (·.amountReserved) scaled
  · exact congrArg (·.amountCommitted) scaled
  · exact numericScale_zero

theorem numericScale_usage (scaled : ∀ row ∈ rows, row.flushed = row) (accountId resource : String)
    :
    numericScale (usage accountId resource rows) = usage accountId resource rows := by
  unfold usage
  refine numericScale_sum fun amount listed => ?_
  obtain ⟨row, member, rfl⟩ := mem_map.1 listed
  exact numericScale_charge (scaled row (mem_filter.1 member).1)

/-- Rounding a quantity that fits under a limit keeps it under the limit unless
both the quantity and the limit are rounded up. -/
theorem add_numericScale_le {used quantity limit : ℚ} (onScale : numericScale used = used)
    (fits : used + quantity ≤ limit)
    (scale : numericScale quantity ≤ quantity ∨ numericScale limit ≤ limit) :
    used + numericScale quantity ≤ limit := by
  rcases scale with lowered | limitLowered
  · exact (add_le_add le_rfl lowered).trans fits
  · calc used + numericScale quantity
        = numericScale (used + quantity) := (numericScale_add onScale quantity).symm
      _ ≤ numericScale limit := numericScale_mono fits
      _ ≤ limit := limitLowered

/-- Of no limited resource are both the requested quantity and the limit of the
account rounded up by the amount column. -/
def RoundsDown (ledger : Ledger) (accountId : String) (quantities : Dict String ℚ) : Prop :=
  ∀ account ∈ ledger.accounts.get? accountId, ∀ entry ∈ quantities.entries,
    ∀ limit ∈ account.limits.get? entry.1,
      numericScale entry.2 ≤ entry.2 ∨ numericScale limit.toRat ≤ limit.toRat

theorem Within.reserve (scaled : ∀ row ∈ ledger.reservations.rows, row.flushed = row)
    (within : Within ledger) (rounds : RoundsDown ledger accountId quantities)
    (ok : reserve ledger accountId groupId quantities child = .ok (view, next)) :
    Within next := by
  rcases (reserve_ok ok).2 with ⟨rfl, -, -⟩ | ⟨-, -, accounts, appended, -, fits⟩
  · exact within
  · intro account found resource limit limited
    rw [accounts] at found
    have before := within account found resource limit limited
    rw [appended, usage_append]
    by_cases charged : accountId = account.accountId
    · subst charged
      rw [usage_newReservations]
      cases requested : quantities.get? resource with
      | none => simpa using before
      | some quantity =>
          have member := Dict.get?_eq_some.1 requested
          have lookup := get?_of_mem found
          obtain ⟨-, account', limit', found', limited', under⟩ := fits _ member
          obtain rfl : account' = account := by simpa [lookup] using found'.symm
          obtain rfl : limit' = limit := by simpa [limited] using limited'.symm
          rw [reservedTotal_add_committedTotal] at under
          exact add_numericScale_le (numericScale_usage scaled _ _) under
            (rounds account' lookup _ member limit' limited)
    · rw [usage_newReservations_of_ne charged, add_zero]
      exact before

/-! ## Opening an account -/

theorem get?_serializeLimits :
    (serializeLimits limits).get? resource = some limit ↔
      limits.quantities.get? resource = some limit := by
  rw [Dict.get?_eq_some, Dict.get?_eq_some]
  exact limits.quantities.perm_sorted.mem_iff

section Opening

variable {accounts : Table BudgetAccountModel String (·.accountId)}

theorem extends_insert (fresh : ledger.accounts.get? accountId = none)
    (inserted : ledger.accounts.insert? (newAccount accountId limits taskRunId parentId) =
      some accounts) : Extends { ledger with accounts } ledger := by
  intro otherId account found
  have lookup := get?_insert? inserted otherId
  split at lookup
  next same =>
    have sameId : accountId = otherId := same
    rw [← sameId, fresh] at found
    cases found
  next => exact lookup.trans found

/-- A new account has no rows, so it is within its limits. -/
theorem Within.insert (kept : WellKept ledger) (within : Within ledger)
    (fresh : ledger.accounts.get? accountId = none)
    (inserted : ledger.accounts.insert? (newAccount accountId limits taskRunId parentId) =
      some accounts) : Within { ledger with accounts } := by
  intro account found resource limit limited
  simp only [(insert?_eq_some inserted).1, mem_append, mem_singleton] at found
  rcases found with old | rfl
  · exact within account old resource limit limited
  · have unused : ofResource accountId resource ledger.reservations.rows = [] := by
      rw [ofResource, filter_eq_nil_iff]
      intro row member counted
      obtain ⟨account, -, found, -⟩ := (kept.row row member).limited
      rw [(of_decide_eq_true counted).1, fresh] at found
      cases found
    have listed : (resource, limit) ∈ limits.quantities.entries :=
      Dict.get?_eq_some.1 (get?_serializeLimits.1 limited)
    have nonneg : 0 ≤ limit.toRat := limits.quantity_nonneg (resource, limit) listed
    simpa [usage, newAccount, unused] using nonneg

/-- The new account itself, when its parent has just funded it. -/
theorem accountKept_funded (kept : WellKept ledger) (fresh : ledger.accounts.get? accountId = none)
    (parentExists : (ledger.accounts.get? parent).isSome)
    (extension : Extends { ledger with accounts } ledger)
    (ok : reserve { ledger with accounts } parent (childAllocation accountId) limits.amounts
      (some accountId) = .ok (view, next)) :
    AccountKept next (newAccount accountId limits taskRunId (some parent)) := by
  have absent : ({ ledger with accounts } : Ledger).group parent (childAllocation accountId) = []
      ∧ limits.amounts.entries ≠ [] ∧ next.accounts = accounts ∧
      next.reservations.rows = ledger.reservations.rows ++ limits.amounts.sorted.map
        (fun entry => (newReservation parent (childAllocation accountId) (some accountId)
          entry).flushed) := by
    rcases (reserve_ok ok).2 with
      ⟨-, nonempty, sameChild⟩ | ⟨absent, nonempty, sameAccounts, appended, -⟩
    · -- a row of this group would name a child that did not exist
      obtain ⟨row, member⟩ := exists_mem_of_ne_nil _ nonempty
      have named := sameChild row member
      have existing := (kept.row row (mem_group.1 member).1).childExists accountId (by simp [named])
      rw [fresh] at existing
      cases existing
    · exact ⟨absent, nonempty, sameAccounts, appended⟩
  obtain ⟨absent, nonempty, sameAccounts, appended⟩ := absent
  constructor
  case parentExists =>
    rintro _ ⟨rfl⟩
    rw [sameAccounts]
    refine ⟨extension.isSome parentExists, ?_⟩
    rintro rfl
    simp [fresh] at parentExists
  case allocated =>
    rintro _ ⟨rfl⟩ row member limit limited
    rcases (mem_group_append appended).1 member with old | ⟨new, -, -⟩
    · have empty : row ∈ ({ ledger with accounts } : Ledger).group parent
          (childAllocation accountId) := old
      rw [absent] at empty
      cases empty
    · obtain ⟨⟨resource, amount⟩, listed, rfl⟩ := mem_map.1 new
      have requested : limits.amounts.get? resource = some amount :=
        Dict.get?_eq_some.2 (limits.amounts.perm_sorted.mem_iff.1 listed)
      have limitEq : limits.quantities.get? resource = some limit :=
        get?_serializeLimits.1 limited
      rw [BudgetLimits.amounts, Dict.get?_mapEntries, limitEq] at requested
      cases requested
      rfl
  case funded =>
    rintro _ ⟨rfl⟩ -
    obtain ⟨entry, listed⟩ := exists_mem_of_ne_nil _ nonempty
    have allocation : (newReservation parent (childAllocation accountId) (some accountId)
        entry).flushed ∈ limits.amounts.sorted.map (fun entry => (newReservation parent
          (childAllocation accountId) (some accountId) entry).flushed) :=
      mem_map.2 ⟨entry, limits.amounts.perm_sorted.mem_iff.2 listed, rfl⟩
    exact ne_nil_of_mem ((mem_group_append appended).2 (.inr ⟨allocation, rfl, rfl⟩))

/-- The new account itself, when it has no parent or no limits. -/
theorem accountKept_unfunded (fresh : ledger.accounts.get? accountId = none)
    (parents : ∀ parent ∈ parentId, (ledger.accounts.get? parent).isSome)
    (extension : Extends next ledger) (unfunded : parentId = none ∨ limits.quantities.entries = [])
    :
    AccountKept next (newAccount accountId limits taskRunId parentId) := by
  rcases unfunded with rfl | unlimited
  · exact ⟨nofun, nofun, nofun⟩
  · have noLimits : (newAccount accountId limits taskRunId parentId).limits.entries = [] := by
      have perm := limits.quantities.perm_sorted
      rw [unlimited] at perm
      exact perm.eq_nil
    constructor
    case parentExists =>
      intro parent parentEq
      refine ⟨extension.isSome (parents parent parentEq), ?_⟩
      rintro rfl
      have existing := parents _ parentEq
      simp [fresh] at existing
    case allocated =>
      intro parent parentEq row member limit limited
      have listed := Dict.get?_eq_some.1 limited
      rw [noLimits] at listed
      cases listed
    case funded => exact fun parent parentEq hasLimits => absurd noLimits hasLimits

end Opening

/-- Adding an account keeps the others. -/
theorem AccountKept.extend (extension : Extends next ledger)
    (same : next.reservations = ledger.reservations) (kept : AccountKept ledger account) :
    AccountKept next account := by
  have groups : ∀ accountId groupId, next.group accountId groupId = ledger.group accountId groupId
      := by simp [Ledger.group, same]
  constructor
  case parentExists =>
    intro parent parentEq
    obtain ⟨existing, different⟩ := kept.parentExists parent parentEq
    exact ⟨extension.isSome existing, different⟩
  case allocated =>
    simp only [groups]
    exact kept.allocated
  case funded =>
    simp only [groups]
    exact kept.funded

variable {view : BudgetAccountView}

theorem WellKept.createAccount (kept : WellKept ledger)
    (ok : createAccount ledger accountId limits taskRunId parentId = .ok (view, next)) :
    WellKept next := by
  rcases createAccount_ok ok with rfl | ⟨accounts, fresh, inserted, parents, outcome⟩
  · exact kept
  have extension := extends_insert fresh inserted
  have parentExists : ∀ parent ∈ parentId, (ledger.accounts.get? parent).isSome := by
    intro parent parentEq
    obtain ⟨account, found, -⟩ := parents parent parentEq
    exact isSome_iff_exists.2 ⟨account, found⟩
  have rows : ∀ row ∈ ledger.reservations.rows, RowKept { ledger with accounts } row :=
    fun row member => (kept.row row member).extend extension
  have olds : ∀ account ∈ ledger.accounts.rows, AccountKept { ledger with accounts } account :=
    fun account found => (kept.account account found).extend extension rfl
  have listed : ∀ account ∈ accounts.rows, account ∈ ledger.accounts.rows ∨
      account = newAccount accountId limits taskRunId parentId := by
    intro account found
    simpa [(insert?_eq_some inserted).1] using found
  rcases outcome with ⟨rfl, unfunded⟩ | ⟨parent, group, rfl, reserved⟩
  · refine ⟨rows, fun account found => ?_⟩
    rcases listed account found with old | rfl
    · exact olds account old
    · exact accountKept_unfunded fresh parentExists extension unfunded
  · obtain ⟨sameAccounts, nextRows, others⟩ := reserve_keeps rows reserved
    refine ⟨nextRows, fun account found => ?_⟩
    rw [sameAccounts] at found
    rcases listed account found with old | rfl
    · exact others account (olds account old)
    · exact accountKept_funded kept fresh (parentExists parent rfl) extension reserved

theorem Within.createAccount (kept : WellKept ledger)
    (within : Within ledger) (rounds : ∀ parent ∈ parentId, RoundsDown ledger parent limits.amounts)
    (ok : createAccount ledger accountId limits taskRunId parentId = .ok (view, next)) :
    Within next := by
  rcases createAccount_ok ok with rfl | ⟨accounts, fresh, inserted, parents, outcome⟩
  · exact within
  have opened := within.insert kept fresh inserted
  rcases outcome with ⟨rfl, -⟩ | ⟨parent, group, rfl, reserved⟩
  · exact opened
  · have scaled : ∀ row ∈ ({ ledger with accounts } : Ledger).reservations.rows,
        row.flushed = row := fun row member => (kept.row row member).onScale
    refine opened.reserve scaled ?_ reserved
    obtain ⟨parentAccount, parentFound, -⟩ := parents parent rfl
    have sameParent := extends_insert fresh inserted parent parentAccount parentFound
    intro account found entry listed limit limited
    obtain rfl := mem_unique sameParent found
    exact rounds parent rfl parentAccount parentFound entry listed limit limited

/-! ## Closing an account -/

/-- Closing changes the status of one account and nothing else. -/
theorem mem_closeAccount {accounts : Table BudgetAccountModel String (·.accountId)}
    (member : account ∈ (closeAccount accounts accountId).rows) :
    ∃ before ∈ accounts.rows, account.accountId = before.accountId ∧
      account.parentAccountId = before.parentAccountId ∧ account.limits = before.limits := by
  rw [closeAccount, Table.rows_modify] at member
  obtain ⟨before, found, rfl⟩ := mem_map.1 member
  refine ⟨before, found, ?_⟩
  split <;> simp

theorem get?_closeAccount (accounts : Table BudgetAccountModel String (·.accountId))
    (accountId otherId : String) :
    (closeAccount accounts accountId).get? otherId = (accounts.get? otherId).map fun account =>
      if account.accountId = accountId then { account with status := .closed } else account :=
  get?_modify _ _ _ _

theorem isSome_closeAccount {accounts : Table BudgetAccountModel String (·.accountId)}
    {otherId : String} (existing : (accounts.get? otherId).isSome) :
    ((closeAccount accounts accountId).get? otherId).isSome := by
  rw [get?_closeAccount, Option.isSome_map]
  exact existing

theorem WellKept.closeAccount (kept : WellKept ledger) (accountId : String) :
    WellKept { ledger with accounts := closeAccount ledger.accounts accountId } := by
  constructor
  case row =>
    intro row member
    have before := kept.row row member
    obtain ⟨account, limit, found, limited⟩ := before.limited
    refine ⟨before.onScale, ?_, before.reserved_nonneg, fun child named =>
      isSome_closeAccount (before.childExists child named)⟩
    refine ⟨if account.accountId = accountId then { account with status := .closed } else account,
      limit, by rw [get?_closeAccount, found]; rfl, ?_⟩
    split
    · exact limited
    · exact limited
  case account =>
    intro account member
    obtain ⟨before, found, sameId, sameParent, sameLimits⟩ := mem_closeAccount member
    have oldKept := kept.account before found
    constructor
    case parentExists =>
      rw [sameParent, sameId]
      intro parent parentEq
      obtain ⟨existing, different⟩ := oldKept.parentExists parent parentEq
      exact ⟨isSome_closeAccount existing, different⟩
    case allocated =>
      rw [sameParent, sameId, sameLimits]
      exact oldKept.allocated
    case funded =>
      rw [sameParent, sameId, sameLimits]
      exact oldKept.funded

theorem Within.closeAccount (within : Within ledger) (accountId : String) :
    Within { ledger with accounts := closeAccount ledger.accounts accountId } := by
  intro account member resource limit limited
  obtain ⟨before, found, sameId, -, sameLimits⟩ := mem_closeAccount member
  rw [sameId]
  exact within before found resource limit (sameLimits ▸ limited)

section

variable (kept : WellKept ledger)

include kept

theorem WellKept.closeChildAccount
    (ok : closeChildAccount ledger accountId = .ok (view, next)) : WellKept next := by
  obtain ⟨_, _, -, -, ⟨-, rfl⟩ | ⟨-, group, settled, committed, rfl⟩⟩ :=
    closeChildAccount_ok ok
  · exact kept
  · exact (kept.commit committed).closeAccount accountId

/-- The committed rows of an account charge no more than all of its rows. -/
theorem committedTotal_le_usage (accountId resource : String) :
    ledger.committedTotal accountId resource ≤
      usage accountId resource ledger.reservations.rows := by
  have reserved : 0 ≤ ledger.reservedTotal accountId resource := by
    refine List.sum_nonneg fun amount listed => ?_
    obtain ⟨row, member, rfl⟩ := mem_map.1 listed
    have found := (mem_select.1 (mem_filter.1 member).1).1
    exact (kept.row row found).reserved_nonneg
  rw [← reservedTotal_add_committedTotal]
  exact le_add_of_nonneg_left reserved

/-- A resource of which an account has no limit is never used by it. -/
theorem committedTotal_of_unlimited
    (found : account ∈ ledger.accounts.rows) (unlimited : account.limits.get? resource = none) :
    ledger.committedTotal account.accountId resource = 0 := by
  have none : (ledger.rowsWith account.accountId .committed).filter
      (fun row => row.resourceType = resource) = [] := by
    rw [filter_eq_nil_iff]
    intro row member same
    obtain ⟨rowFound, counted⟩ := mem_select.1 member
    obtain ⟨other, limit, otherFound, limited⟩ := (kept.row row rowFound).limited
    rw [(of_decide_eq_true counted).1, get?_of_mem found] at otherFound
    cases otherFound
    rw [of_decide_eq_true same, unlimited] at limited
    cases limited
  rw [Ledger.committedTotal, none]
  rfl

theorem numericScale_committedTotal (accountId resource : String) :
    numericScale (ledger.committedTotal accountId resource) =
      ledger.committedTotal accountId resource := by
  unfold Ledger.committedTotal
  refine numericScale_sum fun amount listed => ?_
  obtain ⟨row, member, rfl⟩ := mem_map.1 listed
  have found := (mem_select.1 (mem_filter.1 member).1).1
  exact congrArg (·.amountCommitted) (kept.row row found).onScale

/-- **Why closing does not overrun.**  What a child within its limits has
committed fits in each row of the allocation its parent made for it. -/
theorem committedTotal_le_allocation (within : Within ledger)
    {child : BudgetAccountModel} (found : child ∈ ledger.accounts.rows)
    (parentEq : child.parentAccountId = some parent)
    (member : row ∈ ledger.group parent (childAllocation child.accountId)) :
    ledger.committedTotal child.accountId row.resourceType ≤ row.amountReserved := by
  have rowFound := (mem_group.1 member).1
  cases limited : child.limits.get? row.resourceType with
  | none =>
      rw [committedTotal_of_unlimited kept found limited]
      exact (kept.row row rowFound).reserved_nonneg
  | some limit =>
      rw [(kept.account child found).allocated parent parentEq row member limit limited]
      have under : ledger.committedTotal child.accountId row.resourceType ≤ limit.toRat :=
        (committedTotal_le_usage kept _ _).trans (within child found _ limit limited)
      calc ledger.committedTotal child.accountId row.resourceType
          = numericScale (ledger.committedTotal child.accountId row.resourceType) :=
            (numericScale_committedTotal kept _ _).symm
        _ ≤ numericScale limit.toRat := numericScale_mono under

theorem Within.closeChildAccount
    (within : Within ledger) (ok : closeChildAccount ledger accountId = .ok (view, next)) :
    Within next := by
  obtain ⟨child, parent, found, parentEq, ⟨-, rfl⟩ | ⟨-, group, settled, committed, rfl⟩⟩ :=
    closeChildAccount_ok ok
  · exact within
  · obtain ⟨childFound, rfl⟩ := get?_eq_some.1 found
    refine (within.commit kept (fun row member _ => ?_) committed).closeAccount child.accountId
    rw [Dict.getD_tally]
    exact committedTotal_le_allocation kept within childFound parentEq member

end

/-! ## Runs -/

/-- The commit charges no row more than the row reserved. -/
def NoOvercharge (ledger : Ledger) : BudgetOp → Prop
  | .commit accountId groupId consumed _ =>
      ∀ row ∈ ledger.group accountId groupId, row.status = .reserved →
        consumed.getD row.resourceType 0 ≤ row.amountReserved
  | _ => True

/-- No quantity the call asks to reserve, be it for a reservation or to fund a
child account, is rounded up together with the limit it is drawn from. -/
def KeepsScale (ledger : Ledger) : BudgetOp → Prop
  | .reserve accountId _ quantities _ => RoundsDown ledger accountId quantities
  | .createAccount _ limits _ (some parent) => RoundsDown ledger parent limits.amounts
  | _ => True

instance noOverchargeDecidable (ledger : Ledger) : (op : BudgetOp) → Decidable (NoOvercharge ledger op)
  | .commit accountId groupId consumed _ =>
      inferInstanceAs (Decidable (∀ row ∈ ledger.group accountId groupId, row.status = .reserved →
        consumed.getD row.resourceType 0 ≤ row.amountReserved))
  | .createAccount .. | .reserve .. | .release .. | .closeChildAccount .. =>
      inferInstanceAs (Decidable True)

instance roundsDownDecidable (ledger : Ledger) (accountId : String) (quantities : Dict String ℚ) :
    Decidable (RoundsDown ledger accountId quantities) :=
  inferInstanceAs (Decidable (∀ account ∈ ledger.accounts.get? accountId,
    ∀ entry ∈ quantities.entries, ∀ limit ∈ account.limits.get? entry.1,
      numericScale entry.2 ≤ entry.2 ∨ numericScale limit.toRat ≤ limit.toRat))

instance keepsScaleDecidable (ledger : Ledger) : (op : BudgetOp) → Decidable (KeepsScale ledger op)
  | .reserve accountId _ quantities _ => roundsDownDecidable ledger accountId quantities
  | .createAccount _ limits _ (some parent) => roundsDownDecidable ledger parent limits.amounts
  | .createAccount _ _ _ none | .commit .. | .release .. | .closeChildAccount .. =>
      inferInstanceAs (Decidable True)

/-- A ledger that is well kept and all of whose accounts are under their limits. -/
structure Conserved (ledger : Ledger) : Prop where
  kept : WellKept ledger
  within : Within ledger

theorem WellKept.empty : WellKept Ledger.empty := ⟨nofun, nofun⟩

/-- Every call keeps a ledger well kept. -/
theorem WellKept.governor (kept : WellKept ledger)
    (ok : governor op ledger = .ok (answer, next)) :
    WellKept next := by
  cases governor_called ok with
  | createAccount called =>
      exact kept.createAccount called
  | reserve called =>
      exact kept.reserve called
  | commit called =>
      exact kept.commit called
  | release called =>
      exact kept.release called
  | closeChildAccount called =>
      exact kept.closeChildAccount called

/-- Every call that meets the two conditions keeps the accounts under their
limits. -/
theorem Within.governor (kept : WellKept ledger) (within : Within ledger)
    (under : NoOvercharge ledger op) (scale : KeepsScale ledger op)
    (ok : governor op ledger = .ok (answer, next)) :
    Within next := by
  cases governor_called ok with
  | createAccount called =>
      refine within.createAccount kept ?_ called
      rintro parent ⟨rfl⟩
      exact scale
  | reserve called =>
      exact within.reserve (fun row member => (kept.row row member).onScale) scale called
  | commit called =>
      exact within.commit kept under called
  | release called =>
      exact within.release kept called
  | closeChildAccount called =>
      exact within.closeChildAccount kept called

theorem run_wellKept (ops : List BudgetOp) : WellKept (run governor Ledger.empty ops) :=
  run_invariant (fun _ _ _ _ kept ok => WellKept.governor kept ok) WellKept.empty ops

/-- What the rows satisfying `condition` charge one account for one resource. -/
def usageOf (condition : BudgetReservationModel → Bool) (accountId resource : String)
    (rows : List BudgetReservationModel) : ℚ :=
  usage accountId resource (rows.filter condition)

/-- The rows by which an account funds its children. -/
def BudgetReservationModel.isChildAllocation (row : BudgetReservationModel) : Bool :=
  row.childAccountId.isSome

/-- An account's usage is its own and that of its child allocations. -/
theorem usage_eq_own_add_children (accountId resource : String)
    (rows : List BudgetReservationModel) :
    usage accountId resource rows =
      usageOf (fun row => !row.isChildAllocation) accountId resource rows +
        usageOf (·.isChildAllocation) accountId resource rows := by
  unfold usageOf
  induction rows with
  | nil => simp [usage, ofResource]
  | cons row rows ih =>
      have split : usage accountId resource (row :: rows) =
          usage accountId resource [row] + usage accountId resource rows :=
        usage_append accountId resource [row] rows
      cases allocation : row.isChildAllocation with
      | false =>
          have own := usage_append accountId resource [row]
            (rows.filter fun row => !row.isChildAllocation)
          simp only [singleton_append] at own
          simp only [filter_cons, allocation, Bool.not_false, if_true, if_false, own, split, ih,
            Bool.false_eq_true]
          ring
      | true =>
          have funded := usage_append accountId resource [row]
            (rows.filter (·.isChildAllocation))
          simp only [singleton_append] at funded
          simp only [filter_cons, allocation, Bool.not_true, if_true, if_false, funded, split,
            ih, Bool.false_eq_true]
          ring

def BudgetLimits.single (resource : String) (quantity : Decimal)
    (nonblank : isBlank resource = false) (nonneg : 0 ≤ quantity.toRat) : BudgetLimits where
  quantities := ⟨[(resource, quantity)], by simp⟩
  resource_nonblank := by simpa using nonblank
  quantity_nonneg := by simpa using nonneg

/-- A root account of five calls that funds a child with three, of which the
child reserves two. -/
def childReserves : List BudgetOp :=
  [ .createAccount "root" (.single "tool_calls" ⟨false, 5, 0⟩ (by decide) (by decide +kernel)) none none,
    .createAccount "child" (.single "tool_calls" ⟨false, 3, 0⟩ (by decide) (by decide +kernel)) none
      (some "root"),
    .reserve "child" "call-1" ⟨[("tool_calls", 2)], by simp⟩ none ]

/-- The child uses what it has reserved. -/
def childCommits : BudgetOp := .commit "child" "call-1" ⟨[("tool_calls", 2)], by simp⟩ false

/-- A child that uses two calls before it is closed. -/
def fundedRun : List BudgetOp :=
  childReserves ++ [childCommits, .closeChildAccount "child"]

/-- A root account of 0.0000016 all of which is reserved. -/
def roundedRun : List BudgetOp :=
  [ .createAccount "root" (.single "external_cost" ⟨false, 16, -7⟩ (by decide) (by decide +kernel))
      none none,
    .reserve "root" "call-1" ⟨[("external_cost", 16 / 10000000)], by simp⟩ none ]

end SecFusion.Budget
