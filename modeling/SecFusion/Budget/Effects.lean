import SecFusion.Budget.Ledger

/-!
# What the budget operations do to the ledger

One lemma per operation says everything a successful call can have done; the
invariants of `Conservation` and `Settlement` are read off these and never look
into the operations again.

A reservation row is never removed and never changes its identity: a call either
appends the rows of a new group (`reserve_ok`) or rewrites the rows of one group
in place (`commit_ok`, `release_ok`).  The rewriting is stated row by row, as a
`List.Forall₂` between the table before and the table after.
-/

namespace SecFusion.Budget

open Foundations

/-! ## The scale of the amount columns -/

variable {amount : ℚ} {ledger next : Ledger} {accountId groupId : String}
  {models : List BudgetReservationModel} {row : BudgetReservationModel} {report : BudgetSnapshot}
  {quantities consumed : Dict String ℚ} {child : Option String} {view : BudgetReservationGroup}
  {allowOverrun : Bool}

theorem numericScale_eq_iff :
    numericScale amount = amount ↔ ∃ micros : ℤ, amount = micros / 1000000 := by
  constructor
  · intro fixed
    exact ⟨round (amount * 1000000), fixed.symm⟩
  · rintro ⟨micros, rfl⟩
    rw [numericScale, div_mul_cancel₀ _ (by norm_num), round_intCast]

@[simp] theorem numericScale_idem (amount : ℚ) :
    numericScale (numericScale amount) = numericScale amount :=
  numericScale_eq_iff.2 ⟨_, rfl⟩

@[simp] theorem numericScale_zero : numericScale 0 = 0 := by
  simp [numericScale]

theorem numericScale_mono {small large : ℚ} (le : small ≤ large) :
    numericScale small ≤ numericScale large := by
  unfold numericScale
  rw [round_eq, round_eq]
  gcongr

theorem numericScale_nonneg (nonneg : 0 ≤ amount) : 0 ≤ numericScale amount := by
  have mono := numericScale_mono nonneg
  rwa [numericScale_zero] at mono

theorem numericScale_add {stored : ℚ} (onScale : numericScale stored = stored) (amount : ℚ) :
    numericScale (stored + amount) = stored + numericScale amount := by
  obtain ⟨micros, rfl⟩ := numericScale_eq_iff.1 onScale
  have scaled : ((micros : ℚ) / 1000000 + amount) * 1000000 = amount * 1000000 + micros := by ring
  rw [numericScale, scaled, round_add_intCast, numericScale]
  push_cast
  ring

/-- A sum of amounts the column can hold is one the column can hold. -/
theorem numericScale_sum {amounts : List ℚ}
    (onScale : ∀ amount ∈ amounts, numericScale amount = amount) :
    numericScale amounts.sum = amounts.sum := by
  induction amounts with
  | nil => simp
  | cons head tail ih =>
      obtain ⟨first, headEq⟩ := numericScale_eq_iff.1 (onScale head mem_cons_self)
      obtain ⟨rest, tailEq⟩ := numericScale_eq_iff.1
        (ih fun amount member => onScale amount (mem_cons_of_mem _ member))
      rw [List.sum_cons, numericScale_eq_iff]
      exact ⟨first + rest, by rw [headEq, tailEq]; push_cast; ring⟩

/-! ## Checks -/

theorem checkRemaining_eq_ok {describe : String → String} {remaining : Dict String ℚ}
    {requested : List (String × ℚ)} {answer : Unit} :
    checkRemaining describe remaining requested = .ok answer ↔
      ∀ entry ∈ requested, entry.2 ≤ remaining.getD entry.1 0 := by
  unfold checkRemaining
  split
  next resource amount found =>
    have member := mem_of_find?_eq_some found
    have exceeds : remaining.getD resource 0 < amount := by simpa using find?_some found
    simp only [reduceCtorEq, false_iff, not_forall]
    exact ⟨(resource, amount), member, not_le.2 exceeds⟩
  next none =>
    simp only [true_iff]
    intro entry member
    simpa using find?_eq_none.1 none entry member

theorem lockGroup_eq_ok :
    lockGroup ledger accountId groupId = .ok models ↔
      models ≠ [] ∧ models = (ledger.group accountId groupId).insertionSort
        fun left right => left.resourceType ≤ right.resourceType := by
  unfold lockGroup
  rw [require_bind_eq_ok, pure_eq_ok]
  constructor
  · rintro ⟨nonempty, rfl⟩
    exact ⟨nonempty, rfl⟩
  · rintro ⟨nonempty, rfl⟩
    exact ⟨nonempty, rfl⟩

theorem mem_lockGroup (locked : lockGroup ledger accountId groupId = .ok models) :
    row ∈ models ↔ row ∈ ledger.group accountId groupId := by
  rw [(lockGroup_eq_ok.1 locked).2, mem_insertionSort]

theorem mem_group :
    row ∈ ledger.group accountId groupId ↔
      row ∈ ledger.reservations.rows ∧ row.accountId = accountId ∧
        row.reservationGroupId = groupId := by
  simp [Ledger.group]

theorem mem_rows_of_lockGroup (locked : lockGroup ledger accountId groupId = .ok models) :
    ∀ row ∈ models, row ∈ ledger.reservations.rows :=
  fun _ member => (mem_group.1 ((mem_lockGroup locked).1 member)).1

theorem group_ne_nil_of_lockGroup (locked : lockGroup ledger accountId groupId = .ok models) :
    ledger.group accountId groupId ≠ [] := by
  obtain ⟨row, member⟩ := exists_mem_of_ne_nil models (lockGroup_eq_ok.1 locked).1
  exact ne_nil_of_mem ((mem_lockGroup locked).1 member)

/-! ## Snapshots -/

/-- The sum of the reserved amounts of the reserved rows of one resource. -/
def Ledger.reservedTotal (ledger : Ledger) (accountId resource : String) : ℚ :=
  (((ledger.rowsWith accountId .reserved).filter fun row => row.resourceType = resource).map
    (·.amountReserved)).sum

/-- The sum of the committed amounts of the committed rows of one resource. -/
def Ledger.committedTotal (ledger : Ledger) (accountId resource : String) : ℚ :=
  (((ledger.rowsWith accountId .committed).filter fun row => row.resourceType = resource).map
    (·.amountCommitted)).sum

/-- What `snapshot` reports about an account that exists. -/
theorem snapshot_ok (ok : snapshot ledger accountId = .ok report) :
    ∃ account, ledger.accounts.get? accountId = some account ∧
      report.committed = Dict.tally (·.resourceType) (·.amountCommitted)
        (ledger.rowsWith accountId .committed) ∧
      ∀ resource, report.remaining.get? resource = (account.limits.get? resource).map fun limit =>
        max 0 (limit.toRat - ledger.reservedTotal accountId resource -
          ledger.committedTotal accountId resource) := by
  obtain ⟨account, found, rest⟩ := fetch_bind_eq_ok.1 ok
  rw [pure_eq_ok] at rest
  subst rest
  refine ⟨account, found, rfl, fun resource => ?_⟩
  simp only [Dict.get?_mapEntries, Option.map_map, Dict.getD_tally]
  rfl

/-- A positive quantity that fits in what remains fits under the limit. -/
theorem le_limit_of_le_remaining {resource : String}
    (ok : snapshot ledger accountId = .ok report) {quantity : ℚ} (positive : 0 < quantity)
    (fits : quantity ≤ report.remaining.getD resource 0) :
    ∃ account limit, ledger.accounts.get? accountId = some account ∧
      account.limits.get? resource = some limit ∧
      ledger.reservedTotal accountId resource + ledger.committedTotal accountId resource +
        quantity ≤ limit.toRat := by
  obtain ⟨account, found, -, remaining⟩ := snapshot_ok ok
  rw [Dict.getD, remaining resource] at fits
  cases limited : account.limits.get? resource with
  | none =>
      rw [limited] at fits
      simp only [Option.map_none, Option.getD_none] at fits
      linarith
  | some limit =>
      rw [limited] at fits
      simp only [map_some, Option.getD_some] at fits
      refine ⟨account, limit, found, limited, ?_⟩
      rcases le_max_iff.1 fits with none | under
      · linarith
      · linarith

/-! ## Reserving -/

/-- **A successful `reserve`** either changes nothing (a replay of a group that
exists) or appends one reserved row per quantity to a group that did not exist,
each quantity fitting under the limit of its resource. -/
theorem reserve_ok (ok : reserve ledger accountId groupId quantities child = .ok (view, next))
    :
    (∃ account, ledger.accounts.get? accountId = some account ∧ account.status = .active) ∧
    ((next = ledger ∧ ledger.group accountId groupId ≠ [] ∧
        ∀ row ∈ ledger.group accountId groupId, row.childAccountId = child) ∨
      (ledger.group accountId groupId = [] ∧ quantities.entries ≠ [] ∧
        next.accounts = ledger.accounts ∧
        next.reservations.rows = ledger.reservations.rows ++
          quantities.sorted.map (fun entry =>
            (newReservation accountId groupId child entry).flushed) ∧
        (∀ child' ∈ child, (ledger.accounts.get? child').isSome) ∧
        ∀ entry ∈ quantities.entries, 0 < entry.2 ∧ ∃ account limit,
          ledger.accounts.get? accountId = some account ∧
          account.limits.get? entry.1 = some limit ∧
          ledger.reservedTotal accountId entry.1 + ledger.committedTotal accountId entry.1 +
            entry.2 ≤ limit.toRat)) := by
  unfold reserve at ok
  simp only [require_bind_eq_ok, fetch_bind_eq_ok] at ok
  obtain ⟨nonempty, positive, account, found, active, rest⟩ := ok
  refine ⟨⟨account, found, active⟩, ?_⟩
  split at rest
  next exists_ =>
    unfold reserveReplay at rest
    simp only [require_bind_eq_ok, pure_eq_ok, mk.injEq] at rest
    obtain ⟨⟨-, sameChild⟩, -, rfl⟩ := rest
    exact .inl ⟨rfl, exists_, sameChild⟩
  next absent =>
    unfold reserveFresh at rest
    obtain ⟨report, snapped, rest⟩ := bind_eq_ok.1 rest
    obtain ⟨_, checked, rest⟩ := bind_eq_ok.1 rest
    simp only [require_bind_eq_ok, fetch_bind_eq_ok, pure_eq_ok, mk.injEq] at rest
    obtain ⟨childExists, -, rows, inserted, -, rfl⟩ := rest
    have fits := checkRemaining_eq_ok.1 checked
    refine .inr ⟨not_not.1 absent, nonempty, rfl, ?_, childExists, fun entry member => ?_⟩
    · have appended := Table.insertAll?_eq_some inserted
      simpa [map_map, Function.comp_def] using appended
    · exact ⟨positive entry member,
        le_limit_of_le_remaining snapped (positive entry member) (fits entry member)⟩

theorem reserve_accounts
    (ok : reserve ledger accountId groupId quantities child = .ok (view, next)) :
    next.accounts = ledger.accounts := by
  rcases (reserve_ok ok).2 with ⟨rfl, -, -⟩ | ⟨-, -, accounts, -⟩
  · rfl
  · exact accounts

/-! ## Settling a group -/

/-- What `commit` does to one reserved row before the flush. -/
def Settles (consumed : Dict String ℚ) (allowOverrun : Bool)
    (old new : BudgetReservationModel) : Prop :=
  old.status = .reserved ∧ 0 ≤ consumed.getD old.resourceType 0 ∧
    (allowOverrun = false → consumed.getD old.resourceType 0 ≤ old.amountReserved) ∧
    new = { old with amountCommitted := consumed.getD old.resourceType 0, status := .committed }

/-- What makes `commit` accept one row as already settled: it is committed, and
with the caller's quantity when the caller names its resource. -/
def Repeats (consumed : Dict String ℚ) (row : BudgetReservationModel) : Prop :=
  row.status = .committed ∧
    ∀ amount, consumed.get? row.resourceType = some amount → row.amountCommitted = amount

theorem repeats_of_isCommitReplay (distinct : (models.map (·.resourceType)).Nodup)
    (repeated : isCommitReplay models consumed = true) :
    ∀ row ∈ models, Repeats consumed row := by
  simp only [isCommitReplay, Bool.and_eq_true, List.all_eq_true, decide_eq_true_eq] at repeated
  obtain ⟨committed, recorded⟩ := repeated
  refine fun row member => ⟨committed row member, fun amount named => ?_⟩
  have prior : (Dict.ofRows (·.resourceType) (·.amountCommitted) models).get? row.resourceType =
      some row.amountCommitted :=
    Dict.get?_ofRows member fun other found same => by
      rw [inj_on_of_nodup_map distinct found member same]
  have equal := recorded (row.resourceType, amount) (Dict.get?_eq_some.1 named)
  rwa [Dict.getD_of_get? prior] at equal

/-- The loop of `commit` keeps the rows it has done; of the others it settles
every one, unless it meets a row that is no longer reserved: then the rows from
there on repeat an earlier commit. -/
theorem commitLoop_ok {done settled : List BudgetReservationModel} {replay : Bool}
    (distinct : ((done ++ models).map (·.resourceType)).Nodup)
    (ok : commitLoop consumed allowOverrun done models = .ok (settled, replay)) :
    ∃ rest, settled = done ++ rest ∧
      Forall₂ (fun old new => Settles consumed allowOverrun old new ∨
        (Repeats consumed old ∧ new = old)) models rest := by
  induction models generalizing done with
  | nil =>
      simp only [commitLoop, Except.ok.injEq, mk.injEq] at ok
      obtain ⟨rfl, -⟩ := ok
      exact ⟨[], by simp, .nil⟩
  | cons model models ih =>
      unfold commitLoop at ok
      split at ok
      · split at ok
        next repeated =>
          simp only [Except.ok.injEq, mk.injEq] at ok
          obtain ⟨rfl, -⟩ := ok
          have repeats := repeats_of_isCommitReplay distinct repeated
          refine ⟨model :: models, rfl, forall₂_same.2 fun row member => .inr ⟨?_, rfl⟩⟩
          exact repeats row (mem_append_right _ member)
        next => cases ok
      next reserved =>
        dsimp only at ok
        split at ok
        · cases ok
        next accepted =>
          obtain ⟨rest, rfl, related⟩ := ih (by simpa using distinct) ok
          simp only [not_or, not_and, Bool.not_eq_false] at accepted
          refine ⟨_ :: rest, by simp, .cons (.inl ⟨not_not.1 reserved, ?_, ?_, rfl⟩) related⟩
          · exact not_lt.1 accepted.1
          · intro strict
            by_contra exceeds
            simp [accepted.2 (not_le.1 exceeds)] at strict

/-- The rows of one group have distinct resources. -/
theorem nodup_group (ledger : Ledger) (accountId groupId : String) :
    ((ledger.group accountId groupId).map (·.resourceType)).Nodup := by
  have keys : ((ledger.group accountId groupId).map groupResource).Nodup :=
    ledger.reservations.nodup.sublist (filter_sublist.map _)
  have factored : (ledger.group accountId groupId).map groupResource =
      ((ledger.group accountId groupId).map (·.resourceType)).map fun resource =>
        (accountId, groupId, resource) := by
    rw [map_map]
    refine map_congr_left fun row member => ?_
    obtain ⟨-, rfl, rfl⟩ := mem_group.1 member
    rfl
  rw [factored] at keys
  exact List.Nodup.of_map _ keys

theorem nodup_lockGroup (locked : lockGroup ledger accountId groupId = .ok models) :
    (models.map (·.resourceType)).Nodup := by
  rw [(lockGroup_eq_ok.1 locked).2]
  exact ((perm_insertionSort _ _).map _).nodup_iff.2 (nodup_group ledger accountId groupId)

/-- What `commit` does to one row of its group, flush included. -/
def CommitWrites (consumed : Dict String ℚ) (allowOverrun : Bool)
    (old new : BudgetReservationModel) : Prop :=
  (∃ middle, Settles consumed allowOverrun old middle ∧ new = middle.flushed) ∨
    (Repeats consumed old ∧ new = old.flushed)

/-- **A successful `commit`** rewrites the rows of one group in place: each is
settled, or it repeats an earlier settlement. -/
theorem commit_ok
    (ok : commit ledger accountId groupId consumed allowOverrun = .ok (view, next)) :
    next.accounts = ledger.accounts ∧ ledger.group accountId groupId ≠ [] ∧
    (∀ resource ∈ consumed.keys,
      ∃ row ∈ ledger.group accountId groupId, row.resourceType = resource) ∧
    Forall₂ (fun old new =>
        (old ∈ ledger.group accountId groupId ∧ CommitWrites consumed allowOverrun old new) ∨
        (old ∉ ledger.group accountId groupId ∧ new = old))
      ledger.reservations.rows next.reservations.rows := by
  unfold commit at ok
  obtain ⟨models, locked, ok⟩ := bind_eq_ok.1 ok
  obtain ⟨named, ok⟩ := require_bind_eq_ok.1 ok
  obtain ⟨⟨settled, replay⟩, looped, ok⟩ := bind_eq_ok.1 ok
  simp only [pure_eq_ok, mk.injEq] at ok
  obtain ⟨-, rfl⟩ := ok
  obtain ⟨_, rfl, pointwise⟩ := commitLoop_ok (by simpa using nodup_lockGroup locked) looped
  refine ⟨rfl, group_ne_nil_of_lockGroup locked, ?_, ?_⟩
  · intro resource key
    obtain ⟨row, member, same⟩ := named resource key
    exact ⟨row, (mem_lockGroup locked).1 member, same⟩
  · have written : Forall₂ (fun old new => new.groupResource = old.groupResource ∧
        CommitWrites consumed allowOverrun old new) models (settled.map (·.flushed)) := by
      rw [forall₂_map_right_iff]
      refine pointwise.imp ?_
      rintro old new (settles | ⟨repeats, rfl⟩)
      · exact ⟨by obtain ⟨-, -, -, rfl⟩ := settles; rfl, .inl ⟨new, settles, rfl⟩⟩
      · exact ⟨rfl, .inr ⟨repeats, rfl⟩⟩
    have rewritten := Table.forall₂_write (mem_rows_of_lockGroup locked) written
    simpa only [nil_append, mem_lockGroup locked] using rewritten

/-- **A successful `release`** either changes nothing, all rows of the group
being released, or it releases every row of a group none of which is committed. -/
theorem release_ok (ok : release ledger accountId groupId = .ok (view, next)) :
    (next = ledger ∧ ∀ row ∈ ledger.group accountId groupId, row.status = .released) ∨
    (next.accounts = ledger.accounts ∧
      (∀ row ∈ ledger.group accountId groupId, row.status ≠ .committed) ∧
      (∃ row ∈ ledger.group accountId groupId, row.status = .reserved) ∧
      Forall₂ (fun old new =>
          (old ∈ ledger.group accountId groupId ∧
            new = { old.flushed with status := .released }) ∨
          (old ∉ ledger.group accountId groupId ∧ new = old))
        ledger.reservations.rows next.reservations.rows) := by
  unfold release at ok
  obtain ⟨models, locked, ok⟩ := bind_eq_ok.1 ok
  split at ok
  next released =>
    simp only [pure_eq_ok, mk.injEq] at ok
    obtain ⟨-, rfl⟩ := ok
    exact .inl ⟨rfl, fun row member => released row ((mem_lockGroup locked).2 member)⟩
  next held =>
    simp only [require_bind_eq_ok, pure_eq_ok, mk.injEq] at ok
    obtain ⟨uncommitted, -, rfl⟩ := ok
    have clear : ∀ row ∈ ledger.group accountId groupId, row.status ≠ .committed :=
      fun row member => uncommitted row ((mem_lockGroup locked).2 member)
    refine .inr ⟨rfl, clear, ?_, ?_⟩
    · push Not at held
      obtain ⟨row, member, unreleased⟩ := held
      have found := (mem_lockGroup locked).1 member
      refine ⟨row, found, ?_⟩
      cases status : row.status with
      | reserved => rfl
      | committed => exact absurd status (clear row found)
      | released => exact absurd status unreleased
    · have written : Forall₂ (fun old new => new.groupResource = old.groupResource ∧
          new = { old.flushed with status := .released }) models
          ((models.map fun model => { model with status := .released }).map (·.flushed)) := by
        rw [map_map, forall₂_map_right_iff, forall₂_same]
        exact fun row _ => ⟨rfl, rfl⟩
      have rewritten := Table.forall₂_write (mem_rows_of_lockGroup locked) written
      simpa only [mem_lockGroup locked] using rewritten

theorem release_accounts (ok : release ledger accountId groupId = .ok (view, next)) :
    next.accounts = ledger.accounts := by
  rcases release_ok ok with ⟨rfl, -⟩ | ⟨accounts, -⟩
  · rfl
  · exact accounts

/-! ## Opening and closing accounts -/

/-- The quantities a child's limits ask of its parent. -/
def BudgetLimits.amounts (limits : BudgetLimits) : Dict String ℚ :=
  limits.quantities.mapEntries fun _ quantity => quantity.toRat

/-- **A successful `create_account`** either changes nothing or adds one active
account, funded by a reservation on its parent unless it has no parent or no
limits. -/
theorem createAccount_ok {limits : BudgetLimits} {taskRunId parentId : Option String}
    {view : BudgetAccountView}
    (ok : createAccount ledger accountId limits taskRunId parentId = .ok (view, next)) :
    next = ledger ∨ ∃ accounts, ledger.accounts.get? accountId = none ∧
      ledger.accounts.insert? (newAccount accountId limits taskRunId parentId) =
        some accounts ∧
      (∀ parent ∈ parentId, ∃ account, ledger.accounts.get? parent = some account ∧
        account.status = .active) ∧
      ((next = { ledger with accounts } ∧ (parentId = none ∨ limits.quantities.entries = [])) ∨
        ∃ parent group, parentId = some parent ∧
          reserve { ledger with accounts } parent (childAllocation accountId) limits.amounts
            (some accountId) = .ok (group, next)) := by
  unfold createAccount at ok
  cases found : ledger.accounts.get? accountId with
  | some existing =>
      rw [found] at ok
      simp only [require_bind_eq_ok, pure_eq_ok, mk.injEq] at ok
      exact .inl ok.2.2.symm
  | none =>
      rw [found] at ok
      cases parentId with
      | none =>
          simp only [fetch_bind_eq_ok, pure_eq_ok, mk.injEq] at ok
          obtain ⟨accounts, inserted, -, rfl⟩ := ok
          exact .inr ⟨accounts, rfl, inserted, by simp, .inl ⟨rfl, .inl rfl⟩⟩
      | some parent =>
          simp only [fetch_bind_eq_ok, require_bind_eq_ok] at ok
          obtain ⟨account, parentFound, active, ok⟩ := ok
          obtain ⟨report, -, ok⟩ := bind_eq_ok.1 ok
          obtain ⟨_, -, ok⟩ := bind_eq_ok.1 ok
          obtain ⟨accounts, inserted, ok⟩ := fetch_bind_eq_ok.1 ok
          refine .inr ⟨accounts, rfl, inserted, ?_, ?_⟩
          · simpa using ⟨account, parentFound, active⟩
          · split at ok
            · obtain ⟨⟨group, funded⟩, reserved, ok⟩ := bind_eq_ok.1 ok
              simp only [pure_eq_ok, mk.injEq] at ok
              obtain ⟨-, rfl⟩ := ok
              exact .inr ⟨parent, group, rfl, reserved⟩
            next unlimited =>
              simp only [pure_eq_ok, mk.injEq] at ok
              obtain ⟨-, rfl⟩ := ok
              exact .inl ⟨rfl, .inr (by simpa [Dict.mapEntries] using unlimited)⟩

/-- **A successful `close_child_account`** either finds the child closed and
changes nothing, or settles the parent's allocation with what the child has
committed and closes the child. -/
theorem closeChildAccount_ok {view : BudgetAccountView}
    (ok : closeChildAccount ledger accountId = .ok (view, next)) :
    ∃ child parent, ledger.accounts.get? accountId = some child ∧
      child.parentAccountId = some parent ∧
      ((child.status = .closed ∧ next = ledger) ∨
        (child.status = .active ∧ ∃ group settled,
          commit ledger parent (childAllocation accountId)
            (Dict.tally (·.resourceType) (·.amountCommitted)
              (ledger.rowsWith accountId .committed)) true = .ok (group, settled) ∧
          next = { settled with accounts := closeAccount settled.accounts accountId })) := by
  unfold closeChildAccount at ok
  simp only [fetch_bind_eq_ok] at ok
  obtain ⟨child, found, parent, parentEq, ok⟩ := ok
  refine ⟨child, parent, found, parentEq, ?_⟩
  split at ok
  next closed =>
    simp only [pure_eq_ok, mk.injEq] at ok
    exact .inl ⟨closed, ok.2.symm⟩
  next open_ =>
    obtain ⟨report, snapped, ok⟩ := bind_eq_ok.1 ok
    obtain ⟨⟨group, settled⟩, committed, ok⟩ := bind_eq_ok.1 ok
    simp only [pure_eq_ok, mk.injEq] at ok
    obtain ⟨-, -, reported, -⟩ := snapshot_ok snapped
    rw [reported] at committed
    refine .inr ⟨?_, group, settled, committed, ok.2.symm⟩
    cases status : child.status with
    | active => rfl
    | closed => exact absurd status open_

end SecFusion.Budget
