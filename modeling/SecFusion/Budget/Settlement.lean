import SecFusion.Budget.Conservation

/-!
# Settling a child account with its parent

`close_child_account` sums up what the child has committed, once, and commits
that sum on the parent's allocation.  The two totals agree from then on as long
as neither moves: the allocation is committed and can only be committed again
with the same quantities, and the child, being closed, can reserve nothing more.

What can still move is a row the child had reserved before it was closed.
`commit` looks up its group and never the status of the account, so it settles
such a row of a closed account as of any other; a grandchild that is closed
after its parent is settled by the same `commit`.  `SettlesOpen` excludes the
two, and `escapes_after_close` is a run in which usage escapes the parent.
-/

namespace SecFusion.Budget

open Foundations

/-! ## The committed side of an allocation -/

/-- What the parent's allocation of a child has been committed with, for one
resource. -/
def Ledger.allocationTotal (ledger : Ledger) (parent child resource : String) : ℚ :=
  (((ledger.group parent (childAllocation child)).filter fun row =>
    row.resourceType = resource).map (·.spent)).sum

/-- Account, group and resource identify one row. -/
theorem allocationTotal_eq_get? (ledger : Ledger) (parent child resource : String) :
    ledger.allocationTotal parent child resource =
      ((ledger.reservations.get? (parent, childAllocation child, resource)).map (·.spent)).getD 0 := by
  rw [← Table.sum_key, Ledger.allocationTotal, Ledger.group, select, List.filter_filter]
  congr 2
  refine filter_congr fun row _ => ?_
  simp only [groupResource, mk.injEq, Bool.decide_and]
  ac_rfl

variable {old new : BudgetReservationModel} {ledger next : Ledger}
  {accountId parent child groupId resource : String} {consumed quantities : Dict String ℚ}
  {allowOverrun : Bool} {view : BudgetReservationGroup} {named : Option String} {op : BudgetOp}
  {answer : BudgetAnswer}

theorem SameReservation.groupResource (same : SameReservation old new) :
    new.groupResource = old.groupResource := by
  simp [BudgetReservationModel.groupResource, same.accountId, same.groupId, same.resource]

/-- The committed total of an account none of whose rows changes what it has
spent. -/
theorem committedTotal_of_forall₂
    (pointwise : Forall₂ (fun old new => SameReservation old new ∧
      (old.accountId = accountId → new.spent = old.spent))
      ledger.reservations.rows next.reservations.rows) (resource : String) :
    next.committedTotal accountId resource = ledger.committedTotal accountId resource := by
  rw [committedTotal_eq_spent, committedTotal_eq_spent]
  refine sum_filter_of_forall₂ (pointwise.imp fun old new holds => ?_)
  obtain ⟨same, spent⟩ := holds
  refine ⟨by rw [same.accountId, same.resource], fun counted => spent ?_⟩
  exact (of_decide_eq_true counted).1

/-! ## The invariant -/

/-- The allocation of a closed child is committed, with what the child has
committed. -/
structure ClosedSettled (ledger : Ledger) (parent child : String) : Prop where
  nonempty : ledger.group parent (childAllocation child) ≠ []
  committed : ∀ row ∈ ledger.group parent (childAllocation child), row.status = .committed
  equal : ∀ resource,
    ledger.allocationTotal parent child resource = ledger.committedTotal child resource

/-- Every closed child is settled with its parent. -/
def Settled (ledger : Ledger) : Prop :=
  ∀ account ∈ ledger.accounts.rows, account.status = .closed →
    ∀ parent ∈ account.parentAccountId, ClosedSettled ledger parent account.accountId

/-- Rewriting rows in place keeps a settled child when it leaves the allocation
alone and does not change what a row of the child has spent. -/
theorem ClosedSettled.rewrite (settled : ClosedSettled ledger parent child)
    (pointwise : Forall₂ (fun old new => SameReservation old new ∧
      (old ∈ ledger.group parent (childAllocation child) → new = old) ∧
      (old.accountId = child → new.spent = old.spent))
      ledger.reservations.rows next.reservations.rows) : ClosedSettled next parent child := by
  have same : Forall₂ SameReservation ledger.reservations.rows next.reservations.rows :=
    pointwise.imp fun _ _ holds => holds.1
  constructor
  case nonempty => exact group_ne_nil_of_forall₂ same settled.nonempty
  case committed =>
    intro row member
    obtain ⟨old, found, sameRow, unchanged, -⟩ :=
      exists_left_of_mem pointwise (mem_group.1 member).1
    have oldMember := sameRow.mem_group found member
    rw [unchanged oldMember]
    exact settled.committed old oldMember
  case equal =>
    intro resource
    have childSame : next.committedTotal child resource = ledger.committedTotal child resource :=
      committedTotal_of_forall₂ (pointwise.imp fun _ _ holds => ⟨holds.1, holds.2.2⟩) resource
    rw [childSame, ← settled.equal, allocationTotal_eq_get?, allocationTotal_eq_get?]
    rcases Table.get?_of_forall₂ pointwise (fun _ _ holds => holds.1.groupResource)
      (parent, childAllocation child, resource) with ⟨before, after⟩ | ⟨old, new, before, after, -, unchanged, -⟩
    · rw [before, after]
    · obtain ⟨found, key⟩ := get?_eq_some.1 before
      have member : old ∈ ledger.group parent (childAllocation child) := by
        simp only [groupResource, mk.injEq] at key
        exact mem_group.2 ⟨found, key.1, key.2.1⟩
      rw [before, after, unchanged member]

/-- Only the reservation rows matter. -/
theorem ClosedSettled.withAccounts (settled : ClosedSettled ledger parent child)
    (accounts : Table BudgetAccountModel String (·.accountId)) :
    ClosedSettled { ledger with accounts } parent child :=
  ⟨settled.nonempty, settled.committed, settled.equal⟩

/-! ## What each call keeps -/

/-- No reserved row of the group would be charged. -/
def ChargesNothing (ledger : Ledger) (accountId groupId : String) (consumed : Dict String ℚ) :
    Prop :=
  ∀ row ∈ ledger.group accountId groupId, row.status = .reserved →
    numericScale (consumed.getD row.resourceType 0) = 0

theorem ClosedSettled.commit (kept : WellKept ledger) (settled : ClosedSettled ledger parent child)
    (quiet : accountId = child → ChargesNothing ledger accountId groupId consumed)
    (ok : commit ledger accountId groupId consumed allowOverrun = .ok (view, next)) :
    ClosedSettled next parent child := by
  obtain ⟨-, -, -, pointwise⟩ := commit_ok ok
  refine settled.rewrite (forall₂_imp_mem pointwise ?_)
  rintro old found new (⟨member, writes⟩ | ⟨-, rfl⟩)
  · have scaled := (kept.row old found).onScale
    refine ⟨(writes.same scaled).1, fun allocation => ?_, fun ofChild => ?_⟩
    · have committed := settled.committed old allocation
      rcases writes with ⟨middle, ⟨reserved, -⟩, -⟩ | ⟨-, rfl⟩
      · rw [committed] at reserved
        cases reserved
      · exact scaled
    · rcases writes with ⟨middle, ⟨reserved, -, -, rfl⟩, rfl⟩ | ⟨-, rfl⟩
      · have account := (mem_group.1 member).2.1
        have nothing := quiet (account.symm.trans ofChild) old member reserved
        simp [spent, flushed, reserved, nothing]
      · rw [scaled]
  · exact ⟨SameReservation.refl _, fun _ => rfl, fun _ => rfl⟩

theorem ClosedSettled.release (kept : WellKept ledger) (settled : ClosedSettled ledger parent child)
    (ok : release ledger accountId groupId = .ok (view, next)) :
    ClosedSettled next parent child := by
  rcases release_ok ok with ⟨rfl, -⟩ | ⟨-, uncommitted, -, pointwise⟩
  · exact settled
  refine settled.rewrite (forall₂_imp_mem pointwise ?_)
  rintro old found new (⟨member, rfl⟩ | ⟨-, rfl⟩)
  · have scaled := (kept.row old found).onScale
    have open_ := uncommitted old member
    refine ⟨⟨rfl, rfl, rfl, rfl, congrArg (·.amountReserved) scaled⟩, fun allocation => ?_,
      fun _ => ?_⟩
    · exact absurd (settled.committed old allocation) open_
    · simp [spent, open_]
  · exact ⟨SameReservation.refl _, fun _ => rfl, fun _ => rfl⟩

/-- Appending rows that have spent nothing keeps every committed total. -/
theorem committedTotal_append {added : List BudgetReservationModel}
    (rows : next.reservations.rows = ledger.reservations.rows ++ added)
    (unspent : ∀ row ∈ added, row.spent = 0) (accountId resource : String) :
    next.committedTotal accountId resource = ledger.committedTotal accountId resource := by
  have nothing : ((ofResource accountId resource added).map (·.spent)).sum = 0 := by
    refine List.sum_eq_zero fun amount listed => ?_
    obtain ⟨row, member, rfl⟩ := mem_map.1 listed
    exact unspent row (mem_filter.1 member).1
  rw [committedTotal_eq_spent, committedTotal_eq_spent, rows, ofResource, filter_append,
    map_append, List.sum_append]
  change _ + ((ofResource accountId resource added).map (·.spent)).sum = _
  rw [nothing, add_zero]
  rfl

theorem ClosedSettled.reserve (settled : ClosedSettled ledger parent child)
    (ok : reserve ledger accountId groupId quantities named = .ok (view, next)) :
    ClosedSettled next parent child := by
  rcases (reserve_ok ok).2 with ⟨rfl, -, -⟩ | ⟨absent, -, -, appended, -, -⟩
  · exact settled
  have different : ¬ (accountId = parent ∧ groupId = childAllocation child) := by
    rintro ⟨rfl, rfl⟩
    exact settled.nonempty absent
  have sameGroup : next.group parent (childAllocation child) =
      ledger.group parent (childAllocation child) := by
    have others : (quantities.sorted.map fun entry =>
        (newReservation accountId groupId named entry).flushed).filter (fun row =>
          row.accountId = parent ∧ row.reservationGroupId = childAllocation child) = [] := by
      rw [filter_eq_nil_iff]
      intro row new counted
      obtain ⟨entry, -, rfl⟩ := mem_map.1 new
      exact different (of_decide_eq_true counted)
    rw [Ledger.group, select, appended, filter_append, others, append_nil]
    rfl
  refine ⟨by rw [sameGroup]; exact settled.nonempty,
    by rw [sameGroup]; exact settled.committed, fun resource => ?_⟩
  have unspent : next.committedTotal child resource = ledger.committedTotal child resource := by
    refine committedTotal_append appended (fun row new => ?_) child resource
    obtain ⟨entry, -, rfl⟩ := mem_map.1 new
    simp [spent, newReservation, flushed]
  rw [unspent, ← settled.equal, Ledger.allocationTotal, sameGroup]
  rfl

theorem Settled.reserve (settled : Settled ledger)
    (ok : reserve ledger accountId groupId quantities named = .ok (view, next)) :
    Settled next := by
  intro account found closed parent parentEq
  rw [reserve_accounts ok] at found
  exact (settled account found closed parent parentEq).reserve ok

theorem Settled.createAccount {limits : BudgetLimits} {taskRunId parentId : Option String}
    {view : BudgetAccountView} (settled : Settled ledger)
    (ok : createAccount ledger accountId limits taskRunId parentId = .ok (view, next)) :
    Settled next := by
  rcases createAccount_ok ok with rfl | ⟨accounts, fresh, inserted, -, outcome⟩
  · exact settled
  have opened : Settled { ledger with accounts } := by
    intro account found closed parent parentEq
    simp only [(insert?_eq_some inserted).1, mem_append, mem_singleton] at found
    rcases found with old | rfl
    · exact (settled account old closed parent parentEq).withAccounts _
    · cases closed
  rcases outcome with ⟨rfl, -⟩ | ⟨parent, group, rfl, reserved⟩
  · exact opened
  · exact opened.reserve reserved

/-! ## Closing -/

/-- What the child has committed so far, as `close_child_account` reads it. -/
def Ledger.consumedBy (ledger : Ledger) (child : String) : Dict String ℚ :=
  Dict.tally (·.resourceType) (·.amountCommitted) (ledger.rowsWith child .committed)

theorem getD_consumedBy (ledger : Ledger) (child resource : String) :
    (ledger.consumedBy child).getD resource 0 = ledger.committedTotal child resource :=
  Dict.getD_tally _ _ _ _

def Ledger.HasCommitted (ledger : Ledger) (child resource : String) : Prop :=
  ∃ row ∈ ledger.rowsWith child .committed, row.resourceType = resource

theorem mem_keys_consumedBy :
    resource ∈ (ledger.consumedBy child).keys ↔ ledger.HasCommitted child resource := by
  rw [Ledger.consumedBy, Dict.mem_keys_tally]
  rfl

theorem committedTotal_of_not_hasCommitted (none : ¬ ledger.HasCommitted child resource) :
    ledger.committedTotal child resource = 0 := by
  have absent : (ledger.rowsWith child .committed).filter
      (fun row => row.resourceType = resource) = [] := by
    rw [filter_eq_nil_iff]
    intro row member same
    exact none ⟨row, member, of_decide_eq_true same⟩
  rw [Ledger.committedTotal, absent]
  rfl

/-- No row of the allocation has been committed with something other than zero
for a resource of which the child has committed nothing. -/
def AllocationUnsettled (ledger : Ledger) (parent child : String) : Prop :=
  ∀ row ∈ ledger.group parent (childAllocation child), row.status = .committed →
    row.amountCommitted ≠ 0 → ledger.HasCommitted child row.resourceType

/-- What closing a child writes to a row of its allocation: it is committed with
what the child has committed. -/
theorem spent_of_close (kept : WellKept ledger)
    (unsettled : AllocationUnsettled ledger parent child)
    (member : old ∈ ledger.group parent (childAllocation child))
    (writes : CommitWrites (ledger.consumedBy child) true old new) :
    new.status = .committed ∧ new.spent = ledger.committedTotal child old.resourceType := by
  rcases writes with ⟨middle, ⟨-, -, -, rfl⟩, rfl⟩ | ⟨⟨committed, recorded⟩, rfl⟩
  · refine ⟨rfl, ?_⟩
    simp only [spent, flushed, if_true,
      getD_consumedBy]
    exact numericScale_committedTotal kept child old.resourceType
  · rw [(kept.row old (mem_group.1 member).1).onScale]
    refine ⟨committed, ?_⟩
    rw [spent, if_pos committed]
    by_cases has : ledger.HasCommitted child old.resourceType
    · obtain ⟨amount, named⟩ := Dict.mem_keys.1 (mem_keys_consumedBy.2 has)
      rw [recorded amount named, ← getD_consumedBy, Dict.getD_of_get? named]
    · rw [committedTotal_of_not_hasCommitted has]
      by_contra nonzero
      exact has (unsettled old member committed nonzero)

/-- **Closing settles.**  The allocation is committed with what the child has
committed, resource by resource. -/
theorem closedSettled_of_commit (kept : WellKept ledger) (different : parent ≠ child)
    (unsettled : AllocationUnsettled ledger parent child)
    (ok : commit ledger parent (childAllocation child) (ledger.consumedBy child) true =
      .ok (view, next)) : ClosedSettled next parent child := by
  obtain ⟨-, nonempty, named, pointwise⟩ := commit_ok ok
  have written : Forall₂ (fun old new => SameReservation old new ∧
      (old ∈ ledger.group parent (childAllocation child) →
        new.status = .committed ∧ new.spent = ledger.committedTotal child old.resourceType) ∧
      (old.accountId = child → new.spent = old.spent))
      ledger.reservations.rows next.reservations.rows := by
    refine forall₂_imp_mem pointwise ?_
    rintro old found new (⟨member, writes⟩ | ⟨outside, rfl⟩)
    · refine ⟨(writes.same (kept.row old found).onScale).1,
        fun _ => spent_of_close kept unsettled member writes, fun ofChild => ?_⟩
      exact absurd ((mem_group.1 member).2.1.symm.trans ofChild) different
    · exact ⟨SameReservation.refl _, fun member => absurd member outside, fun _ => rfl⟩
  constructor
  case nonempty =>
    exact group_ne_nil_of_forall₂ (written.imp fun _ _ holds => holds.1) nonempty
  case committed =>
    intro row member
    obtain ⟨old, found, same, settles, -⟩ := exists_left_of_mem written (mem_group.1 member).1
    exact (settles (same.mem_group found member)).1
  case equal =>
    intro resource
    have childSame : next.committedTotal child resource = ledger.committedTotal child resource :=
      committedTotal_of_forall₂ (written.imp fun _ _ holds => ⟨holds.1, holds.2.2⟩) resource
    rw [childSame, allocationTotal_eq_get?]
    rcases Table.get?_of_forall₂ written (fun _ _ holds => holds.1.groupResource)
      (parent, childAllocation child, resource) with
      ⟨before, after⟩ | ⟨old, new, before, after, -, settles, -⟩
    · -- the commit would have refused a resource the allocation lacks
      have none : ¬ ledger.HasCommitted child resource := by
        intro has
        obtain ⟨row, member, same⟩ := named resource (mem_keys_consumedBy.2 has)
        obtain ⟨found, account, group⟩ := mem_group.1 member
        refine Table.get?_eq_none.1 before row found ?_
        simp [groupResource, account, group, same]
      rw [after, committedTotal_of_not_hasCommitted none]
      rfl
    · obtain ⟨found, key⟩ := get?_eq_some.1 before
      simp only [groupResource, mk.injEq] at key
      obtain ⟨account, group, same⟩ := key
      have settled := (settles (mem_group.2 ⟨found, account, group⟩)).2
      rw [after, ← same]
      simpa using settled

/-! ## Runs -/

/-- A commit charges no row of an account that is already closed, be it called
directly or to settle a child; and no child is closed whose allocation has been
committed directly with something the child has not used. -/
def SettlesOpen (ledger : Ledger) : BudgetOp → Prop
  | .commit accountId groupId consumed _ =>
      ∀ account ∈ ledger.accounts.get? accountId, account.status = .closed →
        ChargesNothing ledger accountId groupId consumed
  | .closeChildAccount accountId =>
      ∀ child ∈ ledger.accounts.get? accountId, child.status = .active →
        ∀ parent ∈ child.parentAccountId, AllocationUnsettled ledger parent accountId ∧
          ∀ account ∈ ledger.accounts.get? parent, account.status = .closed →
            ChargesNothing ledger parent (childAllocation accountId) (ledger.consumedBy accountId)
  | _ => True

theorem Settled.commit (kept : WellKept ledger) (settled : Settled ledger)
    (quiet : ∀ account ∈ ledger.accounts.get? accountId, account.status = .closed →
      ChargesNothing ledger accountId groupId consumed)
    (ok : commit ledger accountId groupId consumed allowOverrun = .ok (view, next)) :
    Settled next := by
  intro account found closed parent parentEq
  rw [(commit_ok ok).1] at found
  refine (settled account found closed parent parentEq).commit kept ?_ ok
  rintro rfl
  exact quiet account (get?_of_mem found) closed

theorem Settled.closeChildAccount {view : BudgetAccountView} (kept : WellKept ledger)
    (settled : Settled ledger) (guarded : SettlesOpen ledger (.closeChildAccount accountId))
    (ok : closeChildAccount ledger accountId = .ok (view, next)) : Settled next := by
  obtain ⟨child, parent, found, parentEq, ⟨-, rfl⟩ | ⟨active, group, after, committed, rfl⟩⟩ :=
    closeChildAccount_ok ok
  · exact settled
  obtain ⟨unsettled, quiet⟩ := guarded child found active parent parentEq
  obtain ⟨childFound, rfl⟩ := get?_eq_some.1 found
  have others : Settled after := settled.commit kept quiet committed
  have here : ClosedSettled after parent child.accountId :=
    closedSettled_of_commit kept ((kept.account child childFound).parentExists parent parentEq).2
      unsettled committed
  intro account member closed parent' parentEq'
  rw [closeAccount, Table.rows_modify] at member
  obtain ⟨before, beforeFound, rfl⟩ := mem_map.1 member
  by_cases same : before.accountId = child.accountId
  · rw [(commit_ok committed).1] at beforeFound
    obtain rfl : before = child := eq_of_key beforeFound childFound same
    rw [if_pos rfl] at parentEq' ⊢
    obtain rfl := mem_unique parentEq parentEq'
    exact here.withAccounts _
  · rw [if_neg same] at closed parentEq' ⊢
    exact (others before beforeFound closed parent' parentEq').withAccounts _

theorem Settled.governor (kept : WellKept ledger) (settled : Settled ledger)
    (guarded : SettlesOpen ledger op) (ok : governor op ledger = .ok (answer, next)) :
    Settled next := by
  cases governor_called ok with
  | createAccount called =>
      exact settled.createAccount called
  | reserve called =>
      exact settled.reserve called
  | commit called =>
      exact settled.commit kept guarded called
  | release called =>
      intro account found closed parent parentEq
      rw [release_accounts called] at found
      exact (settled account found closed parent parentEq).release kept called
  | closeChildAccount called =>
      exact settled.closeChildAccount kept guarded called

/-- A child account that has been closed, and its parent. -/
def ClosedChild (ledger : Ledger) (accountId parent : String) : Prop :=
  ∃ child, ledger.accounts.get? accountId = some child ∧ child.status = .closed ∧
    child.parentAccountId = some parent

theorem ClosedChild.closeAccount (closed : ClosedChild ledger accountId parent) (otherId : String) :
    ClosedChild { ledger with accounts := closeAccount ledger.accounts otherId } accountId
      parent := by
  obtain ⟨child, found, status, parentEq⟩ := closed
  refine ⟨if child.accountId = otherId then { child with status := .closed } else child,
    by rw [get?_closeAccount, found]; rfl, ?_, ?_⟩
  · split
    · rfl
    · exact status
  · split
    · exact parentEq
    · exact parentEq

theorem closedChild_of_accounts (same : next.accounts = ledger.accounts)
    (closed : ClosedChild ledger accountId parent) :
    ClosedChild next accountId parent := by
  unfold ClosedChild
  rwa [same]

/-- A closed child stays closed. -/
theorem ClosedChild.governor (closed : ClosedChild ledger accountId parent)
    (ok : governor op ledger = .ok (answer, next)) : ClosedChild next accountId parent := by
  cases governor_called ok with
  | createAccount called =>
      rcases createAccount_ok called with rfl | ⟨accounts, fresh, inserted, -, outcome⟩
      · exact closed
      have opened : ClosedChild { ledger with accounts } accountId parent := by
        obtain ⟨child, found, status, parentEq⟩ := closed
        exact ⟨child, extends_insert fresh inserted accountId child found, status, parentEq⟩
      rcases outcome with ⟨rfl, -⟩ | ⟨funder, group, rfl, reserved⟩
      · exact opened
      · exact closedChild_of_accounts (reserve_accounts reserved) opened
  | reserve called =>
      exact closedChild_of_accounts (reserve_accounts called) closed
  | commit called =>
      exact closedChild_of_accounts (commit_ok called).1 closed
  | release called =>
      exact closedChild_of_accounts (release_accounts called) closed
  | @closeChildAccount otherId _ called =>
      obtain ⟨_, _, -, -, ⟨-, rfl⟩ | ⟨-, group, settled, committed, rfl⟩⟩ :=
        closeChildAccount_ok called
      · exact closed
      · exact (closedChild_of_accounts (commit_ok committed).1 closed).closeAccount otherId

theorem closedChild_of_close
    (ok : governor (.closeChildAccount accountId) ledger = .ok (answer, next)) :
    ∃ child parent, ledger.accounts.get? accountId = some child ∧
      child.parentAccountId = some parent ∧ ClosedChild next accountId parent := by
  obtain ⟨⟨view, result⟩, called, ok⟩ := bind_eq_ok.1 ok
  cases ok
  obtain ⟨child, parent, found, parentEq, outcome⟩ := closeChildAccount_ok called
  refine ⟨child, parent, found, parentEq, ?_⟩
  rcases outcome with ⟨closed, rfl⟩ | ⟨-, group, settled, committed, rfl⟩
  · exact ⟨child, found, closed, parentEq⟩
  · refine ⟨{ child with status := .closed }, ?_, rfl, parentEq⟩
    rw [get?_closeAccount, (commit_ok committed).1, found]
    simp [key_of_get? found]

/-- **Hierarchical settlement.**  Along every run whose calls satisfy
`SettlesOpen`, once a child has been closed its parent's allocation is committed
with exactly what the child has committed, in that state and in every later
one. -/
theorem allocation_settled_after_close (before after : List BudgetOp) (accountId : String)
    (guarded : Along governor SettlesOpen Ledger.empty
      (before ++ .closeChildAccount accountId :: after))
    (answer : BudgetAnswer) (next : Ledger)
    (answered : governor (.closeChildAccount accountId) (run governor Ledger.empty before) =
      .ok (answer, next)) :
    ∃ child parent, (run governor Ledger.empty before).accounts.get? accountId = some child ∧
      child.parentAccountId = some parent ∧
      ∀ resource, (run governor next after).allocationTotal parent accountId resource =
        (run governor next after).committedTotal accountId resource := by
  obtain ⟨child, parent, found, parentEq, closed⟩ := closedChild_of_close answered
  refine ⟨child, parent, found, parentEq, fun resource => ?_⟩
  have later : ClosedChild (run governor next after) accountId parent :=
    run_invariant (fun _ _ _ _ => ClosedChild.governor) closed after
  have split : run governor Ledger.empty (before ++ .closeChildAccount accountId :: after) =
      run governor next after := by
    rw [run_append, run_cons, transact_of_ok answered]
  have invariant : WellKept (run governor next after) ∧ Settled (run governor next after) := by
    have preserved : ∀ (ledger : Ledger) (op : BudgetOp) (answer : BudgetAnswer) (next : Ledger),
        WellKept ledger ∧ Settled ledger → SettlesOpen ledger op →
          governor op ledger = .ok (answer, next) → WellKept next ∧ Settled next := by
      rintro ledger op answer next ⟨kept, settled⟩ guard answered
      exact ⟨kept.governor answered, settled.governor kept guard answered⟩
    rw [← split]
    exact run_invariant_along preserved ⟨WellKept.empty, nofun⟩ _ guarded
  obtain ⟨closedChild, closedFound, status, closedParent⟩ := later
  obtain ⟨member, rfl⟩ := Table.get?_eq_some.1 closedFound
  exact (invariant.2 closedChild member status parent closedParent).equal resource

/-! ## Two runs -/

instance (ledger : Ledger) (accountId groupId : String) (consumed : Dict String ℚ) :
    Decidable (ChargesNothing ledger accountId groupId consumed) :=
  inferInstanceAs (Decidable (∀ row ∈ ledger.group accountId groupId, row.status = .reserved →
    numericScale (consumed.getD row.resourceType 0) = 0))

instance (ledger : Ledger) (child resource : String) :
    Decidable (ledger.HasCommitted child resource) :=
  inferInstanceAs (Decidable (∃ row ∈ ledger.rowsWith child .committed,
    row.resourceType = resource))

instance (ledger : Ledger) (parent child : String) :
    Decidable (AllocationUnsettled ledger parent child) :=
  inferInstanceAs (Decidable (∀ row ∈ ledger.group parent (childAllocation child),
    row.status = .committed → row.amountCommitted ≠ 0 →
      ledger.HasCommitted child row.resourceType))

instance settlesOpenDecidable (ledger : Ledger) : (op : BudgetOp) → Decidable (SettlesOpen ledger op)
  | .commit accountId groupId consumed _ =>
      inferInstanceAs (Decidable (∀ account ∈ ledger.accounts.get? accountId,
        account.status = .closed → ChargesNothing ledger accountId groupId consumed))
  | .closeChildAccount accountId =>
      inferInstanceAs (Decidable (∀ child ∈ ledger.accounts.get? accountId,
        child.status = .active → ∀ parent ∈ child.parentAccountId,
          AllocationUnsettled ledger parent accountId ∧
            ∀ account ∈ ledger.accounts.get? parent, account.status = .closed →
              ChargesNothing ledger parent (childAllocation accountId)
                (ledger.consumedBy accountId)))
  | .createAccount .. | .reserve .. | .release .. => inferInstanceAs (Decidable True)

/-- A child that uses two of its three calls before it is closed. -/
def usedBeforeClose : List BudgetOp := childReserves ++ [childCommits]

theorem allocation_settled_after_close_usedBeforeClose :
    (run governor Ledger.empty
      (usedBeforeClose ++ [.closeChildAccount "child"])).committedTotal "child" "tool_calls" = 2 ∧
    ∃ child parent, (run governor Ledger.empty usedBeforeClose).accounts.get? "child" = some child ∧
      child.parentAccountId = some parent ∧
      ∃ answer next, governor (.closeChildAccount "child")
          (run governor Ledger.empty usedBeforeClose) = .ok (answer, next) ∧
        ∀ resource, (run governor next [.release "root" "none"]).allocationTotal parent "child"
          resource = (run governor next [.release "root" "none"]).committedTotal "child"
            resource := by
  refine ⟨by decide +kernel, ?_⟩
  cases answered : governor (.closeChildAccount "child")
      (run governor Ledger.empty usedBeforeClose) with
  | error raised =>
      have succeeds : (governor (.closeChildAccount "child")
          (run governor Ledger.empty usedBeforeClose)).toOption.isSome = true := by decide +kernel
      rw [answered] at succeeds
      cases succeeds
  | ok result =>
      obtain ⟨answer, next⟩ := result
      obtain ⟨child, parent, found, parentEq, settled⟩ := allocation_settled_after_close
        usedBeforeClose [.release "root" "none"] "child" (by decide +kernel) answer next answered
      exact ⟨child, parent, found, parentEq, answer, next, rfl, settled⟩

/-- A child closed while a reservation of two calls is outstanding, and the
commit of that reservation. -/
def committedAfterClose : List BudgetOp × List BudgetOp := (childReserves, [childCommits])

/-- Usage escapes the parent when a reservation outstanding at the close is
committed after it. -/
theorem escapes_after_close :
    ¬ ∀ (before after : List BudgetOp) (accountId : String) (answer : BudgetAnswer) (next : Ledger),
      governor (.closeChildAccount accountId) (run governor Ledger.empty before) =
          .ok (answer, next) →
        ∀ child parent, (run governor Ledger.empty before).accounts.get? accountId = some child →
          child.parentAccountId = some parent →
          ∀ resource, (run governor next after).allocationTotal parent accountId resource =
            (run governor next after).committedTotal accountId resource := by
  intro settles
  cases answered : governor (.closeChildAccount "child")
      (run governor Ledger.empty committedAfterClose.1) with
  | error raised =>
      have succeeds : (governor (.closeChildAccount "child")
          (run governor Ledger.empty committedAfterClose.1)).toOption.isSome = true := by
        decide +kernel
      rw [answered] at succeeds
      cases succeeds
  | ok result =>
      obtain ⟨answer, next⟩ := result
      have equal := settles committedAfterClose.1 committedAfterClose.2 "child" answer next answered
        ⟨"child", some "root", none, ⟨[("tool_calls", ⟨false, 3, 0⟩)], by simp⟩, .active⟩ "root"
        (by decide +kernel) rfl "tool_calls"
      have reached : next = run governor Ledger.empty
          (committedAfterClose.1 ++ [.closeChildAccount "child"]) := by
        rw [run_append, run_cons, run_nil, transact_of_ok answered]
      rw [reached, ← run_append] at equal
      exact absurd equal (by decide +kernel)

end SecFusion.Budget
