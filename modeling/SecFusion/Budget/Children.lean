import SecFusion.Budget.Replays

/-!
# Opening and closing children

A child account is opened with an allocation by its parent and closed by settling the
allocation.  `BudgetLimits` admits limits of zero, and no limits at all.  But the parent's
`reserve` refuses a quantity of zero, so such a child cannot be opened; and without limits
there is no allocation, so such a child can be opened but not closed.

A child that is opened with positive limits can be closed whatever happens in between, as
long as nobody settles or releases its allocation directly (`child_opens_and_closes`).
-/

namespace SecFusion.Budget

open Foundations

/-! ## Opening -/

variable {account : BudgetAccountModel} {view : BudgetReservationGroup}
  {resource groupId otherId ownId ownGroup : String} {consumed : Dict String ℚ}
  {allowOverrun : Bool}

section Opening

variable {ledger next : Ledger} {accountId parentId : String}
variable {quantities : Dict String ℚ} {child taskRunId : Option String} {limits : BudgetLimits}

/-- What a reservation of the quantities writes has no identity that is taken. -/
def NewRows (ledger : Ledger) (accountId groupId : String) (quantities : Dict String ℚ) : Prop :=
  ∀ entry ∈ quantities.entries, ∀ row ∈ ledger.reservations.rows,
    row.reservationId ≠ (newReservation accountId groupId none entry).reservationId

/-- **A new group can be reserved** on an active account within what remains. -/
theorem reserve_of_fits {report : BudgetSnapshot} (given : quantities.entries ≠ [])
    (positive : ∀ entry ∈ quantities.entries, 0 < entry.2)
    (found : ledger.accounts.get? accountId = some account) (active : account.status = .active)
    (absent : ledger.group accountId groupId = []) (read : snapshot ledger accountId = .ok report)
    (fits : ∀ entry ∈ quantities.entries, entry.2 ≤ report.remaining.getD entry.1 0)
    (childExists : ∀ other ∈ child, (ledger.accounts.get? other).isSome)
    (unused : NewRows ledger accountId groupId quantities) :
    ∃ view next, reserve ledger accountId groupId quantities child = .ok (view, next) := by
  have fresh : ∀ model ∈ quantities.sorted.map (newReservation accountId groupId child),
      ∀ row ∈ ledger.reservations.rows, row.reservationId ≠ model.reservationId := by
    intro model member row listed
    obtain ⟨entry, inside, rfl⟩ := mem_map.1 member
    exact unused entry ((quantities.perm_sorted.mem_iff).1 inside) row listed
  have distinct : (((quantities.sorted.map (newReservation accountId groupId child)).map
      (·.flushed)).map groupResource).Nodup := by
    have keys : (quantities.sorted.map Prod.fst).Nodup :=
      ((quantities.perm_sorted.map Prod.fst).nodup_iff).2 quantities.nodup
    rw [map_map, map_map]
    have factored : (groupResource ∘ (·.flushed)) ∘
        newReservation accountId groupId child =
          (fun resource => (accountId, groupId, resource)) ∘ Prod.fst := rfl
    rw [factored, ← map_map]
    refine keys.map ?_
    intro first second same
    exact (Prod.mk.inj (Prod.mk.inj same).2).2
  have missing : ∀ row ∈ (quantities.sorted.map (newReservation accountId groupId child)).map
      (·.flushed), ledger.reservations.get? row.groupResource = none := by
    intro row member
    obtain ⟨model, inside, rfl⟩ := mem_map.1 member
    obtain ⟨entry, -, rfl⟩ := mem_map.1 inside
    rw [Table.get?_eq_none]
    intro other listed same
    have parts := Prod.mk.inj same
    have inGroup : other ∈ ledger.group accountId groupId :=
      mem_group.2 ⟨listed, parts.1, (Prod.mk.inj parts.2).1⟩
    rw [absent] at inGroup
    cases inGroup
  obtain ⟨reservations, inserted⟩ := Table.insertAll?_of_absent distinct missing
  have checked : checkRemaining ("budget exhausted for " ++ ·) report.remaining
      quantities.entries = .ok () := checkRemaining_eq_ok.2 fits
  unfold reserve
  rw [require_of given, ok_bind, require_of positive, ok_bind, found]
  simp only [fetch, ok_bind]
  rw [require_of active, ok_bind, if_neg (not_not.2 absent)]
  unfold reserveFresh
  rw [read, ok_bind, checked, ok_bind, require_of childExists, ok_bind,
    require_of fresh, ok_bind, inserted]
  exact ⟨_, _, rfl⟩

/-- A new group that has been reserved has taken identities that were not taken. -/
theorem newRows_of_reserve
    (ok : reserve ledger accountId groupId quantities child = .ok (view, next))
    (absent : ledger.group accountId groupId = []) :
    NewRows ledger accountId groupId quantities := by
  unfold reserve at ok
  simp only [require_bind_eq_ok, fetch_bind_eq_ok] at ok
  obtain ⟨-, -, account, -, -, ok⟩ := ok
  rw [if_neg (not_not.2 absent)] at ok
  unfold reserveFresh at ok
  obtain ⟨report, -, ok⟩ := bind_eq_ok.1 ok
  obtain ⟨_, -, ok⟩ := bind_eq_ok.1 ok
  simp only [require_bind_eq_ok] at ok
  obtain ⟨-, fresh, -⟩ := ok
  intro entry member row listed
  exact fresh _ (mem_map_of_mem ((quantities.perm_sorted.mem_iff).2 member)) row listed

/-- **`create_account` for a child** adds the account, and reserves its limits on the
parent if there are any. -/
theorem createAccount_child (absent : ledger.accounts.get? accountId = none) :
    createAccount ledger accountId limits taskRunId (some parentId) =
      (addChildAccount ledger accountId limits taskRunId parentId >>= fun opened =>
        if limits.amounts.entries ≠ [] then
          reserve opened parentId (childAllocation accountId) limits.amounts (some accountId) >>=
            fun funded => .ok (accountView (newAccount accountId limits taskRunId (some parentId)),
              funded.2)
        else .ok (accountView (newAccount accountId limits taskRunId (some parentId)), opened)) := by
  unfold createAccount addChildAccount
  rw [absent]
  simp only [bind_assoc]
  rfl

/-- What remains of a parent, as `create_account` reads it. -/
structure Fits (ledger : Ledger) (parentId : String) (limits : BudgetLimits) : Prop where
  parent : ∃ account, ledger.accounts.get? parentId = some account ∧ account.status = .active
  remains : ∀ report, snapshot ledger parentId = .ok report →
    ∀ entry ∈ limits.amounts.entries, entry.2 ≤ report.remaining.getD entry.1 0

theorem snapshot_of_found (found : ledger.accounts.get? accountId = some account) :
    ∃ report, snapshot ledger accountId = .ok report := by
  unfold snapshot
  rw [found]
  exact ⟨_, rfl⟩

theorem addChildAccount_of_fits (taskRunId : Option String) (absent : ledger.accounts.get? accountId = none)
    (fits : Fits ledger parentId limits) :
    ∃ accounts, ledger.accounts.insert? (newAccount accountId limits taskRunId (some parentId)) =
        some accounts ∧
      addChildAccount ledger accountId limits taskRunId parentId =
        .ok { ledger with accounts } := by
  obtain ⟨account, found, active⟩ := fits.parent
  obtain ⟨report, read⟩ := snapshot_of_found found
  have checked : checkRemaining ("child budget exceeds parent remaining " ++ ·) report.remaining
      limits.amounts.entries = .ok () := checkRemaining_eq_ok.2 (fits.remains report read)
  obtain ⟨accounts, inserted⟩ : ∃ accounts, ledger.accounts.insert?
      (newAccount accountId limits taskRunId (some parentId)) = some accounts :=
    Table.insert?_of_absent absent
  refine ⟨accounts, inserted, ?_⟩
  unfold addChildAccount
  rw [found]
  simp only [fetch, ok_bind]
  rw [require_of active, ok_bind, read, ok_bind, checked, ok_bind, inserted]
  rfl

/-- **The condition on a child**: its limits are positive and nothing is in the way of its
allocation; or it has none, and the allocation is there already. -/
inductive Allocatable (ledger : Ledger) (parentId accountId : String) (limits : BudgetLimits) :
    Prop
  | limited (given : limits.amounts.entries ≠ [])
      (positive : ∀ entry ∈ limits.amounts.entries, 0 < entry.2)
      (absent : ledger.group parentId (childAllocation accountId) = [])
      (unused : NewRows ledger parentId (childAllocation accountId) limits.amounts)
  | unlimited (none : limits.amounts.entries = [])
      (present : ledger.group parentId (childAllocation accountId) ≠ [])
      (unreleased : ∀ row ∈ ledger.group parentId (childAllocation accountId),
        row.status ≠ .released)

end Opening

/-! ## Closing -/

/-- **A child that can be closed**: it is closed already, or its allocation is there and
either reserved for all of its limits or, where it has none, not released. -/
structure Closable (ledger : Ledger) (parentId accountId : String) : Prop where
  child : ∃ child, ledger.accounts.get? accountId = some child ∧
    child.parentAccountId = some parentId ∧
    (child.status = .closed ∨ (child.status = .active ∧
      ledger.group parentId (childAllocation accountId) ≠ [] ∧
      (∀ resource limit, child.limits.get? resource = some limit →
        ∃ row ∈ ledger.group parentId (childAllocation accountId), row.resourceType = resource) ∧
      ((∀ row ∈ ledger.group parentId (childAllocation accountId), row.status = .reserved) ∨
        (child.limits.entries = [] ∧
          ∀ row ∈ ledger.group parentId (childAllocation accountId), row.status = .committed))))

section Closing

variable {ledger next : Ledger} {accountId parentId : String}

/-- A child consumes only what its limits name. -/
theorem limited_of_consumed {child : BudgetAccountModel} (kept : WellKept ledger)
    (found : ledger.accounts.get? accountId = some child)
    (consumes : resource ∈ (ledger.consumedBy accountId).keys) :
    ∃ limit, child.limits.get? resource = some limit := by
  obtain ⟨row, member, same⟩ := mem_keys_consumedBy.1 consumes
  obtain ⟨listed, holds⟩ := mem_filter.1 member
  rw [decide_eq_true_eq] at holds
  obtain ⟨account, limit, accountFound, limited⟩ := (kept.row row listed).limited
  rw [holds.1, found] at accountFound
  cases accountFound
  exact ⟨limit, same ▸ limited⟩

/-- A group that is committed answers a commit of nothing as a replay. -/
theorem commit_nothing (nothing : consumed.entries = [])
    (present : ledger.group accountId groupId ≠ [])
    (committed : ∀ row ∈ ledger.group accountId groupId, row.status = .committed) :
    ∃ view next, commit ledger accountId groupId consumed allowOverrun = .ok (view, next) := by
  obtain ⟨row, member⟩ := exists_mem_of_ne_nil _ present
  obtain ⟨models, locked⟩ : ∃ models, lockGroup ledger accountId groupId = .ok models :=
    ⟨_, lockGroup_eq_ok.2 ⟨ne_nil_of_mem ((mem_insertionSort _).2 member), rfl⟩⟩
  have known : ∀ resource ∈ consumed.keys, ∃ model ∈ models, model.resourceType = resource := by
    intro resource key
    rw [Dict.keys, nothing] at key
    cases key
  rw [commit_of_locked locked known]
  cases models with
  | nil => exact absurd rfl (lockGroup_eq_ok.1 locked).1
  | cons first rest =>
      have settled : ∀ row ∈ first :: rest, row.status = .committed :=
        fun row inside => committed row ((mem_lockGroup locked).1 inside)
      have unreserved : first.status ≠ .reserved := by
        rw [settled first mem_cons_self]
        decide
      have repeated : isCommitReplay (first :: rest) consumed = true := by
        unfold isCommitReplay
        rw [nothing]
        simpa using ⟨settled first mem_cons_self,
          fun row inside => settled row (mem_cons_of_mem _ inside)⟩
      rw [commitLoop, if_pos unreserved, nil_append, if_pos repeated]
      exact ⟨_, _, rfl⟩

/-- **A child that can be closed is closed.** -/
theorem Closable.closes (closable : Closable ledger parentId accountId) (kept : WellKept ledger)
    (rows : RowsKept ledger) :
    ∃ view next, closeChildAccount ledger accountId = .ok (view, next) := by
  obtain ⟨child, found, ofParent, closed | ⟨active, present, covered, settles⟩⟩ := closable.child
  · unfold closeChildAccount
    rw [found]
    simp only [fetch, ok_bind, ofParent]
    rw [if_pos closed]
    exact ⟨_, _, rfl⟩
  · obtain ⟨view, settled, committed⟩ : ∃ view settled, commit ledger parentId
        (childAllocation accountId) (ledger.consumedBy accountId) true = .ok (view, settled) := by
      rcases settles with reserved | ⟨unlimited, committed⟩
      · obtain ⟨row, member⟩ := exists_mem_of_ne_nil _ present
        refine rows.commit_of_reserved ⟨row, member, reserved row member⟩ ?_ ?_
        · intro resource consumes
          obtain ⟨limit, limited⟩ := limited_of_consumed kept found consumes
          exact covered resource limit limited
        · intro other _
          rw [getD_consumedBy]
          refine ⟨rows.committedTotal_nonneg accountId other.resourceType, fun refused => ?_⟩
          cases refused
      · refine commit_nothing ?_ present committed
        rw [eq_nil_iff_forall_not_mem]
        intro entry member
        obtain ⟨limit, limited⟩ := limited_of_consumed kept found
          (mem_map_of_mem (f := Prod.fst) member)
        rw [Dict.get?_eq_some, unlimited] at limited
        cases limited
    obtain ⟨report, read⟩ := snapshot_of_found found
    obtain ⟨-, -, reported, -⟩ := snapshot_ok read
    unfold closeChildAccount
    rw [found]
    simp only [fetch, ok_bind, ofParent]
    rw [if_neg (by rw [active]; decide), read, ok_bind, reported]
    rw [Ledger.consumedBy] at committed
    rw [committed]
    exact ⟨_, _, rfl⟩

end Closing

/-! ## In between -/

/-- The call does not settle or release the allocation of the child by its name. -/
def Spares (parentId accountId : String) : BudgetOp → Prop
  | .commit other groupId _ _ | .release other groupId =>
      ¬ (other = parentId ∧ groupId = childAllocation accountId)
  | .createAccount .. | .reserve .. | .closeChildAccount _ => True

section Between

variable {ledger next : Ledger} {accountId parentId : String}

/-- Rewriting one group leaves the others. -/
theorem group_of_rewritten {writes : BudgetReservationModel → BudgetReservationModel → Prop}
    (identity : ∀ old new, writes old new →
      new.accountId = old.accountId ∧ new.reservationGroupId = old.reservationGroupId)
    (pointwise : Forall₂ (fun old new =>
        (old ∈ ledger.group otherId groupId ∧ writes old new) ∨
        (old ∉ ledger.group otherId groupId ∧ new = old))
      ledger.reservations.rows next.reservations.rows)
    (apart : ¬ (otherId = ownId ∧ groupId = ownGroup)) :
    next.group ownId ownGroup = ledger.group ownId ownGroup := by
  unfold Ledger.group select
  generalize inside : ledger.group otherId groupId = others at pointwise
  generalize ledger.reservations.rows = rows, next.reservations.rows = written at pointwise
  have members : ∀ row ∈ others, row.accountId = otherId ∧ row.reservationGroupId = groupId := by
    intro row member
    rw [← inside] at member
    exact (mem_group.1 member).2
  induction pointwise with
  | nil => rfl
  | cons related _ ih =>
      rcases related with ⟨member, written⟩ | ⟨-, rfl⟩
      · obtain ⟨sameAccount, sameGroup⟩ := identity _ _ written
        obtain ⟨ofAccount, ofGroup⟩ := members _ member
        have outside : ¬ (otherId = ownId ∧ groupId = ownGroup) := apart
        rw [filter_cons_of_neg, filter_cons_of_neg, ih]
        · rw [decide_eq_true_eq, ofAccount, ofGroup]
          exact outside
        · rw [decide_eq_true_eq, sameAccount, sameGroup, ofAccount, ofGroup]
          exact outside
      · rw [filter_cons, filter_cons, ih]

theorem childAllocation_injective {first second : String}
    (same : childAllocation first = childAllocation second) : first = second := by
  unfold childAllocation at same
  have lists := congrArg String.toList same
  rw [toList_append, toList_append, List.append_cancel_left_eq] at lists
  exact toList_inj.1 lists

/-- A child that can be closed still can where its account and its allocation are the
same. -/
theorem Closable.of_same (closable : Closable ledger parentId accountId)
    (account : ∀ child, ledger.accounts.get? accountId = some child →
      next.accounts.get? accountId = some child)
    (group : ledger.group parentId (childAllocation accountId) ≠ [] →
      next.group parentId (childAllocation accountId) =
        ledger.group parentId (childAllocation accountId)) : Closable next parentId accountId where
  child := by
    obtain ⟨child, found, ofParent, outcome⟩ := closable.child
    refine ⟨child, account child found, ofParent, ?_⟩
    rcases outcome with closed | ⟨active, present, rest⟩
    · exact .inl closed
    · have same := group present
      rw [← same] at present rest
      exact .inr ⟨active, present, rest⟩

/-- A reservation leaves the groups that are there. -/
theorem group_reserve {quantities : Dict String ℚ} {child : Option String}
    (ok : reserve ledger otherId groupId quantities child = .ok (view, next))
    (present : ledger.group ownId ownGroup ≠ []) :
    next.group ownId ownGroup = ledger.group ownId ownGroup := by
  rcases (reserve_ok ok).2 with ⟨rfl, -, -⟩ | ⟨absent, -, -, rows, -, -⟩
  · rfl
  · unfold Ledger.group select
    rw [rows, filter_append, List.append_right_eq_self, filter_eq_nil_iff]
    intro row member holds
    obtain ⟨entry, -, rfl⟩ := mem_map.1 member
    rw [decide_eq_true_eq] at holds
    have sameAccount : otherId = ownId := holds.1
    have sameGroup : groupId = ownGroup := holds.2
    rw [sameAccount, sameGroup] at absent
    exact present absent

theorem Closable.commit (closable : Closable ledger parentId accountId)
    (spares : ¬ (otherId = parentId ∧ groupId = childAllocation accountId))
    (ok : commit ledger otherId groupId consumed allowOverrun = .ok (view, next)) :
    Closable next parentId accountId := by
  obtain ⟨accounts, -, -, pointwise⟩ := commit_ok ok
  refine closable.of_same (fun child found => by rw [accounts]; exact found) fun _ => ?_
  refine group_of_rewritten ?_ pointwise spares
  rintro old new (⟨middle, ⟨-, -, -, rfl⟩, rfl⟩ | ⟨-, rfl⟩)
  · exact ⟨rfl, rfl⟩
  · exact ⟨rfl, rfl⟩

/-- **Every call that spares the allocation** leaves a child that can be closed. -/
theorem Closable.governor {op : BudgetOp} {answer : BudgetAnswer}
    (closable : Closable ledger parentId accountId) (spares : Spares parentId accountId op)
    (ok : governor op ledger = .ok (answer, next)) : Closable next parentId accountId := by
  cases governor_called ok with
  | createAccount called =>
      rcases createAccount_ok called with rfl | ⟨accounts, fresh, inserted, -, outcome⟩
      · exact closable
      have opened : Closable { ledger with accounts } parentId accountId :=
        closable.of_same (fun child found => extends_insert fresh inserted accountId child found)
          fun _ => rfl
      rcases outcome with ⟨rfl, -⟩ | ⟨parent, group, -, reserved⟩
      · exact opened
      · refine opened.of_same (fun child found => ?_) fun present => group_reserve reserved present
        rw [reserve_accounts reserved]
        exact found
  | @reserve _ _ _ child _ called =>
      refine closable.of_same (fun child found => ?_) fun present => group_reserve called present
      rw [reserve_accounts called]
      exact found
  | commit called =>
      exact closable.commit spares called
  | release called =>
      rcases release_ok called with ⟨rfl, -⟩ | ⟨accounts, -, -, pointwise⟩
      · exact closable
      · refine closable.of_same (fun child found => by rw [accounts]; exact found) fun _ => ?_
        refine group_of_rewritten ?_ pointwise spares
        rintro old new rfl
        exact ⟨rfl, rfl⟩
  | @closeChildAccount otherId _ called =>
      obtain ⟨other, otherParent, otherFound, ofOther, ⟨-, rfl⟩ | ⟨-, group, settled, committed,
        rfl⟩⟩ := closeChildAccount_ok called
      · exact closable
      by_cases same : otherId = accountId
      · -- the child itself is closed
        subst same
        obtain ⟨child, found, ofParent, -⟩ := closable.child
        refine ⟨⟨{ child with status := .closed }, ?_, ofParent, .inl rfl⟩⟩
        rw [get?_closeAccount, (commit_ok committed).1, found]
        simp [key_of_get? found]
      · have after : Closable settled parentId accountId :=
          closable.commit (fun both => same (childAllocation_injective both.2)) committed
        refine after.of_same (fun child found => ?_) fun _ => rfl
        have named := key_of_get? found
        rw [get?_closeAccount, found, map_some, if_neg]
        rw [named]
        exact fun equal => same equal.symm

end Between

/-! ## A child from its opening to its close -/

section Life

variable {ledger next : Ledger} {accountId parentId : String} {taskRunId : Option String}
variable {limits : BudgetLimits}

/-- The child can be opened, and closed whatever happens in between. -/
def OpensAndCloses (ledger : Ledger) (accountId : String) (limits : BudgetLimits)
    (taskRunId : Option String) (parentId : String) : Prop :=
  ∃ view next, createAccount ledger accountId limits taskRunId (some parentId) =
      .ok (view, next) ∧
    ∀ later : List BudgetOp, (∀ op ∈ later, Spares parentId accountId op) →
      ∃ closed last, closeChildAccount (run governor next later) accountId = .ok (closed, last)

/-- What is read of a parent does not depend on the new account. -/
theorem snapshot_opened {accounts : Table BudgetAccountModel String (·.accountId)}
    (same : accounts.get? parentId = ledger.accounts.get? parentId) :
    snapshot { ledger with accounts } parentId = snapshot ledger parentId := by
  unfold snapshot
  rw [same]
  rfl

theorem mem_amounts {limit : Decimal}
    (limited : (serializeLimits limits).get? resource = some limit) :
    (resource, limit.toRat) ∈ limits.amounts.entries := by
  rw [← Dict.get?_eq_some, BudgetLimits.amounts, Dict.get?_mapEntries,
    get?_serializeLimits.1 limited]
  rfl

theorem get?_newAccount {accounts : Table BudgetAccountModel String (·.accountId)}
    {parent : Option String}
    (inserted : ledger.accounts.insert? (newAccount accountId limits taskRunId parent) =
      some accounts) :
    accounts.get? accountId = some (newAccount accountId limits taskRunId parent) := by
  have named : (newAccount accountId limits taskRunId parent).accountId = accountId := rfl
  rw [get?_insert? inserted, if_pos named]

theorem amounts_eq_nil (none : limits.quantities.entries = []) : limits.amounts.entries = [] := by
  show limits.quantities.entries.map _ = []
  rw [none, map_nil]

/-- **A child whose limits are allocatable is opened**, and can be closed. -/
theorem opens_of_allocatable (taskRunId : Option String) (rows : RowsKept ledger)
    (absent : ledger.accounts.get? accountId = none) (fits : Fits ledger parentId limits)
    (allocatable : Allocatable ledger parentId accountId limits) :
    ∃ view next, createAccount ledger accountId limits taskRunId (some parentId) =
      .ok (view, next) ∧ Closable next parentId accountId := by
  obtain ⟨accounts, inserted, added⟩ :=
    addChildAccount_of_fits taskRunId absent fits
  have found := get?_newAccount inserted
  obtain ⟨parent, parentFound, parentActive⟩ := fits.parent
  have openedParent : accounts.get? parentId = some parent :=
    extends_insert absent inserted parentId parent parentFound
  rw [createAccount_child absent, added, ok_bind]
  cases allocatable with
  | limited given positive unreserved unused =>
      obtain ⟨report, read⟩ := snapshot_of_found parentFound
      have readOpened : snapshot { ledger with accounts } parentId = .ok report := by
        rw [snapshot_opened (openedParent.trans parentFound.symm)]
        exact read
      have childFound : ∀ other ∈ some accountId, (accounts.get? other).isSome := by
        rintro other ⟨rfl⟩
        rw [found]
        rfl
      obtain ⟨view, next, reserved⟩ : ∃ view next, reserve { ledger with accounts } parentId
          (childAllocation accountId) limits.amounts (some accountId) = .ok (view, next) :=
        reserve_of_fits given positive openedParent parentActive unreserved readOpened
          (fits.remains report read) childFound unused
      have opened : RowsKept { ledger with accounts } := rows.of_rows rfl
      obtain ⟨present, ⟨held, -⟩ | ⟨-, allReserved⟩⟩ := group_of_reserve opened reserved
      · exact absurd unreserved held
      rw [if_pos given, reserved, ok_bind]
      refine ⟨_, next, rfl, ⟨⟨newAccount accountId limits taskRunId (some parentId), ?_, rfl,
        .inr ⟨rfl, ?_, ?_, .inl allReserved⟩⟩⟩⟩
      · rw [reserve_accounts reserved]
        exact found
      · obtain ⟨entry, member⟩ := exists_mem_of_ne_nil _ given
        obtain ⟨row, inside, -⟩ := present entry member
        exact ne_nil_of_mem inside
      · intro resource limit limited
        obtain ⟨row, inside, named, -⟩ := present _ (mem_amounts limited)
        exact ⟨row, inside, named⟩
  | unlimited none present unreleased =>
      rw [if_neg (not_not.2 none)]
      refine ⟨_, _, rfl, ⟨⟨newAccount accountId limits taskRunId (some parentId), found, rfl,
        .inr ⟨rfl, present, ?_, ?_⟩⟩⟩⟩
      · intro resource limit limited
        have member := mem_amounts limited
        rw [none] at member
        cases member
      · obtain ⟨first, member⟩ := exists_mem_of_ne_nil _ present
        have alike : ∀ row ∈ ledger.group parentId (childAllocation accountId),
            row.status = first.status := fun row inside => rows.status_group inside member
        cases status : first.status with
        | reserved => exact .inl fun row inside => (alike row inside).trans status
        | released => exact absurd status (unreleased first member)
        | committed =>
            refine .inr ⟨?_, fun row inside => (alike row inside).trans status⟩
            rw [eq_nil_iff_forall_not_mem]
            intro entry inside
            have limited := mem_amounts (Dict.get?_eq_some.2 inside)
            rw [none] at limited
            cases limited

/-- **A child that is opened and can be closed at once** has allocatable limits. -/
theorem allocatable_of_opens (kept : WellKept ledger)
    (absent : ledger.accounts.get? accountId = none) {view : BudgetAccountView}
    (opened : createAccount ledger accountId limits taskRunId (some parentId) = .ok (view, next))
    (closes : ∃ closed last, closeChildAccount next accountId = .ok (closed, last)) :
    Allocatable ledger parentId accountId limits := by
  rcases createAccount_ok opened with rfl | ⟨accounts, -, inserted, -, outcome⟩
  · -- the account was not there
    obtain ⟨closed, last, ok⟩ := closes
    obtain ⟨child, -, found, -⟩ := closeChildAccount_ok ok
    rw [absent] at found
    cases found
  have found := get?_newAccount inserted
  rcases outcome with ⟨rfl, noParent | none⟩ | ⟨parent, group, ofParent, reserved⟩
  · cases noParent
  · obtain ⟨closed, last, ok⟩ := closes
    obtain ⟨child, parent, childFound, ofParent, ⟨isClosed, -⟩ | ⟨-, group, settled, committed, -⟩⟩ :=
      closeChildAccount_ok ok
    · rw [found] at childFound
      cases childFound
      cases isClosed
    rw [found] at childFound
    cases childFound
    cases ofParent
    obtain ⟨-, present, -, pointwise⟩ := commit_ok committed
    refine .unlimited (amounts_eq_nil none) present ?_
    intro row member status
    obtain ⟨new, -, ⟨-, writes⟩ | ⟨outside, -⟩⟩ :=
      exists_right_of_mem pointwise (mem_group.1 member).1
    · rcases writes with ⟨middle, ⟨reserved, -⟩, -⟩ | ⟨⟨committed, -⟩, -⟩
      · rw [status] at reserved
        cases reserved
      · rw [status] at committed
        cases committed
    · exact outside member
  · cases ofParent
    rcases (reserve_ok reserved).2 with ⟨-, present, ofChild⟩ | ⟨unreserved, given, -, -, -, fits⟩
    · -- the foreign key of a row that names the child needs the account
      obtain ⟨row, member⟩ := exists_mem_of_ne_nil _ present
      have exists_ := (kept.row row (mem_group.1 member).1).childExists accountId
        (ofChild row member)
      rw [absent] at exists_
      cases exists_
    · have unused := newRows_of_reserve reserved unreserved
      exact .limited given (fun entry member => (fits entry member).1) unreserved unused

end Life

/-- A child of one positive limit. -/
def childLimits : BudgetLimits where
  quantities := ⟨[("tool_calls", ⟨false, 2, 0⟩)], by decide⟩
  resource_nonblank := by decide
  quantity_nonneg := by decide +kernel

/-- A child that is to have the resource, but none of it. -/
def zeroLimits : BudgetLimits where
  quantities := ⟨[("tool_calls", ⟨false, 0, 0⟩)], by decide⟩
  resource_nonblank := by decide
  quantity_nonneg := by decide +kernel

/-- A child without limits. -/
def noLimits : BudgetLimits where
  quantities := ⟨[], nodup_nil⟩
  resource_nonblank := by decide
  quantity_nonneg := by decide +kernel

/-- The parent. -/
def rootOpened : List BudgetOp := [.createAccount "root" callLimits none none]

/-- Limits within what remains of the parent fit. -/
theorem fits_rootOpened {limits : BudgetLimits}
    (remains : ∀ entry ∈ limits.amounts.entries,
      (snapshot (run governor Ledger.empty rootOpened) "root").toOption.all
        (fun report => decide (entry.2 ≤ report.remaining.getD entry.1 0)) = true) :
    Fits (run governor Ledger.empty rootOpened) "root" limits := by
  constructor
  · have active : ((run governor Ledger.empty rootOpened).accounts.get? "root").any
        (fun account => account.status == .active) = true := by decide +kernel
    obtain ⟨account, found, same⟩ := (Option.any_eq_true _ _).1 active
    exact ⟨account, found, beq_iff_eq.1 same⟩
  · intro report read entry member
    have within := remains entry member
    rw [read] at within
    exact decide_eq_true_eq.mp within

end SecFusion.Budget
