import SecFusion.Budget.Sessions

/-!
# Replays of the ledger

`reserve` and `commit` answer a repeated request as a replay.  `reserve` compares what the
group was reserved with, but not its status: a group that has been released is answered
like one that is held.  `commit` compares the amounts that the caller names, and takes an
amount that is not named for any, where a first commit takes it for zero.

Both answers are truthful exactly when the request does not meet such a group
(`replays_are_truthful`).
-/

namespace SecFusion.Budget

open Foundations

/-- **The quantities are held or charged** in a group: each has its row, and no row has
been released. -/
structure Held (ledger : Ledger) (accountId groupId : String) (quantities : Dict String ℚ) :
    Prop where
  present : ∀ entry ∈ quantities.entries, ∃ row ∈ ledger.group accountId groupId,
    row.resourceType = entry.1 ∧ row.amountReserved = numericScale entry.2
  unreleased : ∀ row ∈ ledger.group accountId groupId,
    row.status = .reserved ∨ row.status = .committed

/-- **The group is charged as consumed**, what is not named being zero. -/
def ChargedAs (ledger : Ledger) (accountId groupId : String) (consumed : Dict String ℚ) : Prop :=
  ∀ row ∈ ledger.group accountId groupId,
    row.status = .committed ∧ row.amountCommitted = consumed.getD row.resourceType 0

section Replays

variable {ledger next : Ledger} {accountId groupId : String} {view : BudgetReservationGroup}
variable {quantities consumed : Dict String ℚ} {child : Option String} {allowOverrun : Bool}

/-- **What `reserve` leaves in its group**: rows of the quantities, as they were if the
group was there. -/
theorem group_of_reserve (kept : RowsKept ledger)
    (ok : reserve ledger accountId groupId quantities child = .ok (view, next)) :
    (∀ entry ∈ quantities.entries, ∃ row ∈ next.group accountId groupId,
      row.resourceType = entry.1 ∧ row.amountReserved = numericScale entry.2) ∧
    ((ledger.group accountId groupId ≠ [] ∧ next = ledger) ∨
      (ledger.group accountId groupId = [] ∧
        ∀ row ∈ next.group accountId groupId, row.status = .reserved)) := by
  have called := ok
  unfold reserve at called
  simp only [require_bind_eq_ok, fetch_bind_eq_ok] at called
  obtain ⟨-, -, account, -, -, called⟩ := called
  split at called
  next present =>
    unfold reserveReplay at called
    simp only [require_bind_eq_ok, pure_eq_ok, mk.injEq] at called
    obtain ⟨⟨same, -⟩, -, rfl⟩ := called
    refine ⟨fun entry member => ?_, .inl ⟨present, rfl⟩⟩
    -- the group was reserved with the same quantities
    have recorded := Dict.get?_eq_some.2 (same.2 entry member)
    obtain ⟨row, inside, named⟩ := Dict.mem_keys_ofRows.1 (Dict.mem_keys.2 ⟨_, recorded⟩)
    have amount : (Dict.ofRows (·.resourceType) (·.amountReserved)
        (ledger.group accountId groupId)).get? row.resourceType = some row.amountReserved := by
      refine Dict.get?_ofRows inside fun other found equal => ?_
      rw [inj_on_of_nodup_map (nodup_group ledger accountId groupId) found inside equal]
    rw [named] at amount
    have reserved : row.amountReserved = entry.2 := mem_unique amount recorded
    refine ⟨row, inside, named, ?_⟩
    rw [← reserved]
    exact (congrArg (·.amountReserved) (kept.onScale row (mem_group.1 inside).1)).symm
  next absent =>
    obtain ⟨-, ⟨-, nonempty, -⟩ | ⟨-, -, -, rows, -, -⟩⟩ := reserve_ok ok
    · exact absurd nonempty absent
    have empty := not_not.1 absent
    refine ⟨fun entry member => ?_, .inr ⟨empty, fun row member => ?_⟩⟩
    · refine ⟨(newReservation accountId groupId child entry).flushed, ?_, rfl, rfl⟩
      refine mem_group.2 ⟨?_, rfl, rfl⟩
      rw [rows, mem_append, mem_map]
      exact .inr ⟨entry, (quantities.perm_sorted.mem_iff).2 member, rfl⟩
    · obtain ⟨found, ofAccount, ofGroup⟩ := mem_group.1 member
      rw [rows, mem_append, mem_map] at found
      rcases found with old | ⟨entry, -, rfl⟩
      · have inside := mem_group.2 ⟨old, ofAccount, ofGroup⟩
        rw [empty] at inside
        cases inside
      · rfl

/-- **A reservation that answers is held** if and only if no row of its group had been
released. -/
theorem held_iff (kept : RowsKept ledger)
    (ok : reserve ledger accountId groupId quantities child = .ok (view, next)) :
    Held next accountId groupId quantities ↔
      ∀ row ∈ ledger.group accountId groupId, row.status ≠ .released := by
  obtain ⟨present, ⟨-, rfl⟩ | ⟨absent, reserved⟩⟩ := group_of_reserve kept ok
  · constructor
    · intro held row member
      rcases held.unreleased row member with status | status
      · rw [status]
        decide
      · rw [status]
        decide
    · intro unreleased
      refine ⟨present, fun row member => ?_⟩
      have status := unreleased row member
      revert status
      cases row.status with
      | reserved => exact fun _ => .inl rfl
      | committed => exact fun _ => .inr rfl
      | released => exact fun status => absurd rfl status
  · constructor
    · intro _ row member
      rw [absent] at member
      cases member
    · exact fun _ => ⟨present, fun row member => .inl (reserved row member)⟩

/-- **A commit that is a replay** has met a group that is committed, with the amounts that
its caller names, and leaves it. -/
theorem commit_replay (kept : RowsKept ledger)
    (ok : commit ledger accountId groupId consumed allowOverrun = .ok (view, next))
    (replay : view.replay = true) :
    next.group accountId groupId = ledger.group accountId groupId ∧
      ∀ row ∈ ledger.group accountId groupId, Repeats consumed row := by
  have left := commitLeft_of_ok ok
  unfold commit at ok
  obtain ⟨models, locked, ok⟩ := bind_eq_ok.1 ok
  obtain ⟨known, ok⟩ := require_bind_eq_ok.1 ok
  obtain ⟨⟨settled, replayed⟩, looped, ok⟩ := bind_eq_ok.1 ok
  cases ok
  obtain rfl : replayed = true := replay
  cases models with
  | nil => exact absurd rfl (lockGroup_eq_ok.1 locked).1
  | cons first rest =>
      by_cases reserved : first.status = .reserved
      · -- then all rows are reserved, and the loop answers no replay
        have all := kept.reserved_locked locked mem_cons_self reserved
        by_cases accept : ∀ row ∈ first :: rest, Accepts consumed allowOverrun row
        · rw [commitLoop_of_accepts accept] at looped
          cases looped
        · push Not at accept
          obtain ⟨raised, fails⟩ : ∃ raised, commitLoop consumed allowOverrun []
              (first :: rest) = .error raised := commitLoop_of_refused all accept
          rw [fails] at looped
          cases looped
      · have refused : ¬ Accepts consumed allowOverrun first := fun accepts => reserved accepts.1
        have same := commitLeft_of_refused kept locked refused
        rw [left] at same
        refine ⟨by rw [Ledger.group, Ledger.group, select, select, same], ?_⟩
        rw [commitLoop, if_pos reserved] at looped
        split at looped
        next repeated =>
          have repeats := repeats_of_isCommitReplay (by simpa using nodup_lockGroup locked) repeated
          exact fun row member => repeats row ((mem_lockGroup locked).2 member)
        next => cases looped

/-- **A replayed commit is charged as its caller says** if and only if nothing is committed
of a resource that the caller does not name. -/
theorem chargedAs_iff (kept : RowsKept ledger)
    (ok : commit ledger accountId groupId consumed allowOverrun = .ok (view, next))
    (replay : view.replay = true) :
    ChargedAs next accountId groupId consumed ↔
      ∀ row ∈ ledger.group accountId groupId, row.resourceType ∉ consumed.keys →
        row.amountCommitted = 0 := by
  obtain ⟨same, repeats⟩ := commit_replay kept ok replay
  unfold ChargedAs
  rw [same]
  constructor
  · intro charged row member unnamed
    rw [(charged row member).2, Dict.getD, Dict.get?_eq_none.2 unnamed]
    rfl
  · intro unnamed row member
    obtain ⟨committed, recorded⟩ := repeats row member
    refine ⟨committed, ?_⟩
    by_cases named : row.resourceType ∈ consumed.keys
    · obtain ⟨amount, found⟩ := Dict.mem_keys.1 named
      rw [recorded amount found, Dict.getD_of_get? found]
    · rw [unnamed row member named, Dict.getD, Dict.get?_eq_none.2 named]
      rfl

end Replays

/-- **Replays are truthful** in every ledger that calls have led to: a reservation that
answers is held if and only if its group has not been released before, and a commit that is
a replay was given what is charged if and only if it names all of it. -/
theorem replays_are_truthful (ops : List BudgetOp) :
    (∀ accountId groupId quantities child view next,
      reserve (run governor Ledger.empty ops) accountId groupId quantities child =
          .ok (view, next) →
        (Held next accountId groupId quantities ↔
          ∀ row ∈ (run governor Ledger.empty ops).group accountId groupId,
            row.status ≠ .released)) ∧
    ∀ accountId groupId consumed allowOverrun view next,
      commit (run governor Ledger.empty ops) accountId groupId consumed allowOverrun =
          .ok (view, next) → view.replay = true →
        (ChargedAs next accountId groupId consumed ↔
          ∀ row ∈ (run governor Ledger.empty ops).group accountId groupId,
            row.resourceType ∉ consumed.keys → row.amountCommitted = 0) := by
  have kept := run_rowsKept ops
  constructor
  · intro accountId groupId quantities child view next answered
    exact held_iff kept answered
  · intro accountId groupId consumed allowOverrun view next answered replay
    exact chargedAs_iff kept answered replay

/-! ## Two replays -/

theorem nodup_actionQuantities :
    ([("external_cost", (4 : ℚ)), ("tool_calls", 1)].map Prod.fst).Nodup := by decide

def actionQuantities : Dict String ℚ :=
  ⟨[("external_cost", 4), ("tool_calls", 1)], nodup_actionQuantities⟩

def actionConsumed : Dict String ℚ := ⟨[("external_cost", 2), ("tool_calls", 1)], by decide⟩

/-- An account with a group of two resources. -/
def actionReserved : List BudgetOp :=
  [.createAccount "root" callLimits none none, .reserve "root" "action" actionQuantities none]

/-- The group is committed, all resources being named. -/
def actionCommitted : List BudgetOp :=
  actionReserved ++ [.commit "root" "action" actionConsumed false]

/-- A commit that is repeated as it was. -/
theorem replays_are_truthful_actionCommitted :
    ∃ view next, commit (run governor Ledger.empty actionCommitted) "root" "action" actionConsumed
        false = .ok (view, next) ∧ view.replay = true ∧
      ChargedAs next "root" "action" actionConsumed := by
  have replays : (commit (run governor Ledger.empty actionCommitted) "root" "action"
      actionConsumed false).toOption.map (·.1.replay) = some true := by decide +kernel
  obtain ⟨⟨view, next⟩, found, replay⟩ := map_eq_some_iff.1 replays
  have answered := toOption_eq_some.1 found
  refine ⟨view, next, answered, replay, ?_⟩
  exact ((replays_are_truthful actionCommitted).2 "root" "action" actionConsumed false view next
    answered replay).2 (by decide +kernel)

/-- The commit is repeated with one resource only. -/
def partlyConsumed : Dict String ℚ := ⟨[("external_cost", 2)], by decide⟩

/-- **A released group is answered as reserved**, and a commit that names a part of what is
charged as a replay. -/
theorem replays_pass_over :
    (¬ ∀ (ops : List BudgetOp) accountId groupId quantities child view next,
      reserve (run governor Ledger.empty ops) accountId groupId quantities child =
        .ok (view, next) → Held next accountId groupId quantities) ∧
    ¬ ∀ (ops : List BudgetOp) accountId groupId consumed allowOverrun view next,
      commit (run governor Ledger.empty ops) accountId groupId consumed allowOverrun =
        .ok (view, next) → view.replay = true → ChargedAs next accountId groupId consumed := by
  constructor
  · intro held
    have answers : (reserve (run governor Ledger.empty (actionReserved ++
        [.release "root" "action"])) "root" "action" actionQuantities none).toOption.isSome =
          true := by decide +kernel
    obtain ⟨⟨view, next⟩, found⟩ := isSome_iff_exists.1 answers
    have answered := toOption_eq_some.1 found
    have unreleased := (held_iff (run_rowsKept _) answered).1
      (held _ "root" "action" _ none view next answered)
    exact absurd unreleased (by decide +kernel)
  · intro charged
    have replays : (commit (run governor Ledger.empty actionCommitted) "root" "action"
        partlyConsumed false).toOption.map (·.1.replay) = some true := by decide +kernel
    obtain ⟨⟨view, next⟩, found, replay⟩ := map_eq_some_iff.1 replays
    have answered := toOption_eq_some.1 found
    have named := (chargedAs_iff (run_rowsKept _) answered replay).1
      (charged _ "root" "action" _ false view next answered replay)
    exact absurd named (by decide +kernel)

end SecFusion.Budget
