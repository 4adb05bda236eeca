import SecFusion.Monitoring.RunService
import Mathlib.Data.List.Chain

/-!
# The reserve of a provider's quota

`_adaptive_rate_limit_due_at` spreads the runs of a source over the time that is left
until its provider's quota is reset, and holds the next run back until after the reset
when one more like the last would eat into the reserve.  What it answers is at least
`min_interval_seconds` away, and along every sequence of runs that wait for it the quota
stays above the reserve until the reset.

The clamped sums are unbounded while an instant is not, so a reset that is too far away,
such as one given in milliseconds, is not an instant the function can answer, and it
raises instead.
-/

namespace SecFusion.Monitoring

open Foundations Sources

/-! ## The quantities of one decision -/

/-- `reserve_requests`. -/
def reserveRequests (policy : JsonObject) : ℤ :=
  orElse (nonnegativeInt (policy.get? "reserve_requests")) 0

/-- `min_interval_seconds`. -/
def minIntervalSeconds (policy : JsonObject) : ℤ :=
  orElse (positiveInt (policy.get? "min_interval_seconds")) 60

/-- `reset_safety_seconds`. -/
def resetSafetySeconds (policy : JsonObject) : ℤ :=
  orElse (nonnegativeInt (policy.get? "reset_safety_seconds")) 5

/-- `seconds_to_reset`. -/
def secondsToReset (resetEpoch instant : ℤ) : ℤ := max 0 (resetEpoch - timestamp instant)

/-- `available`. -/
def availableRequests (policy : JsonObject) (remaining : ℤ) : ℤ :=
  max 0 (remaining - reserveRequests policy)

/-- What a provider reports of its quota after a run. -/
structure QuotaReport where
  (remaining resetEpoch requestsMade : ℤ)
  deriving DecidableEq

/-- The report in the state of a rate limit, if all of it is usable. -/
def quotaReport (rateState : JsonObject) : Option QuotaReport :=
  match nonnegativeInt (rateState.get? "remaining"), nonnegativeInt (rateState.get? "reset_epoch"),
    positiveInt (rateState.get? "requests_made") with
  | some remaining, some resetEpoch, some requestsMade =>
      some { remaining, resetEpoch, requestsMade }
  | _, _, _ => none

/-- The share of the time to the reset that each of the runs before it gets. -/
def spreadSeconds (policy : JsonObject) (report : QuotaReport) (instant : ℤ) : ℤ :=
  if secondsToReset report.resetEpoch instant = 0 then minIntervalSeconds policy
  else ceilDiv (secondsToReset report.resetEpoch instant)
    (max 1 (availableRequests policy report.remaining / report.requestsMade))

/-- The seconds that a report asks the next run to wait. -/
def secondsToWait (policy : JsonObject) (report : QuotaReport) (instant : ℤ) : ℤ :=
  max (minIntervalSeconds policy)
    (if availableRequests policy report.remaining < report.requestsMade then
      secondsToReset report.resetEpoch instant + resetSafetySeconds policy
    else spreadSeconds policy report instant)

theorem adaptiveRateLimitDueAt_eq (policy rateState : JsonObject) (instant : ℤ) :
    adaptiveRateLimitDueAt policy rateState instant =
      if policy.get? "adaptive_schedule" = some (.bool true) then
        match quotaReport rateState with
        | some report => (plusSeconds instant (secondsToWait policy report instant)).map some
        | none => .ok none
      else .ok none := by
  unfold adaptiveRateLimitDueAt quotaReport
  by_cases adaptive : policy.get? "adaptive_schedule" = some (.bool true)
  · rw [if_neg (not_not_intro adaptive), if_pos adaptive]
    cases nonnegativeInt (rateState.get? "remaining") with
    | none => rfl
    | some remaining =>
      cases nonnegativeInt (rateState.get? "reset_epoch") with
      | none => rfl
      | some resetEpoch =>
        cases positiveInt (rateState.get? "requests_made") with
        | none => rfl
        | some requestsMade =>
          show (if availableRequests policy remaining < requestsMade then
              (plusSeconds instant (max (minIntervalSeconds policy)
                (secondsToReset resetEpoch instant + resetSafetySeconds policy))).map some
            else (plusSeconds instant (max (minIntervalSeconds policy)
              (spreadSeconds policy ⟨remaining, resetEpoch, requestsMade⟩ instant))).map some)
            = (plusSeconds instant
              (secondsToWait policy ⟨remaining, resetEpoch, requestsMade⟩ instant)).map some
          by_cases short : availableRequests policy remaining < requestsMade
          · rw [if_pos short, secondsToWait, if_pos short]
          · rw [if_neg short, secondsToWait, if_neg short]
  · rw [if_pos adaptive, if_neg adaptive]

variable {policy rateState : JsonObject} {report : QuotaReport} {value : Option JsonValue}
  {instant bound due resetEpoch : ℤ} {source : SourceModel}

theorem adaptiveRateLimitDueAt_of_report
    (adaptive : policy.get? "adaptive_schedule" = some (.bool true))
    (reported : quotaReport rateState = some report) (instant : ℤ) :
    adaptiveRateLimitDueAt policy rateState instant =
      (plusSeconds instant (secondsToWait policy report instant)).map some := by
  rw [adaptiveRateLimitDueAt_eq, if_pos adaptive, reported]

theorem orElse_pos {value : Option ℤ} {default : ℤ} (bounded : ∀ parsed ∈ value, 0 ≤ parsed)
    (positive : 0 < default) : 0 < orElse value default := by
  cases value with
  | none => exact positive
  | some parsed =>
    have nonnegative : 0 ≤ parsed := bounded parsed rfl
    by_cases zero : parsed = 0
    · simpa [orElse, Option.filter, zero] using positive
    · have kept : orElse (some parsed) default = parsed := by simp [orElse, Option.filter, zero]
      omega

theorem nonnegativeInt_nonneg :
    ∀ parsed ∈ nonnegativeInt value, 0 ≤ parsed := by
  intro parsed found
  simpa using (Option.mem_filter_iff.1 found).2

theorem positiveInt_pos : ∀ parsed ∈ positiveInt value, 0 < parsed := by
  intro parsed found
  simpa using (Option.mem_filter_iff.1 found).2

theorem minIntervalSeconds_pos (policy : JsonObject) : 0 < minIntervalSeconds policy :=
  orElse_pos (fun parsed found => (positiveInt_pos parsed found).le) (by decide)

/-- A safety margin of zero counts as none given, so the margin is never empty. -/
theorem resetSafetySeconds_pos (policy : JsonObject) : 0 < resetSafetySeconds policy :=
  orElse_pos nonnegativeInt_nonneg (by decide)

theorem requestsMade_pos (reported : quotaReport rateState = some report) :
    0 < report.requestsMade := by
  unfold quotaReport at reported
  split at reported
  · rename_i remaining resetEpoch requestsMade _ _ cost
    cases Option.some.inj reported
    exact positiveInt_pos requestsMade cost
  · cases reported

theorem minIntervalSeconds_le_secondsToWait (policy : JsonObject) (report : QuotaReport)
    (instant : ℤ) : minIntervalSeconds policy ≤ secondsToWait policy report instant :=
  le_max_left _ _

/-! ## Which waits are instants -/

/-- The whole seconds that are left after an instant. -/
def secondsLeft (instant : ℤ) : ℤ := (maxInstant - instant) / 1000000

theorem exists_plusSeconds_iff {seconds : ℤ} (started : minInstant ≤ instant)
    (forward : 0 ≤ seconds) :
    (∃ due, plusSeconds instant seconds = .ok due) ↔ seconds ≤ secondsLeft instant := by
  have fits : instant + span seconds ≤ maxInstant ↔ seconds ≤ secondsLeft instant := by
    rw [secondsLeft, Int.le_ediv_iff_mul_le (by decide), span]
    omega
  have after : minInstant ≤ instant + span seconds := by
    rw [span]
    omega
  rw [← fits]
  unfold plusSeconds
  constructor
  · rintro ⟨due, ok⟩
    split at ok
    · rename_i inside
      exact inside.2
    · cases ok
  · intro inside
    exact ⟨_, if_pos ⟨after, inside⟩⟩

theorem ceilDiv_le_iff {total parts : ℤ} (positive : 0 < parts) :
    ceilDiv total parts ≤ bound ↔ total ≤ parts * bound := by
  rw [ceilDiv, ← Int.lt_add_one_iff, Int.ediv_lt_iff_lt_mul positive, add_mul, mul_comm bound]
  omega

/-- The report's wait ends before the last instant: the shortest interval does, and so
does the reset with its margin, or its share of the time to the reset. -/
def FitsCalendar (policy rateState : JsonObject) (instant : ℤ) : Prop :=
  policy.get? "adaptive_schedule" = some (.bool true) →
    ∀ report ∈ quotaReport rateState,
      minIntervalSeconds policy ≤ secondsLeft instant ∧
        if availableRequests policy report.remaining < report.requestsMade then
          secondsToReset report.resetEpoch instant + resetSafetySeconds policy ≤ secondsLeft instant
        else
          secondsToReset report.resetEpoch instant ≤
            availableRequests policy report.remaining / report.requestsMade * secondsLeft instant

instance (policy rateState : JsonObject) (instant : ℤ) :
    Decidable (FitsCalendar policy rateState instant) :=
  inferInstanceAs (Decidable (_ → _))

theorem secondsToWait_le_iff (reported : quotaReport rateState = some report) (later : 0 ≤ bound) :
    secondsToWait policy report instant ≤ bound ↔
      minIntervalSeconds policy ≤ bound ∧
        if availableRequests policy report.remaining < report.requestsMade then
          secondsToReset report.resetEpoch instant + resetSafetySeconds policy ≤ bound
        else
          secondsToReset report.resetEpoch instant ≤
            availableRequests policy report.remaining / report.requestsMade * bound := by
  have cost := requestsMade_pos reported
  unfold secondsToWait
  rw [max_le_iff]
  refine and_congr_right fun shortest => ?_
  by_cases short : availableRequests policy report.remaining < report.requestsMade
  · rw [if_pos short, if_pos short]
  · have runs : 1 ≤ availableRequests policy report.remaining / report.requestsMade := by
      rw [Int.le_ediv_iff_mul_le cost]
      omega
    rw [if_neg short, if_neg short, spreadSeconds, max_eq_right runs]
    by_cases reached : secondsToReset report.resetEpoch instant = 0
    · rw [if_pos reached, reached]
      have spread : 0 ≤ availableRequests policy report.remaining / report.requestsMade * bound :=
        mul_nonneg (by omega) later
      exact iff_of_true shortest spread
    · rw [if_neg reached, ceilDiv_le_iff (by omega)]

/-- The function answers exactly the waits that fit. -/
theorem exists_adaptiveRateLimitDueAt_iff (started : minInstant ≤ instant)
    (ended : instant ≤ maxInstant) :
    (∃ due, adaptiveRateLimitDueAt policy rateState instant = .ok due) ↔
      FitsCalendar policy rateState instant := by
  rw [adaptiveRateLimitDueAt_eq]
  unfold FitsCalendar
  by_cases adaptive : policy.get? "adaptive_schedule" = some (.bool true)
  · rw [if_pos adaptive]
    cases reported : quotaReport rateState with
    | none => simp
    | some report =>
      have later : 0 ≤ secondsLeft instant := Int.ediv_nonneg (by omega) (by decide)
      have forward : 0 ≤ secondsToWait policy report instant :=
        (minIntervalSeconds_pos policy).le.trans (minIntervalSeconds_le_secondsToWait ..)
      have waits : (∃ due, (plusSeconds instant (secondsToWait policy report instant)).map some
          = .ok due) ↔ ∃ due, plusSeconds instant (secondsToWait policy report instant)
          = .ok due := by
        cases plusSeconds instant (secondsToWait policy report instant) <;> simp [Except.map]
      rw [waits, exists_plusSeconds_iff started forward, secondsToWait_le_iff reported later]
      simp [adaptive]
  · simp [adaptive]

/-- The function answers: no due time, or one that is at least the shortest interval away. -/
def AnswersAfterInterval (policy rateState : JsonObject) (instant : ℤ) : Prop :=
  ∃ answer, adaptiveRateLimitDueAt policy rateState instant = .ok answer ∧
    ∀ due ∈ answer, instant + span (minIntervalSeconds policy) ≤ due

/-- Whatever the function answers is at least the shortest interval away. -/
theorem minInterval_le_of_answer {answer : Option ℤ}
    (answered : adaptiveRateLimitDueAt policy rateState instant = .ok answer) :
    ∀ due ∈ answer, instant + span (minIntervalSeconds policy) ≤ due := by
  rintro due ⟨⟩
  rw [adaptiveRateLimitDueAt_eq] at answered
  split at answered
  · cases reported : quotaReport rateState with
    | none =>
      rw [reported] at answered
      cases answered
    | some report =>
      rw [reported] at answered
      have shortest := minIntervalSeconds_le_secondsToWait policy report instant
      cases waited : plusSeconds instant (secondsToWait policy report instant) with
      | error raised => simp [waited, Except.map] at answered
      | ok moved =>
        have moves : moved = due := by simpa [waited, Except.map] using answered
        rw [← moves, plusSeconds_ok waited, span, span]
        omega
  · cases answered

theorem answersAfterInterval_iff (started : minInstant ≤ instant) (ended : instant ≤ maxInstant) :
    AnswersAfterInterval policy rateState instant ↔ FitsCalendar policy rateState instant := by
  rw [← exists_adaptiveRateLimitDueAt_iff started ended]
  constructor
  · rintro ⟨answer, ok, _⟩
    exact ⟨answer, ok⟩
  · rintro ⟨answer, ok⟩
    exact ⟨answer, ok, minInterval_le_of_answer ok⟩

/-! ## Sequences of runs -/

/-- One run of a source: when it ran, the requests it made, and what they leave of the
quota of the period, with the result its worker reports and the due time that was planned
when it was queued. -/
structure MeteredRun where
  (startedAt finishedAt requests remaining : ℤ)
  result : CollectionResult
  queuedDue : Option ℤ
  ordered : startedAt ≤ finishedAt

/-- The run tells the quota of the period that ends at the reset as it is. -/
def MeteredRun.Reports (resetEpoch : ℤ) (run : MeteredRun) : Prop :=
  ∃ report, quotaReport (run.result.rateLimitState.getD []) = some report ∧
    report.remaining = run.remaining ∧ report.resetEpoch = resetEpoch

/-- The next run of the source: it starts once the previous one is over and no earlier
than the due time that this one's completion leaves, it makes no more requests than the
previous one reports, and before the reset each of them costs one of what remains. -/
structure Follows (source : SourceModel) (resetEpoch : ℤ) (previous next : MeteredRun) :
    Prop where
  after : previous.finishedAt ≤ next.startedAt
  waits : ∃ due, dueAfterCompletion (some source) previous.result previous.finishedAt
    previous.queuedDue = .ok (some due) ∧ due ≤ next.startedAt
  costs : ∀ report, quotaReport (previous.result.rateLimitState.getD []) = some report →
    next.requests ≤ report.requestsMade
  spends : next.startedAt < span resetEpoch →
    next.remaining = previous.remaining - next.requests

/-- A completion leaves no due time before the adaptive one. -/
theorem adaptive_le_of_dueAfterCompletion {result : CollectionResult} {now adapted : ℤ}
    {current : Option ℤ}
    (adaptive : adaptiveRateLimitDueAt source.rateLimitPolicy (result.rateLimitState.getD []) now
      = .ok (some adapted))
    (planned : dueAfterCompletion (some source) result now current = .ok (some due)) :
    adapted ≤ due := by
  simp only [dueAfterCompletion, adaptive, ok_bind] at planned
  split at planned
  · cases planned
    exact le_rfl
  · split at planned
    · cases planned
      exact le_rfl
    · obtain ⟨catchup, _, planned⟩ := bind_eq_ok.1 planned
      cases planned
      exact le_max_left _ _

/-- Waiting for the reset with its margin outlasts the period, although an instant is
truncated to a timestamp. -/
theorem reset_le_of_waited (short : availableRequests policy report.remaining < report.requestsMade)
    (waited : instant + span (secondsToWait policy report instant) ≤ due) :
    span report.resetEpoch ≤ due := by
  have margin := resetSafetySeconds_pos policy
  have held : report.resetEpoch - timestamp instant + resetSafetySeconds policy ≤
      secondsToWait policy report instant := by
    rw [secondsToWait, if_pos short]
    exact (add_le_add_left (le_max_right _ _) _).trans (le_max_right _ _)
  have truncated : timestamp instant * 1000000 < instant + 1000000 := by
    have parts := Int.tdiv_mul_add_tmod instant 1000000
    have bounded := Int.lt_tmod_of_pos instant (show (0 : ℤ) < 1000000 by decide)
    rw [timestamp]
    omega
  simp only [span] at waited ⊢
  omega

/-- While the quota has the cost of another run above its reserve, such a run leaves the
reserve. -/
theorem reserve_le_of_available {remaining cost : ℤ} (positive : 0 < cost)
    (enough : ¬ availableRequests policy remaining < cost) :
    reserveRequests policy ≤ remaining - cost := by
  unfold availableRequests at enough
  omega

/-- The later of two runs leaves the reserve when the earlier one did, unless it starts
after the reset. -/
structure KeepsReserve (source : SourceModel) (resetEpoch : ℤ) (earlier later : MeteredRun) :
    Prop where
  inOrder : earlier.startedAt ≤ later.startedAt
  keeps : reserveRequests source.rateLimitPolicy ≤ earlier.remaining →
    later.startedAt < span resetEpoch → reserveRequests source.rateLimitPolicy ≤ later.remaining

theorem KeepsReserve.trans {earlier middle later : MeteredRun}
    (first : KeepsReserve source resetEpoch earlier middle)
    (second : KeepsReserve source resetEpoch middle later) :
    KeepsReserve source resetEpoch earlier later where
  inOrder := first.inOrder.trans second.inOrder
  keeps above before :=
    second.keeps (first.keeps above (second.inOrder.trans_lt before)) before

instance (source : SourceModel) (resetEpoch : ℤ) :
    IsTrans MeteredRun (KeepsReserve source resetEpoch) :=
  ⟨fun _ _ _ first second => first.trans second⟩

/-- One wait: either the next run starts after the reset, or its requests are above the
reserve. -/
theorem Follows.keepsReserve {previous next : MeteredRun}
    (adaptive : source.rateLimitPolicy.get? "adaptive_schedule" = some (.bool true))
    (reports : previous.finishedAt < span resetEpoch → previous.Reports resetEpoch)
    (follows : Follows source resetEpoch previous next) :
    KeepsReserve source resetEpoch previous next := by
  refine ⟨previous.ordered.trans follows.after, fun _ before => ?_⟩
  obtain ⟨report, reported, remaining, epoch⟩ := reports (follows.after.trans_lt before)
  obtain ⟨due, planned, started⟩ := follows.waits
  have decided := adaptiveRateLimitDueAt_of_report adaptive reported previous.finishedAt
  cases waited : plusSeconds previous.finishedAt
      (secondsToWait source.rateLimitPolicy report previous.finishedAt) with
  | error raised =>
    -- the completion would have raised too
    simp [dueAfterCompletion, decided, waited, Except.map, bind, Except.bind] at planned
  | ok adapted =>
    have answered : adaptiveRateLimitDueAt source.rateLimitPolicy
        (previous.result.rateLimitState.getD []) previous.finishedAt = .ok (some adapted) := by
      rw [decided, waited]
      rfl
    have reached : adapted ≤ next.startedAt :=
      (adaptive_le_of_dueAfterCompletion answered planned).trans started
    rw [plusSeconds_ok waited] at reached
    have early : ¬ availableRequests source.rateLimitPolicy report.remaining <
        report.requestsMade := by
      intro short
      have late := reset_le_of_waited short reached
      rw [epoch] at late
      exact absurd before (not_lt.2 late)
    calc reserveRequests source.rateLimitPolicy
        ≤ report.remaining - report.requestsMade :=
          reserve_le_of_available (requestsMade_pos reported) early
      _ ≤ previous.remaining - next.requests := by
          rw [remaining]
          exact sub_le_sub_left (follows.costs report reported) _
      _ = next.remaining := (follows.spends before).symm

/-- A whole sequence of runs that wait for one another keeps the reserve. -/
theorem keepsReserve_of_follows {runs : List MeteredRun}
    (adaptive : source.rateLimitPolicy.get? "adaptive_schedule" = some (.bool true))
    (reports : ∀ run ∈ runs, run.finishedAt < span resetEpoch → run.Reports resetEpoch)
    (follows : runs.IsChain (Follows source resetEpoch)) :
    runs.Pairwise (KeepsReserve source resetEpoch) := by
  refine List.isChain_iff_pairwise.1 ?_
  induction runs with
  | nil => exact .nil
  | cons first rest ih =>
    have later := ih (fun run found => reports run (mem_cons_of_mem _ found)) follows.tail
    cases rest with
    | nil => exact .singleton _
    | cons second rest =>
      obtain ⟨waits, _⟩ := List.isChain_cons_cons.1 follows
      exact .cons_cons (waits.keepsReserve adaptive (reports first mem_cons_self)) later

/-! ## The guarantee -/

/-- The function answers at least the shortest interval away exactly when the wait it is
asked for ends on the calendar, and along every sequence of runs that wait for it the quota
keeps the reserve until the reset, once it has it. -/
theorem adaptive_rate_limiting_keeps_reserve (policy rateState : JsonObject) (instant : ℤ)
    (started : minInstant ≤ instant) (ended : instant ≤ maxInstant)
    (source : SourceModel) (resetEpoch : ℤ) (runs : List MeteredRun) :
    (AnswersAfterInterval policy rateState instant ↔ FitsCalendar policy rateState instant) ∧
    (source.rateLimitPolicy.get? "adaptive_schedule" = some (.bool true) →
      (∀ run ∈ runs, run.finishedAt < span resetEpoch → run.Reports resetEpoch) →
      runs.IsChain (Follows source resetEpoch) →
      runs.Pairwise fun earlier later =>
        reserveRequests source.rateLimitPolicy ≤ earlier.remaining →
        later.startedAt < span resetEpoch →
        reserveRequests source.rateLimitPolicy ≤ later.remaining) := by
  refine ⟨answersAfterInterval_iff started ended, fun adaptive reports follows => ?_⟩
  exact (keepsReserve_of_follows adaptive reports follows).imp fun kept => kept.keeps

/-- The policy of a repository source: fifteen requests are kept, and five minutes pass. -/
def repositoryPolicy : JsonObject :=
  [("adaptive_schedule", .bool true), ("reserve_requests", .int 15),
    ("min_interval_seconds", .int 300), ("reset_safety_seconds", .int 5)]

/-- The state of a rate limit as a provider reports it. -/
def reportedState (remaining resetEpoch requestsMade : ℤ) : JsonObject :=
  [("remaining", .int remaining), ("reset_epoch", .int resetEpoch),
    ("requests_made", .int requestsMade)]

/-- A run of the repository source that makes fifteen requests in a minute, an hour before
the reset. -/
def headroomRun : MeteredRun where
  startedAt := span 1790308740
  finishedAt := span 1790308800
  requests := 15
  remaining := 45
  result := ⟨[], some (reportedState 45 1790312400 15), 1, true⟩
  queuedDue := none
  ordered := by decide

/-- The run half an hour later. -/
def laterRun : MeteredRun where
  startedAt := span 1790310600
  finishedAt := span 1790310660
  requests := 15
  remaining := 30
  result := ⟨[], some (reportedState 30 1790312400 15), 1, true⟩
  queuedDue := none
  ordered := by decide

def repositorySource : SourceModel where
  sourceId := "github-target-repos"
  rateLimitPolicy := repositoryPolicy

theorem adaptive_rate_limiting_keeps_reserve_halfHour :
    AnswersAfterInterval repositoryPolicy (reportedState 45 1790312400 15) (span 1790308800) ∧
    15 ≤ laterRun.remaining := by
  have guarantee := adaptive_rate_limiting_keeps_reserve repositoryPolicy
    (reportedState 45 1790312400 15) (span 1790308800) (by decide) (by decide) repositorySource
    1790312400 [headroomRun, laterRun]
  refine ⟨guarantee.1.2 (by decide), ?_⟩
  have follows : Follows repositorySource 1790312400 headroomRun laterRun :=
    { after := by decide
      waits := ⟨span 1790310600, by decide, by decide⟩
      costs := by
        intro report reported
        cases reported
        decide
      spends := fun _ => by decide }
  have kept := guarantee.2 (by decide)
    (by
      intro run found _
      rcases mem_pair.1 found with rfl | rfl
      · exact ⟨⟨45, 1790312400, 15⟩, by decide, rfl, rfl⟩
      · exact ⟨⟨30, 1790312400, 15⟩, by decide, rfl, rfl⟩)
    (.cons_cons follows (.singleton _))
  exact List.rel_of_pairwise_cons kept mem_cons_self (by decide) (by decide)

/-- A reset that a provider gives in milliseconds is off the calendar, and the function
raises instead of leaving the planned interval in force. -/
theorem reset_in_milliseconds_overflows :
    ¬ AnswersAfterInterval repositoryPolicy (reportedState 0 1790312400000 1)
      (span 1790308800) := by
  rintro ⟨answer, answered, _⟩
  exact absurd answered (by simp [show adaptiveRateLimitDueAt repositoryPolicy
    (reportedState 0 1790312400000 1) (span 1790308800)
      = .error (.overflowError "date value out of range") by decide])

end SecFusion.Monitoring
