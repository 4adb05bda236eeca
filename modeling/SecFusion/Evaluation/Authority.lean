import SecFusion.Evaluation.Promotion

/-!
# The authority of a promotion

A promotion stands on what was recorded: each case of the suite has a trajectory of its own
that was completed and recorded as passed for this patch, this suite and this case.

What a trajectory keeps of a record names all of that but the case; which case a trajectory
belongs to is in the trajectory's own row, and the gate does not compare it with the case
that a result names.  So the promotion stands on its records as long as each result names the
case of its trajectory (`OwnCases`), as the results that `record_replay_result` answers do.
-/

namespace SecFusion.Evaluation

open Foundations

variable (gate : SkillPromotionGate)

/-! ## What a promotion stands on -/

/-- The trajectory is the record of a passed replay of the case, for the patch and the suite. -/
structure PassedReplay (patch : SkillPatchCandidate) (suite : SkillPromotionSuite)
    (spec : SkillReplayCaseSpec) (row : InvestigationTrajectoryModel)
    (summary : SkillReplaySummary) : Prop where
  ofCase : row.caseId = spec.caseId
  completed : row.status = "completed"
  succeeded : row.outcome = some "success"
  recorded : row.m7ReplayResult = some summary
  passed : summary.passed = true
  patch : summary.patchId = patch.patchId
  suite : summary.suiteId = suite.suiteId
  checkpoint : summary.checkpointId = spec.checkpointId ∧
    summary.checkpointTrajectoryId = spec.checkpointTrajectoryId
  source : summary.sourceRef = spec.sourceRef
  kind : summary.kind = spec.kind

/-- **Backed**: the cases of the suite are in bijection with stored trajectories that are
their passed replays. -/
def Backed (store : PromotionStore) (patch : SkillPatchCandidate) (suite : SkillPromotionSuite) :
    Prop :=
  ∃ trajectoryOf : SkillReplayCaseSpec → InvestigationTrajectoryModel,
    Set.InjOn trajectoryOf {spec | spec ∈ suite.cases} ∧
      ∀ spec ∈ suite.cases, trajectoryOf spec ∈ store.trajectories.rows ∧
        ∃ summary, PassedReplay patch suite spec (trajectoryOf spec) summary

/-- Two outcomes that differ at most in the order in which failures are listed. -/
structure SameOutcome (left right : SkillPromotionOutcome) : Prop where
  patchId : left.decision.patchId = right.decision.patchId
  approved : left.decision.approved = right.decision.approved
  validationRef : left.decision.validationRef = right.decision.validationRef
  failures : left.decision.failures.Perm right.decision.failures
  refs : left.decision.replayResultRefs = right.decision.replayResultRefs
  promoted : left.promotedSkill = right.promotedSkill

/-- The same exception, or the same outcome with the same store. -/
def SameAnswer :
    (left right : Except Raised (SkillPromotionOutcome × PromotionStore)) → Prop
  | .error left, .error right => left = right
  | .ok (left, leftStore), .ok (right, rightStore) =>
      SameOutcome left right ∧ leftStore = rightStore
  | .error _, .ok _ | .ok _, .error _ => False

/-- The same suite with its cases in another order. -/
structure SameSuite (left right : SkillPromotionSuite) : Prop where
  suiteId : left.suiteId = right.suiteId
  patchId : left.patchId = right.patchId
  cases : left.cases.Perm right.cases

/-- **The promotion is authoritative**: a promoted skill is backed, and the order of cases and
results does not matter. -/
structure Authoritative (store : PromotionStore) (patch : SkillPatchCandidate)
    (baseSkill : SkillVersion) (suite : SkillPromotionSuite) (results : List SkillReplayResult)
    (now : ℤ) : Prop where
  backed : ∀ outcome next,
    promote gate store patch baseSkill suite results now = .ok (outcome, next) →
      outcome.promotedSkill.isSome → Backed store patch suite
  orderFree : ∀ otherSuite otherResults, SameSuite suite otherSuite → results.Perm otherResults →
    SameAnswer (promote gate store patch baseSkill suite results now)
      (promote gate store patch baseSkill otherSuite otherResults now)

/-- Each result names the case that its trajectory belongs to. -/
def OwnCases (store : PromotionStore) (results : List SkillReplayResult) : Prop :=
  ∀ result ∈ results, ∀ row ∈ store.trajectories.get? result.trajectoryId,
    row.caseId = result.caseId

instance (store : PromotionStore) (results : List SkillReplayResult) :
    Decidable (OwnCases store results) :=
  inferInstanceAs (Decidable (∀ result ∈ results, ∀ row ∈ _, _ = _))

/-! ## Records -/

/-- A trajectory with a recorded replay is completed, with the outcome of the replay. -/
def Recorded (store : PromotionStore) : Prop :=
  ∀ row ∈ store.trajectories.rows, ∀ summary ∈ row.m7ReplayResult,
    row.status = "completed" ∧ row.outcome = some (replayOutcome summary.passed)

def recordedAfter (start : PromotionStore) (calls : List RecordCall) : PromotionStore :=
  run (recordReplayResult gate) start calls

variable {next : PromotionStore} {result : SkillReplayResult} {baseSkill : SkillVersion} {now : ℤ}

theorem Recorded.record {store : PromotionStore} (recorded : Recorded store) {call : RecordCall}
    (ok : recordReplayResult gate call store = .ok (result, next)) : Recorded next := by
  unfold recordReplayResult at ok
  obtain ⟨trajectory, -, ok⟩ := fetch_bind_eq_ok.1 ok
  obtain ⟨-, ok⟩ := require_bind_eq_ok.1 ok
  dsimp only at ok
  split at ok
  next =>
    obtain ⟨-, ok⟩ := require_bind_eq_ok.1 ok
    obtain ⟨-, ok⟩ := require_bind_eq_ok.1 ok
    obtain ⟨_, -, ok⟩ := bind_eq_ok.1 ok
    cases pure_eq_ok.1 ok
    exact recorded
  next =>
    obtain ⟨-, ok⟩ := require_bind_eq_ok.1 ok
    obtain ⟨_, -, ok⟩ := bind_eq_ok.1 ok
    cases pure_eq_ok.1 ok
    intro row member summary kept
    obtain ⟨old, listed, rfl⟩ := mem_map.1 member
    split at kept
    next same =>
      obtain rfl := Option.some.inj kept
      rw [if_pos same]
      exact ⟨rfl, rfl⟩
    next different =>
      rw [if_neg different]
      exact recorded old listed summary kept

theorem recorded_recordedAfter {start : PromotionStore}
    (fresh : ∀ row ∈ start.trajectories.rows, row.m7ReplayResult = none)
    (calls : List RecordCall) : Recorded (recordedAfter gate start calls) := by
  have begins : Recorded start := by
    intro row member summary kept
    rw [fresh row member] at kept
    cases kept
  have step : ∀ (store : PromotionStore) call result next, Recorded store →
      recordReplayResult gate call store = .ok (result, next) → Recorded next :=
    fun _ _ _ _ recorded ok => recorded.record gate ok
  exact run_invariant step begins calls

/-! ## What an approval says -/

section Approval

variable {gate} {store : PromotionStore} {patch : SkillPatchCandidate}
  {suite : SkillPromotionSuite} {results : List SkillReplayResult}

/-- What is left when `evaluate` finds no failure. -/
structure Matches (patch : SkillPatchCandidate) (suite : SkillPromotionSuite)
    (results : List SkillReplayResult) : Prop where
  refs : (results.map (·.resultRef)).Nodup
  trajectories : (results.map (·.trajectoryId)).Nodup
  patchId : ∀ item ∈ results, item.patchId = patch.patchId
  suiteId : ∀ item ∈ results, item.suiteId = suite.suiteId
  covered : ∀ spec ∈ suite.cases, ∃ item ∈ results, item.identity = spec.identity

theorem matches_of_no_failures (noFailures : evaluationFailures gate patch suite results = []) :
    Matches patch suite results := by
  unfold evaluationFailures at noFailures
  simp only [append_eq_nil_iff] at noFailures
  obtain ⟨⟨⟨identities, comparisons⟩, -⟩, -⟩  := noFailures
  unfold identityFailures at identities
  simp only [append_eq_nil_iff, ite_eq_right_iff, cons_ne_nil, imp_false, not_not,
    not_exists, not_and] at identities
  obtain ⟨⟨⟨⟨⟨-, -⟩, refs⟩, trajectories⟩, patchId⟩, suiteId⟩ := identities
  unfold caseFailures at comparisons
  simp only [append_eq_nil_iff, map_eq_nil_iff] at comparisons
  obtain ⟨⟨⟨missing, -⟩, -⟩, -⟩ := comparisons
  refine ⟨refs, trajectories, patchId, suiteId, fun spec member => ?_⟩
  by_contra uncovered
  have absent : spec.identity ∉ results.map (·.identity) := fun listed =>
    uncovered (mem_map.1 listed)
  have inMissing : spec.identity ∈ sortedTuples ((suite.cases.map (·.identity)).filter
      (· ∉ results.map (·.identity))) := by
    rw [sortedTuples, mem_insertionSort, mem_dedup, mem_filter]
    exact ⟨mem_map.2 ⟨spec, member, rfl⟩, by simpa using absent⟩
  rw [missing] at inMissing
  exact absurd inMissing not_mem_nil

theorem passed_of_no_failures (all : gate.policy.requireAllPass = true)
    (noFailures : evaluationFailures gate patch suite results = []) :
    ∀ item ∈ results, item.passed = true := by
  unfold evaluationFailures replayFailures at noFailures
  rw [if_pos all] at noFailures
  have noneFailed := (append_eq_nil_iff.1 noFailures).2
  rw [map_eq_nil_iff, filter_eq_nil_iff] at noneFailed
  intro item member
  simpa using noneFailed item member

theorem stored_of_verified (verified : verifyDurableResult store result = none) :
    ∃ row, store.trajectories.get? result.trajectoryId = some row ∧
      row.m7ReplayResult = some (summaryFromResult result) := by
  unfold verifyDurableResult at verified
  split at verified
  · cases verified
  split at verified
  · cases verified
  next row found =>
  split at verified
  · cases verified
  split at verified
  · cases verified
  next stored kept =>
  split at verified
  · cases verified
  next same => exact ⟨row, found, by rw [kept, not_not.1 same]⟩

/-- A promotion has no failures, and verified each result. -/
theorem approved_of_promoted {outcome : SkillPromotionOutcome}
    (promoted : promote gate store patch baseSkill suite results now = .ok (outcome, next))
    (isSome : outcome.promotedSkill.isSome) : evaluationFailures gate patch suite results = [] ∧
      ∀ result ∈ results, verifyDurableResult store result = none := by
  unfold promote at promoted
  obtain ⟨-, promoted⟩ := require_bind_eq_ok.1 promoted
  obtain ⟨-, promoted⟩ := require_bind_eq_ok.1 promoted
  dsimp only at promoted
  have approved : (promotionDecision gate store patch suite results).validationRef.isSome := by
    cases ref : (promotionDecision gate store patch suite results).validationRef with
    | some _ => rfl
    | none =>
        rw [ref] at promoted
        cases pure_eq_ok.1 promoted
        cases isSome
  unfold promotionDecision at approved
  dsimp only at approved
  split at approved
  · cases approved
  next durable =>
    constructor
    · by_contra failed
      rw [evaluate, if_neg failed] at approved
      cases approved
    · exact filterMap_eq_nil_iff.1 (not_not.1 durable)

/-- Identities tell cases apart. -/
theorem identity_inj {left right : SkillReplayCaseSpec} (same : left.identity = right.identity) :
    left = right := by
  unfold SkillReplayCaseSpec.identity at same
  simp only [cons.injEq, and_true] at same
  obtain ⟨caseId, checkpointId, trajectoryId, sourceRef, kind⟩ := same
  have sameKind : left.kind = right.kind := by
    revert kind
    cases left.kind <;> cases right.kind <;> decide
  cases left
  cases right
  simp_all

/-- What identity a result shares with a case. -/
theorem identity_eq {spec : SkillReplayCaseSpec} (same : result.identity = spec.identity) :
    result.caseId = spec.caseId ∧
      (result.checkpointId = spec.checkpointId ∧
        result.checkpointTrajectoryId = spec.checkpointTrajectoryId) ∧
      result.sourceRef = spec.sourceRef ∧ result.kind = spec.kind := by
  unfold SkillReplayResult.identity SkillReplayCaseSpec.identity at same
  simp only [cons.injEq, and_true] at same
  obtain ⟨caseId, checkpointId, trajectoryId, sourceRef, kind⟩ := same
  have sameKind : result.kind = spec.kind := by
    revert kind
    cases result.kind <;> cases spec.kind <;> decide
  exact ⟨caseId, ⟨checkpointId, trajectoryId⟩, sourceRef, sameKind⟩

/-- **An approval is backed** when the results name the cases of their trajectories. -/
theorem backed_of_approved (recorded : Recorded store) (own : OwnCases store results)
    (all : gate.policy.requireAllPass = true)
    (noFailures : evaluationFailures gate patch suite results = [])
    (verified : ∀ result ∈ results, verifyDurableResult store result = none) :
    Backed store patch suite := by
  have compared := matches_of_no_failures noFailures
  -- each case takes the trajectory of a result with its identity
  have chosen : ∀ spec : SkillReplayCaseSpec, ∃ row : InvestigationTrajectoryModel,
      spec ∈ suite.cases → ∃ result ∈ results, result.identity = spec.identity ∧
        store.trajectories.get? result.trajectoryId = some row ∧
        row.m7ReplayResult = some (summaryFromResult result) := by
    intro spec
    by_cases listed : spec ∈ suite.cases
    · obtain ⟨result, member, same⟩ := compared.covered spec listed
      obtain ⟨row, found, kept⟩ := stored_of_verified (verified result member)
      exact ⟨row, fun _ => ⟨result, member, same, found, kept⟩⟩
    · exact ⟨⟨"", "", "", none, none⟩, fun member => absurd member listed⟩
  choose trajectoryOf isReplay using chosen
  refine ⟨trajectoryOf, ?_, fun spec member => ?_⟩
  · intro left leftMember right rightMember sameRow
    obtain ⟨first, firstMember, firstIdentity, firstFound, -⟩ := isReplay left leftMember
    obtain ⟨second, secondMember, secondIdentity, secondFound, -⟩ := isReplay right rightMember
    have sameTrajectory : first.trajectoryId = second.trajectoryId := by
      rw [← key_of_get? firstFound, ← key_of_get? secondFound, sameRow]
    have sameResult : first = second :=
      inj_on_of_nodup_map compared.trajectories firstMember secondMember sameTrajectory
    exact identity_inj (firstIdentity.symm.trans (sameResult ▸ secondIdentity))
  · obtain ⟨result, resultMember, same, found, kept⟩ := isReplay spec member
    obtain ⟨ofCase, checkpoint, source, kind⟩ := identity_eq same
    have listed := mem_of_get? found
    have passed := passed_of_no_failures all noFailures result resultMember
    obtain ⟨completed, outcome⟩ := recorded _ listed _ kept
    refine ⟨listed, summaryFromResult result, ?_⟩
    exact {
      ofCase := (own result resultMember _ found).trans ofCase
      completed
      succeeded := outcome.trans (by
        rw [show (summaryFromResult result).passed = true from passed]
        rfl)
      recorded := kept
      passed
      patch := compared.patchId result resultMember
      suite := compared.suiteId result resultMember
      checkpoint
      source
      kind }

end Approval

/-! ## Order -/

section Order

theorem sortedTuples_eq_of_mem_iff {left right : List (List String)}
    (same : ∀ tuple, tuple ∈ left ↔ tuple ∈ right) : sortedTuples left = sortedTuples right := by
  refine insertionSort_eq_of_perm ?_ fun a _ b _ => le_antisymm
  rw [perm_ext_iff_of_nodup (nodup_dedup _) (nodup_dedup _)]
  simpa using same

variable {gate} {store : PromotionStore} {patch : SkillPatchCandidate}
  {suite otherSuite : SkillPromotionSuite} {results otherResults : List SkillReplayResult}

theorem SameSuite.specsOf (same : SameSuite suite otherSuite) (kind : ReplayValidationKind) :
    (specsOf suite kind).Perm (specsOf otherSuite kind) := same.cases.filter _

theorem identityFailures_eq (same : SameSuite suite otherSuite) (perm : results.Perm otherResults) :
    identityFailures patch suite results = identityFailures patch otherSuite otherResults := by
  have empty : results = [] ↔ otherResults = [] := by
    rw [← length_eq_zero_iff, perm.length_eq, length_eq_zero_iff]
  unfold identityFailures
  simp only [same.patchId, same.suiteId, empty, (perm.map _).nodup_iff, perm.mem_iff]

theorem caseFailures_eq (same : SameSuite suite otherSuite) (perm : results.Perm otherResults) :
    caseFailures patch suite results = caseFailures patch otherSuite otherResults := by
  have cases := same.cases.map (·.identity)
  have actual := perm.map (·.identity)
  have sources (kind : ReplayValidationKind) := (same.specsOf kind).map (·.sourceRef)
  unfold caseFailures
  dsimp only
  congr 1
  · congr 1
    · congr 1
      · congr 1
        refine sortedTuples_eq_of_mem_iff fun tuple => ?_
        simp only [mem_filter, cases.mem_iff, actual.mem_iff]
      · congr 1
        refine sortedTuples_eq_of_mem_iff fun tuple => ?_
        simp only [mem_filter, cases.mem_iff, actual.mem_iff]
    · simp only [(sources .support).mem_iff]
  · simp only [(sources .counterexample).mem_iff]

theorem policyFailures_eq (policy : SkillPromotionPolicy) (same : SameSuite suite otherSuite)
    (perm : results.Perm otherResults) :
    policyFailures policy suite results = policyFailures policy otherSuite otherResults := by
  have empty (kind : ReplayValidationKind) :
      specsOf suite kind = [] ↔ specsOf otherSuite kind = [] := by
    rw [← length_eq_zero_iff, (same.specsOf kind).length_eq, length_eq_zero_iff]
  unfold policyFailures
  simp only [perm.countP_eq, (same.specsOf .support).length_eq, empty]

/-- The failures are the same, up to the order of those of single replays. -/
theorem evaluationFailures_perm (same : SameSuite suite otherSuite)
    (perm : results.Perm otherResults) : (evaluationFailures gate patch suite results).Perm
      (evaluationFailures gate patch otherSuite otherResults) := by
  unfold evaluationFailures
  rw [identityFailures_eq same perm, caseFailures_eq same perm, policyFailures_eq _ same perm]
  refine List.Perm.append_left _ ?_
  unfold replayFailures
  split
  · exact (perm.filter _).map _
  · exact List.Perm.refl _

theorem replayResultRefs_eq (perm : results.Perm otherResults) :
    (results.map (·.resultRef)).insertionSort (· ≤ ·) =
      (otherResults.map (·.resultRef)).insertionSort (· ≤ ·) :=
  insertionSort_eq_of_perm (perm.map _) fun _ _ _ _ => le_antisymm

/-- Without duplicate results, what is hashed for a validation has one order. -/
theorem validationRef_eq (same : SameSuite suite otherSuite) (perm : results.Perm otherResults)
    (refs : (results.map (·.resultRef)).Nodup) : validationRef gate patch suite results =
      validationRef gate patch otherSuite otherResults := by
  have total : Std.Total fun left right : String × ReplayValidationKind × Bool × String × String ×
      String => left.1 ≤ right.1 := ⟨fun left right => le_total left.1 right.1⟩
  have transitive : IsTrans _ fun left right : String × ReplayValidationKind × Bool × String ×
      String × String => left.1 ≤ right.1 := ⟨fun _ _ _ => le_trans⟩
  have sorted := @insertionSort_eq_of_perm _ (fun left right => left.1 ≤ right.1) _ _ _ _ _
    (perm.map SkillReplayResult.payload) (by
      intro left leftMember right rightMember below above
      obtain ⟨first, firstMember, rfl⟩ := mem_map.1 leftMember
      obtain ⟨second, secondMember, rfl⟩ := mem_map.1 rightMember
      rw [inj_on_of_nodup_map refs firstMember secondMember (le_antisymm below above)])
  unfold validationRef
  rw [same.suiteId, sorted]

theorem promotedVersion_eq (ref : String) (perm : results.Perm otherResults) :
    promotedVersion patch ref results = promotedVersion patch ref otherResults := by
  have trajectories := perm.map (·.trajectoryId)
  have caseRefs := perm.map fun result => "case:" ++ result.caseId
  have supporting : sortedSet (patch.proposedSkill.provenance.supportingTrajectoryRefs ++
        results.map (·.trajectoryId)) =
      sortedSet (patch.proposedSkill.provenance.supportingTrajectoryRefs ++
        otherResults.map (·.trajectoryId)) := by
    refine sortedSet_eq_of_mem_iff fun text => ?_
    simp only [mem_append, trajectories.mem_iff]
  have validation : sortedSet (results.map fun result => "case:" ++ result.caseId) =
      sortedSet (otherResults.map fun result => "case:" ++ result.caseId) :=
    sortedSet_eq_of_mem_iff fun text => caseRefs.mem_iff
  unfold promotedVersion
  simp only [supporting, validation]

/-- Two decisions that differ at most in the order of their failures. -/
structure SameDecision (left right : SkillPromotionDecision) : Prop where
  patchId : left.patchId = right.patchId
  approved : left.approved = right.approved
  validationRef : left.validationRef = right.validationRef
  failures : left.failures.Perm right.failures
  refs : left.replayResultRefs = right.replayResultRefs

theorem evaluate_same (same : SameSuite suite otherSuite) (perm : results.Perm otherResults) :
    SameDecision (evaluate gate patch suite results)
      (evaluate gate patch otherSuite otherResults) := by
  have failures : (evaluationFailures gate patch suite results).Perm
      (evaluationFailures gate patch otherSuite otherResults) := evaluationFailures_perm same perm
  have empty : evaluationFailures gate patch suite results = [] ↔
      evaluationFailures gate patch otherSuite otherResults = [] := by
    rw [← length_eq_zero_iff, failures.length_eq, length_eq_zero_iff]
  unfold evaluate
  constructor
  · rfl
  · simp only [empty]
  · dsimp only
    by_cases noFailures : evaluationFailures gate patch suite results = []
    · rw [if_pos noFailures, if_pos (empty.1 noFailures),
        validationRef_eq same perm (matches_of_no_failures noFailures).refs]
    · rw [if_neg noFailures, if_neg (noFailures ∘ empty.2)]
  · exact failures
  · exact replayResultRefs_eq perm

theorem promotionDecision_same (same : SameSuite suite otherSuite)
    (perm : results.Perm otherResults) :
    SameDecision (promotionDecision gate store patch suite results)
      (promotionDecision gate store patch otherSuite otherResults) := by
  have evaluated : SameDecision (evaluate gate patch suite results)
      (evaluate gate patch otherSuite otherResults) := evaluate_same same perm
  have durable := perm.filterMap (verifyDurableResult store)
  have empty : results.filterMap (verifyDurableResult store) = [] ↔
      otherResults.filterMap (verifyDurableResult store) = [] := by
    rw [← length_eq_zero_iff, durable.length_eq, length_eq_zero_iff]
  unfold promotionDecision
  dsimp only
  by_cases verified : results.filterMap (verifyDurableResult store) = []
  · rw [if_neg (not_not.2 verified), if_neg (not_not.2 (empty.1 verified))]
    exact evaluated
  · rw [if_pos verified, if_pos (verified ∘ empty.2)]
    exact {
      patchId := evaluated.patchId
      approved := rfl
      validationRef := rfl
      failures := evaluated.failures.append durable
      refs := evaluated.refs }

theorem SameAnswer.require {condition : Prop} [Decidable condition] (error : Raised)
    {left right : Unit → Except Raised (SkillPromotionOutcome × PromotionStore)}
    (same : SameAnswer (left ()) (right ())) :
    SameAnswer (require condition error >>= left) (require condition error >>= right) := by
  unfold Foundations.require
  split
  · exact same
  · rfl

/-- **Order does not matter** for what a promotion answers and stores. -/
theorem promote_sameAnswer (same : SameSuite suite otherSuite) (perm : results.Perm otherResults) :
    SameAnswer (promote gate store patch baseSkill suite results now)
      (promote gate store patch baseSkill otherSuite otherResults now) := by
  have decided : SameDecision (promotionDecision gate store patch suite results)
      (promotionDecision gate store patch otherSuite otherResults) :=
    promotionDecision_same same perm
  have refused : SameAnswer
      (.ok ({ decision := promotionDecision gate store patch suite results }, store))
      (.ok ({ decision := promotionDecision gate store patch otherSuite otherResults }, store)) :=
    ⟨⟨decided.patchId, decided.approved, decided.validationRef, decided.failures, decided.refs,
      rfl⟩, rfl⟩
  unfold promote
  refine .require _ (.require _ ?_)
  dsimp only
  rw [← decided.validationRef, ← decided.approved]
  cases ref : (promotionDecision gate store patch suite results).validationRef with
  | none => exact refused
  | some text =>
      dsimp only
      split
      · exact refused
      rw [promotedVersion_eq text perm]
      cases publish gate store (promotedVersion patch text otherResults) now with
      | error exception => rfl
      | ok published =>
          exact ⟨⟨decided.patchId, decided.approved, decided.validationRef, decided.failures,
            decided.refs, rfl⟩, rfl⟩

end Order

/-! ## Authority -/

/-- **A promotion with the default policy is authoritative** after any sequence of records, when
each result names the case of its trajectory. -/
theorem authoritative_of_ownCases (defaultPolicy : gate.policy = {}) {start : PromotionStore}
    (fresh : ∀ row ∈ start.trajectories.rows, row.m7ReplayResult = none)
    (calls : List RecordCall) (patch : SkillPatchCandidate) (baseSkill : SkillVersion)
    (suite : SkillPromotionSuite) (results : List SkillReplayResult) (now : ℤ)
    (own : OwnCases (recordedAfter gate start calls) results) :
    Authoritative gate (recordedAfter gate start calls) patch baseSkill suite results now where
  backed outcome next promoted isSome := by
    obtain ⟨noFailures, verified⟩ := approved_of_promoted promoted isSome
    have all : gate.policy.requireAllPass = true := by rw [defaultPolicy]
    exact backed_of_approved (recorded_recordedAfter gate fresh calls) own all noFailures verified
  orderFree _ _ same perm := promote_sameAnswer same perm

/-- A gate with the default policy, over some digests. -/
def promotionGate : SkillPromotionGate where
  digests := {
    resultDigest := id
    validationDigest := fun payload => payload.suiteId
    contentHash := fun skill => skill.manifest.ref }
  policy := { support_pos := Nat.one_pos }

/-- The version of a skill that reads pages in the given way. -/
def readingSkill (version : ℕ) (status : SkillStatus) (supersedes : Option String) :
    SkillVersion where
  manifest := { skillId := "read-page", version, status, supersedes }
  procedure := { skillId := "read-page", version, semanticInstructions := ["read the page"] }
  provenance := { skillId := "read-page", version, origin := "experience" }
  procedure_identity := ⟨rfl, rfl⟩
  provenance_identity := ⟨rfl, rfl⟩

def readingPatch : SkillPatchCandidate where
  patchId := "patch-1"
  targetSkillRef := "skill:read-page@1"
  supportRefs := ["support"]
  counterexampleRefs := ["counterexample"]
  proposedSkill := readingSkill 2 .candidate (some "skill:read-page@1")

/-- A case for the checkpoint that all replays here start from. -/
def suiteCase (kind : ReplayValidationKind) : SkillReplayCaseSpec where
  caseId := "case-1"
  checkpointId := "checkpoint"
  checkpointTrajectoryId := "origin"
  sourceRef := kind.value
  kind
  source_nonblank := by cases kind <;> decide

def readingSuite : SkillPromotionSuite where
  suiteId := "suite-1"
  patchId := "patch-1"
  cases := [suiteCase .support, suiteCase .counterexample, suiteCase .regression]

/-- A passed replay of the case, in a trajectory named as its kind. -/
def passedRecord (kind : ReplayValidationKind) : RecordCall where
  patchId := "patch-1"
  suiteId := "suite-1"
  trajectoryId := kind.value
  checkpointId := "checkpoint"
  checkpointTrajectoryId := "origin"
  sourceRef := kind.value
  kind
  passed := true

def passedRecords : List RecordCall :=
  [passedRecord .support, passedRecord .counterexample, passedRecord .regression]

def runningTrajectories (caseId : String) : PromotionStore where
  trajectories := ⟨[⟨"support", caseId, "running", none, none⟩,
    ⟨"counterexample", caseId, "running", none, none⟩,
    ⟨"regression", caseId, "running", none, none⟩], by simp⟩
  checkpoints := [("origin", "checkpoint")]
  skills := .empty

/-- The results that name the case of the suite. -/
def readingResults : List SkillReplayResult :=
  passedRecords.filterMap fun call =>
    (resultFromSummary ⟨call.trajectoryId, "case-1", "completed", none, none⟩
      (replaySummary promotionGate call) false).toOption

/-- Whether these results promote the skill, with trajectories of the given case. -/
def isPromoted (caseId : String) : Bool :=
  match promote promotionGate (recordedAfter promotionGate (runningTrajectories caseId)
    passedRecords) readingPatch (readingSkill 1 .active none) readingSuite readingResults 0 with
  | .ok (outcome, _) => outcome.promotedSkill.isSome
  | .error _ => false

theorem fresh_runningTrajectories (caseId : String) :
    ∀ row ∈ (runningTrajectories caseId).trajectories.rows, row.m7ReplayResult = none := by
  intro row member
  simp only [runningTrajectories, mem_cons, not_mem_nil, or_false] at member
  obtain rfl | rfl | rfl := member <;> rfl

/-- The skill is promoted with the trajectories of its case. -/
theorem authoritative_reading : isPromoted "case-1" = true ∧ Authoritative promotionGate
    (recordedAfter promotionGate (runningTrajectories "case-1") passedRecords) readingPatch
    (readingSkill 1 .active none) readingSuite readingResults 0 :=
  ⟨by decide +kernel, authoritative_of_ownCases promotionGate rfl (fresh_runningTrajectories _) _ _
    _ _ _ _ (by decide +kernel)⟩

/-- **The skill is promoted as well with trajectories of another case.** -/
theorem promoted_on_foreign_trajectories : isPromoted "case-2" = true ∧
    ¬ Authoritative promotionGate
      (recordedAfter promotionGate (runningTrajectories "case-2") passedRecords) readingPatch
      (readingSkill 1 .active none) readingSuite readingResults 0 := by
  refine ⟨by decide +kernel, fun authoritative => ?_⟩
  have promoted : isPromoted "case-2" = true := by decide +kernel
  unfold isPromoted at promoted
  split at promoted
  next outcome next answered =>
    obtain ⟨trajectoryOf, -, isReplay⟩ := authoritative.backed _ _ answered promoted
    obtain ⟨listed, _, replay⟩ := isReplay (suiteCase .support) (by decide)
    have foreign : ∀ row ∈ (recordedAfter promotionGate (runningTrajectories "case-2")
        passedRecords).trajectories.rows, row.caseId ≠ "case-1" := by decide +kernel
    exact foreign _ listed replay.ofCase
  next => cases promoted

end SecFusion.Evaluation
