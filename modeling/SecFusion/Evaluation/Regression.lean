import Mathlib

/-!
# The regression gate

The model of `packages/evaluation/benchmark/regression.py`.  A rule is about one metric and
sees its baseline and its candidate through a `reading`: the candidate's value and how far it
is worse.  A metric whose target is zero is never worse there.
-/

namespace SecFusion.Evaluation.RegressionGate

inductive MetricDirection where
  | higherIsBetter
  | lowerIsBetter
  | targetZero
  | informational
  deriving DecidableEq

/-- What the gate reads of an `AggregatedMetric`. -/
structure AggregatedMetric where
  (metricName metricDefinitionRevision : String)
  value : ℚ
  direction : MetricDirection
  deriving DecidableEq

structure RegressionRule where
  metricName : String
  (maxRegression minImprovement hardFloor hardCeiling : Option ℚ := none)
  required : Bool := true

inductive RegressionStatus where
  | pass
  | fail
  | notEvaluated
  deriving DecidableEq

structure RegressionResult where
  metricName : String
  status : RegressionStatus
  (baselineValue candidateValue : Option ℚ)
  delta : Option ℚ := none
  reason : String

structure RegressionGateResult where
  passed : Bool
  results : List RegressionResult

/-- `baseline_metrics.get(name)`: of two entries of one name the dictionary keeps the later. -/
def metricNamed (metrics : List AggregatedMetric) (name : String) : Option AggregatedMetric :=
  (metrics.filter (·.metricName = name)).getLast?

def regression (base cand : AggregatedMetric) : ℚ :=
  match base.direction with
  | .higherIsBetter => base.value - cand.value
  | .lowerIsBetter => cand.value - base.value
  | .targetZero | .informational => 0

def improvement (base cand : AggregatedMetric) : ℚ :=
  match base.direction with
  | .higherIsBetter => cand.value - base.value
  | .lowerIsBetter => base.value - cand.value
  | .targetZero | .informational => 0

/-- One check of a rule: its bound, if it has one, when that is broken, and the reason. -/
def check (bound : Option ℚ) (broken : ℚ → Bool) (reason : ℚ → String) : List String :=
  ((bound.filter broken).map reason).toList

-- How a quantity is formatted, by `{x}` and by `{x:.6g}`.
variable (plain sixDigits : ℚ → String)

def failures (rule : RegressionRule) (base cand : AggregatedMetric) : List String :=
  check rule.hardFloor (cand.value < ·) (fun floor => "candidate below hard floor " ++ plain floor) ++
  check rule.hardCeiling (· < cand.value)
    (fun ceiling => "candidate above hard ceiling " ++ plain ceiling) ++
  check rule.maxRegression (· < regression base cand) (fun most =>
    "regression " ++ sixDigits (regression base cand) ++ " exceeds " ++ plain most) ++
  check rule.minImprovement (improvement base cand < ·) (fun least =>
    "improvement " ++ sixDigits (improvement base cand) ++ " below " ++ plain least)

def evaluateRule (baseline candidate : List AggregatedMetric) (rule : RegressionRule) :
    RegressionResult :=
  match metricNamed baseline rule.metricName, metricNamed candidate rule.metricName with
  | some base, some cand =>
      if base.metricDefinitionRevision ≠ cand.metricDefinitionRevision then
        { metricName := rule.metricName
          status := .fail
          baselineValue := some base.value
          candidateValue := some cand.value
          reason := "metric definition revision changed: " ++ base.metricDefinitionRevision ++
            " -> " ++ cand.metricDefinitionRevision }
      else
        let failures := failures plain sixDigits rule base cand
        { metricName := rule.metricName
          status := if failures = [] then .pass else .fail
          baselineValue := some base.value
          candidateValue := some cand.value
          delta := some (cand.value - base.value)
          reason := if failures = [] then "rule satisfied" else "; ".intercalate failures }
  | base, cand =>
      { metricName := rule.metricName
        status := if rule.required then .fail else .notEvaluated
        baselineValue := base.map (·.value)
        candidateValue := cand.map (·.value)
        reason := "required metric missing from baseline/candidate report" }

/-- `RegressionGate.evaluate`, of the metrics of the two reports. -/
def evaluate (baseline candidate : List AggregatedMetric) (rules : List RegressionRule) :
    RegressionGateResult :=
  let results := rules.map (evaluateRule plain sixDigits baseline candidate)
  { passed := results.all (·.status ≠ .fail)
    results }

/-! ## What a worsened metric is -/

/-- The metric moved away from its declared direction by more than `most`. -/
def MovedAway (base cand : AggregatedMetric) (most : ℚ) : Prop :=
  match base.direction with
  | .higherIsBetter => most < base.value - cand.value
  | .lowerIsBetter => most < cand.value - base.value
  | .targetZero => most < |cand.value| - |base.value|
  | .informational => False

/-- The gate is sound for two reports: no rules let a worsened metric pass, and neither the
order of the metrics nor that of the rules matters. -/
structure GateSound (baseline candidate : List AggregatedMetric) : Prop where
  blocks : ∀ rules, ∀ rule ∈ rules, ∀ most, rule.maxRegression = some most →
    ∀ base ∈ baseline, base.metricName = rule.metricName →
    ∀ cand ∈ candidate, cand.metricName = rule.metricName →
    base.metricDefinitionRevision = cand.metricDefinitionRevision →
    MovedAway base cand most → (evaluate plain sixDigits baseline candidate rules).passed = false
  orderFree : ∀ rules rules' baseline' candidate', baseline'.Perm baseline →
    candidate'.Perm candidate → rules'.Perm rules →
    (evaluate plain sixDigits baseline' candidate' rules').passed =
      (evaluate plain sixDigits baseline candidate rules).passed

/-- What a rule sees of a metric: the candidate's value and how far it is worse. -/
def reading (base cand : AggregatedMetric) : Option (ℚ × ℚ) :=
  if base.metricDefinitionRevision = cand.metricDefinitionRevision then
    some (cand.value, regression base cand)
  else none

/-- Entries of one name are read alike. -/
def ReadAlike (baseline candidate : List AggregatedMetric) : Prop :=
  ∀ base ∈ baseline, ∀ cand ∈ candidate, base.metricName = cand.metricName →
  ∀ base' ∈ baseline, ∀ cand' ∈ candidate, base'.metricName = base.metricName →
    cand'.metricName = base.metricName → reading base' cand' = reading base cand

/-- No metric whose target is zero moved away from zero. -/
def ZerosKept (baseline candidate : List AggregatedMetric) : Prop :=
  ∀ base ∈ baseline, ∀ cand ∈ candidate, base.metricName = cand.metricName →
    base.metricDefinitionRevision = cand.metricDefinitionRevision →
    base.direction = .targetZero → |cand.value| ≤ |base.value|

/-! ## What a rule asks -/

/-- What a rule asks of a reading. -/
structure RegressionRule.Meets (rule : RegressionRule) (value worse : ℚ) : Prop where
  floor : ∀ floor ∈ rule.hardFloor, floor ≤ value
  ceiling : ∀ ceiling ∈ rule.hardCeiling, value ≤ ceiling
  regression : ∀ most ∈ rule.maxRegression, worse ≤ most
  improvement : ∀ least ∈ rule.minImprovement, least ≤ -worse

/-- What a rule asks of the two entries of its metric. -/
def RegressionRule.Holds (rule : RegressionRule) :
    Option AggregatedMetric → Option AggregatedMetric → Prop
  | some base, some cand => ∃ seen, reading base cand = some seen ∧ rule.Meets seen.1 seen.2
  | _, _ => rule.required = false

variable {plain sixDigits} {baseline candidate metrics metrics' : List AggregatedMetric}
  {rules : List RegressionRule} {rule : RegressionRule} {base cand entry : AggregatedMetric}

theorem improvement_eq (base cand : AggregatedMetric) :
    improvement base cand = -regression base cand := by
  unfold improvement regression
  cases base.direction <;> simp

theorem check_eq_nil {bound : Option ℚ} {broken : ℚ → Bool} {reason : ℚ → String} :
    check bound broken reason = [] ↔ ∀ x ∈ bound, broken x = false := by
  cases bound <;> simp [check]

theorem failures_eq_nil : failures plain sixDigits rule base cand = [] ↔
    rule.Meets cand.value (regression base cand) := by
  simp only [failures, List.append_eq_nil_iff, check_eq_nil, decide_eq_false_iff_not, not_lt,
    improvement_eq]
  exact ⟨fun ⟨⟨⟨floor, ceiling⟩, most⟩, least⟩ => ⟨floor, ceiling, most, least⟩,
    fun meets => ⟨⟨⟨meets.floor, meets.ceiling⟩, meets.regression⟩, meets.improvement⟩⟩

theorem evaluateRule_status : (evaluateRule plain sixDigits baseline candidate rule).status ≠ .fail ↔
    rule.Holds (metricNamed baseline rule.metricName) (metricNamed candidate rule.metricName) := by
  unfold evaluateRule
  split
  next base cand baseFound candFound =>
    rw [baseFound, candFound, RegressionRule.Holds, reading]
    by_cases same : base.metricDefinitionRevision = cand.metricDefinitionRevision
    · by_cases none : failures plain sixDigits rule base cand = []
      · simp [same, none, failures_eq_nil.1 none]
      · simp [same, none, mt failures_eq_nil.2 none]
    · simp [same]
  next base cand missing =>
    cases base <;> cases cand <;> simp_all [RegressionRule.Holds]

theorem passed_iff : (evaluate plain sixDigits baseline candidate rules).passed = true ↔
    ∀ rule ∈ rules,
      rule.Holds (metricNamed baseline rule.metricName) (metricNamed candidate rule.metricName) := by
  simp only [evaluate, List.all_map, List.all_eq_true, Function.comp_apply, decide_eq_true_eq,
    evaluateRule_status]

/-! ## Entries of one name -/

theorem metricNamed_eq_some {name : String} (found : metricNamed metrics name = some entry) :
    entry ∈ metrics ∧ entry.metricName = name := by
  have member := List.mem_of_getLast? found
  rwa [List.mem_filter, decide_eq_true_eq] at member

theorem metricNamed_isSome {name : String} :
    (metricNamed metrics name).isSome ↔ ∃ entry ∈ metrics, entry.metricName = name := by
  simp [metricNamed]

/-- Any entry of a name may be the one that counts. -/
theorem exists_perm_named (member : entry ∈ metrics) : ∃ metrics' : List AggregatedMetric,
    metrics'.Perm metrics ∧ metricNamed metrics' entry.metricName = some entry := by
  refine ⟨metrics.erase entry ++ [entry], ?_, ?_⟩
  · exact List.perm_append_singleton entry _ |>.trans (List.perm_cons_erase member).symm
  · simp [metricNamed, List.filter_append]

/-- Rules that are met whenever others are are met by readings that are no worse. -/
theorem reading_of_holds {base' cand' : AggregatedMetric}
    (imp : ∀ rule : RegressionRule, rule.metricName = base.metricName →
      rule.Holds (some base) (some cand) → rule.Holds (some base') (some cand'))
    {seen : ℚ × ℚ} (read : reading base cand = some seen) :
    ∃ seen', reading base' cand' = some seen' ∧ seen.1 ≤ seen'.1 ∧ seen'.2 ≤ seen.2 := by
  obtain ⟨seen', read', meets⟩ := imp
    { metricName := base.metricName, hardFloor := some seen.1, maxRegression := some seen.2 } rfl
    ⟨seen, read, by constructor <;> simp⟩
  exact ⟨seen', read', meets.floor _ rfl, meets.regression _ rfl⟩

/-- Entries that are read alike meet the same rules. -/
theorem ReadAlike.holds_iff (alike : ReadAlike baseline candidate)
    {baseline' candidate' : List AggregatedMetric} (baseSame : baseline'.Perm baseline)
    (candSame : candidate'.Perm candidate) :
    rule.Holds (metricNamed baseline' rule.metricName) (metricNamed candidate' rule.metricName) ↔
      rule.Holds (metricNamed baseline rule.metricName) (metricNamed candidate rule.metricName) := by
  have present : ∀ {before after : List AggregatedMetric}, after.Perm before →
      (metricNamed after rule.metricName).isSome = (metricNamed before rule.metricName).isSome := by
    intro before after same
    rw [Bool.eq_iff_iff, metricNamed_isSome, metricNamed_isSome]
    simp only [same.mem_iff]
  have baseHere := present baseSame
  have candHere := present candSame
  cases found : metricNamed baseline rule.metricName <;>
    cases found' : metricNamed baseline' rule.metricName <;>
    cases read : metricNamed candidate rule.metricName <;>
    cases read' : metricNamed candidate' rule.metricName <;>
    simp only [found, found', read, read', Option.isSome_none, Option.isSome_some, reduceCtorEq]
      at baseHere candHere <;>
    try exact Iff.rfl
  next base base' cand cand' =>
    obtain ⟨baseIn, baseNamed⟩ := metricNamed_eq_some found
    obtain ⟨baseIn', baseNamed'⟩ := metricNamed_eq_some found'
    obtain ⟨candIn, candNamed⟩ := metricNamed_eq_some read
    obtain ⟨candIn', candNamed'⟩ := metricNamed_eq_some read'
    rw [RegressionRule.Holds, RegressionRule.Holds,
      alike base baseIn cand candIn (baseNamed.trans candNamed.symm) base'
        (baseSame.mem_iff.1 baseIn') cand' (candSame.mem_iff.1 candIn')
        (baseNamed'.trans baseNamed.symm) (candNamed'.trans baseNamed.symm)]

/-- A metric that moved away from its direction is worse, unless its target is zero. -/
theorem regression_of_movedAway {most : ℚ} (moved : MovedAway base cand most)
    (kept : base.direction = .targetZero → |cand.value| ≤ |base.value|) :
    most < regression base cand := by
  unfold MovedAway at moved
  unfold regression
  cases direction : base.direction <;> rw [direction] at moved
  case higherIsBetter | lowerIsBetter => exact moved
  case targetZero =>
    have := kept direction
    dsimp only at moved ⊢
    linarith
  case informational => exact moved.elim

namespace GateSound

variable (sound : GateSound plain sixDigits baseline candidate)

include sound

/-- A rule lets all entries of its name pass, or none. -/
theorem holds_iff (baseIn : base ∈ baseline) (candIn : cand ∈ candidate)
    (named : base.metricName = rule.metricName) (alsoNamed : cand.metricName = rule.metricName) :
    rule.Holds (some base) (some cand) ↔
      (evaluate plain sixDigits baseline candidate [rule]).passed = true := by
  obtain ⟨baseline', baseSame, baseLast⟩ := exists_perm_named baseIn
  obtain ⟨candidate', candSame, candLast⟩ := exists_perm_named candIn
  rw [← sound.orderFree [rule] [rule] _ _ baseSame candSame (.refl _), passed_iff,
    List.forall_mem_singleton, ← named, baseLast, named, ← alsoNamed, candLast]

theorem readAlike : ReadAlike baseline candidate := by
  intro base baseIn cand candIn same base' baseIn' cand' candIn' same' alsoSame
  have agree : ∀ rule : RegressionRule, rule.metricName = base.metricName →
      (rule.Holds (some base) (some cand) ↔ rule.Holds (some base') (some cand')) := by
    intro rule named
    rw [sound.holds_iff baseIn candIn named.symm (same.symm.trans named.symm),
      sound.holds_iff baseIn' candIn' (same'.trans named.symm) (alsoSame.trans named.symm)]
  have forth := @reading_of_holds base cand base' cand' fun rule named => (agree rule named).1
  have back := @reading_of_holds base' cand' base cand fun rule named =>
    (agree rule (named.trans same')).2
  cases read : reading base cand with
  | none =>
      cases read' : reading base' cand' with
      | none => rfl
      | some seen' =>
          obtain ⟨seen, some, -⟩ := back read'
          rw [read] at some
          cases some
  | some seen =>
      obtain ⟨seen', read', value, worse⟩ := forth read
      obtain ⟨again, same, value', worse'⟩ := back read'
      obtain rfl := Option.mem_unique read same
      rw [read', Prod.ext (le_antisymm value' value) (le_antisymm worse worse')]

theorem zerosKept : ZerosKept baseline candidate := by
  intro base baseIn cand candIn same revision zero
  by_contra farther
  let rule : RegressionRule := { metricName := base.metricName, maxRegression := some 0 }
  have holds : rule.Holds (some base) (some cand) := by
    refine ⟨(cand.value, regression base cand), if_pos revision, ?_⟩
    constructor <;> simp [rule, regression, zero]
  rw [sound.holds_iff baseIn candIn rfl same.symm,
    sound.blocks [rule] rule (List.mem_singleton_self _) 0 rfl base baseIn rfl cand candIn
      same.symm revision (by rw [MovedAway, zero]; linarith)] at holds
  cases holds

end GateSound

/-- **The gate is sound for two reports if and only if** entries of one name are read alike
and no metric whose target is zero moved away from it. -/
theorem gate_sound_iff (baseline candidate : List AggregatedMetric) :
    GateSound plain sixDigits baseline candidate ↔
      ReadAlike baseline candidate ∧ ZerosKept baseline candidate := by
  constructor
  · exact fun sound => ⟨sound.readAlike, sound.zerosKept⟩
  rintro ⟨alike, kept⟩
  constructor
  case blocks =>
    intro rules rule member most bound base baseIn baseNamed cand candIn candNamed revision moved
    by_contra passes
    obtain ⟨baseline', baseSame, baseLast⟩ := exists_perm_named baseIn
    obtain ⟨candidate', candSame, candLast⟩ := exists_perm_named candIn
    have holds := passed_iff.1 (Bool.eq_true_of_not_eq_false passes) rule member
    rw [← alike.holds_iff baseSame candSame, ← baseNamed, baseLast, baseNamed, ← candNamed,
      candLast, RegressionRule.Holds, reading, if_pos revision] at holds
    obtain ⟨_, read, meets⟩ := holds
    obtain rfl := Option.some.inj read
    have worse := regression_of_movedAway moved
      (kept base baseIn cand candIn (baseNamed.trans candNamed.symm) revision)
    exact absurd (meets.regression most bound) (not_le.2 worse)
  case orderFree =>
    intro rules rules' baseline' candidate' baseSame candSame rulesSame
    rw [Bool.eq_iff_iff, passed_iff, passed_iff]
    simp only [alike.holds_iff baseSame candSame, rulesSame.mem_iff]

/-- Five authority violations where there were none pass a rule that allows no regression. -/
theorem violations_pass : ¬ ∀ baseline candidate : List AggregatedMetric,
    GateSound toString toString baseline candidate := by
  intro sound
  let violations (value : ℚ) : AggregatedMetric :=
    { metricName := "security.authority_violation_count"
      metricDefinitionRevision := "1"
      value
      direction := .targetZero }
  have kept := (sound [violations 0] [violations 5]).blocks
    [{ metricName := "security.authority_violation_count", maxRegression := some 0 }] _
    (List.mem_singleton_self _) 0 rfl _ (List.mem_singleton_self _) rfl _
    (List.mem_singleton_self _) rfl rfl (by simp [MovedAway, violations])
  exact absurd kept (by decide)

end SecFusion.Evaluation.RegressionGate
