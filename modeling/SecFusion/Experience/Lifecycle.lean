import SecFusion.Foundations.Latest
import SecFusion.Experience.Store

/-!
# The lifecycle of an experience

What the columns of an experience and of its versions say about each other after any
calls of the store: which version is current, how the versions are numbered, what an
active version has been evaluated by and how often with which outcome, and which
candidate a version comes from (`experience_lifecycle`).

The invariant has three parts.  `Registered` is about columns that are written once, with
the row; `Published` is about the statuses and the current versions; `Evaluated` is about
the evaluation records.  A call that revises rows but adds no version keeps the first part
whatever else it does (`Registered.of_revises`).
-/

namespace SecFusion.Experience

open Foundations

/-! ## The invariant -/

/-- The columns of a version that are written with the row. -/
structure SameVersion (old new : ExperienceVersionModel) : Prop where
  id : new.experienceVersionId = old.experienceVersionId
  home : new.experienceId = old.experienceId
  number : new.version = old.version
  source : new.sourceCandidateId = old.sourceCandidateId

/-- The numbers of the versions of an experience, in the order they were added. -/
def ExperienceTables.numbers (tables : ExperienceTables) (experienceId : String) : List ℕ :=
  (tables.versions.select fun row => row.experienceId = experienceId).map (·.version)

open ExperienceTables (numbers supportsOf)

/-- **Registration**: a version has an experience, which numbers it, and an accepted
candidate, which has no other version; an evaluation record has a version. -/
structure Registered (tables : ExperienceTables) : Prop where
  home : ∀ id version, tables.versions.get? id = some version →
    ∃ experience, tables.experiences.get? version.experienceId = some experience
  numbered : ∀ experienceId, ∃ count, tables.numbers experienceId = range' 1 count
  origin : ∀ id version, tables.versions.get? id = some version →
    ∃ candidateId candidate, version.sourceCandidateId = some candidateId ∧
      tables.candidates.get? candidateId = some candidate ∧ candidate.status = .accepted
  single : ∀ first version second other, tables.versions.get? first = some version →
    tables.versions.get? second = some other →
    version.sourceCandidateId = other.sourceCandidateId → first = second
  subject : ∀ support ∈ tables.supports.rows,
    ∃ version, tables.versions.get? support.experienceVersionId = some version

/-- **Publication**: the current version of an experience is the active one. -/
structure Published (tables : ExperienceTables) : Prop where
  current : ∀ id version, tables.versions.get? id = some version → version.status = .active →
    ∃ experience, tables.experiences.get? version.experienceId = some experience ∧
      experience.currentVersionId = some id
  pointed : ∀ experienceId experience id,
    tables.experiences.get? experienceId = some experience →
    experience.currentVersionId = some id →
    ∃ version, tables.versions.get? id = some version ∧ version.experienceId = experienceId ∧
      version.status = .active

/-- The counts of a version are those of its evaluation records. -/
structure CountedBy (version : ExperienceVersionModel) (supports : List ExperienceSupportModel) :
    Prop where
  successes : version.successCount = outcomeCount supports .success
  failures : version.failureCount = outcomeCount supports .failure
  partials : version.partialCount = outcomeCount supports .inPart

/-- **Evaluation**: a validated or active version has evaluation records, and the counts of
a version count its records. -/
structure Evaluated (tables : ExperienceTables) : Prop where
  supported : ∀ id version, tables.versions.get? id = some version →
    version.status = .validated ∨ version.status = .active → tables.supportsOf id ≠ []
  counted : ∀ id version, tables.versions.get? id = some version →
    CountedBy version (tables.supportsOf id)

structure WellKept (tables : ExperienceTables) : Prop where
  registered : Registered tables
  published : Published tables
  evaluated : Evaluated tables

variable
  {id newExperienceId newVersionId supportId experienceVersionId trajectoryId evaluator : String}
  {version : ExperienceVersionModel} {experience : ExperienceModel} {view : ExperienceVersion}
  {draft : ExperienceDraft} {now : ℤ} {experienceId supersedes : Option String} {number : ℕ}
  {evaluation : JsonObject}

section Registration

variable {tables next : ExperienceTables}

/-- The tables keep their candidates, versions and experiences, up to columns that are
written again. -/
structure Revises (tables next : ExperienceTables) : Prop where
  versions : Forall₂ SameVersion tables.versions.rows next.versions.rows
  experiences : Forall₂ (fun old new : ExperienceModel =>
    new.experienceId = old.experienceId) tables.experiences.rows next.experiences.rows
  candidates : next.candidates = tables.candidates

/-- A version that is there was there. -/
theorem Revises.version_before (revises : Revises tables next)
    (found : next.versions.get? id = some version) :
    ∃ old, tables.versions.get? id = some old ∧ SameVersion old version := by
  rcases Table.get?_of_forall₂ revises.versions (fun _ _ same => same.id) id with
    ⟨-, absent⟩ | ⟨old, new, before, after, same⟩
  · rw [found] at absent
    cases absent
  · rw [found] at after
    cases after
    exact ⟨old, before, same⟩

/-- A version that was there is there. -/
theorem Revises.version_after (revises : Revises tables next)
    (found : tables.versions.get? id = some version) :
    ∃ new, next.versions.get? id = some new := by
  rcases Table.get?_of_forall₂ revises.versions (fun _ _ same => same.id) id with
    ⟨absent, -⟩ | ⟨old, new, -, after, -⟩
  · rw [found] at absent
    cases absent
  · exact ⟨new, after⟩

/-- An experience that was there is there. -/
theorem Revises.experience_after (revises : Revises tables next)
    (found : tables.experiences.get? id = some experience) :
    ∃ new, next.experiences.get? id = some new := by
  rcases Table.get?_of_forall₂ revises.experiences (fun _ _ same => same) id with
    ⟨absent, -⟩ | ⟨old, new, -, after, -⟩
  · rw [found] at absent
    cases absent
  · exact ⟨new, after⟩

/-- Versions keep their numbers. -/
theorem Revises.numbers (revises : Revises tables next) (experienceId : String) :
    next.numbers experienceId = tables.numbers experienceId := by
  obtain ⟨pointwise, -, -⟩ := revises
  unfold ExperienceTables.numbers select
  generalize tables.versions.rows = before at pointwise
  generalize next.versions.rows = after at pointwise
  induction pointwise with
  | nil => rfl
  | cons same _ ih =>
      rw [filter_cons, filter_cons, same.home]
      split
      · rw [map_cons, map_cons, ih, same.number]
      · exact ih

/-- **A revision keeps the registration.** -/
theorem Registered.of_revises (registered : Registered tables) (revises : Revises tables next)
    (subject : ∀ support ∈ next.supports.rows,
      ∃ version, tables.versions.get? support.experienceVersionId = some version) :
    Registered next where
  home := by
    intro id version found
    obtain ⟨old, before, same⟩ := revises.version_before found
    obtain ⟨experience, here⟩ := registered.home id old before
    rw [same.home]
    exact revises.experience_after here
  numbered := by
    intro experienceId
    rw [revises.numbers]
    exact registered.numbered experienceId
  origin := by
    intro id version found
    obtain ⟨old, before, same⟩ := revises.version_before found
    rw [same.source, revises.candidates]
    exact registered.origin id old before
  single := by
    intro first version second other found otherFound alike
    obtain ⟨old, before, same⟩ := revises.version_before found
    obtain ⟨oldOther, otherBefore, otherSame⟩ := revises.version_before otherFound
    refine registered.single first old second oldOther before otherBefore ?_
    rw [← same.source, ← otherSame.source, alike]
  subject := by
    intro support member
    obtain ⟨version, found⟩ := subject support member
    exact revises.version_after found

end Registration

/-! ## Candidates -/

section Candidates

variable {tables next : ExperienceTables} {candidateId : String}

/-- Accepted candidates that stay accepted keep the registration. -/
theorem Registered.of_candidates (registered : Registered tables)
    {candidates : Table ExperienceCandidateModel String (·.candidateId)}
    (kept : ∀ id candidate, tables.candidates.get? id = some candidate →
      candidate.status = .accepted →
      ∃ after, candidates.get? id = some after ∧ after.status = .accepted) :
    Registered { tables with candidates } where
  home := registered.home
  numbered := registered.numbered
  single := registered.single
  subject := registered.subject
  origin := by
    intro id version found
    obtain ⟨candidateId, candidate, source, here, accepted⟩ := registered.origin id version found
    obtain ⟨after, there, still⟩ := kept candidateId candidate here accepted
    exact ⟨candidateId, after, source, there, still⟩

theorem WellKept.createCandidate (kept : WellKept tables) {view : ExperienceCandidate}
    {sourceTrajectoryId extractionKind rationale : String}
    (ok : createCandidate tables candidateId sourceTrajectoryId extractionKind draft rationale
      now = .ok (view, next)) : WellKept next := by
  unfold Experience.createCandidate at ok
  simp only [require_bind_eq_ok, fetch_bind_eq_ok] at ok
  obtain ⟨trajectory, -, -, -, candidates, inserted, ok⟩ := ok
  cases ok
  refine ⟨kept.registered.of_candidates ?_, ⟨kept.published.current, kept.published.pointed⟩,
    ⟨kept.evaluated.supported, kept.evaluated.counted⟩⟩
  intro id candidate found accepted
  refine ⟨candidate, ?_, accepted⟩
  rw [get?_insert? inserted, if_neg, found]
  rintro rfl
  rw [(insert?_eq_some inserted).2] at found
  cases found

/-- A candidate that is not accepted may be decided, and any may be accepted. -/
theorem Registered.decide (registered : Registered tables) {status : CandidateStatus}
    (allowed : status = .accepted ∨ ∀ candidate, tables.candidates.get? candidateId =
      some candidate → candidate.status ≠ .accepted) :
    Registered (tables.decide candidateId status now) := by
  refine registered.of_candidates fun id candidate found accepted => ?_
  rw [get?_update]
  by_cases same : candidateId = id
  · subst same
    rw [if_pos rfl, found]
    refine ⟨candidate.decided status now, rfl, ?_⟩
    rcases allowed with rfl | undecided
    · rfl
    · exact absurd accepted (undecided candidate found)
  · rw [if_neg same]
    exact ⟨candidate, found, accepted⟩

theorem WellKept.rejectCandidate (kept : WellKept tables) {answer : Unit}
    (ok : rejectCandidate tables candidateId now = .ok (answer, next)) : WellKept next := by
  unfold Experience.rejectCandidate at ok
  simp only [require_bind_eq_ok, fetch_bind_eq_ok] at ok
  obtain ⟨candidate, found, undecided, ok⟩ := ok
  cases ok
  refine ⟨kept.registered.decide (.inr ?_), ⟨kept.published.current, kept.published.pointed⟩,
    ⟨kept.evaluated.supported, kept.evaluated.counted⟩⟩
  intro other otherFound
  rw [found] at otherFound
  cases otherFound
  exact undecided

end Candidates

/-! ## A new version -/

section Adding

variable {tables next opened : ExperienceTables}

/-- **The experience of a new version**: it is there afterwards, with every other one and
with no other current versions, and the number is the next one. -/
structure Targets (tables opened : ExperienceTables) (experience : ExperienceModel)
    (number : ℕ) : Prop where
  candidates : opened.candidates = tables.candidates
  versions : opened.versions = tables.versions
  supports : opened.supports = tables.supports
  found : opened.experiences.get? experience.experienceId = some experience
  kept : ∀ id old, tables.experiences.get? id = some old →
    ∃ new, opened.experiences.get? id = some new ∧ new.currentVersionId = old.currentVersionId
  noOther : ∀ id new, opened.experiences.get? id = some new → new.currentVersionId = none ∨
    ∃ old, tables.experiences.get? id = some old ∧ old.currentVersionId = new.currentVersionId
  follows : number = (tables.numbers experience.experienceId).length + 1

theorem targetExperience_ok (registered : Registered tables)
    (ok : targetExperience tables experienceId newExperienceId draft now =
      .ok (experience, number, supersedes, opened)) : Targets tables opened experience number := by
  cases experienceId with
  | none =>
      simp only [targetExperience, fetch_bind_eq_ok] at ok
      obtain ⟨experiences, inserted, ok⟩ := ok
      cases ok
      have absent : tables.experiences.get? newExperienceId = none :=
        (insert?_eq_some inserted).2
      refine ⟨rfl, rfl, rfl, ?_, ?_, ?_, ?_⟩
      · rw [get?_insert? inserted, if_pos rfl]
      · intro id old found
        refine ⟨old, ?_, rfl⟩
        rw [get?_insert? inserted, if_neg, found]
        rintro rfl
        cases absent.symm.trans found
      · intro id new found
        rw [get?_insert? inserted] at found
        split at found
        · cases found
          exact .inl rfl
        · exact .inr ⟨new, found, rfl⟩
      · -- no version has an experience that is not there
        have unnumbered : tables.numbers newExperienceId = [] := by
          unfold numbers
          rw [map_eq_nil_iff, eq_nil_iff_forall_not_mem]
          intro version member
          obtain ⟨listed, same⟩ := mem_select.1 member
          obtain ⟨other, found⟩ := registered.home _ version (get?_of_mem listed)
          rw [of_decide_eq_true same, absent] at found
          cases found
        show 1 = (tables.numbers newExperienceId).length + 1
        rw [unnumbered]
        rfl
  | some experienceId =>
      simp only [targetExperience, fetch_bind_eq_ok, require_bind_eq_ok] at ok
      obtain ⟨old, found, -, ok⟩ := ok
      cases ok
      have named := key_of_get? found
      refine ⟨rfl, rfl, rfl, ?_, ?_, ?_, ?_⟩
      · rw [ExperienceModel.renamed_experienceId, get?_update, named, if_pos rfl, found]
        rfl
      · intro id other otherFound
        rw [get?_update, otherFound]
        split
        · exact ⟨_, rfl, rfl⟩
        · exact ⟨other, rfl, rfl⟩
      · intro id new newFound
        rw [get?_update] at newFound
        split at newFound
        · obtain ⟨other, otherFound, rfl⟩ := map_eq_some_iff.1 newFound
          exact .inr ⟨other, otherFound, rfl⟩
        · exact .inr ⟨new, newFound, rfl⟩
      · obtain ⟨count, counted⟩ := registered.numbered experienceId
        show tables.maxVersion experienceId + 1 = (tables.numbers old.experienceId).length + 1
        have largest : tables.maxVersion experienceId =
            (tables.numbers experienceId).foldl max 0 := rfl
        rw [largest, named, counted, foldl_max_range', List.length_range']

/-- A new version has no evaluation record yet. -/
theorem supportsOf_absent (registered : Registered tables) (absent : tables.versions.get? id = none) :
    tables.supportsOf id = [] := by
  rw [supportsOf, eq_nil_iff_forall_not_mem]
  intro support member
  obtain ⟨listed, same⟩ := mem_select.1 member
  obtain ⟨version, found⟩ := registered.subject support listed
  rw [of_decide_eq_true same, absent] at found
  cases found

/-- **A version is added** to the experience that has been made ready for it. -/
theorem WellKept.insertVersion (kept : WellKept tables)
    (targets : Targets tables opened experience number) {candidate : ExperienceCandidateModel}
    (chosen : tables.candidates.get? candidate.candidateId = some candidate)
    (unused : ∀ version ∈ tables.versions.rows,
      version.sourceCandidateId ≠ some candidate.candidateId)
    {versions : Table ExperienceVersionModel String (·.experienceVersionId)}
    (inserted : opened.versions.insert? (newVersion newVersionId experience.experienceId number
      supersedes candidate.candidateId candidate.draft now) = some versions) :
    WellKept { opened.decide candidate.candidateId .accepted now with versions } := by
  set version := newVersion newVersionId experience.experienceId number supersedes
    candidate.candidateId candidate.draft now with isVersion
  rw [targets.versions] at inserted
  have absent : tables.versions.get? newVersionId = none := (insert?_eq_some inserted).2
  -- a version of the table is the new one or an old one
  have cases_of : ∀ id found, versions.get? id = some found →
      (id = newVersionId ∧ found = version) ∨ tables.versions.get? id = some found := by
    intro id found here
    rw [get?_insert? inserted] at here
    split at here
    next same =>
      cases here
      exact .inl ⟨same.symm, rfl⟩
    next => exact .inr here
  have old : ∀ id found, tables.versions.get? id = some found → versions.get? id = some found := by
    intro id found here
    rw [get?_insert? inserted, if_neg, here]
    rintro rfl
    cases absent.symm.trans here
  have fresh : ∀ id found, tables.versions.get? id = some found →
      found.sourceCandidateId ≠ some candidate.candidateId := by
    intro id found here
    exact unused found (mem_of_get? here)
  have undecided : ∀ id found, tables.candidates.get? id = some found →
      found.status = .accepted → ∃ after, (opened.decide candidate.candidateId .accepted
        now).candidates.get? id = some after ∧ after.status = .accepted := by
    intro id found here accepted
    have others : (opened.decide candidate.candidateId .accepted now).candidates =
        (tables.decide candidate.candidateId .accepted now).candidates := by
      rw [ExperienceTables.decide, ExperienceTables.decide, targets.candidates]
    rw [others, ExperienceTables.decide, get?_update]
    split
    · rw [here]
      exact ⟨found.decided .accepted now, rfl, rfl⟩
    · exact ⟨found, here, accepted⟩
  refine ⟨⟨?_, ?_, ?_, ?_, ?_⟩, ⟨?_, ?_⟩, ⟨?_, ?_⟩⟩
  · intro id found here
    rcases cases_of id found here with ⟨-, rfl⟩ | before
    · exact ⟨experience, targets.found⟩
    · obtain ⟨home, there⟩ := kept.registered.home id found before
      obtain ⟨new, after, -⟩ := targets.kept _ home there
      exact ⟨new, after⟩
  · intro experienceId
    obtain ⟨count, counted⟩ := kept.registered.numbered experienceId
    have appended : numbers { opened.decide candidate.candidateId .accepted now with
        versions } experienceId = tables.numbers experienceId ++
          if experience.experienceId = experienceId then [number] else [] := by
      unfold numbers select
      show (versions.rows.filter _).map _ = _
      rw [(insert?_eq_some inserted).1, filter_append, map_append]
      congr 1
      by_cases same : experience.experienceId = experienceId
      · rw [if_pos same, List.filter_cons_of_pos (by exact decide_eq_true same)]
        rfl
      · rw [if_neg same, filter_cons_of_neg (by exact fun hit => same (of_decide_eq_true hit))]
        rfl
    rw [appended]
    by_cases same : experience.experienceId = experienceId
    · refine ⟨count + 1, ?_⟩
      have next : number = 1 + 1 * count := by
        rw [targets.follows, same, counted, List.length_range']
        omega
      rw [if_pos same, counted, List.range'_concat, next]
    · refine ⟨count, ?_⟩
      rw [if_neg same, counted, append_nil]
  · intro id found here
    rcases cases_of id found here with ⟨-, rfl⟩ | before
    · refine ⟨candidate.candidateId, candidate.decided .accepted now, rfl, ?_, rfl⟩
      show (opened.decide candidate.candidateId .accepted now).candidates.get? _ = _
      rw [ExperienceTables.decide, get?_update, if_pos rfl, targets.candidates, chosen]
      rfl
    · obtain ⟨candidateId, origin, source, there, accepted⟩ :=
        kept.registered.origin id found before
      obtain ⟨after, still, acceptedStill⟩ := undecided candidateId origin there accepted
      exact ⟨candidateId, after, source, still, acceptedStill⟩
  · intro first found second other here there alike
    rcases cases_of first found here with ⟨rfl, rfl⟩ | before
    · rcases cases_of second other there with ⟨rfl, -⟩ | otherBefore
      · rfl
      · exact absurd alike.symm (fresh second other otherBefore)
    · rcases cases_of second other there with ⟨rfl, rfl⟩ | otherBefore
      · exact absurd alike (fresh first found before)
      · exact kept.registered.single first found second other before otherBefore alike
  · intro support member
    have listed : support ∈ tables.supports.rows := by
      rw [← targets.supports]
      exact member
    obtain ⟨found, here⟩ := kept.registered.subject support listed
    exact ⟨found, old _ found here⟩
  · intro id found here active
    rcases cases_of id found here with ⟨-, rfl⟩ | before
    · cases active
    · obtain ⟨home, there, current⟩ := kept.published.current id found before active
      obtain ⟨new, after, same⟩ := targets.kept _ home there
      exact ⟨new, after, same.trans current⟩
  · intro experienceId new id here current
    rcases targets.noOther experienceId new here with none | ⟨home, there, same⟩
    · cases none.symm.trans current
    · obtain ⟨found, before, ofHome, active⟩ :=
        kept.published.pointed experienceId home id there (same.trans current)
      exact ⟨found, old id found before, ofHome, active⟩
  · intro id found here status
    have same : supportsOf { opened.decide candidate.candidateId .accepted now with
        versions } id = tables.supportsOf id := by
      show opened.supports.select _ = tables.supports.select _
      rw [targets.supports]
    rw [same]
    rcases cases_of id found here with ⟨-, rfl⟩ | before
    · rcases status with status | status <;> cases status
    · exact kept.evaluated.supported id found before status
  · intro id found here
    have same : supportsOf { opened.decide candidate.candidateId .accepted now with
        versions } id = tables.supportsOf id := by
      show opened.supports.select _ = tables.supports.select _
      rw [targets.supports]
    rw [same]
    rcases cases_of id found here with ⟨rfl, rfl⟩ | before
    · rw [supportsOf_absent kept.registered absent]
      exact ⟨rfl, rfl, rfl⟩
    · exact kept.evaluated.counted id found before

theorem WellKept.materializeCandidate (kept : WellKept tables) {candidateId : String}
    (ok : materializeCandidate tables candidateId experienceId newExperienceId newVersionId
      now = .ok (view, next)) : WellKept next := by
  unfold Experience.materializeCandidate at ok
  simp only [require_bind_eq_ok, fetch_bind_eq_ok] at ok
  obtain ⟨candidate, chosen, -, ok⟩ := ok
  have named : candidate.candidateId = candidateId := key_of_get? chosen
  split at ok
  · -- the version is there already
    simp only [fetch_bind_eq_ok] at ok
    obtain ⟨experience, -, ok⟩ := ok
    cases ok
    exact kept
  next absent =>
    have unused : ∀ version ∈ tables.versions.rows,
        version.sourceCandidateId ≠ some candidate.candidateId := by
      intro version member same
      exact find?_eq_none.1 absent version member (decide_eq_true (named ▸ same))
    unfold addVersion at ok
    obtain ⟨⟨experience, number, supersedes, opened⟩, target, ok⟩ := bind_eq_ok.1 ok
    simp only [require_bind_eq_ok, fetch_bind_eq_ok] at ok
    obtain ⟨-, versions, inserted, ok⟩ := ok
    cases ok
    exact kept.insertVersion (targetExperience_ok kept.registered target) (named ▸ chosen) unused
      inserted

end Adding

/-! ## Evaluations -/

section Evaluation

variable {tables next evaluated : ExperienceTables}

/-- **What an evaluation writes**: a record of the version, and no record of another
version. -/
structure Records (tables evaluated : ExperienceTables) (experienceVersionId : String) : Prop where
  candidates : evaluated.candidates = tables.candidates
  experiences : evaluated.experiences = tables.experiences
  versions : evaluated.versions = tables.versions
  present : evaluated.supportsOf experienceVersionId ≠ []
  others : ∀ id, id ≠ experienceVersionId → evaluated.supportsOf id = tables.supportsOf id
  subject : ∀ support ∈ evaluated.supports.rows,
    support.experienceVersionId = experienceVersionId ∨
      ∃ old ∈ tables.supports.rows, old.experienceVersionId = support.experienceVersionId

theorem writeSupport_ok {outcome : EvaluationOutcome}
    (ok : writeSupport tables supportId experienceVersionId trajectoryId outcome evaluation
      evaluator now = .ok evaluated) : Records tables evaluated experienceVersionId := by
  unfold writeSupport at ok
  split at ok
  · simp only [fetch_bind_eq_ok] at ok
    obtain ⟨supports, inserted, ok⟩ := ok
    cases ok
    obtain ⟨rows, -⟩ := insert?_eq_some inserted
    refine ⟨rfl, rfl, rfl, ?_, ?_, ?_⟩
    · have member : (⟨supportId, experienceVersionId, trajectoryId, outcome, evaluation, evaluator,
          now⟩ : ExperienceSupportModel) ∈ supports.rows := by
        rw [rows]
        exact mem_append_right _ (mem_singleton_self _)
      exact ne_nil_of_mem (mem_select.2 ⟨member, decide_eq_true rfl⟩)
    · intro id different
      exact Table.select_insert? inserted (decide_eq_false fun same => different same.symm)
    · intro support member
      rw [rows] at member
      rcases mem_append.1 member with before | new
      · exact .inr ⟨support, before, rfl⟩
      · rw [mem_singleton.1 new]
        exact .inl rfl
  next existing found =>
    cases ok
    have listed := mem_of_find?_eq_some found
    have holds : existing.experienceVersionId = experienceVersionId := by
      have both := find?_some found
      exact (of_decide_eq_true both).1
    refine ⟨rfl, rfl, rfl, ?_, ?_, ?_⟩
    · have member : existing.reevaluated outcome evaluation evaluator now ∈
          (tables.supports.update existing.supportId _
            (·.reevaluated_supportId outcome evaluation evaluator now)).rows := by
        rw [Table.rows_update]
        exact mem_map.2 ⟨existing, listed, if_pos rfl⟩
      exact ne_nil_of_mem (mem_select.2 ⟨member, decide_eq_true holds⟩)
    · intro id different
      refine Table.select_update (·.reevaluated_supportId outcome evaluation evaluator now)
        fun row member same => ?_
      have row_eq : row = existing := eq_of_key member listed same
      have elsewhere : ¬ existing.experienceVersionId = id := by
        rw [holds]
        exact fun hit => different hit.symm
      rw [row_eq]
      exact ⟨decide_eq_false elsewhere, decide_eq_false elsewhere⟩
    · intro support member
      rw [Table.rows_update] at member
      obtain ⟨row, inside, rfl⟩ := mem_map.1 member
      refine .inr ⟨row, inside, ?_⟩
      split <;> rfl

theorem WellKept.recordEvaluation (kept : WellKept tables) {outcome : String}
    (ok : recordEvaluation tables supportId experienceVersionId trajectoryId outcome
      evaluation evaluator now = .ok (view, next)) : WellKept next := by
  unfold Experience.recordEvaluation at ok
  simp only [require_bind_eq_ok, fetch_bind_eq_ok] at ok
  obtain ⟨outcome, -, version, found, -, ok⟩ := ok
  obtain ⟨evaluated, written, ok⟩ := bind_eq_ok.1 ok
  simp only [fetch_bind_eq_ok] at ok
  obtain ⟨experience, -, ok⟩ := ok
  cases ok
  have records := writeSupport_ok written
  set supports := evaluated.supportsOf experienceVersionId with areSupports
  have there : evaluated.versions.get? experienceVersionId = some version := by
    rw [records.versions]
    exact found
  have keeps := fun row : ExperienceVersionModel =>
    row.recomputed_experienceVersionId supports now
  refine ⟨kept.registered.of_revises ⟨?_, ?_, records.candidates⟩ ?_, ⟨?_, ?_⟩, ⟨?_, ?_⟩⟩
  · rw [← records.versions]
    exact Table.forall₂_update _ _ keeps
      (fun row => ⟨rfl, rfl, rfl, rfl⟩) fun row => ⟨rfl, rfl, rfl, rfl⟩
  · rw [← records.experiences, forall₂_same]
    exact fun row _ => rfl
  · intro support member
    rcases records.subject support member with same | ⟨old, listed, same⟩
    · rw [same]
      exact ⟨version, found⟩
    · rw [← same]
      exact kept.registered.subject old listed
  · intro id row here active
    show ∃ home, evaluated.experiences.get? row.experienceId = some home ∧ _
    rw [records.experiences]
    rcases cases_get?_update keeps there here with ⟨rfl, rfl⟩ | ⟨-, before⟩
    · exact kept.published.current _ version found active
    · rw [records.versions] at before
      exact kept.published.current id row before active
  · intro experienceId home id here current
    rw [records.experiences] at here
    obtain ⟨row, before, ofHome, active⟩ :=
      kept.published.pointed experienceId home id here current
    rw [get?_update, records.versions, before]
    split
    · exact ⟨row.recomputed supports now, rfl, ofHome, active⟩
    · exact ⟨row, rfl, ofHome, active⟩
  · intro id row here status
    rcases cases_get?_update keeps there here with ⟨rfl, -⟩ | ⟨different, before⟩
    · exact records.present
    · rw [records.versions] at before
      show evaluated.supportsOf id ≠ []
      rw [records.others id different]
      exact kept.evaluated.supported id row before status
  · intro id row here
    rcases cases_get?_update keeps there here with ⟨rfl, rfl⟩ | ⟨different, before⟩
    · exact ⟨rfl, rfl, rfl⟩
    · rw [records.versions] at before
      show CountedBy row (evaluated.supportsOf id)
      rw [records.others id different]
      exact kept.evaluated.counted id row before

end Evaluation

/-! ## Publishing -/

section Publishing

variable {tables next : ExperienceTables}

/-- A revision that leaves the records and the counts keeps the evaluation, if what it
validates or activates has records. -/
theorem Evaluated.of_revises (evaluated : Evaluated tables) (revises : Revises tables next)
    (supports : next.supports = tables.supports)
    (counts : ∀ id old new, tables.versions.get? id = some old →
      next.versions.get? id = some new → new.successCount = old.successCount ∧
        new.failureCount = old.failureCount ∧ new.partialCount = old.partialCount)
    (earned : ∀ id old new, tables.versions.get? id = some old →
      next.versions.get? id = some new → new.status = .validated ∨ new.status = .active →
      (old.status = .validated ∨ old.status = .active) ∨ tables.supportsOf id ≠ []) :
    Evaluated next where
  supported := by
    intro id new found status
    obtain ⟨old, before, -⟩ := revises.version_before found
    show next.supports.select _ ≠ []
    rw [supports]
    rcases earned id old new before found status with already | present
    · exact evaluated.supported id old before already
    · exact present
  counted := by
    intro id new found
    obtain ⟨old, before, -⟩ := revises.version_before found
    obtain ⟨successes, failures, partials⟩ := counts id old new before found
    have counted := evaluated.counted id old before
    show CountedBy new (next.supports.select _)
    rw [supports]
    exact ⟨successes.trans counted.successes, failures.trans counted.failures,
      partials.trans counted.partials⟩

theorem lockedVersionAndExperience_ok
    (locked : lockedVersionAndExperience tables experienceVersionId = .ok (version, experience)) :
    tables.versions.get? experienceVersionId = some version ∧
      tables.experiences.get? version.experienceId = some experience ∧
      experience.experienceId = version.experienceId := by
  unfold lockedVersionAndExperience at locked
  simp only [fetch_bind_eq_ok] at locked
  obtain ⟨version, found, experience, home, locked⟩ := locked
  cases locked
  exact ⟨found, home, key_of_get? home⟩

theorem WellKept.markValidated (kept : WellKept tables) {validationSummary : JsonObject}
    (ok : markValidated tables experienceVersionId validationSummary now =
      .ok (view, next)) : WellKept next := by
  unfold Experience.markValidated at ok
  obtain ⟨⟨version, experience⟩, locked, ok⟩ := bind_eq_ok.1 ok
  simp only [require_bind_eq_ok] at ok
  obtain ⟨status, present, ok⟩ := ok
  cases ok
  obtain ⟨found, home, named⟩ := lockedVersionAndExperience_ok locked
  have keeps := fun row : ExperienceVersionModel =>
    row.markedValidated_experienceVersionId validationSummary now
  have revises : Revises tables { tables with
      versions := tables.versions.update experienceVersionId
        (·.markedValidated validationSummary now) keeps
      experiences := tables.experiences.update experience.experienceId (·.touched now)
        (·.touched_experienceId now) } := by
    refine ⟨?_, ?_, rfl⟩
    · exact Table.forall₂_update _ _ keeps (fun row => ⟨rfl, rfl, rfl, rfl⟩)
        fun row => ⟨rfl, rfl, rfl, rfl⟩
    · exact Table.forall₂_update _ _ (·.touched_experienceId now) (fun row => rfl) fun row => rfl
  have touched := Table.map_get?_update tables.experiences experience.experienceId
    (·.touched_experienceId now) (·.currentVersionId) fun _ => rfl
  refine ⟨kept.registered.of_revises revises kept.registered.subject, ⟨?_, ?_⟩,
    kept.evaluated.of_revises revises rfl ?_ ?_⟩
  · intro id row here active
    rcases cases_get?_update keeps found here with ⟨rfl, rfl⟩ | ⟨-, before⟩
    · cases active
    · obtain ⟨old, there, current⟩ := kept.published.current id row before active
      have same := touched row.experienceId
      rw [there] at same
      obtain ⟨new, after, pointed⟩ := map_eq_some_iff.1 same
      exact ⟨new, after, pointed.trans current⟩
  · intro experienceId new id here current
    have same := touched experienceId
    rw [here] at same
    obtain ⟨old, there, pointed⟩ := map_eq_some_iff.1 same.symm
    obtain ⟨row, before, ofHome, active⟩ :=
      kept.published.pointed experienceId old id there (pointed.trans current)
    refine ⟨row, ?_, ofHome, active⟩
    show Table.get? _ id = some row
    rw [get?_update, if_neg, before]
    rintro rfl
    -- an active version cannot be validated
    rw [found] at before
    cases before
    rw [active] at status
    rcases status with status | status <;> cases status
  · intro id old new before after
    rcases cases_get?_update keeps found after with ⟨rfl, rfl⟩ | ⟨-, same⟩
    · rw [found] at before
      cases before
      exact ⟨rfl, rfl, rfl⟩
    · rw [before] at same
      cases same
      exact ⟨rfl, rfl, rfl⟩
  · intro id old new before after nowStatus
    rcases cases_get?_update keeps found after with ⟨rfl, rfl⟩ | ⟨-, same⟩
    · exact .inr present
    · rw [before] at same
      cases same
      exact .inl nowStatus

/-- **Activation** makes the version the active one of its experience. -/
theorem WellKept.activate (kept : WellKept tables)
    (ok : activate tables experienceVersionId now = .ok (view, next)) : WellKept next := by
  unfold Experience.activate at ok
  obtain ⟨⟨version, experience⟩, locked, ok⟩ := bind_eq_ok.1 ok
  simp only [require_bind_eq_ok] at ok
  obtain ⟨validated, ok⟩ := ok
  cases ok
  obtain ⟨found, home, named⟩ := lockedVersionAndExperience_ok locked
  have keeps := ExperienceVersionModel.onActivation_id experience.experienceId
    experienceVersionId now
  have points := fun row : ExperienceModel =>
    row.pointed_experienceId (some experienceVersionId) now
  have same : ∀ row : ExperienceVersionModel, SameVersion row
      (row.onActivation experience.experienceId experienceVersionId now) := by
    intro row
    unfold onActivation
    split
    · exact ⟨rfl, rfl, rfl, rfl⟩
    · split <;> exact ⟨rfl, rfl, rfl, rfl⟩
  -- a version afterwards is what the activation makes of an old one
  have before_of : ∀ id row, (tables.versions.modify
      (·.onActivation experience.experienceId experienceVersionId now) keeps).get? id = some row →
        ∃ old, tables.versions.get? id = some old ∧
          row = old.onActivation experience.experienceId experienceVersionId now := by
    intro id row here
    rw [get?_modify] at here
    obtain ⟨old, before, rfl⟩ := map_eq_some_iff.1 here
    exact ⟨old, before, rfl⟩
  have revises : Revises tables { tables with
      versions := tables.versions.modify
        (·.onActivation experience.experienceId experienceVersionId now) keeps
      experiences := tables.experiences.update experience.experienceId
        (·.pointed (some experienceVersionId) now) points } := by
    refine ⟨?_, Table.forall₂_update _ _ points (fun row => rfl) fun row => rfl, rfl⟩
    rw [Table.rows_modify, forall₂_map_right_iff, forall₂_same]
    exact fun row _ => same row
  refine ⟨kept.registered.of_revises revises kept.registered.subject, ⟨?_, ?_⟩,
    kept.evaluated.of_revises revises rfl ?_ ?_⟩
  · intro id row here active
    obtain ⟨old, before, rfl⟩ := before_of id row here
    have identified := key_of_get? before
    rw [(same old).home]
    by_cases this : id = experienceVersionId
    · -- the version that is activated
      subst this
      rw [found] at before
      cases before
      refine ⟨experience.pointed (some id) now, ?_, rfl⟩
      rw [get?_update, if_pos named, home]
      rfl
    · -- another version that stays active has another experience
      unfold onActivation at active
      rw [if_neg (by rw [identified]; exact this)] at active
      split at active
      next => cases active
      next elsewhere =>
        have other : ¬ experience.experienceId = old.experienceId :=
          fun hit => elsewhere ⟨hit.symm, active⟩
        rw [get?_update, if_neg other]
        exact kept.published.current id old before active
  · intro experienceId new id here current
    rw [get?_modify]
    rcases cases_get?_update points (named.symm ▸ home) here with ⟨rfl, rfl⟩ |
      ⟨different, there⟩
    · cases current
      rw [found]
      refine ⟨version.onActivation experience.experienceId experienceVersionId now, rfl,
        (same version).home.trans named.symm, ?_⟩
      rw [onActivation, if_pos (key_of_get? found)]
      rfl
    · obtain ⟨old, before, ofHome, active⟩ :=
        kept.published.pointed experienceId new id there current
      rw [before]
      refine ⟨old.onActivation experience.experienceId experienceVersionId now, rfl,
        (same old).home.trans ofHome, ?_⟩
      rw [onActivation]
      split
      · rfl
      · rw [if_neg, active]
        rintro ⟨hit, -⟩
        exact different (ofHome.symm.trans hit)
  · intro id old new before after
    obtain ⟨other, otherBefore, rfl⟩ := before_of id new after
    rw [before] at otherBefore
    cases otherBefore
    unfold onActivation
    split
    · exact ⟨rfl, rfl, rfl⟩
    · split <;> exact ⟨rfl, rfl, rfl⟩
  · intro id old new before after status
    obtain ⟨other, otherBefore, rfl⟩ := before_of id new after
    rw [before] at otherBefore
    cases otherBefore
    have identified := key_of_get? before
    unfold onActivation at status
    split at status
    next this =>
      rw [identified] at this
      subst this
      rw [found] at before
      cases before
      exact .inl (.inl validated)
    next =>
      split at status
      next => rcases status with status | status <;> cases status
      next => exact .inl status

/-- **Deprecation** leaves the experience without a current version, if it was this one. -/
theorem WellKept.deprecateVersion (kept : WellKept tables)
    (ok : deprecateVersion tables experienceVersionId now = .ok (view, next)) :
    WellKept next := by
  unfold Experience.deprecateVersion at ok
  obtain ⟨⟨version, experience⟩, locked, ok⟩ := bind_eq_ok.1 ok
  obtain ⟨found, home, named⟩ := lockedVersionAndExperience_ok locked
  dsimp only at ok
  split at ok
  · cases ok
    exact kept
  cases ok
  set current := if experience.currentVersionId = some experienceVersionId then none
    else experience.currentVersionId with isCurrent
  have atHome : tables.experiences.get? experience.experienceId = some experience := by
    rw [named]
    exact home
  have keeps := fun row : ExperienceVersionModel => row.retired_experienceVersionId now
  have points := fun row : ExperienceModel => row.pointed_experienceId current now
  have revises : Revises tables { tables with
      versions := tables.versions.update experienceVersionId (·.retired now) keeps
      experiences := tables.experiences.update experience.experienceId (·.pointed current now)
        points } := by
    refine ⟨?_, Table.forall₂_update _ _ points (fun row => rfl) fun row => rfl, rfl⟩
    exact Table.forall₂_update _ _ keeps (fun row => ⟨rfl, rfl, rfl, rfl⟩)
      fun row => ⟨rfl, rfl, rfl, rfl⟩
  refine ⟨kept.registered.of_revises revises kept.registered.subject, ⟨?_, ?_⟩,
    kept.evaluated.of_revises revises rfl ?_ ?_⟩
  · intro id row here active
    rcases cases_get?_update keeps found here with ⟨rfl, rfl⟩ | ⟨different, before⟩
    · cases active
    · obtain ⟨old, there, points⟩ := kept.published.current id row before active
      by_cases same : experience.experienceId = row.experienceId
      · rw [← same, atHome] at there
        cases there
        refine ⟨experience.pointed current now, ?_, ?_⟩
        · rw [get?_update, if_pos same, ← same, atHome]
          rfl
        · have other : ¬ experience.currentVersionId = some experienceVersionId := by
            rw [points]
            exact fun hit => different (Option.some.inj hit)
          show current = some id
          rw [isCurrent, if_neg other, points]
      · rw [get?_update, if_neg same]
        exact ⟨old, there, points⟩
  · intro experienceId new id here pointed
    -- the current version afterwards was current before, and is not the deprecated one
    have still : ∃ row, tables.versions.get? id = some row ∧ row.experienceId = experienceId ∧
        row.status = .active ∧ id ≠ experienceVersionId := by
      rcases cases_get?_update points atHome here with ⟨rfl, rfl⟩ | ⟨elsewhere, there⟩
      · have chosen : current = some id := pointed
        rw [isCurrent] at chosen
        split at chosen
        next => cases chosen
        next other =>
          obtain ⟨row, before, ofHome, active⟩ :=
            kept.published.pointed _ experience id atHome chosen
          refine ⟨row, before, ofHome, active, ?_⟩
          rintro rfl
          exact other chosen
      · obtain ⟨row, before, ofHome, active⟩ :=
          kept.published.pointed experienceId new id there pointed
        refine ⟨row, before, ofHome, active, ?_⟩
        rintro rfl
        rw [found] at before
        cases before
        exact elsewhere (ofHome.symm.trans named.symm)
    obtain ⟨row, before, ofHome, active, different⟩ := still
    refine ⟨row, ?_, ofHome, active⟩
    show Table.get? _ id = some row
    rw [get?_update, if_neg fun same => different same.symm, before]
  · intro id old new before after
    rcases cases_get?_update keeps found after with ⟨rfl, rfl⟩ | ⟨-, same⟩
    · rw [found] at before
      cases before
      exact ⟨rfl, rfl, rfl⟩
    · rw [before] at same
      cases same
      exact ⟨rfl, rfl, rfl⟩
  · intro id old new before after status
    rcases cases_get?_update keeps found after with ⟨rfl, rfl⟩ | ⟨-, same⟩
    · rcases status with status | status <;> cases status
    · rw [before] at same
      cases same
      exact .inl status

end Publishing

/-! ## Runs -/

section Runs

variable {tables next : ExperienceTables}

theorem WellKept.empty : WellKept ExperienceTables.empty where
  registered := by
    refine ⟨?_, fun _ => ⟨0, rfl⟩, ?_, ?_, ?_⟩
    · intro id version found
      cases found
    · intro id version found
      cases found
    · intro first version second other found
      cases found
    · intro support member
      cases member
  published := by
    refine ⟨?_, ?_⟩
    · intro id version found
      cases found
    · intro id experience version found
      cases found
  evaluated := by
    refine ⟨?_, ?_⟩ <;>
    · intro id version found
      cases found

/-- **What one call preserves**. -/
theorem WellKept.experienceStore (kept : WellKept tables) {op : ExperienceOp}
    {answer : ExperienceAnswer} (ok : experienceStore op tables = .ok (answer, next)) :
    WellKept next := by
  cases op with
  | writeTrajectory trajectory =>
      cases ok
      exact ⟨⟨kept.registered.home, kept.registered.numbered, kept.registered.origin,
        kept.registered.single, kept.registered.subject⟩,
        ⟨kept.published.current, kept.published.pointed⟩,
        ⟨kept.evaluated.supported, kept.evaluated.counted⟩⟩
  | createCandidate candidateId source kind draft rationale now =>
      obtain ⟨⟨view, after⟩, called, ok⟩ := bind_eq_ok.1 ok
      cases ok
      exact kept.createCandidate called
  | rejectCandidate candidateId now =>
      obtain ⟨⟨_, after⟩, called, ok⟩ := bind_eq_ok.1 ok
      cases ok
      exact kept.rejectCandidate called
  | materializeCandidate candidateId experienceId newExperienceId newVersionId now =>
      obtain ⟨⟨view, after⟩, called, ok⟩ := bind_eq_ok.1 ok
      cases ok
      exact kept.materializeCandidate called
  | recordEvaluation supportId versionId trajectoryId outcome evaluation evaluator now =>
      obtain ⟨⟨view, after⟩, called, ok⟩ := bind_eq_ok.1 ok
      cases ok
      exact kept.recordEvaluation called
  | markValidated versionId summary now =>
      obtain ⟨⟨view, after⟩, called, ok⟩ := bind_eq_ok.1 ok
      cases ok
      exact kept.markValidated called
  | activate versionId now =>
      obtain ⟨⟨view, after⟩, called, ok⟩ := bind_eq_ok.1 ok
      cases ok
      exact kept.activate called
  | deprecateVersion versionId now =>
      obtain ⟨⟨view, after⟩, called, ok⟩ := bind_eq_ok.1 ok
      cases ok
      exact kept.deprecateVersion called

/-- **What a run preserves**. -/
theorem run_wellKept (ops : List ExperienceOp) :
    WellKept (run experienceStore ExperienceTables.empty ops) :=
  run_invariant (fun _ _ _ _ kept ok => kept.experienceStore ok) WellKept.empty ops

end Runs

/-- **What holds of experiences and versions**, in the words of their columns. -/
structure Consistent (tables : ExperienceTables) : Prop where
  /-- An experience has at most one active version, ... -/
  oneActive : ∀ version ∈ tables.versions.rows, ∀ other ∈ tables.versions.rows,
    version.status = .active → other.status = .active →
    version.experienceId = other.experienceId → version = other
  /-- ... which is its current version, ... -/
  activeIsCurrent : ∀ version ∈ tables.versions.rows, version.status = .active →
    ∀ experience ∈ tables.experiences.rows, experience.experienceId = version.experienceId →
    experience.currentVersionId = some version.experienceVersionId
  /-- ... and no other version is current. -/
  currentIsActive : ∀ experience ∈ tables.experiences.rows, ∀ id,
    experience.currentVersionId = some id → ∃ version ∈ tables.versions.rows,
      version.experienceVersionId = id ∧ version.experienceId = experience.experienceId ∧
      version.status = .active
  /-- The versions of an experience are numbered from 1. -/
  numbered : ∀ experienceId, tables.numbers experienceId =
    range' 1 (tables.numbers experienceId).length
  /-- An active version has been evaluated. -/
  activeIsEvaluated : ∀ version ∈ tables.versions.rows, version.status = .active →
    tables.supportsOf version.experienceVersionId ≠ []
  /-- The counts are the numbers of evaluation records. -/
  counted : ∀ version ∈ tables.versions.rows,
    CountedBy version (tables.supportsOf version.experienceVersionId)
  /-- A candidate yields at most one version, ... -/
  oneVersion : ∀ candidateId, (tables.versions.select fun version =>
    version.sourceCandidateId = some candidateId).length ≤ 1
  /-- ... and no version if it is rejected. -/
  rejectedYieldsNone : ∀ candidate ∈ tables.candidates.rows, candidate.status = .rejected →
    tables.versions.select (fun version =>
      version.sourceCandidateId = some candidate.candidateId) = []

/-- **The lifecycle of experiences** is consistent after any calls of the store. -/
theorem experience_lifecycle (ops : List ExperienceOp) :
    Consistent (run experienceStore ExperienceTables.empty ops) := by
  have kept := run_wellKept ops
  set tables := run experienceStore ExperienceTables.empty ops
  have found : ∀ version ∈ tables.versions.rows,
      tables.versions.get? version.experienceVersionId = some version :=
    fun version member => Table.get?_of_mem member
  have active : ∀ version ∈ tables.versions.rows, version.status = .active →
      ∀ experience ∈ tables.experiences.rows, experience.experienceId = version.experienceId →
      experience.currentVersionId = some version.experienceVersionId := by
    intro version member active experience listed home
    obtain ⟨other, there, current⟩ := kept.published.current _ version (found version member) active
    rw [← home, Table.get?_of_mem listed] at there
    cases there
    exact current
  refine ⟨?_, active, ?_, ?_, ?_, ?_, ?_, ?_⟩
  · intro version member other otherMember isActive otherActive same
    obtain ⟨experience, there, current⟩ :=
      kept.published.current _ version (found version member) isActive
    obtain ⟨listed, home⟩ := Table.get?_eq_some.1 there
    have otherCurrent := active other otherMember otherActive experience listed
      (home.trans same)
    rw [current] at otherCurrent
    exact Table.eq_of_key member otherMember (Option.some.inj otherCurrent)
  · intro experience listed id current
    obtain ⟨version, there, home, isActive⟩ := kept.published.pointed _ experience id
      (Table.get?_of_mem listed) current
    obtain ⟨member, same⟩ := Table.get?_eq_some.1 there
    exact ⟨version, member, same, home, isActive⟩
  · intro experienceId
    obtain ⟨count, counted⟩ := kept.registered.numbered experienceId
    rw [counted, List.length_range']
  · intro version member isActive
    exact kept.evaluated.supported _ version (found version member) (.inr isActive)
  · intro version member
    exact kept.evaluated.counted _ version (found version member)
  · intro candidateId
    have alike : ∀ first ∈ tables.versions.select (fun version =>
        version.sourceCandidateId = some candidateId), ∀ second ∈ tables.versions.select
        (fun version => version.sourceCandidateId = some candidateId), first = second := by
      intro first member second otherMember
      obtain ⟨listed, source⟩ := Table.mem_select.1 member
      obtain ⟨otherListed, otherSource⟩ := Table.mem_select.1 otherMember
      refine Table.eq_of_key listed otherListed (kept.registered.single _ first _ second
        (found first listed) (found second otherListed) ?_)
      rw [of_decide_eq_true source, of_decide_eq_true otherSource]
    have distinct : (tables.versions.select fun version =>
        version.sourceCandidateId = some candidateId).Nodup :=
      (List.Nodup.of_map _ tables.versions.nodup).filter _
    match listed : tables.versions.select fun version =>
        version.sourceCandidateId = some candidateId with
    | [] => exact Nat.zero_le 1
    | [_] => exact le_refl 1
    | first :: second :: rest =>
        rw [listed] at alike distinct
        have same := alike first mem_cons_self second
          (mem_cons_of_mem _ mem_cons_self)
        exact absurd (same ▸ mem_cons_self) (nodup_cons.1 distinct).1
  · intro candidate listed rejected
    rw [eq_nil_iff_forall_not_mem]
    intro version member
    obtain ⟨inside, source⟩ := Table.mem_select.1 member
    obtain ⟨candidateId, origin, itsSource, there, accepted⟩ :=
      kept.registered.origin _ version (found version inside)
    rw [of_decide_eq_true source] at itsSource
    cases itsSource
    rw [Table.get?_of_mem listed] at there
    cases there
    rw [rejected] at accepted
    cases accepted

/-- A draft and its revision, both of which come to be active: the revision last. -/
example :
    let draft : ExperienceDraft := ⟨"Fix commits", "fix-boundary", [], [], [], [], [], [], [], []⟩
    let ops : List ExperienceOp :=
      [ .writeTrajectory ⟨"trajectory", .completed⟩,
        .createCandidate "first" "trajectory" "procedure" draft "worked" 1,
        .createCandidate "second" "trajectory" "fallback" draft "worked again" 2,
        .materializeCandidate "first" none "experience" "v1" 3,
        .materializeCandidate "second" (some "experience") "" "v2" 4,
        .recordEvaluation "s1" "v1" "trajectory" "success" [] "replay" 5,
        .recordEvaluation "s2" "v2" "trajectory" "partial" [] "replay" 6,
        .markValidated "v1" [] 7, .markValidated "v2" [] 8, .activate "v1" 9, .activate "v2" 10 ]
    (run experienceStore ExperienceTables.empty ops).versions.rows.map
      (fun version => (version.version, version.status)) =
        [(1, .deprecated), (2, .active)] := by
  decide +kernel

end SecFusion.Experience
