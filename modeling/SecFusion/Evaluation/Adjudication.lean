import SecFusion.Raised
import SecFusion.Foundations.Text
import SecFusion.Foundations.Walks

/-!
# Histories of adjudications

The model of `QAAdjudicationRecord` and `validate_qa_adjudication_history` in
`packages/evaluation/qa.py`.  The history of an item is validated record by record: what is
superseded exists, is of the same item and not later, and one record of the item is not
superseded.  Records of one instant may supersede one another in a circle.
-/

namespace SecFusion.Evaluation

open Foundations

/-- `QAAdjudicationRecord`, with what `validate_record` establishes. -/
structure QAAdjudicationRecord where
  (adjudicationId itemRef annotatorRef annotation : String)
  evidenceRefs : List String := []
  createdAt : ℤ
  supersedes : Option String := none
  final : Bool := false
  given : ∀ text ∈ [adjudicationId, itemRef, annotatorRef, annotation],
    isBlank text = false := by decide
  evidenced : final = true → evidenceRefs ≠ [] := by decide
  supersedes_other : supersedes ≠ some adjudicationId := by decide

/-- The record that a record supersedes: `by_id.get(record.supersedes)`. -/
def previousOf (records : List QAAdjudicationRecord) (record : QAAdjudicationRecord) :
    Option QAAdjudicationRecord :=
  record.supersedes.bind fun id => records.find? (·.adjudicationId = id)

def checkSuperseded (records : List QAAdjudicationRecord) (record : QAAdjudicationRecord) :
    Except Raised Unit :=
  match record.supersedes with
  | none => .ok ()
  | some _ => do
      let previous ← fetch (previousOf records record)
        (.valueError "QA adjudication supersedes unknown record")
      require (previous.itemRef = record.itemRef)
        (.valueError "QA adjudication cannot supersede a different item")
      require (previous.createdAt ≤ record.createdAt)
        (.valueError "QA adjudication cannot supersede a future record")

def terminalRecords (records : List QAAdjudicationRecord) (itemRef : String) :
    List QAAdjudicationRecord :=
  records.filter fun record =>
    record.itemRef = itemRef ∧ some record.adjudicationId ∉ records.map (·.supersedes)

def checkTerminal (records : List QAAdjudicationRecord) (itemRef : String) :
    Except Raised Unit :=
  match terminalRecords records itemRef with
  | [terminal] => require (terminal.final = true)
      (.valueError ("QA adjudication terminal record must be final: " ++ itemRef))
  | _ => .error (.valueError ("QA adjudication item requires one terminal record: " ++ itemRef))

/-- `validate_qa_adjudication_history` -/
def validateQaAdjudicationHistory (records : List QAAdjudicationRecord) : Except Raised Unit := do
  require (records.map (·.adjudicationId)).Nodup
    (.valueError "QA adjudication ids must be unique")
  records.forM (checkSuperseded records)
  (records.map (·.itemRef)).dedup.forM (checkTerminal records)

/-! ## Chains -/

/-- The records of an item that one comes to from a record by following `supersedes`. -/
def following (records : List QAAdjudicationRecord) (record : QAAdjudicationRecord) :
    List QAAdjudicationRecord := walk (previousOf records) records.length record

/-- The history of the item is a chain: from its one terminal record, which is final, one comes
to each of its records once, and last to one that supersedes nothing. -/
def IsChainOf (records : List QAAdjudicationRecord) (itemRef : String) : Prop :=
  ∃ terminal, terminalRecords records itemRef = [terminal] ∧ terminal.final = true ∧
    (following records terminal).Perm (records.filter (·.itemRef = itemRef)) ∧
    ∃ last ∈ (following records terminal).getLast?, last.supersedes = none

/-- Records of one instant supersede one another in a circle. -/
def InCircle (records : List QAAdjudicationRecord) : Prop :=
  ∃ record, TransGen
    (fun later earlier => previousOf records later = some earlier ∧
      later.createdAt = earlier.createdAt) record record

variable {records : List QAAdjudicationRecord} {record previous : QAAdjudicationRecord}

theorem previousOf_eq_some (found : previousOf records record = some previous) :
    previous ∈ records ∧ record.supersedes = some previous.adjudicationId := by
  obtain ⟨id, named, found⟩ := bind_eq_some_iff.1 found
  have same := find?_some found
  rw [decide_eq_true_eq] at same
  exact ⟨mem_of_find?_eq_some found, same ▸ named⟩

theorem checkSuperseded_eq_ok : checkSuperseded records record = .ok () ↔
    ∀ id, record.supersedes = some id → ∃ previous, previousOf records record = some previous ∧
      previous.itemRef = record.itemRef ∧ previous.createdAt ≤ record.createdAt := by
  unfold checkSuperseded
  cases record.supersedes with
  | none => simp
  | some id => simp [fetch_bind_eq_ok, require_bind_eq_ok]

theorem checkTerminal_eq_ok {itemRef : String} : checkTerminal records itemRef = .ok () ↔
    ∃ terminal, terminalRecords records itemRef = [terminal] ∧ terminal.final = true := by
  unfold checkTerminal
  cases terminalRecords records itemRef with
  | nil => simp
  | cons terminal others => cases others <;> simp

/-- What an accepted history is known for. -/
structure Accepted (records : List QAAdjudicationRecord) : Prop where
  unique : (records.map (·.adjudicationId)).Nodup
  previous : ∀ record ∈ records, ∀ id, record.supersedes = some id →
    ∃ previous, previousOf records record = some previous ∧
      previous.itemRef = record.itemRef ∧ previous.createdAt ≤ record.createdAt
  terminal : ∀ record ∈ records, ∃ terminal,
    terminalRecords records record.itemRef = [terminal] ∧ terminal.final = true

theorem accepted_iff : validateQaAdjudicationHistory records = .ok () ↔ Accepted records := by
  rw [validateQaAdjudicationHistory, require_bind_eq_ok, bind_eq_ok]
  simp only [forM_eq_ok, checkSuperseded_eq_ok, checkTerminal_eq_ok, mem_dedup,
    List.forall_mem_map]
  exact ⟨fun ⟨unique, _, previous, terminal⟩ => ⟨unique, previous, terminal⟩,
    fun accepted => ⟨accepted.unique, (), accepted.previous, accepted.terminal⟩⟩

namespace Accepted

variable (accepted : Accepted records)

include accepted

/-- A record is of the item of the record that it supersedes, and not earlier. -/
theorem of_previousOf (found : previousOf records record = some previous)
    (member : record ∈ records) :
    previous.itemRef = record.itemRef ∧ previous.createdAt ≤ record.createdAt := by
  obtain ⟨other, otherFound, agree⟩ :=
    accepted.previous record member _ (previousOf_eq_some found).2
  obtain rfl := mem_unique otherFound found
  exact agree

/-- On the way from a record to one that is not earlier, all records are of one instant. -/
theorem sameInstant (reaches : TransGen (Precedes (previousOf records)) record previous)
    (member : record ∈ records) : previous.createdAt ≤ record.createdAt ∧
      (record.createdAt ≤ previous.createdAt → TransGen
        (fun later earlier => previousOf records later = some earlier ∧
          later.createdAt = earlier.createdAt) record previous) := by
  induction reaches using Relation.TransGen.head_induction_on with
  | single step =>
    have notLater := (accepted.of_previousOf step member).2
    exact ⟨notLater, fun notEarlier => .single ⟨step, le_antisymm notEarlier notLater⟩⟩
  | head step _ ih =>
    have notLater := (accepted.of_previousOf step member).2
    obtain ⟨below, rest⟩ := ih (previousOf_eq_some step).1
    exact ⟨below.trans notLater, fun notEarlier =>
      .head ⟨step, le_antisymm (notEarlier.trans below) notLater⟩ (rest (notLater.trans notEarlier))⟩

theorem acyclic_iff : (∀ record, ¬ TransGen (Precedes (previousOf records)) record record) ↔
    ¬ InCircle records := by
  constructor
  · rintro acyclic ⟨record, circle⟩
    exact acyclic record (Relation.TransGen.mono (fun _ _ step => step.1) _ _ circle)
  · intro open' record circle
    obtain ⟨other, -, step⟩ := Relation.TransGen.tail'_iff.1 circle
    exact open' ⟨record,
      (accepted.sameInstant circle (previousOf_eq_some step).1).2 le_rfl⟩

/-- A record that supersedes nothing ends the walk. -/
theorem previousOf_eq_none (member : record ∈ records) :
    previousOf records record = none ↔ record.supersedes = none := by
  constructor
  · intro none
    by_contra some
    obtain ⟨id, named⟩ := Option.ne_none_iff_exists'.1 some
    obtain ⟨previous, found, -⟩ := accepted.previous record member id named
    rw [none] at found
    cases found
  · intro none
    rw [previousOf, none, Option.bind_none]

/-- Every record of an item but the terminal one is superseded by one of the item. -/
theorem predecessors {terminal : QAAdjudicationRecord} {itemRef : String}
    (one : terminalRecords records itemRef = [terminal]) :
    ∀ record ∈ records.filter (·.itemRef = itemRef), record = terminal ∨
      ∃ later ∈ records.filter (·.itemRef = itemRef), previousOf records later = some record := by
  intro record member
  simp only [mem_filter, decide_eq_true_eq] at member ⊢
  by_cases superseded : some record.adjudicationId ∈ records.map (·.supersedes)
  · obtain ⟨later, listed, named⟩ := mem_map.1 superseded
    obtain ⟨previous, found, item, -⟩ := accepted.previous later listed _ named
    have sameId : previous.adjudicationId = record.adjudicationId :=
      Option.some.inj ((previousOf_eq_some found).2.symm.trans named)
    obtain rfl : previous = record := inj_on_of_nodup_map accepted.unique
      (previousOf_eq_some found).1 member.1 sameId
    exact .inr ⟨later, ⟨listed, item.symm.trans member.2⟩, found⟩
  · have : record ∈ terminalRecords records itemRef :=
      mem_filter.2 ⟨member.1, decide_eq_true ⟨member.2, superseded⟩⟩
    rw [one] at this
    exact .inl (mem_singleton.1 this)

theorem isChainOf (acyclic : ∀ record, ¬ TransGen (Precedes (previousOf records)) record record)
    (member : record ∈ records) : IsChainOf records record.itemRef := by
  obtain ⟨terminal, one, final⟩ := accepted.terminal record member
  have isTerminal : terminal ∈ terminalRecords records record.itemRef := by simp [one]
  simp only [terminalRecords, mem_filter, decide_eq_true_eq] at isTerminal
  have ends : Ends (previousOf records) records.length terminal :=
    ends_of_acyclic acyclic (fun _ _ found => (previousOf_eq_some found).1) isTerminal.1
  have onWalk : ∀ other ∈ following records terminal,
      other ∈ records ∧ other.itemRef = record.itemRef := by
    intro other passed
    have reaches := reaches_of_mem_walk passed
    clear passed
    induction reaches with
    | refl => exact ⟨isTerminal.1, isTerminal.2.1⟩
    | tail _ step ih =>
      exact ⟨(previousOf_eq_some step).1, (accepted.of_previousOf step ih.1).1.trans ih.2⟩
  refine ⟨terminal, one, final, ?_, ?_⟩
  · refine (perm_ext_iff_of_nodup (nodup_walk acyclic _ _)
      (accepted.unique.of_map _ |>.filter _)).2 fun other => ⟨fun passed => ?_, fun listed => ?_⟩
    · simpa using onWalk other passed
    · exact ends.mem_of_predecessors acyclic (accepted.predecessors one) other listed
  · obtain ⟨last, isLast, none⟩ := ends.getLast?
    have listed := (onWalk last (List.mem_of_getLast? isLast)).1
    exact ⟨last, isLast, (accepted.previousOf_eq_none listed).1 none⟩

end Accepted

def adjudication (id : String) (supersedes : Option String) (final : Bool)
    (given : isBlank id = false := by decide) (other : supersedes ≠ some id := by decide) :
    QAAdjudicationRecord where
  adjudicationId := id
  itemRef := "item:1"
  annotatorRef := "annotator:1"
  annotation := "agreed"
  evidenceRefs := ["evidence:item"]
  createdAt := 0
  supersedes
  final
  given := by
    intro text member
    fin_cases member <;> first | exact given | decide
  evidenced _ := cons_ne_nil _ _
  supersedes_other := other

end SecFusion.Evaluation
