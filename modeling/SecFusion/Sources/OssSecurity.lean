import Mathlib

/-!
# Discovery in a mailing-list archive

The model of `OssSecurityAdapter.discover` in `packages/sources/adapters/oss_security.py`.  The
months are read from the current one back, each oldest-first, and the list of all is reversed:
the newest messages come first within a month, and the oldest month before the others.

Pages of one month without repeated links are emitted newest-first and once
(`emitted_eq_reverse`); for all others some cursor and limit show the contrary.
-/

namespace SecFusion.Sources.OssSecurity

/-- A link of a month page, with the words of its text. -/
structure Link where
  (href title : String)

structure MonthPage where
  url : String
  links : List Link := []

/-- What an `external_id` is formatted from. -/
structure MessageId where
  (year month : ℤ)
  (day ordinal : String)
  deriving DecidableEq

structure DiscoveredRef where
  externalObjectId : MessageId
  (canonicalUrl externalRevision monthUrl subject : String)
  deriving DecidableEq

/-- `_recent_months` -/
def recentMonths (year month : ℤ) : ℕ → List (ℤ × ℤ)
  | 0 => []
  | count + 1 => (year, month) ::
      if month - 1 = 0 then recentMonths (year - 1) 12 count else recentMonths year (month - 1) count

/-- The month pages that are read now, and what the standard library makes of texts. -/
structure Pages where
  urljoin : String → String → String
  sha256 : String → String
  decimal : Char → Option ℕ
  page : ℤ × ℤ → MonthPage
  (year month : ℤ)
  lookbackMonths : ℕ
  month_valid : 1 ≤ month ∧ month ≤ 12

structure Settings where
  maxItems : ℕ
  initialLimit : ℕ := maxItems
  maxItems_pos : 0 < maxItems
  initialLimit_pos : 0 < initialLimit

structure Cursor where
  itemRevisions : MessageId → Option String := fun _ => none
  (bootstrapComplete backfillPending : Bool := false)

def Settings.runLimit (settings : Settings) (cursor : Cursor) : ℕ :=
  if cursor.bootstrapComplete then settings.maxItems else settings.initialLimit

theorem Settings.runLimit_pos (settings : Settings) (cursor : Cursor) :
    0 < settings.runLimit cursor := by
  unfold Settings.runLimit
  split
  · exact settings.maxItems_pos
  · exact settings.initialLimit_pos

namespace Pages

section Discovery

variable (pages : Pages)

def months : List (ℤ × ℤ) := recentMonths pages.year pages.month pages.lookbackMonths

/-- `_MESSAGE_HREF_RE` -/
def messageHref (href : String) : Option (String × String) :=
  match href.toList with
  | first :: second :: '/' :: ordinal =>
      if ordinal ≠ [] ∧ ∀ char ∈ first :: second :: ordinal, (pages.decimal char).isSome then
        some (String.ofList [first, second], String.ofList ordinal)
      else none
  | _ => none

/-- `int`, of decimal digits. -/
def number (digits : String) : ℕ :=
  digits.toList.foldl (fun value char => 10 * value + (pages.decimal char).getD 0) 0

/-- The message that a link is to. -/
def refOf (month : ℤ × ℤ) (link : Link) : Option DiscoveredRef :=
  match pages.messageHref link.href with
  | none => none
  | some (day, ordinal) =>
      if link.title = "" then none else some {
        externalObjectId := { year := month.1, month := month.2, day, ordinal }
        canonicalUrl := pages.urljoin (pages.page month).url link.href
        externalRevision := pages.sha256 link.title
        monthUrl := (pages.page month).url
        subject := link.title }

def monthMessages (month : ℤ × ℤ) : List DiscoveredRef :=
  (pages.page month).links.filterMap (pages.refOf month)

def messages : List DiscoveredRef := pages.months.flatMap pages.monthMessages

/-- What the cursor has not recorded. -/
def discovered (cursor : Cursor) : List DiscoveredRef :=
  pages.messages.filter fun ref =>
    cursor.itemRevisions ref.externalObjectId ≠ some ref.externalRevision

def record (revisions : MessageId → Option String) (ref : DiscoveredRef) :
    MessageId → Option String :=
  Function.update revisions ref.externalObjectId (some ref.externalRevision)

/-- `OssSecurityAdapter.discover` -/
def discover (settings : Settings) (cursor : Cursor) : List DiscoveredRef × Cursor :=
  let selected := (pages.discovered cursor).reverse.take (settings.runLimit cursor)
  (selected,
    { itemRevisions := selected.foldl record fun id =>
        (cursor.itemRevisions id).filter fun _ => (id.year, id.month) ∈ pages.months
      bootstrapComplete := true
      backfillPending := selected.length < (pages.discovered cursor).length })

/-- The cursor after so many calls. -/
def after (settings : Settings) : ℕ → Cursor → Cursor
  | 0, cursor => cursor
  | calls + 1, cursor => after settings calls (pages.discover settings cursor).2

/-- What so many calls emit. -/
def emitted (settings : Settings) : ℕ → Cursor → List DiscoveredRef
  | 0, _ => []
  | calls + 1, cursor => (pages.discover settings cursor).1 ++
      emitted settings calls (pages.discover settings cursor).2

end Discovery

/-! ## What discovery promises -/

/-- The time of a message, as far as its link tells. -/
def recency (pages : Pages) (ref : DiscoveredRef) : ℤ ×ₗ ℤ ×ₗ ℕ ×ₗ ℕ :=
  toLex (ref.externalObjectId.year, toLex (ref.externalObjectId.month,
    toLex (pages.number ref.externalObjectId.day, pages.number ref.externalObjectId.ordinal)))

/-- Every month is listed oldest-first. -/
def OldestFirst (pages : Pages) : Prop :=
  ∀ month ∈ pages.months, (pages.monthMessages month).Pairwise fun earlier later =>
    pages.recency earlier ≤ pages.recency later

/-- Whatever the cursor and the limits, the newest unseen messages are selected, and repeated
calls come to an end when they have emitted each of them once. -/
structure Faithful (pages : Pages) : Prop where
  newestFirst : ∀ settings cursor, ∀ selected ∈ (pages.discover settings cursor).1,
    ∀ ref ∈ pages.discovered cursor,
      ref.externalObjectId ∉ (pages.discover settings cursor).1.map (·.externalObjectId) →
        pages.recency ref ≤ pages.recency selected
  quiescent : ∀ settings cursor, ∃ calls,
    (pages.discover settings (pages.after settings calls cursor)).1 = [] ∧
    ((pages.emitted settings calls cursor).map (·.externalObjectId)).Nodup ∧
    ∀ id, id ∈ (pages.emitted settings calls cursor).map (·.externalObjectId) ↔
      id ∈ (pages.discovered cursor).map (·.externalObjectId)

/-- At most one month has messages. -/
def OneMonth (pages : Pages) : Prop :=
  ∀ month ∈ pages.months, ∀ other ∈ pages.months, pages.monthMessages month ≠ [] →
    pages.monthMessages other ≠ [] → month = other

/-- No message is linked twice. -/
def LinkedOnce (pages : Pages) : Prop := (pages.messages.map (·.externalObjectId)).Nodup

/-! ## Months -/

theorem le_of_mem_recentMonths {year month : ℤ} {count : ℕ} (valid : 1 ≤ month ∧ month ≤ 12)
    {other : ℤ × ℤ} (member : other ∈ recentMonths year month count) :
    toLex other ≤ toLex (year, month) := by
  induction count generalizing year month with
  | zero => cases member
  | succ count ih =>
      rcases List.mem_cons.1 member with rfl | member
      · exact le_rfl
      split at member
      next january =>
        exact (ih (by omega) member).trans (Prod.Lex.toLex_le_toLex.2 (.inl (by simp)))
      next later =>
        exact (ih (by omega) member).trans (Prod.Lex.toLex_le_toLex.2 (.inr ⟨rfl, by simp⟩))

/-- The months are read from the current one back. -/
theorem pairwise_recentMonths {year month : ℤ} {count : ℕ} (valid : 1 ≤ month ∧ month ≤ 12) :
    (recentMonths year month count).Pairwise fun first second => toLex second < toLex first := by
  induction count generalizing year month with
  | zero => exact List.Pairwise.nil
  | succ count ih =>
      rw [recentMonths, List.pairwise_cons]
      split
      next january =>
        refine ⟨fun other member => ?_, ih (by omega)⟩
        exact (le_of_mem_recentMonths (by omega) member).trans_lt
          (Prod.Lex.toLex_lt_toLex.2 (.inl (by simp)))
      next later =>
        refine ⟨fun other member => ?_, ih (by omega)⟩
        exact (le_of_mem_recentMonths (by omega) member).trans_lt
          (Prod.Lex.toLex_lt_toLex.2 (.inr ⟨rfl, by simp⟩))

variable {ref : DiscoveredRef} {pages : Pages}

theorem month_of_refOf {month : ℤ × ℤ} {link : Link}
    (found : pages.refOf month link = some ref) :
    (ref.externalObjectId.year, ref.externalObjectId.month) = month := by
  rw [refOf] at found
  split at found
  next => simp at found
  next day ordinal parsed =>
      split at found
      next blank => simp at found
      next titled => rw [← Option.some.inj found]

section Order

variable {pages : Pages}

theorem month_of_mem_monthMessages {month : ℤ × ℤ}
    (member : ref ∈ pages.monthMessages month) :
    (ref.externalObjectId.year, ref.externalObjectId.month) = month := by
  obtain ⟨link, -, found⟩ := List.mem_filterMap.1 member
  exact month_of_refOf found

theorem month_mem_of_mem_messages (member : ref ∈ pages.messages) :
    (ref.externalObjectId.year, ref.externalObjectId.month) ∈ pages.months := by
  obtain ⟨month, listed, member⟩ := List.mem_flatMap.1 member
  rwa [month_of_mem_monthMessages member]

/-- The messages stand with the current month first. -/
theorem pairwise_months_messages : pages.messages.Pairwise fun first second =>
    toLex (second.externalObjectId.year, second.externalObjectId.month) ≤
      toLex (first.externalObjectId.year, first.externalObjectId.month) := by
  refine List.pairwise_flatMap.2 ⟨fun month _ => ?_, ?_⟩
  · refine List.pairwise_of_forall_mem_list fun first hfirst second hsecond => ?_
    rw [month_of_mem_monthMessages hfirst, month_of_mem_monthMessages hsecond]
  · refine (pairwise_recentMonths pages.month_valid).imp fun later first hfirst second hsecond => ?_
    rw [month_of_mem_monthMessages hfirst, month_of_mem_monthMessages hsecond]
    exact later.le

theorem month_le_of_recency_le {first second : DiscoveredRef}
    (newer : pages.recency first ≤ pages.recency second) :
    toLex (first.externalObjectId.year, first.externalObjectId.month) ≤
      toLex (second.externalObjectId.year, second.externalObjectId.month) := by
  simp only [recency, Prod.Lex.toLex_le_toLex] at newer ⊢
  rcases newer with year | ⟨year, month | ⟨month, -⟩⟩
  · exact .inl year
  · exact .inr ⟨year, month.le⟩
  · exact .inr ⟨year, month.le⟩

theorem OneMonth.pairwise_messages (one : pages.OneMonth) (oldest : pages.OldestFirst) :
    pages.messages.Pairwise fun earlier later => pages.recency earlier ≤ pages.recency later := by
  refine List.pairwise_flatMap.2 ⟨oldest, ?_⟩
  refine (pairwise_recentMonths pages.month_valid).imp_of_mem
    fun {month other} hmonth hother later first hfirst second hsecond => ?_
  have same := one month hmonth other hother (List.ne_nil_of_mem hfirst)
    (List.ne_nil_of_mem hsecond)
  rw [same] at later
  exact absurd later (lt_irrefl _)

end Order

/-! ## Calls -/

section Calls

variable {pages : Pages} {settings : Settings} {cursor : Cursor}

theorem foldl_record_of_notMem {selected : List DiscoveredRef} {id : MessageId}
    (absent : id ∉ selected.map (·.externalObjectId)) (revisions : MessageId → Option String) :
    selected.foldl record revisions id = revisions id := by
  induction selected generalizing revisions with
  | nil => rfl
  | cons first rest ih =>
      rw [List.map_cons, List.mem_cons, not_or] at absent
      rw [List.foldl_cons, ih absent.2, record, Function.update_of_ne absent.1]

theorem foldl_record_of_mem {selected : List DiscoveredRef}
    (once : (selected.map (·.externalObjectId)).Nodup) (member : ref ∈ selected)
    (revisions : MessageId → Option String) :
    selected.foldl record revisions ref.externalObjectId = some ref.externalRevision := by
  induction selected generalizing revisions with
  | nil => cases member
  | cons first rest ih =>
      rw [List.map_cons, List.nodup_cons] at once
      rw [List.foldl_cons]
      rcases List.mem_cons.1 member with rfl | member
      · rw [foldl_record_of_notMem once.1, record, Function.update_self]
      · exact ih once.2 member _

theorem filter_notMem_take {α : Type*} [DecidableEq α] {items : List α} (once : items.Nodup)
    (count : ℕ) : items.filter (· ∉ items.take count) = items.drop count := by
  have disjoint : ∀ item ∈ items.drop count, item ∉ items.take count :=
    fun item later earlier => List.disjoint_take_drop once le_rfl earlier later
  conv_lhs => arg 2; rw [← List.take_append_drop count items]
  rw [List.filter_append, List.filter_eq_nil_iff.2 (by simp), List.nil_append]
  exact List.filter_eq_self.2 fun item later => by simpa using disjoint item later

/-- A call takes the newest unrecorded messages off, and leaves the others as they were. -/
theorem LinkedOnce.discovered_discover (once : pages.LinkedOnce) :
    (pages.discovered (pages.discover settings cursor).2).reverse =
      (pages.discovered cursor).reverse.drop (settings.runLimit cursor) := by
  have onceUnseen : ((pages.discovered cursor).reverse.map (·.externalObjectId)).Nodup := by
    rw [List.map_reverse, List.nodup_reverse]
    exact once.sublist (List.filter_sublist.map _)
  have onceSelected :
      ((pages.discover settings cursor).1.map (·.externalObjectId)).Nodup :=
    onceUnseen.sublist ((List.take_sublist _ _).map _)
  rw [← filter_notMem_take onceUnseen.of_map, List.filter_reverse]
  congr 1
  rw [discovered, discovered, List.filter_filter]
  refine List.filter_congr fun ref member => ?_
  have unseen : ref ∈ (pages.discover settings cursor).1 →
      cursor.itemRevisions ref.externalObjectId ≠ some ref.externalRevision := fun selected =>
    of_decide_eq_true
      (List.mem_filter.1 (List.mem_reverse.1 (List.mem_of_mem_take selected))).2
  have recorded : (pages.discover settings cursor).2.itemRevisions ref.externalObjectId =
      if ref ∈ (pages.discover settings cursor).1 then some ref.externalRevision
      else cursor.itemRevisions ref.externalObjectId := by
    split
    next selected => exact foldl_record_of_mem onceSelected selected _
    next unselected =>
      refine (foldl_record_of_notMem (fun listed => ?_) _).trans ?_
      · obtain ⟨other, selected, same⟩ := List.mem_map.1 listed
        have found := List.mem_of_mem_filter
          (List.mem_reverse.1 (List.mem_of_mem_take selected))
        exact unselected (List.inj_on_of_nodup_map once found member same ▸ selected)
      · simp only [month_mem_of_mem_messages member, decide_true]
        cases cursor.itemRevisions ref.externalObjectId <;> rfl
  rw [recorded]
  change _ = (decide (ref ∉ (pages.discover settings cursor).1) && _)
  by_cases selected : ref ∈ (pages.discover settings cursor).1 <;> simp [selected]

/-- Messages that are linked once are all emitted, newest-first and once, and then no more. -/
theorem LinkedOnce.emitted_eq_reverse (once : pages.LinkedOnce) (settings : Settings)
    (cursor : Cursor) : ∃ calls,
      (pages.discover settings (pages.after settings calls cursor)).1 = [] ∧
      pages.emitted settings calls cursor = (pages.discovered cursor).reverse := by
  by_cases seen : pages.discovered cursor = []
  · exact ⟨0, by simp [discover, after, seen], by simp [emitted, seen]⟩
  · have shorter : (pages.discovered (pages.discover settings cursor).2).length <
        (pages.discovered cursor).length := by
      have rest := congrArg List.length
        (once.discovered_discover : (pages.discovered (pages.discover settings cursor).2).reverse = _)
      have := settings.runLimit_pos cursor
      have := List.length_pos_iff.2 seen
      simp only [List.length_reverse, List.length_drop] at rest
      omega
    obtain ⟨calls, last, all⟩ := once.emitted_eq_reverse settings (pages.discover settings cursor).2
    refine ⟨calls + 1, last, ?_⟩
    rw [emitted, all, once.discovered_discover]
    exact List.take_append_drop _ _
termination_by (pages.discovered cursor).length

end Calls

/-! ## The result -/

theorem discovered_empty (pages : Pages) : pages.discovered {} = pages.messages :=
  List.filter_eq_self.2 fun _ _ => by simp

/-- A first call that may take a message only takes the last of the oldest month. -/
theorem Faithful.oneMonth (faithful : pages.Faithful) : pages.OneMonth := by
  let settings : Settings :=
    { maxItems := 1, maxItems_pos := Nat.one_pos, initialLimit_pos := Nat.one_pos }
  have same : ∀ first ∈ pages.messages, ∀ second ∈ pages.messages,
      (first.externalObjectId.year, first.externalObjectId.month) =
        (second.externalObjectId.year, second.externalObjectId.month) := by
    rcases unread : pages.messages.reverse with _ | ⟨oldest, rest⟩
    · simp [List.reverse_eq_nil_iff.1 unread]
    have only : (pages.discover settings {}).1 = [oldest] := by
      rw [discover, discovered_empty, unread]
      rfl
    have backwards := List.pairwise_reverse.2 pages.pairwise_months_messages
    rw [unread, List.pairwise_cons] at backwards
    have alike : ∀ ref ∈ pages.messages, toLex (ref.externalObjectId.year,
        ref.externalObjectId.month) = toLex (oldest.externalObjectId.year,
          oldest.externalObjectId.month) := by
      intro ref member
      by_cases id : ref.externalObjectId = oldest.externalObjectId
      · rw [id]
      have later : ref ∈ rest := by
        rw [← List.mem_reverse, unread, List.mem_cons] at member
        exact member.resolve_left fun same => id (same ▸ rfl)
      refine le_antisymm (@month_le_of_recency_le pages _ _ ?_) (backwards.1 ref later)
      refine faithful.newestFirst settings {} oldest (by simp [only]) ref ?_ (by simp [only, id])
      rwa [discovered_empty]
    exact fun first hfirst second hsecond =>
      toLex.injective ((alike first hfirst).trans (alike second hsecond).symm)
  intro month listed other otherListed some others
  obtain ⟨first, hfirst⟩ := List.exists_mem_of_ne_nil _ some
  obtain ⟨second, hsecond⟩ := List.exists_mem_of_ne_nil _ others
  rw [← month_of_mem_monthMessages hfirst, ← month_of_mem_monthMessages hsecond]
  exact same first (List.mem_flatMap.2 ⟨month, listed, hfirst⟩) second
    (List.mem_flatMap.2 ⟨other, otherListed, hsecond⟩)

/-- A first call that may take all messages emits each link. -/
theorem Faithful.linkedOnce (faithful : pages.Faithful) : pages.LinkedOnce := by
  let settings : Settings :=
    { maxItems := pages.messages.length + 1
      maxItems_pos := pages.messages.length.succ_pos
      initialLimit_pos := pages.messages.length.succ_pos }
  have first : (pages.discover settings {}).1 = pages.messages.reverse := by
    rw [discover, discovered_empty]
    exact List.take_of_length_le (by simp [Settings.runLimit, settings])
  obtain ⟨calls, last, once, -⟩ := faithful.quiescent settings {}
  cases calls with
  | zero =>
      have none : pages.messages = [] := List.reverse_eq_nil_iff.1 (first.symm.trans last)
      simp [LinkedOnce, none]
  | succ calls =>
      rw [emitted, first, List.map_append, List.map_reverse] at once
      exact List.nodup_reverse.1 once.of_append_left

/-- Discovery is newest-first and comes to an end exactly where a single month has messages and
none of them is linked twice. -/
theorem faithful_iff (pages : Pages) (oldest : pages.OldestFirst) :
    pages.Faithful ↔ pages.OneMonth ∧ pages.LinkedOnce := by
  refine ⟨fun faithful => ⟨faithful.oneMonth, faithful.linkedOnce⟩, fun ⟨one, once⟩ => ⟨?_, ?_⟩⟩
  · intro settings cursor selected taken ref unseen left
    have ordered : (pages.discovered cursor).reverse.Pairwise fun later earlier =>
        pages.recency earlier ≤ pages.recency later :=
      List.pairwise_reverse.2 ((one.pairwise_messages oldest).sublist List.filter_sublist)
    rw [← List.take_append_drop (settings.runLimit cursor) (pages.discovered cursor).reverse,
      List.pairwise_append] at ordered
    refine ordered.2.2 selected taken ref ?_
    rw [← List.mem_reverse, ← List.take_append_drop (settings.runLimit cursor)
      (pages.discovered cursor).reverse, List.mem_append] at unseen
    exact unseen.resolve_left fun member => left (List.mem_map_of_mem member)
  · intro settings cursor
    obtain ⟨calls, last, all⟩ := once.emitted_eq_reverse settings cursor
    have emittedOnce : ((pages.discovered cursor).map (·.externalObjectId)).Nodup :=
      once.sublist (List.filter_sublist.map _)
    refine ⟨calls, last, ?_, fun id => ?_⟩
    · rwa [all, List.map_reverse, List.nodup_reverse]
    · rw [all, List.map_reverse, List.mem_reverse]

/-- A message in June and a message in May, read in June. -/
def twoMonths : Pages where
  urljoin := fun base href => base ++ href
  sha256 := id
  decimal := fun char => if char.isDigit then some (char.toNat - 48) else none
  page := fun month =>
    if month = (2026, 6) then { url := "2026/06/", links := [{ href := "10/1", title := "June" }] }
    else { url := "2026/05/", links := [{ href := "20/1", title := "May" }] }
  year := 2026
  month := 6
  lookbackMonths := 2
  month_valid := by decide

theorem refOf_of_messageHref {month : ℤ × ℤ} {link : Link} {day ordinal : String}
    (parsed : pages.messageHref link.href = some (day, ordinal)) (titled : link.title ≠ "") :
    pages.refOf month link = some {
      externalObjectId := { year := month.1, month := month.2, day, ordinal }
      canonicalUrl := pages.urljoin (pages.page month).url link.href
      externalRevision := pages.sha256 link.title
      monthUrl := (pages.page month).url
      subject := link.title } := by
  simp [refOf, parsed, titled]

def june : DiscoveredRef where
  externalObjectId := { year := 2026, month := 6, day := "10", ordinal := "1" }
  canonicalUrl := "2026/06/10/1"
  externalRevision := "June"
  monthUrl := "2026/06/"
  subject := "June"

def may : DiscoveredRef where
  externalObjectId := { year := 2026, month := 5, day := "20", ordinal := "1" }
  canonicalUrl := "2026/05/20/1"
  externalRevision := "May"
  monthUrl := "2026/05/"
  subject := "May"

theorem oldestFirst_twoMonths : twoMonths.OldestFirst := by
  intro month _
  obtain ⟨link, single⟩ : ∃ link, (twoMonths.page month).links = [link] := by
    simp only [twoMonths]
    split <;> exact ⟨_, rfl⟩
  rw [monthMessages, single, List.filterMap_cons]
  cases twoMonths.refOf month link <;> simp

theorem faithful_iff_twoMonths :
    twoMonths.Faithful ↔ twoMonths.OneMonth ∧ twoMonths.LinkedOnce :=
  faithful_iff twoMonths oldestFirst_twoMonths

/-- The message of May is taken, and that of June is left for later. -/
theorem may_before_june : twoMonths.OldestFirst ∧ ¬ twoMonths.Faithful := by
  refine ⟨oldestFirst_twoMonths, fun faithful => ?_⟩
  have months : twoMonths.months = [(2026, 6), (2026, 5)] := rfl
  have inJune : twoMonths.monthMessages (2026, 6) = [june] :=
    List.filterMap_cons_some (refOf_of_messageHref (by simp [messageHref, twoMonths]) (by simp))
  have inMay : twoMonths.monthMessages (2026, 5) = [may] :=
    List.filterMap_cons_some (refOf_of_messageHref (by simp [messageHref, twoMonths]) (by simp))
  have messages : twoMonths.messages = [june, may] := by
    simp [Pages.messages, months, inJune, inMay]
  have taken : (twoMonths.discover
      { maxItems := 1, maxItems_pos := Nat.one_pos, initialLimit_pos := Nat.one_pos } {}).1 =
        [may] := by
    rw [discover, discovered_empty, messages]
    rfl
  have newer := month_le_of_recency_le (faithful.newestFirst _ {} may
    (by rw [taken]; exact List.mem_singleton_self _) june
    (by rw [discovered_empty, messages]; exact List.mem_cons_self) (by simp [taken, june, may]))
  simp [june, may, Prod.Lex.toLex_le_toLex] at newer

end Pages

end SecFusion.Sources.OssSecurity
