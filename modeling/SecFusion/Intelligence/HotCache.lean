import SecFusion.Foundations.Interleaving
import SecFusion.Foundations.Json

/-!
# The hot cache

The model of `packages/intelligence/hot_cache/redis.py`.  An entry is a payload
under its own key, which may expire, and a member of five collections shared by all
entries: two rankings, the active and the pinned set, and a hash of lifetimes.

* Each command of the store is a definition of its own.  A command that fails
  inside a `MULTI` block leaves the other commands of the block in force; the
  block's first error is raised after it.
* `HotBugCall` is a call of the cache and `RoundTrip` one exchange of a call with
  the store: `admit`, `unpin` and `evict` first read, and act on what they have
  read in a second exchange.
* `PinSafe` is what the pinned set promises.  A call keeps it unless what it has
  read is out of date (`UpToDate`), so every history whose round trips are up to
  date is safe (`pin_safe_of_upToDate`); a pin between the two exchanges of an
  `admit` is enough to break it (`admitted_with_expiry_after_pin`).

Instants are in milliseconds, as the store keeps them.
-/

namespace SecFusion.Intelligence

open Foundations

/-! ## Entries -/

/-- What the cache keeps of one bug. -/
structure HotBugRecord where
  (acquisitionRunId sourceId externalObjectId : String)
  (externalRevision canonicalUrl : Option String := none)
  (publishedAt updatedAt : Option ℤ := none)
  fetchedAt : ℤ
  contentHash : String
  (rawPayload projection : JsonObject := [])
  (changedFields prioritySignals : List String := [])
  deriving DecidableEq

def bugKey (sourceId externalObjectId : String) : String :=
  s!"bug:{sourceId}:{externalObjectId}"

def HotBugRecord.cacheKey (record : HotBugRecord) : String :=
  s!"bug:{record.sourceId}:{record.externalObjectId}"

/-- The score of an instant, in seconds. -/
def timestamp (instant : ℤ) : ℚ := instant / 1000

/-- A value under a key of its own, and when it expires. -/
structure Resident where
  record : HotBugRecord
  expiry : Option ℤ := none
  deriving DecidableEq

/-- The part of the store that the cache uses. -/
structure HotStore where
  clock : ℤ := 0
  payloads : String → Option Resident := fun _ => none
  /-- `bug:updated` -/
  updated : String → Option ℚ := fun _ => none
  /-- `bug:access` -/
  access : String → Option ℚ := fun _ => none
  /-- `bug:active` -/
  active : String → Bool := fun _ => false
  /-- `bug:pinned` -/
  pinned : String → Bool := fun _ => false
  /-- `bug:ttl` -/
  ttls : String → Option ℤ := fun _ => none

/-- What an entry's place in the pinned set says about its payload: a pinned payload
does not expire, and one that is not pinned does. -/
def EntrySafe (payload : Option Resident) (pinned : Bool) : Prop :=
  ∀ resident ∈ payload,
    (pinned = true → resident.expiry = none) ∧ (pinned = false → resident.expiry ≠ none)

/-- Every entry's payload is as its place in the pinned set says. -/
def PinSafe (store : HotStore) : Prop :=
  ∀ key, EntrySafe (store.payloads key) (store.pinned key)

/-! ## Commands -/

/-- An error reply of the store. -/
inductive ResponseError where
  | invalidExpireTime

/-- The largest instant the store can hold, 2 ^ 63 - 1. -/
def maxInstant : ℤ := 9223372036854775807

/-- A lifetime in seconds that does not end after the last instant. -/
def ExpireTime (clock ttl : ℤ) : Prop :=
  -(maxInstant / 1000) ≤ ttl ∧ ttl ≤ maxInstant / 1000 ∧ clock + ttl * 1000 ≤ maxInstant

instance (clock ttl : ℤ) : Decidable (ExpireTime clock ttl) :=
  inferInstanceAs (Decidable (_ ∧ _ ∧ _))

namespace HotStore

/-- `SET key value`, which also drops the expiry of an earlier value. -/
def set (store : HotStore) (key : String) (record : HotBugRecord) : HotStore :=
  { store with payloads := update store.payloads key (some { record }) }

/-- `SET key value EX ttl`.  The lifetime must be positive. -/
def setEx (store : HotStore) (key : String) (record : HotBugRecord) (ttl : ℤ) :
    Except ResponseError HotStore :=
  if 0 < ttl ∧ ExpireTime store.clock ttl then
    .ok { store with
      payloads := update store.payloads key
        (some { record, expiry := some (store.clock + ttl * 1000) }) }
  else
    .error .invalidExpireTime

/-- `PERSIST key`. -/
def persist (store : HotStore) (key : String) : HotStore :=
  { store with
    payloads := update store.payloads key
      ((store.payloads key).map fun resident => { resident with expiry := none }) }

/-- `DEL key`. -/
def delete (store : HotStore) (key : String) : HotStore :=
  { store with payloads := update store.payloads key none }

/-- `EXPIRE key ttl`.  A lifetime that is not positive deletes the key. -/
def expire (store : HotStore) (key : String) (ttl : ℤ) : Except ResponseError HotStore :=
  if ExpireTime store.clock ttl then
    if ttl ≤ 0 then .ok (store.delete key)
    else .ok { store with
      payloads := update store.payloads key
        ((store.payloads key).map fun resident =>
          { resident with expiry := some (store.clock + ttl * 1000) }) }
  else
    .error .invalidExpireTime

/-- Time passes, and what has expired by then is gone. -/
def passes (store : HotStore) (milliseconds : ℕ) : HotStore :=
  { store with
    clock := store.clock + milliseconds
    payloads := fun key => (store.payloads key).filter fun resident =>
      decide (∀ instant ∈ resident.expiry, store.clock + milliseconds < instant) }

end HotStore

/-! ## Calls -/

inductive HotBugCall where
  | admitRecord (record : HotBugRecord) (ttlSeconds : ℤ)
  | touch (sourceId externalObjectId : String)
  | pin (sourceId externalObjectId : String)
  | unpin (sourceId externalObjectId : String)
  | evict (sourceId externalObjectId : String)

/-- The next exchange of a call with the store. -/
inductive RoundTrip where
  | admitReads (record : HotBugRecord) (ttlSeconds : ℤ)
  | admits (record : HotBugRecord) (ttlSeconds : ℤ) (pinned : Bool)
  | touches (key : String)
  | pins (key : String)
  | unpinReads (key : String)
  | unpins (key : String) (ttl : Option ℤ)
  | evictReads (key : String)
  | evicts (key : String)

def HotBugCall.enter : HotBugCall → RoundTrip
  | admitRecord record ttlSeconds => .admitReads record ttlSeconds
  | touch sourceId externalObjectId => .touches (bugKey sourceId externalObjectId)
  | pin sourceId externalObjectId => .pins (bugKey sourceId externalObjectId)
  | unpin sourceId externalObjectId => .unpinReads (bugKey sourceId externalObjectId)
  | evict sourceId externalObjectId => .evictReads (bugKey sourceId externalObjectId)

/-- The reply to a block one of whose commands may have failed. -/
def reply (store : HotStore) (attempt : Except ResponseError HotStore) :
    HotStore × Turn RoundTrip Unit ResponseError :=
  match attempt with
  | .ok next => (next, .returned ())
  | .error raised => (store, .raised raised)

/-- The `MULTI` block of `admit`. -/
def admitBlock (record : HotBugRecord) (ttlSeconds : ℤ) (pinned : Bool) (store : HotStore) :
    Turn RoundTrip Unit ResponseError × HotStore :=
  let key := record.cacheKey
  let (set, turn) := reply store <|
    if pinned then .ok (store.set key record) else store.setEx key record ttlSeconds
  (turn, { set with
    updated := update set.updated key
      (some (timestamp (record.updatedAt.getD record.fetchedAt)))
    access := update set.access key (some ((set.access key).getD 0))
    ttls := update set.ttls key (some ttlSeconds) })

/-- The `MULTI` block of `pin`. -/
def pinBlock (key : String) (store : HotStore) : HotStore :=
  { store with pinned := update store.pinned key true }.persist key

/-- The `MULTI` block of `unpin`. -/
def unpinBlock (key : String) (ttl : Option ℤ) (store : HotStore) :
    Turn RoundTrip Unit ResponseError × HotStore :=
  let removed : HotStore := { store with pinned := update store.pinned key false }
  match ttl with
  | none => (.returned (), removed)
  | some ttl => (reply removed (removed.expire key ttl)).swap

/-- The `MULTI` block of `evict`. -/
def evictBlock (key : String) (store : HotStore) : HotStore :=
  { store.delete key with
    updated := update store.updated key none
    access := update store.access key none
    active := update store.active key false
    ttls := update store.ttls key none }

def RoundTrip.take : RoundTrip → HotStore → Turn RoundTrip Unit ResponseError × HotStore
  | admitReads record ttlSeconds, store =>
      (.goesOn (.admits record ttlSeconds (store.pinned record.cacheKey)), store)
  | admits record ttlSeconds pinned, store => admitBlock record ttlSeconds pinned store
  | touches key, store =>
      (.returned (), { store with
        access := update store.access key (some ((store.access key).getD 0 + 1)) })
  | pins key, store => (.returned (), pinBlock key store)
  | unpinReads key, store => (.goesOn (.unpins key (store.ttls key)), store)
  | unpins key ttl, store => unpinBlock key ttl store
  | evictReads key, store =>
      if store.pinned key then (.returned (), store) else (.goesOn (.evicts key), store)
  | evicts key, store => (.returned (), evictBlock key store)

/-- The cache as a service; the event of the store is that time passes. -/
def hotBugCache : Service HotBugCall HotStore RoundTrip Unit ResponseError ℕ where
  enter := HotBugCall.enter
  trip := RoundTrip.take
  occur milliseconds store := store.passes milliseconds

/-! ## What a call may have missed -/

/-- What a call has read still holds where it matters.  The block of an `admit` meets
the entry pinned as it has read it, or it has read an entry that was not pinned and
its lifetime is refused anyway.  The block of an `unpin` that meets a payload that is
pinned has a lifetime to give it. -/
def RoundTrip.UpToDate (store : HotStore) : RoundTrip → Prop
  | admits record ttlSeconds pinned =>
      pinned = store.pinned record.cacheKey ∨
        pinned = false ∧ ¬ (0 < ttlSeconds ∧ ExpireTime store.clock ttlSeconds)
  | unpins key ttl =>
      store.pinned key = true → (store.payloads key).isSome →
        ∃ seconds ∈ ttl, ExpireTime store.clock seconds
  | _ => True

/-- The round trip that happens next, if it is one, is up to date. -/
def UpToDate (state : Concurrent HotStore RoundTrip Unit) : Happening HotBugCall ℕ → Prop
  | .proceeds position => ∀ call ∈ state.calls[position]?, call.UpToDate state.store
  | _ => True

instance (store : HotStore) : (call : RoundTrip) → Decidable (call.UpToDate store)
  | .admits _ _ _ => inferInstanceAs (Decidable (_ ∨ _))
  | .unpins key none =>
      decidable_of_iff (¬ (store.pinned key = true ∧ (store.payloads key).isSome))
        (by simp [RoundTrip.UpToDate])
  | .unpins key (some seconds) =>
      decidable_of_iff
        (store.pinned key = true ∧ (store.payloads key).isSome → ExpireTime store.clock seconds)
        (by simp [RoundTrip.UpToDate])
  | .admitReads _ _ | .touches _ | .pins _ | .unpinReads _ | .evictReads _ | .evicts _ =>
      inferInstanceAs (Decidable True)

instance (state : Concurrent HotStore RoundTrip Unit) :
    (happening : Happening HotBugCall ℕ) → Decidable (UpToDate state happening)
  | .proceeds position =>
      inferInstanceAs (Decidable (∀ call ∈ state.calls[position]?, call.UpToDate state.store))
  | .begins _ | .crashes _ | .occurs _ => inferInstanceAs (Decidable True)

section Safety

variable {store : HotStore} {key : String}

/-- A block writes one entry, so only that entry is to be looked at. -/
theorem PinSafe.of_entry {next : HotStore} (safe : PinSafe store)
    (others : ∀ other, other ≠ key →
      next.payloads other = store.payloads other ∧ next.pinned other = store.pinned other)
    (here : EntrySafe (next.payloads key) (next.pinned key)) : PinSafe next := by
  intro other
  by_cases same : other = key
  · rw [same]
    exact here
  · rw [(others other same).1, (others other same).2]
    exact safe other

theorem entrySafe_none (pinned : Bool) : EntrySafe none pinned := nofun

theorem PinSafe.passes (safe : PinSafe store) (milliseconds : ℕ) :
    PinSafe (store.passes milliseconds) := by
  intro other resident member
  have before : resident ∈ store.payloads other := (Option.mem_filter_iff.1 member).1
  exact safe other resident before

theorem PinSafe.pinBlock (safe : PinSafe store) : PinSafe (pinBlock key store) := by
  refine safe.of_entry (fun other (differs : other ≠ key) => ?_) ?_
  · simp [Intelligence.pinBlock, HotStore.persist, update_of_ne differs]
  · intro resident member
    simp only [Intelligence.pinBlock, HotStore.persist, update_self,
      Option.mem_map] at member ⊢
    obtain ⟨earlier, -, rfl⟩ := member
    simp

theorem PinSafe.evictBlock (safe : PinSafe store) : PinSafe (evictBlock key store) := by
  refine safe.of_entry (fun other (differs : other ≠ key) => ?_) ?_
  · simp [Intelligence.evictBlock, HotStore.delete, update_of_ne differs]
  · simpa [Intelligence.evictBlock, HotStore.delete] using entrySafe_none _

/-- What an `admit` leaves as payloads: a value that does not expire when it has read
the entry as pinned, otherwise one that does, or the old one when the store refuses
the lifetime. -/
theorem admitBlock_payloads (record : HotBugRecord) (ttlSeconds : ℤ) (pinned : Bool) :
    (admitBlock record ttlSeconds pinned store).2.payloads =
      if pinned then update store.payloads record.cacheKey (some { record })
      else if 0 < ttlSeconds ∧ ExpireTime store.clock ttlSeconds then
        update store.payloads record.cacheKey
          (some { record, expiry := some (store.clock + ttlSeconds * 1000) })
      else store.payloads := by
  unfold admitBlock HotStore.setEx
  cases pinned
  · by_cases accepted : 0 < ttlSeconds ∧ ExpireTime store.clock ttlSeconds
    · simp [accepted, reply]
    · simp [accepted, reply]
  · simp [reply, HotStore.set]

theorem admitBlock_pinned (record : HotBugRecord) (ttlSeconds : ℤ) (pinned : Bool) :
    (admitBlock record ttlSeconds pinned store).2.pinned = store.pinned := by
  unfold admitBlock HotStore.setEx
  cases pinned
  · by_cases accepted : 0 < ttlSeconds ∧ ExpireTime store.clock ttlSeconds
    · simp [accepted, reply]
    · simp [accepted, reply]
  · simp [reply, HotStore.set]

theorem PinSafe.admitBlock (safe : PinSafe store) {record : HotBugRecord} {ttlSeconds : ℤ}
    {pinned : Bool}
    (current : pinned = store.pinned record.cacheKey ∨
      pinned = false ∧ ¬ (0 < ttlSeconds ∧ ExpireTime store.clock ttlSeconds)) :
    PinSafe (admitBlock record ttlSeconds pinned store).2 := by
  refine safe.of_entry (fun other (differs : other ≠ record.cacheKey) => ?_) ?_
  · rw [admitBlock_payloads, admitBlock_pinned]
    split_ifs <;> simp [update_of_ne differs]
  · rw [admitBlock_payloads, admitBlock_pinned]
    split_ifs with readPinned accepted
    · -- read as pinned, which then it still is
      have still : store.pinned record.cacheKey = true := by
        rcases current with same | ⟨unread, -⟩
        · rw [← same, readPinned]
        · simp [unread] at readPinned
      simp [EntrySafe, still]
    · -- read as not pinned, and the lifetime is accepted, so it still is not
      have still : store.pinned record.cacheKey = false := by
        rcases current with same | ⟨-, refused⟩
        · rw [← same]
          simpa using readPinned
        · exact absurd accepted refused
      simp [EntrySafe, still]
    · exact safe record.cacheKey

theorem unpinBlock_pinned (ttl : Option ℤ) :
    (unpinBlock key ttl store).2.pinned = update store.pinned key false := by
  unfold unpinBlock HotStore.expire HotStore.delete
  cases ttl with
  | none => rfl
  | some seconds =>
      dsimp only
      split_ifs <;> rfl

/-- The payload that an `unpin` leaves when the lifetime it has read is accepted. -/
def shortened (clock seconds : ℤ) (payload : Option Resident) : Option Resident :=
  if seconds ≤ 0 then none
  else payload.map fun resident => { resident with expiry := some (clock + seconds * 1000) }

theorem unpinBlock_payloads (ttl : Option ℤ) :
    (unpinBlock key ttl store).2.payloads =
      match ttl with
      | none => store.payloads
      | some seconds =>
          if ExpireTime store.clock seconds then
            update store.payloads key
              (shortened store.clock seconds (store.payloads key))
          else store.payloads := by
  unfold unpinBlock HotStore.expire HotStore.delete shortened
  cases ttl with
  | none => rfl
  | some seconds =>
      dsimp only
      split_ifs <;> rfl

theorem entrySafe_shortened (clock seconds : ℤ) (payload : Option Resident) :
    EntrySafe (shortened clock seconds payload) false := by
  unfold shortened
  split_ifs
  · exact entrySafe_none false
  · intro resident member
    obtain ⟨earlier, -, rfl⟩ := Option.mem_map.1 member
    simp

theorem PinSafe.unpinBlock (safe : PinSafe store) {ttl : Option ℤ}
    (lifetime : store.pinned key = true → (store.payloads key).isSome →
      ∃ seconds ∈ ttl, ExpireTime store.clock seconds) :
    PinSafe (unpinBlock key ttl store).2 := by
  refine safe.of_entry (fun other (differs : other ≠ key) => ?_) ?_
  · rw [unpinBlock_payloads, unpinBlock_pinned]
    cases ttl with
    | none => simp [update_of_ne differs]
    | some seconds =>
        dsimp only
        split_ifs <;> simp [update_of_ne differs]
  · rw [unpinBlock_payloads, unpinBlock_pinned, update_self]
    -- where no lifetime is set, the entry was not pinned or has no payload
    have untouched : (∀ seconds ∈ ttl, ¬ ExpireTime store.clock seconds) →
        EntrySafe (store.payloads key) false := by
      intro refused resident member
      have before := safe key resident member
      refine ⟨nofun, fun _ => before.2 ?_⟩
      by_contra pinned
      obtain ⟨seconds, read, accepted⟩ :=
        lifetime (by simpa using pinned) (Option.isSome_of_mem member)
      exact refused seconds read accepted
    cases ttl with
    | none => exact untouched nofun
    | some seconds =>
        dsimp only
        split_ifs with accepted
        · rw [update_self]
          exact entrySafe_shortened _ _ _
        · exact untouched (by simpa using accepted)

end Safety

/-! ## The histories that keep the pinned set's promise -/

/-- **What a round trip keeps.**  A round trip that is up to date leaves every entry as
its place in the pinned set says. -/
theorem pinSafe_of_trip {state : Concurrent HotStore RoundTrip Unit} {position : ℕ}
    {call : RoundTrip} {turn : Turn RoundTrip Unit ResponseError} {store : HotStore}
    (safe : PinSafe state.store) (current : UpToDate state (.proceeds position))
    (here : state.calls[position]? = some call)
    (took : hotBugCache.trip call state.store = (turn, store)) : PinSafe store := by
  have left : store = (call.take state.store).2 := (congrArg Prod.snd took).symm
  rw [left]
  replace current : call.UpToDate state.store := current call here
  cases call with
  | admitReads record ttlSeconds => exact safe
  | admits record ttlSeconds pinned => exact safe.admitBlock current
  | touches key => exact safe
  | pins key => exact safe.pinBlock
  | unpinReads key => exact safe
  | unpins key ttl => exact safe.unpinBlock current
  | evictReads key =>
      rw [RoundTrip.take]
      split <;> exact safe
  | evicts key => exact safe.evictBlock

/-- **Pin safety.**  In every history of the cache whose round trips are up to date,
whatever the interleaving, a pinned payload has no expiry and one that is not pinned
has one. -/
theorem pin_safe_of_upToDate (start : Concurrent HotStore RoundTrip Unit)
    (safe : PinSafe start.store) (history : List (Happening HotBugCall ℕ))
    (current : Along (concurrently hotBugCache) UpToDate start history) :
    PinSafe (run (concurrently hotBugCache) start history).store :=
  @store_invariant _ _ _ _ _ _ hotBugCache UpToDate PinSafe
    (fun _ _ _ _ _ kept upToDate here took => pinSafe_of_trip kept upToDate here took)
    (fun _ milliseconds kept => kept.passes milliseconds) _ safe history current

/-- A record whose fields do not matter here. -/
def hotRecord : HotBugRecord where
  acquisitionRunId := "run-1"
  sourceId := "nvd-cves-2"
  externalObjectId := "CVE-2026-42424"
  fetchedAt := 0
  contentHash := "abc"

/-- An entry is admitted, then read by two calls at once: one pins and one touches it.
It is unpinned again, and time passes. -/
def pinnedAndUnpinned (record : HotBugRecord) : List (Happening HotBugCall ℕ) :=
  [.begins (.admitRecord record 600), .proceeds 0, .proceeds 0,
    .begins (.touch record.sourceId record.externalObjectId),
    .begins (.pin record.sourceId record.externalObjectId), .proceeds 1, .proceeds 0,
    .begins (.unpin record.sourceId record.externalObjectId), .proceeds 0, .proceeds 0,
    .occurs 1000]

theorem pin_safe_of_upToDate_pinnedAndUnpinned :
    PinSafe (run (concurrently hotBugCache) { store := {} } (pinnedAndUnpinned hotRecord)).store :=
  pin_safe_of_upToDate _ (fun _ => entrySafe_none _) _ (by decide +kernel)

/-! ## A pin between the exchanges of an `admit` -/

/-- An unpinned entry is admitted while it is being pinned: the pin falls between the
reading and the writing of the `admit`. -/
def admittedWhilePinned (record : HotBugRecord) (ttlSeconds : ℤ) : List (Happening HotBugCall ℕ) :=
  [.begins (.admitRecord record ttlSeconds),
    .proceeds 0,
    .begins (.pin record.sourceId record.externalObjectId),
    .proceeds 1,
    .proceeds 0]

/-- **A pinned entry may expire.**  After both calls have returned the entry is pinned
and its payload has an expiry. -/
theorem admitted_with_expiry_after_pin :
    ¬ ∀ history : List (Happening HotBugCall ℕ),
      (run (concurrently hotBugCache) { store := {} } history).calls = [] →
        PinSafe (run (concurrently hotBugCache) { store := {} } history).store := by
  intro always
  have safe := always (admittedWhilePinned hotRecord 600) (by decide +kernel) hotRecord.cacheKey
  have resident : (run (concurrently hotBugCache) { store := {} }
      (admittedWhilePinned hotRecord 600)).store.payloads hotRecord.cacheKey =
        some { record := hotRecord, expiry := some 600000 } := by decide +kernel
  have pinned : (run (concurrently hotBugCache) { store := {} }
      (admittedWhilePinned hotRecord 600)).store.pinned hotRecord.cacheKey = true := by decide +kernel
  exact absurd ((safe _ resident).1 pinned) nofun

end SecFusion.Intelligence
