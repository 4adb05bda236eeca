import SecFusion.Foundations.Slices
import SecFusion.Foundations.Text
import SecFusion.Intelligence.HotCache

/-!
# Ranked pages of the hot cache

The model of `RedisHotBugCache.list_ranked`: the candidates of a page are the first members of
the two rankings, four for each entry up to the end of the page, with the active and the pinned
ones; those that are resident are sorted and sliced.

A page is a slice of the ranking of all resident entries exactly when its candidates hold all
that ranks before its end.  The windows count members whose payload has expired, and a ranking
breaks its ties by name alone, so they may fail to.

A store has finitely many keys: `HotKeyspace` lists them, with payloads under their own keys, as
every history of the cache leaves them.
-/

namespace SecFusion.Intelligence

open Foundations

/-! ## The keys of a store -/

/-- Every entry of the store is under a listed key. -/
def Enumerates (keys : List String) (store : HotStore) : Prop :=
  ∀ key, (store.payloads key).isSome ∨ (store.updated key).isSome ∨ (store.access key).isSome ∨
    store.active key ∨ store.pinned key → key ∈ keys

/-- Every payload is under its own key. -/
def Filed (store : HotStore) : Prop :=
  ∀ key resident, store.payloads key = some resident → resident.record.cacheKey = key

/-- A store with a list of its keys. -/
structure HotKeyspace where
  store : HotStore
  keys : List String
  nodup : keys.Nodup
  enumerates : Enumerates keys store
  filed : Filed store

structure HotBugCacheEntry where
  record : HotBugRecord
  (accessCount updatedScore : ℚ := 0)
  (active pinned : Bool := false)
  ttlSeconds : Option ℤ := none

namespace HotStore

variable (store : HotStore)

/-- `TTL key` of a payload, to the nearest second; one that does not expire has none. -/
def ttlOf (resident : Resident) : Option ℤ :=
  (resident.expiry.map fun instant => (instant - store.clock + 500) / 1000).filter (0 ≤ ·)

/-- The entry under a key, when its payload is resident. -/
def entryOf (key : String) : Option HotBugCacheEntry :=
  (store.payloads key).map fun resident =>
    { record := resident.record
      accessCount := (store.access key).getD 0
      updatedScore := (store.updated key).getD 0
      active := store.active key
      pinned := store.pinned key
      ttlSeconds := store.ttlOf resident }

end HotStore

/-! ## A page -/

def HotBugCacheEntry.rank (entry : HotBugCacheEntry) :
    Bool ×ₗ Bool ×ₗ ℚ ×ₗ ℚ ×ₗ String :=
  toLex (entry.pinned, toLex (entry.active,
    toLex (entry.accessCount, toLex (entry.updatedScore, entry.record.cacheKey))))

/-- `entries.sort(..., reverse=True)`. -/
def sortRanked (entries : List HotBugCacheEntry) : List HotBugCacheEntry :=
  entries.insertionSort fun first second => second.rank ≤ first.rank

variable {key : String} {entry : HotBugCacheEntry} {keys : List String}

namespace HotKeyspace

variable (space : HotKeyspace)

/-- `ZREVRANGE key 0 count-1`: the members of a ranking by score and then by name, the greatest
first, whether their payloads are resident or not. -/
def zrevrange (scores : String → Option ℚ) (count : ℕ) : List String :=
  (((space.keys.filterMap fun key => (scores key).map fun score => toLex (score, key)).insertionSort
    (· ≥ ·)).map fun member => (ofLex member).2).take count

/-- `SMEMBERS key`. -/
def smembers (member : String → Bool) : List String := space.keys.filter member

/-- The candidates of a page, as a set. -/
def candidates (limit offset : ℕ) : List String :=
  let candidateLimit := (offset + limit) * 4
  space.zrevrange space.store.updated candidateLimit ++
    space.zrevrange space.store.access candidateLimit ++
    space.smembers space.store.active ++ space.smembers space.store.pinned

/-- `list_ranked`. -/
def listRanked (limit : ℤ := 24) (offset : ℤ := 0) : List HotBugCacheEntry :=
  if limit < 1 ∨ offset < 0 then []
  else
    let orderedKeys := sortedSet (space.candidates limit.toNat offset.toNat)
    let entries := orderedKeys.filterMap space.store.entryOf
    slice (sortRanked entries) offset.toNat (offset + limit).toNat

/-! ## The ranking of all entries -/

def ranking : List HotBugCacheEntry := sortRanked (space.keys.filterMap space.store.entryOf)

/-- The slice of the ranking that a page asks for, if it asks for any. -/
def rankedSlice (limit offset : ℤ) : List HotBugCacheEntry :=
  if limit < 1 ∨ offset < 0 then []
  else slice space.ranking offset.toNat (offset + limit).toNat

/-- The page asks for nothing, or starts after the last resident entry, or every entry that ranks
before its end is a candidate: it is active or pinned, or a window of a ranking reaches it. -/
def SeesPage (limit offset : ℤ) : Prop :=
  limit < 1 ∨ offset < 0 ∨ space.ranking.length ≤ offset.toNat ∨
    ∀ entry ∈ space.ranking.take (offset + limit).toNat,
      entry.record.cacheKey ∈ space.candidates limit.toNat offset.toNat

instance (limit offset : ℤ) : Decidable (space.SeesPage limit offset) :=
  inferInstanceAs (Decidable (_ ∨ _ ∨ _ ∨ _))

variable {space}

theorem cacheKey_of_entryOf (found : space.store.entryOf key = some entry) :
    entry.record.cacheKey = key := by
  obtain ⟨resident, stored, rfl⟩ := map_eq_some_iff.1 found
  exact space.filed key resident stored

theorem listed_of_entryOf (found : space.store.entryOf key = some entry) : key ∈ space.keys := by
  obtain ⟨resident, stored, rfl⟩ := map_eq_some_iff.1 found
  exact space.enumerates key (.inl (by rw [stored, Option.isSome_some]))

/-- The ranking tells the entries of a store apart. -/
theorem entry_eq_of_rank {other : String} {first second : HotBugCacheEntry}
    (here : space.store.entryOf key = some first) (there : space.store.entryOf other = some second)
    (same : first.rank = second.rank) :
    first = second := by
  have sameKey : first.record.cacheKey = second.record.cacheKey := by
    simp only [HotBugCacheEntry.rank, toLex_inj, Prod.mk.injEq] at same
    exact same.2.2.2.2
  rw [cacheKey_of_entryOf here, cacheKey_of_entryOf there] at sameKey
  subst sameKey
  exact mem_unique here there

theorem mem_ranking :
    entry ∈ space.ranking ↔ ∃ key, space.store.entryOf key = some entry := by
  rw [ranking, sortRanked, mem_insertionSort, mem_filterMap]
  exact ⟨fun ⟨key, _, found⟩ => ⟨key, found⟩,
    fun ⟨key, found⟩ => ⟨key, listed_of_entryOf found, found⟩⟩

theorem nodup_entries (nodup : keys.Nodup) :
    (keys.filterMap space.store.entryOf).Nodup := by
  refine List.Nodup.filterMap (fun key other entry here there => ?_) nodup
  exact (cacheKey_of_entryOf here).symm.trans (cacheKey_of_entryOf there)

theorem nodup_ranking : space.ranking.Nodup :=
  (perm_insertionSort _ _).nodup_iff.2 (nodup_entries space.nodup)

theorem nodup_sortedSet (texts : List String) : (sortedSet texts).Nodup :=
  (perm_insertionSort _ _).nodup_iff.2 (nodup_dedup texts)

theorem pairwise_sortRanked (entries : List HotBugCacheEntry) :
    (sortRanked entries).Pairwise fun first second => second.rank ≤ first.rank := by
  have total : Std.Total fun first second : HotBugCacheEntry => second.rank ≤ first.rank :=
    ⟨fun first second => le_total second.rank first.rank⟩
  have transitive : IsTrans HotBugCacheEntry fun first second => second.rank ≤ first.rank :=
    ⟨fun _ _ _ below above => above.trans below⟩
  exact pairwise_insertionSort _ entries

/-- What a page sorts is the ranking without the entries that are no candidates. -/
theorem sortRanked_candidates (texts : List String) :
    sortRanked ((sortedSet texts).filterMap space.store.entryOf) =
      space.ranking.filter fun entry => entry.record.cacheKey ∈ texts := by
  refine List.Perm.eq_of_pairwise ?_ (pairwise_sortRanked _)
    ((pairwise_sortRanked _).filter _) ?_
  · intro first second firstMember secondMember below above
    rw [sortRanked, mem_insertionSort, mem_filterMap] at firstMember
    obtain ⟨key, -, here⟩ := firstMember
    obtain ⟨other, there⟩ := mem_ranking.1 (mem_of_mem_filter secondMember)
    exact entry_eq_of_rank here there (le_antisymm above below)
  · refine (perm_insertionSort _ _).trans
      ((perm_ext_iff_of_nodup (nodup_entries (nodup_sortedSet texts))
        (nodup_ranking.filter _)).2 fun entry => ?_)
    rw [mem_filterMap, mem_filter, mem_ranking, decide_eq_true_eq]
    constructor
    · rintro ⟨key, candidate, found⟩
      rw [mem_sortedSet] at candidate
      exact ⟨⟨key, found⟩, by rwa [cacheKey_of_entryOf found]⟩
    · rintro ⟨⟨key, found⟩, candidate⟩
      rw [cacheKey_of_entryOf found] at candidate
      exact ⟨key, mem_sortedSet.2 candidate, found⟩

/-- A page is the slice it asks for exactly when it sees all that ranks before its end. -/
theorem listRanked_eq_iff (limit offset : ℤ) :
    space.listRanked limit offset = space.rankedSlice limit offset ↔
      space.SeesPage limit offset := by
  by_cases nothing : limit < 1 ∨ offset < 0
  · rw [listRanked, rankedSlice, if_pos nothing, if_pos nothing, SeesPage]
    exact ⟨fun _ => nothing.imp id .inl, fun _ => rfl⟩
  · have wide : offset.toNat < (offset + limit).toNat := by omega
    rw [listRanked, rankedSlice, if_neg nothing, if_neg nothing, SeesPage, ← or_assoc,
      or_iff_right nothing]
    dsimp only
    rw [sortRanked_candidates, slice_filter_eq_iff nodup_ranking wide]
    simp only [decide_eq_true_eq]

/-- Pages that follow one another and are seen are one slice of the ranking. -/
theorem flatMap_listRanked {limit offset : ℤ} (inside : 0 ≤ offset) (pages : ℕ)
    (sees : ∀ page < pages, space.SeesPage limit (offset + page * limit)) :
    ((List.range pages).flatMap fun page : ℕ => space.listRanked limit (offset + page * limit)) =
      space.rankedSlice (pages * limit) offset := by
  have exact : ∀ page ∈ List.range pages,
      space.listRanked limit (offset + page * limit) =
        space.rankedSlice limit (offset + page * limit) := fun page member =>
    (listRanked_eq_iff _ _).2 (sees page (List.mem_range.1 member))
  rw [List.flatMap_congr exact]
  by_cases nothing : limit < 1
  -- pages of no entries are empty, and so is the slice that they make
  · have none : (pages : ℤ) * limit < 1 := by
      have := mul_nonpos_of_nonneg_of_nonpos (Int.natCast_nonneg pages) (by omega : limit ≤ 0)
      omega
    simp [rankedSlice, nothing, none]
  · obtain ⟨size, rfl⟩ := Int.eq_ofNat_of_zero_le (by omega : 0 ≤ limit)
    obtain ⟨start, rfl⟩ := Int.eq_ofNat_of_zero_le inside
    have pageSlice : ∀ page : ℕ, space.rankedSlice size (start + page * size) =
        slice space.ranking (start + page * size) (start + page * size + size) := by
      intro page
      have asks : ¬ ((size : ℤ) < 1 ∨ (start : ℤ) + page * size < 0) := by
        have : (0 : ℤ) ≤ page * size := by positivity
        omega
      rw [rankedSlice, if_neg asks]
      norm_cast
    simp only [pageSlice]
    rw [flatMap_pages, rankedSlice]
    rcases Nat.eq_zero_or_pos pages with rfl | more
    · simp [slice]
    · have asks : ¬ ((pages : ℤ) * size < 1 ∨ (start : ℤ) < 0) := by
        have : (0 : ℤ) < pages * size := by
          have : (0 : ℤ) < size := by omega
          positivity
        omega
      rw [if_neg asks]
      norm_cast

end HotKeyspace

/-! ## Histories keep the keys -/

section Histories

variable {store next : HotStore}

/-- Only the entry under one key may have changed. -/
structure OnlyAt (key : String) (store next : HotStore) : Prop where
  payloads : ∀ other, other ≠ key → next.payloads other = store.payloads other
  updated : ∀ other, other ≠ key → next.updated other = store.updated other
  access : ∀ other, other ≠ key → next.access other = store.access other
  active : ∀ other, other ≠ key → next.active other = store.active other
  pinned : ∀ other, other ≠ key → next.pinned other = store.pinned other

theorem OnlyAt.refl (key : String) (store : HotStore) : OnlyAt key store store :=
  ⟨fun _ _ => rfl, fun _ _ => rfl, fun _ _ => rfl, fun _ _ => rfl, fun _ _ => rfl⟩

def RoundTrip.about : RoundTrip → String
  | admitReads record _ | admits record _ _ => record.cacheKey
  | touches key | pins key | unpinReads key | unpins key _ | evictReads key | evicts key => key

open RoundTrip (about take)

/-- The payload under a key is the one that was there, or a record of that key. -/
def FiledAt (key : String) (store next : HotStore) : Prop :=
  ∀ resident, next.payloads key = some resident → resident.record.cacheKey = key ∨
    ∃ earlier, store.payloads key = some earlier ∧ resident.record = earlier.record

theorem FiledAt.refl (key : String) (store : HotStore) : FiledAt key store store :=
  fun resident found => .inr ⟨resident, found, rfl⟩

theorem onlyAt_admitBlock (record : HotBugRecord) (ttlSeconds : ℤ) (pinned : Bool) :
    OnlyAt record.cacheKey store (admitBlock record ttlSeconds pinned store).2 := by
  unfold admitBlock HotStore.setEx
  cases pinned
  · by_cases accepted : 0 < ttlSeconds ∧ ExpireTime store.clock ttlSeconds
    · constructor <;> intro other differs <;> simp [accepted, reply, differs]
    · constructor <;> intro other differs <;> simp [accepted, reply, differs]
  · constructor <;> intro other differs <;> simp [reply, HotStore.set, differs]

theorem filedAt_admitBlock (record : HotBugRecord) (ttlSeconds : ℤ) (pinned : Bool) :
    FiledAt record.cacheKey store (admitBlock record ttlSeconds pinned store).2 := by
  intro resident found
  rw [admitBlock_payloads] at found
  split_ifs at found
  · rw [update_self, some.injEq] at found
    exact .inl (by rw [← found])
  · rw [update_self, some.injEq] at found
    exact .inl (by rw [← found])
  · exact .inr ⟨resident, found, rfl⟩

theorem onlyAt_unpinBlock (key : String) (ttl : Option ℤ) :
    OnlyAt key store (unpinBlock key ttl store).2 := by
  unfold unpinBlock HotStore.expire HotStore.delete
  cases ttl with
  | none => constructor <;> intro other differs <;> simp [differs]
  | some seconds =>
      dsimp only
      split_ifs <;> constructor <;> intro other differs <;> simp [reply, differs]

theorem filedAt_unpinBlock (key : String) (ttl : Option ℤ) :
    FiledAt key store (unpinBlock key ttl store).2 := by
  intro resident found
  rw [unpinBlock_payloads] at found
  cases ttl with
  | none => exact .inr ⟨resident, found, rfl⟩
  | some seconds =>
      dsimp only at found
      split_ifs at found
      · rw [update_self, shortened] at found
        split_ifs at found
        obtain ⟨earlier, stored, rfl⟩ := map_eq_some_iff.1 found
        exact .inr ⟨earlier, stored, rfl⟩
      · exact .inr ⟨resident, found, rfl⟩

/-- What one round trip does to the entries: it changes one, and keeps payloads filed. -/
theorem RoundTrip.take_spec (call : RoundTrip) (store : HotStore) :
    OnlyAt call.about store (call.take store).2 ∧
      FiledAt call.about store (call.take store).2 := by
  cases call with
  | admitReads record ttlSeconds => exact ⟨.refl _ _, .refl _ _⟩
  | admits record ttlSeconds pinned =>
      exact ⟨onlyAt_admitBlock _ _ _, filedAt_admitBlock _ _ _⟩
  | touches key =>
      refine ⟨?_, fun resident found => .inr ⟨resident, found, rfl⟩⟩
      constructor <;> intro other differs <;>
        simp only [about] at differs <;> simp [take, differs]
  | pins key =>
      refine ⟨?_, fun resident found => .inr ?_⟩
      · constructor <;> intro other differs <;> simp only [about] at differs <;>
          simp [take, pinBlock, HotStore.persist, differs]
      · simp only [take, about, pinBlock, HotStore.persist,
          update_self] at found
        obtain ⟨earlier, stored, rfl⟩ := map_eq_some_iff.1 found
        exact ⟨earlier, stored, rfl⟩
  | unpinReads key => exact ⟨.refl _ _, .refl _ _⟩
  | unpins key ttl => exact ⟨onlyAt_unpinBlock _ _, filedAt_unpinBlock _ _⟩
  | evictReads key =>
      rw [take]
      split <;> exact ⟨.refl _ _, .refl _ _⟩
  | evicts key =>
      refine ⟨?_, fun resident found => ?_⟩
      · constructor <;> intro other differs <;> simp only [about] at differs <;>
          simp [take, evictBlock, HotStore.delete, differs]
      · simp [take, about, evictBlock, HotStore.delete] at found

theorem Filed.of_spec (filed : Filed store) (only : OnlyAt key store next)
    (here : FiledAt key store next) : Filed next := by
  intro other resident found
  by_cases same : other = key
  · subst same
    rcases here resident found with own | ⟨earlier, stored, sameRecord⟩
    · exact own
    · rw [sameRecord]
      exact filed other earlier stored
  · rw [only.payloads other same] at found
    exact filed other resident found

theorem Enumerates.of_onlyAt (enumerates : Enumerates keys store) (only : OnlyAt key store next) :
    Enumerates (key :: keys) next := by
  intro other present
  by_cases same : other = key
  · rw [same]
    exact mem_cons_self
  · rw [only.payloads other same, only.updated other same, only.access other same,
      only.active other same, only.pinned other same] at present
    exact mem_cons_of_mem _ (enumerates other present)

theorem Filed.passes (filed : Filed store) (milliseconds : ℕ) :
    Filed (store.passes milliseconds) := by
  intro key resident found
  exact filed key resident (Option.filter_eq_some_iff.1 found).1

theorem Enumerates.passes (enumerates : Enumerates keys store) (milliseconds : ℕ) :
    Enumerates keys (store.passes milliseconds) := by
  intro key present
  refine enumerates key (present.imp_left fun resident => ?_)
  obtain ⟨found, some⟩ := isSome_iff_exists.1 resident
  rw [(Option.filter_eq_some_iff.1 some).1]
  rfl

/-- **Every history leaves a keyspace.**  Whatever the calls and their interleaving, the store
has a list of its keys and its payloads are under their own keys. -/
theorem keyspace_of_history (history : List (Happening HotBugCall ℕ)) :
    ∃ space : HotKeyspace,
      space.store = (run (concurrently hotBugCache) { store := {} } history).store := by
  have unguarded : Along (concurrently hotBugCache) (fun _ _ => True) { store := {} } history :=
    Along.of_forall fun _ _ => trivial
  have kept := @store_invariant _ _ _ _ _ _ hotBugCache (fun _ _ => True)
    (fun store => Filed store ∧ ∃ keys, Enumerates keys store)
    (fun state _ call _ store ⟨filed, keys, enumerates⟩ _ _ took => by
      have left : store = (call.take state.store).2 := (congrArg Prod.snd took).symm
      obtain ⟨only, here⟩ := call.take_spec state.store
      rw [left]
      exact ⟨filed.of_spec only here, _, enumerates.of_onlyAt only⟩)
    (fun _ milliseconds ⟨filed, keys, enumerates⟩ =>
      ⟨filed.passes milliseconds, keys, enumerates.passes milliseconds⟩)
    { store := {} } ⟨nofun, [], fun _ present => by simp at present⟩ history
    unguarded
  obtain ⟨filed, keys, enumerates⟩ := kept
  exact ⟨⟨_, keys.dedup, nodup_dedup keys,
    fun key present => mem_dedup.2 (enumerates key present), filed⟩, rfl⟩

end Histories

/-! ## Exact pages -/

/-- **A page is exact if and only if it sees all that ranks before its end**, and pages that are
seen one after the other neither skip nor repeat an entry: together they are one slice of a
ranking in which every resident entry occurs once. -/
theorem ranked_page_exact_iff (space : HotKeyspace) (limit offset : ℤ) :
    (space.listRanked limit offset = space.rankedSlice limit offset ↔
      space.SeesPage limit offset) ∧
    (0 ≤ offset → ∀ pages : ℕ,
      (∀ page < pages, space.SeesPage limit (offset + page * limit)) →
      ((List.range pages).flatMap fun page : ℕ =>
        space.listRanked limit (offset + page * limit)) =
          space.rankedSlice (pages * limit) offset) ∧
    space.ranking.Nodup ∧
    (∀ key entry, space.store.entryOf key = some entry → entry ∈ space.ranking) :=
  ⟨HotKeyspace.listRanked_eq_iff limit offset, HotKeyspace.flatMap_listRanked,
    HotKeyspace.nodup_ranking, fun key _ found => HotKeyspace.mem_ranking.2 ⟨key, found⟩⟩

/-- The names in a store of five entries, the one still resident first. -/
def fiveKeys : List String := ["bug:nvd:0", "bug:nvd:1", "bug:nvd:2", "bug:nvd:3", "bug:nvd:4"]

/-- A store in which the payloads of the four entries that were updated last have expired. -/
def mostlyExpired : HotKeyspace where
  store :=
    { payloads := fun key =>
        if key = "bug:nvd:0" then
          some { record := { hotRecord with sourceId := "nvd", externalObjectId := "0" } }
        else none
      updated := fun key => if key ∈ fiveKeys then some (fiveKeys.idxOf key) else none
      access := fun key => if key ∈ fiveKeys then some 0 else none }
  keys := fiveKeys
  nodup := by decide
  enumerates := by
    intro key present
    by_contra unlisted
    have other : key ≠ "bug:nvd:0" := by
      rintro rfl
      exact unlisted (by decide)
    simp [unlisted, other] at present
  filed := by
    intro key resident found
    dsimp only at found
    split at found
    next same =>
      obtain rfl := Option.some.inj found
      rw [same]
      decide
    next => cases found

/-- The first page sees the entry when it is large enough. -/
theorem ranked_page_exact_iff_mostlyExpired :
    mostlyExpired.listRanked 2 0 = mostlyExpired.rankedSlice 2 0 ∧
      ((List.range 2).flatMap fun page : ℕ => mostlyExpired.listRanked 2 (0 + page * 2)) =
        mostlyExpired.rankedSlice (2 * 2) 0 :=
  ⟨(ranked_page_exact_iff mostlyExpired 2 0).1.2 (by decide +kernel),
    (ranked_page_exact_iff mostlyExpired 2 0).2.1 (by decide) 2 (by decide +kernel)⟩

/-- **A page may miss a resident entry.**  The four members before it in both rankings have
expired, and the first page of one entry is empty. -/
theorem resident_entry_is_skipped :
    mostlyExpired.listRanked 1 0 = [] ∧ (mostlyExpired.rankedSlice 1 0).length = 1 := by
  decide +kernel

end SecFusion.Intelligence
