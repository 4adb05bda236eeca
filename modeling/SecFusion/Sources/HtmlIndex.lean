import SecFusion.Foundations.Transaction

/-!
# Discovery on an index page

The model of `HTMLIndexAdapter` in `packages/sources/adapters/html_index.py`: requests that
follow redirects hop by hop, and the loop over the links of a page.  URL syntax is the standard
library's, whose functions raise a `ValueError` on malformed hosts and ports.

Every hop is checked before it is requested.  The loop over the links has no handler: a
malformed link ends it, unless enough links have been collected before.
-/

namespace SecFusion.Sources.HtmlIndex

open Foundations

inductive HtmlError where
  | valueError
  | accessBlocked (message : String)
  | rateLimited (message : String)
  | fetchFailed (message : String)
  | schemaChanged (message : String)
  deriving DecidableEq

/-- The result of `urlparse`; the port is missing where reading it raises. -/
structure ParsedUrl where
  scheme : String
  hostname : Option String
  port : Option (Option ℕ) := some none
  (username password : Option String := none)

/-- The functions of the standard library, without a result where they raise a `ValueError`. -/
structure UrlLibrary where
  urljoin : String → String → Option String
  urlparse : String → Option ParsedUrl
  (lower urlIdentity : String → String)
  indexHash : List (String × String) → String

/-- What the page's server answers. -/
structure Response where
  url : String
  statusCode : ℕ := 200
  location : Option String := none

structure Link where
  href : Option String
  title : String := ""

structure DiscoveredRef where
  (externalObjectId canonicalUrl title indexUrl : String)
  deriving DecidableEq

/-- What an adapter has of its source, and of the page that its index request ended at. -/
structure HtmlSource extends UrlLibrary where
  allowedHosts : List String
  pageUrl : String
  maxItems : ℕ := 50
  revalidateSeconds : ℤ := 86400
  max_pos : 0 < maxItems := by decide

namespace HtmlSource

variable (source : HtmlSource)

/-- `_is_allowed_url` -/
def isAllowedUrl (url : String) : Except HtmlError Bool := do
  let parsed ← fetch (source.urlparse url) .valueError
  if parsed.scheme ≠ "https" then return false
  let port ← fetch parsed.port .valueError
  return (port = none ∨ port = some 443) ∧ parsed.username = none ∧ parsed.password = none ∧
    ∃ host ∈ parsed.hostname, source.lower host ∈ source.allowedHosts

/-! ## Requests -/

variable (client : String → Except HtmlError Response)

/-- What is made of an answer that is no redirect. -/
def checkStatus (response : Response) : Except HtmlError Response :=
  if response.statusCode = 429 then .error (.rateLimited "HTML source rate limit reached")
  else if response.statusCode = 401 ∨ response.statusCode = 403 then
    .error (.accessBlocked s!"HTML source rejected access with HTTP {response.statusCode}")
  else if 400 ≤ response.statusCode then
    .error (.fetchFailed s!"HTML source returned HTTP {response.statusCode}")
  else .ok response

/-- The loop of `_get`, for so many hops: the URLs that are requested, and the result. -/
def getWithin : ℕ → String → List String × Except HtmlError Response
  | 0, _ => ([], .error (.fetchFailed "HTML source exceeded redirect limit"))
  | hops + 1, url => match source.isAllowedUrl url with
    | .error raised => ([], .error raised)
    | .ok false =>
        ([], .error (.accessBlocked "HTML source redirect left configured allowed_hosts"))
    | .ok true => match client url with
      | .error raised => ([url], .error raised)
      | .ok response =>
          if response.statusCode ∈ [301, 302, 303, 307, 308] then
            match response.location with
            | none | some "" => ([url], .error (.fetchFailed "HTML source redirect has no Location"))
            | some location => match source.urljoin response.url location with
              | none => ([url], .error .valueError)
              | some next => (url :: (getWithin hops next).1, (getWithin hops next).2)
          else ([url], checkStatus response)

/-- `_get` -/
def get (url : String) : List String × Except HtmlError Response :=
  source.getWithin client 5 url

theorem getWithin_contained (hops : ℕ) (url : String) :
    (∀ requested ∈ (source.getWithin client hops url).1,
      source.isAllowedUrl requested = .ok true) ∧
    (source.getWithin client hops url).1.length ≤ hops := by
  induction hops generalizing url with
  | zero => simp [getWithin]
  | succ hops ih =>
    unfold getWithin
    split
    · simp
    · simp
    next allowed =>
      split
      · simpa using allowed
      split
      · split
        · simpa using allowed
        · simpa using allowed
        · split
          · simpa using allowed
          next next _ =>
            simpa using ⟨⟨allowed, (ih next).1⟩, (ih next).2⟩
      · simpa using allowed

/-! ## Links -/

/-- The URL that a link leads to, if it is allowed. -/
def linkUrl (link : Link) : Except HtmlError (Option String) :=
  match link.href with
  | none | some "" => .ok none
  | some href => do
      let canonicalUrl ← fetch (source.urljoin source.pageUrl href) .valueError
      let allowed ← source.isAllowedUrl canonicalUrl
      return if allowed then some canonicalUrl else none

/-- The loop over the links, with the refs so far. -/
def collectRefs : List DiscoveredRef → List Link → Except HtmlError (List DiscoveredRef)
  | refs, [] => .ok refs
  | refs, link :: rest => do
      match ← source.linkUrl link with
      | none => collectRefs refs rest
      | some canonicalUrl =>
          if canonicalUrl ∈ refs.map (·.canonicalUrl) then collectRefs refs rest
          else
            let collected := refs ++ [{
              externalObjectId := source.urlIdentity canonicalUrl
              canonicalUrl
              title := link.title
              indexUrl := source.pageUrl }]
            if source.maxItems ≤ collected.length then .ok collected else collectRefs collected rest

structure Cursor where
  indexHash : Option String := none
  windowSize : ℕ := 0
  lastRevalidatedAt : Option ℤ := none
  deriving DecidableEq

structure Batch where
  items : List DiscoveredRef
  nextCursor : Cursor
  deriving DecidableEq

/-- `discover`, from the links of the page on. -/
def discoverLinks (cursor : Cursor) (now : ℤ) (links : List Link) :
    Except HtmlError Batch := do
  let refs ← source.collectRefs [] links
  if refs = [] then throw (.schemaChanged "HTML index produced no allowed article links")
  let indexHash := source.indexHash (refs.map fun ref => (ref.canonicalUrl, ref.title))
  let due := ∀ previous ∈ cursor.lastRevalidatedAt, previous + source.revalidateSeconds ≤ now
  let fetches := cursor.indexHash ≠ some indexHash ∨ due
  return {
    items := if fetches then refs else []
    nextCursor := {
      indexHash := some indexHash
      windowSize := refs.length
      lastRevalidatedAt := if fetches then some now else cursor.lastRevalidatedAt } }

/-- The standard library refuses the link. -/
def IsMalformed (link : Link) : Prop :=
  source.linkUrl link = .error .valueError

instance (link : Link) : Decidable (source.IsMalformed link) :=
  inferInstanceAs (Decidable (_ = _))

/-- The allowed URLs among some links, each once. -/
def allowedUrls (links : List Link) : Finset String :=
  (links.filterMap fun link => (source.linkUrl link).toOption.join).toFinset

theorem isAllowedUrl_cases (url : String) : source.isAllowedUrl url = .error .valueError ∨
    ∃ allowed, source.isAllowedUrl url = .ok allowed := by
  unfold isAllowedUrl
  cases source.urlparse url with
  | none => exact .inl rfl
  | some parsed =>
    simp only [fetch, ok_bind]
    split
    · exact .inr ⟨_, rfl⟩
    · cases parsed.port with
      | none => exact .inl rfl
      | some port => exact .inr ⟨_, rfl⟩

/-- A link that is not malformed leads somewhere, or is passed over. -/
theorem linkUrl_of_not_malformed {link : Link} (well : ¬ source.IsMalformed link) :
    ∃ url, source.linkUrl link = .ok url := by
  unfold IsMalformed linkUrl at *
  split at well
  · exact ⟨_, rfl⟩
  · exact ⟨_, rfl⟩
  next href _ _ =>
    cases joined : source.urljoin source.pageUrl href with
    | none => exact absurd (by simp [joined, fetch]) well
    | some url =>
      rcases isAllowedUrl_cases source url with raised | ⟨allowed, ok⟩
      · exact absurd (by simp [joined, fetch, raised]) well
      · exact ⟨_, by simp only [joined, fetch, ok_bind, ok]; rfl⟩

/-- Well-formed links are read to their end, or until enough URLs have been found. -/
theorem collectRefs_append {links : List Link}
    (well : ∀ link ∈ links, ¬ source.IsMalformed link)
    {refs : List DiscoveredRef} (nodup : (refs.map (·.canonicalUrl)).Nodup)
    (room : refs.length < source.maxItems) :
    let found := (refs.map (·.canonicalUrl)).toFinset ∪ source.allowedUrls links
    (∃ more : List DiscoveredRef, (more.map (·.canonicalUrl)).Nodup ∧ more.length < source.maxItems ∧
      (more.map (·.canonicalUrl)).toFinset = found ∧ ∀ rest,
        source.collectRefs refs (links ++ rest) =
          source.collectRefs more rest) ∨
    (source.maxItems ≤ found.card ∧ ∃ all, ∀ rest,
      source.collectRefs refs (links ++ rest) = .ok all) := by
  induction links generalizing refs with
  | nil => exact .inl ⟨refs, nodup, room, by simp [allowedUrls], fun _ => rfl⟩
  | cons link others ih =>
    have later := fun other member => well other (mem_cons_of_mem link member)
    obtain ⟨url, ok⟩ :=
      linkUrl_of_not_malformed source (well link mem_cons_self)
    cases url with
    | none =>
      have same : source.allowedUrls (link :: others) =
          source.allowedUrls others := by
        simp [allowedUrls, ok, Except.toOption]
      simp only [same, cons_append, collectRefs, ok, ok_bind]
      exact ih later nodup room
    | some url =>
      have same : source.allowedUrls (link :: others) =
          insert url (source.allowedUrls others) := by
        simp [allowedUrls, ok, Except.toOption]
      simp only [same, cons_append, collectRefs, ok, ok_bind]
      split
      next seen =>
        rw [Finset.union_insert, Finset.insert_eq_self.2
          (Finset.mem_union_left _ (mem_toFinset.2 seen))]
        exact ih later nodup room
      next fresh =>
        generalize next : refs ++ [_] = collected
        have urls : collected.map (·.canonicalUrl) = refs.map (·.canonicalUrl) ++ [url] := by
          simp [← next]
        have distinct : (collected.map (·.canonicalUrl)).Nodup := by
          rw [urls, List.nodup_append_comm]
          exact nodup_cons.2 ⟨fresh, nodup⟩
        have found : (refs.map (·.canonicalUrl)).toFinset ∪ insert url (source.allowedUrls others) =
            (collected.map (·.canonicalUrl)).toFinset ∪ source.allowedUrls others := by
          simp [urls, Finset.union_insert, Finset.insert_union]
        rw [found]
        split
        next enough =>
          refine .inr ⟨enough.trans ?_, _, fun _ => rfl⟩
          refine le_trans ?_ (Finset.card_le_card Finset.subset_union_left)
          rw [List.toFinset_card_of_nodup distinct, List.length_map]
        next open' => exact ih later distinct (not_le.1 open')

end HtmlSource

/-! ## A malformed link -/

/-- A source with one host, where one text cannot be read as a link. -/
def plainSource : HtmlSource where
  urljoin _ href := if href = "https://[::1/" then none else some href
  urlparse url := some { scheme := "https", hostname := some url }
  lower text := text
  urlIdentity url := "url:" ++ url
  indexHash rows := String.join (rows.map (·.1))
  allowedHosts := ["a.example"]
  pageUrl := "a.example"
  maxItems := 1

def plainLink : Link := ⟨some "a.example", "an article"⟩
def brokenLink : Link := ⟨some "https://[::1/", ""⟩

end SecFusion.Sources.HtmlIndex
