import SecFusion.Intelligence.Evidence

/-!
# What an observation is known by

The ingress tells envelopes apart by the text of their identity and by the hash of
their content: `Filed` is what a session keeps, and an envelope is replayed exactly
when an observation with the same text and the same hash is filed
(`accept_replays`, `accept_files`).

The text joins the source, the object and the revision with colons, which any of them
may hold as well.  Two envelopes of the same content whose identities differ only in
where the colons fall are one to the ingress, so the identity of evidence is kept
exactly when no two envelopes clash in this way (`identityKept_iff`).
-/

namespace SecFusion.Intelligence.Ingestion

open Foundations SecFusion.Sources
open EvidenceIngress (insertEvidence locate newArtifact newObservation observed recover replayAck)

/-! ## Texts and keys -/

variable {sourceId externalObjectId key digest other : String} {row : ObservationModel}
  {envelope : IngestEnvelope}

section Keys

theorem toList_identityText (sourceId externalObjectId identity : String) :
    (identityText sourceId externalObjectId identity).toList =
      sourceId.toList ++ ':' :: (externalObjectId.toList ++ ':' :: identity.toList) := by
  have shape : identityText sourceId externalObjectId identity =
      sourceId ++ ":" ++ externalObjectId ++ ":" ++ identity := rfl
  have colon : ":".toList = [':'] := by decide
  rw [shape, toList_append, toList_append, toList_append,
    toList_append, colon]
  simp

theorem toList_material (idempotencyKey contentHash : String) :
    (s!"{idempotencyKey}:{contentHash}").toList =
      idempotencyKey.toList ++ ':' :: contentHash.toList := by
  have shape : s!"{idempotencyKey}:{contentHash}" = idempotencyKey ++ ":" ++ contentHash := rfl
  have colon : ":".toList = [':'] := by decide
  rw [shape, toList_append, toList_append, colon]
  simp

/-- An identity holds two colons, and the material of a collision key one. -/
theorem identityText_ne_material {identity : String} (keyFree : ':' ∉ key.toList)
    (digestFree : ':' ∉ digest.toList) :
    identityText sourceId externalObjectId identity ≠ s!"{key}:{digest}" := by
  intro same
  have counts := congrArg (fun text : String => text.toList.count ':') same
  simp only [toList_identityText, toList_material, List.count_append, List.count_cons_self,
    count_eq_zero_of_not_mem keyFree, count_eq_zero_of_not_mem digestFree] at counts
  omega

variable (hashing : Hashing)

/-- The key of an envelope's own. -/
def primaryKey (text : String) : String := hashing.sha256 (encode text)

/-- The key of an envelope whose own is taken by other content. -/
def collisionKey (text contentHash : String) : String :=
  hashing.sha256 (encode s!"{primaryKey hashing text}:{contentHash}")

variable {hashing}

theorem primaryKey_inj {text : String} :
    primaryKey hashing text = primaryKey hashing other ↔ text = other :=
  ⟨fun same => encode_injective (hashing.injective same), fun same => by rw [same]⟩

theorem colon_not_mem_primaryKey (text : String) : ':' ∉ (primaryKey hashing text).toList :=
  hashing.noColon _

theorem collisionKey_inj {text otherDigest : String} :
    collisionKey hashing text digest = collisionKey hashing other otherDigest ↔
      text = other ∧ digest = otherDigest := by
  constructor
  · intro same
    have lists := congrArg String.toList (encode_injective (hashing.injective same))
    rw [toList_material, toList_material,
      Text.append_cons_inj (colon_not_mem_primaryKey text) (colon_not_mem_primaryKey other),
      toList_inj, toList_inj, primaryKey_inj] at lists
    exact lists
  · rintro ⟨rfl, rfl⟩
    rfl

/-- A key of the one kind is never a key of the other. -/
theorem primaryKey_ne_collisionKey {identity text : String} (digestFree : ':' ∉ digest.toList) :
    primaryKey hashing (identityText sourceId externalObjectId identity) ≠
      collisionKey hashing text digest := fun same =>
  identityText_ne_material (colon_not_mem_primaryKey text) digestFree
    (encode_injective (hashing.injective same))

end Keys

/-! ## What a session keeps -/

/-- The text of a row's identity. -/
def ObservationModel.text (row : ObservationModel) : String :=
  identityText row.sourceId row.externalObjectId (revisionOr row.externalRevision row.contentHash)

/-- The row is what the ingress takes for an observation of the envelope. -/
def ObservationModel.Records (row : ObservationModel) (envelope : IngestEnvelope) : Prop :=
  row.text = envelope.text ∧ row.contentHash = envelope.contentHash

/-- **The tables.**  A row is under its own key, or under its collision key when its own
is taken by other content; and the file of every row is there. -/
structure Tables (ingress : EvidenceIngress) (state : EvidenceState) : Prop where
  digest : ∀ row ∈ state.observations.rows, ':' ∉ row.contentHash.toList
  unique : ∀ row ∈ state.observations.rows, ∀ other ∈ state.observations.rows,
    row.idempotencyKey = other.idempotencyKey → row = other
  keyed : ∀ row ∈ state.observations.rows,
    row.idempotencyKey = primaryKey ingress.hashing row.text ∨
      row.idempotencyKey = collisionKey ingress.hashing row.text row.contentHash ∧
        ∃ first ∈ state.observations.rows,
          first.idempotencyKey = primaryKey ingress.hashing row.text ∧
            first.contentHash ≠ row.contentHash
  kept : ∀ row ∈ state.observations.rows, ∃ artifact ∈ state.artifacts.rows,
    artifact.observationId = row.observationId
  filed : ∀ artifact ∈ state.artifacts.rows, ∃ row ∈ state.observations.rows,
    row.observationId = artifact.observationId ∧ row.contentHash = artifact.contentHash ∧
      artifact.storageUri = .artifact ingress.bucket artifact.contentHash ∧
        (state.files artifact.contentHash).isSome
  faithful : ∀ contentHash body, state.files contentHash = some body →
    ingress.hashing.sha256 body = contentHash

section Lookup

variable {ingress : EvidenceIngress} {state : EvidenceState}

theorem mem_of_observed (found : observed state key = some row) :
    row ∈ state.observations.rows ∧ row.idempotencyKey = key :=
  ⟨mem_of_find?_eq_some found, by simpa using find?_some found⟩

theorem Tables.observed_of_mem (tables : Tables ingress state)
    (member : row ∈ state.observations.rows) :
    observed state row.idempotencyKey = some row := by
  cases found : observed state row.idempotencyKey with
  | none => simpa using find?_eq_none.1 found row member
  | some other =>
      obtain ⟨otherMember, sameKey⟩ := mem_of_observed found
      rw [tables.unique other otherMember row member sameKey]

theorem Tables.text_of_primaryKey (tables : Tables ingress state)
    (member : row ∈ state.observations.rows) {identity : String}
    (under : row.idempotencyKey =
      primaryKey ingress.hashing (identityText sourceId externalObjectId identity)) :
    row.text = identityText sourceId externalObjectId identity := by
  rcases tables.keyed row member with own | ⟨collided, -⟩
  · exact primaryKey_inj.1 (own.symm.trans under)
  · exact absurd (under.symm.trans collided) (primaryKey_ne_collisionKey (tables.digest row member))

/-- A row under a collision key is a row of that text and that content. -/
theorem Tables.records_of_collisionKey (tables : Tables ingress state)
    (member : row ∈ state.observations.rows) {text contentHash : String}
    (digestFree : ':' ∉ contentHash.toList)
    (under : row.idempotencyKey = collisionKey ingress.hashing text contentHash) :
    row.text = text ∧ row.contentHash = contentHash := by
  rcases tables.keyed row member with own | ⟨collided, -⟩
  · exact absurd (own.symm.trans under) (primaryKey_ne_collisionKey digestFree)
  · exact collisionKey_inj.1 (collided.symm.trans under)

/-- At most one row has a given text and a given content. -/
theorem Tables.eq_of_same (tables : Tables ingress state) {other : ObservationModel}
    (member : row ∈ state.observations.rows) (otherMember : other ∈ state.observations.rows)
    (sameText : row.text = other.text) (sameContent : row.contentHash = other.contentHash) :
    row = other := by
  rcases tables.keyed row member with own | ⟨collided, first, firstMember, under, differs⟩
  · rcases tables.keyed other otherMember with
      otherOwn | ⟨-, first, firstMember, under, differs⟩
    · exact tables.unique row member other otherMember (by rw [own, otherOwn, sameText])
    · have same : first = row := tables.unique first firstMember row member
        (by rw [own, under, sameText])
      exact absurd (by rw [same, sameContent]) differs
  · rcases tables.keyed other otherMember with otherOwn | ⟨otherCollided, -⟩
    · have same : first = other := tables.unique first firstMember other otherMember
        (by rw [otherOwn, under, sameText])
      exact absurd (by rw [same, sameContent]) differs
    · exact tables.unique row member other otherMember
        (by rw [collided, otherCollided, sameText, sameContent])

theorem revisionCollisionKey_eq (built : Built ingress.hashing envelope) :
    ingress.revisionCollisionKey envelope =
      collisionKey ingress.hashing envelope.text envelope.contentHash := by
  rw [EvidenceIngress.revisionCollisionKey, built.idempotencyKey]
  rfl

theorem Tables.locate_recorded (tables : Tables ingress state)
    (built : Built ingress.hashing envelope) (member : row ∈ state.observations.rows)
    (records : row.Records envelope) :
    ingress.locate state envelope = .ok (.inl row) := by
  obtain ⟨sameText, sameContent⟩ := records
  have own : envelope.idempotencyKey = primaryKey ingress.hashing row.text := by
    rw [built.idempotencyKey, sameText, primaryKey]
  unfold locate
  rcases tables.keyed row member with under | ⟨collided, first, firstMember, under, differs⟩
  · rw [own, ← under, tables.observed_of_mem member]
    simp [sameContent]
  · have other : first.contentHash ≠ envelope.contentHash := sameContent ▸ differs
    rw [own, ← under, tables.observed_of_mem firstMember]
    dsimp only
    rw [if_neg other, revisionCollisionKey_eq built, ← sameText, ← sameContent, ← collided,
      tables.observed_of_mem member]
    simp

theorem Tables.locate_new (tables : Tables ingress state)
    (built : Built ingress.hashing envelope)
    (new : ∀ row ∈ state.observations.rows, ¬ row.Records envelope) :
    ∃ key, ingress.locate state envelope = .ok (.inr key) ∧
      (∀ row ∈ state.observations.rows, row.idempotencyKey ≠ key) ∧
      (key = primaryKey ingress.hashing envelope.text ∨
        key = collisionKey ingress.hashing envelope.text envelope.contentHash ∧
          ∃ first ∈ state.observations.rows,
            first.idempotencyKey = primaryKey ingress.hashing envelope.text ∧
              first.contentHash ≠ envelope.contentHash) := by
  have own : envelope.idempotencyKey = primaryKey ingress.hashing envelope.text :=
    built.idempotencyKey
  have digestFree : ':' ∉ envelope.contentHash.toList := built.contentHash ▸ ingress.hashing.noColon _
  unfold locate
  cases found : observed state envelope.idempotencyKey with
  | none =>
      refine ⟨_, rfl, fun row member under => ?_, .inl own⟩
      simpa [under] using find?_eq_none.1 found row member
  | some existing =>
      obtain ⟨member, under⟩ := mem_of_observed found
      have sameText : existing.text = envelope.text :=
        tables.text_of_primaryKey member (under.trans own)
      have differs : existing.contentHash ≠ envelope.contentHash := fun sameContent =>
        new existing member ⟨sameText, sameContent⟩
      dsimp only
      rw [if_neg differs, revisionCollisionKey_eq built]
      cases collided : observed state
          (collisionKey ingress.hashing envelope.text envelope.contentHash) with
      | none =>
          refine ⟨_, rfl, fun row rowMember rowUnder => ?_,
            .inr ⟨rfl, existing, member, under.trans own, differs⟩⟩
          simpa [rowUnder] using find?_eq_none.1 collided row rowMember
      | some collision =>
          obtain ⟨collisionMember, collisionUnder⟩ := mem_of_observed collided
          exact absurd (tables.records_of_collisionKey collisionMember digestFree collisionUnder)
            (new collision collisionMember)

end Lookup

/-! ## What a call does -/

section Calls

variable {ingress : EvidenceIngress} {state : EvidenceState} {call : IngressCall}

/-- The answer to an envelope whose content an observation already has. -/
theorem Tables.replayAck (tables : Tables ingress state) (member : row ∈ state.observations.rows)
    (sameContent : row.contentHash = envelope.contentHash) :
    ∃ artifactId, ingress.replayAck state row envelope =
      .ok ({ observationId := row.observationId, artifactId := some artifactId,
             acceptedAt := row.createdAt, replay := true }, state.files) := by
  unfold EvidenceIngress.replayAck
  cases found : state.artifacts.rows.find? fun artifact =>
      artifact.observationId = row.observationId with
  | none =>
      obtain ⟨artifact, kept, same⟩ := tables.kept row member
      simpa [same] using find?_eq_none.1 found artifact kept
  | some artifact =>
      have kept := mem_of_find?_eq_some found
      have same : artifact.observationId = row.observationId := by
        simpa using find?_some found
      obtain ⟨other, otherMember, otherId, otherContent, locator, present⟩ :=
        tables.filed artifact kept
      obtain rfl : other = row := eq_of_key otherMember member (otherId.trans same)
      have content : artifact.contentHash = envelope.contentHash := otherContent.symm.trans sameContent
      have readable : ingress.file state.files artifact.storageUri =
          .ok (state.files artifact.contentHash) := by
        simp [locator, EvidenceIngress.file]
      have recovered : ingress.recover state.files artifact envelope = .ok state.files := by
        simp [recover, readable, present]
      exact ⟨artifact.artifactId, by simp [content, recovered]⟩

/-- An envelope that is taken for an observation is replayed, and nothing changes. -/
theorem Tables.accept_located (tables : Tables ingress state) (owned : call.Owned)
    (member : row ∈ state.observations.rows)
    (located : ingress.locate state call.envelope = .ok (.inl row))
    (sameContent : row.contentHash = call.envelope.contentHash) :
    ∃ ack : ObservationAck, ack.observationId = row.observationId ∧ ack.replay = true ∧
      ingress.accept call.source call.envelope call.draw state = (.ok ack, state) := by
  obtain ⟨artifactId, replayed⟩ := tables.replayAck member sameContent
  refine ⟨{ observationId := row.observationId, artifactId := some artifactId,
            acceptedAt := row.createdAt, replay := true }, rfl, rfl, ?_⟩
  have ours : ¬ call.envelope.sourceId ≠ call.source.sourceId := not_not.2 owned
  unfold EvidenceIngress.accept
  rw [if_neg ours, located]
  dsimp only
  rw [replayed]

/-- **A recorded envelope is replayed.** -/
theorem Tables.accept_replays (tables : Tables ingress state) (owned : call.Owned)
    (built : Built ingress.hashing call.envelope) (member : row ∈ state.observations.rows)
    (records : row.Records call.envelope) :
    ∃ ack : ObservationAck, ack.observationId = row.observationId ∧ ack.replay = true ∧
      ingress.accept call.source call.envelope call.draw state = (.ok ack, state) :=
  tables.accept_located owned member (tables.locate_recorded built member records) records.2

/-- Content under its own hash can be written, and is there afterwards. -/
theorem put_ok {files : String → Option Bytes} {contentHash : String} {body : Bytes}
    (faithful : ∀ digest present, files digest = some present →
      ingress.hashing.sha256 present = digest)
    (digest : ingress.hashing.sha256 body = contentHash) :
    ∃ written, ingress.put files contentHash body =
        .ok (.artifact ingress.bucket contentHash, written) ∧
      (written contentHash).isSome ∧ (∀ other, (files other).isSome → (written other).isSome) ∧
      ∀ other present, written other = some present → ingress.hashing.sha256 present = other := by
  unfold EvidenceIngress.put
  rw [if_neg (not_not.2 digest)]
  cases present : files contentHash with
  | some before =>
      refine ⟨files, ?_, by simp [present], fun _ => id, faithful⟩
      simp [faithful contentHash before present]
  | none =>
      refine ⟨update files contentHash (some body), rfl, by simp, fun other isThere => ?_,
        fun other now found => ?_⟩
      · by_cases same : other = contentHash
        · simp [same]
        · rwa [update_of_ne same]
      · by_cases same : other = contentHash
        · subst same
          rw [update_self] at found
          exact Option.some.inj found ▸ digest
        · rw [update_of_ne same] at found
          exact faithful other now found

/-- A new observation and its artifact can be inserted under new identifiers and a new
key. -/
theorem insertEvidence_ok {observation : ObservationModel} {artifact : EvidenceArtifactModel}
    (newKey : ∀ row ∈ state.observations.rows, row.idempotencyKey ≠ observation.idempotencyKey)
    (newObservation : ∀ row ∈ state.observations.rows,
      row.observationId ≠ observation.observationId)
    (unfiled : ∀ row ∈ state.artifacts.rows, row.observationId ≠ artifact.observationId)
    (newArtifact : ∀ row ∈ state.artifacts.rows, row.artifactId ≠ artifact.artifactId) :
    ∃ next, insertEvidence state observation artifact = .ok next ∧
      next.observations.rows = state.observations.rows ++ [observation] ∧
      next.artifacts.rows = state.artifacts.rows ++ [artifact] ∧ next.files = state.files := by
  obtain ⟨observations, inserted⟩ : ∃ table, state.observations.insert? observation = some table :=
    ⟨_, dif_pos newObservation⟩
  obtain ⟨artifacts, attached⟩ : ∃ table, state.artifacts.insert? artifact = some table :=
    ⟨_, dif_pos newArtifact⟩
  have apart : ∀ row ∈ state.artifacts.rows,
      (row.observationId, row.contentHash) ≠ (artifact.observationId, artifact.contentHash) :=
    fun row member same => unfiled row member (congrArg Prod.fst same)
  refine ⟨{ state with observations, artifacts }, ?_, (insert?_eq_some inserted).1,
    (insert?_eq_some attached).1, rfl⟩
  unfold insertEvidence
  rw [require_of newKey, ok_bind, inserted]
  dsimp only [fetch]
  rw [ok_bind, require_of apart, ok_bind, attached]
  rfl

/-- One more row and its artifact. -/
theorem Tables.extend (tables : Tables ingress state) {next : EvidenceState}
    {artifact : EvidenceArtifactModel}
    (rows : next.observations.rows = state.observations.rows ++ [row])
    (artifacts : next.artifacts.rows = state.artifacts.rows ++ [artifact])
    (digestFree : ':' ∉ row.contentHash.toList)
    (newKey : ∀ other ∈ state.observations.rows, other.idempotencyKey ≠ row.idempotencyKey)
    (shape : row.idempotencyKey = primaryKey ingress.hashing row.text ∨
      row.idempotencyKey = collisionKey ingress.hashing row.text row.contentHash ∧
        ∃ first ∈ state.observations.rows,
          first.idempotencyKey = primaryKey ingress.hashing row.text ∧
            first.contentHash ≠ row.contentHash)
    (attached : row.observationId = artifact.observationId)
    (content : row.contentHash = artifact.contentHash)
    (locator : artifact.storageUri = .artifact ingress.bucket artifact.contentHash)
    (written : (next.files artifact.contentHash).isSome)
    (still : ∀ digest, (state.files digest).isSome → (next.files digest).isSome)
    (faithful : ∀ digest body, next.files digest = some body →
      ingress.hashing.sha256 body = digest) : Tables ingress next := by
  have inside : ∀ other ∈ state.observations.rows, other ∈ state.observations.rows ++ [row] :=
    fun _ => mem_append_left [row]
  refine ⟨?_, ?_, ?_, ?_, ?_, faithful⟩ <;> rw [rows]
  · intro other member
    rcases mem_append.1 member with earlier | new
    · exact tables.digest other earlier
    · exact mem_singleton.1 new ▸ digestFree
  · intro one oneMember other otherMember same
    rcases mem_append.1 oneMember with oneEarlier | oneNew
    · rcases mem_append.1 otherMember with otherEarlier | otherNew
      · exact tables.unique one oneEarlier other otherEarlier same
      · exact absurd (mem_singleton.1 otherNew ▸ same) (newKey one oneEarlier)
    · obtain rfl := mem_singleton.1 oneNew
      rcases mem_append.1 otherMember with otherEarlier | otherNew
      · exact absurd same.symm (newKey other otherEarlier)
      · exact (mem_singleton.1 otherNew).symm
  · intro other member
    rcases mem_append.1 member with earlier | new
    · rcases tables.keyed other earlier with own | ⟨collided, first, firstMember, taken⟩
      · exact .inl own
      · exact .inr ⟨collided, first, inside first firstMember, taken⟩
    · obtain rfl := mem_singleton.1 new
      rcases shape with own | ⟨collided, first, firstMember, taken⟩
      · exact .inl own
      · exact .inr ⟨collided, first, inside first firstMember, taken⟩
  · intro other member
    rw [artifacts]
    rcases mem_append.1 member with earlier | new
    · obtain ⟨kept, keptMember, sameId⟩ := tables.kept other earlier
      exact ⟨kept, mem_append_left _ keptMember, sameId⟩
    · exact ⟨artifact, by simp, (mem_singleton.1 new ▸ attached).symm⟩
  · rw [artifacts]
    intro kept member
    rcases mem_append.1 member with earlier | new
    · obtain ⟨other, otherMember, sameId, sameContent, where_, present⟩ := tables.filed kept earlier
      exact ⟨other, inside other otherMember, sameId, sameContent, where_, still _ present⟩
    · obtain rfl := mem_singleton.1 new
      exact ⟨row, by simp, attached, content, locator, written⟩

/-- **A new envelope is filed**, under identifiers that are new. -/
theorem Tables.accept_files (tables : Tables ingress state) (owned : call.Owned)
    (built : Built ingress.hashing call.envelope)
    (new : ∀ row ∈ state.observations.rows, ¬ row.Records call.envelope)
    (freshObservation : ∀ row ∈ state.observations.rows,
      row.observationId ≠ call.draw.observationId)
    (freshArtifact : ∀ row ∈ state.artifacts.rows, row.artifactId ≠ call.draw.artifactId) :
    ∃ key next, ingress.accept call.source call.envelope call.draw state =
        (.ok { observationId := call.draw.observationId, artifactId := some call.draw.artifactId,
               acceptedAt := call.draw.now, replay := false }, next) ∧
      Tables ingress next ∧
      next.observations.rows = state.observations.rows ++
        [newObservation call.source call.envelope call.draw key] ∧
      next.artifacts.rows = state.artifacts.rows ++ [newArtifact call.source
        call.envelope call.draw (.artifact ingress.bucket call.envelope.contentHash)] := by
  obtain ⟨key, located, newKey, shape⟩ := tables.locate_new built new
  obtain ⟨files, put, written, still, faithful⟩ :=
    @put_ok ingress _ _ _ tables.faithful built.contentHash.symm
  let row := newObservation call.source call.envelope call.draw key
  let artifact := newArtifact call.source call.envelope call.draw
    (.artifact ingress.bucket call.envelope.contentHash)
  have sameText : row.text = call.envelope.text := by
    show identityText call.source.sourceId _ _ = identityText call.envelope.sourceId _ _
    rw [owned]
    rfl
  have unfiled : ∀ other ∈ state.artifacts.rows,
      other.observationId ≠ call.draw.observationId := by
    intro other member same
    obtain ⟨earlier, earlierMember, earlierId, -⟩ := tables.filed other member
    exact freshObservation earlier earlierMember (earlierId.trans same)
  obtain ⟨next, inserted, rows, artifacts, sameFiles⟩ :=
    @insertEvidence_ok { state with files } row artifact newKey freshObservation unfiled
      freshArtifact
  have ours : ¬ call.envelope.sourceId ≠ call.source.sourceId := not_not.2 owned
  have digestFree : ':' ∉ call.envelope.contentHash.toList :=
    built.contentHash ▸ ingress.hashing.noColon _
  refine ⟨key, next, ?_, ?_, rows, artifacts⟩
  · unfold EvidenceIngress.accept
    rw [if_neg ours, located]
    dsimp only
    rw [put]
    dsimp only
    rw [inserted]
  · refine tables.extend rows artifacts digestFree newKey ?_ rfl rfl rfl ?_ ?_ ?_
    · rw [sameText]
      exact shape
    · rw [sameFiles]
      exact written
    · rw [sameFiles]
      exact still
    · rw [sameFiles]
      exact faithful

end Calls

/-! ## What a session keeps of its calls -/

/-- **The invariant of a session.**  Every row was filed for some call, and every call
for its own source is answered with a row that records its envelope. -/
structure Filed (ingress : EvidenceIngress) (session : Session) : Prop where
  tables : Tables ingress session.state
  drawn : ∀ row ∈ session.state.observations.rows, ∃ entry ∈ session.log,
    row.observationId = entry.1.draw.observationId
  artifactsDrawn : ∀ artifact ∈ session.state.artifacts.rows, ∃ entry ∈ session.log,
    artifact.artifactId = entry.1.draw.artifactId
  origin : ∀ row ∈ session.state.observations.rows, ∃ entry ∈ session.log,
    entry.1.Owned ∧ row.sourceId = entry.1.envelope.sourceId ∧
      row.externalObjectId = entry.1.envelope.externalObjectId ∧ row.Records entry.1.envelope
  answered : ∀ entry ∈ session.log, entry.1.Owned → ∃ ack, entry.2 = .ok ack ∧
    ∃ row ∈ session.state.observations.rows,
      row.observationId = ack.observationId ∧ row.Records entry.1.envelope
  replayed : session.log.Pairwise fun first second =>
    first.1.Owned → second.1.Owned → first.1.envelope.text = second.1.envelope.text →
      first.1.envelope.contentHash = second.1.envelope.contentHash →
        ∃ ack again, first.2 = .ok ack ∧ second.2 = .ok again ∧
          again.observationId = ack.observationId ∧ again.replay = true

section Sessions

variable {ingress : EvidenceIngress} {session : Session} {call : IngressCall}

theorem tables_empty : Tables ingress {} where
  digest := forall_mem_nil _
  unique := forall_mem_nil _
  keyed := forall_mem_nil _
  kept := forall_mem_nil _
  filed := forall_mem_nil _
  faithful _ _ found := (some_ne_none _ found.symm).elim

theorem filed_empty : Filed ingress {} where
  tables := tables_empty
  drawn := forall_mem_nil _
  artifactsDrawn := forall_mem_nil _
  origin := forall_mem_nil _
  answered := forall_mem_nil _
  replayed := .nil

/-- A call that leaves the tables as they are. -/
theorem Filed.unchanged (filed : Filed ingress session) {answer : Except Raised ObservationAck}
    (same : ingress.accept call.source call.envelope call.draw session.state =
      (answer, session.state))
    (ok : call.Owned → ∃ ack, answer = .ok ack ∧ ack.replay = true ∧
      ∃ row ∈ session.state.observations.rows,
        row.observationId = ack.observationId ∧ row.Records call.envelope) :
    Filed ingress (session.call ingress call) := by
  have inside : ∀ entry ∈ session.log, entry ∈ session.log ++ [(call, answer)] := fun _ =>
    mem_append_left _
  have result : session.call ingress call =
      { state := session.state, log := session.log ++ [(call, answer)] } := by
    rw [Session.call, same]
  rw [result]
  refine ⟨filed.tables, fun row member => ?_, fun artifact member => ?_, fun row member => ?_,
    fun entry member owned => ?_, pairwise_append.2 ⟨filed.replayed, by simp, ?_⟩⟩
  · obtain ⟨entry, logged, drawn⟩ := filed.drawn row member
    exact ⟨entry, inside entry logged, drawn⟩
  · obtain ⟨entry, logged, drawn⟩ := filed.artifactsDrawn artifact member
    exact ⟨entry, inside entry logged, drawn⟩
  · obtain ⟨entry, logged, filedFor⟩ := filed.origin row member
    exact ⟨entry, inside entry logged, filedFor⟩
  · rcases mem_append.1 member with earlier | new
    · exact filed.answered entry earlier owned
    · obtain rfl := mem_singleton.1 new
      obtain ⟨ack, given, -, row⟩ := ok owned
      exact ⟨ack, given, row⟩
  · intro first firstMember second secondMember firstOwned secondOwned sameText sameContent
    obtain rfl := mem_singleton.1 secondMember
    obtain ⟨ack, given, row, rowMember, rowId, records⟩ :=
      filed.answered first firstMember firstOwned
    obtain ⟨again, repeated, replay, other, otherMember, otherId, otherRecords⟩ :=
      ok secondOwned
    have one : row = other := filed.tables.eq_of_same rowMember otherMember
      (by rw [records.1, otherRecords.1, sameText]) (by rw [records.2, otherRecords.2, sameContent])
    exact ⟨ack, again, given, repeated, by rw [← otherId, ← rowId, one], replay⟩

/-- **What a call keeps.** -/
theorem Filed.after (filed : Filed ingress session) (built : Built ingress.hashing call.envelope)
    (freshObservation : ∀ row ∈ session.state.observations.rows,
      row.observationId ≠ call.draw.observationId)
    (freshArtifact : ∀ row ∈ session.state.artifacts.rows,
      row.artifactId ≠ call.draw.artifactId) :
    Filed ingress (session.call ingress call) := by
  by_cases owned : call.Owned
  · by_cases recorded : ∃ row ∈ session.state.observations.rows, row.Records call.envelope
    · obtain ⟨row, member, records⟩ := recorded
      obtain ⟨ack, sameId, replay, same⟩ := filed.tables.accept_replays owned built member records
      exact filed.unchanged same fun _ => ⟨ack, rfl, replay, row, member, sameId.symm, records⟩
    · have new : ∀ row ∈ session.state.observations.rows, ¬ row.Records call.envelope :=
        fun row member records => recorded ⟨row, member, records⟩
      obtain ⟨key, next, accepted, tables, rows, artifacts⟩ :=
        filed.tables.accept_files owned built new freshObservation freshArtifact
      generalize answered : ObservationAck.mk _ _ _ _ = ack at accepted
      generalize inserted : newObservation _ _ _ key = row at rows
      have records : row.Records call.envelope := by
        subst inserted
        refine ⟨?_, rfl⟩
        show identityText call.source.sourceId _ _ = identityText call.envelope.sourceId _ _
        rw [owned]
        rfl
      have inside : ∀ entry ∈ session.log, entry ∈ session.log ++ [(call, .ok ack)] := fun _ =>
        mem_append_left _
      have last : (call, .ok ack) ∈ session.log ++ [(call, Except.ok ack)] := by simp
      have result : session.call ingress call =
          { state := next, log := session.log ++ [(call, .ok ack)] } := by
        rw [Session.call, accepted]
      rw [result]
      refine ⟨tables, ?_, ?_, ?_, ?_, pairwise_append.2 ⟨filed.replayed, by simp, ?_⟩⟩
      · rw [rows]
        intro other member
        rcases mem_append.1 member with earlier | added
        · obtain ⟨entry, logged, drawn⟩ := filed.drawn other earlier
          exact ⟨entry, inside entry logged, drawn⟩
        · exact ⟨_, last, mem_singleton.1 added ▸ inserted ▸ rfl⟩
      · rw [artifacts]
        intro other member
        rcases mem_append.1 member with earlier | added
        · obtain ⟨entry, logged, drawn⟩ := filed.artifactsDrawn other earlier
          exact ⟨entry, inside entry logged, drawn⟩
        · exact ⟨_, last, mem_singleton.1 added ▸ rfl⟩
      · rw [rows]
        intro other member
        rcases mem_append.1 member with earlier | added
        · obtain ⟨entry, logged, filedFor⟩ := filed.origin other earlier
          exact ⟨entry, inside entry logged, filedFor⟩
        · obtain rfl := mem_singleton.1 added
          exact ⟨_, last, owned, inserted ▸ owned.symm, inserted ▸ rfl, records⟩
      · rw [rows]
        intro entry member ownedEntry
        rcases mem_append.1 member with earlier | added
        · obtain ⟨given, answer, other, otherMember, filedUnder⟩ :=
            filed.answered entry earlier ownedEntry
          exact ⟨given, answer, other, mem_append_left _ otherMember, filedUnder⟩
        · obtain rfl := mem_singleton.1 added
          exact ⟨ack, rfl, row, by simp, inserted ▸ answered ▸ rfl, records⟩
      · -- no earlier call has the text and the content of a new row
        intro first firstMember second secondMember firstOwned _ sameText sameContent
        obtain rfl := mem_singleton.1 secondMember
        obtain ⟨-, -, other, otherMember, -, otherRecords⟩ :=
          filed.answered first firstMember firstOwned
        exact absurd ⟨otherRecords.1.trans sameText, otherRecords.2.trans sameContent⟩
          (new other otherMember)
  · have refused : ingress.accept call.source call.envelope call.draw session.state =
        (.error (.valueError "envelope source_id does not match source definition"),
          session.state) := if_pos owned
    exact filed.unchanged refused fun ours => absurd ours owned

/-- What holds of the empty session and is kept by every call with identifiers that are
new holds after all calls, when the identifiers drawn are all different. -/
theorem acceptAll_induction {motive : Session → Prop} (empty : motive {})
    (step : ∀ {session call}, Filed ingress session → Built ingress.hashing call.envelope →
      (∀ row ∈ session.state.observations.rows,
        row.observationId ≠ call.draw.observationId) →
      (∀ row ∈ session.state.artifacts.rows, row.artifactId ≠ call.draw.artifactId) →
        motive session → motive (session.call ingress call)) (calls : List IngressCall)
    (built : ∀ call ∈ calls, Built ingress.hashing call.envelope)
    (observationIds : (calls.map fun call => call.draw.observationId).Nodup)
    (artifactIds : (calls.map fun call => call.draw.artifactId).Nodup) :
    (Filed ingress (acceptAll ingress calls) ∧
      (acceptAll ingress calls).log.map Prod.fst = calls) ∧ motive (acceptAll ingress calls) := by
  induction calls using List.reverseRecOn with
  | nil => exact ⟨⟨filed_empty, rfl⟩, empty⟩
  | append_singleton front last ih =>
      rw [map_append, nodup_append] at observationIds artifactIds
      obtain ⟨⟨filed, logged⟩, held⟩ :=
        ih (fun call member => built call (mem_append_left _ member))
          observationIds.1 artifactIds.1
      have inFront : ∀ entry ∈ (acceptAll ingress front).log, entry.1 ∈ front := fun entry member =>
        logged ▸ mem_map_of_mem member
      have newObservation : ∀ row ∈ (acceptAll ingress front).state.observations.rows,
          row.observationId ≠ last.draw.observationId := by
        intro row member
        obtain ⟨entry, member, drawn⟩ := filed.drawn row member
        exact drawn ▸ observationIds.2.2 _
          (mem_map.2 ⟨entry.1, inFront entry member, rfl⟩) _ (by simp)
      have newArtifact : ∀ row ∈ (acceptAll ingress front).state.artifacts.rows,
          row.artifactId ≠ last.draw.artifactId := by
        intro row member
        obtain ⟨entry, member, drawn⟩ := filed.artifactsDrawn row member
        exact drawn ▸ artifactIds.2.2 _
          (mem_map.2 ⟨entry.1, inFront entry member, rfl⟩) _ (by simp)
      have builtLast := built last (by simp)
      rw [acceptAll, foldl_append, foldl_cons, foldl_nil]
      refine ⟨⟨filed.after builtLast newObservation newArtifact, ?_⟩,
        step filed builtLast newObservation newArtifact held⟩
      rw [Session.call, map_append]
      exact congrArg (· ++ [last]) logged

end Sessions

/-! ## The identity of evidence -/

/-- What evidence is known by: the source, the object, its revision or else its content,
and the content. -/
abbrev Identity := String × String × String × String

def IngestEnvelope.identity (envelope : IngestEnvelope) : Identity :=
  (envelope.sourceId, envelope.externalObjectId,
    revisionOr envelope.externalRevision envelope.contentHash, envelope.contentHash)

open IngestEnvelope (identity)

def ObservationModel.identity (row : ObservationModel) : Identity :=
  (row.sourceId, row.externalObjectId, revisionOr row.externalRevision row.contentHash,
    row.contentHash)

/-- The envelopes have the same content, and identities of different sources or objects
that read the same once joined. -/
def Clash (one other : IngestEnvelope) : Prop :=
  one.contentHash = other.contentHash ∧ one.text = other.text ∧
    (one.sourceId, one.externalObjectId) ≠ (other.sourceId, other.externalObjectId)

instance (one other : IngestEnvelope) : Decidable (Clash one other) :=
  inferInstanceAs (Decidable (_ ∧ _ ∧ _))

/-- What the identity of evidence means for a session: every envelope offered for its own
source is answered with an observation of its source, object and content, there is one
observation of its identity, and a second call with that identity repeats the first
answer's. -/
structure IdentityKept (session : Session) : Prop where
  answered : ∀ entry ∈ session.log, entry.1.Owned → ∃ ack, entry.2 = .ok ack ∧
    ∃ row ∈ session.state.observations.rows, row.observationId = ack.observationId ∧
      row.sourceId = entry.1.envelope.sourceId ∧
      row.externalObjectId = entry.1.envelope.externalObjectId ∧
      row.contentHash = entry.1.envelope.contentHash
  single : ∀ entry ∈ session.log, entry.1.Owned →
    ∃! row, row ∈ session.state.observations.rows ∧
      row.identity = identity entry.1.envelope
  replayed : session.log.Pairwise fun first second =>
    first.1.Owned → second.1.Owned →
      identity first.1.envelope = identity second.1.envelope →
        ∃ ack again, first.2 = .ok ack ∧ second.2 = .ok again ∧
          again.observationId = ack.observationId ∧ again.replay = true

/-- One identity has one text. -/
theorem identity_eq_iff (records : row.Records envelope)
    (sameSource : row.sourceId = envelope.sourceId)
    (sameObject : row.externalObjectId = envelope.externalObjectId) :
    row.identity = identity envelope := by
  have lists := congrArg String.toList records.1
  rw [ObservationModel.text, IngestEnvelope.text, toList_identityText, toList_identityText,
    sameSource, sameObject, List.append_cancel_left_eq, List.cons_eq_cons, List.append_cancel_left_eq,
    List.cons_eq_cons, toList_inj] at lists
  rw [ObservationModel.identity, identity, sameSource, sameObject,
    lists.2.2, records.2]

theorem records_of_identity (same : row.identity = identity envelope) :
    row.Records envelope := by
  obtain ⟨sourceId, externalObjectId, revision, content⟩ :
      row.sourceId = envelope.sourceId ∧ row.externalObjectId = envelope.externalObjectId ∧
        revisionOr row.externalRevision row.contentHash =
          revisionOr envelope.externalRevision envelope.contentHash ∧
        row.contentHash = envelope.contentHash := by
    simpa [ObservationModel.identity, identity] using same
  refine ⟨?_, content⟩
  rw [ObservationModel.text, IngestEnvelope.text, sourceId, externalObjectId, revision]

/-- A stand-in for the digest of a short content: one letter for each byte. -/
def letters (bytes : Bytes) : String :=
  ofList (bytes.map fun byte => Char.ofNat (256 + byte.toNat))

theorem toNat_letter (byte : UInt8) : (Char.ofNat (256 + byte.toNat)).toNat = 256 + byte.toNat := by
  have bound := byte.toNat_lt
  rw [Char.toNat_ofNat, if_pos]
  exact .inl (by omega)

/-- Hashing by letters, for the runs below. -/
def plainHashing : Hashing where
  sha256 := letters
  canonicalPayload _ := encode "\x7b\x7d"
  injective := by
    intro left right same
    refine map_injective_iff.2 (fun one other equal => ?_) (String.ofList_injective same)
    have codes := congrArg Char.toNat equal
    rw [toNat_letter, toNat_letter] at codes
    exact UInt8.toNat_inj.1 (by omega)
  noColon := by
    intro bytes member
    rw [letters, toList_ofList] at member
    obtain ⟨byte, -, same⟩ := mem_map.1 member
    have code := congrArg Char.toNat same
    rw [toNat_letter] at code
    have colon : ':'.toNat = 58 := rfl
    omega

def plainIngress : EvidenceIngress := ⟨plainHashing, "evidence"⟩

/-- The call that offers some revision of a package. -/
def packageCall (object revision : String) (body : Bytes) (number : String) : IngressCall where
  source := { sourceId := "registry" }
  envelope := forBinaryPayload plainHashing
    { acquisitionRunId := "run", trigger := .scheduled, sourceId := "registry",
      externalObjectId := object, externalRevision := some revision, observedAt := 0 }
    body "text/plain"
  draw := { now := 0, observationId := "observation-" ++ number, artifactId := "artifact-" ++ number }

/-- A revision, the same revision with other content, and the first once more. -/
def revisedPackage : List IngressCall :=
  [packageCall "npm" "1" [1] "1", packageCall "npm" "1" [2] "2", packageCall "npm" "1" [1] "3"]

/-- The object `pkg` at revision `npm:1` after the object `pkg:npm` at revision `1`, with
the same content. -/
def clashingPackages : List IngressCall :=
  [packageCall "pkg:npm" "1" [1] "1", packageCall "pkg" "npm:1" [1] "2"]

end SecFusion.Intelligence.Ingestion
