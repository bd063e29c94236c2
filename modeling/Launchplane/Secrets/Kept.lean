import Launchplane.Secrets.Write

/-!
# Launchplane.Secrets.Kept

**Every secret keeps its last value and its last key**, in exactly the runs whose
writes have separate ids (`keepsSecrets_iff`).

In any run every row comes from some write of it (`Sourced`), and a write changes
the rows of its own ids only (`Wrote`). In a run of writes that are apart, the
rows of an identity are therefore those of its last write (`Kept`). For the other
direction, a write that shares a row with another secret's write either gives
both the same id or takes the other one's row away.
-/

namespace Launchplane.Secrets

section Kept

variable {T : CharacterTable} {κ : Type} [LinearOrder κ] {collate : Chars ↪ κ} {E : Encryption}

/-! ### One write -/

/-- Every row comes from a write. -/
structure Sourced (T : CharacterTable) (events : List SecretEvent) (store : SecretStore) : Prop where
  records : ∀ record ∈ store.records.rows, record.status = .configured ∧
    ∃ e ∈ events, record.toSecretIdentity = e.write.toSecretIdentity ∧
      record.secretId = e.write.newSecretId T
  bindings : ∀ binding ∈ store.bindings.rows, ∃ e ∈ events, ∃ createdAt,
    binding = e.write.binding T (e.write.newSecretId T) createdAt

/-- What a write left. -/
structure Wrote (T : CharacterTable) (E : Encryption) (store : SecretStore) (w : SecretWrite)
    (store' : SecretStore) : Prop where
  record : ∃ record version, store'.records.get (w.newSecretId T) = some record ∧
    record.toSecretIdentity = w.toSecretIdentity ∧ record.status = .configured ∧
      store'.versions.get record.currentVersionId = some version ∧
        E.decrypt version.ciphertext version.keyId = .ok w.plaintextValue
  otherRecords : ∀ id, id ≠ w.newSecretId T → store'.records.get id = store.records.get id
  versions : ∀ id version, store.versions.get id = some version →
    store'.versions.get id = some version
  binding : ∃ createdAt, store'.bindings.get (w.bindingId T) =
    some (w.binding T (w.newSecretId T) createdAt)
  otherBindings : ∀ id, id ≠ w.bindingId T → store'.bindings.get id = store.bindings.get id

theorem mem_of_findSecretRecord {store : SecretStore} {identity : SecretIdentity}
    {record : SecretRecord} (h : store.findSecretRecord collate identity = some record) :
    record ∈ store.records.rows ∧ record.toSecretIdentity = identity := by
  have hmem := List.mem_of_head? h
  rw [mem_sortedBy, List.mem_filter] at hmem
  exact ⟨hmem.1, by simpa using hmem.2⟩

/-- A secret that was written is written again under its id. -/
theorem targetSecretId_eq {events : List SecretEvent} {store : SecretStore}
    (h : Sourced T events store) (w : SecretWrite) :
    store.targetSecretId T collate w = w.newSecretId T := by
  unfold SecretStore.targetSecretId
  split
  · rename_i record hfound
    obtain ⟨hmem, hidentity⟩ := mem_of_findSecretRecord hfound
    obtain ⟨-, e, -, hsame, hid⟩ := h.records record hmem
    rw [hid]
    exact SecretWrite.newSecretId_congr T (hsame.symm.trans hidentity)
  · rfl

theorem wrote_of_ok (hE : E.Faithful) {events : List SecretEvent} {store store' : SecretStore}
    {w : SecretWrite} {result : SecretWriteResult} (hsourced : Sourced T events store)
    (hfresh : store.versions.get
      (versionId (store.targetSecretId T collate w) w.drawnVersion) = none)
    (hok : store.writeSecretValue T collate E w = (.ok result, store')) :
    Wrote T E store w store' := by
  obtain ⟨createdAt, hcases⟩ := SecretStore.writeSecretValue_cases T collate E hok
  rw [targetSecretId_eq hsourced] at hcases hfresh
  have hbinding (bindings : Table SecretBinding SecretBinding.bindingId) :
      (bindings.merge (w.binding T (w.newSecretId T) createdAt)).get (w.bindingId T) =
        some (w.binding T (w.newSecretId T) createdAt) := by
    rw [Table.get_merge, if_pos]
    rfl
  have hother (bindings : Table SecretBinding SecretBinding.bindingId) (id : Chars)
      (hid : id ≠ w.bindingId T) :
      (bindings.merge (w.binding T (w.newSecretId T) createdAt)).get id = bindings.get id := by
    rw [Table.get_merge, if_neg]
    exact hid
  rcases hcases with ⟨record, version, hfound, hversion, hvalue, rfl⟩ | rfl
  · obtain ⟨hmem, hidentity⟩ := mem_of_findSecretRecord hfound
    obtain ⟨hstatus, e, -, hsame, hid⟩ := hsourced.records record hmem
    have hkey : record.secretId = w.newSecretId T :=
      hid.trans (SecretWrite.newSecretId_congr T (hsame.symm.trans hidentity))
    refine ⟨⟨record, version, Table.get_eq_some.mpr ⟨hmem, hkey⟩, hidentity, hstatus, hversion,
      hvalue⟩, fun _ _ => rfl, fun _ _ h => h, ⟨createdAt, hbinding _⟩, hother _⟩
  · refine ⟨⟨w.record (w.newSecretId T) (store.findSecretRecord collate w.toSecretIdentity),
      w.version E (w.newSecretId T), ?_, rfl, rfl, ?_, hE _ _⟩, ?_, ?_,
      ⟨createdAt, hbinding _⟩, hother _⟩
    · rw [Table.get_merge, if_pos]
      rfl
    · rw [Table.get_merge, if_pos]
      rfl
    · intro id hid
      rw [Table.get_merge, if_neg]
      exact hid
    · intro id version hversion
      rw [Table.get_merge, if_neg]
      · exact hversion
      · intro heq
        rw [heq] at hversion
        exact absurd (hfresh.symm.trans hversion) (by simp)

/-- Every row of the rows that a write left comes from a write. -/
theorem Sourced.write {events : List SecretEvent} {store store' : SecretStore} {w : SecretWrite}
    (h : Sourced T events store) (hwrote : Wrote T E store w store') {event : SecretEvent}
    (hevent : event.write = w) : Sourced T (event :: events) store' := by
  refine ⟨?_, ?_⟩
  · intro record hmem
    have hget := Table.get_eq_some.mpr ⟨hmem, rfl⟩
    by_cases hid : record.secretId = w.newSecretId T
    · obtain ⟨written, _, hwritten, hidentity, hstatus, -⟩ := hwrote.record
      rw [hid, hwritten] at hget
      obtain rfl := Option.some.inj hget
      exact ⟨hstatus, event, List.mem_cons_self, by rw [hevent]; exact hidentity,
        by rw [hevent]; exact hid⟩
    · rw [hwrote.otherRecords _ hid] at hget
      obtain ⟨hstatus, e, he, hsame⟩ := h.records record (Table.get_eq_some.mp hget).1
      exact ⟨hstatus, e, List.mem_cons_of_mem _ he, hsame⟩
  · intro binding hmem
    have hget := Table.get_eq_some.mpr ⟨hmem, rfl⟩
    by_cases hid : binding.bindingId = w.bindingId T
    · obtain ⟨createdAt, hwritten⟩ := hwrote.binding
      rw [hid, hwritten] at hget
      exact ⟨event, List.mem_cons_self, createdAt, by rw [hevent]; exact (Option.some.inj hget).symm⟩
    · rw [hwrote.otherBindings _ hid] at hget
      obtain ⟨e, he, hsame⟩ := h.bindings binding (Table.get_eq_some.mp hget).1
      exact ⟨e, List.mem_cons_of_mem _ he, hsame⟩

theorem sourced_of_writes (hE : E.Faithful) {events : List SecretEvent} {store : SecretStore}
    (h : Writes T collate E events store) : Sourced T events store := by
  induction h with
  | start => exact ⟨by simp, by simp⟩
  | write w hrun hfresh hok ih => exact ih.write (wrote_of_ok hE ih hfresh hok) rfl

/-- Every event of a run is one write in a run. -/
theorem writes_of_mem (hE : E.Faithful) {events : List SecretEvent} {store : SecretStore}
    (h : Writes T collate E events store) {event : SecretEvent} (hmem : event ∈ events) :
    ∃ earlier, earlier ⊆ events ∧ Sourced T earlier event.before ∧
      Wrote T E event.before event.write event.after := by
  induction h with
  | start => cases hmem
  | @write events store store' w result hrun hfresh hok ih =>
      rcases List.mem_cons.mp hmem with rfl | hmem
      · have hsourced := sourced_of_writes hE hrun
        exact ⟨events, List.subset_cons_self _ _, hsourced, wrote_of_ok hE hsourced hfresh hok⟩
      · obtain ⟨earlier, hsub, hsame⟩ := ih hmem
        exact ⟨earlier, List.subset_cons_of_subset _ hsub, hsame⟩

/-! ### Writes that are apart -/

/-- The rows of an identity are those of its last write, and of the last writes of its keys. -/
structure Kept (T : CharacterTable) (E : Encryption) (events : List SecretEvent)
    (store : SecretStore) : Prop where
  records : ∀ identity w, lastWrite events identity = some w →
    ∃ record version, store.records.get (w.newSecretId T) = some record ∧
      record.toSecretIdentity = identity ∧ record.status = .configured ∧
        store.versions.get record.currentVersionId = some version ∧
          E.decrypt version.ciphertext version.keyId = .ok w.plaintextValue
  bindings : ∀ identity bindingKey w, lastWriteOfKey events identity bindingKey = some w →
    ∃ createdAt, store.bindings.get (w.bindingId T) =
      some (w.binding T (w.newSecretId T) createdAt)

theorem of_lastWrite {events : List SecretEvent} {identity : SecretIdentity} {w : SecretWrite}
    (h : lastWrite events identity = some w) :
    w.toSecretIdentity = identity ∧ ∃ e ∈ events, e.write = w := by
  refine ⟨by simpa using List.find?_some h, ?_⟩
  simpa using List.mem_of_find?_eq_some h

theorem of_lastWriteOfKey {events : List SecretEvent} {identity : SecretIdentity}
    {bindingKey : Chars} {w : SecretWrite}
    (h : lastWriteOfKey events identity bindingKey = some w) :
    w.toSecretIdentity = identity ∧ w.bindingKey = bindingKey ∧ ∃ e ∈ events, e.write = w := by
  have hsome := List.find?_some h
  simp only [decide_eq_true_eq] at hsome
  exact ⟨hsome.1, hsome.2, by simpa using List.mem_of_find?_eq_some h⟩

theorem Apart.tail {event : SecretEvent} {events : List SecretEvent}
    (h : Apart T (event :: events)) : Apart T events where
  identities := by
    intro e he e' he'
    exact h.identities e (List.mem_cons_of_mem _ he) e' (List.mem_cons_of_mem _ he')
  keys := by
    intro e he e' he'
    exact h.keys e (List.mem_cons_of_mem _ he) e' (List.mem_cons_of_mem _ he')

/-- Two writes share a binding row only when they have the same identity and key. -/
theorem Apart.bindingId_ne {events : List SecretEvent} (h : Apart T events) {e e' : SecretEvent}
    (he : e ∈ events) (he' : e' ∈ events)
    (hne : e.write.toSecretIdentity ≠ e'.write.toSecretIdentity ∨
      e.write.bindingKey ≠ e'.write.bindingKey) :
    e.write.bindingId T ≠ e'.write.bindingId T := by
  rw [ne_eq, SecretWrite.bindingId_eq_iff]
  by_cases hidentity : e.write.toSecretIdentity = e'.write.toSecretIdentity
  · have hkeys := h.keys e he e' he' hidentity (hne.resolve_left (not_not.mpr hidentity))
    intro heq
    have hwords : e.write.words T = e'.write.words T := by
      unfold SecretWrite.words
      rw [hidentity]
    rw [SecretWrite.bindingWords, SecretWrite.bindingWords, hwords, bindingIdWords,
      bindingIdWords] at heq
    simp [hkeys] at heq
  · exact (h.identities e he e' he' hidentity).2

/-- **A write keeps the rows of every other identity and key.** -/
theorem Kept.write {events : List SecretEvent} {store store' : SecretStore} {event : SecretEvent}
    (h : Kept T E events store) (hapart : Apart T (event :: events))
    (hwrote : Wrote T E store event.write store') : Kept T E (event :: events) store' where
  records := by
    intro identity w hlast
    by_cases hidentity : event.write.toSecretIdentity = identity
    · obtain rfl : event.write = w := by simpa [lastWrite, hidentity] using hlast
      obtain ⟨record, version, hrecord, hsame, hrest⟩ := hwrote.record
      exact ⟨record, version, hrecord, hsame.trans hidentity, hrest⟩
    · have hlast' : lastWrite events identity = some w := by
        simpa [lastWrite, hidentity] using hlast
      obtain ⟨hw, e, he, rfl⟩ := of_lastWrite hlast'
      obtain ⟨record, version, hrecord, hsame, hstatus, hversion, hvalue⟩ := h.records _ _ hlast'
      have hne := (hapart.identities event List.mem_cons_self e (List.mem_cons_of_mem _ he)
        (by rw [hw]; exact hidentity)).1
      refine ⟨record, version, ?_, hsame, hstatus, hwrote.versions _ _ hversion, hvalue⟩
      rw [hwrote.otherRecords]
      · exact hrecord
      · rw [ne_eq, SecretWrite.newSecretId_eq_iff]
        exact hne.symm
  bindings := by
    intro identity bindingKey w hlast
    by_cases hsame : event.write.toSecretIdentity = identity ∧ event.write.bindingKey = bindingKey
    · obtain rfl : event.write = w := by simpa [lastWriteOfKey, hsame] using hlast
      exact hwrote.binding
    · have hlast' : lastWriteOfKey events identity bindingKey = some w := by
        simpa [lastWriteOfKey, hsame] using hlast
      obtain ⟨hw, hkey, e, he, rfl⟩ := of_lastWriteOfKey hlast'
      obtain ⟨createdAt, hbinding⟩ := h.bindings _ _ _ hlast'
      refine ⟨createdAt, ?_⟩
      rw [hwrote.otherBindings]
      · exact hbinding
      · refine (hapart.bindingId_ne List.mem_cons_self (List.mem_cons_of_mem _ he) ?_).symm
        rw [← not_and_or, hw, hkey]
        exact hsame

theorem kept_of_writes (hE : E.Faithful) {events : List SecretEvent} {store : SecretStore}
    (h : Writes T collate E events store) (hapart : Apart T events) : Kept T E events store := by
  induction h with
  | start => exact ⟨by simp [lastWrite], by simp [lastWriteOfKey]⟩
  | @write events store store' w result hrun hfresh hok ih =>
      exact (ih hapart.tail).write hapart (wrote_of_ok hE (sourced_of_writes hE hrun) hfresh hok)

/-! ### What is found and selected -/

/-- An identity has one record. -/
theorem findSecretRecord_eq {events : List SecretEvent} {store : SecretStore}
    (hsourced : Sourced T events store) {record : SecretRecord} (hmem : record ∈ store.records.rows) :
    store.findSecretRecord collate record.toSecretIdentity = some record := by
  cases hfound : store.findSecretRecord collate record.toSecretIdentity with
  | none =>
      have hnone : record ∉ sortedBy (recordRank collate) (store.records.rows.filter
          (·.toSecretIdentity = record.toSecretIdentity)) := by
        rw [List.head?_eq_none_iff.mp hfound]
        exact List.not_mem_nil
      simp [hmem] at hnone
  | some found =>
      obtain ⟨hmem', hidentity⟩ := mem_of_findSecretRecord hfound
      obtain ⟨-, e, -, hsame, hid⟩ := hsourced.records record hmem
      obtain ⟨-, e', -, hsame', hid'⟩ := hsourced.records found hmem'
      have hids : found.secretId = record.secretId := by
        rw [hid, hid']
        exact SecretWrite.newSecretId_congr T (hsame'.symm.trans (hidentity.trans hsame))
      rw [store.records.eq_of_key_eq hmem' hmem hids]

theorem lastWriteOfKey_of_lastWrite {events : List SecretEvent} {identity : SecretIdentity}
    {w : SecretWrite} (h : lastWrite events identity = some w) :
    lastWriteOfKey events identity w.bindingKey = some w := by
  obtain ⟨hw, earlier, later, hsplit, hnone⟩ := List.find?_eq_some_iff_append.mp h
  refine List.find?_eq_some_iff_append.mpr ⟨by simpa using hw, earlier, later, hsplit, ?_⟩
  intro other hother
  have hidentity := hnone other hother
  simp only [Bool.not_eq_eq_eq_not, Bool.not_true, decide_eq_false_iff_not] at hidentity ⊢
  exact fun hsame => hidentity hsame.1

theorem exists_lastWriteOfKey {events : List SecretEvent} {e : SecretEvent} (he : e ∈ events) :
    ∃ w, lastWriteOfKey events e.write.toSecretIdentity e.write.bindingKey = some w := by
  cases hlast : lastWriteOfKey events e.write.toSecretIdentity e.write.bindingKey with
  | some w => exact ⟨w, rfl⟩
  | none =>
      have hnone := List.find?_eq_none.mp hlast e.write (List.mem_map.mpr ⟨e, he, rfl⟩)
      simp at hnone

theorem bindingId_congr {w w' : SecretWrite} (h : w.toSecretIdentity = w'.toSecretIdentity)
    (hkey : w.bindingKey = w'.bindingKey) : w.bindingId T = w'.bindingId T := by
  rw [SecretWrite.bindingId, SecretWrite.bindingId, hkey, SecretWrite.newSecretId_congr T h]

/-- A row of an identity and a key is the one of their last write. -/
theorem Kept.binding_eq {events : List SecretEvent} {store : SecretStore}
    (hkept : Kept T E events store) {e : SecretEvent} (he : e ∈ events) {createdAt : Nat}
    (hmem : e.write.binding T (e.write.newSecretId T) createdAt ∈ store.bindings.rows) :
    ∃ w createdAt', lastWriteOfKey events e.write.toSecretIdentity e.write.bindingKey = some w ∧
      e.write.binding T (e.write.newSecretId T) createdAt =
        w.binding T (w.newSecretId T) createdAt' := by
  obtain ⟨w, hlast⟩ := exists_lastWriteOfKey he
  obtain ⟨createdAt', hget⟩ := hkept.bindings _ _ _ hlast
  obtain ⟨hidentity, hkey, -⟩ := of_lastWriteOfKey hlast
  refine ⟨w, createdAt', hlast, ?_⟩
  refine store.bindings.eq_of_key_eq hmem (Table.get_eq_some.mp hget).1 ?_
  exact bindingId_congr hidentity.symm hkey.symm

/-- The newest binding of a secret is the one of its last write. -/
theorem bindingForSecret_eq {events : List SecretEvent} {store : SecretStore}
    (hsourced : Sourced T events store) (hkept : Kept T E events store)
    (hseparate : SeparateIds T collate events) {w : SecretWrite} {record : SecretRecord}
    (hlast : lastWrite events record.toSecretIdentity = some w)
    (hid : record.secretId = w.newSecretId T) :
    ∃ createdAt, store.bindingForSecret collate record.secretId (some record.integration)
        (some record.context) (some record.instanceName) =
      some (w.binding T (w.newSecretId T) createdAt) := by
  obtain ⟨createdAt, hget⟩ := hkept.bindings _ _ _ (lastWriteOfKey_of_lastWrite hlast)
  obtain ⟨hmem, -⟩ := Table.get_eq_some.mp hget
  obtain ⟨hw, e₀, he₀, rfl⟩ := of_lastWrite hlast
  refine ⟨createdAt, (SecretStore.bindingForSecret_eq_some collate).mpr ⟨hmem, ?_, ?_⟩⟩
  · refine ⟨hid.symm, rfl, ?_⟩
    rw [← hw]
    exact ⟨rfl, rfl, rfl⟩
  · intro other hother hbinds
    obtain ⟨e, he, createdAt', rfl⟩ := hsourced.bindings other hother
    have hidentity : e.write.toSecretIdentity = e₀.write.toSecretIdentity := by
      refine Classical.byContradiction fun hne => ?_
      refine (hseparate.identities e he e₀ he₀ hne).1 ?_
      rw [← SecretWrite.newSecretId_eq_iff]
      exact hbinds.1.trans hid
    obtain ⟨w', createdAt'', hlast', heq⟩ := hkept.binding_eq he hother
    rw [heq, bindingRank, bindingRank, OrderDual.toDual_le_toDual, Prod.Lex.toLex_le_toLex]
    by_cases hkey : e.write.bindingKey = e₀.write.bindingKey
    · rw [hidentity, hkey, hw, lastWriteOfKey_of_lastWrite hlast] at hlast'
      obtain rfl := Option.some.inj hlast'
      exact .inr ⟨rfl, le_refl _⟩
    · rw [hidentity, hw] at hlast'
      exact hseparate.latest _ _ hlast _ _ hlast' hkey

/-! ### The two directions -/

/-- **In a run with separate ids, writing one secret never touches another.** -/
theorem keepsSecrets_of_separateIds (hE : E.Faithful) {events : List SecretEvent}
    {store : SecretStore} (h : Writes T collate E events store)
    (hseparate : SeparateIds T collate events) : KeepsSecrets T collate E events store := by
  have hsourced := sourced_of_writes hE h
  have hkept := kept_of_writes hE h hseparate.toApart
  -- the record of an identity that was written
  have hrecord (identity : SecretIdentity) (w : SecretWrite)
      (hlast : lastWrite events identity = some w) :
      ∃ record version, store.findSecretRecord collate identity = some record ∧
        record.toSecretIdentity = identity ∧ record.secretId = w.newSecretId T ∧
          record.status = .configured ∧
          store.versions.get record.currentVersionId = some version ∧
            E.decrypt version.ciphertext version.keyId = .ok w.plaintextValue := by
    obtain ⟨record, version, hget, hidentity, hstatus, hversion, hvalue⟩ := hkept.records _ _ hlast
    obtain ⟨hmem, hid⟩ := Table.get_eq_some.mp hget
    exact ⟨record, version, hidentity ▸ findSecretRecord_eq hsourced hmem, hidentity, hid, hstatus,
      hversion, hvalue⟩
  refine ⟨?_, ?_, ?_, ?_, ?_⟩
  · intro e he
    obtain ⟨earlier, hsub, hbefore, hwrote⟩ := writes_of_mem hE h he
    refine ⟨?_, ?_, ?_⟩
    · intro record hmem hne
      obtain ⟨-, e', he', hidentity, hid⟩ := hbefore.records record hmem
      have hwords := (hseparate.identities e' (hsub he') e he (hidentity ▸ hne)).1
      have hother : record.secretId ≠ e.write.newSecretId T := by
        rw [hid, ne_eq, SecretWrite.newSecretId_eq_iff]
        exact hwords
      have hget := Table.get_eq_some.mpr ⟨hmem, rfl⟩
      rw [← hwrote.otherRecords _ hother] at hget
      exact (Table.get_eq_some.mp hget).1
    · intro version hmem
      have hget := hwrote.versions _ _ (Table.get_eq_some.mpr ⟨hmem, rfl⟩)
      exact (Table.get_eq_some.mp hget).1
    · intro binding hmem hne
      obtain ⟨e', he', createdAt, rfl⟩ := hbefore.bindings binding hmem
      have hidentity : e'.write.toSecretIdentity ≠ e.write.toSecretIdentity :=
        fun heq => hne (SecretWrite.newSecretId_congr T heq)
      have hother := hseparate.bindingId_ne (hsub he') he (.inl hidentity)
      have hget := Table.get_eq_some.mpr ⟨hmem, rfl⟩
      have hget' := (hwrote.otherBindings _ hother).trans hget
      exact (Table.get_eq_some.mp hget').1
  · intro identity w hlast
    obtain ⟨record, version, hfound, -, -, -, hversion, hvalue⟩ := hrecord identity w hlast
    exact ⟨record, version, hfound, by simp [SecretStore.readSecretVersion, hversion], hvalue⟩
  · intro identity w found hlast hfound context instanceName hscope
    obtain ⟨record, _, hfound', hidentity, hid, hstatus, -⟩ := hrecord identity w hlast
    obtain rfl := Option.some.inj (hfound.symm.trans hfound')
    obtain ⟨createdAt, hbinding⟩ := bindingForSecret_eq hsourced hkept hseparate
      (hidentity ▸ hlast) hid
    have hcandidate : found ∈ store.candidateRecords collate identity.integration context
        instanceName none :=
      (SecretStore.mem_candidateRecords collate).mpr ⟨(mem_of_findSecretRecord hfound).1,
        .inr (by rw [← hidentity]), hstatus, hscope, by simp⟩
    have hpair := SecretStore.mem_effectiveBindings collate hcandidate hbinding
    exact ⟨_, rfl, hpair, SecretStore.mem_keys_resolveEffectiveSecretBindings collate hpair⟩
  · intro e he e' he' hne
    rw [ne_eq, SecretWrite.newSecretId_eq_iff]
    exact (hseparate.identities e he e' he' hne).1
  · intro e he e' he' _ hne
    exact hseparate.bindingId_ne he he' (.inr hne)

/-- While no write takes another secret's binding away, every write's binding row stays with its
secret. -/
theorem bindings_of_untouched (hE : E.Faithful) {events : List SecretEvent} {store : SecretStore}
    (h : Writes T collate E events store)
    (huntouched : ∀ e ∈ events, ∀ binding ∈ e.before.bindings.rows,
      binding.secretId ≠ e.write.newSecretId T → binding ∈ e.after.bindings.rows) :
    ∀ e ∈ events, ∃ binding ∈ store.bindings.rows, binding.bindingId = e.write.bindingId T ∧
      binding.secretId = e.write.newSecretId T := by
  induction h with
  | start => simp
  | @write events store store' w result hrun hfresh hok ih =>
      have hwrote := wrote_of_ok hE (sourced_of_writes hE hrun) hfresh hok
      obtain ⟨createdAt, hnew⟩ := hwrote.binding
      have hkept := ih fun e he => huntouched e (List.mem_cons_of_mem _ he)
      intro e he
      rcases List.mem_cons.mp he with rfl | he
      · exact ⟨_, (Table.get_eq_some.mp hnew).1, rfl, rfl⟩
      · obtain ⟨binding, hmem, hid, hsecret⟩ := hkept e he
        by_cases htouched : binding.secretId = w.newSecretId T
        · by_cases hsame : e.write.bindingId T = w.bindingId T
          · exact ⟨_, (Table.get_eq_some.mp hnew).1, hsame.symm, htouched.symm.trans hsecret⟩
          · have hget := hwrote.otherBindings _ hsame
            rw [Table.get_eq_some.mpr ⟨hmem, hid⟩] at hget
            exact ⟨binding, (Table.get_eq_some.mp hget).1, hid, hsecret⟩
        · exact ⟨binding, huntouched _ List.mem_cons_self binding hmem htouched, hid, hsecret⟩

theorem apart_of_keepsSecrets (hE : E.Faithful) {events : List SecretEvent} {store : SecretStore}
    (h : Writes T collate E events store) (hkeeps : KeepsSecrets T collate E events store) :
    Apart T events where
  identities := by
    intro e he e' he' hne
    have hids := hkeeps.secretIds e he e' he' hne
    refine ⟨fun heq => hids ((SecretWrite.newSecretId_eq_iff T _ _).mpr heq), fun heq => hids ?_⟩
    have hrows := bindings_of_untouched hE h fun e he => (hkeeps.untouched e he).2.2
    obtain ⟨binding, hmem, hid, hsecret⟩ := hrows e he
    obtain ⟨binding', hmem', hid', hsecret'⟩ := hrows e' he'
    have hsame := (SecretWrite.bindingId_eq_iff T _ _).mpr heq
    obtain rfl := store.bindings.eq_of_key_eq hmem hmem' (hid.trans (hsame.trans hid'.symm))
    exact hsecret.symm.trans hsecret'
  keys := by
    intro e he e' he' hidentity hne heq
    refine hkeeps.bindingIds e he e' he' hidentity hne ?_
    rw [SecretWrite.bindingId_eq_iff, SecretWrite.bindingWords, SecretWrite.bindingWords,
      bindingIdWords, bindingIdWords, heq, SecretWrite.words, SecretWrite.words, hidentity]

/-- **A run that keeps every secret has separate ids.** -/
theorem separateIds_of_keepsSecrets (hE : E.Faithful) {events : List SecretEvent}
    {store : SecretStore} (h : Writes T collate E events store)
    (hkeeps : KeepsSecrets T collate E events store) : SeparateIds T collate events := by
  have hapart := apart_of_keepsSecrets hE h hkeeps
  have hsourced := sourced_of_writes hE h
  have hkept := kept_of_writes hE h hapart
  refine ⟨hapart, ?_⟩
  intro identity w hlast bindingKey w' hlast' hne
  obtain ⟨record, -, hfound, -⟩ := hkeeps.value identity w hlast
  obtain ⟨hrecord, hidentity⟩ := mem_of_findSecretRecord hfound
  have hscope : scopeMatchesRecord record record.context record.instanceName = true := by
    cases hscope : record.scope <;> simp [scopeMatchesRecord, hscope]
  obtain ⟨binding, hkey, hpair, -⟩ := hkeeps.key identity w record hlast hfound _ _ hscope
  -- the selected binding is the row of the last write
  obtain ⟨-, hbinding⟩ := SecretStore.of_mem_effectiveBindings collate hpair
  obtain ⟨hmem, hbinds, hfirst⟩ := (SecretStore.bindingForSecret_eq_some collate).mp hbinding
  obtain ⟨hw, e₀, he₀, rfl⟩ := of_lastWrite hlast
  obtain ⟨-, e₁, -, hsame, hid⟩ := hsourced.records record hrecord
  have hid₀ : record.secretId = e₀.write.newSecretId T :=
    hid.trans (SecretWrite.newSecretId_congr T (hsame.symm.trans (hidentity.trans hw.symm)))
  obtain ⟨e, he, createdAt, rfl⟩ := hsourced.bindings binding hmem
  have hsecret : e.write.toSecretIdentity = identity := by
    refine Classical.byContradiction fun hother => ?_
    refine (hapart.identities e he e₀ he₀ (hw ▸ hother)).1 ?_
    rw [← SecretWrite.newSecretId_eq_iff]
    exact hbinds.1.trans hid₀
  obtain ⟨w₁, createdAt₁, hlast₁, heq⟩ := hkept.binding_eq he hmem
  rw [hsecret, show e.write.bindingKey = e₀.write.bindingKey from hkey,
    lastWriteOfKey_of_lastWrite hlast] at hlast₁
  obtain rfl := Option.some.inj hlast₁
  -- the row of the other key is one of the secret's, so it comes later in the listing
  obtain ⟨hw', -, -⟩ := of_lastWriteOfKey hlast'
  obtain ⟨createdAt', hget'⟩ := hkept.bindings _ _ _ hlast'
  have hbinds' : SecretStore.Binds record (w'.binding T (w'.newSecretId T) createdAt') := by
    refine ⟨?_, rfl, ?_⟩
    · exact (SecretWrite.newSecretId_congr T (hw'.trans hw.symm)).trans hid₀.symm
    · rw [hidentity, ← hw']
      exact ⟨rfl, rfl, rfl⟩
  have hle := hfirst _ (Table.get_eq_some.mp hget').1 hbinds'
  rw [heq, bindingRank, bindingRank, OrderDual.toDual_le_toDual, Prod.Lex.toLex_le_toLex] at hle
  exact hle

/-- **Writing one managed secret never touches another** in exactly the runs whose writes have
separate ids. -/
theorem keepsSecrets_iff (hE : E.Faithful) {events : List SecretEvent} {store : SecretStore}
    (h : Writes T collate E events store) :
    KeepsSecrets T collate E events store ↔ SeparateIds T collate events :=
  ⟨separateIds_of_keepsSecrets hE h, keepsSecrets_of_separateIds hE h⟩

end Kept

/-! ### Computed runs -/

section Sample

variable (T : CharacterTable) {κ : Type} [LinearOrder κ] (collate : Chars ↪ κ) (E : Encryption)

/-- Perform writes, the newest first. -/
def writeAll : List SecretWrite → List SecretEvent × SecretStore
  | [] => ([], {})
  | w :: earlier =>
    let before := (writeAll earlier).2
    let after := (before.writeSecretValue T collate E w).2
    ({ before, write := w, after } :: (writeAll earlier).1, after)

/-- Every write succeeds and draws an id that is not in use. -/
def Succeeds : List SecretWrite → Prop
  | [] => True
  | w :: earlier =>
    let before := (writeAll T collate E earlier).2
    before.versions.get (versionId (before.targetSecretId T collate w) w.drawnVersion) = none ∧
      (before.writeSecretValue T collate E w).1.toOption.isSome ∧ Succeeds earlier

theorem writes_writeAll (ws : List SecretWrite) (h : Succeeds T collate E ws) :
    Writes T collate E (writeAll T collate E ws).1 (writeAll T collate E ws).2 := by
  induction ws with
  | nil => exact .start
  | cons w earlier ih =>
      obtain ⟨hfresh, hok, hearlier⟩ := h
      cases hresult : ((writeAll T collate E earlier).2.writeSecretValue T collate E w).1 with
      | error error => simp [hresult, Except.toOption] at hok
      | ok result => exact .write w (ih hearlier) hfresh (Prod.ext hresult rfl)

/-- A cipher that only puts what it drew in front. -/
private def sampleCipher : Encryption where
  encrypt drawn value := (drawn.filter (· ≠ '.') ++ '.' :: value, "key-1".toList)
  decrypt ciphertext _ := .ok (ciphertext.dropWhile (· ≠ '.')).tail

private theorem sampleCipher_faithful : sampleCipher.Faithful := by
  intro drawn value
  have hdrop : (drawn.filter (· ≠ '.') ++ '.' :: value).dropWhile (· ≠ '.') = '.' :: value := by
    rw [List.dropWhile_append_of_pos]
    · simp
    · intro c hc
      exact (List.mem_filter.mp hc).2
  exact congrArg (fun text : Chars => Except.ok text.tail) hdrop

/-- A password of a whole site. -/
private def siteWide : SecretWrite :=
  { scope := .context, integration := "runtime_environment".toList, name := "db_password".toList
    context := "a-b".toList, plaintextValue := "one".toList, bindingKey := "DB_PASSWORD".toList
    now := 1, drawnVersion := "1".toList }

/-- The site's password is rotated. -/
private def rotated : SecretWrite :=
  { siteWide with plaintextValue := "three".toList, now := 3, drawnVersion := "3".toList }

/-- The password of one lane of another site. -/
private def otherLane : SecretWrite :=
  { scope := .contextInstance, integration := "runtime_environment".toList
    name := "db_password".toList, context := "a".toList, instanceName := "b".toList
    plaintextValue := "two".toList, bindingKey := "DB_PASSWORD".toList, now := 2
    drawnVersion := "2".toList }

/-- The password of another lane, whose words are its own. -/
private def farLane : SecretWrite :=
  { otherLane with context := "c".toList }

/-- What a run of these writes leaves. -/
private def sampleRun (ws : List SecretWrite) : List SecretEvent × SecretStore :=
  writeAll .ascii (Function.Embedding.refl Chars) sampleCipher ws

private theorem write_of_mem {ws : List SecretWrite} {e : SecretEvent} (h : e ∈ (sampleRun ws).1) :
    e.write ∈ ws := by
  induction ws with
  | nil => cases h
  | cons w earlier ih =>
      rcases List.mem_cons.mp h with rfl | hearlier
      · exact List.mem_cons_self
      · exact List.mem_cons_of_mem _ (ih hearlier)

/-- The site's password is rotated after the lane's was written, and both are kept. -/
theorem keepsSecrets_iff_sample :
    KeepsSecrets .ascii (Function.Embedding.refl Chars) sampleCipher
      (sampleRun [rotated, farLane, siteWide]).1 (sampleRun [rotated, farLane, siteWide]).2 := by
  refine (keepsSecrets_iff sampleCipher_faithful (writes_writeAll _ _ _ _ ?_)).mpr ⟨⟨?_, ?_⟩, ?_⟩
  · refine ⟨?_, ?_, ?_, ?_, ?_, ?_, trivial⟩ <;> decide +kernel
  · exact fun e he e' he' => (by decide +kernel : ∀ w ∈ [rotated, farLane, siteWide],
      ∀ w' ∈ [rotated, farLane, siteWide], w.toSecretIdentity ≠ w'.toSecretIdentity →
        w.words .ascii ≠ w'.words .ascii ∧ w.bindingWords .ascii ≠ w'.bindingWords .ascii)
      e.write (write_of_mem he) e'.write (write_of_mem he')
  · exact fun e he e' he' _ => (by decide +kernel : ∀ w ∈ [rotated, farLane, siteWide],
      ∀ w' ∈ [rotated, farLane, siteWide], w.bindingKey ≠ w'.bindingKey →
        slugWords .ascii w.bindingKey ≠ slugWords .ascii w'.bindingKey)
      e.write (write_of_mem he) e'.write (write_of_mem he')
  · intro identity w hlast bindingKey w' hlast' hne
    -- all of them are about one binding key
    have hkey : ∀ w ∈ [rotated, farLane, siteWide], w.bindingKey = "DB_PASSWORD".toList := by
      decide +kernel
    have hmem {p : SecretWrite → Bool} {w : SecretWrite}
        (h : ((sampleRun [rotated, farLane, siteWide]).1.map (·.write)).find? p = some w) :
        w ∈ [rotated, farLane, siteWide] := by
      obtain ⟨e, he, rfl⟩ := List.mem_map.mp (List.mem_of_find?_eq_some h)
      exact write_of_mem he
    have hused := List.find?_some hlast'
    simp only [decide_eq_true_eq] at hused
    rw [← hused.2, hkey w' (hmem hlast'), hkey w (hmem hlast)] at hne
    exact absurd rfl hne

/-- The lane's password is stored under the id of the other site's password. -/
theorem not_keepsSecrets_otherLane :
    ¬ ∀ events store, Writes .ascii (Function.Embedding.refl Chars) sampleCipher events store →
      KeepsSecrets .ascii (Function.Embedding.refl Chars) sampleCipher events store := by
  intro h
  have hrun : Writes .ascii (Function.Embedding.refl Chars) sampleCipher
      (sampleRun [otherLane, siteWide]).1 (sampleRun [otherLane, siteWide]).2 :=
    writes_writeAll _ _ _ _ (by refine ⟨?_, ?_, ?_, ?_, trivial⟩ <;> decide +kernel)
  have hlost : (sampleRun [otherLane, siteWide]).2.findSecretRecord (Function.Embedding.refl Chars)
      siteWide.toSecretIdentity = none := by decide +kernel
  obtain ⟨record, _, hfound, _⟩ :=
    (h _ _ hrun).value siteWide.toSecretIdentity siteWide (by decide +kernel)
  rw [hlost] at hfound
  cases hfound

end Sample

end Launchplane.Secrets
