import Launchplane.Secrets.Store

/-!
# Launchplane.Secrets.Write

**Writing one managed secret.** The value is looked up by the identity of its
secret, but stored under an id that is made of words. Two identities with the
same words share a row, and so do two bindings; the later write then takes the
earlier one's place. `Apart` says that no two writes of a run do that, and
`SeparateIds` adds which of several keys of one secret is the newest.

Under exactly that condition every secret keeps its last value and its last key,
whatever else is written.
-/

namespace Launchplane.Secrets

/-- The cipher of the key ring. What `encrypt` draws, a nonce and the time, is an argument; it
returns the ciphertext and the id of the key. -/
structure Encryption where
  encrypt : (drawn value : Chars) → Chars × Chars
  decrypt : (ciphertext keyId : Chars) → Except SecretError Chars

/-- What was encrypted is decrypted again. -/
def Encryption.Faithful (E : Encryption) : Prop :=
  ∀ drawn value, E.decrypt (E.encrypt drawn value).1 (E.encrypt drawn value).2 = .ok value

/-- The arguments of `write_secret_value`, and what it reads from the clock and draws. -/
structure SecretWrite extends SecretIdentity where
  plaintextValue : Chars
  bindingKey : Chars
  description : Chars := []
  actor : Chars := []
  valueOrigin : SecretValueOrigin := .supplied
  now : Nat
  drawnVersion : Chars
  drawnCipher : Chars := []
  deriving Repr, DecidableEq

/-- `SecretWriteAction`. -/
inductive SecretWriteAction
  | created | rotated | unchanged
  deriving Repr, DecidableEq

/-- What `write_secret_value` returns. -/
structure SecretWriteResult where
  secretId : Chars
  action : SecretWriteAction
  versionId : Option Chars := none
  deriving Repr, DecidableEq

/-- The checks of `SecretRecord`. Its times are never empty here. -/
def validateSecretRecord (record : SecretRecord) : Except SecretError Unit := do
  raiseIf (stripChars record.secretId = []) (.validation "secret record requires secret_id")
  raiseIf (stripChars record.integration = []) (.validation "secret record requires integration")
  raiseIf (stripChars record.name = []) (.validation "secret record requires name")
  raiseIf (stripChars record.currentVersionId = [])
    (.validation "secret record requires current_version_id")
  raiseIf ((record.scope = .context ∨ record.scope = .contextInstance) ∧
      stripChars record.context = [])
    (.validation "context-scoped secret record requires context")
  raiseIf (record.scope = .contextInstance ∧ stripChars record.instanceName = [])
    (.validation "instance-scoped secret record requires instance")
  raiseIf (record.scope ≠ .contextInstance ∧ stripChars record.instanceName ≠ [])
    (.validation "only instance-scoped secret records may set instance")

/-- The checks of `SecretVersion`. -/
def validateSecretVersion (version : SecretVersion) : Except SecretError Unit := do
  raiseIf (stripChars version.versionId = []) (.validation "secret version requires version_id")
  raiseIf (stripChars version.secretId = []) (.validation "secret version requires secret_id")
  raiseIf (stripChars version.ciphertext = []) (.validation "secret version requires ciphertext")

/-- The checks of `SecretBinding`. -/
def validateSecretBinding (binding : SecretBinding) : Except SecretError Unit := do
  raiseIf (stripChars binding.bindingId = []) (.validation "secret binding requires binding_id")
  raiseIf (stripChars binding.secretId = []) (.validation "secret binding requires secret_id")
  raiseIf (stripChars binding.integration = []) (.validation "secret binding requires integration")
  raiseIf (stripChars binding.bindingKey = []) (.validation "secret binding requires binding_key")

section Write

variable (T : CharacterTable) {κ : Type} [LinearOrder κ] (collate : Chars ↪ κ) (E : Encryption)

namespace SecretWrite

/-- The id of a new secret. -/
def newSecretId (w : SecretWrite) : Chars :=
  secretId T w.integration w.name w.context w.instanceName

/-- The binding that is written. -/
def binding (w : SecretWrite) (secretId : Chars) (createdAt : Nat) : SecretBinding where
  bindingId := bindingId T secretId w.bindingKey
  secretId := secretId
  integration := w.integration
  bindingKey := w.bindingKey
  context := w.context
  instanceName := w.instanceName
  createdAt := createdAt
  updatedAt := w.now

/-- The version that is written. -/
def version (w : SecretWrite) (secretId : Chars) : SecretVersion where
  versionId := versionId secretId w.drawnVersion
  secretId := secretId
  createdAt := w.now
  createdBy := w.actor
  keyId := (E.encrypt w.drawnCipher w.plaintextValue).2
  ciphertext := (E.encrypt w.drawnCipher w.plaintextValue).1
  valueOrigin := some w.valueOrigin

/-- The record that is written. -/
def record (w : SecretWrite) (secretId : Chars) (existing : Option SecretRecord) : SecretRecord where
  toSecretIdentity := w.toSecretIdentity
  secretId := secretId
  description := w.description
  currentVersionId := versionId secretId w.drawnVersion
  createdAt := (existing.map (·.createdAt)).getD w.now
  updatedAt := w.now
  lastValidatedAt := existing.bind (·.lastValidatedAt)
  updatedBy := w.actor

end SecretWrite

namespace SecretStore

/-- Whether the secret exists with this value already. -/
def holdsValue (store : SecretStore) (existing : Option SecretRecord) (plaintextValue : Chars) :
    Except SecretError Bool :=
  match existing with
  | none => .ok false
  | some record => do
    let version ← store.readSecretVersion record.currentVersionId
    let value ← E.decrypt version.ciphertext version.keyId
    return value = plaintextValue

/-- The id the secret is written under. -/
def targetSecretId (store : SecretStore) (w : SecretWrite) : Chars :=
  match store.findSecretRecord collate w.toSecretIdentity with
  | some record => record.secretId
  | none => w.newSecretId T

/-- `write_secret_value`: the answer and the rows it leaves. A call that fails half-way leaves the
rows it wrote. -/
def writeSecretValue (store : SecretStore) (w : SecretWrite) :
    Except SecretError SecretWriteResult × SecretStore :=
  if stripChars w.plaintextValue = [] then
    (.error (.click "Launchplane managed secrets require a non-empty plaintext value."), store)
  else
    let existing := store.findSecretRecord collate w.toSecretIdentity
    let secretId := store.targetSecretId T collate w
    let binding := w.binding T secretId ((existing.map (·.createdAt)).getD w.now)
    match store.holdsValue E existing w.plaintextValue with
    | .error error => (.error error, store)
    | .ok true =>
      match validateSecretBinding binding with
      | .error error => (.error error, store)
      | .ok () =>
        (.ok { secretId, action := .unchanged },
          { store with bindings := store.bindings.merge binding })
    | .ok false =>
      let version := w.version E secretId
      match validateSecretVersion version with
      | .error error => (.error error, store)
      | .ok () =>
        let versioned := { store with versions := store.versions.merge version }
        let record := w.record secretId existing
        match validateSecretRecord record with
        | .error error => (.error error, versioned)
        | .ok () =>
          let recorded := { versioned with records := store.records.merge record }
          match validateSecretBinding binding with
          | .error error => (.error error, recorded)
          | .ok () =>
            (.ok { secretId, action := if existing = none then .created else .rotated,
                   versionId := some version.versionId },
              { recorded with bindings := store.bindings.merge binding })

/-- **What a successful write does**: the secret has the value already and gets the binding, or it
gets a new version, the record and the binding. -/
theorem writeSecretValue_cases {store store' : SecretStore} {w : SecretWrite}
    {result : SecretWriteResult}
    (h : store.writeSecretValue T collate E w = (.ok result, store')) :
    ∃ createdAt,
      (∃ record version, store.findSecretRecord collate w.toSecretIdentity = some record ∧
          store.versions.get record.currentVersionId = some version ∧
          E.decrypt version.ciphertext version.keyId = .ok w.plaintextValue ∧
          store' = { store with
            bindings := store.bindings.merge
              (w.binding T (store.targetSecretId T collate w) createdAt) }) ∨
        store' =
          { records := store.records.merge (w.record (store.targetSecretId T collate w)
              (store.findSecretRecord collate w.toSecretIdentity))
            versions := store.versions.merge (w.version E (store.targetSecretId T collate w))
            bindings := store.bindings.merge
              (w.binding T (store.targetSecretId T collate w) createdAt) } := by
  refine ⟨((store.findSecretRecord collate w.toSecretIdentity).map (·.createdAt)).getD w.now, ?_⟩
  unfold writeSecretValue at h
  split at h
  · cases h
  · dsimp only at h
    split at h
    · cases h
    · rename_i hholds
      split at h
      · cases h
      · cases h
        refine .inl ?_
        cases hexisting : store.findSecretRecord collate w.toSecretIdentity with
        | none => simp [holdsValue, hexisting] at hholds
        | some record =>
            simp only [holdsValue, hexisting, bind_eq_ok] at hholds
            obtain ⟨version, hversion, value, hvalue, hsame⟩ := hholds
            obtain rfl : value = w.plaintextValue := by simpa [pure, Except.pure] using hsame
            refine ⟨record, version, rfl, ?_, hvalue, rfl⟩
            unfold readSecretVersion at hversion
            split at hversion
            · cases hversion
              assumption
            · cases hversion
    · split at h
      · cases h
      · split at h
        · cases h
        · split at h
          · cases h
          · cases h
            exact .inr rfl

end SecretStore

/-! ### Runs of writes -/

/-- A successful write, with the rows before and after it. -/
structure SecretEvent where
  before : SecretStore
  write : SecretWrite
  after : SecretStore

/-- The runs of successful writes from the empty store, the newest first, and the rows they leave.
The id that is drawn for a version is not in use. -/
inductive Writes : List SecretEvent → SecretStore → Prop
  | start : Writes [] {}
  | write {events : List SecretEvent} {store store' : SecretStore} (w : SecretWrite)
      {result : SecretWriteResult} (hrun : Writes events store)
      (hfresh : store.versions.get
        (versionId (store.targetSecretId T collate w) w.drawnVersion) = none)
      (hok : store.writeSecretValue T collate E w = (.ok result, store')) :
      Writes ({ before := store, write := w, after := store' } :: events) store'

/-- The last write of an identity. -/
def lastWrite (events : List SecretEvent) (identity : SecretIdentity) : Option SecretWrite :=
  (events.map (·.write)).find? (·.toSecretIdentity = identity)

/-- The last write of an identity that used the binding key. -/
def lastWriteOfKey (events : List SecretEvent) (identity : SecretIdentity) (bindingKey : Chars) :
    Option SecretWrite :=
  (events.map (·.write)).find? fun w => w.toSecretIdentity = identity ∧ w.bindingKey = bindingKey

namespace SecretWrite

/-- The id of the binding. -/
def bindingId (w : SecretWrite) : Chars := Secrets.bindingId T (w.newSecretId T) w.bindingKey

/-- The words of the secret's id. -/
def words (w : SecretWrite) : List Chars :=
  secretIdWords T w.integration w.name w.context w.instanceName

/-- The words of the binding's id. -/
def bindingWords (w : SecretWrite) : List Chars := bindingIdWords T (w.words T) w.bindingKey

theorem newSecretId_eq_iff (w w' : SecretWrite) :
    w.newSecretId T = w'.newSecretId T ↔ w.words T = w'.words T :=
  secretId_eq_iff T _ _ _ _ _ _ _ _

theorem bindingId_eq_iff (w w' : SecretWrite) :
    w.bindingId T = w'.bindingId T ↔ w.bindingWords T = w'.bindingWords T := by
  unfold bindingId newSecretId bindingWords words
  rw [secretId_eq, secretId_eq]
  exact Secrets.bindingId_eq_iff T (areParts_secretIdWords T _ _ _ _)
    (areParts_secretIdWords T _ _ _ _) (secretIdWords_ne_nil T _ _ _ _)
    (secretIdWords_ne_nil T _ _ _ _) _ _

theorem newSecretId_congr {w w' : SecretWrite} (h : w.toSecretIdentity = w'.toSecretIdentity) :
    w.newSecretId T = w'.newSecretId T := by
  unfold newSecretId
  rw [h]

end SecretWrite

/-- What the store promises for a run of writes. -/
structure KeepsSecrets (events : List SecretEvent) (store : SecretStore) : Prop where
  /-- A write leaves the rows of all other secrets as they are. -/
  untouched : ∀ e ∈ events,
    (∀ record ∈ e.before.records.rows, record.toSecretIdentity ≠ e.write.toSecretIdentity →
      record ∈ e.after.records.rows) ∧
    (∀ version ∈ e.before.versions.rows, version ∈ e.after.versions.rows) ∧
    ∀ binding ∈ e.before.bindings.rows, binding.secretId ≠ e.write.newSecretId T →
      binding ∈ e.after.bindings.rows
  /-- Every identity that was written is found, with its last value. -/
  value : ∀ identity w, lastWrite events identity = some w →
    ∃ record version, store.findSecretRecord collate identity = some record ∧
      store.readSecretVersion record.currentVersionId = .ok version ∧
        E.decrypt version.ciphertext version.keyId = .ok w.plaintextValue
  /-- On every lane it reaches it supplies the key of its last write. -/
  key : ∀ identity w record, lastWrite events identity = some w →
    store.findSecretRecord collate identity = some record →
      ∀ context instanceName, scopeMatchesRecord record context instanceName = true →
        ∃ binding, binding.bindingKey = w.bindingKey ∧
          (binding, record) ∈ store.effectiveBindings collate identity.integration context
            instanceName none [] ∧
          w.bindingKey ∈ (store.resolveEffectiveSecretBindings collate identity.integration
            context instanceName none []).keys
  /-- Different identities have different secret ids. -/
  secretIds : ∀ e ∈ events, ∀ e' ∈ events, e.write.toSecretIdentity ≠ e'.write.toSecretIdentity →
    e.write.newSecretId T ≠ e'.write.newSecretId T
  /-- Different binding keys of one secret have different binding ids. -/
  bindingIds : ∀ e ∈ events, ∀ e' ∈ events, e.write.toSecretIdentity = e'.write.toSecretIdentity →
    e.write.bindingKey ≠ e'.write.bindingKey → e.write.bindingId T ≠ e'.write.bindingId T

/-- No two writes share a row they should not share: writes of different identities differ in the
words of their names, and in those with their binding keys; different binding keys of one identity
differ in the words of their slugs. -/
structure Apart (events : List SecretEvent) : Prop where
  identities : ∀ e ∈ events, ∀ e' ∈ events, e.write.toSecretIdentity ≠ e'.write.toSecretIdentity →
    e.write.words T ≠ e'.write.words T ∧ e.write.bindingWords T ≠ e'.write.bindingWords T
  keys : ∀ e ∈ events, ∀ e' ∈ events, e.write.toSecretIdentity = e'.write.toSecretIdentity →
    e.write.bindingKey ≠ e'.write.bindingKey →
      slugWords T e.write.bindingKey ≠ slugWords T e'.write.bindingKey

/-- The writes are apart, and every binding key of an identity was last written before its last
write, or at the same instant with a binding id the database puts before. -/
structure SeparateIds (events : List SecretEvent) : Prop extends Apart T events where
  latest : ∀ identity w, lastWrite events identity = some w →
    ∀ bindingKey w', lastWriteOfKey events identity bindingKey = some w' →
      bindingKey ≠ w.bindingKey →
        w'.now < w.now ∨
          w'.now = w.now ∧ collate (w'.bindingId T) ≤ collate (w.bindingId T)

end Write

end Launchplane.Secrets
