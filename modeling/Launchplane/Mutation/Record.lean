import Launchplane.Dict
import Launchplane.Text

/-!
# Launchplane.Mutation.Record

**The record of a mutation.** A request that changes something outside is recorded
before it does: who works on it, until when, and how far it came. The record is
validated whenever it is built and whenever it is read, and what validation returns
it accepts again.

Instants are whole seconds, in which the timestamps are stored. A record's id is a
digest of its key and stands for the key.
-/

namespace Launchplane.Mutation

/-- `LaunchplaneMutationReservationState`. -/
inductive ReservationState
  | running | completed | reconcileRequired
  deriving Repr, DecidableEq

/-- A JSON object: the texts of its leaves by their paths. -/
abbrev Payload : Type := Dict String String

/-- What a record is found by. -/
structure ReservationKey where
  scope : String
  routePath : String
  idempotencyKey : String
  deriving Repr, DecidableEq

/-- `LaunchplaneIdempotencyRecord`. -/
structure IdempotencyRecord where
  key : ReservationKey
  requestFingerprint : String
  state : ReservationState := .completed
  leaseOwner : String := ""
  leaseExpiresAt : Option Nat := none
  attempt : Nat := 1
  reconciliationKey : String := ""
  providerTargetKey : String := ""
  providerEffectPhase : String := ""
  providerEffectStartedAt : Option Nat := none
  createdAt : Option Nat := none
  updatedAt : Option Nat := none
  responseStatusCode : Option Nat := none
  responseTraceId : String := ""
  recordedAt : Option Nat := none
  responsePayload : Payload := []
  deriving Repr, DecidableEq

/-! ### Validation -/

/-- The texts that every record needs. -/
def ReservationKey.validate (key : ReservationKey) : Except String ReservationKey := do
  let scope ← requireText key.scope "Mutation reservation requires scope."
  let routePath ← requireText key.routePath "Mutation reservation requires route_path."
  let idempotencyKey ←
    requireText key.idempotencyKey "Mutation reservation requires idempotency_key."
  return { scope, routePath, idempotencyKey }

namespace IdempotencyRecord

/-- A record that has no answer. -/
def unanswered (record : IdempotencyRecord) : Prop :=
  record.responseStatusCode = none ∧ record.responseTraceId = "" ∧ record.recordedAt = none

instance decidableUnanswered (record : IdempotencyRecord) : Decidable record.unanswered :=
  inferInstanceAs (Decidable (_ ∧ _))

/-- A record that has no timestamps. -/
def undated (record : IdempotencyRecord) : Prop :=
  record.createdAt = none ∨ record.updatedAt = none

instance decidableUndated (record : IdempotencyRecord) : Decidable record.undated :=
  inferInstanceAs (Decidable (_ ∨ _))

/-- Whether the lease ends later than the given instant. -/
def leaseAfter (record : IdempotencyRecord) (instant : Nat) : Prop :=
  ∃ expiresAt ∈ record.leaseExpiresAt, instant < expiresAt

instance decidableLeaseAfter (record : IdempotencyRecord) (instant : Nat) :
    Decidable (record.leaseAfter instant) :=
  inferInstanceAs (Decidable (∃ expiresAt ∈ record.leaseExpiresAt, _))

/-- The lease ends later than the record was updated. -/
def leaseOpen (record : IdempotencyRecord) : Prop :=
  ∃ updatedAt ∈ record.updatedAt, record.leaseAfter updatedAt

instance decidableLeaseOpen (record : IdempotencyRecord) : Decidable record.leaseOpen :=
  inferInstanceAs (Decidable (∃ updatedAt ∈ record.updatedAt, _))

/-- The checks of `_validate_record` for a state. -/
def checkState (record : IdempotencyRecord) : Except String Unit :=
  match record.state with
  | .running => do
      raiseIf (record.leaseOwner = "") "Running mutation reservations require lease_owner."
      raiseIf (record.leaseExpiresAt = none)
        "Running mutation reservations require lease_expires_at."
      raiseIf record.undated "Running mutation reservations require timestamps."
      raiseIf (¬record.leaseOpen) "Running mutation reservation leases must expire in the future."
      raiseIf (¬record.unanswered) "Running mutation reservations must not include a response."
      raiseIf (record.responsePayload ≠ [])
        "Running mutation reservations must not include response_payload."
  | .completed => do
      raiseIf (record.responseStatusCode = none)
        "Completed mutation reservations require response_status_code."
      raiseIf (record.responseTraceId = "")
        "Completed mutation reservations require response_trace_id."
      raiseIf (record.recordedAt = none) "Completed mutation reservations require recorded_at."
      raiseIf record.undated "Completed mutation reservations require timestamps."
  | .reconcileRequired => do
      raiseIf (record.leaseOwner = "")
        "Reconcile-required mutation reservations require lease_owner."
      raiseIf (record.reconciliationKey = "")
        "Reconcile-required mutation reservations require reconciliation_key."
      raiseIf record.undated "Reconcile-required mutation reservations require timestamps."
      raiseIf (¬record.unanswered)
        "Reconcile-required mutation reservations must not include a response."
      raiseIf (record.responsePayload ≠ [])
        "Reconcile-required mutation reservations must not include response_payload."

/-- The checks of `_validate_record`. -/
def check (record : IdempotencyRecord) : Except String Unit := do
  raiseIf (record.providerTargetKey ≠ "" ∧ record.reconciliationKey = "")
    "Provider target keys require a reconciliation key."
  raiseIf (¬(record.providerEffectPhase ≠ "" ↔ record.providerEffectStartedAt ≠ none))
    "Provider effect checkpoints require both phase and started_at evidence."
  raiseIf (record.providerEffectPhase ≠ "" ∧ record.reconciliationKey = "")
    "Provider effect checkpoints require a reconciliation key."
  record.checkState

/-- The bounds of the numbers. -/
def checkNumbers (record : IdempotencyRecord) : Except String Unit := do
  raiseIf (record.attempt < 1) "attempt: Input should be greater than or equal to 1"
  raiseIf (∃ code ∈ record.responseStatusCode, code < 100)
    "response_status_code: Input should be greater than or equal to 100"
  raiseIf (∃ code ∈ record.responseStatusCode, 599 < code)
    "response_status_code: Input should be less than or equal to 599"

/-- The record with its texts stripped and its missing timestamps filled in. -/
def normalized (record : IdempotencyRecord) (key : ReservationKey) (requestFingerprint : String) :
    IdempotencyRecord :=
  let createdAt := record.createdAt.or record.recordedAt
  { record with
    key
    requestFingerprint
    leaseOwner := pyStrip record.leaseOwner
    reconciliationKey := pyStrip record.reconciliationKey
    providerTargetKey := pyStrip record.providerTargetKey
    providerEffectPhase := pyStrip record.providerEffectPhase
    createdAt
    updatedAt := (record.updatedAt.or record.recordedAt).or createdAt
    responseTraceId := pyStrip record.responseTraceId }

/-- `LaunchplaneIdempotencyRecord.model_validate`. -/
def validate (record : IdempotencyRecord) : Except String IdempotencyRecord := do
  record.checkNumbers
  let key ← record.key.validate
  let requestFingerprint ←
    requireText record.requestFingerprint "Mutation reservation requires request_fingerprint."
  let normalized := record.normalized key requestFingerprint
  normalized.check
  return normalized

end IdempotencyRecord

/-! ### Validated records -/

/-- What a validated key is. -/
theorem ReservationKey.validate_of_ok {key validated : ReservationKey}
    (h : key.validate = .ok validated) : validated.validate = .ok validated := by
  unfold ReservationKey.validate at h
  obtain ⟨scope, hscope, h⟩ := bind_eq_ok.mp h
  obtain ⟨routePath, hroutePath, h⟩ := bind_eq_ok.mp h
  obtain ⟨idempotencyKey, hidempotencyKey, h⟩ := bind_eq_ok.mp h
  cases h
  exact bind_eq_ok.mpr ⟨scope, requireText_of_ok hscope, bind_eq_ok.mpr ⟨routePath,
    requireText_of_ok hroutePath, bind_eq_ok.mpr ⟨idempotencyKey,
      requireText_of_ok hidempotencyKey, rfl⟩⟩⟩

namespace IdempotencyRecord

variable {record validated : IdempotencyRecord}

theorem normalized_normalized (key : ReservationKey) (requestFingerprint : String) :
    (record.normalized key requestFingerprint).normalized key requestFingerprint =
      record.normalized key requestFingerprint := by
  have hcreated : (record.createdAt.or record.recordedAt).or record.recordedAt =
      record.createdAt.or record.recordedAt := by
    cases record.createdAt <;> cases record.recordedAt <;> rfl
  have hupdated : ((((record.updatedAt.or record.recordedAt).or
      (record.createdAt.or record.recordedAt)).or record.recordedAt).or
        (record.createdAt.or record.recordedAt)) =
      (record.updatedAt.or record.recordedAt).or (record.createdAt.or record.recordedAt) := by
    cases record.updatedAt <;> cases record.recordedAt <;> cases record.createdAt <;> rfl
  simp only [normalized, pyStrip_pyStrip, hcreated, hupdated]

/-- What validation accepts, it accepts again as it is. -/
theorem validate_of_ok (h : record.validate = .ok validated) :
    validated.validate = .ok validated := by
  unfold validate at h
  obtain ⟨hnumbers, h⟩ := guard_eq_ok.mp h
  obtain ⟨key, hkey, h⟩ := bind_eq_ok.mp h
  obtain ⟨requestFingerprint, hfingerprint, h⟩ := bind_eq_ok.mp h
  obtain ⟨hcheck, h⟩ := guard_eq_ok.mp h
  cases h
  have hsame := record.normalized_normalized key requestFingerprint
  refine guard_eq_ok.mpr ⟨hnumbers, bind_eq_ok.mpr ⟨key, ReservationKey.validate_of_ok hkey,
    bind_eq_ok.mpr ⟨requestFingerprint, requireText_of_ok hfingerprint, ?_⟩⟩⟩
  rw [hsame]
  exact guard_eq_ok.mpr ⟨hcheck, rfl⟩

end IdempotencyRecord

/-- A record as it is stored. -/
structure ReservationRow where
  record : IdempotencyRecord
  valid : record.validate = .ok record

/-- `model_validate`, of a record that is stored next. -/
def IdempotencyRecord.row (record : IdempotencyRecord) : Except String ReservationRow :=
  match h : record.validate with
  | .ok validated => .ok ⟨validated, IdempotencyRecord.validate_of_ok h⟩
  | .error message => .error message

theorem IdempotencyRecord.row_eq_ok {record : IdempotencyRecord} {row : ReservationRow} :
    record.row = .ok row ↔ record.validate = .ok row.record := by
  obtain ⟨stored, hstored⟩ := row
  unfold IdempotencyRecord.row
  split
  · rename_i validated h
    simp only [Except.ok.injEq, ReservationRow.mk.injEq, h]
  · rename_i message h
    simp [h]

namespace IdempotencyRecord

variable {record validated : IdempotencyRecord}

/-- The texts of a record are stripped, and it has its timestamps. -/
structure Normal (record : IdempotencyRecord) : Prop where
  key : record.key.validate = .ok record.key
  requestFingerprint : requireText record.requestFingerprint
    "Mutation reservation requires request_fingerprint." = .ok record.requestFingerprint
  leaseOwner : pyStrip record.leaseOwner = record.leaseOwner
  reconciliationKey : pyStrip record.reconciliationKey = record.reconciliationKey
  providerTargetKey : pyStrip record.providerTargetKey = record.providerTargetKey
  providerEffectPhase : pyStrip record.providerEffectPhase = record.providerEffectPhase
  responseTraceId : pyStrip record.responseTraceId = record.responseTraceId
  dated : ¬record.undated

/-- A record that is updated keeps the time of its creation. -/
theorem dated_of_updated {written : IdempotencyRecord} {now : Nat} (h : ¬record.undated)
    (hcreated : written.createdAt = record.createdAt) (hupdated : written.updatedAt = some now) :
    ¬written.undated := by
  intro hundated
  rcases hundated with hnone | hnone
  · exact h (.inl (hcreated.symm.trans hnone))
  · rw [hupdated] at hnone
    cases hnone

theorem Normal.normalized_eq (h : record.Normal) :
    record.normalized record.key record.requestFingerprint = record := by
  have hdated := h.dated
  unfold undated at hdated
  obtain ⟨createdAt, hcreated⟩ := Option.ne_none_iff_exists'.mp fun hnone => hdated (.inl hnone)
  obtain ⟨updatedAt, hupdated⟩ := Option.ne_none_iff_exists'.mp fun hnone => hdated (.inr hnone)
  have hcreated' : record.createdAt.or record.recordedAt = record.createdAt := by
    rw [hcreated]
    rfl
  have hupdated' : (record.updatedAt.or record.recordedAt).or record.createdAt = record.updatedAt := by
    rw [hupdated]
    rfl
  simp only [normalized, h.leaseOwner, h.reconciliationKey, h.providerTargetKey,
    h.providerEffectPhase, h.responseTraceId, hcreated', hupdated']

/-- What is validated in normal form stays as it is. -/
theorem Normal.eq_of_validate (h : record.Normal) (hvalidate : record.validate = .ok validated) :
    validated = record := by
  unfold validate at hvalidate
  obtain ⟨-, hvalidate⟩ := guard_eq_ok.mp hvalidate
  obtain ⟨key, hkey, hvalidate⟩ := bind_eq_ok.mp hvalidate
  obtain ⟨requestFingerprint, hfingerprint, hvalidate⟩ := bind_eq_ok.mp hvalidate
  obtain ⟨-, hvalidate⟩ := guard_eq_ok.mp hvalidate
  cases h.key.symm.trans hkey
  cases h.requestFingerprint.symm.trans hfingerprint
  rw [h.normalized_eq] at hvalidate
  exact (Except.ok.inj hvalidate).symm

/-- What the checks of a stored record give. -/
structure Valid (record : IdempotencyRecord) : Prop extends record.Normal where
  target : record.providerTargetKey ≠ "" → record.reconciliationKey ≠ ""
  checkpoint : record.providerEffectPhase ≠ "" ↔ record.providerEffectStartedAt ≠ none
  state : record.checkState = .ok ()

theorem dated_of_checkState (h : record.checkState = .ok ()) : ¬record.undated := by
  unfold checkState at h
  cases hstate : record.state with
  | running =>
      simp only [hstate] at h
      obtain ⟨-, h⟩ := guard_eq_ok.mp h
      obtain ⟨-, h⟩ := guard_eq_ok.mp h
      exact raiseIf_eq_ok.mp (guard_eq_ok.mp h).1
  | completed =>
      simp only [hstate] at h
      obtain ⟨-, h⟩ := guard_eq_ok.mp h
      obtain ⟨-, h⟩ := guard_eq_ok.mp h
      obtain ⟨-, h⟩ := guard_eq_ok.mp h
      exact raiseIf_eq_ok.mp h
  | reconcileRequired =>
      simp only [hstate] at h
      obtain ⟨-, h⟩ := guard_eq_ok.mp h
      obtain ⟨-, h⟩ := guard_eq_ok.mp h
      exact raiseIf_eq_ok.mp (guard_eq_ok.mp h).1

theorem valid_of_validate (h : record.validate = .ok validated) : validated.Valid := by
  unfold validate at h
  obtain ⟨-, h⟩ := guard_eq_ok.mp h
  obtain ⟨key, hkey, h⟩ := bind_eq_ok.mp h
  obtain ⟨requestFingerprint, hfingerprint, h⟩ := bind_eq_ok.mp h
  obtain ⟨hcheck, h⟩ := guard_eq_ok.mp h
  cases h
  unfold check at hcheck
  obtain ⟨htarget, hcheck⟩ := guard_eq_ok.mp hcheck
  obtain ⟨hcheckpoint, hcheck⟩ := guard_eq_ok.mp hcheck
  obtain ⟨-, hstate⟩ := guard_eq_ok.mp hcheck
  rw [raiseIf_eq_ok] at htarget hcheckpoint
  exact {
    key := ReservationKey.validate_of_ok hkey
    requestFingerprint := requireText_of_ok hfingerprint
    leaseOwner := pyStrip_pyStrip _
    reconciliationKey := pyStrip_pyStrip _
    providerTargetKey := pyStrip_pyStrip _
    providerEffectPhase := pyStrip_pyStrip _
    responseTraceId := pyStrip_pyStrip _
    dated := dated_of_checkState hstate
    target := fun h hnone => htarget ⟨h, hnone⟩
    checkpoint := not_not.mp hcheckpoint
    state := hstate }

end IdempotencyRecord

theorem ReservationRow.isValid (row : ReservationRow) : row.record.Valid :=
  IdempotencyRecord.valid_of_validate row.valid

/-! ### The builders -/

/-- `build_launchplane_mutation_reservation`. -/
def buildMutationReservation (key : ReservationKey) (requestFingerprint leaseOwner : String)
    (leaseExpiresAt reservedAt : Nat) (reconciliationKey providerTargetKey : String) :
    Except String ReservationRow := do
  let key ← key.validate
  IdempotencyRecord.row {
    key
    requestFingerprint
    state := .running
    leaseOwner
    leaseExpiresAt := some leaseExpiresAt
    reconciliationKey
    providerTargetKey
    createdAt := some reservedAt
    updatedAt := some reservedAt }

/-- `complete_launchplane_mutation_reservation`. -/
def completeMutationReservation (reservation : IdempotencyRecord) (responseStatusCode : Nat)
    (responseTraceId : String) (completedAt : Option Nat) (responsePayload : Payload) :
    Except String IdempotencyRecord := do
  raiseIf (reservation.state ≠ .running) "Only running mutation reservations can be completed."
  IdempotencyRecord.validate { reservation with
    state := .completed
    updatedAt := completedAt
    responseStatusCode := some responseStatusCode
    responseTraceId
    recordedAt := completedAt
    responsePayload }

end Launchplane.Mutation
