import Mathlib.Data.Char
import Mathlib.Data.List.Lex
import Mathlib.Order.Lex
import Launchplane.Table
import Launchplane.Outbox.Records
import Launchplane.SelfDeploy.Fence

/-!
# Launchplane.Outbox.Store

**The transactions of the outbox**: the claim of the next delivery, the marker
that a provider was started, and the completion. Each rebuilds the row from what
it finds and from the worker's own copy, and runs as one transaction: an
exception leaves the rows as they were.

Instants are seconds of the database clock.
-/

namespace Launchplane.Outbox

open SelfDeploy (FenceStore Process)

/-- The status of an `OutboxDeliveryCompletionResult`. -/
inductive OutboxCompletionStatus
  | updated | missing | notRunning | ownerMismatch | leaseExpired | notificationStateChanged
  deriving Repr, DecidableEq

/-- The text of a status. -/
def OutboxCompletionStatus.text : OutboxCompletionStatus → String
  | updated => "updated"
  | missing => "missing"
  | notRunning => "not_running"
  | ownerMismatch => "owner_mismatch"
  | leaseExpired => "lease_expired"
  | notificationStateChanged => "notification_state_changed"

/-- The answer of an update: its status, and the row it found or left. -/
structure OutboxCompletion where
  status : OutboxCompletionStatus
  record : Option OutboxDeliveryRow := none

/-- The rows the outbox works on. -/
structure OutboxStore where
  deliveries : Table OutboxDeliveryRow fun row => row.record.deliveryId
  incidents : Table PublicIngressIncidentRecord (·.incidentId)
  attempts : Table NotificationAttemptRecord (·.attemptId)
  /-- The receipt that the backlog of notifications was prepared. -/
  backlogPrepared : Bool := false
  /-- The rows of the service's deployment drain. -/
  drain : FenceStore := {}

namespace OutboxStore

/-- `_sync_outbox_delivery_row`. -/
def sync (store : OutboxStore) (row : OutboxDeliveryRow) : OutboxStore :=
  { store with deliveries := store.deliveries.merge row }

/-! ### The backlog of notifications -/

/-- `PUBLIC_INGRESS_BACKLOG_SUMMARY_DELIVERY_KEY`. -/
def backlogSummaryDeliveryKey : String := "backlog_summary_delivery_id"

/-- A row with the summary that stands for it. -/
def withSummary (row : OutboxDeliveryRow) (summaryDeliveryId : String) : OutboxDeliveryRow where
  record := { row.record with
    payload := row.record.payload.set backlogSummaryDeliveryKey (.string summaryDeliveryId) }
  wellFormed := row.wellFormed.withPayload (rejectSensitiveFields_set (by decide +kernel))

/-- Whether a row belongs to the backlog: its provider was not started. -/
def InBacklog (row : OutboxDeliveryRow) (now : Nat) : Prop :=
  row.record.kind = .publicIngressNotification ∧ row.record.providerOperationKey = "" ∧
    (row.record.state = .pending ∨
      row.record.state = .running ∧ ∀ expiresAt ∈ row.record.leaseExpiresAt, expiresAt < now)

instance (row : OutboxDeliveryRow) (now : Nat) : Decidable (InBacklog row now) :=
  inferInstanceAs (Decidable (_ ∧ _))

/-- The incident, policy and destination of an e-mail; `none` for any other row. -/
def backlogGroup (row : OutboxDeliveryRow) : Option (String × String × String × String) :=
  match payloadField row.record.payload "attempt", payloadField row.record.payload "destination" with
  | .object attempt, .object destination =>
    if (payloadField destination "kind").isText "email" then
      some (row.record.aggregateId, (payloadField attempt "policy_id").text, "email",
        (payloadField destination "destination_id").text)
    else none
  | _, _ => none

/-- The backlog of a group, the oldest first. -/
def backlogRows (store : OutboxStore) (now : Nat) : List OutboxDeliveryRow :=
  sortedBy (fun row => toLex (row.record.createdAt, row.record.deliveryId.toList))
    (store.deliveries.rows.filter fun row => InBacklog row now)

/-- Every row of the backlog that has a group, with the newest delivery of its group. -/
def summaries (rows : List OutboxDeliveryRow) : List OutboxDeliveryRow :=
  rows.filterMap fun row =>
    match backlogGroup row with
    | none => none
    | some group =>
      (rows.reverse.find? fun other => backlogGroup other = some group).map fun newest =>
        withSummary row newest.record.deliveryId

/-- `_prepare_public_ingress_notification_backlog`. -/
def prepareBacklog (store : OutboxStore) (now : Nat) : OutboxStore :=
  if store.backlogPrepared then store
  else
    { store with
      deliveries := (summaries (store.backlogRows now)).foldl (·.merge ·) store.deliveries
      backlogPrepared := true }

/-! ### The claim -/

/-- `a = b` in a query, true: neither side is `NULL`. -/
def SqlEq (a b : Option String) : Prop := a ≠ none ∧ a = b

instance (a b : Option String) : Decidable (SqlEq a b) := inferInstanceAs (Decidable (_ ∧ _))

/-- The rows of `unsettled_failure`, as seen from a row: an earlier notification of the same
incident, policy and destination, of another event than `resolved`. -/
def UnsettledFailure (row predecessor : OutboxDeliveryRow) : Prop :=
  predecessor.record.kind = .publicIngressNotification ∧
    predecessor.record.aggregateType = "public_ingress_incident" ∧
    predecessor.record.aggregateId = row.record.aggregateId ∧
    (predecessor.record.state = .pending ∨ predecessor.record.state = .running ∨
      predecessor.record.state = .reconcileRequired) ∧
    (∃ event ∈ columnText predecessor.record.payload "attempt" "event", event ≠ "resolved") ∧
    SqlEq (columnText predecessor.record.payload "attempt" "policy_id")
      (columnText row.record.payload "attempt" "policy_id") ∧
    SqlEq (columnText predecessor.record.payload "destination" "destination_id")
      (columnText row.record.payload "destination" "destination_id") ∧
    SqlEq (columnText predecessor.record.payload "destination" "kind")
      (columnText row.record.payload "destination" "kind")

instance (row predecessor : OutboxDeliveryRow) : Decidable (UnsettledFailure row predecessor) := by
  unfold UnsettledFailure
  exact inferInstance

/-- `recovery_notification` in the three values of a query. -/
def recoveryNotification (row : OutboxDeliveryRow) : Option Bool :=
  if row.record.kind = .publicIngressNotification ∧
      row.record.aggregateType = "public_ingress_incident" then
    (columnText row.record.payload "attempt" "event").map (· = "resolved")
  else some false

/-- The rows of the claim's query. -/
def Claimable (store : OutboxStore) (process : Process) (now : Nat) (row : OutboxDeliveryRow) :
    Prop :=
  (recoveryNotification row = some false ∨
      ¬ ∃ predecessor ∈ store.deliveries.rows, UnsettledFailure row predecessor) ∧
    (row.record.state = .pending ∨ row.record.state = .running ∨
      row.record.state = .reconcileRequired) ∧
    row.record.nextAttemptAt ≤ now ∧
    (row.record.state = .pending ∨ row.record.state = .reconcileRequired ∨
      ∀ expiresAt ∈ row.record.leaseExpiresAt, expiresAt < now) ∧
    (store.drain.admissionAllowed process now = true ∨
      row.record.kind ≠ .githubWorkflowDispatch ∨ row.record.providerOperationKey ≠ "")

instance (store : OutboxStore) (process : Process) (now : Nat) (row : OutboxDeliveryRow) :
    Decidable (store.Claimable process now row) := by
  unfold Claimable
  exact inferInstance

/-- The first row of the query that no other transaction has locked. -/
def nextClaimable (store : OutboxStore) (process : Process) (now : Nat) (locked : List String) :
    Option OutboxDeliveryRow :=
  (sortedBy
      (fun row => toLex (row.record.nextAttemptAt,
        toLex (row.record.createdAt, row.record.deliveryId.toList)))
      store.deliveries.rows).find? fun row =>
    store.Claimable process now row ∧ row.record.deliveryId ∉ locked

/-- A row whose lease ran out after its provider was started is to be reconciled. -/
def reconcileExpired (row : OutboxDeliveryRow) (now : Nat) : Except OutboxError OutboxDeliveryRow :=
  if row.record.state = .running ∧ row.record.providerOperationKey ≠ "" then
    OutboxDeliveryRow.build
      { row.record with
        state := .reconcileRequired
        leaseOwner := ""
        leaseExpiresAt := none
        updatedAt := now
        nextAttemptAt := now
        errorCode := "lease_expired_after_provider_marker" }
  else .ok row

/-- `claim_next_outbox_delivery_record`: the claimed row, or `none` for the status `empty`. -/
def claimNext (store : OutboxStore) (process : Process) (now : Nat) (locked : List String)
    (leaseOwner : String) (leaseSeconds : Int) :
    Except OutboxError (Option OutboxDeliveryRow × OutboxStore) := do
  raiseIf (pyStrip leaseOwner = "") (.value "Outbox delivery claim requires lease_owner.")
  let store := store.prepareBacklog now
  raiseIf (leaseSeconds < 1 ∨ 86400 < leaseSeconds)
    (.value "Mutation reservation lease_seconds must be between 1 and 86400.")
  match store.nextClaimable process now locked with
  | none => return (none, store)
  | some row =>
    let record ← reconcileExpired row now
    if record.record.maxAttempts ≤ record.record.attempt then
      let failed ← OutboxDeliveryRow.build
        { record.record with
          state := .failed
          leaseOwner := ""
          leaseExpiresAt := none
          updatedAt := now
          nextAttemptAt := now
          errorCode := "max_attempts_exhausted" }
      return (none, store.sync failed)
    else
      let claimed ← OutboxDeliveryRow.build
        { record.record with
          state := .running
          updatedAt := now
          leaseOwner := pyStrip leaseOwner
          leaseExpiresAt := some (now + leaseSeconds.toNat)
          attempt := record.record.attempt + 1
          errorCode := "" }
      return (some claimed, store.sync claimed)

/-! ### The marker and the completion -/

/-- The row an update is about, or the status that refuses it. -/
def runningRow (store : OutboxStore) (now : Nat) (deliveryId leaseOwner : String) :
    Except OutboxCompletionStatus OutboxDeliveryRow :=
  match store.deliveries.get deliveryId with
  | none => .error .missing
  | some row => do
    raiseIf (row.record.state ≠ .running) .notRunning
    raiseIf (row.record.leaseOwner ≠ leaseOwner) .ownerMismatch
    raiseIf (∀ expiresAt ∈ row.record.leaseExpiresAt, expiresAt ≤ now) .leaseExpired
    return row

/-- Whether a Discord message of a delivery may speak of an incident. -/
def ActiveState (record : OutboxDeliveryRecord) (incident : PublicIngressIncidentRecord) : Prop :=
  incident.notificationState = .active ∧ incident.status = .open ∨
    record.aggregateType = "public_ingress_incident" ∧
      match payloadField record.payload "attempt" with
      | .object attempt => IsMatchingIncidentResolution incident attempt
      | _ => False

instance (record : OutboxDeliveryRecord) (incident : PublicIngressIncidentRecord) :
    Decidable (ActiveState record incident) := by
  unfold ActiveState
  split <;> exact inferInstance

/-- `[incident_id, material_fingerprint_sha256]` of an incident. -/
def IsStateOf (value : JsonValue) (incident : PublicIngressIncidentRecord) : Prop :=
  match value with
  | .array [incidentId, fingerprint] =>
    incidentId.isText incident.incidentId ∧ fingerprint.isText incident.materialFingerprintSha256
  | _ => False

instance (value : JsonValue) (incident : PublicIngressIncidentRecord) :
    Decidable (IsStateOf value incident) := by
  unfold IsStateOf
  split <;> exact inferInstance

/-- The check that a Discord message still says what is so. -/
def discordAdmitted (store : OutboxStore) (record : OutboxDeliveryRecord) :
    Except OutboxError Bool := do
  let states ← match payloadField record.payload "incident_states" with
    | .array (state :: rest) => .ok (state :: rest)
    | _ => .error (.value "Discord admission requires rendered incident states.")
  let ids ← states.mapM fun state => match state with
    | .array (id :: _) => .ok id
    | _ => .error (.other "list index out of range")
  let current := store.incidents.rows.filter fun incident => ids.any (·.isText incident.incidentId)
  let eventId := (payloadField record.payload "attempt").field "incident_event_id"
  let staleEvent := record.aggregateType = "public_ingress_incident" ∧
    ∃ incident ∈ current,
      (incident.latestMaterialEvent = some .opened ∨ incident.latestMaterialEvent = some .updated) ∧
        ¬ eventId.isText incident.latestMaterialEventId
  return !decide staleEvent &&
    states.all fun state => ∃ incident ∈ current, ActiveState record incident ∧ IsStateOf state incident

/-- Whether a provider may be started: only a Discord notification is checked again. -/
def admitted (store : OutboxStore) (record : OutboxDeliveryRecord) (providerId : String) :
    Except OutboxError Bool :=
  if pyStrip providerId = "discord" ∧ record.kind = .publicIngressNotification then
    store.discordAdmitted record
  else .ok true

/-- `mark_outbox_delivery_provider_started`. -/
def markProviderStarted (store : OutboxStore) (now : Nat) (record : OutboxDeliveryRecord)
    (leaseOwner providerOperationKey providerId : String) :
    Except OutboxError (OutboxCompletion × OutboxStore) := do
  raiseIf (pyStrip providerOperationKey = "")
    (.value "Outbox provider start requires provider_operation_key.")
  raiseIf (pyStrip leaseOwner = "") (.value "Outbox delivery update requires lease_owner.")
  match store.runningRow now record.deliveryId (pyStrip leaseOwner) with
  | .error status => return (⟨status, store.deliveries.get record.deliveryId⟩, store)
  | .ok current =>
    let admitted ← store.admitted record providerId
    if admitted = false then
      return (⟨.notificationStateChanged, some current⟩, store)
    else
      let updated ← OutboxDeliveryRow.build
        { current.record with
          providerOperationKey := pyStrip providerOperationKey
          providerId := pyStrip providerId
          payload := record.payload
          updatedAt := now
          state := .running
          leaseOwner := pyStrip leaseOwner
          leaseExpiresAt := current.record.leaseExpiresAt }
      return (⟨.updated, some updated⟩, store.sync updated)

/-- The seconds until a delivery is tried again. -/
def retrySeconds (attempt : Nat) : Nat := min 300 (5 * 2 ^ min (attempt - 1) 6)

/-- The attempt a completed notification leaves behind. -/
def attemptResult (record : OutboxDeliveryRecord) :
    Except OutboxError (Option NotificationAttemptRecord) :=
  if record.kind = .publicIngressNotification then
    match payloadField record.payload "attempt_result" with
    | .object payload => do
      let attempt ← validateAttempt payload
      return some attempt
    | _ => .ok none
  else .ok none

/-- `complete_outbox_delivery_record`. -/
def completeDelivery (store : OutboxStore) (now : Nat) (record : OutboxDeliveryRecord)
    (leaseOwner : String) : Except OutboxError (OutboxCompletion × OutboxStore) := do
  raiseIf (pyStrip leaseOwner = "") (.value "Outbox delivery update requires lease_owner.")
  match store.runningRow now record.deliveryId (pyStrip leaseOwner) with
  | .error status => return (⟨status, store.deliveries.get record.deliveryId⟩, store)
  | .ok current =>
    let updated ← OutboxDeliveryRow.build
      { record with
        leaseOwner := ""
        leaseExpiresAt := none
        nextAttemptAt :=
          if record.state = .pending ∨ record.state = .reconcileRequired then
            now + retrySeconds current.record.attempt
          else record.nextAttemptAt }
    let attempt ← attemptResult updated.record
    let attempts := match attempt with
      | none => store.attempts
      | some attempt => store.attempts.merge attempt
    return (⟨.updated, some updated⟩, { store with attempts }.sync updated)

/-! ### What a transaction does -/

@[simp] theorem mem_sync {store : OutboxStore} {row other : OutboxDeliveryRow} :
    other ∈ (store.sync row).deliveries.rows ↔
      other ∈ store.deliveries.rows ∧ other.record.deliveryId ≠ row.record.deliveryId ∨
        other = row :=
  Table.mem_merge

/-- Two versions of the row of one delivery. -/
structure SameDelivery (row row' : OutboxDeliveryRow) : Prop where
  id : row'.record.deliveryId = row.record.deliveryId
  kind : row'.record.kind = row.record.kind
  maxAttempts : row'.record.maxAttempts = row.record.maxAttempts

theorem SameDelivery.refl (row : OutboxDeliveryRow) : SameDelivery row row := ⟨rfl, rfl, rfl⟩

theorem SameDelivery.trans {row row' row'' : OutboxDeliveryRow} (h : SameDelivery row row')
    (h' : SameDelivery row' row'') : SameDelivery row row'' :=
  ⟨h'.id.trans h.id, h'.kind.trans h.kind, h'.maxAttempts.trans h.maxAttempts⟩

/-! The preparation of the backlog writes into payloads, and into no row that has ended. -/

/-- A row before and after the preparation. -/
def Prepared (row row' : OutboxDeliveryRow) : Prop :=
  row' = row ∨ ¬ row.record.state.Terminal ∧
    ∃ payload, row'.record = { row.record with payload }

/-- The rows of a table, each perhaps prepared. -/
structure PreparedRows (before after : List OutboxDeliveryRow) : Prop where
  of_after : ∀ row' ∈ after, ∃ row ∈ before, Prepared row row'
  of_before : ∀ row ∈ before, ∃ row' ∈ after, Prepared row row'

theorem Prepared.same {row row' : OutboxDeliveryRow} (h : Prepared row row') :
    SameDelivery row row' := by
  rcases h with rfl | ⟨-, payload, heq⟩
  · exact .refl _
  · exact ⟨by rw [heq], by rw [heq], by rw [heq]⟩

theorem prepared_of_mem_summaries {store : OutboxStore} {now : Nat} {row' : OutboxDeliveryRow}
    (h : row' ∈ summaries (store.backlogRows now)) :
    ∃ row ∈ store.deliveries.rows, Prepared row row' := by
  obtain ⟨row, hrow, hsummary⟩ := List.mem_filterMap.mp h
  simp only [backlogRows, mem_sortedBy, List.mem_filter, decide_eq_true_eq] at hrow
  obtain ⟨hmem, -, -, hstate⟩ := hrow
  refine ⟨row, hmem, .inr ⟨?_, ?_⟩⟩
  · rcases hstate with hstate | ⟨hstate, -⟩ <;> simp [OutboxDeliveryState.Terminal, hstate]
  · split at hsummary
    · cases hsummary
    · obtain ⟨newest, -, rfl⟩ := Option.map_eq_some_iff.mp hsummary
      exact ⟨_, rfl⟩

theorem preparedRows_prepareBacklog (store : OutboxStore) (now : Nat) :
    PreparedRows store.deliveries.rows (store.prepareBacklog now).deliveries.rows := by
  have hrefl : PreparedRows store.deliveries.rows store.deliveries.rows :=
    ⟨fun row h => ⟨row, h, .inl rfl⟩, fun row h => ⟨row, h, .inl rfl⟩⟩
  unfold prepareBacklog
  split
  · exact hrefl
  · -- by induction on the summaries that are written
    have hwrite : ∀ (written : List OutboxDeliveryRow)
        (t : Table OutboxDeliveryRow fun row => row.record.deliveryId),
        (∀ row' ∈ written, ∃ row ∈ store.deliveries.rows, Prepared row row') →
        PreparedRows store.deliveries.rows t.rows →
        PreparedRows store.deliveries.rows (written.foldl (·.merge ·) t).rows := by
      intro written
      induction written with
      | nil => exact fun _ _ ht => ht
      | cons summary rest ih =>
          intro t hwritten ht
          obtain ⟨original, horiginal, hprepared⟩ := hwritten summary List.mem_cons_self
          refine ih _ (fun row' h => hwritten row' (List.mem_cons_of_mem _ h)) ⟨?_, ?_⟩
          · intro row' hrow'
            rcases Table.mem_merge.mp hrow' with ⟨hold, -⟩ | rfl
            · exact ht.of_after row' hold
            · exact ⟨original, horiginal, hprepared⟩
          · intro row hrow
            obtain ⟨row', hrow', hprep⟩ := ht.of_before row hrow
            by_cases hid : row'.record.deliveryId = summary.record.deliveryId
            · have hsame : row = original := store.deliveries.eq_of_key_eq hrow horiginal
                (hprep.same.id.symm.trans (hid.trans hprepared.same.id))
              exact ⟨summary, Table.mem_merge.mpr (.inr rfl), hsame ▸ hprepared⟩
            · exact ⟨row', Table.mem_merge.mpr (.inl ⟨hrow', hid⟩), hprep⟩
    exact hwrite _ _ (fun row' h => prepared_of_mem_summaries h) hrefl

/-- Two versions of a row that are about the same thing. -/
structure SameSubject (row row' : OutboxDeliveryRow) : Prop extends SameDelivery row row' where
  aggregateType : row'.record.aggregateType = row.record.aggregateType
  aggregateId : row'.record.aggregateId = row.record.aggregateId
  payload : row'.record.payload = row.record.payload

theorem SameSubject.refl (row : OutboxDeliveryRow) : SameSubject row row :=
  ⟨.refl row, rfl, rfl, rfl⟩

theorem SameSubject.trans {row row' row'' : OutboxDeliveryRow} (h : SameSubject row row')
    (h' : SameSubject row' row'') : SameSubject row row'' :=
  ⟨h.toSameDelivery.trans h'.toSameDelivery, h'.aggregateType.trans h.aggregateType,
    h'.aggregateId.trans h.aggregateId, h'.payload.trans h.payload⟩

/-- A row that was rebuilt, with none of these fields changed. -/
theorem sameSubject_of_build {row row' : OutboxDeliveryRow} {record : OutboxDeliveryRecord}
    (h : OutboxDeliveryRow.build record = .ok row')
    (hid : record.deliveryId = row.record.deliveryId) (hkind : record.kind = row.record.kind)
    (hmax : record.maxAttempts = row.record.maxAttempts)
    (htype : record.aggregateType = row.record.aggregateType)
    (haggregate : record.aggregateId = row.record.aggregateId)
    (hpayload : record.payload = row.record.payload) : SameSubject row row' := by
  have hrow := OutboxDeliveryRow.build_eq_ok h
  have htype' := congrArg OutboxDeliveryRecord.aggregateType row.stripped_record
  have haggregate' := congrArg OutboxDeliveryRecord.aggregateId row.stripped_record
  constructor
  · constructor
    · rw [hrow]
      show pyStrip record.deliveryId = _
      rw [hid, row.pyStrip_deliveryId]
    · rw [hrow]
      exact hkind
    · rw [hrow]
      exact hmax
  · rw [hrow]
    show pyStrip record.aggregateType = _
    rw [htype]
    exact htype'
  · rw [hrow]
    show pyStrip record.aggregateId = _
    rw [haggregate]
    exact haggregate'
  · rw [hrow]
    exact hpayload

/-- The row a claim leaves: leased to its worker, one attempt on. -/
structure Claimed (row claimed : OutboxDeliveryRow) (leaseOwner : String) (expiresAt : Nat) :
    Prop extends SameSubject row claimed where
  running : claimed.record.state = .running
  owner : claimed.record.leaseOwner = leaseOwner
  lease : claimed.record.leaseExpiresAt = some expiresAt
  attempt : claimed.record.attempt = row.record.attempt + 1
  bound : row.record.attempt < row.record.maxAttempts
  key : claimed.record.providerOperationKey = row.record.providerOperationKey

/-- The row of a delivery whose attempts are used up. -/
structure Exhausted (row failed : OutboxDeliveryRow) : Prop extends SameDelivery row failed where
  state : failed.record.state = .failed
  attempt : failed.record.attempt = row.record.attempt

theorem reconcileExpired_eq_ok {row record : OutboxDeliveryRow} {now : Nat}
    (h : reconcileExpired row now = .ok record) :
    SameSubject row record ∧ record.record.attempt = row.record.attempt ∧
      record.record.providerOperationKey = row.record.providerOperationKey := by
  unfold reconcileExpired at h
  split at h
  · have hrecord := OutboxDeliveryRow.build_eq_ok h
    refine ⟨sameSubject_of_build h rfl rfl rfl rfl rfl rfl, ?_, ?_⟩ <;> rw [hrecord]
    · rfl
    · exact row.pyStrip_providerOperationKey
  · obtain rfl := Except.ok.inj h
    exact ⟨.refl _, rfl, rfl⟩

theorem nextClaimable_eq_some {store : OutboxStore} {process : Process} {now : Nat}
    {locked : List String} {row : OutboxDeliveryRow}
    (h : store.nextClaimable process now locked = some row) :
    row ∈ store.deliveries.rows ∧ store.Claimable process now row := by
  have hmem := List.mem_of_find?_eq_some h
  have hrow := List.find?_some h
  simp only [decide_eq_true_eq] at hrow
  exact ⟨(mem_sortedBy _).mp hmem, hrow.1⟩

/-- What a claim can do, with what it found. -/
inductive ClaimEffect (store : OutboxStore) (process : Process) (now : Nat) (leaseOwner : String) :
    Option OutboxDeliveryRow → OutboxStore → Prop
  | empty : ClaimEffect store process now leaseOwner none store
  | exhausted {row failed : OutboxDeliveryRow} (hmem : row ∈ store.deliveries.rows)
      (hclaimable : store.Claimable process now row) (hfailed : Exhausted row failed) :
      ClaimEffect store process now leaseOwner none (store.sync failed)
  | claimed {row claimed : OutboxDeliveryRow} {expiresAt : Nat}
      (hmem : row ∈ store.deliveries.rows) (hclaimable : store.Claimable process now row)
      (hexpires : now < expiresAt) (hclaimed : Claimed row claimed leaseOwner expiresAt) :
      ClaimEffect store process now leaseOwner (some claimed) (store.sync claimed)

theorem claimNext_cases {store store' : OutboxStore} {process : Process} {now : Nat}
    {locked : List String} {leaseOwner : String} {leaseSeconds : Int}
    {answer : Option OutboxDeliveryRow}
    (h : store.claimNext process now locked leaseOwner leaseSeconds = .ok (answer, store')) :
    ClaimEffect (store.prepareBacklog now) process now (pyStrip leaseOwner) answer store' := by
  unfold claimNext at h
  simp only [guard_eq_ok, raiseIf_eq_ok] at h
  obtain ⟨-, hseconds, h⟩ := h
  split at h
  · obtain ⟨rfl, rfl⟩ := Prod.mk.inj (Except.ok.inj h)
    exact .empty
  · rename_i row hnext
    obtain ⟨hmem, hclaimable⟩ := nextClaimable_eq_some hnext
    obtain ⟨record, hrecord, h⟩ := bind_eq_ok.mp h
    obtain ⟨hsame, hattempt, hkey⟩ := reconcileExpired_eq_ok hrecord
    split at h
    · obtain ⟨failed, hbuild, h⟩ := bind_eq_ok.mp h
      obtain ⟨rfl, rfl⟩ := Prod.mk.inj (Except.ok.inj h)
      have hfailed := OutboxDeliveryRow.build_eq_ok hbuild
      have hsubject := hsame.trans (sameSubject_of_build hbuild rfl rfl rfl rfl rfl rfl)
      refine .exhausted hmem hclaimable ⟨hsubject.toSameDelivery, ?_, ?_⟩ <;> rw [hfailed]
      · rfl
      · exact hattempt
    · rename_i hbound
      obtain ⟨claimed, hbuild, h⟩ := bind_eq_ok.mp h
      obtain ⟨rfl, rfl⟩ := Prod.mk.inj (Except.ok.inj h)
      have hclaimed := OutboxDeliveryRow.build_eq_ok hbuild
      have hexpires : now < now + leaseSeconds.toNat := by omega
      have hsubject := hsame.trans (sameSubject_of_build hbuild rfl rfl rfl rfl rfl rfl)
      refine .claimed hmem hclaimable hexpires ⟨hsubject, ?_, ?_, ?_, ?_, ?_, ?_⟩
      · rw [hclaimed]
        rfl
      · rw [hclaimed]
        exact pyStrip_pyStrip _
      · rw [hclaimed]
        rfl
      · rw [hclaimed, ← hattempt]
        rfl
      · rw [← hattempt, ← hsame.maxAttempts]
        omega
      · rw [hclaimed, ← hkey]
        exact record.pyStrip_providerOperationKey

theorem runningRow_ne_updated {store : OutboxStore} {now : Nat} {deliveryId leaseOwner : String} :
    store.runningRow now deliveryId leaseOwner ≠ .error .updated := by
  unfold runningRow raiseIf
  split
  · simp
  · split
    · intro h
      cases h
    · split
      · intro h
        cases h
      · split <;> intro h <;> cases h

/-- The row of a worker that may still write: it is running under the worker's lease, which has not
run out. -/
structure LeasedTo (store : OutboxStore) (now : Nat) (deliveryId leaseOwner : String)
    (row : OutboxDeliveryRow) : Prop where
  mem : row ∈ store.deliveries.rows
  id : row.record.deliveryId = deliveryId
  running : row.record.state = .running
  owner : row.record.leaseOwner = leaseOwner
  live : ∃ expiresAt, row.record.leaseExpiresAt = some expiresAt ∧ now < expiresAt

theorem runningRow_eq_ok {store : OutboxStore} {now : Nat} {deliveryId leaseOwner : String}
    {row : OutboxDeliveryRow} (h : store.runningRow now deliveryId leaseOwner = .ok row) :
    store.LeasedTo now deliveryId leaseOwner row := by
  unfold runningRow at h
  split at h
  · cases h
  · rename_i found hget
    simp only [guard_eq_ok, raiseIf_eq_ok, not_not] at h
    obtain ⟨hstate, howner, hlive, heq⟩ := h
    obtain rfl := Except.ok.inj heq
    obtain ⟨hmem, hid⟩ := Table.get_eq_some.mp hget
    obtain ⟨expiresAt, hexpires⟩ := found.running_iff.mp hstate
    refine ⟨hmem, hid, hstate, howner, expiresAt, hexpires, ?_⟩
    simpa [hexpires] using hlive

/-- The row a stored marker leaves. -/
structure Marked (current row : OutboxDeliveryRow) : Prop extends SameDelivery current row where
  running : row.record.state = .running
  owner : row.record.leaseOwner = current.record.leaseOwner
  lease : row.record.leaseExpiresAt = current.record.leaseExpiresAt
  attempt : row.record.attempt = current.record.attempt
  key : row.record.providerOperationKey ≠ ""

theorem markProviderStarted_cases {store store' : OutboxStore} {now : Nat}
    {record : OutboxDeliveryRecord} {leaseOwner key providerId : String} {answer : OutboxCompletion}
    (h : store.markProviderStarted now record leaseOwner key providerId = .ok (answer, store')) :
    answer.status ≠ .updated ∧ store' = store ∨
      ∃ current row, store.LeasedTo now record.deliveryId (pyStrip leaseOwner) current ∧
        Marked current row ∧ answer = ⟨.updated, some row⟩ ∧ store' = store.sync row := by
  unfold markProviderStarted at h
  simp only [guard_eq_ok, raiseIf_eq_ok] at h
  obtain ⟨hkey, -, h⟩ := h
  split at h
  · rename_i status hstatus
    obtain ⟨rfl, rfl⟩ := Prod.mk.inj (Except.ok.inj h)
    refine .inl ⟨?_, rfl⟩
    rintro rfl
    exact runningRow_ne_updated hstatus
  · rename_i current hcurrent
    obtain ⟨admitted, -, h⟩ := bind_eq_ok.mp h
    split at h
    · obtain ⟨rfl, rfl⟩ := Prod.mk.inj (Except.ok.inj h)
      exact .inl ⟨by simp, rfl⟩
    · obtain ⟨row, hbuild, h⟩ := bind_eq_ok.mp h
      obtain ⟨rfl, rfl⟩ := Prod.mk.inj (Except.ok.inj h)
      have hleased := runningRow_eq_ok hcurrent
      have hrow := OutboxDeliveryRow.build_eq_ok hbuild
      refine .inr ⟨current, row, hleased, ?_, rfl, rfl⟩
      constructor
      · constructor <;> rw [hrow]
        · exact current.pyStrip_deliveryId
        · rfl
        · rfl
      · rw [hrow]
        rfl
      · rw [hrow, hleased.owner]
        exact pyStrip_pyStrip _
      · rw [hrow]
        rfl
      · rw [hrow]
        rfl
      · rw [hrow]
        simpa only [OutboxDeliveryRecord.stripped, pyStrip_pyStrip] using hkey

/-- The row a completion leaves. -/
structure Completed (record : OutboxDeliveryRecord) (row : OutboxDeliveryRow) : Prop where
  id : row.record.deliveryId = pyStrip record.deliveryId
  kind : row.record.kind = record.kind
  state : row.record.state = record.state
  attempt : row.record.attempt = record.attempt
  maxAttempts : row.record.maxAttempts = record.maxAttempts
  key : row.record.providerOperationKey = pyStrip record.providerOperationKey
  owner : row.record.leaseOwner = ""
  released : row.record.leaseExpiresAt = none

theorem completeDelivery_cases {store store' : OutboxStore} {now : Nat}
    {record : OutboxDeliveryRecord} {leaseOwner : String} {answer : OutboxCompletion}
    (h : store.completeDelivery now record leaseOwner = .ok (answer, store')) :
    answer.status ≠ .updated ∧ store' = store ∨
      ∃ current row attempts, store.LeasedTo now record.deliveryId (pyStrip leaseOwner) current ∧
        Completed record row ∧ answer = ⟨.updated, some row⟩ ∧
        store' = { store with attempts }.sync row := by
  unfold completeDelivery at h
  simp only [guard_eq_ok, raiseIf_eq_ok] at h
  obtain ⟨-, h⟩ := h
  split at h
  · rename_i status hstatus
    obtain ⟨rfl, rfl⟩ := Prod.mk.inj (Except.ok.inj h)
    refine .inl ⟨?_, rfl⟩
    rintro rfl
    exact runningRow_ne_updated hstatus
  · rename_i current hcurrent
    obtain ⟨row, hbuild, h⟩ := bind_eq_ok.mp h
    obtain ⟨attempt, -, h⟩ := bind_eq_ok.mp h
    obtain ⟨rfl, rfl⟩ := Prod.mk.inj (Except.ok.inj h)
    have hrow := OutboxDeliveryRow.build_eq_ok hbuild
    refine .inr ⟨current, row, _, runningRow_eq_ok hcurrent, ?_, rfl, rfl⟩
    constructor <;> rw [hrow] <;> rfl

/-! ### Rows that have ended, and failures that have not -/

/-- A row that has ended is in the store. -/
def Ended (store : OutboxStore) (row : OutboxDeliveryRow) : Prop :=
  row ∈ store.deliveries.rows ∧ row.record.state.Terminal

theorem Ended.sync {store : OutboxStore} {row old new : OutboxDeliveryRow} (h : store.Ended row)
    (hold : old ∈ store.deliveries.rows) (hlive : ¬ old.record.state.Terminal)
    (hid : new.record.deliveryId = old.record.deliveryId) : (store.sync new).Ended row := by
  refine ⟨mem_sync.mpr (.inl ⟨h.1, fun heq => hlive ?_⟩), h.2⟩
  obtain rfl := store.deliveries.eq_of_key_eq h.1 hold (heq.trans hid)
  exact h.2

theorem Ended.prepareBacklog {store : OutboxStore} {row : OutboxDeliveryRow} (h : store.Ended row)
    (now : Nat) : (store.prepareBacklog now).Ended row := by
  obtain ⟨row', hrow', heq | ⟨hlive, -⟩⟩ := (preparedRows_prepareBacklog store now).of_before row h.1
  · exact ⟨heq ▸ hrow', h.2⟩
  · exact absurd h.2 hlive

/-- Of a claimed notification of a resolution, nothing it waits for is left. -/
theorem Claimed.settled {row claimed : OutboxDeliveryRow} {leaseOwner : String} {expiresAt : Nat}
    (h : Claimed row claimed leaseOwner expiresAt) {store : OutboxStore} {process : Process}
    {now : Nat} (hclaimable : store.Claimable process now row)
    (hresolved : recoveryNotification claimed = some true) :
    ∀ predecessor ∈ (store.sync claimed).deliveries.rows,
      ¬ UnsettledFailure claimed predecessor := by
  have hsame : recoveryNotification claimed = recoveryNotification row := by
    simp only [recoveryNotification, h.kind, h.aggregateType, h.payload]
  intro predecessor hmem hunsettled
  rcases mem_sync.mp hmem with ⟨hold, -⟩ | rfl
  · rcases hclaimable.1 with hfalse | hnone
    · rw [hsame, hfalse] at hresolved
      cases hresolved
    · refine hnone ⟨predecessor, hold, ?_⟩
      simpa only [UnsettledFailure, h.aggregateId, h.payload] using hunsettled
  · -- a notification of a resolution is not a failure itself
    obtain ⟨-, -, -, -, ⟨event, hevent, hne⟩, -⟩ := hunsettled
    unfold recoveryNotification at hresolved
    split at hresolved
    · rw [Option.mem_def.mp hevent] at hresolved
      simp [hne] at hresolved
    · cases hresolved

/-- A row that may be claimed has not ended, and its lease, if it has one, has run out. -/
theorem Claimable.free {store : OutboxStore} {process : Process} {now : Nat}
    {row : OutboxDeliveryRow} (h : store.Claimable process now row) :
    ¬ row.record.state.Terminal ∧
      (row.record.state = .running → ∀ expiresAt ∈ row.record.leaseExpiresAt, expiresAt < now) := by
  obtain ⟨-, hstate, -, hlease, -⟩ := h
  constructor
  · rcases hstate with hstate | hstate | hstate <;> simp [OutboxDeliveryState.Terminal, hstate]
  · intro hrunning
    rcases hlease with hpending | hreconcile | hexpired
    · rw [hrunning] at hpending
      cases hpending
    · rw [hrunning] at hreconcile
      cases hreconcile
    · exact hexpired

end OutboxStore

end Launchplane.Outbox
