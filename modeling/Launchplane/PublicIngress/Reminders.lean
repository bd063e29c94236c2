import Launchplane.PublicIngress.Records
import Mathlib.Logic.Equiv.List

/-!
# Launchplane.PublicIngress.Reminders

**The reminders of an open incident whose failure stays the same.** Time since the
material event is cut into windows by each notification policy's interval, and a
reminder is due once a window has begun. What was reminded of last is a counter in
the policy's reminder state, which starts again whenever the interval is another;
the id of the reminder is a digest of the window and is kept for good.
-/

namespace Launchplane.PublicIngress

/-- An instant, in microseconds. -/
abbrev Instant := ℤ

/-- `_format_utc_timestamp`, which drops the microseconds. -/
def formatUtcTimestamp (t : Instant) : Instant := t / 1000000 * 1000000

/-- The text of the instant some seconds after another. -/
def secondsAfter (t : Instant) (seconds : Nat) : Instant :=
  formatUtcTimestamp (t + seconds * 1000000)

theorem secondsAfter_inj {t : Instant} {a b : Nat} : secondsAfter t a = secondsAfter t b ↔ a = b := by
  have hdiv (n : Nat) : (t + n * 1000000) / 1000000 = t / 1000000 + n :=
    Int.add_mul_ediv_right _ _ (by decide)
  rw [secondsAfter, secondsAfter, formatUtcTimestamp, formatUtcTimestamp, hdiv, hdiv,
    Int.mul_eq_mul_right_iff (by decide), Int.add_right_inj, Int.natCast_inj]

/-! ### Records -/

/-- `PublicIngressIncidentReminderStatus`. -/
inductive ReminderStatus
  | active | suppressed | policyInactive | resolved
  deriving Repr, DecidableEq

/-- `PublicIngressIncidentReminderStateRecord`. The id of its row is a digest of its incident and its
policy. -/
structure ReminderState where
  incidentId : String
  policyId : String
  status : ReminderStatus := .active
  materialEventId : String
  intervalSeconds : Nat
  windowAnchorAt : Instant
  lastWindowIndex : Nat := 0
  lastReminderEventId : String := ""
  lastRemindedAt : Option Instant := none
  nextReminderAt : Option Instant := none
  updatedAt : Instant
  deriving Repr, DecidableEq

/-- `PublicIngressIncidentEventRecord`, with what a reminder has besides. -/
structure ReminderEventRecord where
  eventId : String
  incidentId : String
  event : EventKind
  reason : EventReason
  occurredAt : Instant
  observationId : String
  materialFingerprintSha256 : String
  previousMaterialFingerprintSha256 : String := ""
  severity : Severity
  policyId : String := ""
  reminderWindowIndex : Option Nat := none
  reminderWindowStartedAt : Option Instant := none
  reminderWindowEndedAt : Option Instant := none
  deliveryEligible : Bool := true
  suppressionReason : Option SuppressionReason := none
  summary : String
  deriving Repr, DecidableEq

/-- `PUBLIC_INGRESS_MIN_REMINDER_INTERVAL_SECONDS`. -/
def minReminderIntervalSeconds : Nat := 15 * 60

/-- `PUBLIC_INGRESS_MAX_REMINDER_INTERVAL_SECONDS`. -/
def maxReminderIntervalSeconds : Nat := 7 * 24 * 60 * 60

/-- `PublicIngressNotificationPolicyRecord`, as far as reminders read it. -/
structure NotificationPolicy where
  policyId : String
  reminderIntervalSeconds : Nat
  isText : IsText policyId
  least : minReminderIntervalSeconds ≤ reminderIntervalSeconds
  greatest : reminderIntervalSeconds ≤ maxReminderIntervalSeconds

/-- What of an open incident stays as it is while its failure does. -/
structure MaterialState where
  incidentId : String
  materialFingerprintSha256 : String
  latestMaterialEventId : String
  latestMaterialEventAt : Instant
  deriving Repr, DecidableEq

/-- A failing observation, with what else it finds: the incident's notification state, and the
notification policies that are enabled and match. -/
structure Visit where
  recordId : String
  observedAt : Instant
  severity : Severity := .critical
  notificationState : NotificationState := .active
  summary : String := ""
  policies : List NotificationPolicy
  distinct : (policies.map (·.policyId)).Nodup

/-! ### The ids of reminders -/

/-- What the id of an incident event is a digest of. -/
structure ReminderIdentity where
  incidentId : String
  event : EventKind
  materialFingerprintSha256 : String
  previousEventId : String
  policyId : String
  reminderWindowIndex : Option Nat
  reminderWindowStartedAt : Option Instant
  deriving Repr, DecidableEq

/-- The first twenty digits of the SHA-256 of the canonical JSON of an identity, of which no two are
the same. -/
structure EventDigest where
  table : UnicodeTable
  digest : ReminderIdentity → String
  token : ∀ identity, recordToken table (digest identity) = (digest identity).toList
  ne_empty : ∀ identity, digest identity ≠ ""
  injective : Function.Injective digest

variable (D : EventDigest)

/-- `build_public_ingress_incident_event_id`. -/
def buildEventId (identity : ReminderIdentity) : String :=
  joinTokens D.table ["public-ingress-event", identity.incidentId, identity.event.text, D.digest
    { identity with
      incidentId := pyStrip identity.incidentId
      materialFingerprintSha256 := pyLower (pyStrip identity.materialFingerprintSha256)
      previousEventId := pyStrip identity.previousEventId
      policyId := pyStrip identity.policyId }]

variable (m : MaterialState)

/-- What the reminder of a policy's window is known by. -/
def MaterialState.reminder (policyId : String) (windowIndex : Nat) (startedAt : Instant) :
    ReminderIdentity :=
  { incidentId := m.incidentId
    event := .reminder
    materialFingerprintSha256 := m.materialFingerprintSha256
    previousEventId := m.latestMaterialEventId
    policyId
    reminderWindowIndex := some windowIndex
    reminderWindowStartedAt := some startedAt }

/-- The last of the joined words is read back. -/
theorem exists_joinDash_append (words : List (List Char)) :
    ∃ start, ∀ word, Secrets.joinDash (words ++ [word]) = start ++ word := by
  induction words with
  | nil => exact ⟨[], fun word => by simp [Secrets.joinDash]⟩
  | cons first rest ih =>
    obtain ⟨start, hstart⟩ := ih
    refine ⟨first ++ '-' :: start, fun word => ?_⟩
    rw [List.cons_append, Secrets.joinDash_cons first (by simp), hstart]
    simp

theorem joinTokens_last_inj {T : UnicodeTable} {values : List String} {a b : String}
    (ha : recordToken T a ≠ []) (hb : recordToken T b ≠ [])
    (h : joinTokens T (values ++ [a]) = joinTokens T (values ++ [b])) :
    recordToken T a = recordToken T b := by
  obtain ⟨start, hstart⟩ :=
    exists_joinDash_append ((values.map (recordToken T)).filter (· ≠ []))
  have hjoin (c : String) (hc : recordToken T c ≠ []) :
      (joinTokens T (values ++ [c])).toList = start ++ recordToken T c := by
    rw [joinTokens, String.toList_ofList, ← hstart]
    simp [hc]
  have := congrArg String.toList h
  rw [hjoin a ha, hjoin b hb] at this
  exact List.append_cancel_left this

/-- Reminders of the same id are of the same policy and window. -/
theorem buildEventId_reminder_inj {policyId policyId' : String} {windowIndex windowIndex' : Nat}
    {startedAt startedAt' : Instant} (hpolicy : IsText policyId) (hpolicy' : IsText policyId')
    (h : buildEventId D (m.reminder policyId windowIndex startedAt) =
      buildEventId D (m.reminder policyId' windowIndex' startedAt')) :
    policyId = policyId' ∧ windowIndex = windowIndex' ∧ startedAt = startedAt' := by
  have hne (identity : ReminderIdentity) : recordToken D.table (D.digest identity) ≠ [] := by
    rw [D.token]
    simpa using D.ne_empty identity
  have htokens := @joinTokens_last_inj _
    ["public-ingress-event", m.incidentId, EventKind.reminder.text] _ _ (hne _) (hne _) h
  rw [D.token, D.token, String.toList_inj] at htokens
  have hsame := D.injective htokens
  have hstrip : pyStrip policyId = pyStrip policyId' := congrArg (·.policyId) hsame
  rw [hpolicy.stripped, hpolicy'.stripped] at hstrip
  simp only [MaterialState.reminder, ReminderIdentity.mk.injEq, Option.some.injEq] at hsame
  exact ⟨hstrip, hsame.2.2.2.2.2.1, hsame.2.2.2.2.2.2⟩

/-! ### Reminders that are due -/

/-- The number of whole intervals from an instant to another. -/
def windowIndex (anchor observedAt : Instant) (intervalSeconds : Nat) : Nat :=
  ((observedAt - anchor).tdiv 1000000).toNat / intervalSeconds

/-- The reminder state of a policy that has none for the material event and its interval. -/
def newReminderState (visit : Visit) (policy : NotificationPolicy) : ReminderState :=
  { incidentId := m.incidentId
    policyId := policy.policyId
    materialEventId := m.latestMaterialEventId
    intervalSeconds := policy.reminderIntervalSeconds
    windowAnchorAt := m.latestMaterialEventAt
    nextReminderAt := some (secondsAfter m.latestMaterialEventAt policy.reminderIntervalSeconds)
    updatedAt := visit.observedAt }

/-- The reminder state a policy goes on with. -/
def currentReminderState (visit : Visit) (policy : NotificationPolicy) :
    Option ReminderState → ReminderState
  | none => newReminderState m visit policy
  | some state =>
    if state.materialEventId ≠ m.latestMaterialEventId ∨
        state.intervalSeconds ≠ policy.reminderIntervalSeconds then
      newReminderState m visit policy
    else state

/-- The window a policy is in when its reminder state starts at the material event. -/
def MaterialState.window (visit : Visit) (policy : NotificationPolicy) : Nat :=
  windowIndex m.latestMaterialEventAt visit.observedAt policy.reminderIntervalSeconds

/-- The reminder of a window. -/
def reminderEvent (visit : Visit) (policy : NotificationPolicy) (anchor : Instant) (window : Nat) :
    ReminderEventRecord :=
  let windowStartedAt := secondsAfter anchor (window * policy.reminderIntervalSeconds)
  { eventId := buildEventId D (m.reminder policy.policyId window windowStartedAt)
    incidentId := m.incidentId
    event := .reminder
    reason := .reminderDue
    occurredAt := visit.observedAt
    observationId := visit.recordId
    materialFingerprintSha256 := m.materialFingerprintSha256
    previousMaterialFingerprintSha256 := m.materialFingerprintSha256
    severity := visit.severity
    policyId := policy.policyId
    reminderWindowIndex := some window
    reminderWindowStartedAt := some windowStartedAt
    reminderWindowEndedAt := some
      (secondsAfter anchor ((window + 1) * policy.reminderIntervalSeconds))
    summary := "Public ingress incident remains unresolved: " ++ visit.summary }

/-- The body of the loop of `_due_reminder_transition`. -/
def dueReminder (visit : Visit) (policy : NotificationPolicy) (existing : Option ReminderState) :
    Option ReminderEventRecord × ReminderState :=
  let state := currentReminderState m visit policy existing
  let anchor := state.windowAnchorAt
  let window := windowIndex anchor visit.observedAt policy.reminderIntervalSeconds
  let notificationActive := visit.notificationState = .active
  if notificationActive ∧ 1 ≤ window ∧ state.lastWindowIndex < window then
    let event := reminderEvent D m visit policy anchor window
    (some event,
      { state with
        status := .active
        lastWindowIndex := window
        lastReminderEventId := event.eventId
        lastRemindedAt := some visit.observedAt
        nextReminderAt := event.reminderWindowEndedAt
        updatedAt := visit.observedAt })
  else
    (none,
      { state with
        status := if notificationActive then .active else .suppressed
        nextReminderAt := some (secondsAfter anchor
          (max 1 (state.lastWindowIndex + 1) * policy.reminderIntervalSeconds))
        updatedAt := visit.observedAt })

/-- The state of a policy that is disabled or does not match any more. -/
def deactivate (visit : Visit) (state : ReminderState) : ReminderState :=
  { state with status := .policyInactive, nextReminderAt := none, updatedAt := visit.observedAt }

/-- What the store has of an incident: its events by id, and its reminder states by policy. -/
structure ReminderStore where
  events : Dict String ReminderEventRecord := []
  states : Dict String ReminderState := []

/-- `_due_reminder_transition`. -/
def dueReminderTransition (visit : Visit) (existing : Dict String ReminderState) :
    List ReminderEventRecord × List ReminderState :=
  let due := visit.policies.map fun policy => dueReminder D m visit policy (existing.get policy.policyId)
  let inactive := existing.filter fun (policyId, _) => policyId ∉ visit.policies.map (·.policyId)
  (due.filterMap (·.1), due.map (·.2) ++ inactive.map fun (_, state) => deactivate visit state)

/-- An event is stored once. -/
def addEvent (events : Dict String ReminderEventRecord) (event : ReminderEventRecord) :
    Except String (Dict String ReminderEventRecord) :=
  match events.get event.eventId with
  | none => .ok (events.set event.eventId event)
  | some existing =>
    if existing ≠ event then
      .error "public ingress incident event identity reused with different payload"
    else .ok events

/-- `write_public_ingress_transition_with_outbox`, of an incident that is the same as when the
transition was planned. -/
def writeTransition (store : ReminderStore)
    (plan : List ReminderEventRecord × List ReminderState) : Except String ReminderStore := do
  let events ← plan.1.foldlM addEvent store.events
  let states := plan.2.foldl (fun states state => states.set state.policyId state) store.states
  .ok { events, states }

/-- What one observation finds, plans and leaves. -/
structure Observation where
  visit : Visit
  found : ReminderStore
  reminders : List ReminderEventRecord
  left : ReminderStore

/-- One observation after another. -/
def monitor : List Visit → ReminderStore → Except String (List Observation)
  | [], _ => .ok []
  | visit :: visits, store => do
    let plan := dueReminderTransition D m visit store.states
    let left ← writeTransition store plan
    let observations ← monitor visits left
    .ok ({ visit, found := store, reminders := plan.1, left } :: observations)

/-! ### Steady intervals -/

/-- A policy's interval is the same at all these observations that find it. -/
def NotificationPolicy.Keeps (policy : NotificationPolicy) (visits : List Visit) : Prop :=
  ∀ visit ∈ visits, ∀ other ∈ visit.policies, other.policyId = policy.policyId →
    other.reminderIntervalSeconds = policy.reminderIntervalSeconds

/-- No policy's interval is edited away and back between two observations of one window at which the
incident's notifications are active. -/
def Steady (visits : List Visit) : Prop :=
  ∀ before visit between visit' after, visits = before ++ visit :: between ++ visit' :: after →
    visit.notificationState = .active → visit'.notificationState = .active →
    ∀ policy ∈ visit.policies, ∀ policy' ∈ visit'.policies, policy'.policyId = policy.policyId →
      policy'.reminderIntervalSeconds = policy.reminderIntervalSeconds →
      1 ≤ m.window visit policy → m.window visit' policy' = m.window visit policy →
      policy.Keeps between

/-- A reminder state is the policy's own, and its windows begin at its material event. -/
structure StatesInv (m : MaterialState) (states : Dict String ReminderState) : Prop where
  nodup : states.keys.Nodup
  keyed : ∀ {policyId state}, states.get policyId = some state → state.policyId = policyId
  anchored : ∀ {policyId state}, states.get policyId = some state →
    state.materialEventId = m.latestMaterialEventId →
      state.windowAnchorAt = m.latestMaterialEventAt

/-- A store in which nothing was reminded of since the material event. -/
structure AfterMaterialEvent (store : ReminderStore) : Prop where
  states : StatesInv m store.states
  unreminded : ∀ policyId window startedAt,
    buildEventId D (m.reminder policyId window startedAt) ∉ store.events.keys

/-- What tells the windows of a policy's interval apart: the interval is the time from the start to
the end. -/
def ReminderEventRecord.window (event : ReminderEventRecord) :
    String × Option Nat × Option Instant × Option Instant :=
  (event.policyId, event.reminderWindowIndex, event.reminderWindowStartedAt,
    event.reminderWindowEndedAt)

/-- No window is announced twice, nothing is announced while notifications are not active, and the
counters of an interval do not go back. -/
structure Orderly (observations : List Observation) : Prop where
  once : ((observations.flatMap (·.reminders)).map (·.window)).Nodup
  active : ∀ observation ∈ observations, observation.reminders ≠ [] →
    observation.visit.notificationState = .active
  forward : ∀ observation ∈ observations, ∀ policyId state state',
    observation.found.states.get policyId = some state →
    observation.left.states.get policyId = some state' →
    state'.materialEventId = state.materialEventId →
    state'.intervalSeconds = state.intervalSeconds → state.lastWindowIndex ≤ state'.lastWindowIndex

/-- The id of the reminder of a policy's window. -/
def NotificationPolicy.reminderId (policy : NotificationPolicy) (window : Nat) : String :=
  buildEventId D (m.reminder policy.policyId window
    (secondsAfter m.latestMaterialEventAt (window * policy.reminderIntervalSeconds)))

variable {D m} {visit : Visit} {policy policy' : NotificationPolicy} {store : ReminderStore}

theorem reminderId_inj {window window' : Nat} (hwindow : 1 ≤ window)
    (h : policy.reminderId D m window = policy'.reminderId D m window') :
    policy.policyId = policy'.policyId ∧ window = window' ∧
      policy.reminderIntervalSeconds = policy'.reminderIntervalSeconds := by
  obtain ⟨hpolicy, rfl, hstart⟩ := buildEventId_reminder_inj D m policy.isText policy'.isText h
  exact ⟨hpolicy, rfl, Nat.eq_of_mul_eq_mul_left hwindow (secondsAfter_inj.mp hstart)⟩

/-! ### One observation -/

/-- The state a policy goes on with, of a store that keeps the invariant. -/
theorem StatesInv.current (hinv : StatesInv m store.states) (visit : Visit)
    (policy : NotificationPolicy) :
    let state := currentReminderState m visit policy (store.states.get policy.policyId)
    state.policyId = policy.policyId ∧ state.materialEventId = m.latestMaterialEventId ∧
      state.intervalSeconds = policy.reminderIntervalSeconds ∧
      state.windowAnchorAt = m.latestMaterialEventAt := by
  cases hstate : store.states.get policy.policyId with
  | none => exact ⟨rfl, rfl, rfl, rfl⟩
  | some state =>
    by_cases hnew : state.materialEventId ≠ m.latestMaterialEventId ∨
        state.intervalSeconds ≠ policy.reminderIntervalSeconds
    · simp only [currentReminderState, if_pos hnew]
      exact ⟨rfl, rfl, rfl, rfl⟩
    · simp only [currentReminderState, if_neg hnew]
      rw [not_or, not_ne_iff, not_ne_iff] at hnew
      exact ⟨hinv.keyed hstate, hnew.1, hnew.2, hinv.anchored hstate hnew.1⟩

/-- A policy whose state is of the material event and of its interval goes on with it. -/
theorem currentReminderState_same {state : ReminderState}
    (hmaterial : state.materialEventId = m.latestMaterialEventId)
    (hinterval : state.intervalSeconds = policy.reminderIntervalSeconds) :
    currentReminderState m visit policy (some state) = state := by
  simp [currentReminderState, hmaterial, hinterval]

/-- A reminder is due. -/
def Due (m : MaterialState) (store : ReminderStore) (visit : Visit) (policy : NotificationPolicy) :
    Prop :=
  visit.notificationState = .active ∧ 1 ≤ m.window visit policy ∧
    (currentReminderState m visit policy (store.states.get policy.policyId)).lastWindowIndex <
      m.window visit policy

/-- What becomes of a policy: its reminder if one is due, and its counter. -/
theorem StatesInv.due_spec (hinv : StatesInv m store.states) (visit : Visit)
    (policy : NotificationPolicy) :
    let state := currentReminderState m visit policy (store.states.get policy.policyId)
    let due := dueReminder D m visit policy (store.states.get policy.policyId)
    (due.2.policyId = policy.policyId ∧ due.2.materialEventId = m.latestMaterialEventId ∧
      due.2.intervalSeconds = policy.reminderIntervalSeconds ∧
      due.2.windowAnchorAt = m.latestMaterialEventAt) ∧
    ((Due m store visit policy ∧
      due.1 = some (reminderEvent D m visit policy m.latestMaterialEventAt
        (m.window visit policy)) ∧
      due.2.lastWindowIndex = m.window visit policy) ∨
    (¬ Due m store visit policy ∧ due.1 = none ∧
      due.2.lastWindowIndex = state.lastWindowIndex)) := by
  intro state due
  obtain ⟨hpolicy, hmaterial, hinterval, hanchor⟩ := hinv.current visit policy
  have hwindow : windowIndex state.windowAnchorAt visit.observedAt policy.reminderIntervalSeconds =
      m.window visit policy := by
    rw [MaterialState.window, hanchor]
  by_cases hdue : Due m store visit policy
  · have heq : due = _ := if_pos (by rw [hwindow]; exact hdue)
    rw [heq]
    exact ⟨⟨hpolicy, hmaterial, hinterval, hanchor⟩,
      .inl ⟨hdue, by simp only [hanchor, MaterialState.window], hwindow⟩⟩
  · have heq : due = _ := if_neg (by rw [hwindow]; exact hdue)
    rw [heq]
    exact ⟨⟨hpolicy, hmaterial, hinterval, hanchor⟩, .inr ⟨hdue, rfl, rfl⟩⟩

theorem foldl_set_eq_update (states : List ReminderState) (existing : Dict String ReminderState) :
    states.foldl (fun states state => states.set state.policyId state) existing =
      existing.update (states.map fun state => (state.policyId, state)) := by
  rw [Dict.update, List.foldl_map]

/-- The reminder states an observation leaves: those of the policies it finds, and the others. -/
theorem StatesInv.left (hinv : StatesInv m store.states) (visit : Visit) :
    let left := (dueReminderTransition D m visit store.states).2.foldl
      (fun states state => states.set state.policyId state) store.states
    StatesInv m left ∧
    (∀ policy ∈ visit.policies, left.get policy.policyId =
      some (dueReminder D m visit policy (store.states.get policy.policyId)).2) ∧
    ∀ policyId ∉ visit.policies.map (·.policyId),
      left.get policyId = (store.states.get policyId).map (deactivate visit) := by
  intro left
  let inactive := store.states.filter fun (policyId, _) =>
    policyId ∉ visit.policies.map (·.policyId)
  let planned := (dueReminderTransition D m visit store.states).2.map
    fun state => (state.policyId, state)
  have hleft : left = store.states.update planned := foldl_set_eq_update _ _
  have hkeyed {item : String × ReminderState} (h : item ∈ store.states) :
      item.2.policyId = item.1 := hinv.keyed (Dict.get_of_mem hinv.nodup h)
  have hplanned : planned = (visit.policies.map fun policy => (policy.policyId,
      (dueReminder D m visit policy (store.states.get policy.policyId)).2)) ++
        inactive.map fun item => (item.1, deactivate visit item.2) := by
    simp only [planned, dueReminderTransition, List.map_append, List.map_map]
    refine congrArg₂ _ (List.map_congr_left fun policy _ => ?_) (List.map_congr_left fun item h => ?_)
    · exact Prod.ext (hinv.due_spec visit policy).1.1 rfl
    · exact Prod.ext (hkeyed (List.mem_of_mem_filter h)) rfl
  have hkeys : Dict.keys planned = visit.policies.map (·.policyId) ++ inactive.map (·.1) := by
    rw [hplanned, Dict.keys, List.map_append, List.map_map, List.map_map]
    rfl
  have hnodup : (Dict.keys planned).Nodup := by
    rw [hkeys, List.nodup_append']
    refine ⟨visit.distinct, (List.filter_sublist.map _).nodup hinv.nodup, fun id hid hmem => ?_⟩
    obtain ⟨item, hitem, rfl⟩ := List.mem_map.mp hmem
    exact of_decide_eq_true (List.mem_filter.mp hitem).2 hid
  have hpolicies : ∀ policy ∈ visit.policies, left.get policy.policyId =
      some (dueReminder D m visit policy (store.states.get policy.policyId)).2 := by
    intro policy hpolicy
    have hmem : (policy.policyId,
        (dueReminder D m visit policy (store.states.get policy.policyId)).2) ∈ planned := by
      rw [hplanned]
      exact List.mem_append_left _ (List.mem_map_of_mem hpolicy)
    rw [hleft, Dict.get_update_or_of_nodup hnodup, Dict.get_of_mem hnodup hmem, Option.some_or]
  have hothers : ∀ policyId ∉ visit.policies.map (·.policyId),
      left.get policyId = (store.states.get policyId).map (deactivate visit) := by
    intro policyId hout
    rw [hleft, Dict.get_update_or_of_nodup hnodup]
    cases hstate : store.states.get policyId with
    | none =>
      have hnot : policyId ∉ Dict.keys planned := by
        rw [hkeys, List.mem_append, not_or]
        refine ⟨hout, fun hmem => ?_⟩
        obtain ⟨item, hitem, rfl⟩ := List.mem_map.mp hmem
        exact Dict.get_eq_none.mp hstate (Dict.mem_keys_of_mem (List.mem_of_mem_filter hitem))
      rw [Dict.get_eq_none.mpr hnot]
      rfl
    | some state =>
      have hmem : (policyId, deactivate visit state) ∈ planned := by
        rw [hplanned]
        refine List.mem_append_right _ (List.mem_map_of_mem (List.mem_filter.mpr
          ⟨Dict.mem_of_get hstate, decide_eq_true hout⟩) (f := fun item => (item.1, deactivate visit item.2)))
      rw [Dict.get_of_mem hnodup hmem]
      rfl
  refine ⟨⟨hleft ▸ Dict.nodup_keys_update hinv.nodup _, ?_, ?_⟩, hpolicies, hothers⟩
  · intro policyId state hstate
    by_cases hmem : policyId ∈ visit.policies.map (·.policyId)
    · obtain ⟨policy, hpolicy, rfl⟩ := List.mem_map.mp hmem
      rw [hpolicies policy hpolicy] at hstate
      obtain rfl := Option.some.inj hstate
      exact (hinv.due_spec visit policy).1.1
    · rw [hothers policyId hmem] at hstate
      obtain ⟨state, hold, rfl⟩ := Option.map_eq_some_iff.mp hstate
      exact (hinv.keyed hold :)
  · intro policyId state hstate hmaterial
    by_cases hmem : policyId ∈ visit.policies.map (·.policyId)
    · obtain ⟨policy, hpolicy, rfl⟩ := List.mem_map.mp hmem
      rw [hpolicies policy hpolicy] at hstate
      obtain rfl := Option.some.inj hstate
      exact (hinv.due_spec visit policy).1.2.2.2
    · rw [hothers policyId hmem] at hstate
      obtain ⟨state, hold, rfl⟩ := Option.map_eq_some_iff.mp hstate
      exact (hinv.anchored hold hmaterial :)

/-- Events whose ids are new are all stored. -/
theorem foldlM_addEvent {reminders : List ReminderEventRecord}
    {events : Dict String ReminderEventRecord} (hnodup : (reminders.map (·.eventId)).Nodup)
    (hnew : ∀ event ∈ reminders, event.eventId ∉ events.keys) :
    ∃ events', reminders.foldlM addEvent events = .ok events' ∧
      ∀ id, id ∈ events'.keys ↔ id ∈ events.keys ∨ id ∈ reminders.map (·.eventId) := by
  induction reminders generalizing events with
  | nil => exact ⟨events, rfl, by simp⟩
  | cons event rest ih =>
    rw [List.map_cons, List.nodup_cons] at hnodup
    have hnone : events.get event.eventId = none :=
      Dict.get_eq_none.mpr (hnew event List.mem_cons_self)
    have hrest : ∀ other ∈ rest, other.eventId ∉ (events.set event.eventId event).keys := by
      intro other hother hmem
      rcases Dict.mem_keys_set.mp hmem with hold | heq
      · exact hnew other (List.mem_cons_of_mem _ hother) hold
      · exact hnodup.1 (heq ▸ List.mem_map_of_mem hother)
    obtain ⟨events', hfold, hkeys⟩ := ih hnodup.2 hrest
    refine ⟨events', ?_, fun id => ?_⟩
    · rw [List.foldlM_cons, addEvent, hnone]
      exact hfold
    · rw [hkeys, Dict.mem_keys_set, List.map_cons, List.mem_cons, or_assoc]

/-- The planned reminders are those of the policies that are due. -/
theorem StatesInv.mem_reminders (hinv : StatesInv m store.states) {event : ReminderEventRecord} :
    event ∈ (dueReminderTransition D m visit store.states).1 ↔
      ∃ policy ∈ visit.policies, Due m store visit policy ∧
        event = reminderEvent D m visit policy m.latestMaterialEventAt (m.window visit policy) := by
  rw [dueReminderTransition, List.mem_filterMap]
  constructor
  · rintro ⟨due, hdue, hevent⟩
    obtain ⟨policy, hpolicy, rfl⟩ := List.mem_map.mp hdue
    obtain ⟨hdue, heq, -⟩ | ⟨-, hnone, -⟩ := (hinv.due_spec visit policy).2
    · exact ⟨policy, hpolicy, hdue, Option.some.inj (hevent.symm.trans heq)⟩
    · exact absurd (hevent.symm.trans hnone) (by simp)
  · rintro ⟨policy, hpolicy, hdue, rfl⟩
    refine ⟨_, List.mem_map_of_mem hpolicy, ?_⟩
    obtain ⟨-, heq, -⟩ | ⟨hnot, -⟩ := (hinv.due_spec visit policy).2
    · exact heq
    · exact absurd hdue hnot

theorem StatesInv.nodup_reminders (hinv : StatesInv m store.states) (visit : Visit) :
    ((dueReminderTransition D m visit store.states).1.map (·.eventId)).Nodup := by
  rw [dueReminderTransition, List.Nodup, List.pairwise_map, List.pairwise_filterMap,
    List.pairwise_map]
  have hdistinct := List.pairwise_map.mp visit.distinct
  refine hdistinct.imp fun {policy policy'} hne event hevent event' hevent' heq => hne ?_
  obtain ⟨hdue, hplanned, -⟩ | ⟨-, hnone, -⟩ := (hinv.due_spec visit policy).2
  swap
  · exact absurd (hevent.symm.trans hnone) (by simp)
  obtain ⟨-, hplanned', -⟩ | ⟨-, hnone, -⟩ := (hinv.due_spec visit policy').2
  swap
  · exact absurd (hevent'.symm.trans hnone) (by simp)
  obtain rfl := Option.some.inj (hplanned.symm.trans hevent)
  obtain rfl := Option.some.inj (hplanned'.symm.trans hevent')
  exact (reminderId_inj hdue.2.1 heq).1

/-! ### Runs -/

/-- A window was announced at one of the observations made so far, and its policy's counter knows of
it as long as the interval stays. -/
def Announced (m : MaterialState) (past : List Visit) (store : ReminderStore)
    (policy : NotificationPolicy) (window : Nat) : Prop :=
  ∃ before visit after, past = before ++ visit :: after ∧
    visit.notificationState = .active ∧
    (∃ announced ∈ visit.policies, announced.policyId = policy.policyId ∧
      announced.reminderIntervalSeconds = policy.reminderIntervalSeconds ∧
      m.window visit announced = window) ∧
    (policy.Keeps after → ∃ state, store.states.get policy.policyId = some state ∧
      state.materialEventId = m.latestMaterialEventId ∧
      state.intervalSeconds = policy.reminderIntervalSeconds ∧ window ≤ state.lastWindowIndex)

/-- What holds after the observations made so far. -/
structure RunInv (D : EventDigest) (m : MaterialState) (past : List Visit) (store : ReminderStore) :
    Prop where
  states : StatesInv m store.states
  announced : ∀ policy window, 1 ≤ window → policy.reminderId D m window ∈ store.events.keys →
    Announced m past store policy window

theorem AfterMaterialEvent.runInv (hstart : AfterMaterialEvent D m store) :
    RunInv D m [] store where
  states := hstart.states
  announced _ _ _ hmem := absurd hmem (hstart.unreminded _ _ _)

/-- A reminder that is due was not announced before: otherwise the interval was the same since, and
the counter is that far. -/
theorem RunInv.new {past : List Visit} (hinv : RunInv D m past store)
    (hsteady : Steady m (past ++ [visit])) (hpolicy : policy ∈ visit.policies)
    (hdue : Due m store visit policy) :
    policy.reminderId D m (m.window visit policy) ∉ store.events.keys := by
  intro hmem
  obtain ⟨before, earlier, after, rfl, hactive, ⟨announced, hannounced, hid, hinterval, hwindow⟩,
    hcounter⟩ := hinv.announced policy _ hdue.2.1 hmem
  have hkeeps : announced.Keeps after :=
    hsteady before earlier after visit [] (by simp) hactive hdue.1 announced hannounced policy
      hpolicy hid.symm hinterval.symm (hwindow ▸ hdue.2.1) hwindow.symm
  have hkeeps' : policy.Keeps after := fun other hother found hfound hsame =>
    (hkeeps other hother found hfound (hsame.trans hid.symm)).trans hinterval
  obtain ⟨state, hstate, hmaterial, hsame, hle⟩ := hcounter hkeeps'
  have hlt := hdue.2.2
  rw [hstate, currentReminderState_same hmaterial hsame] at hlt
  omega

/-- What was announced before stays announced. -/
theorem Announced.observe {past : List Visit} {window : Nat} {left : ReminderStore}
    (h : Announced m past store policy window) (hstates : StatesInv m store.states)
    (hleft : left.states = (dueReminderTransition D m visit store.states).2.foldl
      (fun states state => states.set state.policyId state) store.states) :
    Announced m (past ++ [visit]) left policy window := by
  obtain ⟨before, earlier, after, rfl, hactive, hannounced, hcounter⟩ := h
  refine ⟨before, earlier, after ++ [visit], by simp, hactive, hannounced, fun hkeeps => ?_⟩
  obtain ⟨state, hstate, hmaterial, hinterval, hle⟩ :=
    hcounter fun other hother => hkeeps other (List.mem_append_left _ hother)
  obtain ⟨-, hpolicies, hothers⟩ := hstates.left (D := D) visit
  rw [← hleft] at hpolicies hothers
  by_cases hmem : policy.policyId ∈ visit.policies.map (·.policyId)
  · obtain ⟨found, hfound, hsame⟩ := List.mem_map.mp hmem
    have hkept : found.reminderIntervalSeconds = policy.reminderIntervalSeconds :=
      hkeeps visit (by simp) found hfound hsame
    obtain ⟨⟨-, hmaterial', hinterval', -⟩, hcases⟩ := hstates.due_spec (D := D) visit found
    have hcurrent : currentReminderState m visit found (store.states.get found.policyId) = state := by
      rw [hsame, hstate, currentReminderState_same hmaterial (hinterval.trans hkept.symm)]
    refine ⟨_, hsame ▸ hpolicies found hfound, hmaterial', hinterval'.trans hkept, ?_⟩
    obtain ⟨hdue, -, hlast⟩ | ⟨-, -, hlast⟩ := hcases
    · have hlt := hdue.2.2
      rw [hcurrent] at hlt
      omega
    · rw [hlast, hcurrent]
      exact hle
  · refine ⟨deactivate visit state, ?_, hmaterial, hinterval, hle⟩
    rw [hothers _ hmem, hstate]
    rfl

/-- The counter of an interval does not go back. -/
theorem StatesInv.forward (hinv : StatesInv m store.states) {left : ReminderStore}
    (hleft : left.states = (dueReminderTransition D m visit store.states).2.foldl
      (fun states state => states.set state.policyId state) store.states)
    {policyId : String} {state state' : ReminderState}
    (hstate : store.states.get policyId = some state)
    (hstate' : left.states.get policyId = some state')
    (hmaterial : state'.materialEventId = state.materialEventId)
    (hinterval : state'.intervalSeconds = state.intervalSeconds) :
    state.lastWindowIndex ≤ state'.lastWindowIndex := by
  obtain ⟨-, hpolicies, hothers⟩ := hinv.left (D := D) visit
  rw [← hleft] at hpolicies hothers
  by_cases hmem : policyId ∈ visit.policies.map (·.policyId)
  · obtain ⟨policy, hpolicy, rfl⟩ := List.mem_map.mp hmem
    rw [hpolicies policy hpolicy] at hstate'
    obtain rfl := Option.some.inj hstate'
    obtain ⟨⟨-, hmaterial', hinterval', -⟩, hcases⟩ := hinv.due_spec (D := D) visit policy
    have hcurrent : currentReminderState m visit policy (store.states.get policy.policyId) = state := by
      rw [hstate, currentReminderState_same (hmaterial.symm.trans hmaterial')
        (hinterval.symm.trans hinterval')]
    obtain ⟨hdue, -, hlast⟩ | ⟨-, -, hlast⟩ := hcases
    · have hlt := hdue.2.2
      rw [hcurrent] at hlt
      omega
    · rw [hlast, hcurrent]
  · rw [hothers _ hmem, hstate] at hstate'
    obtain rfl := Option.some.inj hstate'
    exact le_rfl

/-- An observation of a steady run is written, and everything it reminds of is new. -/
theorem RunInv.observe {past : List Visit} (hinv : RunInv D m past store)
    (hsteady : Steady m (past ++ [visit])) :
    let plan := dueReminderTransition D m visit store.states
    ∃ left, writeTransition store plan = .ok left ∧ RunInv D m (past ++ [visit]) left ∧
      left.states = plan.2.foldl (fun states state => states.set state.policyId state) store.states ∧
      (∀ id ∈ plan.1.map (·.eventId), id ∉ store.events.keys) ∧
      ∀ id, id ∈ left.events.keys ↔ id ∈ store.events.keys ∨ id ∈ plan.1.map (·.eventId) := by
  intro plan
  have hnew : ∀ event ∈ plan.1, event.eventId ∉ store.events.keys := by
    intro event hevent
    obtain ⟨policy, hpolicy, hdue, rfl⟩ := hinv.states.mem_reminders.mp hevent
    exact hinv.new hsteady hpolicy hdue
  obtain ⟨events, hwrite, hkeys⟩ := foldlM_addEvent (hinv.states.nodup_reminders visit) hnew
  let left : ReminderStore :=
    { events, states := plan.2.foldl (fun states state => states.set state.policyId state)
        store.states }
  refine ⟨left, ?_, ⟨(hinv.states.left visit).1, ?_⟩, rfl, ?_, hkeys⟩
  · rw [writeTransition, hwrite]
    rfl
  · intro policy window hone hmem
    rcases (hkeys _).mp hmem with hold | hreminded
    · exact (hinv.announced policy window hone hold).observe hinv.states rfl
    · obtain ⟨event, hevent, hid⟩ := List.mem_map.mp hreminded
      obtain ⟨found, hfound, hdue, rfl⟩ := hinv.states.mem_reminders.mp hevent
      obtain ⟨hpolicy, hwindow, hinterval⟩ := reminderId_inj hdue.2.1 hid
      refine ⟨past, visit, [], rfl, hdue.1, ⟨found, hfound, hpolicy, hinterval, hwindow⟩, fun _ => ?_⟩
      obtain ⟨⟨-, hmaterial, hinterval', -⟩, hcases⟩ := hinv.states.due_spec (D := D) visit found
      refine ⟨_, hpolicy ▸ (hinv.states.left visit).2.1 found hfound, hmaterial,
        hinterval'.trans hinterval, ?_⟩
      obtain ⟨-, -, hlast⟩ | ⟨hnot, -⟩ := hcases
      · exact (hwindow.symm.trans hlast.symm).le
      · exact absurd hdue hnot
  · intro id hid
    obtain ⟨event, hevent, rfl⟩ := List.mem_map.mp hid
    exact hnew event hevent

theorem Steady.of_append {visits rest : List Visit} (h : Steady m (visits ++ rest)) :
    Steady m visits := by
  intro before visit between visit' after heq
  exact h before visit between visit' (after ++ rest) (by rw [heq]; simp)

/-- What an observation left is what it planned. -/
structure Planned (D : EventDigest) (m : MaterialState) (observation : Observation) : Prop where
  states : StatesInv m observation.found.states
  reminders : observation.reminders =
    (dueReminderTransition D m observation.visit observation.found.states).1
  left : observation.left.states =
    (dueReminderTransition D m observation.visit observation.found.states).2.foldl
      (fun states state => states.set state.policyId state) observation.found.states

/-- A steady run is written to its end, with reminders whose ids are new. -/
theorem RunInv.monitor {past visits : List Visit} (hinv : RunInv D m past store)
    (hsteady : Steady m (past ++ visits)) :
    ∃ observations, monitor D m visits store = .ok observations ∧
      (∀ id ∈ (observations.flatMap (·.reminders)).map (·.eventId), id ∉ store.events.keys) ∧
      ((observations.flatMap (·.reminders)).map (·.eventId)).Nodup ∧
      ∀ observation ∈ observations, Planned D m observation := by
  induction visits generalizing past store with
  | nil => exact ⟨[], rfl, by simp, by simp, by simp⟩
  | cons visit visits ih =>
    rw [List.append_cons] at hsteady
    obtain ⟨left, hwrite, hinv', hstates, hnew, hkeys⟩ := hinv.observe hsteady.of_append
    obtain ⟨observations, hrun, hrest, hnodup, hfacts⟩ := ih hinv' hsteady
    let first : Observation :=
      { visit, found := store, reminders := (dueReminderTransition D m visit store.states).1, left }
    refine ⟨first :: observations, ?_, ?_, ?_, ?_⟩
    · rw [PublicIngress.monitor, hwrite]
      show (PublicIngress.monitor D m visits left >>= fun observations => _) = _
      rw [hrun]
      rfl
    · intro id hid
      rw [List.flatMap_cons, List.map_append, List.mem_append] at hid
      rcases hid with hfirst | hlater
      · exact hnew id hfirst
      · exact fun hmem => hrest id hlater ((hkeys id).mpr (.inl hmem))
    · rw [List.flatMap_cons, List.map_append, List.nodup_append']
      refine ⟨hinv.states.nodup_reminders visit, hnodup, fun id hfirst hlater => ?_⟩
      exact hrest id hlater ((hkeys id).mpr (.inr hfirst))
    · intro observation hmem
      rcases List.mem_cons.mp hmem with rfl | hlater
      · exact ⟨hinv.states, rfl, hstates⟩
      · exact hfacts observation hlater

/-- A run in which no interval is edited away and back within a window is never refused. -/
theorem monitor_orderly (D : EventDigest) (m : MaterialState) (start : ReminderStore)
    (visits : List Visit) (hstart : AfterMaterialEvent D m start) (hsteady : Steady m visits) :
    ∃ observations, monitor D m visits start = .ok observations ∧ Orderly observations := by
  obtain ⟨observations, hrun, -, hnodup, hfacts⟩ := hstart.runInv.monitor hsteady
  refine ⟨observations, hrun, ?_, ?_, ?_⟩
  · -- a window has one id, so that windows differ where ids do
    let idOf (window : String × Option Nat × Option Instant × Option Instant) : String :=
      buildEventId D (m.reminder window.1 (window.2.1.getD 0) (window.2.2.1.getD 0))
    refine List.Nodup.of_map idOf ?_
    rw [List.map_map]
    refine (List.map_congr_left fun event hevent => ?_) ▸ hnodup
    obtain ⟨observation, hmem, hreminder⟩ := List.mem_flatMap.mp hevent
    obtain ⟨hstates, hreminders, -⟩ := hfacts observation hmem
    rw [hreminders] at hreminder
    obtain ⟨policy, -, -, rfl⟩ := hstates.mem_reminders.mp hreminder
    rfl
  · intro observation hmem hsome
    obtain ⟨hstates, hreminders, -⟩ := hfacts observation hmem
    obtain ⟨event, hevent⟩ := List.exists_mem_of_ne_nil _ hsome
    rw [hreminders] at hevent
    obtain ⟨policy, -, hdue, -⟩ := hstates.mem_reminders.mp hevent
    exact hdue.1
  · intro observation hmem policyId state state' hstate hstate' hmaterial hinterval
    obtain ⟨hstates, -, hleft⟩ := hfacts observation hmem
    exact hstates.forward hleft hstate hstate' hmaterial hinterval

/-! ### An interval edited away and back -/

/-- The characters of a text, as numbers. -/
def codes (s : String) : List Nat := s.toList.map Char.toNat

theorem codes_injective : Function.Injective codes := by
  intro s t h
  have hlist := List.map_injective_iff.mpr (fun a b hab => Char.toNat_inj.mp hab) h
  exact String.toList_inj.mp hlist

/-- A number for each identity. -/
def ReminderIdentity.number (identity : ReminderIdentity) : Nat :=
  Encodable.encode ([identity.incidentId, identity.event.text, identity.materialFingerprintSha256,
    identity.previousEventId, identity.policyId].map codes, identity.reminderWindowIndex,
    identity.reminderWindowStartedAt)

theorem ReminderIdentity.number_injective : Function.Injective ReminderIdentity.number := by
  intro a b h
  have hsame := Encodable.encode_injective h
  simp only [List.map_cons, Prod.mk.injEq, List.cons.injEq, codes_injective.eq_iff] at hsame
  obtain ⟨⟨hincident, hevent, hsha, hprevious, hpolicy, -⟩, hindex, hstart⟩ := hsame
  have hkind : a.event = b.event := by
    cases ha : a.event <;> cases hb : b.event <;> simp [ha, hb, EventKind.text] at hevent ⊢
  cases a
  cases b
  simp_all

/-- A digest that writes an identity's number in strokes. -/
def strokes : EventDigest where
  table := { Secrets.CharacterTable.ascii with
    ascii := ascii_ascii
    noSpace := noSpace_of_isAlphanum }
  digest identity := String.ofList (List.replicate (identity.number + 1) 'a')
  token identity := by
    have hstrip (p : Char → Bool) (hp : p 'a' = false) (n : Nat) :
        stripWith p (List.replicate (n + 1) 'a') = List.replicate (n + 1) 'a' := by
      have hstroke {c : Char} (hc : c ∈ List.replicate (n + 1) 'a') : p c = false :=
        List.eq_of_mem_replicate hc ▸ hp
      have := @stripWith_append p (List.replicate (n + 1) 'a') []
        (fun c hc => hstroke (List.mem_of_mem_head? hc))
        (fun c hc => hstroke (List.mem_of_mem_getLast? hc)) (by simp) (by simp)
      simpa using this
    have hchars : stripChars (List.replicate (identity.number + 1) 'a') =
        List.replicate (identity.number + 1) 'a' := hstrip _ (by decide) _
    have hlower (n : Nat) : (List.replicate n 'a').flatMap (fun c => [c.toLower]) =
        List.replicate n 'a' := by
      induction n with
      | zero => rfl
      | succ n ih => rw [List.replicate_succ, List.flatMap_cons, ih]; rfl
    rw [recordToken, String.toList_ofList, hchars]
    simp only [Secrets.CharacterTable.ascii, hlower, List.map_replicate]
    exact hstrip _ (by decide) _
  ne_empty identity := by simp
  injective a b h := by
    have hlist := congrArg (fun s => s.toList.length) h
    simp only [String.toList_ofList, List.length_replicate, Nat.add_right_cancel_iff] at hlist
    exact ReminderIdentity.number_injective hlist

/-- An incident of a web site. -/
def siteIncident : MaterialState :=
  { incidentId := "site", materialFingerprintSha256 := "4e07", latestMaterialEventId := "opened"
    latestMaterialEventAt := 0 }

/-- What an observation finds of the policy of the people on call. -/
def onCall (recordId : String) (seconds : Nat) (interval : Nat)
    (least : minReminderIntervalSeconds ≤ interval) (greatest : interval ≤ maxReminderIntervalSeconds) :
    Visit :=
  { recordId
    observedAt := seconds * 1000000
    policies := [⟨"on-call", interval, by decide +kernel, least, greatest⟩]
    distinct := by simp }

/-- One reminder an hour, of an hour's observations. -/
def hourly (recordId : String) (seconds : Nat) : Visit :=
  onCall recordId seconds 3600 (by decide) (by decide)

/-- Two observations in the second hour. -/
theorem monitor_orderly_hourly :
    ∃ observations, monitor strokes siteIncident [hourly "first" 3600, hourly "second" 3660] {} =
      .ok observations ∧ Orderly observations :=
  monitor_orderly strokes siteIncident {} [hourly "first" 3600, hourly "second" 3660]
    { states := ⟨by simp, by simp, by simp⟩, unreminded := by simp }
    (by
      intro before visit between visit' after heq
      have hlength := congrArg List.length heq
      simp only [List.length_cons, List.length_append, List.length_nil] at hlength
      obtain rfl : between = [] := List.eq_nil_of_length_eq_zero (by omega)
      intros
      exact fun _ hmem => absurd hmem (by simp))

/-- The same hour's observation, with one reminder in two hours. -/
def everyTwoHours (recordId : String) (seconds : Nat) : Visit :=
  onCall recordId seconds 7200 (by decide) (by decide)

/-- A counter starts again when the interval is another. -/
theorem dueReminder_edited {state : ReminderState}
    (h : state.intervalSeconds ≠ policy.reminderIntervalSeconds) :
    dueReminder D m visit policy (some state) = dueReminder D m visit policy none := by
  have hnew : currentReminderState m visit policy (some state) = newReminderState m visit policy :=
    if_pos (.inr h)
  rw [dueReminder, dueReminder, hnew]
  rfl

/-- Without a counter, a policy is reminded of the window it is in. -/
theorem dueReminder_none (D : EventDigest) (m : MaterialState) {visit : Visit}
    {policy : NotificationPolicy} {window : Nat} (hactive : visit.notificationState = .active)
    (hwindow : m.window visit policy = window) :
    (dueReminder D m visit policy none).1 =
      if 1 ≤ window then some (reminderEvent D m visit policy m.latestMaterialEventAt window)
      else none := by
  subst hwindow
  by_cases hone : 1 ≤ m.window visit policy
  · rw [if_pos hone]
    exact congrArg Prod.fst (if_pos ⟨hactive, hone, hone⟩)
  · rw [if_neg hone]
    exact congrArg Prod.fst (if_neg fun h => hone h.2.1)

theorem dueReminderTransition_edited (visit : Visit) (policy : NotificationPolicy)
    (state : ReminderState) (hpolicies : visit.policies = [policy])
    (h : state.intervalSeconds ≠ policy.reminderIntervalSeconds) :
    dueReminderTransition D m visit [(policy.policyId, state)] =
      ((dueReminder D m visit policy none).1.toList, [(dueReminder D m visit policy none).2]) := by
  cases hdue : (dueReminder D m visit policy none).1 <;>
    simp [dueReminderTransition, hpolicies, Dict.get_cons, dueReminder_edited h, hdue]

/-- A refused transition ends the run. -/
theorem monitor_refused {visits : List Visit} {plan : List ReminderEventRecord × List ReminderState}
    {message : String} (hplan : dueReminderTransition D m visit store.states = plan)
    (hwrite : writeTransition store plan = .error message) :
    monitor D m (visit :: visits) store = .error message := by
  rw [monitor, hplan, hwrite]
  rfl

theorem monitor_later {visits : List Visit} {plan : List ReminderEventRecord × List ReminderState}
    {left : ReminderStore} {message : String}
    (hplan : dueReminderTransition D m visit store.states = plan)
    (hwrite : writeTransition store plan = .ok left)
    (hrest : monitor D m visits left = .error message) :
    monitor D m (visit :: visits) store = .error message := by
  rw [monitor, hplan, hwrite]
  show (monitor D m visits left >>= fun observations => _) = _
  rw [hrest]
  rfl

theorem writeTransition_first (event : ReminderEventRecord) {state : ReminderState}
    {policyId : String} (h : state.policyId = policyId) :
    writeTransition {} ([event], [state]) =
      .ok { events := [(event.eventId, event)], states := [(policyId, state)] } := by
  subst h
  rfl

theorem writeTransition_state (events : Dict String ReminderEventRecord) (state : ReminderState)
    {state' : ReminderState} {policyId : String} (h : state'.policyId = policyId) :
    writeTransition { events, states := [(policyId, state)] } ([], [state']) =
      .ok { events, states := [(policyId, state')] } := by
  subst h
  simp [writeTransition, Dict.set, Dict.keys]

/-- The second hour is announced, and once more after the interval was edited to two hours and back:
an id with another event. -/
theorem monitor_edited_back :
    AfterMaterialEvent strokes siteIncident {} ∧
    monitor strokes siteIncident
      [hourly "first" 3600, everyTwoHours "second" 3660, hourly "third" 3720] {} =
        .error "public ingress incident event identity reused with different payload" := by
  have hempty : StatesInv siteIncident [] := ⟨by simp, by simp, by simp⟩
  refine ⟨{ states := hempty, unreminded := by simp }, ?_⟩
  let policy : NotificationPolicy := ⟨"on-call", 3600, by decide +kernel, by decide, by decide⟩
  let rare : NotificationPolicy := ⟨"on-call", 7200, by decide +kernel, by decide, by decide⟩
  let first := reminderEvent strokes siteIncident (hourly "first" 3600) policy 0 1
  let third := reminderEvent strokes siteIncident (hourly "third" 3720) policy 0 1
  have hrefused : addEvent [(first.eventId, first)] third =
      .error "public ingress incident event identity reused with different payload" := by
    have hget : Dict.get [(first.eventId, first)] third.eventId = some first := by
      rw [Dict.get_cons]
      exact if_pos rfl
    have hne : first ≠ third := fun heq => by
      have := congrArg (·.observationId) heq
      exact absurd this (by decide +kernel)
    rw [addEvent, hget]
    exact if_pos hne
  let counted := (dueReminder strokes siteIncident (hourly "first" 3600) policy none).2
  let restarted := (dueReminder strokes siteIncident (everyTwoHours "second" 3660) rare none).2
  let again := (dueReminder strokes siteIncident (hourly "third" 3720) policy none).2
  have hfirst : dueReminderTransition strokes siteIncident (hourly "first" 3600) [] =
      ([first], [counted]) := rfl
  have hnone : (dueReminder strokes siteIncident (everyTwoHours "second" 3660) rare none).1 = none :=
    dueReminder_none strokes siteIncident rfl (show _ = 0 by decide +kernel)
  have hsecond : dueReminderTransition strokes siteIncident (everyTwoHours "second" 3660)
      [("on-call", counted)] = ([], [restarted]) := by
    refine (dueReminderTransition_edited (everyTwoHours "second" 3660) rare counted rfl
      (by decide +kernel)).trans ?_
    rw [hnone]
    rfl
  have hsome : (dueReminder strokes siteIncident (hourly "third" 3720) policy none).1 = some third :=
    dueReminder_none strokes siteIncident rfl (show _ = 1 by decide +kernel)
  have hthird : dueReminderTransition strokes siteIncident (hourly "third" 3720)
      [("on-call", restarted)] = ([third], [again]) := by
    refine (dueReminderTransition_edited (hourly "third" 3720) policy restarted rfl
      (by decide +kernel)).trans ?_
    rw [hsome]
    rfl
  have hkeyed (visit : Visit) (policy : NotificationPolicy) :
      (dueReminder strokes siteIncident visit policy none).2.policyId = policy.policyId :=
    ((@StatesInv.due_spec strokes siteIncident {} hempty visit policy).1.1 :)
  have hannounced : writeTransition {} ([first], [counted]) =
      .ok { events := [(first.eventId, first)], states := [("on-call", counted)] } :=
    writeTransition_first first (hkeyed (hourly "first" 3600) policy)
  have hquiet : writeTransition
      { events := [(first.eventId, first)], states := [("on-call", counted)] } ([], [restarted]) =
      .ok { events := [(first.eventId, first)], states := [("on-call", restarted)] } :=
    writeTransition_state _ counted (hkeyed (everyTwoHours "second" 3660) rare)
  have hagain : writeTransition
      { events := [(first.eventId, first)], states := [("on-call", restarted)] } ([third], [again]) =
      .error "public ingress incident event identity reused with different payload" := by
    rw [writeTransition, List.foldlM_cons, hrefused]
    rfl
  exact monitor_later hfirst hannounced (monitor_later hsecond hquiet (monitor_refused hthird hagain))

end Launchplane.PublicIngress
