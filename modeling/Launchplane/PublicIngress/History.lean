import Launchplane.PublicIngress.Transitions

/-!
# Launchplane.PublicIngress.History

**The incidents of a check over all its observations.** The recovery count of an
open incident is the number of passing observations since the last failing one.
As long as the threshold in force stays above that number, every record that is
planned passes its own check, and an incident recovers at the first observation
at which it may.
-/

namespace Launchplane.PublicIngress

variable {R : Runtime} {key : CheckKey} {log : List Observed} {store store' : Store}
  {observed : Observed} {plan : PlannedIncidentTransition}

/-! ### Runs -/

/-- The passing observations since the last failing one, from all observations with the newest
first. One of a check that can have no incidents counts for nothing. -/
def recoveries : List Observed → Nat
  | [] => 0
  | observed :: earlier =>
    if observed.incidentEligible then
      match observed.record.status with
      | .fail => 0
      | .pass => recoveries earlier + 1
      | .skipped => recoveries earlier
    else recoveries earlier

/-- An observation of the check that may come next: it passed its own check, its id is fresh, and
the threshold is one that can be configured. -/
structure Fits (R : Runtime) (key : CheckKey) (log : List Observed) (observed : Observed) : Prop where
  valid : observed.record.Valid
  check : observed.record.checkKey R = key
  fresh : ∀ earlier ∈ log, earlier.record.recordId ≠ observed.record.recordId
  threshold : 1 ≤ observed.recoveryObservationThreshold ∧ observed.recoveryObservationThreshold ≤ 10
  reason : observed.reconciliationReason = .monitoringIntentChanged ∨
    observed.reconciliationReason = .requestRefused

/-- The observation is planned over the stored records, and the plan is written without conflict. -/
structure Observes (R : Runtime) (store : Store) (observed : Observed)
    (plan : PlannedIncidentTransition) (store' : Store) : Prop where
  planned : ∃ openIncidents, store.openIncidents R observed.record = .ok openIncidents ∧
    plan = planPublicIngressIncidentTransition R openIncidents observed
  unchanged : store.incidentChanged R plan = false
  written : store.write plan = .ok store'

/-- The runs from the empty store, all of whose observations are allowed. -/
inductive Reaches (R : Runtime) (key : CheckKey)
    (Allowed : List Observed → Store → Observed → Prop) : List Observed → Store → Prop
  | empty : Reaches R key Allowed [] {}
  | observe {log : List Observed} {store store' : Store} {observed : Observed}
      {plan : PlannedIncidentTransition} (h : Reaches R key Allowed log store)
      (hfits : Fits R key log observed) (hallowed : Allowed log store observed)
      (hobserves : Observes R store observed plan store') :
      Reaches R key Allowed (observed :: log) store'

/-! ### What the claims are about -/

/-- The events of an incident, the newest first. -/
def Store.eventsOf (store : Store) (incidentId : String) : List EventRecord :=
  ((store.incidentEvents.map (·.2)).filter (·.incidentId = incidentId)).reverse

/-- The id of the latest event. -/
def latestEventId (events : List EventRecord) : String :=
  (events.head?.map (·.eventId)).getD ""

/-- Each event's id is made from the id of the event before it. -/
def Chained (R : Runtime) (incidentId : String) : List EventRecord → Prop
  | [] => True
  | event :: earlier =>
    event.eventId = buildPublicIngressIncidentEventId R incidentId event.event
        event.materialFingerprintSha256 (latestEventId earlier) ∧
      Chained R incidentId earlier

/-- Every record can be read back as it is, at most one incident is open, and the material events
of every incident form one chain in which no id repeats. -/
structure StateSafe (R : Runtime) (store : Store) : Prop where
  readable : ∀ id incident, store.incidents.get id = some incident →
    incident.validate R = .ok incident
  oneOpen : ∀ id incident id' incident', store.incidents.get id = some incident →
    store.incidents.get id' = some incident' → incident.status = .opened →
      incident'.status = .opened → id = id'
  chained : ∀ id incident, store.incidents.get id = some incident →
    Chained R id (store.eventsOf id) ∧ ((store.eventsOf id).map (·.eventId)).Nodup ∧
      latestEventId (store.eventsOf id) = incident.latestMaterialEventId

/-- The records that are planned can be read back, an incident recovers only when enough passing
observations followed the last failing one, and then at once, and a resolved one stays as it is. -/
structure StepSafe (R : Runtime) (log : List Observed) (store : Store) (observed : Observed)
    (plan : PlannedIncidentTransition) (store' : Store) : Prop where
  readable : ∀ incident ∈ plan.incidents, incident.validate R = .ok incident
  recovered : ∀ incident ∈ plan.incidents, incident.status = .resolved →
    incident.resolutionReason = some .recovered →
      observed.recoveryObservationThreshold ≤ recoveries (observed :: log)
  prompt : ∀ id incident, store.incidents.get id = some incident → incident.status = .opened →
    observed.recoveryObservationThreshold ≤ recoveries (observed :: log) →
      ∃ incident', store'.incidents.get id = some incident' ∧ incident'.status = .resolved
  settled : ∀ id incident, store.incidents.get id = some incident → incident.status = .resolved →
    store'.incidents.get id = some incident

/-- The threshold in force exceeds the passing observations that are counted already, unless the
observation fails or reconciles the incident; and an incident that is opened has an id of its own,
which is made from the time it is opened at. -/
def Meets (R : Runtime) (log : List Observed) (store : Store) (observed : Observed) : Prop :=
  (∀ id incident, store.incidents.get id = some incident → incident.status = .opened →
    (observed.incidentEligible = true ∧ observed.record.status = .fail) ∨
      (observed.incidentEligible = false ∧ observed.record.purpose = .reconciliation) ∨
        recoveries log < observed.recoveryObservationThreshold) ∧
  ((∀ id incident, store.incidents.get id = some incident → incident.status ≠ .opened) →
    observed.incidentEligible = true → observed.deploying = none → observed.record.status = .fail →
      buildPublicIngressIncidentId R observed.record.product observed.record.context
        observed.record.instanceName observed.record.checkName observed.record.observedAt ∉
          store.incidents.keys)

/-! ### The invariant -/

/-- What holds of every incident of the check. -/
structure Sound (R : Runtime) (key : CheckKey) (incident : IncidentRecord) : Prop where
  valid : incident.Valid R
  check : incident.checkKey R = key
  active : incident.notificationState = .active
  complete : incident.materialFingerprintComplete = true

/-- What holds of the open incident. -/
structure Current (log : List Observed) (incident : IncidentRecord) : Prop where
  counted : incident.consecutiveRecoveryObservations = recoveries log
  recovery : incident.latestRecoveryObservationId = "" ∨
    ∃ earlier ∈ log, earlier.record.recordId = incident.latestRecoveryObservationId
  latest : ∃ earlier ∈ log, earlier.record.recordId = incident.latestObservationId

/-- The invariant. -/
structure Inv (R : Runtime) (key : CheckKey) (log : List Observed) (store : Store) : Prop where
  ids : store.incidents.keys.Nodup
  eventIds : store.incidentEvents.keys.Nodup
  sound : ∀ id incident, store.incidents.get id = some incident →
    incident.incidentId = id ∧ Sound R key incident
  current : ∀ id incident, store.incidents.get id = some incident → incident.status = .opened →
    Current log incident
  oneOpen : ∀ id incident id' incident', store.incidents.get id = some incident →
    store.incidents.get id' = some incident' → incident.status = .opened →
      incident'.status = .opened → id = id'
  chained : ∀ id incident, store.incidents.get id = some incident →
    Chained R id (store.eventsOf id) ∧
      latestEventId (store.eventsOf id) = incident.latestMaterialEventId
  events : ∀ item ∈ store.incidentEvents, item.2.eventId = item.1 ∧
    item.2.incidentId ∈ store.incidents.keys ∧
      ∃ earlier ∈ log, earlier.record.recordId = item.2.observationId

theorem inv_empty : Inv R key [] {} where
  ids := by simp
  eventIds := by simp
  sound := by simp
  current := by simp
  oneOpen := by simp
  chained := by simp
  events := by simp

/-- The ids of an incident's events are keys of the store. -/
theorem Inv.stateSafe (hinv : Inv R key log store) : StateSafe R store where
  readable id incident hget := (hinv.sound id incident hget).2.valid.validate_eq
  oneOpen := hinv.oneOpen
  chained id incident hget := by
    obtain ⟨hchained, hlatest⟩ := hinv.chained id incident hget
    refine ⟨hchained, ?_, hlatest⟩
    have hsub : (((store.incidentEvents.map (·.2)).filter (·.incidentId = id)).map
        (·.eventId)).Sublist store.incidentEvents.keys := by
      have hkeys : store.incidentEvents.keys =
          (store.incidentEvents.map (·.2)).map (·.eventId) := by
        rw [List.map_map]
        exact List.map_congr_left fun item hitem => (hinv.events item hitem).1.symm
      rw [hkeys]
      exact List.filter_sublist.map _
    rw [Store.eventsOf, List.map_reverse, List.nodup_reverse]
    exact hsub.nodup hinv.eventIds

/-! ### The open incidents -/

theorem mapM_eq_self {ε α : Type} {f : α → Except ε α} {l : List α} (h : ∀ a ∈ l, f a = .ok a) :
    l.mapM f = .ok l := by
  induction l with
  | nil => rfl
  | cons a l ih =>
    rw [List.mapM_cons, h a List.mem_cons_self,
      ih fun b hb => h b (List.mem_cons_of_mem _ hb)]
    rfl

/-- The rows of the open incidents of a check. -/
def Store.openRows (R : Runtime) (store : Store) (record : ObservationRecord) :
    List IncidentRecord :=
  (store.incidents.map (·.2)).filter fun incident =>
    incident.status = .opened ∧ incident.checkKey R = record.checkKey R

theorem Inv.get_row (hinv : Inv R key log store) {incident : IncidentRecord}
    (hmem : incident ∈ store.incidents.map (·.2)) :
    store.incidents.get incident.incidentId = some incident := by
  obtain ⟨⟨id, row⟩, hitem, rfl⟩ := List.mem_map.mp hmem
  have hget := Dict.get_of_mem hinv.ids hitem
  rwa [(hinv.sound id row hget).1]

/-- All of them can be read. -/
theorem Inv.openIncidents_eq (hinv : Inv R key log store) (record : ObservationRecord) :
    store.openIncidents R record = .ok (store.openRows R record) :=
  mapM_eq_self fun _ hmem =>
    (hinv.sound _ _ (hinv.get_row (List.mem_filter.mp hmem).1)).2.valid.validate_eq

theorem Inv.nodup_rows (hinv : Inv R key log store) : (store.incidents.map (·.2)).Nodup := by
  refine (List.nodup_map_iff_inj_on (List.Nodup.of_map _ hinv.ids)).mpr ?_
  intro a ha b hb hab
  have hga := Dict.get_of_mem hinv.ids ha
  have hgb := Dict.get_of_mem hinv.ids hb
  have hkey : a.1 = b.1 := by
    rw [← (hinv.sound a.1 a.2 hga).1, ← (hinv.sound b.1 b.2 hgb).1, hab]
  exact Prod.ext hkey hab

/-- The open incidents of the check are none or one. -/
theorem Inv.openRows (hinv : Inv R key log store) (hfits : Fits R key log observed) :
    (store.openRows R observed.record = [] ∧
        ∀ id incident, store.incidents.get id = some incident → incident.status ≠ .opened) ∨
      ∃ incident, store.openRows R observed.record = [incident] ∧
        store.incidents.get incident.incidentId = some incident ∧ incident.status = .opened := by
  have hopen {incident : IncidentRecord} : incident ∈ store.openRows R observed.record ↔
      store.incidents.get incident.incidentId = some incident ∧ incident.status = .opened := by
    rw [Store.openRows, List.mem_filter]
    constructor
    · intro h
      exact ⟨hinv.get_row h.1, (of_decide_eq_true h.2).1⟩
    · intro h
      refine ⟨List.mem_map.mpr ⟨_, Dict.mem_of_get h.1, rfl⟩, decide_eq_true ⟨h.2, ?_⟩⟩
      rw [hfits.check, (hinv.sound _ _ h.1).2.check]
  have hdistinct : (store.openRows R observed.record).Nodup := hinv.nodup_rows.filter _
  generalize store.openRows R observed.record = rows at *
  cases rows with
  | nil =>
    refine .inl ⟨rfl, fun id incident hget hstatus => ?_⟩
    have hid := (hinv.sound id incident hget).1
    exact List.not_mem_nil (hopen.mpr ⟨hid ▸ hget, hstatus⟩)
  | cons incident rest =>
    have hfirst := hopen.mp List.mem_cons_self
    cases rest with
    | nil => exact .inr ⟨incident, rfl, hfirst⟩
    | cons other rest =>
      have hsecond := hopen.mp (List.mem_cons_of_mem incident (List.mem_cons_self (a := other)))
      have hid := hinv.oneOpen _ _ _ _ hfirst.1 hsecond.1 hfirst.2 hsecond.2
      have hsame : incident = other := by
        have := hsecond.1
        rw [← hid, hfirst.1] at this
        exact Option.some.inj this
      simp [hsame] at hdistinct

/-! ### One observation -/

/-- What an observation makes of an open incident. -/
inductive Change (R : Runtime) (observed : Observed) (incident : IncidentRecord) :
    IncidentRecord → List EventRecord → Prop
  | kept (hstatus : observed.record.status = .skipped) : Change R observed incident incident []
  | failed (hstatus : observed.record.status = .fail)
      (hsame : incident.latestMaterialEventId = (failAgain R observed incident).latestMaterialEventId) :
      Change R observed incident (failAgain R observed incident) []
  | updated (hstatus : observed.record.status = .fail) :
      Change R observed incident (updateIncident R observed incident).1
        [(updateIncident R observed incident).2]
  | counted (hstatus : observed.record.status = .pass)
      (hfew : incident.consecutiveRecoveryObservations + 1 <
        observed.recoveryObservationThreshold) :
      Change R observed incident
        (countRecovery observed incident (incident.consecutiveRecoveryObservations + 1)) []
  | recovered (hstatus : observed.record.status = .pass)
      (henough : observed.recoveryObservationThreshold ≤
        incident.consecutiveRecoveryObservations + 1) :
      Change R observed incident
        (resolveIncident R incident observed.record .recovered observed.record.summary
          (incident.consecutiveRecoveryObservations + 1)
          (some observed.recoveryObservationThreshold)).1
        [(resolveIncident R incident observed.record .recovered observed.record.summary
          (incident.consecutiveRecoveryObservations + 1)
          (some observed.recoveryObservationThreshold)).2]

/-- What an observation of an eligible check makes of the open incident. -/
theorem transitionIncident_change {incident : IncidentRecord} (hcurrent : Current log incident)
    (hsound : Sound R key incident) (hfits : Fits R key log observed) :
    Change R observed incident (transitionIncident R observed incident).2.1
      (transitionIncident R observed incident).2.2 := by
  have hlatest : incident.latestObservationId ≠ observed.record.recordId := by
    obtain ⟨earlier, hmem, hid⟩ := hcurrent.latest
    exact fun h => hfits.fresh earlier hmem (hid.trans h)
  have hrecovery : incident.latestRecoveryObservationId ≠ observed.record.recordId := by
    obtain hempty | ⟨earlier, hmem, hid⟩ := hcurrent.recovery
    · rw [hempty]
      exact hfits.valid.recordId.1.symm
    · exact fun h => hfits.fresh earlier hmem (hid.trans h)
  cases hstatus : observed.record.status with
  | fail =>
    by_cases hmaterial : materialIncidentChanged R incident observed.materialFingerprint = true
    · simpa [transitionIncident, hstatus, hmaterial] using .updated hstatus
    · simpa [transitionIncident, hstatus, hmaterial, hsound.complete, hlatest] using
        .failed hstatus rfl
  | pass =>
    by_cases henough : observed.recoveryObservationThreshold ≤
        incident.consecutiveRecoveryObservations + 1
    · simpa [transitionIncident, hstatus, hrecovery, henough] using .recovered hstatus henough
    · simpa [transitionIncident, hstatus, hrecovery, henough] using .counted hstatus (by omega)
  | skipped => simpa [transitionIncident, hstatus] using .kept hstatus

/-- The plan with no open incident. -/
theorem plan_none :
    planPublicIngressIncidentTransition R [] observed =
      if observed.incidentEligible then
        match observed.deploying with
        | some deploying =>
          { observation :=
              { observed.record with
                summary := observed.record.summary ++ " Incident deferred during recorded deploy " ++
                  deploying.recordId ++ ", bounded from " ++ deploying.startedAt ++ "." } }
        | none =>
          if observed.record.status = .fail then
            { observation :=
                { observed.record with
                  materialFingerprint := some observed.materialFingerprint
                  materialFingerprintSha256 := R.fingerprintSha256 observed.materialFingerprint
                  incidentId := (openIncident R observed).1.incidentId
                  incidentEventId := (openIncident R observed).2.eventId }
              incidents := [(openIncident R observed).1]
              incidentEvents := [(openIncident R observed).2] }
          else { observation := observed.record }
      else { observation := observed.record } := rfl

/-- What is planned of incidents and events with one open incident that is up to date. -/
theorem plan_one (observed : Observed) {incident : IncidentRecord} (hsound : Sound R key incident) :
    let plan := planPublicIngressIncidentTransition R [incident] observed
    (plan.incidents, plan.incidentEvents) =
      if observed.incidentEligible then
        ([(transitionIncident R observed incident).2.1],
          (transitionIncident R observed incident).2.2)
      else if observed.record.purpose = .reconciliation then
        let resolved := resolveIncident R incident observed.record observed.reconciliationReason
          (observed.record.summary ++ " Previous incident evidence: " ++ incident.summary)
        ([resolved.1], [resolved.2])
      else ([], []) := by
  have hupgraded : upgraded R observed incident = (incident, []) :=
    if_neg (Nat.not_lt.mpr hsound.valid.schema)
  have hexpired : expireIncidentSilence R incident observed.record.observedAt = incident :=
    if_pos (by rw [hsound.active]; decide)
  have hduplicates : reconcileDuplicates R observed incident [incident] = ([], []) := by
    simp [reconcileDuplicates]
  have hcanonical : canonicalIncident [incident] = some incident := rfl
  simp only [planPublicIngressIncidentTransition, hcanonical, hduplicates, hupgraded, hexpired]
  by_cases heligible : observed.incidentEligible = true
  · simp [heligible]
  · by_cases hpurpose : observed.record.purpose = .reconciliation <;> simp [heligible, hpurpose]

/-! ### The records of a transition are sound -/

theorem sound_openIncident (hfits : Fits R key log observed) :
    Sound R key (openIncident R observed).1 where
  check := hfits.check
  active := rfl
  complete := rfl
  valid := {
    schema := Nat.le_refl 2
    threshold := hfits.threshold
    incidentId := isText_incidentId R _ _ _ _ _
    product := hfits.valid.product
    context := hfits.valid.context
    instanceName := hfits.valid.instanceName
    openedAt := hfits.valid.observedAt
    openedObservationId := hfits.valid.recordId
    latestObservationId := hfits.valid.recordId
    latestObservedAt := hfits.valid.observedAt
    checkName := hfits.valid.checkName
    summary := hfits.valid.summary
    repository := hfits.valid.repository
    driverId := hfits.valid.driverId
    stateVersion := Nat.le_refl 1
    fingerprint := ⟨_, rfl, rfl, rfl⟩
    latestMaterialEventId := isText_eventId R _ _ _ _
    latestMaterialEventAt := hfits.valid.observedAt
    latestMaterialEvent := by simp [openIncident]
    notificationStateChangedAt := stripped_empty
    notificationStateReason := stripped_empty
    silenced := .inr ⟨by simp [openIncident], rfl⟩
    latestRecoveryObservationId := stripped_empty
    recoveries := Nat.zero_le _
    resolution := .inr ⟨rfl, rfl, rfl, rfl⟩ }

theorem Sound.failAgain {incident : IncidentRecord} (hsound : Sound R key incident)
    (hfits : Fits R key log observed) : Sound R key (failAgain R observed incident) where
  check := hsound.check
  active := hsound.active
  complete := rfl
  valid := { hsound.valid with
    threshold := hfits.threshold
    latestObservationId := hfits.valid.recordId
    latestObservedAt := hfits.valid.observedAt
    summary := hfits.valid.summary
    stateVersion := Nat.le_add_left 1 _
    fingerprint := ⟨_, rfl, rfl, rfl⟩
    latestRecoveryObservationId := stripped_empty
    recoveries := Nat.zero_le _ }

theorem Sound.updateIncident {incident : IncidentRecord} (hsound : Sound R key incident)
    (hfits : Fits R key log observed) :
    Sound R key (updateIncident R observed incident).1 := by
  have hagain := hsound.failAgain hfits
  have hquiet : ¬incident.notificationState = .acknowledged := by simp [hsound.active]
  unfold PublicIngress.updateIncident
  simp only [hquiet, if_false]
  exact {
    check := hagain.check
    active := hsound.active
    complete := rfl
    valid := { hagain.valid with
      latestMaterialEventId := isText_eventId R _ _ _ _
      latestMaterialEventAt := hfits.valid.observedAt
      latestMaterialEvent := by simp } }

theorem Sound.countRecovery {incident : IncidentRecord} (hsound : Sound R key incident)
    (hfits : Fits R key log observed) {recoveryCount : Nat}
    (hfew : recoveryCount ≤ observed.recoveryObservationThreshold) :
    Sound R key (countRecovery observed incident recoveryCount) where
  check := hsound.check
  active := hsound.active
  complete := hsound.complete
  valid := { hsound.valid with
    threshold := hfits.threshold
    latestObservationId := hfits.valid.recordId
    latestObservedAt := hfits.valid.observedAt
    stateVersion := by
      have := hsound.valid.stateVersion
      show 1 ≤ if incident.latestRecoveryObservationId = observed.record.recordId then
        incident.stateVersion else incident.stateVersion + 1
      split <;> omega
    latestRecoveryObservationId := hfits.valid.recordId.stripped
    recoveries := hfew }

theorem Sound.resolveIncident {incident : IncidentRecord} (hsound : Sound R key incident)
    (hfits : Fits R key log observed) {reason : ResolutionReason} {summary : String}
    {recoveryCount : Nat} {threshold : Option Nat} (hsummary : IsText summary)
    (hthreshold : ∀ n ∈ threshold, 1 ≤ n ∧ n ≤ 10)
    (hfew : recoveryCount ≤ threshold.getD incident.recoveryObservationThreshold) :
    Sound R key
      (resolveIncident R incident observed.record reason summary recoveryCount threshold).1 where
  check := hsound.check
  active := hsound.active
  complete := hsound.complete
  valid := { hsound.valid with
    threshold := by
      cases threshold with
      | none => exact hsound.valid.threshold
      | some n => exact hthreshold n rfl
    latestObservationId := hfits.valid.recordId
    latestObservedAt := hfits.valid.observedAt
    summary := hsummary
    stateVersion := Nat.le_add_left 1 _
    latestMaterialEventId := isText_eventId R _ _ _ _
    latestMaterialEventAt := hfits.valid.observedAt
    latestMaterialEvent := by simp [PublicIngress.resolveIncident]
    latestRecoveryObservationId := by
      show Stripped (if reason = .recovered then observed.record.recordId else "")
      split
      · exact hfits.valid.recordId.stripped
      · exact stripped_empty
    recoveries := hfew
    resolution := .inl ⟨rfl, hfits.valid.observedAt, hfits.valid.recordId,
      by simp [PublicIngress.resolveIncident]⟩ }

/-! ### What is written -/

/-- The events a transition adds to those of its incident: none, or one that follows the latest. -/
def Continues (R : Runtime) (observed : Observed) (previousEventId : String)
    (incident : IncidentRecord) : List EventRecord → Prop
  | [] => incident.latestMaterialEventId = previousEventId
  | [event] => event.incidentId = incident.incidentId ∧
      event.observationId = observed.record.recordId ∧
      event.eventId = buildPublicIngressIncidentEventId R incident.incidentId event.event
        event.materialFingerprintSha256 previousEventId ∧
      incident.latestMaterialEventId = event.eventId
  | _ => False

theorem Continues.cases {previousEventId : String} {incident : IncidentRecord}
    {events : List EventRecord} (h : Continues R observed previousEventId incident events) :
    (events = [] ∧ incident.latestMaterialEventId = previousEventId) ∨
      ∃ event, events = [event] ∧ event.incidentId = incident.incidentId ∧
        event.observationId = observed.record.recordId ∧
        event.eventId = buildPublicIngressIncidentEventId R incident.incidentId event.event
          event.materialFingerprintSha256 previousEventId ∧
        incident.latestMaterialEventId = event.eventId := by
  cases events with
  | nil => exact .inl ⟨rfl, h⟩
  | cons event rest =>
    cases rest with
    | nil => exact .inr ⟨event, rfl, h⟩
    | cons => exact h.elim

theorem resolveIncident_spec (incident : IncidentRecord) (observed : Observed)
    (reason : ResolutionReason) (summary : String) :
    let resolved := resolveIncident R incident observed.record reason summary
    resolved.1.incidentId = incident.incidentId ∧
      Continues R observed incident.latestMaterialEventId resolved.1 [resolved.2] ∧
        resolved.1.status = .resolved ∧ resolved.1.resolutionReason = some reason :=
  ⟨rfl, ⟨rfl, rfl, rfl, rfl⟩, rfl, rfl⟩

/-- A change keeps the incident's id and continues its chain. -/
theorem Change.continues {incident incident' : IncidentRecord} {events : List EventRecord}
    (h : Change R observed incident incident' events) :
    incident'.incidentId = incident.incidentId ∧
      Continues R observed incident.latestMaterialEventId incident' events := by
  cases h with
  | kept => exact ⟨rfl, rfl⟩
  | failed => exact ⟨rfl, rfl⟩
  | updated => exact ⟨rfl, rfl, rfl, rfl, rfl⟩
  | counted => exact ⟨rfl, rfl⟩
  | recovered => exact ⟨rfl, rfl, rfl, rfl, rfl⟩

theorem Change.sound {incident incident' : IncidentRecord} {events : List EventRecord}
    (h : Change R observed incident incident' events) (hsound : Sound R key incident)
    (hfits : Fits R key log observed)
    (hmeets : observed.record.status = .pass →
      incident.consecutiveRecoveryObservations < observed.recoveryObservationThreshold) :
    Sound R key incident' := by
  cases h with
  | kept => exact hsound
  | failed => exact hsound.failAgain hfits
  | updated => exact hsound.updateIncident hfits
  | counted hstatus hfew => exact hsound.countRecovery hfits (Nat.le_of_lt hfew)
  | recovered hstatus henough =>
    refine hsound.resolveIncident hfits hfits.valid.summary ?_ (hmeets hstatus)
    intro n hn
    obtain rfl := Option.some.inj hn
    exact hfits.threshold

theorem Change.current {incident incident' : IncidentRecord} {events : List EventRecord}
    (h : Change R observed incident incident' events) (hcurrent : Current log incident)
    (heligible : observed.incidentEligible = true) (hopened : incident'.status = .opened) :
    Current (observed :: log) incident' := by
  have hnow : ∃ earlier ∈ observed :: log, earlier.record.recordId = observed.record.recordId :=
    ⟨observed, List.mem_cons_self, rfl⟩
  cases h with
  | kept hstatus =>
    obtain ⟨earlier, hmem, hid⟩ := hcurrent.latest
    refine ⟨by simp [recoveries, heligible, hstatus, hcurrent.counted], ?_,
      earlier, List.mem_cons_of_mem _ hmem, hid⟩
    obtain hempty | ⟨earlier, hmem, hid⟩ := hcurrent.recovery
    · exact .inl hempty
    · exact .inr ⟨earlier, List.mem_cons_of_mem _ hmem, hid⟩
  | failed hstatus => exact ⟨by simp [failAgain, recoveries, heligible, hstatus], .inl rfl, hnow⟩
  | updated hstatus =>
    exact ⟨by simp [updateIncident, failAgain, recoveries, heligible, hstatus], .inl rfl, hnow⟩
  | counted hstatus =>
    exact ⟨by simp [countRecovery, recoveries, heligible, hstatus, hcurrent.counted], .inr hnow,
      hnow⟩
  | recovered => simp [resolveIncident] at hopened

/-- A log of an observation that leaves no trace. -/
theorem Current.cons {incident : IncidentRecord} (hcurrent : Current log incident)
    (heligible : observed.incidentEligible = false) : Current (observed :: log) incident := by
  obtain ⟨earlier, hmem, hid⟩ := hcurrent.latest
  refine ⟨by simp [recoveries, heligible, hcurrent.counted], ?_,
    earlier, List.mem_cons_of_mem _ hmem, hid⟩
  obtain hempty | ⟨earlier, hmem, hid⟩ := hcurrent.recovery
  · exact .inl hempty
  · exact .inr ⟨earlier, List.mem_cons_of_mem _ hmem, hid⟩

/-- An event of a fresh observation is written only under an id of its own. -/
theorem writeEvent_fresh {events events' : Dict String EventRecord} {event : EventRecord}
    (hfresh : ∀ item ∈ events, item.2.observationId ≠ event.observationId)
    (h : writeEvent events event = .ok events') :
    event.eventId ∉ events.keys ∧ events' = events ++ [(event.eventId, event)] := by
  unfold writeEvent at h
  cases hget : events.get event.eventId with
  | none =>
    have hkey := Dict.get_eq_none.mp hget
    rw [hget] at h
    obtain rfl := Except.ok.inj h
    exact ⟨hkey, if_neg hkey⟩
  | some existing =>
    have hne : existing ≠ event := fun heq =>
      hfresh _ (Dict.mem_of_get hget) (congrArg (·.observationId) heq)
    simp only [hget, if_neg hne] at h
    cases h

theorem eventsOf_append (rows rows' : Dict String IncidentRecord)
    {events : Dict String EventRecord} {event : EventRecord} (id : String) :
    Store.eventsOf ⟨rows, events ++ [(event.eventId, event)]⟩ id =
      if event.incidentId = id then event :: Store.eventsOf ⟨rows', events⟩ id
      else Store.eventsOf ⟨rows', events⟩ id := by
  by_cases h : event.incidentId = id <;> simp [Store.eventsOf, h]

/-- An incident is written, with the event that changed it. -/
theorem Inv.write (hinv : Inv R key log store) (hfits : Fits R key log observed)
    {incident : IncidentRecord} {events : List EventRecord}
    {incidentEvents : Dict String EventRecord} (hsound : Sound R key incident)
    (hcurrent : incident.status = .opened → Current (observed :: log) incident)
    (hothers : ∀ id other, store.incidents.get id = some other → other.status = .opened →
      id = incident.incidentId)
    (hcontinues : Continues R observed (latestEventId (store.eventsOf incident.incidentId)) incident
      events)
    (hchained : Chained R incident.incidentId (store.eventsOf incident.incidentId))
    (hwritten : events.foldlM writeEvent store.incidentEvents = .ok incidentEvents) :
    Inv R key (observed :: log)
      ⟨store.incidents.set incident.incidentId incident, incidentEvents⟩ := by
  have hget {id : String} {other : IncidentRecord}
      (h : (store.incidents.set incident.incidentId incident).get id = some other) :
      (id = incident.incidentId ∧ other = incident) ∨
        (id ≠ incident.incidentId ∧ store.incidents.get id = some other) := by
    rw [Dict.get_set] at h
    by_cases hid : id = incident.incidentId
    · rw [if_pos hid] at h
      exact .inl ⟨hid, (Option.some.inj h).symm⟩
    · rw [if_neg hid] at h
      exact .inr ⟨hid, h⟩
  -- What is written last, and what the events of an incident are then.
  have hevents : (∀ item ∈ incidentEvents, item ∈ store.incidentEvents ∨
        (item.2.eventId = item.1 ∧ item.2.incidentId = incident.incidentId ∧
          item.2.observationId = observed.record.recordId)) ∧
      incidentEvents.keys.Nodup ∧
      Chained R incident.incidentId (Store.eventsOf ⟨[], incidentEvents⟩ incident.incidentId) ∧
      latestEventId (Store.eventsOf ⟨[], incidentEvents⟩ incident.incidentId) =
        incident.latestMaterialEventId ∧
      ∀ id, id ≠ incident.incidentId →
        Store.eventsOf ⟨[], incidentEvents⟩ id = store.eventsOf id := by
    obtain ⟨rfl, hlatest⟩ | ⟨event, rfl, hincident, hobservation, hid, hlatest⟩ :=
      hcontinues.cases
    · obtain rfl := Except.ok.inj hwritten
      exact ⟨fun item h => .inl h, hinv.eventIds, hchained, hlatest.symm, fun _ _ => rfl⟩
    · have hfresh : ∀ item ∈ store.incidentEvents, item.2.observationId ≠ event.observationId := by
        intro item hitem
        obtain ⟨-, -, earlier, hmem, hobserved⟩ := hinv.events item hitem
        rw [← hobserved, hobservation]
        exact hfits.fresh earlier hmem
      have hone : writeEvent store.incidentEvents event = .ok incidentEvents := by
        simpa using hwritten
      obtain ⟨hkey, rfl⟩ := writeEvent_fresh hfresh hone
      refine ⟨?_, ?_, ?_, ?_, ?_⟩
      · intro item hitem
        obtain hitem | hitem := List.mem_append.mp hitem
        · exact .inl hitem
        · obtain rfl := List.mem_singleton.mp hitem
          exact .inr ⟨rfl, hincident, hobservation⟩
      · have hset := Dict.nodup_keys_set hinv.eventIds event.eventId event
        rwa [Dict.set, if_neg hkey] at hset
      · rw [eventsOf_append [] store.incidents, if_pos hincident]
        exact ⟨hid, hchained⟩
      · rw [eventsOf_append [] store.incidents, if_pos hincident]
        exact hlatest.symm
      · intro id hne
        rw [eventsOf_append [] store.incidents, if_neg fun h => hne (h.symm.trans hincident)]
  obtain ⟨hold, hnodup, hnew, hlast, hrest⟩ := hevents
  refine ⟨Dict.nodup_keys_set hinv.ids _ _, hnodup, ?_, ?_, ?_, ?_, ?_⟩
  · intro id other h
    obtain ⟨rfl, rfl⟩ | ⟨-, h⟩ := hget h
    · exact ⟨rfl, hsound⟩
    · exact hinv.sound id other h
  · intro id other h hopened
    obtain ⟨rfl, rfl⟩ | ⟨hne, h⟩ := hget h
    · exact hcurrent hopened
    · exact absurd (hothers id other h hopened) hne
  · intro id other id' other' h h' hopened hopened'
    have hid {id : String} {other : IncidentRecord}
        (h : (store.incidents.set incident.incidentId incident).get id = some other)
        (hopened : other.status = .opened) : id = incident.incidentId := by
      obtain ⟨rfl, -⟩ | ⟨-, h⟩ := hget h
      · rfl
      · exact hothers id other h hopened
    rw [hid h hopened, hid h' hopened']
  · intro id other h
    obtain ⟨rfl, rfl⟩ | ⟨hne, h⟩ := hget h
    · exact ⟨hnew, hlast⟩
    · show Chained R id (Store.eventsOf ⟨[], incidentEvents⟩ id) ∧
        latestEventId (Store.eventsOf ⟨[], incidentEvents⟩ id) = other.latestMaterialEventId
      rw [hrest id hne]
      exact hinv.chained id other h
  · intro item hitem
    obtain hitem | ⟨hkey, hincident, hobservation⟩ := hold item hitem
    · obtain ⟨hkey, hincident, earlier, hmem, hobserved⟩ := hinv.events item hitem
      exact ⟨hkey, Dict.mem_keys_set.mpr (.inl hincident), earlier, List.mem_cons_of_mem _ hmem,
        hobserved⟩
    · exact ⟨hkey, Dict.mem_keys_set.mpr (.inr hincident), observed, List.mem_cons_self,
        hobservation.symm⟩

/-- An observation that leaves no trace in the incidents. -/
theorem Inv.pass (hinv : Inv R key log store)
    (hquiet : ∀ id incident, store.incidents.get id = some incident → incident.status = .opened →
      observed.incidentEligible = false) : Inv R key (observed :: log) store := by
  refine ⟨hinv.ids, hinv.eventIds, hinv.sound, ?_, hinv.oneOpen, hinv.chained, ?_⟩
  · intro id incident hget hopened
    exact (hinv.current id incident hget hopened).cons (hquiet id incident hget hopened)
  · intro item hitem
    obtain ⟨hkey, hincident, earlier, hmem, hobserved⟩ := hinv.events item hitem
    exact ⟨hkey, hincident, earlier, List.mem_cons_of_mem _ hmem, hobserved⟩

/-- A transition of the open incident is written. -/
theorem Inv.writeOpen (hinv : Inv R key log store) (hfits : Fits R key log observed)
    {incident incident' : IncidentRecord} {events : List EventRecord}
    {incidentEvents : Dict String EventRecord}
    (hget : store.incidents.get incident.incidentId = some incident)
    (hopened : incident.status = .opened) (hsound : Sound R key incident')
    (hcurrent : incident'.status = .opened → Current (observed :: log) incident')
    (hid : incident'.incidentId = incident.incidentId)
    (hcontinues : Continues R observed incident.latestMaterialEventId incident' events)
    (hwritten : events.foldlM writeEvent store.incidentEvents = .ok incidentEvents) :
    Inv R key (observed :: log)
      ⟨store.incidents.set incident'.incidentId incident', incidentEvents⟩ := by
  obtain ⟨hchained, hlatest⟩ := hinv.chained _ _ hget
  refine hinv.write hfits hsound hcurrent ?_ ?_ ?_ hwritten
  · intro id other hother hopened'
    rw [hid]
    exact hinv.oneOpen id other _ incident hother hget hopened' hopened
  · rw [hid, hlatest]
    exact hcontinues
  · rw [hid]
    exact hchained

/-- The incident that is opened has no events yet. -/
theorem Inv.eventsOf_fresh (hinv : Inv R key log store) {id : String}
    (hid : id ∉ store.incidents.keys) : store.eventsOf id = [] := by
  rw [Store.eventsOf, List.reverse_eq_nil_iff, List.filter_eq_nil_iff]
  intro event hevent heq
  obtain ⟨item, hitem, rfl⟩ := List.mem_map.mp hevent
  obtain ⟨-, hincident, -⟩ := hinv.events item hitem
  exact hid (of_decide_eq_true heq ▸ hincident)

/-- What is written when a plan has one incident or none. -/
theorem write_eq (incident : Option IncidentRecord) (hincidents : plan.incidents = incident.toList)
    (h : store.write plan = .ok store') :
    ∃ incidentEvents, plan.incidentEvents.foldlM writeEvent store.incidentEvents =
        .ok incidentEvents ∧
      store' = ⟨incident.elim store.incidents fun incident =>
        store.incidents.set incident.incidentId incident, incidentEvents⟩ := by
  unfold Store.write at h
  obtain ⟨incidentEvents, hevents, hok⟩ := bind_eq_ok.mp h
  obtain rfl := Except.ok.inj hok
  refine ⟨incidentEvents, hevents, ?_⟩
  cases incident <;> simp [hincidents]

/-- With no open incident, one is opened or nothing is written. -/
theorem plan_none_cases (R : Runtime) (observed : Observed) :
    let plan := planPublicIngressIncidentTransition R [] observed
    (plan.incidents = [] ∧ plan.incidentEvents = []) ∨
      (observed.incidentEligible = true ∧ observed.deploying = none ∧
        observed.record.status = .fail ∧ plan.incidents = [(openIncident R observed).1] ∧
          plan.incidentEvents = [(openIncident R observed).2]) := by
  rw [plan_none]
  by_cases heligible : observed.incidentEligible = true
  · cases hdeploying : observed.deploying with
    | some deploying => simp [heligible]
    | none => by_cases hstatus : observed.record.status = .fail <;> simp [heligible, hstatus]
  · simp [heligible]

theorem Change.recovered_of {incident incident' : IncidentRecord} {events : List EventRecord}
    (h : Change R observed incident incident' events) (hcurrent : Current log incident)
    (heligible : observed.incidentEligible = true) (hopened : incident.status = .opened)
    (hresolved : incident'.status = .resolved) :
    observed.recoveryObservationThreshold ≤ recoveries (observed :: log) := by
  cases h with
  | kept => simp [hopened] at hresolved
  | failed => simp [failAgain, hopened] at hresolved
  | updated => simp [updateIncident, failAgain, hopened] at hresolved
  | counted => simp [countRecovery, hopened] at hresolved
  | recovered hstatus henough => simpa [recoveries, heligible, hstatus, hcurrent.counted] using henough

/-- When enough passing observations followed, the incident is resolved by this one. -/
theorem Change.resolved_of {incident incident' : IncidentRecord} {events : List EventRecord}
    (h : Change R observed incident incident' events) (hcurrent : Current log incident)
    (heligible : observed.incidentEligible = true)
    (hbelow : observed.record.status ≠ .fail →
      recoveries log < observed.recoveryObservationThreshold)
    (hpositive : 1 ≤ observed.recoveryObservationThreshold)
    (henough : observed.recoveryObservationThreshold ≤ recoveries (observed :: log)) :
    incident'.status = .resolved := by
  cases h with
  | kept hstatus =>
    have := hbelow (by simp [hstatus])
    simp [recoveries, heligible, hstatus] at henough
    omega
  | failed hstatus =>
    simp [recoveries, heligible, hstatus] at henough
    omega
  | updated hstatus =>
    simp [recoveries, heligible, hstatus] at henough
    omega
  | counted hstatus hfew =>
    simp [recoveries, heligible, hstatus, ← hcurrent.counted] at henough
    omega
  | recovered => rfl

/-- The other incidents stay when the open one is written. -/
theorem Inv.stepSafe (hinv : Inv R key log store) {incident incident' : IncidentRecord}
    {incidentEvents : Dict String EventRecord}
    (hget : store.incidents.get incident.incidentId = some incident)
    (hopened : incident.status = .opened) (hid : incident'.incidentId = incident.incidentId)
    (hincidents : plan.incidents = [incident']) (hsound : Sound R key incident')
    (hrecovered : incident'.status = .resolved → incident'.resolutionReason = some .recovered →
      observed.recoveryObservationThreshold ≤ recoveries (observed :: log))
    (hresolved : observed.recoveryObservationThreshold ≤ recoveries (observed :: log) →
      incident'.status = .resolved) :
    StepSafe R log store observed plan
      ⟨store.incidents.set incident'.incidentId incident', incidentEvents⟩ where
  readable other hother := by
    rw [hincidents, List.mem_singleton] at hother
    rw [hother]
    exact hsound.valid.validate_eq
  recovered other hother := by
    rw [hincidents, List.mem_singleton] at hother
    rw [hother]
    exact hrecovered
  prompt id other hother hopened' henough := by
    have hsame := hinv.oneOpen id other _ incident hother hget hopened' hopened
    exact ⟨incident', by rw [Dict.get_set, if_pos (hsame.trans hid.symm)], hresolved henough⟩
  settled id other hother hsettled := by
    have hne : id ≠ incident'.incidentId := by
      intro heq
      rw [heq, hid, hget] at hother
      rw [← Option.some.inj hother, hopened] at hsettled
      cases hsettled
    rw [Dict.get_set, if_neg hne]
    exact hother

/-- A plan of nothing changes nothing. -/
theorem stepSafe_of_nil (hincidents : plan.incidents = [])
    (hprompt : ∀ id incident, store.incidents.get id = some incident →
      incident.status = .opened →
        ¬observed.recoveryObservationThreshold ≤ recoveries (observed :: log)) :
    StepSafe R log store observed plan store where
  readable := by simp [hincidents]
  recovered := by simp [hincidents]
  prompt id incident hget hopened henough := absurd henough (hprompt id incident hget hopened)
  settled _ _ hget _ := hget

/-- The first failing observation opens an incident. -/
theorem Inv.writeFirst (hinv : Inv R key log store) (hfits : Fits R key log observed)
    (hnone : ∀ id incident, store.incidents.get id = some incident → incident.status ≠ .opened)
    (hid : (openIncident R observed).1.incidentId ∉ store.incidents.keys)
    (heligible : observed.incidentEligible = true) (hstatus : observed.record.status = .fail)
    {incidentEvents : Dict String EventRecord}
    (hincidents : plan.incidents = [(openIncident R observed).1])
    (hwritten : [(openIncident R observed).2].foldlM writeEvent store.incidentEvents =
      .ok incidentEvents) :
    let store' : Store := ⟨store.incidents.set (openIncident R observed).1.incidentId
      (openIncident R observed).1, incidentEvents⟩
    Inv R key (observed :: log) store' ∧ StepSafe R log store observed plan store' := by
  have hsound : Sound R key (openIncident R observed).1 := sound_openIncident hfits
  have hempty : store.eventsOf (openIncident R observed).1.incidentId = [] :=
    hinv.eventsOf_fresh hid
  refine ⟨hinv.write hfits hsound ?_ ?_ ?_ ?_ hwritten, ?_⟩
  · intro _
    exact ⟨by simp [openIncident, recoveries, heligible, hstatus], .inl rfl,
      observed, List.mem_cons_self, rfl⟩
  · intro id other hother hopened
    exact absurd hopened (hnone id other hother)
  · rw [hempty]
    exact ⟨rfl, rfl, rfl, rfl⟩
  · rw [hempty]
    trivial
  · constructor
    · intro other hother
      rw [hincidents, List.mem_singleton] at hother
      rw [hother]
      exact hsound.valid.validate_eq
    · intro other hother hresolved
      rw [hincidents, List.mem_singleton] at hother
      rw [hother] at hresolved
      cases hresolved
    · intro id other hother hopened
      exact absurd hopened (hnone id other hother)
    · intro id other hother _
      have hne : id ≠ (openIncident R observed).1.incidentId := fun heq =>
        hid (heq ▸ Dict.mem_keys_of_mem (Dict.mem_of_get hother))
      rw [Dict.get_set, if_neg hne]
      exact hother

/-- Every observation that meets the condition keeps the invariant, and does what it may. -/
theorem Observes.step (hobserves : Observes R store observed plan store')
    (hinv : Inv R key log store) (hfits : Fits R key log observed)
    (hmeets : Meets R log store observed) :
    Inv R key (observed :: log) store' ∧ StepSafe R log store observed plan store' := by
  obtain ⟨⟨openIncidents, hread, hplan⟩, -, hwritten⟩ := hobserves
  rw [hinv.openIncidents_eq] at hread
  obtain rfl := Except.ok.inj hread
  obtain ⟨hrows, hnone⟩ | ⟨incident, hrows, hget, hopened⟩ := hinv.openRows hfits
  all_goals rw [hrows] at hplan
  · obtain ⟨hincidents, hevents⟩ | ⟨heligible, hdeploying, hstatus, hincidents, hevents⟩ :=
      plan_none_cases R observed
    all_goals rw [← hplan] at hincidents hevents
    · obtain ⟨incidentEvents, hfold, rfl⟩ := write_eq none hincidents hwritten
      rw [hevents] at hfold
      obtain rfl := Except.ok.inj hfold
      exact ⟨hinv.pass fun id incident hget hopened => absurd hopened (hnone id incident hget),
        stepSafe_of_nil hincidents fun id incident hget hopened =>
          absurd hopened (hnone id incident hget)⟩
    · obtain ⟨incidentEvents, hfold, rfl⟩ := write_eq (some _) hincidents hwritten
      rw [hevents] at hfold
      exact hinv.writeFirst hfits hnone (hmeets.2 hnone heligible hdeploying hstatus) heligible
        hstatus hincidents hfold
  · obtain ⟨hid, hsound⟩ := hinv.sound _ _ hget
    have hcurrent := hinv.current _ _ hget hopened
    have hone := plan_one observed hsound
    rw [← hplan] at hone
    have hbelow := hmeets.1 _ _ hget hopened
    by_cases heligible : observed.incidentEligible = true
    · rw [if_pos heligible] at hone
      obtain ⟨hincidents, hevents⟩ := Prod.mk.inj hone
      have hchange := transitionIncident_change hcurrent hsound hfits
      obtain ⟨incidentEvents, hfold, rfl⟩ := write_eq (some _) hincidents hwritten
      rw [hevents] at hfold
      have hbelow' : observed.record.status ≠ .fail →
          recoveries log < observed.recoveryObservationThreshold := by
        obtain ⟨-, hfail⟩ | ⟨hineligible, -⟩ | hbelow := hbelow
        · exact fun h => absurd hfail h
        · simp [heligible] at hineligible
        · exact fun _ => hbelow
      have hsound' := hchange.sound hsound hfits fun hpass => by
        rw [hcurrent.counted]
        exact hbelow' (by simp [hpass])
      obtain ⟨hid', hcontinues⟩ := hchange.continues
      exact ⟨hinv.writeOpen hfits hget hopened hsound'
          (hchange.current hcurrent heligible) hid' hcontinues hfold,
        hinv.stepSafe hget hopened hid' hincidents hsound'
          (fun hresolved _ => hchange.recovered_of hcurrent heligible hopened hresolved)
          (hchange.resolved_of hcurrent heligible hbelow' hfits.threshold.1)⟩
    · have hineligible : observed.incidentEligible = false := by simpa using heligible
      rw [if_neg heligible] at hone
      have hsame : recoveries (observed :: log) = recoveries log := by
        simp [recoveries, hineligible]
      by_cases hpurpose : observed.record.purpose = .reconciliation
      · rw [if_pos hpurpose] at hone
        obtain ⟨hincidents, hevents⟩ := Prod.mk.inj hone
        obtain ⟨incidentEvents, hfold, rfl⟩ := write_eq (some _) hincidents hwritten
        rw [hevents] at hfold
        have hsound' : Sound R key (resolveIncident R incident observed.record
            observed.reconciliationReason (observed.record.summary ++
              " Previous incident evidence: " ++ incident.summary)).1 :=
          hsound.resolveIncident hfits
            (hfits.valid.summary.append hsound.valid.summary _) (by simp) (Nat.zero_le _)
        obtain ⟨hid', hcontinues, hresolved, hreason⟩ := resolveIncident_spec (R := R) incident
          observed observed.reconciliationReason
          (observed.record.summary ++ " Previous incident evidence: " ++ incident.summary)
        generalize resolveIncident R incident observed.record observed.reconciliationReason
          (observed.record.summary ++ " Previous incident evidence: " ++ incident.summary) =
            resolved at *
        refine ⟨hinv.writeOpen hfits hget hopened hsound' (fun h => ?_) hid' hcontinues hfold,
          hinv.stepSafe hget hopened hid' hincidents hsound' (fun _ h => ?_) fun _ => hresolved⟩
        · rw [hresolved] at h
          cases h
        · obtain h' | h' := hfits.reason <;> simp [hreason, h'] at h
      · rw [if_neg hpurpose] at hone
        obtain ⟨hincidents, hevents⟩ := Prod.mk.inj hone
        obtain ⟨incidentEvents, hfold, rfl⟩ := write_eq none hincidents hwritten
        rw [hevents] at hfold
        obtain rfl := Except.ok.inj hfold
        refine ⟨hinv.pass fun _ _ _ _ => hineligible,
          stepSafe_of_nil hincidents fun id other hother hopened' => ?_⟩
        obtain ⟨h, -⟩ | ⟨-, h⟩ | hbelow := hmeets.1 id other hother hopened'
        · exact absurd h heligible
        · exact absurd h hpurpose
        · rw [hsame]
          exact Nat.not_le.mpr hbelow

theorem Reaches.inv (h : Reaches R key (Meets R) log store) : Inv R key log store := by
  induction h with
  | empty => exact inv_empty
  | observe _ hfits hmeets hobserves ih => exact (hobserves.step ih hfits hmeets).1

/-- In every run whose observations meet the condition, every state that is reached is safe, and
every next observation that meets it does what it may. -/
theorem Reaches.honest (h : Reaches R key (Meets R) log store) :
    StateSafe R store ∧ ∀ observed plan store', Fits R key log observed →
      Meets R log store observed → Observes R store observed plan store' →
        StepSafe R log store observed plan store' :=
  ⟨h.inv.stateSafe, fun _ _ _ hfits hmeets hobserves =>
    (hobserves.step h.inv hfits hmeets).2⟩

theorem transitionIncident_checkKey (incident : IncidentRecord) :
    (transitionIncident R observed incident).1.checkKey R = observed.record.checkKey R := by
  cases hstatus : observed.record.status with
  | fail =>
    simp only [transitionIncident, hstatus]
    split_ifs <;> rfl
  | pass =>
    simp only [transitionIncident, hstatus]
    split_ifs <;> rfl
  | skipped =>
    simp only [transitionIncident, hstatus]
    rfl

/-- What a plan expects with no open incident. -/
theorem plan_none_expects (R : Runtime) (observed : Observed) :
    let plan := planPublicIngressIncidentTransition R [] observed
    plan.observation.checkKey R = observed.record.checkKey R ∧
      plan.expectedOpenIncidentId = "" := by
  rw [plan_none]
  by_cases heligible : observed.incidentEligible = true
  · cases hdeploying : observed.deploying with
    | some deploying => simp [heligible, ObservationRecord.checkKey]
    | none =>
      by_cases hstatus : observed.record.status = .fail <;>
        simp [heligible, hstatus, ObservationRecord.checkKey]
  · simp [heligible]

/-- What a plan expects with one open incident that is up to date. -/
theorem plan_one_expects (observed : Observed) {incident : IncidentRecord} (hsound : Sound R key incident) :
    let plan := planPublicIngressIncidentTransition R [incident] observed
    plan.observation.checkKey R = observed.record.checkKey R ∧
      plan.expectedOpenIncidentId = incident.incidentId ∧
      plan.expectedOpenIncidentStateVersion = incident.stateVersion ∧
      plan.expectedOpenIncidentSha256 = R.incidentSha256 incident := by
  have hexpired : expireIncidentSilence R incident observed.record.observedAt = incident :=
    if_pos (by rw [hsound.active]; decide)
  have hupgraded : upgraded R observed incident = (incident, []) :=
    if_neg (Nat.not_lt.mpr hsound.valid.schema)
  have hcanonical : canonicalIncident [incident] = some incident := rfl
  simp only [planPublicIngressIncidentTransition, hcanonical, hupgraded, hexpired]
  by_cases heligible : observed.incidentEligible = true
  · simp [heligible, transitionIncident_checkKey]
  · by_cases hpurpose : observed.record.purpose = .reconciliation <;>
      simp [heligible, hpurpose, ObservationRecord.checkKey]

/-- A plan over the stored records is never found to be out of date when it is written at once. -/
theorem Inv.unchanged (hinv : Inv R key log store) (hfits : Fits R key log observed) :
    store.incidentChanged R
      (planPublicIngressIncidentTransition R (store.openRows R observed.record) observed) =
        false := by
  have hfind (record : ObservationRecord) (hcheck : record.checkKey R = observed.record.checkKey R) :
      ((store.incidents.map (·.2)).find? fun incident =>
        incident.status = .opened ∧ incident.checkKey R = record.checkKey R) =
          (store.openRows R observed.record).head? := by
    rw [← List.head?_filter, Store.openRows, hcheck]
  unfold Store.incidentChanged
  obtain ⟨hrows, -⟩ | ⟨incident, hrows, hget, -⟩ := hinv.openRows hfits
  · obtain ⟨hcheck, hid⟩ := plan_none_expects R observed
    rw [hrows, hfind _ hcheck, hrows, hid]
    rfl
  · have hsound := (hinv.sound _ _ hget).2
    obtain ⟨hcheck, hid, hversion, hsha⟩ := plan_one_expects observed hsound
    rw [hrows, hfind _ hcheck, hrows, hid, hversion, hsha]
    simp [hsound.valid.incidentId.1, hsound.valid.validate_eq]

/-! ### A threshold that is lowered -/

theorem isSha256_eventDigests (identity : EventIdentity) :
    isSha256 (if identity.event = .opened then
      "4b227777d4dd1fc61c6f884f48641d02b4d121d3fd328cb08b5531fcacdabf8a"
    else "ef2d127de37b942baad06145e54b0c619a1f22327b2ebbcfbec78f5564afe39d") = true := by
  split <;> decide +kernel

/-- A runtime for ASCII texts. -/
def sampleRuntime : Runtime where
  table := { Secrets.CharacterTable.ascii with
    ascii := ascii_ascii
    noSpace := noSpace_of_isAlphanum }
  fingerprintSha256 _ := "4e07408562bedb8b60ce05c1decfe3ad16b72230967de01f640b7e4729b49fce"
  eventSha256 identity :=
    if identity.event = .opened then
      "4b227777d4dd1fc61c6f884f48641d02b4d121d3fd328cb08b5531fcacdabf8a"
    else "ef2d127de37b942baad06145e54b0c619a1f22327b2ebbcfbec78f5564afe39d"
  incidentSha256 incident := if incident.stateVersion = 1 then "6b86b273" else "d4735e3a"
  parseUtcTimestamp _ := none
  fingerprint_hex _ := by decide +kernel
  event_hex := isSha256_eventDigests

/-- An observation of a web site's check. -/
def sampleObserved (observedAt : String) (status : ObservationStatus) (threshold : Nat) :
    Observed where
  record :=
    { recordId := "public-ingress-shop-production-web-" ++ observedAt
      product := "shop"
      context := "production"
      instanceName := "web"
      observedAt
      status
      failureCode := if status = .fail then some .httpError else none
      summary := "Checked shop." }
  incidentEligible := true
  recoveryObservationThreshold := threshold
  builtFingerprint := ⟨.publicHttp, .httpError, .http, .critical, "{}"⟩

/-- The check of the sample. -/
def sampleKey : CheckKey := ⟨"shop", "production", "web", [], .publicHttp⟩

/-- A failing observation, two passing ones, and the threshold lowered from 3 to 1 between them. -/
def sampleFailed : Observed := sampleObserved "t0" .fail 3
def samplePassed : Observed := sampleObserved "t1" .pass 3
def sampleLowered : Observed := sampleObserved "t2" .pass 1

/-- The stores after the first two, and the plan of the third. -/
def sampleOpened : IncidentRecord := (openIncident sampleRuntime sampleFailed).1
def sampleCounted : IncidentRecord := countRecovery samplePassed sampleOpened 1
def sampleStore (incident : IncidentRecord) : Store :=
  ⟨[(incident.incidentId, incident)],
    [((openIncident sampleRuntime sampleFailed).2.eventId,
      (openIncident sampleRuntime sampleFailed).2)]⟩
def samplePlan : PlannedIncidentTransition :=
  planPublicIngressIncidentTransition sampleRuntime [sampleCounted] sampleLowered

/-- What the third makes of the incident. -/
def sampleResolution : IncidentRecord × EventRecord :=
  resolveIncident sampleRuntime sampleCounted sampleLowered.record .recovered "Checked shop." 2
    (some 1)
def sampleResolved : Store :=
  ⟨[(sampleOpened.incidentId, sampleResolution.1)],
    [((openIncident sampleRuntime sampleFailed).2.eventId,
        (openIncident sampleRuntime sampleFailed).2),
      (sampleResolution.2.eventId, sampleResolution.2)]⟩

theorem fits_sample {observedAt : String} {status : ObservationStatus} {threshold : Nat}
    {log : List Observed} (htime : IsText observedAt)
    (hid : IsText (sampleObserved observedAt status threshold).record.recordId)
    (hthreshold : 1 ≤ threshold ∧ threshold ≤ 10)
    (hfresh : ∀ earlier ∈ log, earlier.record.recordId ≠
      (sampleObserved observedAt status threshold).record.recordId) :
    Fits sampleRuntime sampleKey log (sampleObserved observedAt status threshold) where
  valid := {
    recordId := hid
    product := show IsText "shop" by decide
    context := show IsText "production" by decide
    instanceName := show IsText "web" by decide
    checkName := show IsText "public-ingress" by decide
    observedAt := htime
    summary := show IsText "Checked shop." by decide
    repository := rfl
    driverId := rfl
    failed := fun h => by
      show (if status = .fail then some FailureCode.httpError else none) ≠ none
      rw [if_pos (show status = .fail from h)]
      simp
    reconciled := fun h => by cases h }
  check := by
    have htoken : canonicalHealthCheckRecordToken sampleRuntime.table "public-ingress" = [] := by
      decide +kernel
    show CheckKey.mk "shop" "production" "web"
      (canonicalHealthCheckRecordToken sampleRuntime.table "public-ingress") .publicHttp = sampleKey
    rw [htoken]
    rfl
  fresh := hfresh
  threshold := hthreshold
  reason := .inl rfl

theorem set_singleton {β : Type} (id : String) (value value' : β) :
    Dict.set [(id, value)] id value' = [(id, value')] := by
  simp [Dict.set, Dict.keys]

theorem writeEvent_nil (event : EventRecord) :
    writeEvent [] event = .ok [(event.eventId, event)] := by
  simp [writeEvent, Dict.set]

/-- One incident and its first event. -/
theorem write_first (plan : PlannedIncidentTransition) {incident : IncidentRecord}
    {event : EventRecord} (hincidents : plan.incidents = [incident])
    (hevents : plan.incidentEvents = [event]) :
    Store.write {} plan = .ok ⟨[(incident.incidentId, incident)], [(event.eventId, event)]⟩ := by
  simp [Store.write, hincidents, hevents, writeEvent_nil, Dict.set, bind, Except.bind, pure,
    Except.pure]

theorem fits_failed : Fits sampleRuntime sampleKey [] sampleFailed :=
  fits_sample (by decide) (by decide) (by decide) (by simp)

theorem fits_passed : Fits sampleRuntime sampleKey [sampleFailed] samplePassed :=
  fits_sample (by decide) (by decide) (by decide) (by decide)

theorem fits_lowered : Fits sampleRuntime sampleKey [samplePassed, sampleFailed] sampleLowered :=
  fits_sample (by decide) (by decide) (by decide) (by decide)

theorem meets_failed : Meets sampleRuntime [] {} sampleFailed :=
  ⟨by simp, fun _ _ _ _ => by simp⟩

theorem meets_passed : Meets sampleRuntime [sampleFailed] (sampleStore sampleOpened) samplePassed :=
  ⟨fun _ _ _ _ => .inr (.inr (by decide)), fun _ _ _ h => by cases h⟩

theorem observes_failed : Observes sampleRuntime {} sampleFailed
    (planPublicIngressIncidentTransition sampleRuntime [] sampleFailed)
    (sampleStore sampleOpened) :=
  ⟨⟨[], rfl, rfl⟩, inv_empty.unchanged fits_failed, write_first _ rfl rfl⟩

/-- In the sample's stores the incident is open. -/
theorem openRows_sample {incident : IncidentRecord}
    (hinv : Inv sampleRuntime sampleKey log (sampleStore incident))
    (hfits : Fits sampleRuntime sampleKey log observed) (hopened : incident.status = .opened) :
    (sampleStore incident).openRows sampleRuntime observed.record = [incident] := by
  have hget : (sampleStore incident).incidents.get incident.incidentId = some incident := by
    simp [sampleStore, Dict.get_cons]
  obtain ⟨-, hnone⟩ | ⟨other, hrows, hother, hopened'⟩ := hinv.openRows hfits
  · exact absurd hopened (hnone _ _ hget)
  · have hid := hinv.oneOpen _ _ _ _ hother hget hopened' hopened
    rw [hid, hget] at hother
    rw [hrows, Option.some.inj hother]

theorem observes_sample {incident : IncidentRecord}
    (hinv : Inv sampleRuntime sampleKey log (sampleStore incident))
    (hfits : Fits sampleRuntime sampleKey log observed) (hopened : incident.status = .opened)
    (hwritten : (sampleStore incident).write
      (planPublicIngressIncidentTransition sampleRuntime [incident] observed) = .ok store') :
    Observes sampleRuntime (sampleStore incident) observed
      (planPublicIngressIncidentTransition sampleRuntime [incident] observed) store' := by
  have hrows := openRows_sample hinv hfits hopened
  have hunchanged := hinv.unchanged hfits
  rw [hrows] at hunchanged
  exact ⟨⟨[incident], hrows ▸ hinv.openIncidents_eq _, rfl⟩, hunchanged, hwritten⟩

theorem inv_opened : Inv sampleRuntime sampleKey [sampleFailed] (sampleStore sampleOpened) :=
  (observes_failed.step inv_empty fits_failed meets_failed).1

theorem plan_passed :
    let plan := planPublicIngressIncidentTransition sampleRuntime [sampleOpened] samplePassed
    plan.incidents = [sampleCounted] ∧ plan.incidentEvents = [] := by
  have hget : (sampleStore sampleOpened).incidents.get sampleOpened.incidentId =
      some sampleOpened := by
    simp [sampleStore, Dict.get_cons]
  have hsound := (inv_opened.sound _ _ hget).2
  have hchange := transitionIncident_change (inv_opened.current _ _ hget rfl) hsound fits_passed
  have hone := plan_one samplePassed hsound
  rw [if_pos (show samplePassed.incidentEligible = true from rfl)] at hone
  obtain ⟨hincidents, hevents⟩ := Prod.mk.inj hone
  show PlannedIncidentTransition.incidents _ = _ ∧ PlannedIncidentTransition.incidentEvents _ = _
  rw [hincidents, hevents]
  generalize (transitionIncident sampleRuntime samplePassed sampleOpened).2 = transition at hchange
  obtain ⟨incident, events⟩ := transition
  cases hchange with
  | kept hstatus => cases hstatus
  | failed hstatus => cases hstatus
  | updated hstatus => cases hstatus
  | counted => exact ⟨rfl, rfl⟩
  | recovered _ henough => exact absurd henough (by decide)

theorem observes_passed : Observes sampleRuntime (sampleStore sampleOpened) samplePassed
    (planPublicIngressIncidentTransition sampleRuntime [sampleOpened] samplePassed)
    (sampleStore sampleCounted) := by
  refine observes_sample inv_opened fits_passed rfl ?_
  obtain ⟨hincidents, hevents⟩ := plan_passed
  have hid : sampleCounted.incidentId = sampleOpened.incidentId := rfl
  simp only [Store.write, hincidents, hevents, List.foldlM_nil, List.foldl_cons, List.foldl_nil,
    sampleStore, hid, set_singleton, bind, Except.bind, pure, Except.pure]

theorem inv_counted :
    Inv sampleRuntime sampleKey [samplePassed, sampleFailed] (sampleStore sampleCounted) :=
  (observes_passed.step inv_opened fits_passed meets_passed).1

theorem plan_lowered : samplePlan.incidents = [sampleResolution.1] ∧
    samplePlan.incidentEvents = [sampleResolution.2] := by
  have hget : (sampleStore sampleCounted).incidents.get sampleCounted.incidentId =
      some sampleCounted := by
    simp [sampleStore, Dict.get_cons]
  have hsound := (inv_counted.sound _ _ hget).2
  have hchange := transitionIncident_change (inv_counted.current _ _ hget rfl) hsound fits_lowered
  have hone := plan_one sampleLowered hsound
  rw [if_pos (show sampleLowered.incidentEligible = true from rfl)] at hone
  obtain ⟨hincidents, hevents⟩ := Prod.mk.inj hone
  rw [samplePlan, hincidents, hevents]
  generalize (transitionIncident sampleRuntime sampleLowered sampleCounted).2 = transition
    at hchange
  obtain ⟨incident, events⟩ := transition
  cases hchange with
  | kept hstatus => cases hstatus
  | failed hstatus => cases hstatus
  | updated hstatus => cases hstatus
  | counted _ hfew => exact absurd hfew (by decide)
  | recovered => exact ⟨rfl, rfl⟩

theorem observes_lowered : Observes sampleRuntime (sampleStore sampleCounted) sampleLowered
    samplePlan sampleResolved := by
  refine observes_sample inv_counted fits_lowered rfl ?_
  obtain ⟨hincidents, hevents⟩ := plan_lowered
  have hid : sampleResolution.1.incidentId = sampleOpened.incidentId := rfl
  have hid' : sampleCounted.incidentId = sampleOpened.incidentId := rfl
  have hevent : (openIncident sampleRuntime sampleFailed).2.eventId ≠
      sampleResolution.2.eventId := by
    decide +kernel
  show Store.write _ samplePlan = _
  simp [Store.write, hincidents, hevents, sampleStore, hid, hid', bind, Except.bind, pure,
    Except.pure, writeEvent, Dict.get_cons, hevent, hevent.symm, Dict.set, Dict.keys,
    sampleResolved]

/-- Without the condition: two passing observations are more than the threshold that is in force
when the second is planned, and the record that is planned fails its own check. -/
theorem honest_lowered :
    ¬∀ (R : Runtime) (key : CheckKey) (log : List Observed) (store : Store),
      Reaches R key (fun _ _ _ => True) log store →
        StateSafe R store ∧ ∀ observed plan store', Fits R key log observed →
          Observes R store observed plan store' → StepSafe R log store observed plan store' := by
  intro hclaim
  have hreaches : Reaches sampleRuntime sampleKey (fun _ _ _ => True) [samplePassed, sampleFailed]
      (sampleStore sampleCounted) :=
    (Reaches.empty.observe fits_failed trivial observes_failed).observe fits_passed trivial
      observes_passed
  have hreadable := ((hclaim _ _ _ _ hreaches).2 _ _ _ fits_lowered observes_lowered).readable
    sampleResolution.1 (by simp [plan_lowered.1])
  exact absurd hreadable (by decide +kernel)

/-- With the threshold kept, the incident is open after a passing observation. -/
theorem Reaches.honest_sample :
    Reaches sampleRuntime sampleKey (Meets sampleRuntime) [samplePassed, sampleFailed]
      (sampleStore sampleCounted) ∧ StateSafe sampleRuntime (sampleStore sampleCounted) := by
  have hreaches := (Reaches.empty.observe fits_failed meets_failed observes_failed).observe
    fits_passed meets_passed observes_passed
  exact ⟨hreaches, hreaches.honest.1⟩

end Launchplane.PublicIngress
