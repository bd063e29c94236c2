import Launchplane.Mutation.Fenced

/-!
# Launchplane.Mutation.Interleaved

**Every call keeps the rows and the log together.** One lemma for every transaction
says what a call that makes it leaves behind, and what the caller knows afterwards.
From these follow the runs of any number of calls.
-/

namespace Launchplane.Mutation

open Interaction MutationStore

variable {ω : Type} {operation : ω → DurableOperation} {store store' : MutationStore} {log : Log ω}
  {w : ω} {stage : Stage} {old new reservation : IdempotencyRecord}

/-- The rows are what the log says, and the log is in order. -/
structure Sound (operation : ω → DurableOperation) (rows : Rows) (log : Log ω) : Prop where
  agrees : Agrees (fun w => (operation w).owner) rows log
  fenced : log.Fenced

/-- What a performed call leaves: whether its answer arrives or is lost. -/
structure Advances (operation : ω → DurableOperation) (w : ω) (stage : Stage) (call : OperationCall)
    (response : OperationResponse call) (store store' : MutationStore) (log : Log ω) : Prop where
  runs : RunsOnly operation w log store.recordOf store'.recordOf
  sound : Sound operation store'.recordOf (call.events w response ++ log)
  fits : Log.Fits operation store'.recordOf (call.events w response) log
  answered : Knows operation store'.recordOf (call.events w response ++ log) w
    (DurableOperation.next stage call (.ok response))
  lost : ∀ error, Knows operation store'.recordOf (call.events w response ++ log) w
    (DurableOperation.next stage call (.error error))

/-! ### The rows -/

namespace Agrees

variable {owner : ω → String} {rows rows' : Rows}

/-- A row is written again by whoever has its target. -/
theorem rewrite_row (h : Agrees owner rows log)
    (hput : ∀ key, rows' key = if key = new.key then some new else rows key)
    (hold : rows new.key = some old) (hsame : old.SameHolder new) : Agrees owner rows' log := by
  obtain ⟨v, hv, hholds, hevidence⟩ := h.held new.key old hold hsame.open_.1
  have hmet := h.met new.key old hold
  refine h.put hput hsame.open_.2 (hsame.providerTargetKey ▸ h.target _ _ hold)
    (.inr ⟨old, hold, hsame.open_.1, hsame.providerTargetKey.symm⟩) (w := v) ⟨?_, ⟨?_, ?_⟩, ?_⟩
    (fun _ _ => ⟨rfl, rfl, rfl⟩) ?_ ?_ fun _ h => h
  · rw [hv, hsame.leaseOwner]
  · rw [hsame.providerTargetKey, hsame.key, hholds.holder]
  · rw [hsame.providerTargetKey, hholds.held]
  · rw [hsame.providerTargetKey, hsame.evidence, hevidence]
  · intro key record hrecord hrecordOwner
    exact h.once _ _ hrecord _ _ hold (hrecordOwner.trans hsame.leaseOwner)
  · obtain ⟨u, hu, huOwner⟩ := hmet
    exact ⟨u, hu, huOwner.trans hsame.leaseOwner.symm⟩

theorem of_quiet (h : Agrees owner store.recordOf log) (hquiet : Quiet store store') :
    Agrees owner store'.recordOf log := by
  cases hquiet with
  | same => exact h
  | put hold hsame hput => exact h.rewrite_row hput hold hsame

/-- A target is acquired that nobody has, or as the row that stands for it. -/
theorem acquired (h : Agrees owner rows log) (means : Means)
    (hput : ∀ key, rows' key = if key = new.key then some new else rows key)
    (hrunning : new.state = .running) (htarget : new.providerTargetKey ≠ "")
    (hplace : (rows new.key = none ∧ log.vacant new.providerTargetKey = true) ∨
      ∃ old, rows new.key = some old ∧ old.state ≠ .completed ∧
        old.providerTargetKey = new.providerTargetKey)
    (hw : new.leaseOwner = owner w) (howner : Function.Injective owner) (hnot : ¬log.Acquired w) :
    Agrees owner rows' (.acquired w new means :: log) := by
  obtain ⟨hholds, hevidence⟩ := @Log.holds_acquired ω w log new means
  have hmem : Event.acquired w new means ∈ Event.acquired w new means :: log := List.mem_cons_self
  refine h.put hput (by rw [hrunning]; decide) htarget hplace ⟨hw.symm, hholds, hevidence⟩
    (fun target hne => Log.sameFor_cons fun heq => hne (Option.some.inj heq).symm)
    (fun key record hrecord hsame => absurd (hsame.trans hw) (h.leaseOwner_ne howner hnot hrecord))
    ⟨w, ⟨new, means, hmem⟩, hw.symm⟩ fun _ h => h.cons

/-- The effect of a holder is recorded. -/
theorem checkpointed (h : Agrees owner store.recordOf log)
    (hheld : Held store store' reservation old new) (hholds : log.Holds w old)
    (hw : old.leaseOwner = owner w) :
    log.Holds w new ∧ Agrees owner store'.recordOf (.checkpointed w new :: log) := by
  have hopen : old.state ≠ .completed := by
    rw [hheld.running.1]
    decide
  have hrow : store.recordOf new.key = some old := by
    rw [hheld.key, key_of_recordOf hheld.found]
    exact hheld.found
  have hnew : log.Holds w new := by
    refine ⟨?_, ?_⟩
    · rw [hheld.providerTargetKey, hheld.key, hholds.holder]
    · rw [hheld.providerTargetKey, hholds.held]
  obtain ⟨hholds', hevidence⟩ := Log.holds_checkpointed hnew
  obtain ⟨u, hu, huOwner⟩ := h.met new.key old hrow
  refine ⟨hnew, h.put hheld.put (by rw [hheld.running.2]; decide)
    (hheld.providerTargetKey ▸ h.target _ _ hrow)
    (.inr ⟨old, hrow, hopen, hheld.providerTargetKey.symm⟩)
    ⟨?_, hholds', hevidence⟩
    (fun target hne => Log.sameFor_cons fun heq => hne (Option.some.inj heq).symm)
    (fun key record hrecord hsame => h.once _ _ hrecord _ _ hrow (hsame.trans hheld.leaseOwner))
    ⟨u, hu.cons, huOwner.trans hheld.leaseOwner.symm⟩ fun _ h => h.cons⟩
  rw [hheld.leaseOwner, hw]

/-- A reservation is given back. -/
theorem released (h : Agrees owner store.recordOf log) (hold : store.recordOf reservation.key = some old)
    (hopen : old.state ≠ .completed) (hmatches : old.Matches reservation)
    (hdropped : Dropped store store' reservation.key) (w : ω) :
    Agrees owner store'.recordOf (.released w reservation :: log) :=
  h.settle hdropped hold hopen (fun _ h => by cases h)
    (Log.vacant_of_leaves rfl (by simp [Event.leaves, hmatches.providerTargetKey]))
    (fun target hne => Log.sameFor_cons fun heq =>
      hne ((Option.some.inj heq).symm.trans hmatches.providerTargetKey.symm)) fun _ h => h.cons

/-- A reservation is over. -/
theorem ended (h : Agrees owner store.recordOf log) (hended : Ended store store' reservation old new)
    (w : ω) (ending : Ending) : Agrees owner store'.recordOf (.ended w new ending :: log) := by
  have hkey : new.key = reservation.key := hended.key.trans (key_of_recordOf hended.found)
  refine h.settle (fun key => hkey ▸ hended.put key) hended.found hended.open_ ?_
    (Log.vacant_of_leaves rfl (by simp [Event.leaves, hended.providerTargetKey]))
    (fun target hne => Log.sameFor_cons fun heq =>
      hne ((Option.some.inj heq).symm.trans hended.providerTargetKey)) fun _ h => h.cons
  rintro record ⟨⟩
  exact ⟨hended.completed, hended.key, hended.leaseOwner, hended.providerTargetKey⟩

end Agrees

/-! ### Who runs -/

namespace RunsOnly

theorem of_same : RunsOnly operation w log store.recordOf store.recordOf :=
  fun key row hrow hrunning => .inl ⟨key, row, hrow, hrunning, rfl⟩

/-- A row that is written runs no more than the row it replaces. -/
theorem of_put (hput : Put store store' new)
    (hnew : new.state = .running → (∃ key old, store.recordOf key = some old ∧ old.state = .running ∧
      old.leaseOwner = new.leaseOwner) ∨ ¬log.Acquired w ∧ new.leaseOwner = (operation w).owner) :
    RunsOnly operation w log store.recordOf store'.recordOf := by
  intro key row hrow hrunning
  rw [hput] at hrow
  split_ifs at hrow
  · cases hrow
    exact hnew hrunning
  · exact .inl ⟨key, row, hrow, hrunning, rfl⟩

theorem of_quiet (hquiet : Quiet store store') :
    RunsOnly operation w log store.recordOf store'.recordOf := by
  cases hquiet with
  | same => exact of_same
  | put hold hsame hput =>
      exact of_put hput fun hrunning =>
        .inl ⟨_, _, hold, hsame.running hrunning, hsame.leaseOwner.symm⟩

theorem of_held (hheld : Held store store' reservation old new) :
    RunsOnly operation w log store.recordOf store'.recordOf :=
  of_put hheld.put fun _ => .inl ⟨_, old, hheld.found, hheld.running.1, hheld.leaseOwner.symm⟩

theorem of_ended (hended : Ended store store' reservation old new) :
    RunsOnly operation w log store.recordOf store'.recordOf :=
  of_put hended.put fun hrunning => by cases hended.completed.symm.trans hrunning

end RunsOnly

/-- What is neither an acquisition nor a record of an effect fits anything. -/
theorem fits_of {rows : Rows} {event : Event ω}
    (hacquired : ∀ u record means, event ≠ .acquired u record means)
    (hchecked : ∀ u record, event ≠ .checkpointed u record) : event.Fits operation rows log :=
  ⟨fun u record means heq => absurd heq (hacquired u record means),
    fun u record heq => absurd heq (hchecked u record)⟩

theorem fits_acquired {rows : Rows} {means : Means} (hnot : ¬log.Acquired w) :
    Event.Fits operation rows log (.acquired w new means) where
  first := by
    rintro u record means ⟨⟩
    exact hnot
  runs := fun _ _ heq => by cases heq

/-! ### Reserving -/

/-- Whoever is refused has seen a row. -/
theorem knows_of_refused {result : MutationResult}
    (h : Agrees (fun w => (operation w).owner) store'.recordOf log)
    (hrefused : Refused store' (operation w).request result) (hnot : ¬log.Acquired w) :
    Knows operation store'.recordOf log w (.ofResult result) := by
  obtain ⟨status, record⟩ := result
  have hshown : ∀ shown, record = some shown → Shown operation store'.recordOf log w shown := by
    intro shown hshown
    have hrow := (hrefused.shown shown hshown).1
    refine ⟨hnot, h.met _ _ hrow, fun hstate key row hrow' hsame hrunning => ?_⟩
    -- the owner has no other row
    obtain rfl := h.once _ _ hrow' _ _ hrow hsame
    rw [hrow] at hrow'
    cases hrow'
    cases hstate.symm.trans hrunning
  by_cases hacquired : status = .acquired
  · exact absurd hacquired hrefused.status
  by_cases hbusy : status = .targetBusy
  · subst hbusy
    cases record with
    | none => trivial
    | some shown => exact hshown shown rfl
  by_cases hreconcile : status = .reconcileRequired
  · subst hreconcile
    cases record with
    | none => exact hnot
    | some shown =>
        obtain ⟨hkey, hstate⟩ := (hrefused.shown shown rfl).2 rfl
        exact ⟨hshown shown rfl, hstate, hkey⟩
  · cases status
    case acquired => exact absurd rfl hacquired
    case targetBusy => exact absurd rfl hbusy
    case reconcileRequired => exact absurd rfl hreconcile
    all_goals trivial

theorem events_insertReservation (w : ω) (request : ReserveRequest) {result : MutationResult}
    (h : result.status ≠ .acquired) :
    (OperationCall.insertReservation request).events w (some result) = [] := by
  obtain ⟨status, record⟩ := result
  cases status <;> first | rfl | exact absurd rfl h

theorem events_resolveCollision (w : ω) (request : ReserveRequest) {result : MutationResult}
    (h : result.status ≠ .acquired) :
    (OperationCall.resolveCollision request).events w (some result) = [] := by
  obtain ⟨status, record⟩ := result
  cases status <;> first | rfl | exact absurd rfl h

/-- What is newly acquired has its target to itself. -/
theorem sound_acquired {rows' : Rows} (means : Means) (h : Sound operation store.recordOf log)
    (hagrees : Agrees (fun w => (operation w).owner) rows' (.acquired w new means :: log))
    (hnot : ¬log.Acquired w) (hadmits : log.Admits w new means) :
    Sound operation rows' (.acquired w new means :: log) :=
  ⟨hagrees, ⟨hnot, hadmits⟩, h.fenced⟩

/-- The index of the rows keeps two of them from standing for a target. -/
theorem vacant_of_fresh (h : Agrees (fun w => (operation w).owner) store.recordOf log)
    (hput : Put store store' new) (hnone : store.recordOf new.key = none)
    (hrunning : new.state = .running) (htarget : new.providerTargetKey ≠ "") :
    log.vacant new.providerTargetKey = true := by
  by_contra hheld
  obtain ⟨key, record, hrecord, hopen, hsame⟩ := h.row _ (Bool.eq_false_iff.mpr hheld)
  have hkey : key ≠ new.key := by
    rintro rfl
    rw [hnone] at hrecord
    cases hrecord
  have hrecord' : store'.recordOf key = some record := by rw [hput, if_neg hkey, hrecord]
  refine hkey (key_eq_of_target hrecord' hput.self (?_ : _ = some new.providerTargetKey) ?_)
  · exact if_pos ⟨hopen, hsame ▸ htarget⟩ |>.trans (congrArg some hsame)
  · exact if_pos ⟨by rw [hrunning]; decide, htarget⟩

theorem advances_insertReservation (howner : Function.Injective fun w => (operation w).owner)
    {request : ReserveRequest} {found : Option MutationResult}
    (h : Sound operation store.recordOf log) (hnot : ¬log.Acquired w)
    (hrequest : request = (operation w).request ∧ request.targetKey ≠ "")
    (hrun : (OperationCall.insertReservation request).Runs store found store') :
    Advances operation w .starting (.insertReservation request) found store store' log := by
  obtain ⟨rfl, htarget⟩ := hrequest
  obtain ⟨now, draining, hrun⟩ := hrun
  rcases insertReservation_cases hrun with ⟨hquiet, hrefused⟩ | ⟨new, rfl, hfresh, hnone, hput⟩
  · have hagrees := h.agrees.of_quiet hquiet
    cases found with
    | none => exact ⟨.of_quiet hquiet, ⟨hagrees, h.fenced⟩, trivial, hnot, fun _ => trivial⟩
    | some result =>
        have hevents := events_insertReservation w (operation w).request
          (hrefused result rfl).status
        refine ⟨.of_quiet hquiet, ?_, ?_, ?_, fun _ => trivial⟩ <;> rw [hevents]
        · exact ⟨hagrees, h.fenced⟩
        · trivial
        · exact knows_of_refused hagrees (hrefused result rfl) hnot
  · have hnewTarget : new.providerTargetKey ≠ "" := hfresh.providerTargetKey ▸ htarget
    have hvacant := vacant_of_fresh h.agrees hput hnone hfresh.state hnewTarget
    have hagrees := h.agrees.acquired .fresh hput hfresh.state hnewTarget (.inl ⟨hnone, hvacant⟩)
      (w := w) hfresh.leaseOwner howner hnot
    exact ⟨.of_put hput fun _ => .inr ⟨hnot, hfresh.leaseOwner⟩,
      sound_acquired .fresh h hagrees hnot hvacant, ⟨fits_acquired hnot, trivial⟩,
      ⟨hfresh.leaseOwner, (fun h => by cases h), fun _ => congrArg Prod.snd hfresh.evidence⟩,
      fun _ => trivial⟩

/-- A row that stands for a target has a provider to reconcile with: none is reclaimed. -/
theorem not_reclaimed {request : ReserveRequest} {key : ReservationKey}
    (h : Agrees (fun w => (operation w).owner) store.recordOf log)
    (hold : store.recordOf key = some old) : ¬Reclaimed request old new :=
  fun hreclaimed => (valid_of_recordOf hold).target (h.target _ _ hold) hreclaimed.unbound

theorem advances_resolveCollision {request : ReserveRequest} {found : Option MutationResult}
    (h : Sound operation store.recordOf log) (hnot : ¬log.Acquired w)
    (hrequest : request = (operation w).request ∧ request.targetKey ≠ "")
    (hrun : (OperationCall.resolveCollision request).Runs store found store') :
    Advances operation w .starting (.resolveCollision request) found store store' log := by
  obtain ⟨rfl, -⟩ := hrequest
  obtain ⟨now, draining, hrun⟩ := hrun
  rcases resolveCollision_cases hrun with ⟨hquiet, hrefused⟩ | ⟨old, new, hold, -, hreclaimed, -⟩
  · have hagrees := h.agrees.of_quiet hquiet
    cases found with
    | none => exact ⟨.of_quiet hquiet, ⟨hagrees, h.fenced⟩, trivial, hnot, fun _ => trivial⟩
    | some result =>
        have hevents := events_resolveCollision w (operation w).request
          (hrefused result rfl).status
        refine ⟨.of_quiet hquiet, ?_, ?_, ?_, fun _ => trivial⟩ <;> rw [hevents]
        · exact ⟨hagrees, h.fenced⟩
        · trivial
        · exact knows_of_refused hagrees (hrefused result rfl) hnot
  · exact absurd hreclaimed (not_reclaimed h.agrees hold)

/-! ### Reconciling -/

/-- What is seen of a target now has been seen since it was taken. -/
theorem stillSince_self {owner : ω → String} {event : Event ω} {record : IdempotencyRecord}
    (h : event.about = none) : StillSince owner (event :: log) record event := by
  intro v key _ _
  have hnone : event.takes record.providerTargetKey = false ∧
      event.records record.providerTargetKey = false := by
    cases event <;> first | exact ⟨rfl, rfl⟩ | cases h
  rw [Log.since_cons hnone.1 hnone.2]
  exact List.mem_cons_self

/-- What is seen leaves what was shown. -/
theorem Shown.cons {rows : Rows} {event : Event ω} {record : IdempotencyRecord}
    (hnew : ∀ record means, event ≠ .acquired w record means)
    (h : Shown operation rows log w record) : Shown operation rows (event :: log) w record :=
  ⟨not_acquired_cons hnew h.unacquired, h.met.cons, h.waiting⟩

theorem advances_quiescent {record : IdempotencyRecord} {quiescent : Bool}
    (h : Sound operation store.recordOf log)
    (hknows : Knows operation store.recordOf log w (.busy record))
    (hstate : record.state = .reconcileRequired) :
    Advances operation w (.busy record) (.quiescent record) quiescent store store log := by
  cases quiescent with
  | false => exact ⟨.of_same, h, trivial, trivial, fun _ => hknows⟩
  | true =>
      have hsound : Sound operation store.recordOf (.quiescent w record :: log) :=
        ⟨h.agrees.cons rfl, trivial, h.fenced⟩
      have hshown : Shown operation store.recordOf (.quiescent w record :: log) w record :=
        Shown.cons (fun _ _ h => by cases h) hknows
      have hfits : Event.Fits operation store.recordOf log (.quiescent w record) :=
        fits_of (fun _ _ _ h => by cases h) fun _ _ h => by cases h
      exact ⟨.of_same, hsound, ⟨hfits, trivial⟩, ⟨hshown, hstate, stillSince_self rfl⟩,
        fun _ => hshown⟩

theorem advances_observe {key : ProviderOperationKey} {phase : String} {effectStartedAt : Option Nat}
    {observation : ProviderObservation} {record : Option IdempotencyRecord}
    (h : Sound operation store.recordOf log)
    (hknows : Knows operation store.recordOf log w (.reconciling record))
    (hallowed : (operation w).Allowed (.reconciling record) (.observe key phase effectStartedAt)) :
    Advances operation w (.reconciling record) (.observe key phase effectStartedAt) observation store
      store log := by
  have hsound : Sound operation store.recordOf
      (.observed w key.key (phase, effectStartedAt) observation :: log) :=
    ⟨h.agrees.cons rfl, trivial, h.fenced⟩
  have hfits : Event.Fits operation store.recordOf log
      (.observed w key.key (phase, effectStartedAt) observation) :=
    fits_of (fun _ _ _ h => by cases h) fun _ _ h => by cases h
  cases record with
  | none => exact ⟨.of_same, hsound, ⟨hfits, trivial⟩, trivial, fun _ => trivial⟩
  | some record =>
      have hshown : Shown operation store.recordOf
          (.observed w key.key (phase, effectStartedAt) observation :: log) w record :=
        hknows.1.cons fun _ _ h => by cases h
      refine ⟨.of_same, hsound, ⟨hfits, trivial⟩, ⟨hshown, hknows.2.1, ?_⟩, fun _ => trivial⟩
      have hseen : Event.observed w key.key (phase, effectStartedAt) observation =
          .observed w record.key record.evidence observation := by
        rw [hallowed.1, hallowed.2, hknows.2.2]
      show StillSince _ (Event.observed w key.key (phase, effectStartedAt) observation :: log) _ _
      rw [hseen]
      exact stillSince_self rfl

/-- A row that matches what was observed still has what was seen. -/
theorem mem_since_of_matches {event : Event ω} {record : IdempotencyRecord} {key : ReservationKey}
    (h : Agrees (fun w => (operation w).owner) store.recordOf log)
    (hold : store.recordOf key = some old) (hopen : old.state ≠ .completed)
    (hmatches : old.Matches record)
    (hstill : StillSince (fun w => (operation w).owner) log record event) :
    log.evidence old.providerTargetKey = record.evidence ∧
      event ∈ log.since old.providerTargetKey := by
  obtain ⟨v, hv, hholds, hevidence⟩ := h.held key old hold hopen
  refine ⟨hevidence.trans hmatches.evidence, ?_⟩
  rw [hmatches.providerTargetKey]
  refine hstill v old.key (hv.trans hmatches.leaseOwner) ?_
  rw [← hmatches.providerTargetKey, hholds.holder]

theorem events_retry (w : ω) (stage : Stage) (record : IdempotencyRecord) (leaseOwner : String)
    (leaseSeconds : Nat) (preserve : Bool) {result : MutationResult} (h : result.status ≠ .acquired) :
    (OperationCall.retry record leaseOwner leaseSeconds preserve).events w result = [] ∧
      DurableOperation.next stage (.retry record leaseOwner leaseSeconds preserve) (.ok result) =
        .done := by
  obtain ⟨status, record⟩ := result
  cases status <;> first | exact ⟨rfl, rfl⟩ | exact absurd rfl h

theorem advances_retry (howner : Function.Injective fun w => (operation w).owner)
    {record reservation : IdempotencyRecord} {observation : ProviderObservation}
    {leaseOwner : String} {leaseSeconds : Nat} {preserve : Bool} {result : MutationResult}
    (h : Sound operation store.recordOf log)
    (hknows : Knows operation store.recordOf log w (.observed record observation))
    (hallowed : (operation w).Allowed (.observed record observation)
      (.retry reservation leaseOwner leaseSeconds preserve))
    (hrun : (OperationCall.retry reservation leaseOwner leaseSeconds preserve).Runs store result
      store') :
    Advances operation w (.observed record observation)
      (.retry reservation leaseOwner leaseSeconds preserve) result store store' log := by
  obtain ⟨rfl, rfl, habsent, hsafe⟩ := hallowed
  obtain ⟨hshown, -, hstill⟩ := hknows
  have hnot := hshown.unacquired
  obtain ⟨now, draining, hrun⟩ := hrun
  rcases retryReconciledMutation_cases hrun with ⟨rfl, hstatus⟩ | ⟨old, new, hretried, rfl⟩
  · obtain ⟨hevents, hnext⟩ := events_retry w (.observed reservation observation) reservation
      (operation w).leaseOwner leaseSeconds preserve hstatus
    refine ⟨.of_same, ?_, ?_, ?_, fun _ => trivial⟩
    · rw [hevents]
      exact h
    · rw [hevents]
      trivial
    · rw [hnext]
      trivial
  · have hopen : old.state ≠ .completed := by
      rw [hretried.state.1]
      decide
    have hkey : new.key = reservation.key := hretried.key.trans (key_of_recordOf hretried.found)
    obtain ⟨hevidence, hseen⟩ :=
      mem_since_of_matches h.agrees hretried.found hopen hretried.holds hstill
    have hadmits : log.Admits w new (.retried reservation) := by
      rw [← hretried.providerTargetKey] at hevidence hseen
      refine ⟨observation, ?_, habsent, ?_⟩
      · rw [hkey, hevidence]
        exact hseen
      · rw [hevidence]
        exact hsafe
    have hagrees := h.agrees.acquired (.retried reservation) hretried.put hretried.state.2
      (hretried.providerTargetKey ▸ h.agrees.target _ _ hretried.found)
      (.inr ⟨old, hkey ▸ hretried.found, hopen, hretried.providerTargetKey.symm⟩)
      (w := w) hretried.leaseOwner howner hnot
    exact ⟨.of_put hretried.put fun _ => .inr ⟨hnot, hretried.leaseOwner⟩,
      sound_acquired _ h hagrees hnot hadmits, ⟨fits_acquired hnot, trivial⟩,
      ⟨hretried.leaseOwner, (fun h => by cases h), fun h => by cases h⟩, fun _ => trivial⟩

theorem events_adopt (w : ω) (record : IdempotencyRecord) (response : MutationStore.Response)
    (expectedOriginalIntent : Option Payload) (bindingEvidence : Option Bool) {result : MutationResult}
    (h : result.status ≠ .adopted) :
    (OperationCall.adopt record response expectedOriginalIntent bindingEvidence).events w result =
      [] := by
  obtain ⟨status, record⟩ := result
  cases status <;> first | rfl | exact absurd rfl h

/-- The end of a reservation leaves its caller what it knew. -/
theorem knows_ended {ending : Ending} (howner : Function.Injective fun w => (operation w).owner)
    (hended : Ended store store' reservation old new) (hsound : Sound operation store'.recordOf
      (.ended w new ending :: log)) (hknows : Knows operation store.recordOf log w stage) :
    Event.Fits operation store'.recordOf log (.ended w new ending) ∧
      Knows operation store'.recordOf (.ended w new ending :: log) w stage := by
  have hfits : Event.Fits operation store'.recordOf log (.ended w new ending) :=
    fits_of (fun _ _ _ h => by cases h) fun _ _ h => by cases h
  exact ⟨hfits, (hknows.of_runsOnly (v := w) howner (.of_ended hended)).cons howner hfits
    hsound.fenced.1 fun _ _ h => by cases h⟩

theorem sound_ended (h : Sound operation store.recordOf log)
    (hended : Ended store store' reservation old new) (ending : Ending)
    (hsettles : log.Settles w new ending) :
    Sound operation store'.recordOf (.ended w new ending :: log) := by
  obtain ⟨v, -, hholds, -⟩ := h.agrees.held _ _ hended.found hended.open_
  refine ⟨h.agrees.ended hended w ending, ⟨?_, hsettles⟩, h.fenced⟩
  rw [hended.providerTargetKey]
  exact hholds.held

/-- A holder ends what it holds. -/
theorem holds_of_ended (howner : Function.Injective fun w => (operation w).owner)
    (h : Sound operation store.recordOf log) (hended : Ended store store' reservation old new)
    (hw : reservation.leaseOwner = (operation w).owner) : log.Holds w new := by
  obtain ⟨hholds, -⟩ := h.agrees.holds_of_owner howner hended.found hended.open_
    (hended.holds.leaseOwner.trans hw)
  refine ⟨?_, ?_⟩
  · rw [hended.providerTargetKey, hended.key, hholds.holder]
  · rw [hended.providerTargetKey, hholds.held]

theorem advances_adopt {reservation : IdempotencyRecord} {response : MutationStore.Response}
    {expectedOriginalIntent : Option Payload} {bindingEvidence : Option Bool} {result : MutationResult}
    (howner : Function.Injective fun w => (operation w).owner)
    (h : Sound operation store.recordOf log) (hknows : Knows operation store.recordOf log w stage)
    (hallowed : (operation w).Allowed stage
      (.adopt reservation response expectedOriginalIntent bindingEvidence))
    (hrun : (OperationCall.adopt reservation response expectedOriginalIntent bindingEvidence).Runs
      store result store') :
    Advances operation w stage (.adopt reservation response expectedOriginalIntent bindingEvidence)
      result store store' log := by
  have hsame (answer) : DurableOperation.next stage
      (.adopt reservation response expectedOriginalIntent bindingEvidence) answer = stage := by
    cases answer <;> rfl
  obtain ⟨now, hrun⟩ := hrun
  rcases adoptReconciledMutation_cases hrun with ⟨rfl, hstatus⟩ | ⟨old, new, hended, rfl⟩
  · have hevents := events_adopt w reservation response expectedOriginalIntent bindingEvidence hstatus
    refine ⟨.of_same, ?_, ?_, ?_, fun error => ?_⟩ <;> rw [hevents]
    · exact h
    · trivial
    · rw [hsame]
      exact hknows
    · rw [hsame]
      exact hknows
  · have hsettles : log.Settles w new .adopted := by
      cases stage
      case observed record observation =>
        obtain ⟨rfl, hpresent⟩ := hallowed
        obtain ⟨hevidence, hseen⟩ :=
          mem_since_of_matches h.agrees hended.found hended.open_ hended.holds hknows.2.2
        rw [← hended.providerTargetKey] at hevidence hseen
        refine .inr ⟨observation, ?_, hpresent⟩
        rw [hevidence, hended.key, key_of_recordOf hended.found]
        exact hseen
      case holding held armed inserted =>
        obtain rfl := hallowed
        exact .inl (holds_of_ended howner h hended hknows.1)
      case reconciling record => cases record <;> exact hallowed.elim
      all_goals exact hallowed.elim
    have hsound := sound_ended h hended .adopted hsettles
    obtain ⟨hfits, hafter⟩ := knows_ended howner hended hsound hknows
    refine ⟨.of_ended hended, hsound, ⟨hfits, trivial⟩, ?_, fun error => ?_⟩
    · rw [hsame]
      exact hafter
    · rw [hsame]
      exact hafter

/-! ### Holding -/

/-- A holder that wrote its row still has its target. -/
theorem holds_of_held (howner : Function.Injective fun w => (operation w).owner)
    (h : Sound operation store.recordOf log) (hheld : Held store store' reservation old new)
    (hw : reservation.leaseOwner = (operation w).owner) :
    log.Holds w old ∧ old.leaseOwner = (operation w).owner := by
  have hold := hheld.holds.leaseOwner.trans hw
  have hopen : old.state ≠ .completed := by
    rw [hheld.running.1]
    decide
  exact ⟨(h.agrees.holds_of_owner howner hheld.found hopen hold).1, hold⟩

theorem next_of_ne_updated {held : IdempotencyRecord} {armed inserted arms : Bool}
    {result : MutationResult} (h : result.status ≠ .updated) :
    Stage.afterUpdate held armed inserted arms result = .holding held armed inserted := by
  obtain ⟨status, record⟩ := result
  cases status <;> first | rfl | exact absurd rfl h

theorem advances_renew {held : IdempotencyRecord} {armed inserted : Bool} {leaseSeconds : Nat}
    {result : MutationResult} (h : Sound operation store.recordOf log)
    (hknows : Knows operation store.recordOf log w (.holding held armed inserted))
    (hrun : (OperationCall.renew held leaseSeconds).Runs store result store') :
    Advances operation w (.holding held armed inserted) (.renew held leaseSeconds) result store store'
      log := by
  obtain ⟨now, hrun⟩ := hrun
  rcases renewMutationReservation_cases hrun with ⟨rfl, hstatus⟩ | ⟨old, new, hheld, hevidence, rfl⟩
  · refine ⟨.of_same, h, trivial, ?_, fun _ => hknows⟩
    show Knows operation store'.recordOf log w (Stage.afterUpdate held armed inserted false result)
    rw [next_of_ne_updated hstatus]
    exact hknows
  · have hrow : store.recordOf new.key = some old := by
      rw [hheld.key, key_of_recordOf hheld.found]
      exact hheld.found
    have hsame : old.SameHolder new := ⟨hheld.key, hheld.leaseOwner, hheld.providerTargetKey, hevidence,
      by rw [hheld.running.1, hheld.running.2]; decide, fun _ => hheld.running.1⟩
    refine ⟨.of_held hheld, ⟨h.agrees.rewrite_row hheld.put hrow hsame, h.fenced⟩, trivial,
      ⟨?_, ?_, fun h => by cases h⟩, fun _ => hknows⟩
    · rw [hheld.leaseOwner, hheld.holds.leaseOwner, hknows.1]
    · rw [Bool.or_false]
      exact hknows.2.1

theorem events_checkpoint (w : ω) (reservation : IdempotencyRecord) (phase : String)
    (leaseSeconds : Nat) {result : MutationResult} (h : result.status ≠ .updated) :
    (OperationCall.checkpoint reservation phase leaseSeconds).events w result = [] := by
  obtain ⟨status, record⟩ := result
  cases status <;> first | rfl | exact absurd rfl h

theorem advances_checkpoint (howner : Function.Injective fun w => (operation w).owner)
    {held : IdempotencyRecord} {armed inserted : Bool} {phase : String} {leaseSeconds : Nat}
    {result : MutationResult} (h : Sound operation store.recordOf log)
    (hknows : Knows operation store.recordOf log w (.holding held armed inserted))
    (hrun : (OperationCall.checkpoint held phase leaseSeconds).Runs store result store') :
    Advances operation w (.holding held armed inserted) (.checkpoint held phase leaseSeconds) result
      store store' log := by
  obtain ⟨now, hrun⟩ := hrun
  rcases checkpointMutationProviderEffect_cases hrun with ⟨rfl, hstatus⟩ | ⟨old, new, hheld, hstarted, rfl⟩
  · have hevents := events_checkpoint w held phase leaseSeconds hstatus
    refine ⟨.of_same, ?_, ?_, ?_, fun _ => ?_⟩ <;> rw [hevents]
    · exact h
    · trivial
    · show Knows operation store'.recordOf log w (Stage.afterUpdate held armed inserted true result)
      rw [next_of_ne_updated hstatus]
      exact hknows
    · exact hknows
  · obtain ⟨hholds, hold⟩ := holds_of_held howner h hheld hknows.1
    obtain ⟨hnew, hagrees⟩ := h.agrees.checkpointed hheld hholds hold
    have hfollows : Event.Follows log (.checkpointed w new) := ⟨hnew, by simp [hstarted]⟩
    have hfits : Event.Fits operation store'.recordOf log (.checkpointed w new) := by
      refine ⟨fun _ _ _ heq => (by cases heq), ?_⟩
      rintro u record ⟨⟩
      exact ⟨new.key, new, hheld.put.self, hheld.running.2, hheld.leaseOwner.trans hold⟩
    refine ⟨.of_held hheld, ⟨hagrees, hfollows, h.fenced⟩, ⟨hfits, trivial⟩,
      ⟨hheld.leaseOwner.trans hold, fun _ => ⟨new, List.mem_cons_self⟩, fun h => by cases h⟩,
      fun _ => ?_⟩
    exact (hknows.of_runsOnly (v := w) howner (.of_held hheld)).cons howner hfits hfollows
      fun _ _ h => by cases h

theorem advances_markReconcileRequired (howner : Function.Injective fun w => (operation w).owner)
    {held : IdempotencyRecord} {reconciliationKey : String}
    {result : MutationResult} (h : Sound operation store.recordOf log)
    (hknows : Knows operation store.recordOf log w stage)
    (hrun : (OperationCall.markReconcileRequired held reconciliationKey).Runs store result store') :
    Advances operation w stage (.markReconcileRequired held reconciliationKey) result store store' log := by
  obtain ⟨now, hrun⟩ := hrun
  have hquiet := markMutationReconcileRequired_cases hrun
  have hafter := hknows.of_runsOnly (v := w) howner (.of_quiet hquiet)
  exact ⟨.of_quiet hquiet, ⟨h.agrees.of_quiet hquiet, h.fenced⟩, trivial, hafter, fun _ => hafter⟩

theorem advances_persist (howner : Function.Injective fun w => (operation w).owner)
    {held after : IdempotencyRecord} (h : Sound operation store.recordOf log)
    (hknows : Knows operation store.recordOf log w stage)
    (hrun : (OperationCall.persist held).Runs store after store') :
    Advances operation w stage (.persist held) after store store' log := by
  obtain ⟨now, hrun⟩ := hrun
  have hquiet := persistCheckpoint_cases hrun
  have hafter := hknows.of_runsOnly (v := w) howner (.of_quiet hquiet)
  exact ⟨.of_quiet hquiet, ⟨h.agrees.of_quiet hquiet, h.fenced⟩, trivial, hafter, fun _ => hafter⟩

theorem events_complete (w : ω) (completion : IdempotencyRecord) {result : MutationResult}
    (h : result.status ≠ .completed) : (OperationCall.complete completion).events w result = [] := by
  obtain ⟨status, record⟩ := result
  cases status <;> first | rfl | exact absurd rfl h

theorem pyStrip_owner : pyStrip (operation w).owner = (operation w).owner := pyStrip_pyStrip _

theorem advances_complete (howner : Function.Injective fun w => (operation w).owner)
    {held completion : IdempotencyRecord} {armed inserted : Bool} {result : MutationResult}
    (h : Sound operation store.recordOf log)
    (hknows : Knows operation store.recordOf log w (.holding held armed inserted))
    (hallowed : pyStrip held.leaseOwner = completion.leaseOwner)
    (hrun : (OperationCall.complete completion).Runs store result store') :
    Advances operation w (.holding held armed inserted) (.complete completion) result store store' log := by
  obtain ⟨now, hrun⟩ := hrun
  rcases completeMutationReservation_cases hrun with ⟨hquiet, hstatus⟩ | ⟨old, new, hended, rfl⟩
  · have hevents := events_complete w completion hstatus
    refine ⟨.of_quiet hquiet, ?_, ?_, ?_, fun _ => ?_⟩ <;> rw [hevents]
    · exact ⟨h.agrees.of_quiet hquiet, h.fenced⟩
    · trivial
    · exact hknows
    · exact hknows
  · have hw : completion.leaseOwner = (operation w).owner := by
      rw [← hallowed, hknows.1, pyStrip_owner]
    have hsound := sound_ended h hended .completed (holds_of_ended howner h hended hw)
    obtain ⟨hfits, hafter⟩ := knows_ended howner hended hsound hknows
    exact ⟨.of_ended hended, hsound, ⟨hfits, trivial⟩, hafter, fun _ => hafter⟩

theorem advances_release (howner : Function.Injective fun w => (operation w).owner)
    {held : IdempotencyRecord} {armed inserted : Bool} {result : MutationResult}
    (h : Sound operation store.recordOf log)
    (hknows : Knows operation store.recordOf log w (.holding held armed inserted))
    (hunstarted : inserted = true ∨ held.providerEffectStartedAt = none)
    (hrun : (OperationCall.release held).Runs store result store') :
    Advances operation w (.holding held armed inserted) (.release held) result store store' log := by
  rcases releaseReservedMutation_cases hrun with
    ⟨rfl, hstatus⟩ | ⟨old, hold, hrunning, hmatches, hstatus, hdropped⟩
  · have hevents : (OperationCall.release held).events w result = [] := if_neg hstatus
    have hnext : DurableOperation.next (.holding held armed inserted) (.release held) (.ok result) =
      .holding held armed inserted := if_neg hstatus
    refine ⟨.of_same, ?_, ?_, ?_, fun _ => ?_⟩ <;> rw [hevents]
    · exact h
    · trivial
    · rw [hnext]
      exact hknows
    · exact hknows
  · have hevents : (OperationCall.release held).events w result = [.released w held] := if_pos hstatus
    have hnext : DurableOperation.next (.holding held armed inserted) (.release held) (.ok result) =
      .done := if_pos hstatus
    have hopen : old.state ≠ .completed := by
      rw [hrunning]
      decide
    obtain ⟨hholds, hevidence⟩ := h.agrees.holds_of_owner howner hold hopen
      (hmatches.leaseOwner.trans hknows.1)
    have hheld : log.Holds w held := by
      refine ⟨?_, ?_⟩
      · rw [← hmatches.providerTargetKey, ← hmatches.key, hholds.holder]
      · rw [← hmatches.providerTargetKey, hholds.held]
    have hnone : (log.evidence held.providerTargetKey).2 = none := by
      rw [← hmatches.providerTargetKey, hevidence, hmatches.evidence]
      exact hunstarted.elim hknows.2.2 id
    have hruns : RunsOnly operation w log store.recordOf store'.recordOf := by
      intro key row hrow hrunning
      rw [hdropped] at hrow
      split_ifs at hrow
      exact .inl ⟨key, row, hrow, hrunning, rfl⟩
    have hfits : Event.Fits operation store'.recordOf log (.released w held) :=
      fits_of (fun _ _ _ h => by cases h) fun _ _ h => by cases h
    refine ⟨hruns, ?_, ?_, ?_, fun _ => ?_⟩ <;> rw [hevents]
    · exact ⟨h.agrees.released hold hopen hmatches hdropped w, ⟨hheld, hnone⟩, h.fenced⟩
    · exact ⟨hfits, trivial⟩
    · rw [hnext]
      trivial
    · exact (hknows.of_runsOnly (v := w) howner hruns).cons howner hfits ⟨hheld, hnone⟩
        fun _ _ h => by cases h

theorem advances_dispatch (howner : Function.Injective fun w => (operation w).owner)
    {held : IdempotencyRecord} {inserted : Bool} {request : String} {payload : Payload}
    (h : Sound operation store.recordOf log)
    (hknows : Knows operation store.recordOf log w (.holding held true inserted)) :
    Advances operation w (.holding held true inserted) (.dispatch request) payload store store log := by
  have hfits : Event.Fits operation store.recordOf log (.dispatched w) :=
    fits_of (fun _ _ _ h => by cases h) fun _ _ h => by cases h
  have hfollows : Event.Follows log (.dispatched w) := hknows.2.1 rfl
  have hafter : Knows operation store.recordOf (.dispatched w :: log) w (.holding held true inserted) :=
    hknows.cons howner hfits hfollows fun _ _ h => by cases h
  exact ⟨.of_same, ⟨h.agrees.cons rfl, hfollows, h.fenced⟩, ⟨hfits, trivial⟩, hafter, fun _ => hafter⟩

/-! ### Superseding -/

theorem events_supersede (w : ω) (supersession : SupersessionRequest) (request : ReserveRequest)
    {result : MutationResult} (h : result.status ≠ .acquired) :
    (OperationCall.supersede supersession request).events w result = [] := by
  obtain ⟨status, record⟩ := result
  cases status <;> first | rfl | exact absurd rfl h

theorem knows_next_supersede {supersession : SupersessionRequest} {request : ReserveRequest}
    {result : MutationResult} (hnot : ¬log.Acquired w) (h : result.status ≠ .acquired) :
    Knows operation store.recordOf log w
      (DurableOperation.next stage (.supersede supersession request) (.ok result)) := by
  obtain ⟨status, record⟩ := result
  by_cases hretry : status = .retry
  · subst hretry
    exact hnot
  · cases status
    case acquired => exact absurd rfl h
    case retry => exact absurd rfl hretry
    all_goals trivial

theorem advances_supersede (howner : Function.Injective fun w => (operation w).owner)
    {record : IdempotencyRecord} {supersession : SupersessionRequest}
    {request : ReserveRequest} {result : MutationResult}
    (h : Sound operation store.recordOf log) (hknows : Knows operation store.recordOf log w (.quiet record))
    (hallowed : supersession.reservation = record ∧ request = (operation w).request)
    (hrun : (OperationCall.supersede supersession request).Runs store result store') :
    Advances operation w (.quiet record) (.supersede supersession request) result store store' log := by
  obtain ⟨rfl, rfl⟩ := hallowed
  obtain ⟨hshown, -, hstill⟩ := hknows
  have hnot := hshown.unacquired
  obtain ⟨now, draining, hrun⟩ := hrun
  rcases supersedeAndReserve_cases hrun with ⟨rfl, hstatus⟩ | ⟨old, done, new, hsuperseded, rfl⟩
  · have hevents := events_supersede w supersession (operation w).request hstatus
    refine ⟨.of_same, ?_, ?_, ?_, fun _ => trivial⟩ <;> rw [hevents]
    · exact h
    · trivial
    · exact knows_next_supersede hnot hstatus
  · have hopen : old.state ≠ .completed := by
      rw [hsuperseded.state.1]
      decide
    have hdone : done.key = old.key := hsuperseded.key.1
    have hfound : store.recordOf done.key = some old := by
      rw [hdone, key_of_recordOf hsuperseded.found]
      exact hsuperseded.found
    have hmatches := hsuperseded.holds
    let ending : Ending := .superseded supersession.reservation
    let ended : Log ω := .ended w supersession.reservation ending :: log
    -- first the row of the other one is completed, then the target is acquired
    obtain ⟨hevidence, hseen⟩ :=
      mem_since_of_matches h.agrees hsuperseded.found hopen hmatches hstill
    rw [hmatches.providerTargetKey] at hevidence hseen
    obtain ⟨v, -, hholds, -⟩ := h.agrees.held _ _ hsuperseded.found hopen
    have hvacant : ended.vacant old.providerTargetKey = true :=
      Log.vacant_of_leaves rfl (by simp [Event.leaves, hmatches.providerTargetKey])
    have hbetween : Agrees (fun w => (operation w).owner)
        (fun key => if key = done.key then some done else store.recordOf key) ended := by
      refine h.agrees.settle (fun _ => rfl) hfound hopen ?_ hvacant
        (fun target hne => Log.sameFor_cons fun heq => hne
          ((Option.some.inj heq).symm.trans hmatches.providerTargetKey.symm)) fun _ h => h.cons
      rintro record ⟨⟩
      exact ⟨hsuperseded.state.2.1, hdone, hsuperseded.leaseOwner.1, hsuperseded.providerTargetKey.1⟩
    have htarget := hsuperseded.providerTargetKey.2
    have hnotEnded : ¬ended.Acquired w := not_acquired_cons (fun _ _ h => by cases h) hnot
    have hagrees := hbetween.acquired .superseding hsuperseded.put hsuperseded.state.2.2
      (htarget ▸ h.agrees.target _ _ hsuperseded.found)
      (.inl ⟨by rw [hdone, if_neg hsuperseded.key.2, hsuperseded.free], htarget ▸ hvacant⟩)
      (w := w) hsuperseded.leaseOwner.2 howner hnotEnded
    have hheld : log.vacant supersession.reservation.providerTargetKey = false := by
      rw [← hmatches.providerTargetKey]
      exact hholds.held
    have hfits : Event.Fits operation store'.recordOf log
        (.ended w supersession.reservation ending) :=
      fits_of (fun _ _ _ h => by cases h) fun _ _ h => by cases h
    have hruns : RunsOnly operation w log store.recordOf store'.recordOf := by
      intro key row hrow hrunning
      rw [hsuperseded.put] at hrow
      split_ifs at hrow
      · cases hrow
        exact .inr ⟨hnot, hsuperseded.leaseOwner.2⟩
      · cases hrow
        cases hsuperseded.state.2.1.symm.trans hrunning
      · exact .inl ⟨key, row, hrow, hrunning, rfl⟩
    refine ⟨hruns, ⟨hagrees, ⟨hnotEnded, ?_⟩, ⟨hheld, rfl, hevidence.symm, hseen⟩, h.fenced⟩,
      ⟨fits_acquired hnotEnded, hfits, trivial⟩,
      ⟨hsuperseded.leaseOwner.2, (fun h => by cases h), fun h => by cases h⟩, fun _ => trivial⟩
    rw [← htarget] at hvacant
    exact hvacant

/-! ### Runs -/

/-- **A call that its stage allows** keeps the rows and the log together. -/
theorem advances_of_allowed (howner : Function.Injective fun w => (operation w).owner)
    {call : OperationCall} {response : OperationResponse call}
    (h : Sound operation store.recordOf log) (hknows : Knows operation store.recordOf log w stage)
    (hallowed : (operation w).Allowed stage call) (hrun : call.Runs store response store') :
    Advances operation w stage call response store store' log := by
  cases call with
  | readOriginalIntent reservation =>
      obtain ⟨-, rfl⟩ := hrun
      exact ⟨.of_same, h, trivial, hknows, fun _ => hknows⟩
  | adopt reservation response expectedOriginalIntent bindingEvidence =>
      exact advances_adopt howner h hknows hallowed hrun
  | markReconcileRequired reservation reconciliationKey =>
      exact advances_markReconcileRequired howner h hknows hrun
  | insertReservation request =>
      cases stage
      case starting => exact advances_insertReservation howner h hknows hallowed hrun
      case reconciling record => cases record <;> exact hallowed.elim
      all_goals exact hallowed.elim
  | resolveCollision request =>
      cases stage
      case starting => exact advances_resolveCollision h hknows hallowed hrun
      case reconciling record => cases record <;> exact hallowed.elim
      all_goals exact hallowed.elim
  | quiescent reservation =>
      cases stage
      case busy record =>
        obtain ⟨rfl, hstate⟩ := hallowed
        obtain rfl := hrun
        exact advances_quiescent h hknows hstate
      case reconciling record => cases record <;> exact hallowed.elim
      all_goals exact hallowed.elim
  | retainEffectCustody reservation =>
      obtain rfl := hrun
      exact ⟨.of_same, h, trivial, hknows, fun _ => hknows⟩
  | supersede supersession request =>
      cases stage
      case quiet record => exact advances_supersede howner h hknows hallowed hrun
      case reconciling record => cases record <;> exact hallowed.elim
      all_goals exact hallowed.elim
  | observe key phase effectStartedAt =>
      cases stage
      case reconciling record =>
        obtain rfl := hrun
        exact advances_observe h hknows hallowed
      all_goals exact hallowed.elim
  | retry reservation leaseOwner leaseSeconds preserve =>
      cases stage
      case observed record observation => exact advances_retry howner h hknows hallowed hrun
      case reconciling record => cases record <;> exact hallowed.elim
      all_goals exact hallowed.elim
  | renew reservation leaseSeconds =>
      cases stage
      case holding held armed inserted =>
        obtain rfl := hallowed
        exact advances_renew h hknows hrun
      case reconciling record => cases record <;> exact hallowed.elim
      all_goals exact hallowed.elim
  | checkpoint reservation phase leaseSeconds =>
      cases stage
      case holding held armed inserted =>
        obtain rfl := hallowed
        exact advances_checkpoint howner h hknows hrun
      case reconciling record => cases record <;> exact hallowed.elim
      all_goals exact hallowed.elim
  | complete completion =>
      cases stage
      case holding held armed inserted => exact advances_complete howner h hknows hallowed hrun
      case reconciling record => cases record <;> exact hallowed.elim
      all_goals exact hallowed.elim
  | release reservation =>
      cases stage
      case holding held armed inserted =>
        obtain ⟨rfl, hunstarted⟩ := hallowed
        exact advances_release howner h hknows hunstarted hrun
      case reconciling record => cases record <;> exact hallowed.elim
      all_goals exact hallowed.elim
  | dispatch request =>
      cases stage
      case holding held armed inserted =>
        obtain rfl := hallowed
        obtain rfl := hrun
        exact advances_dispatch howner h hknows
      case reconciling record => cases record <;> exact hallowed.elim
      all_goals exact hallowed.elim
  | persist reservation => exact advances_persist howner h hknows hrun

/-- A call that was not performed leaves its caller with an exception. -/
theorem knows_of_error {rows : Rows} {call : OperationCall} {error : OperationError}
    (hknows : Knows operation rows log w stage) :
    Knows operation rows log w (DurableOperation.next stage call (.error error)) := by
  cases call <;> first | exact hknows | trivial

theorem sound_empty : Sound operation (MutationStore.recordOf {}) [] where
  agrees :=
    { key := fun _ _ h => by cases h
      target := fun _ _ h => by cases h
      met := fun _ _ h => by cases h
      once := fun _ _ h => by cases h
      held := fun _ _ h => by cases h
      row := fun _ h => by cases h }
  fenced := trivial

variable [DecidableEq ω]

/-- Every call knows what it relies on, and the rows are what the log says. -/
def Coherent (operation : ω → DurableOperation) (stage : ω → Stage) (world : World ω) : Prop :=
  Sound operation world.store.recordOf world.log ∧ ∀ w, Knows operation world.store.recordOf world.log w (stage w)

/-- One step of any call. -/
theorem coherent_of_call (howner : Function.Injective fun w => (operation w).owner)
    {stage : ω → Stage} {world world' : World ω} {call : OperationCall}
    {answer : Fallible OperationError OperationResponse call} (h : Coherent operation stage world)
    (hallowed : (operation w).protocol.Allowed (stage w) call)
    (hstep : operationEnv w world call answer world') :
    Coherent operation (Function.update stage w ((operation w).protocol.next (stage w) call answer))
      world' := by
  obtain ⟨hsound, hknows⟩ := h
  rcases hstep with ⟨response, store', hrun, hanswer, rfl⟩ | ⟨⟨error, rfl⟩, rfl⟩
  · have hadvances := advances_of_allowed howner hsound (hknows w) hallowed hrun
    refine ⟨hadvances.sound, fun v => ?_⟩
    by_cases hv : v = w
    · subst hv
      rw [Function.update_self]
      rcases hanswer with rfl | ⟨error, rfl⟩
      · exact hadvances.answered
      · exact hadvances.lost error
    · rw [Function.update_of_ne hv]
      exact ((hknows v).of_runsOnly howner hadvances.runs).append howner hadvances.fits
        hadvances.sound.fenced fun event hevent => (actor_of_mem_events hevent).trans_ne (Ne.symm hv)
  · refine ⟨hsound, fun v => ?_⟩
    by_cases hv : v = w
    · subst hv
      rw [Function.update_self]
      exact knows_of_error (hknows v)
    · rw [Function.update_of_ne hv]
      exact hknows v

/-- The pools of the calls. -/
abbrev OperationPool (ω : Type) : Type :=
  Pool (Fallible OperationError OperationResponse) (World ω) ω (Except OperationError OperationResult)

/-- The calls, none of which has begun, over the empty store. -/
def start (operation : ω → DurableOperation) :
    OperationPool ω :=
  (fun w => (operation w).run.run, {})

/-- The world does nothing by itself. -/
def NoMoves (_ _ : World ω) : Prop := False

theorem sound_of_reaches (hadapter : ∀ w, (operation w).adapter.ChecksFirst)
    (howner : Function.Injective fun w => (operation w).owner) {reached : OperationPool ω}
    (h : Pool.Reaches operationEnv NoMoves NoStarts (start operation) reached) :
    Sound operation reached.2.store.recordOf reached.2.log := by
  have hnoStarts (w : ω) (p : Prog (Fallible OperationError OperationResponse)
      (Except OperationError OperationResult)) (hstart : NoStarts w p) :
      (operation w).protocol.Follows p .starting := hstart.elim
  have hempty (w : ω) : ¬Log.Acquired (ω := ω) [] w := by
    intro hacquired
    obtain ⟨_, _, hmem⟩ := hacquired
    cases hmem
  obtain ⟨stage, ⟨hsound, -⟩, -⟩ := h.exists_invariant (P := fun w => (operation w).protocol)
    (I := Coherent operation) hnoStarts
    (fun _ _ _ _ _ _ hcoherent hallowed hstep => coherent_of_call howner hcoherent hallowed hstep)
    (fun _ _ _ _ _ hstart => hstart.elim) (fun _ _ _ _ hmove => hmove.elim)
    (fun w => (operation w).follows_run (hadapter w)) ⟨sound_empty, hempty⟩
  exact hsound

end Launchplane.Mutation
