import Launchplane.Mutation.World

/-!
# Launchplane.Mutation.Conduct

**The runner keeps to its protocol.** It asks for one reservation, observes before
it takes one over, writes only what it holds, and gives back only what no effect
was recorded for. The adapter is any program that dispatches nothing before its
lease has recorded an effect.
-/

namespace Launchplane.Mutation

open Interaction

/-! ### Adapters -/

/-- An adapter may dispatch once an effect was recorded. -/
def adapterProtocol : Protocol (Fallible OperationError LeaseResponse) Bool where
  Allowed armed call := match call with
    | .dispatch _ => armed = true
    | _ => True
  next armed call answer := match call, answer with
    | .checkpointEffect _, .ok _ => true
    | _, _ => armed

/-- The adapter dispatches nothing before its lease has recorded an effect. -/
def ProviderAdapter.ChecksFirst (adapter : ProviderAdapter) : Prop :=
  ∀ key, adapterProtocol.Follows (adapter.apply key) false

instance nonemptyLeaseResponse (call : LeaseCall) :
    Nonempty (Fallible OperationError LeaseResponse call) :=
  ⟨.error .unknown⟩

instance nonemptyOperationResponse (call : OperationCall) :
    Nonempty (Fallible OperationError OperationResponse call) :=
  ⟨.error .unknown⟩

namespace DurableOperation

variable {operation : DurableOperation} {α β : Type} {stage : Stage}

/-- From this stage on, the program keeps to the protocol. -/
def Keeps (operation : DurableOperation) (p : OperationProgram α) (stage : Stage) : Prop :=
  operation.protocol.Conducts p (fun _ _ => True) (fun _ _ => True) stage

theorem keeps_pure (a : α) : operation.Keeps (pure a : OperationProgram α) stage :=
  (Protocol.conducts_pure a).mpr trivial

theorem keeps_throw (error : OperationError) :
    operation.Keeps (throw error : OperationProgram α) stage :=
  (Protocol.conducts_throw error).mpr trivial

theorem keeps_ofExcept (x : Except OperationError α) :
    operation.Keeps (Act.ofExcept x) stage :=
  Protocol.conducts_ofExcept.mpr ⟨fun _ _ => trivial, fun _ _ => trivial⟩

/-- The rule of sequencing. -/
theorem conducts_bind_of {p : OperationProgram α} {f : α → OperationProgram β}
    {Q : α → Stage → Prop} {Q' : β → Stage → Prop} {X : OperationError → Stage → Prop}
    (hp : operation.protocol.Conducts p Q X stage)
    (hf : ∀ a stage, Q a stage → operation.protocol.Conducts (f a) Q' X stage) :
    operation.protocol.Conducts (p >>= f) Q' X stage :=
  Protocol.conducts_bind.mpr (Protocol.conducts_mono hp hf fun _ _ h => h)

/-- The rule of a choice. -/
theorem conducts_ite {c : Prop} [Decidable c] {p q : OperationProgram α} {Q : α → Stage → Prop}
    {X : OperationError → Stage → Prop} (hp : c → operation.protocol.Conducts p Q X stage)
    (hq : ¬c → operation.protocol.Conducts q Q X stage) :
    operation.protocol.Conducts (if c then p else q) Q X stage := by
  split_ifs with hc
  · exact hp hc
  · exact hq hc

/-- The rule of a call. -/
theorem conducts_ask_bind {call : OperationCall} {f : OperationResponse call → OperationProgram α}
    {Q : α → Stage → Prop} {X : OperationError → Stage → Prop}
    (hallowed : operation.Allowed stage call)
    (hnext : ∀ answer, operation.protocol.Conducts (f answer) Q X (next stage call (.ok answer)))
    (herror : ∀ error, X error (next stage call (.error error))) :
    operation.protocol.Conducts (ask call >>= f) Q X stage :=
  Protocol.conducts_bind.mpr (Protocol.conducts_perform.mpr ⟨hallowed, hnext, herror⟩)

theorem keeps_ask {call : OperationCall} {f : OperationResponse call → OperationProgram α}
    (hallowed : operation.Allowed stage call)
    (hnext : ∀ answer, operation.Keeps (f answer) (next stage call (.ok answer))) :
    operation.Keeps (ask call >>= f) stage :=
  conducts_ask_bind hallowed hnext fun _ => trivial

/-- The rule of a check. -/
theorem keeps_check {x : Except OperationError β} {f : β → OperationProgram α}
    (hnext : ∀ b, x = .ok b → operation.Keeps (f b) stage) :
    operation.Keeps (Act.ofExcept x >>= f) stage :=
  Protocol.conducts_bind.mpr (Protocol.conducts_ofExcept.mpr ⟨hnext, fun _ _ => trivial⟩)

theorem keeps_bind {p : OperationProgram α} {f : α → OperationProgram β}
    (hp : operation.Keeps p stage) (hf : ∀ a stage, operation.Keeps (f a) stage) :
    operation.Keeps (p >>= f) stage :=
  conducts_bind_of hp fun a stage _ => hf a stage

/-- The rule of a call whose exception is kept. -/
theorem conducts_askCaught {call : OperationCall}
    {Q : Except OperationError (OperationResponse call) → Stage → Prop}
    {X : OperationError → Stage → Prop} (hallowed : operation.Allowed stage call)
    (hnext : ∀ answer, Q answer (next stage call answer)) :
    operation.protocol.Conducts (askCaught call) Q X stage := by
  unfold askCaught
  rw [Protocol.conducts_tryCatch]
  refine conducts_ask_bind hallowed (fun a => ?_) fun error => ?_
  · exact (Protocol.conducts_pure _).mpr (hnext (.ok a))
  · exact (Protocol.conducts_pure _).mpr (hnext (.error error))

/-! ### Holding -/

variable {held : IdempotencyRecord} {armed inserted : Bool}

theorem keeps_markReconcileRequired (reconciliationKey : String) :
    operation.Keeps (markReconcileRequired held reconciliationKey) (.holding held armed inserted) := by
  refine keeps_ask rfl fun transition => ?_
  split_ifs
  · exact keeps_ofExcept _
  · exact keeps_throw _
  · exact keeps_pure _

/-- Adopting asks once, and leaves nothing to ask for but what could be asked before. -/
theorem conducts_adoptReconciledResult {reservation : IdempotencyRecord}
    {response : MutationStore.Response} {originalIntent : Option Payload}
    {bindingEvidence : Option Bool}
    (hallowed : operation.Allowed stage (.adopt reservation response originalIntent bindingEvidence)) :
    operation.Keeps (adoptReconciledResult reservation response originalIntent bindingEvidence)
      stage := by
  refine keeps_ask hallowed fun adoption => ?_
  split_ifs
  · exact keeps_pure _
  · exact keeps_check fun _ _ => keeps_pure _
  · exact keeps_pure _

theorem keeps_completeOrAdoptOutcome (traceId : String) (outcome : ProviderMutationOutcome) :
    operation.Keeps (completeOrAdoptOutcome held traceId outcome) (.holding held armed inserted) := by
  refine keeps_check fun completion hcompletion => keeps_ask ?_ fun result => ?_
  · cases hbuilt : completeMutationReservation held outcome.responseStatusCode traceId held.updatedAt
        outcome.responsePayload with
    | error message =>
        rw [hbuilt] at hcompletion
        cases hcompletion
    | ok built =>
        rw [hbuilt] at hcompletion
        cases hcompletion
        unfold completeMutationReservation at hbuilt
        obtain ⟨-, hbuilt⟩ := guard_eq_ok.mp hbuilt
        exact (IdempotencyRecord.validatedFrom_of_validate hbuilt).leaseOwner.symm
  · generalize (result : MutationResult).status = status
    cases status
    case completed => exact keeps_pure _
    case replayed => exact keeps_ofExcept _
    case reconcileRequired =>
      exact keeps_bind (conducts_adoptReconciledResult rfl) fun _ _ => keeps_pure _
    all_goals exact keeps_pure _

theorem keeps_releaseOrMark {released : OperationProgram OperationResult} (reconciliationKey : String)
    (releasePreEffectFailures : Bool) (hreleased : ∀ stage, operation.Keeps released stage) :
    operation.Keeps (releaseOrMark held reconciliationKey releasePreEffectFailures released)
      (.holding held armed inserted) := by
  unfold releaseOrMark
  by_cases hstarted : held.providerEffectStartedAt ≠ none ∨ releasePreEffectFailures = false
  · rw [if_pos hstarted]
    exact keeps_markReconcileRequired _
  · rw [if_neg hstarted]
    refine keeps_ask ⟨rfl, .inr (not_not.mp (not_or.mp hstarted).1)⟩ fun release => ?_
    by_cases hstatus : (release : MutationResult).status = .released
    · rw [if_pos hstatus]
      exact hreleased _
    · rw [if_neg hstatus]
      simp only [next, hstatus, if_false]
      exact keeps_markReconcileRequired _

theorem keeps_settleApplied (reconciliationKey traceId : String) (releasePreEffectFailures : Bool)
    (applied : Except OperationError ProviderMutationOutcome) :
    operation.Keeps (settleApplied held reconciliationKey traceId releasePreEffectFailures applied)
      (.holding held armed inserted) := by
  have hgiveUp (error : OperationError) : operation.Keeps (do
      let _ ← markReconcileRequired held reconciliationKey
      throw error : OperationProgram OperationResult) (.holding held armed inserted) :=
    keeps_bind (keeps_markReconcileRequired _) fun _ _ => keeps_throw _
  cases applied with
  | error error =>
      cases error with
      | checkpoint =>
          refine conducts_bind_of (Q := fun _ stage => stage = .holding held armed inserted)
            (conducts_askCaught rfl fun _ => rfl) fun answer stage h => ?_
          subst h
          cases answer with
          | ok held => exact keeps_pure _
          | error _ => exact keeps_markReconcileRequired _
      | leaseLost _ => exact keeps_markReconcileRequired _
      | rejected _ => exact keeps_releaseOrMark _ _ fun _ => keeps_throw _
      | unknown => exact keeps_markReconcileRequired _
      | admissionRefused _ => exact hgiveUp _
      | error _ => exact hgiveUp _
  | ok outcome =>
      show operation.Keeps (if _ then _ else if _ then _ else _) _
      split_ifs
      · exact keeps_markReconcileRequired _
      · exact keeps_releaseOrMark _ _ fun _ => keeps_pure _
      · exact keeps_completeOrAdoptOutcome _ _

/-! ### Applying -/

/-- What a write under the lease leaves in the hands of the caller. -/
theorem afterUpdate_eq (heartbeat : Heartbeat) (armed inserted arms : Bool) (result : MutationResult) :
    ∃ inserted', Stage.afterUpdate heartbeat.reservation armed inserted arms result =
      .holding (heartbeat.afterUpdate (.ok result)).2.reservation
        (armed || (arms && (heartbeat.afterUpdate (.ok result)).1.isOk)) inserted' := by
  obtain ⟨status, record⟩ := result
  cases status
  case updated =>
    cases record with
    | none => exact ⟨inserted, by simp [Stage.afterUpdate, Heartbeat.afterUpdate, Except.isOk,
        Except.toBool]⟩
    | some record => exact ⟨false, by simp [Stage.afterUpdate, Heartbeat.afterUpdate, Except.isOk,
        Except.toBool]⟩
  all_goals
    exact ⟨inserted, by simp [Stage.afterUpdate, Heartbeat.afterUpdate, Except.isOk, Except.toBool]⟩

theorem afterUpdate_error (heartbeat : Heartbeat) (error : OperationError) :
    (heartbeat.afterUpdate (.error error)).2.reservation = heartbeat.reservation ∧
      (heartbeat.afterUpdate (.error error)).1.isOk = false := by
  cases error <;> exact ⟨rfl, rfl⟩

theorem next_renew (heartbeat : Heartbeat) (armed inserted : Bool) (leaseSeconds : Nat)
    (answer : Except OperationError MutationResult) :
    ∃ inserted', next (.holding heartbeat.reservation armed inserted)
      (.renew heartbeat.reservation leaseSeconds) answer =
        .holding (heartbeat.afterUpdate answer).2.reservation armed inserted' := by
  cases answer with
  | ok result =>
      obtain ⟨inserted', h⟩ := afterUpdate_eq heartbeat armed inserted false result
      exact ⟨inserted', h.trans (by rw [Bool.false_and, Bool.or_false])⟩
  | error error =>
      exact ⟨inserted, congrArg (Stage.holding · armed inserted)
        (afterUpdate_error heartbeat error).1.symm⟩

theorem next_checkpoint (heartbeat : Heartbeat) (armed inserted : Bool) (phase : String)
    (leaseSeconds : Nat) (answer : Except OperationError MutationResult) :
    ∃ inserted', next (.holding heartbeat.reservation armed inserted)
      (.checkpoint heartbeat.reservation phase leaseSeconds) answer =
        .holding (heartbeat.afterUpdate answer).2.reservation
          (armed || (heartbeat.afterUpdate answer).1.isOk) inserted' := by
  cases answer with
  | ok result =>
      obtain ⟨inserted', h⟩ := afterUpdate_eq heartbeat armed inserted true result
      exact ⟨inserted', h.trans (by rw [Bool.true_and])⟩
  | error error =>
      obtain ⟨hsame, hok⟩ := afterUpdate_error heartbeat error
      rw [hsame, hok, Bool.or_false]
      exact ⟨inserted, rfl⟩

/-- A checkpoint that was written arms the adapter, in the eyes of both protocols. -/
theorem next_checkpointEffect (phase : String) (armed : Bool) (answer : Except OperationError Unit) :
    adapterProtocol.next armed (.checkpointEffect phase) answer = (armed || answer.isOk) := by
  cases answer with
  | ok _ => exact (Bool.or_true armed).symm
  | error _ => exact (Bool.or_false armed).symm

/-- A call of the adapter, as the protocol of the runner sees it. -/
theorem conducts_perform (heartbeat : Heartbeat) (leaseSeconds : Nat) (call : LeaseCall)
    (hallowed : adapterProtocol.Allowed armed call) :
    operation.protocol.Conducts (heartbeat.perform leaseSeconds call)
      (fun answered stage => ∃ inserted, stage =
        .holding answered.2.reservation (adapterProtocol.next armed call answered.1) inserted)
      (fun _ _ => False) (.holding heartbeat.reservation armed inserted) := by
  cases call with
  | assertCurrent =>
      refine conducts_bind_of (Q := fun answer stage => ∃ inserted, stage =
        .holding (heartbeat.afterUpdate answer).2.reservation armed inserted)
        (conducts_askCaught rfl fun answer => ?_)
        fun answer stage h => (Protocol.conducts_pure _).mpr h
      exact next_renew heartbeat armed inserted leaseSeconds answer
  | checkpointEffect phase =>
      refine conducts_ite (c := pyStrip phase = "") (fun _ => ?_) fun _ => ?_
      · exact (Protocol.conducts_pure _).mpr ⟨inserted, rfl⟩
      · refine conducts_bind_of (Q := fun answer stage => ∃ inserted, stage =
          .holding (heartbeat.afterUpdate answer).2.reservation
            (armed || (heartbeat.afterUpdate answer).1.isOk) inserted)
          (conducts_askCaught rfl fun answer => ?_)
          fun answer stage h => (Protocol.conducts_pure _).mpr ?_
        · exact next_checkpoint heartbeat armed inserted _ leaseSeconds answer
        · obtain ⟨inserted, rfl⟩ := h
          exact ⟨inserted, congrArg (fun armed => Stage.holding
            (heartbeat.afterUpdate answer).2.reservation armed inserted)
            (next_checkpointEffect phase armed (heartbeat.afterUpdate answer).1).symm⟩
  | evidenceReservation => exact (Protocol.conducts_pure _).mpr ⟨inserted, rfl⟩
  | dispatch request =>
      exact conducts_bind_of (Q := fun _ stage => stage =
        .holding heartbeat.reservation armed inserted)
        (conducts_askCaught hallowed fun answer => rfl)
        fun answer stage h => (Protocol.conducts_pure _).mpr ⟨inserted, h⟩

/-- An adapter's program under the lease, by induction on the program. -/
theorem conducts_conduct (leaseSeconds : Nat)
    (p : Prog (Fallible OperationError LeaseResponse) α) (heartbeat : Heartbeat)
    (h : adapterProtocol.Follows p armed) :
    operation.protocol.Conducts (Heartbeat.conduct leaseSeconds p heartbeat)
      (fun answered stage => ∃ armed inserted, stage =
        .holding answered.2.reservation armed inserted)
      (fun _ _ => False) (.holding heartbeat.reservation armed inserted) := by
  induction p generalizing heartbeat armed inserted with
  | ret a => exact (Protocol.conducts_pure _).mpr ⟨armed, inserted, rfl⟩
  | call i k ih =>
      obtain ⟨hallowed, hnext⟩ := Protocol.wp_call.mp h
      refine conducts_bind_of (conducts_perform heartbeat leaseSeconds i hallowed) ?_
      rintro ⟨answer, heartbeat⟩ _ ⟨inserted, rfl⟩
      exact ih answer heartbeat (hnext answer)

theorem keeps_applyAcquired {adapter : ProviderAdapter} (hadapter : adapter.ChecksFirst)
    (reconciliationKey : String) (operationKey : ProviderOperationKey) (traceId : String)
    (leaseSeconds : Nat) (releasePreEffectFailures : Bool) :
    operation.Keeps (applyAcquired adapter held reconciliationKey operationKey traceId leaseSeconds
      releasePreEffectFailures) (.holding held false inserted) := by
  refine conducts_bind_of (Protocol.conducts_mono (conducts_conduct leaseSeconds
    (adapter.apply operationKey) ⟨held, ""⟩ (hadapter operationKey)) (fun _ _ h => h)
    fun _ _ _ => trivial) ?_
  rintro ⟨applied, heartbeat⟩ _ ⟨armed, inserted, rfl⟩
  exact keeps_settleApplied _ _ _ applied

/-! ### Runs -/

/-- Reserving ends where its result says, or in an exception. -/
theorem conducts_reserveMutation (htarget : operation.request.targetKey ≠ "") :
    operation.protocol.Conducts (reserveMutation operation.request)
      (fun result stage => stage = .ofResult result) (fun _ _ => True) .starting := by
  refine conducts_ask_bind ⟨rfl, htarget⟩ (fun inserted => ?_) fun _ => trivial
  cases inserted with
  | some result => exact (Protocol.conducts_pure _).mpr rfl
  | none =>
      refine conducts_ask_bind ⟨rfl, htarget⟩ (fun resolved => ?_) fun _ => trivial
      cases resolved with
      | some result => exact (Protocol.conducts_pure _).mpr rfl
      | none =>
          refine conducts_ask_bind ⟨rfl, htarget⟩ (fun inserted => ?_) fun _ => trivial
          cases inserted with
          | some result => exact (Protocol.conducts_pure _).mpr rfl
          | none =>
              refine conducts_ask_bind ⟨rfl, htarget⟩ (fun resolved => ?_) fun _ => trivial
              cases resolved with
              | some result => exact (Protocol.conducts_pure _).mpr rfl
              | none => exact (Protocol.conducts_throw _).mpr trivial

theorem keeps_storedIntent {result : MutationResult} {Q : Option Payload → Stage → Prop}
    (hQ : ∀ intent, Q intent stage) :
    operation.protocol.Conducts (operation.storedIntent result) Q (fun _ _ => True) stage := by
  have hallowed (reservation : IdempotencyRecord) :
      operation.Allowed stage (.readOriginalIntent reservation) := by
    cases stage
    case reconciling record => cases record <;> trivial
    all_goals trivial
  unfold storedIntent
  split
  · rename_i reservation _ _ _
    exact conducts_ask_bind (hallowed reservation)
      (fun stored => (Protocol.conducts_pure _).mpr (hQ _)) fun _ => trivial
  · exact (Protocol.conducts_pure _).mpr (hQ _)

theorem keeps_intentConflicts {result : MutationResult} {Q : Bool → Stage → Prop}
    (hQ : ∀ conflicts, Q conflicts stage) :
    operation.protocol.Conducts (operation.intentConflicts result) Q (fun _ _ => True) stage := by
  unfold intentConflicts
  by_cases hstatus : result.status = .targetBusy ∨ result.status = .replayed
  · rw [if_pos hstatus]
    exact (Protocol.conducts_pure _).mpr (hQ _)
  · rw [if_neg hstatus]
    exact conducts_bind_of (keeps_storedIntent (Q := fun _ after => after = stage) fun _ => rfl)
      fun stored after hafter => (Protocol.conducts_pure _).mpr (hafter ▸ hQ _)

theorem key_of_buildProviderOperationKey {key : ReservationKey}
    {requestFingerprint reconciliationKey : String} {operationKey : ProviderOperationKey}
    (h : buildProviderOperationKey key requestFingerprint reconciliationKey = .ok operationKey) :
    operationKey.key = ⟨pyStrip key.scope, pyStrip key.routePath, pyStrip key.idempotencyKey⟩ := by
  unfold buildProviderOperationKey at h
  dsimp only at h
  split_ifs at h
  cases h
  rfl

theorem targetKey_ne_empty (h : pyStrip operation.adapter.targetKey ≠ "") :
    operation.request.targetKey ≠ "" := by
  unfold ReserveRequest.targetKey request
  dsimp only
  rwa [pyStrip_pyStrip, if_neg h]

section Adapter

variable (hadapter : operation.adapter.ChecksFirst)

include hadapter

theorem keeps_reconcileObserved (operationKey : ProviderOperationKey) (reconciliationKey : String)
    (record : IdempotencyRecord) (observation : ProviderObservation) :
    operation.Keeps (operation.reconcileObserved operationKey reconciliationKey record observation)
      (.observed record observation) := by
  by_cases hretry : operation.allowMutation = true ∧ observation.outcome = .absent ∧
      (record.providerEffectStartedAt = none ∨ observation.retrySafe = true)
  · unfold reconcileObserved
    rw [if_pos hretry]
    refine keeps_ask ⟨rfl, rfl, hretry.2.1, hretry.2.2⟩ fun retry => ?_
    obtain ⟨status, stored⟩ := (retry : MutationResult)
    by_cases hreplayed : status = .replayed
    · subst hreplayed
      exact keeps_ofExcept _
    by_cases hacquired : status = .acquired
    · subst hacquired
      cases stored with
      | none => exact keeps_pure _
      | some reservation => exact keeps_applyAcquired hadapter _ _ _ _ _
    · cases status <;> first | contradiction | exact keeps_pure _
  · by_cases hpresent : observation.outcome ≠ .present
    · unfold reconcileObserved
      rw [if_neg hretry, if_pos hpresent]
      exact keeps_pure _
    · unfold reconcileObserved
      rw [if_neg hretry, if_neg hpresent]
      exact keeps_bind (conducts_adoptReconciledResult ⟨rfl, not_not.mp hpresent⟩) fun _ _ =>
        keeps_pure _

theorem keeps_reconcile (fallback : Option IdempotencyRecord) :
    operation.Keeps (operation.reconcile fallback) (.reconciling fallback) := by
  unfold reconcile
  dsimp only
  refine keeps_check fun operationKey hbuilt => ?_
  cases fallback with
  | none => exact keeps_ask trivial fun _ => keeps_pure _
  | some record =>
      refine keeps_ask ⟨?_, rfl⟩ fun observation => keeps_reconcileObserved hadapter _ _ _ _
      exact key_of_buildProviderOperationKey hbuilt

theorem keeps_acquired (reservation : IdempotencyRecord)
    (hinserted : operation.allowMutation = true ∨ inserted = true) :
    operation.Keeps (operation.decide ⟨.acquired, some reservation⟩)
      (.holding reservation false inserted) := by
  by_cases hallow : operation.allowMutation = false
  · unfold decide
    dsimp only
    rw [if_pos hallow]
    have hinserted : inserted = true := hinserted.resolve_left (by simp [hallow])
    refine keeps_ask ⟨rfl, .inl hinserted⟩ fun release => ?_
    by_cases hstatus : (release : MutationResult).status = .released
    · rw [if_pos hstatus]
      exact keeps_pure _
    · rw [if_neg hstatus]
      simp only [next, hstatus, if_false]
      exact keeps_markReconcileRequired _
  · unfold decide
    dsimp only
    rw [if_neg hallow]
    exact keeps_check fun _ _ => keeps_applyAcquired hadapter _ _ _ _ _

theorem keeps_decide (result : MutationResult) :
    operation.Keeps (operation.decide result) (.ofResult result) := by
  obtain ⟨status, record⟩ := result
  by_cases hacquired : status = .acquired
  · subst hacquired
    cases record with
    | none => exact keeps_throw _
    | some reservation => exact keeps_acquired hadapter reservation (.inr rfl)
  by_cases hreconcile : status = .reconcileRequired
  · subst hreconcile
    exact keeps_reconcile hadapter record
  · cases status
    case acquired | reconcileRequired => contradiction
    case replayed => exact keeps_ofExcept _
    case conflict | targetBusy | inProgress => exact keeps_pure _
    all_goals exact keeps_throw _

/-- A supersession is asked for once the provider is quiescent. -/
theorem keeps_supersede (supersession : TargetSupersession) (reservation : IdempotencyRecord)
    (supersededIntent : Option Payload) (hallow : operation.allowMutation = true)
    (hstate : reservation.state = .reconcileRequired) (htarget : operation.request.targetKey ≠ "") :
    operation.Keeps (operation.supersede supersession ⟨.targetBusy, some reservation⟩ reservation
      supersededIntent) (.busy reservation) := by
  have hbusy (stage : Stage) :
      operation.Keeps (operation.decide ⟨.targetBusy, some reservation⟩) stage := keeps_pure _
  refine keeps_ask ⟨rfl, hstate⟩ fun quiescent => ?_
  cases quiescent with
  | false => exact hbusy _
  | true =>
      refine keeps_ask trivial fun retain => keeps_ask ⟨rfl, rfl⟩ fun superseded => ?_
      obtain ⟨status, record⟩ := (superseded : MutationResult)
      by_cases hacquired : status = .acquired
      · subst hacquired
        cases record with
        | none => exact hbusy _
        | some record => exact keeps_acquired hadapter record (.inl hallow)
      by_cases hretry : status = .retry
      · subst hretry
        refine conducts_bind_of (conducts_reserveMutation htarget) fun again stage h => ?_
        subst h
        exact keeps_decide hadapter again
      · cases status
        case acquired => exact absurd rfl hacquired
        case retry => exact absurd rfl hretry
        all_goals exact hbusy _

/-- **The runner keeps to its protocol.** -/
theorem follows_run : operation.protocol.Follows operation.run.run .starting := by
  refine Protocol.follows_of_conducts (Q := fun _ _ => True) (X := fun _ _ => True) ?_
  refine keeps_check fun _ hchecked => keeps_check fun _ _ => keeps_check fun _ _ => ?_
  have htarget := targetKey_ne_empty (raiseIf_eq_ok.mp hchecked)
  refine conducts_bind_of (conducts_reserveMutation htarget) fun result stage h => ?_
  subst h
  refine conducts_bind_of (keeps_intentConflicts (Q := fun _ after => after = .ofResult result)
    fun _ => rfl) fun conflicts stage h => ?_
  subst h
  by_cases hconflicts : conflicts = true
  · rw [if_pos hconflicts]
    exact keeps_pure _
  · rw [if_neg hconflicts]
    refine conducts_bind_of (keeps_storedIntent (Q := fun _ after => after = .ofResult result)
      fun _ => rfl) fun supersededIntent stage h => ?_
    subst h
    cases hsupersession : operation.targetSupersession with
    | none => exact keeps_decide hadapter result
    | some supersession =>
        cases hrecord : result.record with
        | none => exact keeps_decide hadapter result
        | some reservation =>
            dsimp only
            split_ifs with hbusy
            · obtain ⟨status, record⟩ := result
              obtain rfl : status = .targetBusy := hbusy.2.1
              obtain rfl : record = some reservation := hrecord
              exact keeps_supersede hadapter supersession reservation supersededIntent hbusy.1
                hbusy.2.2 htarget
            · exact keeps_decide hadapter result

end Adapter

end DurableOperation

end Launchplane.Mutation
