import Launchplane.Outbox.Refinement

/-!
# Launchplane.Outbox.AtMostOnce

**What cannot be reconciled is sent at most once**, over every run of any number
of workers: in any order of their calls and of the rest of the world, with
workers that stall, crash and start again, answers that are lost, and providers
that answer anything.
-/

namespace Launchplane.Outbox

open Launchplane.Interaction

/-- Workers and their world. -/
abbrev OutboxPool : Type :=
  Pool (Fallible OutboxError OutboxResponse) OutboxWorld LeaseOwner
    (Except OutboxError OutboxWorkerStepResult)

/-- The runs of the outbox. -/
abbrev OutboxPool.Reaches : OutboxPool → OutboxPool → Prop :=
  Pool.Reaches outboxEnv OutboxWorld.Other WorkerStarts

/-- Every worker is about to start a round, and nothing was enqueued yet. -/
structure OutboxPool.Fresh (x : OutboxPool) : Prop where
  starts : ∀ w, WorkerStarts w (x.1 w)
  empty : x.2.store.deliveries.rows = []
  silent : x.2.log = []

/-- What holds of every state: each send and each claim came after what it must come after, and no
delivery is attempted too often. -/
structure SentAtMostOnce (s : OutboxWorld) : Prop where
  lawful : Lawful s.log
  bounded : ∀ row ∈ s.store.deliveries.rows, row.record.attempt ≤ row.record.maxAttempts

/-- What holds of every step: rows that have ended stay as they are, a completion is one of the
lease that stands in the row, and a notification of a resolution is claimed when the failures before
it are settled. -/
structure StepLaw (s s' : OutboxWorld) : Prop where
  ended : ∀ row, s.store.Ended row → s'.store.Ended row
  completes : ∀ w row now, s'.log = .completed w row now :: s.log →
    ∃ current, s.store.LeasedTo s.clock row.record.deliveryId w.text current
  settled : ∀ w row now, s'.log = .claimed w row now :: s.log →
    OutboxStore.recoveryNotification row = some true →
    ∀ predecessor ∈ s'.store.deliveries.rows, ¬ OutboxStore.UnsettledFailure row predecessor

/-- A claim or a completion. -/
def OutboxEvent.Decides : OutboxEvent → Prop
  | claimed .. => True
  | completed .. => True
  | _ => False

/-- Rows that have ended stay, and nothing is claimed or completed. -/
structure Calm (s s' : OutboxWorld) : Prop where
  ended : ∀ row, s.store.Ended row → s'.store.Ended row
  log : ∃ events, s'.log = events ++ s.log ∧ ∀ event ∈ events, ¬ event.Decides

variable {s s' s'' : OutboxWorld}

namespace Calm

theorem of_store (hlog : s'.log = s.log) (hended : ∀ row, s.store.Ended row → s'.store.Ended row) :
    Calm s s' := ⟨hended, [], hlog, by simp⟩

theorem refl (s : OutboxWorld) : Calm s s := of_store rfl fun _ h => h

/-- Something is only remembered. -/
theorem of_record {event : OutboxEvent} (h : s' = s.record event) (hevent : ¬ event.Decides) :
    Calm s s' := by
  subst h
  exact ⟨fun _ h => h, [event], rfl, by simpa using hevent⟩

theorem trans (h : Calm s s') (h' : Calm s' s'') : Calm s s'' := by
  obtain ⟨events, hlog, hevents⟩ := h.log
  obtain ⟨events', hlog', hevents'⟩ := h'.log
  refine ⟨fun row hrow => h'.ended row (h.ended row hrow), events' ++ events, ?_, ?_⟩
  · rw [hlog', hlog, List.append_assoc]
  · intro event hmem
    rcases List.mem_append.mp hmem with hmem | hmem
    · exact hevents' event hmem
    · exact hevents event hmem

theorem stepLaw (h : Calm s s') : StepLaw s s' := by
  obtain ⟨events, hlog, hevents⟩ := h.log
  have hcalm : ∀ event, s'.log = event :: s.log → ¬ event.Decides := by
    intro event heq
    rw [hlog] at heq
    have hone : events = [event] := List.append_cancel_right (heq : events ++ s.log = [event] ++ s.log)
    exact hevents event (by simp [hone])
  exact ⟨h.ended, fun w row now heq => absurd trivial (hcalm _ heq),
    fun w row now heq => absurd trivial (hcalm _ heq)⟩

end Calm

/-! ### The calls of the store -/

theorem stepLaw_claim {w : LeaseOwner} {process : SelfDeploy.Process} {locked : List String}
    {leaseOwner : String} {leaseSeconds : Int}
    {answer : Except OutboxError (Option OutboxDeliveryRow)}
    (h : Transaction (s.store.claimNext process s.clock locked leaseOwner leaseSeconds)
      (fun row => row.map (.claimed w · s.clock)) s answer s') : StepLaw s s' := by
  rcases h with ⟨-, rfl⟩ | ⟨found, store', hresult, rfl, -⟩
  · exact (Calm.refl _).stepLaw
  have hprepared : ∀ row, s.store.Ended row → (s.store.prepareBacklog s.clock).Ended row :=
    fun row hrow => hrow.prepareBacklog s.clock
  cases OutboxStore.claimNext_cases hresult with
  | empty => exact Calm.stepLaw (.of_store rfl hprepared)
  | exhausted hmem hclaimable hfailed =>
      exact Calm.stepLaw (.of_store rfl fun row hrow =>
        (hprepared row hrow).sync hmem hclaimable.free.1 hfailed.id)
  | claimed hmem hclaimable hexpires hclaimed =>
      refine ⟨fun row hrow => (hprepared row hrow).sync hmem hclaimable.free.1 hclaimed.id, ?_, ?_⟩
      · intro w' row now heq
        cases (List.cons.inj heq).1
      · intro w' row now heq hresolved
        obtain ⟨-, rfl, -⟩ := OutboxEvent.claimed.inj (List.cons.inj heq).1
        exact hclaimed.settled hclaimable hresolved

theorem calm_mark {w : LeaseOwner} {record : OutboxDeliveryRecord}
    {leaseOwner key providerId : String} {answer : Except OutboxError OutboxCompletion}
    (h : MarkStep w record leaseOwner key providerId s answer s') : Calm s s' := by
  rcases h with ⟨-, rfl⟩ | ⟨completion, store', hresult, rfl, -⟩
  · exact .refl _
  rcases OutboxStore.markProviderStarted_cases hresult with
    ⟨hne, rfl⟩ | ⟨current, row, hleased, hmarked, rfl, rfl⟩
  · exact .of_store (by simp [updateEvent, hne]) fun _ hrow => hrow
  · have hlive : ¬ current.record.state.Terminal := by
      simp [OutboxDeliveryState.Terminal, hleased.running]
    exact ⟨fun ended hrow => hrow.sync hleased.mem hlive hmarked.id, [.marked w row s.clock], rfl,
      by simp [OutboxEvent.Decides]⟩

theorem calm_otherHandler {w : LeaseOwner} {record : OutboxDeliveryRecord} {leaseOwner : String}
    (h : Relation.ReflTransGen (fun s s' => ∃ key providerId answer,
      MarkStep w record leaseOwner key providerId s answer s') s s') : Calm s s' := by
  induction h with
  | refl => exact .refl _
  | tail _ hstep ih =>
      obtain ⟨key, providerId, answer, hmark⟩ := hstep
      exact ih.trans (calm_mark hmark)

theorem stepLaw_complete {w : LeaseOwner} {record : OutboxDeliveryRecord} {leaseOwner : String}
    {answer : Except OutboxError OutboxCompletion} (howner : pyStrip leaseOwner = w.text)
    (h : Transaction (s.store.completeDelivery s.clock record leaseOwner)
      (updateEvent (.completed w · s.clock)) s answer s') : StepLaw s s' := by
  rcases h with ⟨-, rfl⟩ | ⟨completion, store', hresult, rfl, -⟩
  · exact (Calm.refl _).stepLaw
  rcases OutboxStore.completeDelivery_cases hresult with
    ⟨hne, rfl⟩ | ⟨current, row, attempts, hleased, hdone, rfl, rfl⟩
  · exact Calm.stepLaw (.of_store (by simp [updateEvent, hne]) fun _ hrow => hrow)
  have hlive : ¬ current.record.state.Terminal := by
    simp [OutboxDeliveryState.Terminal, hleased.running]
  have hid : row.record.deliveryId = current.record.deliveryId := by
    rw [hdone.id, ← hleased.id, current.pyStrip_deliveryId]
  refine ⟨fun ended hrow => ?_, ?_, ?_⟩
  · have hended : OutboxStore.Ended { s.store with attempts } ended := hrow
    exact hended.sync hleased.mem hlive hid
  · intro w' row' now heq
    obtain ⟨rfl, rfl, -⟩ := OutboxEvent.completed.inj (List.cons.inj heq).1
    refine ⟨current, ?_⟩
    rw [hid, hleased.id, ← howner]
    exact hleased
  · intro w' row' now heq
    cases (List.cons.inj heq).1

/-! ### Every step -/

theorem stepLaw_call {w : LeaseOwner} {stage : WorkerStage} {call : OutboxCall}
    {answer : Fallible OutboxError OutboxResponse call}
    (hallowed : (outboxProtocol w).Allowed stage call) (h : outboxEnv w s call answer s') :
    StepLaw s s' := by
  have hsame : s' = s → StepLaw s s' := by
    rintro rfl
    exact (Calm.refl _).stepLaw
  cases call with
  | claim leaseOwner leaseSeconds =>
      obtain ⟨process, locked, htransaction⟩ := h
      exact stepLaw_claim htransaction
  | mark record leaseOwner key providerId => exact (calm_mark h).stepLaw
  | complete record leaseOwner =>
      obtain ⟨copy, -, -, howner⟩ := hallowed
      exact stepLaw_complete howner h
  | startDispatch deliveryId => exact (Calm.of_record h id).stepLaw
  | dispatchAnswer deliveryId => exact (Calm.of_record h id).stepLaw
  | startWebhook deliveryId => exact (Calm.of_record h id).stepLaw
  | webhookAnswer deliveryId => exact (Calm.of_record h id).stepLaw
  | otherHandler record =>
      exact (calm_otherHandler h).stepLaw
  | readIncident => exact hsame h.1
  | listAttempts => exact hsame h.1
  | listDeliveries => exact hsame h.1
  | _ => exact hsame h

theorem stepLaw_other (h : s.Other s') : StepLaw s s' := by
  cases h with
  | clock hnow => exact Calm.stepLaw (.of_store rfl fun _ hrow => hrow)
  | enqueue hrow hnew =>
      refine Calm.stepLaw (.of_store rfl fun ended hended => ?_)
      exact ⟨OutboxStore.mem_sync.mpr (.inl ⟨hended.1, (hnew ended hended.1).1⟩), hended.2⟩
  | rest => exact Calm.stepLaw (.of_store rfl fun _ hrow => hrow)

theorem stepLaw_of_step {stage stage' : LeaseOwner → WorkerStage}
    (h : Protocol.Step outboxEnv OutboxWorld.Other outboxProtocol .idle (stage, s) (stage', s')) :
    StepLaw s s' := by
  cases h with
  | call w hallowed hE => exact stepLaw_call hallowed hE
  | restart w => exact (Calm.refl _).stepLaw
  | other hother => exact stepLaw_other hother

theorem ended_of_reaches {x y : (LeaseOwner → WorkerStage) × OutboxWorld}
    (h : Protocol.Reaches outboxEnv OutboxWorld.Other outboxProtocol .idle x y)
    {row : OutboxDeliveryRow} (hrow : x.2.store.Ended row) : y.2.store.Ended row := by
  induction h with
  | refl => exact hrow
  | tail _ hstep ih => exact (stepLaw_of_step hstep).ended row ih

/-- The machine of a fresh pool. -/
theorem OutboxPool.Fresh.machine {x : OutboxPool} (h : x.Fresh) :
    (x.2.machine fun _ => .idle).Fresh := by
  refine ⟨fun d => OutboxStore.views_eq_none fun row hrow => ?_, h.silent, fun _ => rfl⟩
  rw [h.empty] at hrow
  cases hrow

/-- **Effects that cannot be reconciled are performed at most once.** -/
theorem sentAtMostOnce_of_reaches {x y : OutboxPool} (hx : x.Fresh) (hy : x.Reaches y) :
    SentAtMostOnce y.2 ∧ (∀ z, Pool.Step outboxEnv OutboxWorld.Other WorkerStarts y z →
      StepLaw y.2 z.2) ∧
    ∀ z, y.Reaches z → ∀ row, y.2.store.Ended row → z.2.store.Ended row := by
  have hfollows : ∀ w, (outboxProtocol w).Follows (x.1 w) .idle :=
    fun w => workerStarts_follows w _ (hx.starts w)
  obtain ⟨stage, hreach, hfollows⟩ := hy.exists_phases workerStarts_follows hfollows
  have hsound : (y.2.machine stage).Sound :=
    (Machine.sound_of_fresh hx.machine).reaches (OutboxWorld.reaches_of_reaches hreach)
  refine ⟨⟨hsound.log.lawful, fun row hrow => ?_⟩, fun z hz => ?_, fun z hz row hrow => ?_⟩
  · exact hsound.rows.bounded _ _ (OutboxStore.views_of_mem hrow)
  · obtain ⟨stage', hstep, -⟩ := hz.exists_phases workerStarts_follows hfollows
    exact stepLaw_of_step hstep
  · obtain ⟨stage', hreach', -⟩ := hz.exists_phases workerStarts_follows hfollows
    exact ended_of_reaches hreach' hrow

/-! ### A takeover -/

/-- One transaction that is answered. -/
def serveTransaction {A : Type} (result : Except OutboxError (A × OutboxStore))
    (event : A → Option OutboxEvent) (s : OutboxWorld) : Except OutboxError A × OutboxWorld :=
  match result with
  | .error error => (.error error, s)
  | .ok (a, store) => (.ok a, { s with store, log := (event a).toList ++ s.log })

theorem transaction_serve {A : Type} (result : Except OutboxError (A × OutboxStore))
    (event : A → Option OutboxEvent) (s : OutboxWorld) :
    Transaction result event s (serveTransaction result event s).1
      (serveTransaction result event s).2 := by
  cases result with
  | error error => exact .inl ⟨⟨error, rfl⟩, rfl⟩
  | ok found => exact .inr ⟨found.1, found.2, rfl, rfl, .inl rfl⟩

/-- A dispatch was started. -/
def OutboxEvent.isStart : OutboxEvent → Bool
  | started .. => true
  | _ => false

/-- The runs of the workflow: a dispatch that was started has caused one. -/
def workflowRuns (s : OutboxWorld) : JsonValue :=
  .object [("workflow_runs", .array (if s.log.any OutboxEvent.isStart then
    [.object [("id", .number 7), ("created_at", .number s.clock), ("status", .string "queued")]]
  else []))]

/-- The world answers at once, and GitHub runs what is dispatched. -/
def serve (w : LeaseOwner) (s : OutboxWorld) (call : OutboxCall) :
    Fallible OutboxError OutboxResponse call × OutboxWorld :=
  match call with
  | .claim leaseOwner leaseSeconds =>
    serveTransaction (s.store.claimNext {} s.clock [] leaseOwner leaseSeconds)
      (fun row => row.map (.claimed w · s.clock)) s
  | .mark record leaseOwner key providerId =>
    serveTransaction (s.store.markProviderStarted s.clock record leaseOwner key providerId)
      (updateEvent (.marked w · s.clock)) s
  | .complete record leaseOwner =>
    serveTransaction (s.store.completeDelivery s.clock record leaseOwner)
      (updateEvent (.completed w · s.clock)) s
  | .resolveToken .. => (.ok "token", s)
  | .utcNow => (.ok s.clock, s)
  | .workflowRuns .. => (.ok (workflowRuns s), s)
  | .startDispatch deliveryId .. => (.ok (), s.record (.started w deliveryId .workflowDispatch))
  | .dispatchAnswer deliveryId => (.ok (), s.record (.answered w deliveryId false))
  | .startWebhook deliveryId _ =>
    (.error (.other ""), s.record (.started w deliveryId .discordWebhook))
  | .webhookAnswer deliveryId => (.error (.other ""), s.record (.answered w deliveryId false))
  | _ => (.error (.other ""), s)

theorem outboxEnv_serve (w : LeaseOwner) (s : OutboxWorld) (call : OutboxCall) :
    outboxEnv w s call (serve w s call).1 (serve w s call).2 := by
  cases call with
  | claim leaseOwner leaseSeconds => exact ⟨{}, [], transaction_serve _ _ s⟩
  | mark record leaseOwner key providerId => exact transaction_serve _ _ s
  | complete record leaseOwner => exact transaction_serve _ _ s
  | readIncident incidentId => exact ⟨rfl, .inl ⟨_, rfl⟩⟩
  | listAttempts incidentId destinationKind => exact ⟨rfl, .inl ⟨_, rfl⟩⟩
  | listDeliveries incidentId => exact ⟨rfl, .inl ⟨_, rfl⟩⟩
  | otherHandler record => exact .refl
  | _ => rfl

/-- A dispatch as it is enqueued. -/
def enqueuedDispatch : OutboxDeliveryRow where
  record := {
    deliveryId := "delivery-1"
    kind := .githubWorkflowDispatch
    aggregateType := "promotion"
    aggregateId := "promotion-1"
    dedupeKey := "promotion-1"
    createdAt := 0
    updatedAt := 0
    nextAttemptAt := 0
    payload := [("repository", .string "shop/site"), ("workflow_id", .string "promote.yml"),
      ("ref", .string "main"), ("credential_context", .string "site")] }
  wellFormed := by rfl

theorem workerName_ne : "worker-1" ≠ "" := by decide

theorem otherName_ne : "worker-2" ≠ "" := by decide

/-- A worker. -/
def firstWorker : LeaseOwner := ⟨"worker-1", by decide +kernel, workerName_ne⟩

/-- Another worker. -/
def secondWorker : LeaseOwner := ⟨"worker-2", by decide +kernel, otherName_ne⟩

/-- Workers before their first round, over an empty store. -/
def freshPool : OutboxPool :=
  (fun w => (runOutboxWorkerOnce w.text 60).run,
    { store := { deliveries := .empty, incidents := .empty, attempts := .empty }, clock := 0
      log := [] })

theorem freshPool_fresh : freshPool.Fresh :=
  ⟨fun w => ⟨w.text, 60, w.stripped, rfl⟩, rfl, rfl⟩

/-- The dispatch is enqueued. -/
def enqueuedPool : OutboxPool :=
  (freshPool.1, { freshPool.2 with store := freshPool.2.store.sync enqueuedDispatch })

/-- A worker makes some calls, and then time passes. -/
def turn (pool : OutboxPool) (work : LeaseOwner × Nat × Nat) : OutboxPool :=
  let ran := (pool.1 work.1).advance (serve work.1) work.2.1 pool.2
  (Function.update pool.1 work.1 ran.1, { ran.2 with clock := ran.2.clock + work.2.2 })

theorem reaches_turns (turns : List (LeaseOwner × Nat × Nat)) (pool : OutboxPool) :
    pool.Reaches (turns.foldl turn pool) := by
  induction turns generalizing pool with
  | nil => exact .refl
  | cons work rest ih =>
      have hcalls : pool.Reaches (Function.update pool.1 work.1
          ((pool.1 work.1).advance (serve work.1) work.2.1 pool.2).1,
          ((pool.1 work.1).advance (serve work.1) work.2.1 pool.2).2) :=
        Pool.reaches_advance work.1 _ (outboxEnv_serve work.1) work.2.1 pool.1 pool.2
      exact (hcalls.tail (.other (.clock _ (Nat.le_add_right ..)))).trans (ih (turn pool work))

/-- The first worker stalls after its claim until its lease has run out; the second one claims the
dispatch, sends it and has not completed it yet. -/
def sentPool : OutboxPool := [(firstWorker, 1, 61), (secondWorker, 8, 0)].foldl turn enqueuedPool

/-- The second worker completes the dispatch, and the first one goes on to its end. -/
def takenOver : OutboxPool := [(secondWorker, 1, 0), (firstWorker, 20, 0)].foldl turn sentPool

theorem freshPool_reaches_sentPool : freshPool.Reaches sentPool := by
  have henqueue : Pool.Step outboxEnv OutboxWorld.Other WorkerStarts freshPool enqueuedPool :=
    .other (.enqueue _ ⟨rfl, rfl, rfl⟩ (fun _ hmem => by cases hmem))
  exact .head henqueue (reaches_turns _ _)

theorem freshPool_reaches_takenOver : freshPool.Reaches takenOver :=
  freshPool_reaches_sentPool.trans (reaches_turns _ _)

/-- An event, by its worker. -/
def OutboxEvent.summary : OutboxEvent → String × String
  | claimed w _ _ => (w.text, "claimed")
  | marked w _ _ => (w.text, "marked")
  | started w _ _ => (w.text, "started")
  | answered w _ _ => (w.text, "answered")
  | completed w _ _ => (w.text, "completed")

/-- The dispatch is sent once, by the second worker; the first one completes nothing while the
second holds the lease, and what was delivered stays as it is. -/
theorem sentAtMostOnce_of_takeover :
    takenOver.2.log.map OutboxEvent.summary =
      [("worker-2", "completed"), ("worker-2", "answered"), ("worker-2", "started"),
        ("worker-2", "marked"), ("worker-2", "claimed"), ("worker-1", "claimed")] ∧
    SentAtMostOnce takenOver.2 ∧
    (∀ z, Pool.Step outboxEnv OutboxWorld.Other WorkerStarts sentPool z →
      ∀ row now, z.2.log ≠ .completed firstWorker row now :: sentPool.2.log) ∧
    ∀ z, takenOver.Reaches z →
      ∀ row ∈ takenOver.2.store.deliveries.rows, row ∈ z.2.store.deliveries.rows := by
  obtain ⟨-, hstep, -⟩ := sentAtMostOnce_of_reaches freshPool_fresh freshPool_reaches_sentPool
  obtain ⟨hsent, -, hended⟩ := sentAtMostOnce_of_reaches freshPool_fresh freshPool_reaches_takenOver
  have hrun : takenOver.2.log.map OutboxEvent.summary =
        [("worker-2", "completed"), ("worker-2", "answered"), ("worker-2", "started"),
          ("worker-2", "marked"), ("worker-2", "claimed"), ("worker-1", "claimed")] ∧
      ∀ row ∈ takenOver.2.store.deliveries.rows, row.record.state = .delivered := by
    decide +kernel
  have howner : ∀ row ∈ sentPool.2.store.deliveries.rows, row.record.leaseOwner = "worker-2" := by
    decide +kernel
  refine ⟨hrun.1, hsent, fun z hz row now heq => ?_, fun z hz row hrow => ?_⟩
  · -- a completion needs the lease, which is the second worker's
    obtain ⟨current, hleased⟩ := (hstep z hz).completes firstWorker row now heq
    have hfirst : current.record.leaseOwner = "worker-1" := hleased.owner
    rw [howner current hleased.mem] at hfirst
    exact absurd hfirst (by decide)
  · exact (hended z hz row ⟨hrow, .inl (hrun.2 row hrow)⟩).1

end Launchplane.Outbox
