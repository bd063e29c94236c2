import Launchplane.Outbox.Leases
import Launchplane.Outbox.Worker

/-!
# Launchplane.Outbox.Refinement

**The outbox refines its machine**: what a call of a worker does to the store, and
whatever else happens, is a run of steps of the machine over the views of the
rows. A transaction whose answer was lost is the step, with a stage that does not
know of it; one that was rolled back is a worker that forgets.
-/

namespace Launchplane.Outbox

open Launchplane.Interaction

namespace OutboxStore

/-- The rows as the machine sees them. -/
def views (store : OutboxStore) : String → Option DeliveryView :=
  fun d => (store.deliveries.get d).map OutboxDeliveryRow.view

theorem views_of_mem {store : OutboxStore} {row : OutboxDeliveryRow}
    (h : row ∈ store.deliveries.rows) : store.views row.record.deliveryId = some row.view := by
  have hget : store.deliveries.get row.record.deliveryId = some row :=
    Table.get_eq_some.mpr ⟨h, rfl⟩
  simp [views, hget]

theorem views_eq_none {store : OutboxStore} {d : String}
    (h : ∀ row ∈ store.deliveries.rows, row.record.deliveryId ≠ d) : store.views d = none := by
  cases hget : store.deliveries.get d with
  | none => simp [views, hget]
  | some row =>
      obtain ⟨hmem, hid⟩ := Table.get_eq_some.mp hget
      exact absurd hid (h row hmem)

theorem views_sync (store : OutboxStore) (row : OutboxDeliveryRow) :
    (store.sync row).views =
      Function.update store.views row.record.deliveryId (some row.view) := by
  funext d
  rw [Function.update_apply]
  split
  · rename_i hd
    subst hd
    exact views_of_mem (mem_sync.mpr (.inr rfl))
  · rename_i hd
    simp [views, sync, Table.get_merge, hd]

theorem Prepared.view {row row' : OutboxDeliveryRow} (h : Prepared row row') :
    row'.view = row.view := by
  rcases h with rfl | ⟨-, payload, heq⟩
  · rfl
  · simp [OutboxDeliveryRow.view, heq]

theorem views_prepareBacklog (store : OutboxStore) (now : Nat) :
    (store.prepareBacklog now).views = store.views := by
  obtain ⟨hafter, hbefore⟩ := preparedRows_prepareBacklog store now
  funext d
  cases hget : store.deliveries.get d with
  | none =>
      have hnone : (store.prepareBacklog now).views d = none := by
        refine views_eq_none ?_
        intro row' hrow' hid
        obtain ⟨row, hrow, hprepared⟩ := hafter row' hrow'
        have hsome := views_of_mem hrow
        rw [← hprepared.same.id, hid, views, hget] at hsome
        cases hsome
      rw [hnone, views, hget]
      rfl
  | some row =>
      obtain ⟨hmem, rfl⟩ := Table.get_eq_some.mp hget
      obtain ⟨row', hrow', hprepared⟩ := hbefore row hmem
      rw [views_of_mem hmem, ← hprepared.same.id, views_of_mem hrow', hprepared.view]

end OutboxStore

/-- The machine of the workers' stages and the world. -/
def OutboxWorld.machine (s : OutboxWorld) (stage : LeaseOwner → WorkerStage) : Machine where
  row := s.store.views
  clock := s.clock
  log := s.log
  stage := stage

namespace OutboxWorld

variable {s s' : OutboxWorld} {stage : LeaseOwner → WorkerStage} {w : LeaseOwner}

/-- A worker forgets what it did, and nothing else happens. -/
theorem reaches_forget {next : WorkerStage} (h : Machine.Forgets (stage w) next) :
    Machine.Reaches (s.machine stage) (s.machine (Function.update stage w next)) :=
  .single (.forget (s.machine stage) w h)

theorem machine_congr (hviews : s'.store.views = s.store.views) (hclock : s'.clock = s.clock)
    (hlog : s'.log = s.log) : s'.machine stage = s.machine stage := by
  simp only [machine, hviews, hclock, hlog]

/-- The machine after a row was written. -/
theorem machine_write {store : OutboxStore} (row : OutboxDeliveryRow) (event : OutboxEvent)
    {next : WorkerStage} (hviews : store.views = s.store.views) :
    machine { s with store := store.sync row, log := event :: s.log } (Function.update stage w next) =
      (s.machine stage).write w row.record.deliveryId row.view event next := by
  simp only [machine, Machine.write, OutboxStore.views_sync, hviews]

/-! ### The calls of the store -/

/-- A claim, whose answer the worker may not have got. -/
theorem reaches_claim {process : SelfDeploy.Process} {locked : List String} {leaseOwner : String}
    {leaseSeconds : Int} {answer : Except OutboxError (Option OutboxDeliveryRow)}
    (howner : pyStrip leaseOwner = w.text)
    (h : Transaction (s.store.claimNext process s.clock locked leaseOwner leaseSeconds)
      (fun row => row.map (.claimed w · s.clock)) s answer s') :
    Machine.Reaches (s.machine stage) (s'.machine (Function.update stage w
      ((outboxProtocol w).next (stage w) (.claim leaseOwner leaseSeconds) answer))) := by
  rcases h with ⟨⟨e, rfl⟩, rfl⟩ | ⟨found, store', hresult, rfl, hanswer⟩
  · exact reaches_forget (.inr (.inl rfl))
  have hviews := s.store.views_prepareBacklog s.clock
  have heffect := OutboxStore.claimNext_cases hresult
  rw [howner] at heffect
  cases heffect with
  | empty =>
      have hnext : (outboxProtocol w).next (stage w) (.claim leaseOwner leaseSeconds) answer =
          .done := by
        rcases hanswer with rfl | ⟨e, rfl⟩ <;> rfl
      rw [hnext]
      have hsame : machine ⟨s.store.prepareBacklog s.clock, s.clock, s.log⟩ =
          s.machine := funext fun _ => machine_congr hviews rfl rfl
      exact congrFun hsame _ ▸ reaches_forget (.inr (.inl rfl))
  | @exhausted row failed hmem hclaimable hfailed =>
      have hnext : (outboxProtocol w).next (stage w) (.claim leaseOwner leaseSeconds) answer =
          .done := by
        rcases hanswer with rfl | ⟨e, rfl⟩ <;> rfl
      rw [hnext]
      have hforget : Machine.Reaches (s.machine stage)
          (s.machine (Function.update stage w .done)) := reaches_forget (.inr (.inl rfl))
      refine hforget.tail ?_
      have hrow : s.store.views row.record.deliveryId = some row.view := by
        rw [← hviews]
        exact OutboxStore.views_of_mem hmem
      have hstep : Machine.Step (s.machine (Function.update stage w .done))
          { s.machine (Function.update stage w .done) with
            row := Function.update s.store.views row.record.deliveryId (some failed.view) } :=
        .exhaust (s.machine (Function.update stage w .done)) hrow hclaimable.free hfailed.kind
          hfailed.attempt hfailed.maxAttempts hfailed.state
      convert hstep using 1
      simp only [machine, OutboxStore.views_sync, hviews, hfailed.id]
      rfl
  | @claimed row claimed expiresAt hmem hclaimable hexpires hclaimed =>
      have hrow : s.store.views claimed.record.deliveryId = some row.view := by
        rw [hclaimed.id, ← hviews]
        exact OutboxStore.views_of_mem hmem
      rw [show (Option.map (OutboxEvent.claimed w · s.clock) (some claimed)).toList ++ s.log =
        .claimed w claimed s.clock :: s.log from rfl, machine_write claimed _ hviews]
      refine .single (.claim (s.machine stage) w hrow hclaimable.free hclaimed.bound hexpires ?_ ?_)
      · simp only [OutboxDeliveryRow.view, hclaimed.kind, hclaimed.running, hclaimed.owner,
          hclaimed.lease, hclaimed.attempt, hclaimed.maxAttempts, hclaimed.key]
      · rcases hanswer with rfl | ⟨e, rfl⟩
        · exact .inl rfl
        · exact .inr rfl

/-- What an update of a row does. -/
theorem update_cases {result : Except OutboxError (OutboxCompletion × OutboxStore)}
    {event : OutboxDeliveryRow → OutboxEvent} {answer : Except OutboxError OutboxCompletion}
    (h : Transaction result (updateEvent event) s answer s')
    (hsame : ∀ completion store', result = .ok (completion, store') →
      completion.status ≠ .updated → store' = s.store) :
    s' = s ∧ (∀ row, answer ≠ .ok ⟨.updated, row⟩) ∨
      ∃ completion store', result = .ok (completion, store') ∧ completion.status = .updated ∧
        s' = { s with store := store', log := (completion.record.map event).toList ++ s.log } ∧
        (answer = .ok completion ∨ ∃ e, answer = .error e) := by
  rcases h with ⟨⟨e, rfl⟩, rfl⟩ | ⟨completion, store', hresult, rfl, hanswer⟩
  · exact .inl ⟨rfl, fun row heq => nomatch heq⟩
  · by_cases hupdated : completion.status = .updated
    · refine .inr ⟨completion, store', hresult, hupdated, ?_, hanswer⟩
      simp [updateEvent, hupdated]
    · left
      have hstore := hsame completion store' hresult hupdated
      subst hstore
      refine ⟨by simp [updateEvent, hupdated], ?_⟩
      rintro row rfl
      rcases hanswer with heq | ⟨e, heq⟩
      · exact hupdated (by rw [← Except.ok.inj heq])
      · cases heq

/-- A marker, for the copy a worker holds. -/
theorem reaches_mark {record copy : OutboxDeliveryRecord} {leaseOwner key providerId : String}
    {answer : Except OutboxError OutboxCompletion} {next : WorkerStage}
    (hstage : stage w = .holding copy ∨ stage w = .unsure copy)
    (hid : record.deliveryId = copy.deliveryId) (howner : pyStrip leaseOwner = w.text)
    (h : MarkStep w record leaseOwner key providerId s answer s')
    (hnext : next = .unsure copy ∨ (∃ row, answer = .ok ⟨.updated, row⟩) ∧
      stage w = .holding copy ∧ copy.kind.SentOnce ∧ copy.providerOperationKey = "" ∧
      next = .marked copy) :
    Machine.Reaches (s.machine stage) (s'.machine (Function.update stage w next)) := by
  have hunsure : ∀ next, next = .unsure copy →
      Machine.Reaches (s.machine stage) (s.machine (Function.update stage w next)) := by
    rintro _ rfl
    rcases hstage with hstage | hstage
    · exact reaches_forget (.inr (.inr ⟨copy, hstage, rfl⟩))
    · rw [← hstage, Function.update_eq_self]
  have hsame : ∀ completion store', s.store.markProviderStarted s.clock record leaseOwner key
      providerId = .ok (completion, store') → completion.status ≠ .updated → store' = s.store := by
    intro completion store' hresult hne
    rcases OutboxStore.markProviderStarted_cases hresult with ⟨-, heq⟩ | ⟨_, _, -, -, rfl, -⟩
    · exact heq
    · exact absurd rfl hne
  rcases update_cases h hsame with
    ⟨rfl, hlost⟩ | ⟨completion, store', hresult, hupdated, rfl, -⟩
  · refine hunsure next (hnext.resolve_right ?_)
    rintro ⟨⟨row, heq⟩, -⟩
    exact hlost row heq
  · rcases OutboxStore.markProviderStarted_cases hresult with
      ⟨hne, -⟩ | ⟨current, row, hleased, hmarked, rfl, rfl⟩
    · exact absurd hupdated hne
    obtain ⟨expiresAt, hlease, hlive⟩ := hleased.live
    have hcurrent : current.record.deliveryId = copy.deliveryId := hleased.id.trans hid
    have hrow : row.record.deliveryId = copy.deliveryId := hmarked.id.trans hcurrent
    have hview : s.store.views copy.deliveryId = some current.view :=
      hcurrent ▸ OutboxStore.views_of_mem hleased.mem
    rw [show (Option.map (OutboxEvent.marked w · s.clock) (some row)).toList ++ s.log =
      .marked w row s.clock :: s.log from rfl, machine_write row _ rfl, hrow]
    refine .single (.mark (s.machine stage) w hstage hrow hview
      ⟨hleased.running, hleased.owner.trans howner⟩ hlease hlive ?_ hmarked.key ?_)
    · simp only [OutboxDeliveryRow.view, hmarked.kind, hmarked.running, hleased.running,
        hmarked.owner, hmarked.lease, hmarked.attempt, hmarked.maxAttempts]
    · exact hnext.imp_right fun hmark => hmark.2

/-- A completion, with what the worker reports of its copy. -/
theorem reaches_complete {record copy : OutboxDeliveryRecord} {leaseOwner : String}
    {answer : Except OutboxError OutboxCompletion} (hcopy : (stage w).copy = some copy)
    (hreports : (stage w).Reports copy record) (howner : pyStrip leaseOwner = w.text)
    (h : Transaction (s.store.completeDelivery s.clock record leaseOwner)
      (updateEvent (.completed w · s.clock)) s answer s') :
    Machine.Reaches (s.machine stage) (s'.machine (Function.update stage w .done)) := by
  have hsame : ∀ completion store', s.store.completeDelivery s.clock record leaseOwner =
      .ok (completion, store') → completion.status ≠ .updated → store' = s.store := by
    intro completion store' hresult hne
    rcases OutboxStore.completeDelivery_cases hresult with ⟨-, heq⟩ | ⟨_, _, _, -, -, rfl, -⟩
    · exact heq
    · exact absurd rfl hne
  rcases update_cases h hsame with
    ⟨rfl, -⟩ | ⟨completion, store', hresult, hupdated, rfl, -⟩
  · exact reaches_forget (.inr (.inl rfl))
  · rcases OutboxStore.completeDelivery_cases hresult with
      ⟨hne, -⟩ | ⟨current, row, attempts, hleased, hdone, rfl, rfl⟩
    · exact absurd hupdated hne
    obtain ⟨expiresAt, hlease, hlive⟩ := hleased.live
    have hcurrent : current.record.deliveryId = copy.deliveryId := hleased.id.trans hreports.id
    have hrow : row.record.deliveryId = copy.deliveryId := by
      rw [hdone.id, ← hleased.id, current.pyStrip_deliveryId, hcurrent]
    have hview : s.store.views copy.deliveryId = some current.view :=
      hcurrent ▸ OutboxStore.views_of_mem hleased.mem
    have hstate : record.state ≠ .running := by
      rw [← hdone.state]
      intro hrunning
      obtain ⟨_, hsome⟩ := row.running_iff.mp hrunning
      rw [hdone.released] at hsome
      cases hsome
    have hviews : OutboxStore.views { s.store with attempts } = s.store.views := rfl
    rw [show (Option.map (OutboxEvent.completed w · s.clock) (some row)).toList ++ s.log =
      .completed w row s.clock :: s.log from rfl, machine_write row _ hviews, hrow]
    refine .single (.complete (s.machine stage) w hcopy hreports hrow hview
      ⟨hleased.running, hleased.owner.trans howner⟩ hlease hlive ?_ hstate)
    simp only [OutboxDeliveryRow.view, hdone.kind, hdone.state, hdone.owner, hdone.released,
      hdone.attempt, hdone.maxAttempts, hdone.key]

/-- The handler of another kind marks its own record, perhaps many times. -/
theorem reaches_otherHandler {record : OutboxDeliveryRecord} {leaseOwner : String}
    (hstage : stage w = .unsure record) (howner : pyStrip leaseOwner = w.text)
    (h : Relation.ReflTransGen (fun s s' => ∃ key providerId answer,
      MarkStep w record leaseOwner key providerId s answer s') s s') :
    Machine.Reaches (s.machine stage) (s'.machine stage) := by
  induction h with
  | refl => exact .refl
  | tail _ hstep ih =>
      obtain ⟨key, providerId, answer, hmark⟩ := hstep
      have hreach := reaches_mark (.inr hstage) rfl howner hmark (.inl rfl)
      rw [← hstage, Function.update_eq_self] at hreach
      exact ih.trans hreach

/-! ### Every step -/

/-- The stage of a worker is what it was: the machine does not see the call. -/
theorem reaches_unseen (h : s' = s) :
    Machine.Reaches (s.machine stage) (s'.machine (Function.update stage w (stage w))) := by
  rw [h, Function.update_eq_self]

/-- **A call of a worker that keeps to the protocol is a run of the machine.** -/
theorem reaches_call {call : OutboxCall} {answer : Fallible OutboxError OutboxResponse call}
    (hallowed : (outboxProtocol w).Allowed (stage w) call) (h : outboxEnv w s call answer s') :
    Machine.Reaches (s.machine stage)
      (s'.machine (Function.update stage w ((outboxProtocol w).next (stage w) call answer))) := by
  cases call with
  | claim leaseOwner leaseSeconds =>
      obtain ⟨process, locked, htransaction⟩ := h
      exact reaches_claim hallowed.2 htransaction
  | mark record leaseOwner key providerId =>
      obtain ⟨copy, hstage, hkind, hblank, hid, howner⟩ := hallowed
      refine reaches_mark (.inl hstage) hid howner h ?_
      rw [hstage]
      rcases answer with e | ⟨status, row⟩
      · exact .inl rfl
      · cases status
        case updated => exact .inr ⟨⟨row, rfl⟩, rfl, hkind, hblank, rfl⟩
        all_goals exact .inl rfl
  | complete record leaseOwner =>
      obtain ⟨copy, hcopy, hreports, howner⟩ := hallowed
      exact reaches_complete hcopy hreports howner h
  | startDispatch deliveryId =>
      obtain ⟨copy, hstage, rfl, hkind⟩ := hallowed
      obtain rfl : s' = _ := h
      rw [hstage]
      exact .single (.start (s.machine stage) w .workflowDispatch hstage hkind)
  | dispatchAnswer deliveryId =>
      obtain ⟨copy, hstage, rfl⟩ := hallowed
      obtain rfl : s' = _ := h
      rw [hstage]
      exact .single (.answer (s.machine stage) w hstage (fun h => nomatch h))
  | startWebhook deliveryId =>
      obtain ⟨copy, hstage, rfl, hkind⟩ := hallowed
      obtain rfl : s' = _ := h
      rw [hstage]
      exact .single (.start (s.machine stage) w .discordWebhook hstage hkind)
  | webhookAnswer deliveryId =>
      obtain ⟨copy, hstage, rfl⟩ := hallowed
      obtain rfl : s' = _ := h
      rw [hstage]
      exact .single (.answer (s.machine stage) w hstage fun _ => rfl)
  | otherHandler record =>
      have hforget : Machine.Reaches (s.machine stage)
          (s.machine (Function.update stage w (.unsure record))) :=
        reaches_forget (.inr (.inr ⟨record, hallowed.1, rfl⟩))
      exact hforget.trans (reaches_otherHandler (Function.update_self ..) w.stripped h)
  | readIncident => exact reaches_unseen h.1
  | listAttempts => exact reaches_unseen h.1
  | listDeliveries => exact reaches_unseen h.1
  | readObservation => exact reaches_unseen h
  | matchingPolicies => exact reaches_unseen h
  | resolveToken => exact reaches_unseen h
  | utcNow => exact reaches_unseen h
  | deadlineReached => exact reaches_unseen h
  | workflowRuns => exact reaches_unseen h
  | resolveSecret => exact reaches_unseen h
  | urlError => exact reaches_unseen h
  | sendEmail => exact reaches_unseen h
  | githubClient => exact reaches_unseen h

/-- What happens besides the calls of the workers is a run of the machine. -/
theorem reaches_other (h : Other s s') :
    Machine.Reaches (s.machine stage) (s'.machine stage) := by
  cases h with
  | clock hnow => exact .single (.tick (s.machine stage) hnow)
  | @enqueue row hrow hnew =>
      have hnone : s.store.views row.record.deliveryId = none :=
        OutboxStore.views_eq_none fun other hmem => (hnew other hmem).1
      have hstep : Machine.Step (s.machine stage) { s.machine stage with
          row := Function.update s.store.views row.record.deliveryId (some row.view) } :=
        .enqueue (s.machine stage) hnone hrow.state hrow.attempt
      rw [← OutboxStore.views_sync] at hstep
      exact .single hstep
  | rest => exact .refl

/-- **Every step of the workers and their world is a run of the machine.** -/
theorem reaches_of_step {stage' : LeaseOwner → WorkerStage}
    (h : Protocol.Step outboxEnv Other outboxProtocol .idle (stage, s) (stage', s')) :
    Machine.Reaches (s.machine stage) (s'.machine stage') := by
  cases h with
  | call w hallowed hE => exact reaches_call hallowed hE
  | restart w => exact reaches_forget (.inl rfl)
  | other hother => exact reaches_other hother

theorem reaches_of_reaches {x y : (LeaseOwner → WorkerStage) × OutboxWorld}
    (h : Protocol.Reaches outboxEnv Other outboxProtocol .idle x y) :
    Machine.Reaches (x.2.machine x.1) (y.2.machine y.1) := by
  induction h with
  | refl => exact .refl
  | tail _ hstep ih => exact ih.trans (reaches_of_step hstep)

end OutboxWorld

end Launchplane.Outbox
