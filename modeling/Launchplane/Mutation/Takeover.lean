import Launchplane.Mutation.Interleaved

/-!
# Launchplane.Mutation.Takeover

**Who comes next.** Once an effect was recorded for a target, the target changes
hands in two ways only: its reservation is over, or the next holder has seen
meanwhile that the effect is absent and can be repeated. And a reservation that is
over stays what it is: every later request with its key is answered with it.
-/

namespace Launchplane.Mutation

open Interaction MutationStore

variable {ω : Type} {target : String} {w v : ω} {mid older : Log ω}
  {record taken : IdempotencyRecord} {means : Means}

/-! ### After a recorded effect -/

namespace Log

/-- An effect was recorded for the target, and nobody has acquired it since. -/
structure Recorded (target : String) (mid older : Log ω) (w : ω) (record : IdempotencyRecord) :
    Prop where
  fenced : Log.Fenced (mid ++ .checkpointed w record :: older)
  about : record.providerTargetKey = target
  untaken : ∀ event ∈ mid, event.takes target = false

variable {event : Event ω}

theorem Recorded.tail (h : Recorded target (event :: mid) older w record) :
    Recorded target mid older w record :=
  ⟨h.fenced.2, h.about, fun other hother => h.untaken other (List.mem_cons_of_mem _ hother)⟩

/-- The evidence of the effect is still there. -/
theorem Recorded.evidence_ne (h : Recorded target mid older w record) :
    (Log.evidence target (mid ++ .checkpointed w record :: older)).2 ≠ none := by
  induction mid with
  | nil =>
      have hstarted := h.fenced.1.2
      simpa [Log.evidence, h.about, IdempotencyRecord.evidence] using hstarted
  | cons event mid ih =>
      have htail := ih h.tail
      have htakes := h.untaken event List.mem_cons_self
      cases event with
      | acquired u taken means =>
          have hne : taken.providerTargetKey ≠ target := by simpa [Event.takes] using htakes
          simpa [Log.evidence, hne] using htail
      | checkpointed u checked =>
          by_cases hsame : checked.providerTargetKey = target
          · have hstarted := h.fenced.1.2
            simpa [Log.evidence, hsame, IdempotencyRecord.evidence] using hstarted
          · simpa [Log.evidence, hsame] using htail
      | _ => simpa [Log.evidence] using htail

/-- If nobody has the target any more, its reservation is over: it was not given back. -/
theorem Recorded.ended (h : Recorded target mid older w record)
    (hvacant : Log.vacant target (mid ++ .checkpointed w record :: older) = true) :
    ∃ u done ending, .ended u done ending ∈ mid ∧ done.providerTargetKey = target := by
  induction mid with
  | nil =>
      have hheld := h.fenced.1.1.held
      rw [h.about] at hheld
      simp [Log.vacant, Event.leaves, hheld] at hvacant
  | cons event mid ih =>
      have htakes := h.untaken event List.mem_cons_self
      cases hleaves : event.leaves target with
      | false =>
          have hbefore : Log.vacant target (mid ++ .checkpointed w record :: older) = true := by
            rw [List.cons_append, Log.vacant, htakes, hleaves] at hvacant
            exact hvacant
          obtain ⟨u, done, ending, hmem, hdone⟩ := ih h.tail hbefore
          exact ⟨u, done, ending, List.mem_cons_of_mem _ hmem, hdone⟩
      | true =>
          cases event with
          | released u released =>
              have hsame : released.providerTargetKey = target := by
                simpa [Event.leaves] using hleaves
              have hnone := h.fenced.1.2
              rw [hsame] at hnone
              exact absurd hnone h.tail.evidence_ne
          | ended u done ending =>
              exact ⟨u, done, ending, List.mem_cons_self, by simpa [Event.leaves] using hleaves⟩
          | _ => cases hleaves

/-- What was seen since was seen after the effect was recorded. -/
theorem mem_of_since (h : record.providerTargetKey = target)
    (hmem : event ∈ Log.since target (mid ++ .checkpointed w record :: older)) : event ∈ mid := by
  induction mid with
  | nil => simp [Log.since, Event.takes, Event.records, h] at hmem
  | cons first mid ih =>
      unfold Log.since at hmem
      rw [List.cons_append, List.takeWhile_cons] at hmem
      split_ifs at hmem
      · rcases List.mem_cons.mp hmem with rfl | hmem
        · exact List.mem_cons_self
        · exact List.mem_cons_of_mem _ (ih hmem)
      · cases hmem

/-- The target changes hands: its reservation is over, or its effect was seen to be absent. -/
theorem Recorded.changesHands (h : Recorded target mid older w record)
    (htaken : Event.Follows (mid ++ .checkpointed w record :: older) (.acquired v taken means))
    (hsame : taken.providerTargetKey = target) :
    (∃ u done ending, .ended u done ending ∈ mid ∧ done.providerTargetKey = target) ∨
      ∃ observation, .observed v taken.key
          (Log.evidence target (mid ++ .checkpointed w record :: older)) observation ∈ mid ∧
        observation.outcome = .absent ∧ observation.retrySafe = true := by
  have hadmits := htaken.2
  cases means with
  | fresh => exact .inl (h.ended (hsame ▸ hadmits))
  | superseding => exact .inl (h.ended (hsame ▸ hadmits))
  | reclaimed => exact hadmits.elim
  | retried reservation =>
      obtain ⟨observation, hmem, habsent, hsafe⟩ := hadmits
      rw [hsame] at hmem hsafe
      exact .inr ⟨observation, mem_of_since h.about hmem, habsent,
        hsafe.resolve_left h.evidence_ne⟩

theorem Fenced.of_append {newer : Log ω} (h : Log.Fenced (newer ++ older)) : older.Fenced := by
  induction newer with
  | nil => exact h
  | cons event newer ih => exact ih h.2

end Log

/-! ### Over is over -/

section Final

variable {store store' : MutationStore} {old new : IdempotencyRecord} {key : ReservationKey}

/-- A row that is completed is not the one that is written. -/
theorem recordOf_of_put (hput : Put store store' new) (hold : store.recordOf new.key = some old)
    (hopen : old.state ≠ .completed) (h : store.recordOf key = some record)
    (hdone : record.state = .completed) : store'.recordOf key = some record := by
  have hne : key ≠ new.key := by
    rintro rfl
    rw [hold] at h
    cases h
    exact hopen hdone
  rw [hput, if_neg hne, h]

theorem recordOf_of_quiet (hquiet : Quiet store store') (h : store.recordOf key = some record)
    (hdone : record.state = .completed) : store'.recordOf key = some record := by
  cases hquiet with
  | same => exact h
  | put hold hsame hput => exact recordOf_of_put hput hold hsame.open_.1 h hdone

theorem recordOf_of_held {reservation : IdempotencyRecord}
    (hheld : Held store store' reservation old new) (h : store.recordOf key = some record)
    (hdone : record.state = .completed) : store'.recordOf key = some record := by
  refine recordOf_of_put hheld.put ?_ (by rw [hheld.running.1]; decide) h hdone
  rw [hheld.key, key_of_recordOf hheld.found, hheld.found]

theorem recordOf_of_ended {reservation : IdempotencyRecord}
    (hended : Ended store store' reservation old new) (h : store.recordOf key = some record)
    (hdone : record.state = .completed) : store'.recordOf key = some record := by
  refine recordOf_of_put hended.put ?_ hended.open_ h hdone
  rw [hended.key, key_of_recordOf hended.found, hended.found]

/-- A completed row is kept by every call. -/
theorem recordOf_of_runs {call : OperationCall} {response : OperationResponse call}
    (hrun : call.Runs store response store') (h : store.recordOf key = some record)
    (hdone : record.state = .completed) : store'.recordOf key = some record := by
  cases call with
  | insertReservation request =>
      obtain ⟨now, draining, hrun⟩ := hrun
      rcases insertReservation_cases hrun with ⟨hquiet, -⟩ | ⟨new, -, -, hnone, hput⟩
      · exact recordOf_of_quiet hquiet h hdone
      · have hne : key ≠ new.key := by
          rintro rfl
          rw [hnone] at h
          cases h
        rw [hput, if_neg hne, h]
  | resolveCollision request =>
      obtain ⟨now, draining, hrun⟩ := hrun
      rcases resolveCollision_cases hrun with ⟨hquiet, -⟩ | ⟨old, new, hold, -, hreclaimed, hput⟩
      · exact recordOf_of_quiet hquiet h hdone
      · exact recordOf_of_put hput hold (by rw [hreclaimed.state.1]; decide) h hdone
  | supersede supersession request =>
      obtain ⟨now, draining, hrun⟩ := hrun
      rcases supersedeAndReserve_cases hrun with ⟨rfl, -⟩ | ⟨old, done, new, hsuperseded, -⟩
      · exact h
      · have hne : key ≠ new.key := by
          rintro rfl
          rw [hsuperseded.free] at h
          cases h
        have hne' : key ≠ done.key := by
          rintro rfl
          rw [hsuperseded.key.1, key_of_recordOf hsuperseded.found, hsuperseded.found] at h
          cases h
          cases hsuperseded.state.1.symm.trans hdone
        rw [hsuperseded.put, if_neg hne, if_neg hne', h]
  | release reservation =>
      rcases releaseReservedMutation_cases hrun with ⟨rfl, -⟩ | ⟨old, hold, hrunning, -, -, hdropped⟩
      · exact h
      · have hne : key ≠ reservation.key := by
          rintro rfl
          rw [hold] at h
          cases h
          cases hrunning.symm.trans hdone
        rw [hdropped, if_neg hne, h]
  | renew reservation leaseSeconds =>
      obtain ⟨now, hrun⟩ := hrun
      rcases renewMutationReservation_cases hrun with ⟨rfl, -⟩ | ⟨old, new, hheld, -, -⟩
      · exact h
      · exact recordOf_of_held hheld h hdone
  | checkpoint reservation phase leaseSeconds =>
      obtain ⟨now, hrun⟩ := hrun
      rcases checkpointMutationProviderEffect_cases hrun with ⟨rfl, -⟩ | ⟨old, new, hheld, -, -⟩
      · exact h
      · exact recordOf_of_held hheld h hdone
  | markReconcileRequired reservation reconciliationKey =>
      obtain ⟨now, hrun⟩ := hrun
      exact recordOf_of_quiet (markMutationReconcileRequired_cases hrun) h hdone
  | complete completion =>
      obtain ⟨now, hrun⟩ := hrun
      rcases completeMutationReservation_cases hrun with ⟨hquiet, -⟩ | ⟨old, new, hended, -⟩
      · exact recordOf_of_quiet hquiet h hdone
      · exact recordOf_of_ended hended h hdone
  | adopt reservation response expectedOriginalIntent bindingEvidence =>
      obtain ⟨now, hrun⟩ := hrun
      rcases adoptReconciledMutation_cases hrun with ⟨rfl, -⟩ | ⟨old, new, hended, -⟩
      · exact h
      · exact recordOf_of_ended hended h hdone
  | retry reservation leaseOwner leaseSeconds preserve =>
      obtain ⟨now, draining, hrun⟩ := hrun
      rcases retryReconciledMutation_cases hrun with ⟨rfl, -⟩ | ⟨old, new, hretried, -⟩
      · exact h
      · refine recordOf_of_put hretried.put ?_ (by rw [hretried.state.1]; decide) h hdone
        rw [hretried.key, key_of_recordOf hretried.found, hretried.found]
  | readOriginalIntent reservation =>
      obtain ⟨-, rfl⟩ := hrun
      exact h
  | observe key phase effectStartedAt => exact (show store' = store from hrun) ▸ h
  | quiescent reservation => exact (show store' = store from hrun) ▸ h
  | retainEffectCustody reservation => exact (show store' = store from hrun) ▸ h
  | dispatch request => exact (show store' = store from hrun) ▸ h
  | persist reservation =>
      obtain ⟨now, hrun⟩ := hrun
      exact recordOf_of_quiet (persistCheckpoint_cases hrun) h hdone

/-- The answer to a request that finds its own reservation over: it is replayed, or the request is
another one under the same key. -/
def settled (request : ReserveRequest) (record : IdempotencyRecord) : MutationResult :=
  ⟨if record.requestFingerprint = pyStrip request.requestFingerprint then .replayed else .conflict,
    some record⟩

/-- A request whose arguments are refused by no check. -/
structure Accepted (request : ReserveRequest) (now : Nat) : Prop where
  bound : ¬ (request.targetKey ≠ "" ∧ pyStrip request.reconciliationKey = "")
  built : ∃ row, request.build now request.reconciliationKey request.targetKey = .ok row

variable {now : Nat} {draining : Bool} {request : ReserveRequest}

theorem settledAnswer_of_completed (hdone : record.state = .completed) :
    settledAnswer now record (pyStrip request.requestFingerprint) =
      some (settled request record).status := by
  unfold settledAnswer settled
  by_cases hsame : record.requestFingerprint = pyStrip request.requestFingerprint
  · simp [hsame, hdone]
  · simp [hsame]

theorem observeMutationDuringDrain_of_completed (h : store.recordOf request.normalizedKey = some record)
    (hdone : record.state = .completed) :
    store.observeMutationDuringDrain now request = .ok (settled request record, store) := by
  obtain ⟨row, hget, rfl⟩ := recordOf_eq_some.mp h
  simp only [observeMutationDuringDrain, hget, settledAnswer_of_completed hdone]
  rfl

/-- The second transaction answers. -/
theorem resolveCollision_of_completed (h : store.recordOf request.normalizedKey = some record)
    (hdone : record.state = .completed) :
    store.resolveCollision now draining request = .ok (some (settled request record), store) := by
  cases draining with
  | true =>
      simp only [resolveCollision, if_true, observeMutationDuringDrain_of_completed h hdone]
      rfl
  | false =>
      obtain ⟨row, hget, rfl⟩ := recordOf_eq_some.mp h
      simp only [resolveCollision, Bool.false_eq_true, if_false, hget,
        settledAnswer_of_completed hdone]
      rfl

theorem key_of_build {row : ReservationRow} {reconciliationKey targetKey : String}
    (h : request.build now reconciliationKey targetKey = .ok row) :
    row.record.key = request.normalizedKey := by
  unfold ReserveRequest.build at h
  obtain ⟨expiresAt, -, h⟩ := bind_eq_ok.mp h
  unfold buildMutationReservation at h
  obtain ⟨key, hkey, h⟩ := bind_eq_ok.mp h
  have hfrom := IdempotencyRecord.validatedFrom_of_validate (IdempotencyRecord.row_eq_ok.mp h)
  have hsame := Except.ok.inj ((ReservationKey.validate_of_ok hkey).symm.trans hfrom.key)
  rw [← hsame]
  obtain ⟨scope, hscope, hkey⟩ := bind_eq_ok.mp hkey
  obtain ⟨routePath, hroutePath, hkey⟩ := bind_eq_ok.mp hkey
  obtain ⟨idempotencyKey, hidempotencyKey, hkey⟩ := bind_eq_ok.mp hkey
  cases hkey
  rw [(requireText_eq_ok hscope).1, (requireText_eq_ok hroutePath).1,
    (requireText_eq_ok hidempotencyKey).1]
  rfl

theorem insert_of_taken {row : ReservationRow} {reconciliationKey targetKey : String}
    (h : store.recordOf request.normalizedKey = some record)
    (hbuilt : request.build now reconciliationKey targetKey = .ok row) :
    store.reservations.insert row = none := by
  cases hinsert : store.reservations.insert row with
  | none => rfl
  | some reservations =>
      have hfree := (IndexedTable.insert_eq_some.mp hinsert).1
      rw [key_of_build hbuilt] at hfree
      simp [recordOf, hfree] at h

/-- The first transaction answers while a deploy drains the service; otherwise its insert breaks the
index. -/
theorem insertReservation_of_completed (h : store.recordOf request.normalizedKey = some record)
    (hdone : record.state = .completed) (haccepted : Accepted request now) :
    store.insertReservation now draining request =
      .ok (if draining then some (settled request record) else none, store) := by
  refine guard_eq_ok.mpr ⟨raiseIf_eq_ok.mpr haccepted.bound, ?_⟩
  cases draining with
  | true =>
      rw [if_pos rfl]
      exact bind_eq_ok.mpr ⟨_, observeMutationDuringDrain_of_completed h hdone, rfl⟩
  | false =>
      obtain ⟨row, hbuilt⟩ := haccepted.built
      refine bind_eq_ok.mpr ⟨row, hbuilt, ?_⟩
      rw [insert_of_taken h hbuilt]
      rfl

/-- It answers nothing else, whatever the arguments of the request are. -/
theorem insertReservation_answer {found : Option MutationResult} {result : MutationResult}
    (h : store.recordOf request.normalizedKey = some record) (hdone : record.state = .completed)
    (hrun : store.insertReservation now draining request = .ok (found, store'))
    (hfound : found = some result) : result = settled request record := by
  obtain ⟨-, hrun⟩ := guard_eq_ok.mp hrun
  cases draining with
  | true =>
      rw [if_pos rfl] at hrun
      obtain ⟨answer, hdrain, hrun⟩ := bind_eq_ok.mp hrun
      rw [observeMutationDuringDrain_of_completed h hdone] at hdrain
      cases hdrain
      cases hrun
      exact (Option.some.inj hfound).symm
  | false =>
      obtain ⟨row, hbuilt, hrun⟩ := bind_eq_ok.mp hrun
      rw [insert_of_taken h hbuilt] at hrun
      cases hrun
      cases hfound

end Final

/-! ### Runs -/

section Runs

variable [DecidableEq ω] {operation : ω → DurableOperation} {pool reached : OperationPool ω}

/-- **Each event of every run follows from the ones before it.** -/
theorem fenced_of_reaches (hadapter : ∀ w, (operation w).adapter.ChecksFirst)
    (howner : Function.Injective fun w => (operation w).owner)
    (h : Pool.Reaches operationEnv NoMoves NoStarts (start operation) reached) :
    reached.2.log.Fenced :=
  (sound_of_reaches hadapter howner h).fenced

/-- **The rows of every run are what its log says.** -/
theorem agrees_of_reaches (hadapter : ∀ w, (operation w).adapter.ChecksFirst)
    (howner : Function.Injective fun w => (operation w).owner)
    (h : Pool.Reaches operationEnv NoMoves NoStarts (start operation) reached) :
    Agrees (fun w => (operation w).owner) reached.2.store.recordOf reached.2.log :=
  (sound_of_reaches hadapter howner h).agrees

/-- **A target with a recorded effect changes hands** once its reservation is over, or once the next
holder has seen, with the evidence recorded last, that the effect is absent. -/
theorem changesHands_of_reaches (hadapter : ∀ w, (operation w).adapter.ChecksFirst)
    (howner : Function.Injective fun w => (operation w).owner)
    (h : Pool.Reaches operationEnv NoMoves NoStarts (start operation) reached) {newer : Log ω}
    (hlog : reached.2.log =
      newer ++ .acquired v taken means :: (mid ++ .checkpointed w record :: older))
    (hsame : taken.providerTargetKey = record.providerTargetKey)
    (huntaken : ∀ event ∈ mid, event.takes record.providerTargetKey = false) :
    (∃ u done ending, .ended u done ending ∈ mid ∧
      done.providerTargetKey = record.providerTargetKey) ∨
      ∃ observation, .observed v taken.key
          (Log.evidence record.providerTargetKey (mid ++ .checkpointed w record :: older))
          observation ∈ mid ∧
        observation.outcome = .absent ∧ observation.retrySafe = true := by
  have hfenced := (sound_of_reaches hadapter howner h).fenced
  rw [hlog] at hfenced
  obtain ⟨htaken, hfenced⟩ := hfenced.of_append
  have hrecorded : Log.Recorded record.providerTargetKey mid older w record :=
    ⟨hfenced, rfl, huntaken⟩
  exact hrecorded.changesHands htaken hsame

variable {starts : ω → Prog (Fallible OperationError OperationResponse)
  (Except OperationError OperationResult) → Prop}

theorem recordOf_of_reaches (h : Pool.Reaches operationEnv NoMoves starts pool reached)
    {key : ReservationKey} (hrow : pool.2.store.recordOf key = some record)
    (hdone : record.state = .completed) : reached.2.store.recordOf key = some record := by
  induction h with
  | refl => exact hrow
  | tail _ hstep ih =>
      cases hstep with
      | call w hnext hE =>
          rcases hE with ⟨response, store', hrun, -, rfl⟩ | ⟨-, rfl⟩
          · exact recordOf_of_runs hrun ih hdone
          · exact ih
      | restart w hstart => exact ih
      | other hmove => exact hmove.elim

omit [DecidableEq ω] in
/-- A completed row is kept by every call of everybody. -/
theorem recordOf_of_operationEnv {v : ω} {world world' : World ω} {call : OperationCall}
    {answer : Fallible OperationError OperationResponse call} {key : ReservationKey}
    (hdone : record.state = .completed) (hrow : world.store.recordOf key = some record)
    (h : operationEnv v world call answer world') : world'.store.recordOf key = some record := by
  rcases h with ⟨response, store', hrun, -, rfl⟩ | ⟨-, rfl⟩
  · exact recordOf_of_runs hrun hrow hdone
  · exact hrow

omit [DecidableEq ω] in
/-- What a call is answered with among the others, as long as a row is completed. -/
theorem wp_ask {w : ω} {key : ReservationKey} (hdone : record.state = .completed)
    (call : OperationCall) {Q : OperationResponse call → Prop}
    (hQ : ∀ store response store', MutationStore.recordOf store key = some record →
      call.Runs store response store' → Q response)
    {world : World ω} (hrow : world.store.recordOf key = some record) :
    Act.wp (amongOthers operationEnv w) (fun world => world.store.recordOf key = some record)
      (ask call) (fun response _ => Q response) (fun _ _ => True) world := by
  unfold ask Act.wp Act.perform
  rw [ExceptT.run_mk, Prog.op, Prog.wp_call]
  refine ⟨hrow, fun answer world' h => ?_⟩
  obtain ⟨mid, hmid, hE⟩ := exists_of_amongOthers
    (I := fun world => world.store.recordOf key = some record)
    (fun _ _ _ _ _ hrow hE => recordOf_of_operationEnv hdone hrow hE) hrow h
  have hafter := recordOf_of_operationEnv hdone hmid hE
  rcases hE with ⟨response, store', hrun, hanswer, -⟩ | ⟨⟨error, rfl⟩, -⟩
  · rcases hanswer with rfl | ⟨error, rfl⟩
    · exact ⟨hafter, hQ mid.store response store' hmid hrun⟩
    · exact ⟨hafter, trivial⟩
  · exact ⟨hafter, trivial⟩

omit [DecidableEq ω] in
/-- A request for a reservation is answered with the completed record of its key, whatever the others
do between its transactions. -/
theorem wp_reserveMutation {w : ω} {request : ReserveRequest} (hdone : record.state = .completed)
    {world : World ω} (hrow : world.store.recordOf request.normalizedKey = some record) :
    Act.wp (amongOthers operationEnv w)
      (fun world => world.store.recordOf request.normalizedKey = some record)
      (reserveMutation request) (fun result _ => result = settled request record)
      (fun _ _ => True) world := by
  have hinsert := wp_ask (w := w) hdone (.insertReservation request)
    (Q := fun (found : Option MutationResult) => ∀ result, found = some result →
      result = settled request record)
    (fun store found store' hrow hrun result hfound => by
      obtain ⟨now, draining, hrun⟩ := hrun
      exact insertReservation_answer hrow hdone hrun hfound) hrow
  have hresolve {world : World ω}
      (hrow : world.store.recordOf request.normalizedKey = some record) :=
    wp_ask (w := w) hdone (.resolveCollision request)
    (Q := fun (found : Option MutationResult) => found = some (settled request record))
    (fun store found store' hrow hrun => by
      obtain ⟨now, draining, hrun⟩ := hrun
      rw [resolveCollision_of_completed hrow hdone] at hrun
      exact (Prod.mk.inj (Except.ok.inj hrun)).1.symm) hrow
  unfold reserveMutation
  refine Act.wp_bind.mpr
    (Act.wp_mono hinsert (fun found world hrow hfound => ?_) fun _ _ _ h => h)
  cases found with
  | some result => exact ⟨hrow, hfound result rfl⟩
  | none =>
      refine Act.wp_bind.mpr
        (Act.wp_mono (hresolve hrow) (fun found world hrow hfound => ?_) fun _ _ _ h => h)
      cases hfound
      exact ⟨hrow, rfl⟩

end Runs

/-! ### A takeover -/

/-- An adapter that records its effect before it begins it. -/
def deployAdapter (outcome : Except OperationError ProviderMutationOutcome) : ProviderAdapter where
  targetKey := "dokploy:app-1"
  reconciliationKey := "deploy:app-1"
  apply _ := .call (.checkpointEffect "deploy") fun recorded =>
    match (recorded : Except OperationError Unit) with
    | .error error => .ret (.error error)
    | .ok _ => .call (.dispatch "deploy") fun _ => .ret outcome

/-- The first worker never learns the outcome of its deploy; the second one has the same request. -/
def deployOperation (second : Bool) : DurableOperation where
  key := ⟨"product", "/deploy", "request-1"⟩
  requestFingerprint := "fingerprint"
  leaseOwner := if second then "worker-2" else "worker-1"
  responseTraceId := "trace-1"
  adapter := deployAdapter (if second then .ok { responseStatusCode := 202 } else .error .unknown)

theorem checksFirst_deployAdapter (outcome : Except OperationError ProviderMutationOutcome) :
    (deployAdapter outcome).ChecksFirst := by
  intro key
  refine Protocol.wp_call.mpr ⟨trivial, fun recorded => ?_⟩
  cases recorded with
  | error error => exact ⟨rfl, trivial⟩
  | ok _ => exact Protocol.wp_call.mpr ⟨rfl, fun _ => ⟨rfl, trivial⟩⟩

theorem injective_owner_deployOperation :
    Function.Injective fun second => (deployOperation second).owner := by
  intro first second h
  cases first <;> cases second
  · rfl
  · exact absurd h (by decide +kernel)
  · exact absurd h (by decide +kernel)
  · rfl

/-- The effect of the first deploy is absent. -/
def deployAbsent : ProviderObservation := { outcome := .absent, retrySafe := true }

/-- A worker runs to its end. -/
def deployStep (pool : OperationPool Bool) (second : Bool) : OperationPool Bool :=
  let ran := (pool.1 second).advance (serve (if second then 900 else 100) deployAbsent second) 30
    pool.2
  (Function.update pool.1 second ran.1, ran.2)

/-- The workers run in this order. -/
def deployed (order : List Bool) : OperationPool Bool := order.foldl deployStep (start deployOperation)

theorem reaches_deployStep (order : List Bool) (pool : OperationPool Bool) :
    Pool.Reaches operationEnv NoMoves NoStarts pool (order.foldl deployStep pool) := by
  induction order generalizing pool with
  | nil => exact .refl
  | cons second order ih =>
      exact (Pool.reaches_advance second _ (operationEnv_serve _ _ _) 30 pool.1 pool.2).trans
        (ih (deployStep pool second))

/-- The reservation of the first worker. -/
def firstDeploy : IdempotencyRecord where
  key := ⟨"product", "/deploy", "request-1"⟩
  requestFingerprint := "fingerprint"
  state := .running
  leaseOwner := "worker-1"
  leaseExpiresAt := some 400
  reconciliationKey := "deploy:app-1"
  providerTargetKey := "dokploy:app-1"
  createdAt := some 100
  updatedAt := some 100

/-- The reservation, with its effect recorded. -/
def firstRecorded : IdempotencyRecord :=
  { firstDeploy with providerEffectPhase := "deploy", providerEffectStartedAt := some 100 }

/-- The reservation, as the second worker takes it over. -/
def secondDeploy : IdempotencyRecord :=
  { firstDeploy with
    leaseOwner := "worker-2", leaseExpiresAt := some 1200, attempt := 2, updatedAt := some 900 }

/-- The reservation that the second worker completes. -/
def secondRecorded : IdempotencyRecord :=
  { secondDeploy with providerEffectPhase := "deploy", providerEffectStartedAt := some 900 }

/-- The record of the completed deploy. -/
def secondCompleted : IdempotencyRecord :=
  { secondRecorded with
    state := .completed
    responseStatusCode := some 202
    responseTraceId := "trace-1"
    recordedAt := some 900 }

/-- What happens once the effect of the first worker is recorded, and what before. -/
theorem log_deployed : (deployed [false, true]).2.log =
    [.ended true secondCompleted .completed, .dispatched true, .checkpointed true secondRecorded] ++
      .acquired true secondDeploy (.retried { firstRecorded with state := .reconcileRequired }) ::
        ([.observed true firstDeploy.key ("deploy", some 100) deployAbsent, .dispatched false] ++
          .checkpointed false firstRecorded :: [.acquired false firstDeploy .fresh]) := by
  decide +kernel

theorem fenced_deployed : (deployed [false, true]).2.log.Fenced :=
  fenced_of_reaches (fun _ => checksFirst_deployAdapter _) injective_owner_deployOperation
    (reaches_deployStep [false, true] _)

theorem agrees_deployed : Agrees (fun second => (deployOperation second).owner)
    (deployed [false, true]).2.store.recordOf (deployed [false, true]).2.log :=
  agrees_of_reaches (fun _ => checksFirst_deployAdapter _) injective_owner_deployOperation
    (reaches_deployStep [false, true] _)

theorem changesHands_deployed :
    ∃ observation, .observed true firstDeploy.key ("deploy", some 100) observation ∈
        ([.observed true firstDeploy.key ("deploy", some 100) deployAbsent, .dispatched false] :
          Log Bool) ∧
      observation.outcome = .absent ∧ observation.retrySafe = true := by
  refine (changesHands_of_reaches (fun _ => checksFirst_deployAdapter _)
    injective_owner_deployOperation (reaches_deployStep [false, true] _) log_deployed rfl
    (by decide +kernel)).resolve_left ?_
  rintro ⟨u, done, ending, hmem, -⟩
  simp at hmem

/-- The record of a deploy that the second worker was the first to ask for. -/
def onlyCompleted : IdempotencyRecord :=
  { secondCompleted with attempt := 1, createdAt := some 900 }

theorem accepted_deployOperation : Accepted (deployOperation false).request 950 := by
  refine ⟨by decide +kernel, ?_⟩
  have hbuilds : ((deployOperation false).request.build 950
      (deployOperation false).request.reconciliationKey
      (deployOperation false).request.targetKey).toBool = true := by decide +kernel
  cases hbuilt : (deployOperation false).request.build 950
      (deployOperation false).request.reconciliationKey
      (deployOperation false).request.targetKey with
  | ok row => exact ⟨row, rfl⟩
  | error message =>
      rw [hbuilt] at hbuilds
      cases hbuilds

end Launchplane.Mutation
