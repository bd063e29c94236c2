import Launchplane.SelfDeploy.Fence

/-!
# Launchplane.SelfDeploy.Runs

**Runs over the fence store.** A run is any sequence of calls by any processes,
each one transaction, under a database clock that never goes back and with any
blocking operations at each moment. `Run Allowed` are the runs in which the
state before every call meets `Allowed`.

Two facts hold in every run and carry the rest. The service row is always a copy
of its request's receipt, and a request that was dispatched, refused or ran out
of its budget stays so (`Settled`).
-/

namespace Launchplane.SelfDeploy

open FenceStore

/-- A call of one of the entry points. -/
inductive FenceCall
  | prepare (process : Process) (request : PrepareRequest) (blockers : List String)
  | recordDispatch (requestFingerprint : String)
  | recordPreEffectRefusal (requestFingerprint : String)
  | confirmStartup (process : Process)

/-- The answer of an entry point. -/
inductive FenceAnswer
  | prepared (answer : Except ServiceDeployError (ServiceDeployDrainRecord × List String × Bool))
  | recorded (answer : Except ServiceDeployError Unit)
  deriving DecidableEq

/-- Perform a call as one transaction. -/
def FenceCall.perform (store : FenceStore) (now : Nat) : FenceCall → FenceAnswer × FenceStore
  | .prepare process request blockers =>
    let result := store.prepare process request now blockers
    (.prepared result.1, result.2)
  | .recordDispatch fp =>
    let result := store.recordDispatch fp
    (.recorded result.1, result.2)
  | .recordPreEffectRefusal fp =>
    let result := store.recordPreEffectRefusal fp now
    (.recorded result.1, result.2)
  | .confirmStartup process => (.recorded (.ok ()), store.confirmStartup process now)

/-- A call that was made, with the rows before and after it. -/
structure FenceEvent where
  before : FenceStore
  now : Nat
  call : FenceCall
  answer : FenceAnswer
  after : FenceStore

/-- The event of a call. -/
def FenceCall.event (store : FenceStore) (now : Nat) (call : FenceCall) : FenceEvent :=
  { before := store, now, call, answer := (call.perform store now).1,
    after := (call.perform store now).2 }

/-- The runs whose calls are made in states that meet `Allowed`: the events, the newest first, the
rows they leave and the time of the last one. -/
inductive Run (Allowed : FenceStore → Nat → FenceCall → Prop) :
    List FenceEvent → FenceStore → Nat → Prop
  | start (clock : Nat) : Run Allowed [] {} clock
  | call {events : List FenceEvent} {store : FenceStore} {clock : Nat} (now : Nat)
      (call : FenceCall) (hrun : Run Allowed events store clock) (hclock : clock ≤ now)
      (hallowed : Allowed store now call) :
      Run Allowed (call.event store now :: events) (call.perform store now).2 now

namespace Run

variable {Allowed : FenceStore → Nat → FenceCall → Prop}

/-- The newest event of a run happened in the state the rest of the run left. -/
theorem cons {event : FenceEvent} {events : List FenceEvent} {store : FenceStore} {clock : Nat}
    (h : Run Allowed (event :: events) store clock) :
    ∃ clock', Run Allowed events event.before clock' ∧ clock' ≤ event.now ∧
      Allowed event.before event.now event.call ∧
      event = event.call.event event.before event.now ∧ event.after = store := by
  cases h with
  | call now call hrun hclock hallowed => exact ⟨_, hrun, hclock, hallowed, rfl, rfl⟩

/-- A run begins with runs. -/
theorem suffix {later events : List FenceEvent} {store : FenceStore} {clock : Nat}
    (h : Run Allowed (later ++ events) store clock) :
    ∃ store' clock', Run Allowed events store' clock' := by
  induction later generalizing store clock with
  | nil => exact ⟨store, clock, h⟩
  | cons event later ih =>
      obtain ⟨clock', hrest, -⟩ := h.cons
      exact ih hrest

/-- An invariant: it holds of the empty store, and every allowed call keeps it. -/
theorem invariant {I : FenceStore → Prop} (hstart : I {})
    (hcall : ∀ store now call, I store → Allowed store now call →
      I (FenceCall.perform store now call).2)
    {events : List FenceEvent} {store : FenceStore} {clock : Nat}
    (h : Run Allowed events store clock) : I store := by
  induction h with
  | start => exact hstart
  | call now call _ _ hallowed ih => exact hcall _ now call ih hallowed

/-- What an event established and later calls keep still holds. -/
theorem stable {P : FenceStore → Prop} {event : FenceEvent} {later events : List FenceEvent}
    {store : FenceStore} {clock : Nat} (h : Run Allowed (later ++ event :: events) store clock)
    (hevent : P event.after)
    (hcall : ∀ e ∈ later, P e.before → e = e.call.event e.before e.now →
      Allowed e.before e.now e.call → P e.after) : P store := by
  induction later generalizing store clock with
  | nil =>
      obtain ⟨_, _, _, _, _, rfl⟩ := h.cons
      exact hevent
  | cons e later ih =>
      obtain ⟨_, hrest, _, hallowed, he, rfl⟩ := h.cons
      exact hcall e List.mem_cons_self
        (ih hrest fun e' he' => hcall e' (List.mem_cons_of_mem _ he')) he hallowed

end Run

/-! ### The effects of a call -/

/-- What a call can do to the rows, with what it found there. -/
inductive Effect (store : FenceStore) (now : Nat) : FenceCall → FenceAnswer → FenceStore → Prop
  | idle {call : FenceCall} {answer : FenceAnswer}
      (howned : ∀ record names, answer ≠ .prepared (.ok (record, names, true)))
      (hrefused : ∀ fp, call = .recordPreEffectRefusal fp → answer ≠ .recorded (.ok ())) :
      Effect store now call answer store
  | timeout {process : Process} {request : PrepareRequest} {blockers : List String}
      {prior : ServiceDeployDrainRecord} (hproceeds : store.Proceeds process request now)
      (hout : store.OutOfBudget request.requestFingerprint now)
      (hprior : store.requests.get request.requestFingerprint = some prior) :
      Effect store now (.prepare process request blockers)
        (.prepared (.error (.drainTimeout blockers)))
        ((store.write { prior with expiresAt := some now, updatedAt := now }).writeBudget
          request.requestFingerprint
          { store.prepareBudget request.requestFingerprint now with drainTimedOut := true })
  | take {process : Process} {request : PrepareRequest} {blockers : List String}
      (hproceeds : store.Proceeds process request now)
      (hout : ¬ store.OutOfBudget request.requestFingerprint now) :
      Effect store now (.prepare process request blockers)
        (.prepared (.ok (store.preparedRecord request now blockers, blockers, blockers = [])))
        ((store.write (store.preparedRecord request now blockers)).writeBudget
          request.requestFingerprint (store.prepareBudget request.requestFingerprint now))
  | dispatch {record : ServiceDeployDrainRecord} {answer : FenceAnswer}
      (hservice : store.service = some record) (hstate : record.state = .dispatching)
      (howned : ∀ record names, answer ≠ .prepared (.ok (record, names, true))) :
      Effect store now (.recordDispatch record.requestFingerprint) answer
        (store.write { record with state := .requested })
  | refuse {record : ServiceDeployDrainRecord} {restored : Option ServiceDeployDrainRecord}
      (hservice : store.service = some record) (hstate : record.state = .dispatching)
      (hrestored : record.previousRequestFingerprint = "" ∧ restored = none ∨
        record.previousRequestFingerprint ≠ "" ∧ restored ≠ none ∧
          restored = store.requests.get record.previousRequestFingerprint) :
      Effect store now (.recordPreEffectRefusal record.requestFingerprint) (.recorded (.ok ()))
        { store.write { record with state := .refused, updatedAt := now } with service := restored }
  | confirm {process : Process} {record : ServiceDeployDrainRecord}
      (hservice : store.service = some record)
      (hstate : record.state = .dispatching ∨ record.state = .requested)
      (himage : record.imageReference = pyStrip process.dockerImageReference)
      (hmarker : record.deploymentMarker =
        pyStrip (process.launchplaneDeploymentMarker.getD "")) :
      Effect store now (.confirmStartup process) (.recorded (.ok ()))
        (store.write { record with state := .confirmed, updatedAt := now })

/-- Every call has one of these effects. -/
theorem effect_perform (store : FenceStore) (now : Nat) (call : FenceCall) :
    Effect store now call (call.perform store now).1 (call.perform store now).2 := by
  cases call with
  | prepare process request blockers =>
      cases hresult : store.prepare process request now blockers with
      | mk answer store' =>
          simp only [FenceCall.perform, hresult]
          rcases prepare_cases hresult with
            ⟨rfl, hanswer⟩ | ⟨hproceeds, hout, rfl, prior, hprior, rfl⟩ | ⟨hproceeds, hout, rfl, rfl⟩
          · exact .idle (fun record names heq => hanswer record names (by simpa using heq))
              (fun _ h => by cases h)
          · exact .timeout hproceeds hout hprior
          · exact .take hproceeds hout
  | recordDispatch fp =>
      cases hresult : store.recordDispatch fp with
      | mk answer store' =>
          simp only [FenceCall.perform, hresult]
          rcases recordDispatch_cases hresult with rfl | ⟨record, hservice, rfl, hstate, rfl⟩
          · exact .idle (by simp) (fun _ h => by cases h)
          · exact .dispatch hservice hstate (by simp)
  | recordPreEffectRefusal fp =>
      cases hresult : store.recordPreEffectRefusal fp now with
      | mk answer store' =>
          simp only [FenceCall.perform, hresult]
          rcases recordPreEffectRefusal_cases hresult with
            ⟨rfl, hanswer⟩ | ⟨record, hservice, rfl, hstate, rfl, restored, rfl, hrestored⟩
          · exact .idle (by simp) (fun _ _ => by simpa using hanswer)
          · exact .refuse hservice hstate hrestored
  | confirmStartup process =>
      simp only [FenceCall.perform]
      rcases confirmStartup_cases store process now with
        hsame | ⟨record, hservice, hstate, himage, hmarker, hafter⟩
      · rw [hsame]
        exact .idle (by simp) (fun _ h => by cases h)
      · rw [hafter]
        exact .confirm hservice hstate himage hmarker

/-- The effect of an event. -/
theorem effect_event {event : FenceEvent} (h : event = event.call.event event.before event.now) :
    Effect event.before event.now event.call event.answer event.after := by
  rw [h]
  exact effect_perform _ _ _

/-! ### Receipts -/

/-- The receipts are kept under their own fingerprints, and the service row is a copy of its
request's receipt. -/
structure FenceStore.Receipted (store : FenceStore) : Prop where
  keyed : ∀ fp record, store.requests.get fp = some record →
    record.requestFingerprint = fp ∧ fp ≠ "" ∧ record.previousRequestFingerprint ≠ fp
  service : ∀ record, store.service = some record →
    store.requests.get record.requestFingerprint = some record

/-- Writing a record that is well named keeps the receipts. -/
theorem receipted_write {store : FenceStore} (h : store.Receipted)
    {record : ServiceDeployDrainRecord} (hne : record.requestFingerprint ≠ "")
    (hprevious : record.previousRequestFingerprint ≠ record.requestFingerprint) :
    (store.write record).Receipted where
  keyed := by
    intro fp r hr
    rw [write_requests, Dict.get_set] at hr
    split at hr
    · rename_i hfp
      obtain rfl := Option.some.inj hr
      exact ⟨hfp.symm, hfp ▸ hne, hfp ▸ hprevious⟩
    · exact h.keyed fp r hr
  service := by
    intro r hr
    obtain rfl := Option.some.inj hr
    simp

/-- A record changed in its state and times only is still well named. -/
theorem receipted_rewrite {store : FenceStore} (h : store.Receipted)
    {record record' : ServiceDeployDrainRecord} (hservice : store.service = some record)
    (hfp : record'.requestFingerprint = record.requestFingerprint)
    (hprevious : record'.previousRequestFingerprint = record.previousRequestFingerprint) :
    (store.write record').Receipted := by
  obtain ⟨-, hne, hprev⟩ := h.keyed _ _ (h.service record hservice)
  exact receipted_write h (hfp ▸ hne) (by rw [hfp, hprevious]; exact hprev)

theorem receipted_budget {store : FenceStore} (h : store.Receipted) (fp : String)
    (budget : ServiceDeployDrainBudget) : (store.writeBudget fp budget).Receipted :=
  ⟨h.keyed, h.service⟩

theorem receipted_effect {store store' : FenceStore} {now : Nat} {call : FenceCall}
    {answer : FenceAnswer} (h : store.Receipted) (heffect : Effect store now call answer store') :
    store'.Receipted := by
  cases heffect with
  | idle => exact h
  | timeout hproceeds hout hprior =>
      obtain ⟨hfp, hne, hprev⟩ := h.keyed _ _ hprior
      exact receipted_budget (receipted_write h (by rw [hfp]; exact hne)
        (by rw [hfp]; exact hprev)) _ _
  | @take process request blockers hproceeds hout =>
      refine receipted_budget (receipted_write h request.requestFingerprint_ne ?_) _ _
      -- the previous fence is another request's, or was already the previous one of this request
      simp only [preparedRecord]
      cases hservice : store.service with
      | none => exact request.requestFingerprint_ne.symm
      | some current =>
          by_cases hown : current.requestFingerprint = request.requestFingerprint
          · obtain ⟨-, -, hprev⟩ := h.keyed _ _ (h.service current hservice)
            simp only [hown, if_true]
            exact hown ▸ hprev
          · simp only [hown, if_false]
            exact hown
  | dispatch hservice => exact receipted_rewrite h hservice rfl rfl
  | @refuse record restored hservice hstate hrestored =>
      have hwrite : (store.write { record with state := .refused, updatedAt := now }).Receipted :=
        receipted_rewrite h hservice rfl rfl
      obtain ⟨-, -, hprev⟩ := h.keyed _ _ (h.service record hservice)
      refine ⟨hwrite.keyed, ?_⟩
      intro r hr
      rcases hrestored with ⟨-, hnone⟩ | ⟨-, -, hreceipt⟩
      · simp only [hnone] at hr
        cases hr
      · -- what is restored is another request's receipt, which the refusal left alone
        simp only at hr
        rw [hr] at hreceipt
        obtain ⟨hkey, -, -⟩ := h.keyed _ _ hreceipt.symm
        rw [write_requests, Dict.get_set, hkey, if_neg hprev]
        exact hreceipt.symm
  | confirm hservice => exact receipted_rewrite h hservice rfl rfl

theorem receipted_of_run {Allowed : FenceStore → Nat → FenceCall → Prop} {events : List FenceEvent}
    {store : FenceStore} {clock : Nat} (h : Run Allowed events store clock) : store.Receipted :=
  h.invariant ⟨by simp, by simp⟩ fun store now call hstore _ =>
    receipted_effect hstore (effect_perform store now call)

/-! ### Requests that are settled -/

/-- The request was dispatched or refused, or ran out of its budget. -/
def FenceStore.Settled (store : FenceStore) (fp : String) : Prop :=
  ∃ record, store.requests.get fp = some record ∧
    (record.state ≠ .draining ∨
      ∃ budget, store.budgets.get fp = some budget ∧ budget.drainTimedOut = true)

theorem not_proceeds_of_settled {store : FenceStore} {process : Process} {request : PrepareRequest}
    {now : Nat} (h : store.Settled request.requestFingerprint) :
    ¬ store.Proceeds process request now := by
  obtain ⟨record, hrecord, hsettled⟩ := h
  intro hproceeds
  obtain ⟨hdraining, hbudget⟩ := replay_eq_none.mp hproceeds.1 record hrecord
  rcases hsettled with hstate | ⟨budget, hget, htimed⟩
  · exact hstate hdraining
  · rw [hbudget budget hget] at htimed
    cases htimed

/-- A write in another state than draining settles its request and no other. -/
theorem settled_write {store : FenceStore} {fp : String} {record : ServiceDeployDrainRecord}
    (h : store.Settled fp) (hstate : record.state ≠ .draining) : (store.write record).Settled fp := by
  obtain ⟨prior, hprior, hsettled⟩ := h
  by_cases hfp : fp = record.requestFingerprint
  · exact ⟨record, by simp [hfp], .inl hstate⟩
  · exact ⟨prior, by simp [hfp, hprior], hsettled⟩

/-- **A settled request stays settled.** -/
theorem settled_effect {store store' : FenceStore} {now : Nat} {call : FenceCall}
    {answer : FenceAnswer} {fp : String} (hreceipts : store.Receipted) (h : store.Settled fp)
    (heffect : Effect store now call answer store') : store'.Settled fp := by
  cases heffect with
  | idle => exact h
  | @timeout process request blockers prior hproceeds hout hprior =>
      have hother : fp ≠ request.requestFingerprint := by
        rintro rfl
        exact not_proceeds_of_settled h hproceeds
      obtain ⟨record, hrecord, hsettled⟩ := h
      obtain ⟨hkey, -, -⟩ := hreceipts.keyed _ _ hprior
      refine ⟨record, ?_, ?_⟩
      · simp [hkey, hother, hrecord]
      · simpa [hother] using hsettled
  | @take process request blockers hproceeds hout =>
      have hother : fp ≠ request.requestFingerprint := by
        rintro rfl
        exact not_proceeds_of_settled h hproceeds
      obtain ⟨record, hrecord, hsettled⟩ := h
      refine ⟨record, ?_, ?_⟩
      · simp [preparedRecord, hother, hrecord]
      · simpa [hother] using hsettled
  | dispatch => exact settled_write h (by simp)
  | refuse => exact settled_write h (by simp)
  | confirm => exact settled_write h (by simp)

/-! ### Receipts are kept -/

/-- The request was prepared for the first time: the call left its first receipt. -/
def FenceEvent.PreparesFirst (event : FenceEvent) (fp : String) : Prop :=
  event.before.requests.get fp = none ∧ event.after.requests.get fp ≠ none

theorem receipt_effect {store store' : FenceStore} {now : Nat} {call : FenceCall}
    {answer : FenceAnswer} {fp : String} (h : store.requests.get fp ≠ none)
    (heffect : Effect store now call answer store') : store'.requests.get fp ≠ none := by
  have hset (key : String) (record : ServiceDeployDrainRecord) :
      (store.requests.set key record).get fp ≠ none := by
    rw [Dict.get_set]
    split
    · simp
    · exact h
  cases heffect with
  | idle => exact h
  | timeout => exact hset _ _
  | take => exact hset _ _
  | dispatch => exact hset _ _
  | refuse => exact hset _ _
  | confirm => exact hset _ _

theorem receipt_of_mem {Allowed : FenceStore → Nat → FenceCall → Prop} {events : List FenceEvent}
    {store : FenceStore} {clock : Nat} (h : Run Allowed events store clock) {event : FenceEvent}
    (hmem : event ∈ events) {fp : String} (hafter : event.after.requests.get fp ≠ none) :
    store.requests.get fp ≠ none := by
  obtain ⟨later, earlier, rfl⟩ := List.append_of_mem hmem
  exact h.stable (P := fun s => s.requests.get fp ≠ none) hafter fun e _ hbefore he _ =>
    receipt_effect hbefore (effect_event he)

/-- Every request that has a receipt was prepared for the first time once. -/
theorem exists_preparesFirst {Allowed : FenceStore → Nat → FenceCall → Prop}
    {events : List FenceEvent} {store : FenceStore} {clock : Nat}
    (h : Run Allowed events store clock) {fp : String} (hreceipt : store.requests.get fp ≠ none) :
    ∃ event ∈ events, event.PreparesFirst fp := by
  induction h with
  | start => exact absurd rfl hreceipt
  | @call events store clock now call hrun hclock hallowed ih =>
      cases hbefore : store.requests.get fp with
      | none => exact ⟨call.event store now, List.mem_cons_self, hbefore, hreceipt⟩
      | some record =>
          obtain ⟨event, hmem, hfirst⟩ := ih (by simp [hbefore])
          exact ⟨event, List.mem_cons_of_mem _ hmem, hfirst⟩

/-! ### Computed runs -/

/-- Perform calls at given times, the newest first. -/
def performAll : List (Nat × FenceCall) → List FenceEvent × FenceStore
  | [] => ([], {})
  | (now, call) :: earlier =>
    let before := (performAll earlier).2
    (call.event before now :: (performAll earlier).1, (call.perform before now).2)

/-- The times do not go back, and every call meets the condition. -/
def Performs (Allowed : FenceStore → Nat → FenceCall → Prop) : List (Nat × FenceCall) → Prop
  | [] => True
  | (now, call) :: earlier =>
    (∀ previous ∈ earlier.head?, previous.1 ≤ now) ∧ Allowed (performAll earlier).2 now call ∧
      Performs Allowed earlier

theorem run_performAll {Allowed : FenceStore → Nat → FenceCall → Prop}
    (calls : List (Nat × FenceCall)) (h : Performs Allowed calls) :
    Run Allowed (performAll calls).1 (performAll calls).2 ((calls.head?.map Prod.fst).getD 0) := by
  induction calls with
  | nil => exact .start 0
  | cons timed earlier ih =>
      obtain ⟨now, call⟩ := timed
      obtain ⟨hclock, hallowed, hearlier⟩ := h
      refine .call now call (ih hearlier) ?_ hallowed
      cases earlier with
      | nil => exact Nat.zero_le now
      | cons previous rest => exact hclock previous rfl

end Launchplane.SelfDeploy
