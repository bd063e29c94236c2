import Launchplane.SelfDeploy.Runs

/-!
# Launchplane.SelfDeploy.OldWorkers

**Old workers stay fenced.** Once a replacement is confirmed, only processes of
its image admit work, until a new request takes the fence. What could reopen the
fence for everybody else is an old request that is polled again: a drain that
was abandoned keeps its receipt, and a call of `prepare` that comes past the
checks writes that receipt over the service row, whoever's row that is.

`SparesOthers` is the condition under which no call does that.
-/

namespace Launchplane.SelfDeploy

open FenceStore

/-- A call of `prepare` that comes past the checks for a request with a receipt, while the fence
is another request's: neither has the request run out of its budget nor is the fence confirmed. -/
def SparesOthers (store : FenceStore) (now : Nat) : FenceCall → Prop
  | .prepare process request _ =>
    store.Proceeds process request now → store.requests.get request.requestFingerprint ≠ none →
      ¬ store.Owns request.requestFingerprint →
        ¬ store.OutOfBudget request.requestFingerprint now ∧
          ∀ current ∈ store.service, current.state ≠ .confirmed
  | _ => True

/-- What a failed request may do to the fence, and whom a confirmed fence admits. -/
structure OldWorkersFenced (events : List FenceEvent) (store : FenceStore) : Prop where
  /-- A call of `prepare` that raises leaves every other request's fence as it was. -/
  raised : ∀ event ∈ events, ∀ process request blockers error,
    event.call = .prepare process request blockers → event.answer = .prepared (.error error) →
      event.after.service = event.before.service ∨ event.before.Owns request.requestFingerprint
  /-- From a confirmed fence on, and until a request is prepared for the first time, only the
  processes of that image and marker admit work. -/
  admitted : ∀ later event earlier record, events = later ++ event :: earlier →
    event.after.service = some record → record.state = .confirmed →
      (∀ e ∈ later, ∀ fp, ¬ e.PreparesFirst fp) →
        ∀ process now, store.admissionAllowed process now = true →
          record.imageReference = pyStrip process.dockerImageReference ∧
            record.deploymentMarker = pyStrip (process.launchplaneDeploymentMarker.getD "")

/-- A call that raises writes the fence only when it ends a drain that ran out of its budget. -/
theorem service_of_raised {store store' : FenceStore} {now : Nat} {process : Process}
    {request : PrepareRequest} {blockers : List String} {error : ServiceDeployError}
    (hspares : SparesOthers store now (.prepare process request blockers))
    (heffect : Effect store now (.prepare process request blockers) (.prepared (.error error))
      store') :
    store'.service = store.service ∨ store.Owns request.requestFingerprint := by
  cases heffect with
  | idle => exact .inl rfl
  | timeout hproceeds hout hprior =>
      refine .inr (Classical.byContradiction fun hforeign => ?_)
      exact (hspares hproceeds hout.1 hforeign).1 hout

/-- **A confirmed fence stays**, until a request is prepared for the first time. -/
theorem confirmed_effect {store store' : FenceStore} {now : Nat} {call : FenceCall}
    {answer : FenceAnswer} {record : ServiceDeployDrainRecord} (hreceipts : store.Receipted)
    (hservice : store.service = some record) (hstate : record.state = .confirmed)
    (hspares : SparesOthers store now call) (heffect : Effect store now call answer store')
    (hfirst : ∀ fp, store.requests.get fp = none → store'.requests.get fp = none) :
    store'.service = some record := by
  -- a request with a receipt is the fence's own, which is settled, or a foreign one
  have hno {process : Process} {request : PrepareRequest} {blockers : List String}
      (hspares : SparesOthers store now (.prepare process request blockers))
      (hproceeds : store.Proceeds process request now)
      (hreceipt : store.requests.get request.requestFingerprint ≠ none) : False := by
    refine (hspares hproceeds hreceipt ?_).2 record hservice hstate
    rintro ⟨current, hcurrent, hown⟩
    obtain rfl : current = record := Option.some.inj ((Option.mem_def.mp hcurrent).symm.trans hservice)
    refine not_proceeds_of_settled ⟨current, ?_, .inl (by simp [hstate])⟩ hproceeds
    exact hown ▸ hreceipts.service current hservice
  cases heffect with
  | idle => exact hservice
  | timeout hproceeds hout hprior => exact (hno hspares hproceeds hout.1).elim
  | @take process request blockers hproceeds hout =>
      cases hreceipt : store.requests.get request.requestFingerprint with
      | none =>
          have hnone := hfirst _ hreceipt
          simp [preparedRecord] at hnone
      | some prior => exact (hno hspares hproceeds (by simp [hreceipt])).elim
  | dispatch hother hdispatching =>
      obtain rfl := Option.some.inj (hservice.symm.trans hother)
      rw [hstate] at hdispatching
      cases hdispatching
  | refuse hother hdispatching =>
      obtain rfl := Option.some.inj (hservice.symm.trans hother)
      rw [hstate] at hdispatching
      cases hdispatching
  | confirm hother hpending =>
      obtain rfl := Option.some.inj (hservice.symm.trans hother)
      rw [hstate] at hpending
      rcases hpending with h | h <;> cases h

theorem admissionAllowed_of_confirmed {store : FenceStore} {record : ServiceDeployDrainRecord}
    (hservice : store.service = some record) (hstate : record.state = .confirmed) {process : Process}
    {now : Nat} (h : store.admissionAllowed process now = true) :
    record.imageReference = pyStrip process.dockerImageReference ∧
      record.deploymentMarker = pyStrip (process.launchplaneDeploymentMarker.getD "") := by
  simpa [admissionAllowed, hservice, hstate] using h

/-- **Old workers stay fenced** in every run in which no old request is let through to a fence that
is not its own. -/
theorem oldWorkersFenced_of_run {events : List FenceEvent} {store : FenceStore} {clock : Nat}
    (h : Run SparesOthers events store clock) : OldWorkersFenced events store where
  raised := by
    intro event hmem process request blockers error hcall hanswer
    obtain ⟨later, earlier, rfl⟩ := List.append_of_mem hmem
    obtain ⟨_, _, hrun⟩ := h.suffix
    obtain ⟨_, _, _, hspares, hevent, _⟩ := hrun.cons
    have heffect := effect_event hevent
    rw [hcall] at hspares heffect
    rw [hanswer] at heffect
    exact service_of_raised hspares heffect
  admitted := by
    intro later event earlier record hsplit hservice hstate hfirst process now hadmitted
    subst hsplit
    refine admissionAllowed_of_confirmed ?_ hstate hadmitted
    -- the receipts are part of what is kept, since they say whose the fence is
    have hkept : store.Receipted ∧ store.service = some record := by
      obtain ⟨_, _, hrun⟩ := h.suffix
      obtain ⟨_, _, _, _, _, hafter⟩ := hrun.cons
      refine h.stable (P := fun s => s.Receipted ∧ s.service = some record)
        ⟨hafter ▸ receipted_of_run hrun, hservice⟩ ?_
      intro e he hbefore hevent hspares
      refine ⟨receipted_effect hbefore.1 (effect_event hevent), ?_⟩
      refine confirmed_effect hbefore.1 hbefore.2 hstate hspares (effect_event hevent) ?_
      intro fp hnone
      exact Classical.byContradiction fun hsome => hfirst e he fp ⟨hnone, hsome⟩
    exact hkept.2

/-! ### The runs the condition leaves out -/

section Sample

/-- A worker of the image that is replaced. -/
private def oldWorker : Process :=
  { dockerImageReference := "image:1", launchplaneDeploymentMarker := some "marker-1" }

/-- The process of the replacement. -/
private def replacement : Process :=
  { dockerImageReference := "image:3", launchplaneDeploymentMarker := some "marker-3" }

/-- A request that finds operations running and is not polled again for a while. -/
private def abandoned : PrepareRequest :=
  { requestFingerprint := "a", targetType := "application", targetId := "launchplane"
    imageReference := "image:2", deploymentMarker := "marker-2" }

/-- The request that replaces the service in the meantime. -/
private def completed : PrepareRequest :=
  { requestFingerprint := "b", targetType := "application", targetId := "launchplane"
    imageReference := "image:3", deploymentMarker := "marker-3" }

/-- What starts in the place of the service when the abandoned request goes on. -/
private def resumed : Process :=
  { dockerImageReference := "image:2", launchplaneDeploymentMarker := some "marker-2" }

/-- A request with a marker that is in use. -/
private def repeated : PrepareRequest :=
  { requestFingerprint := "c", targetType := "application", targetId := "launchplane"
    imageReference := "image:4", deploymentMarker := "marker-2" }

/-- The abandoned request is polled again within its budget, when the drain of another one has run
out, and goes on to its end. The last request is refused. -/
private def earlyPoll : List (Nat × FenceCall) :=
  [(8 * 60 * 1000000, .prepare oldWorker repeated []),
    (7 * 60 * 1000000, .confirmStartup resumed),
    (6 * 60 * 1000000, .prepare oldWorker abandoned []),
    (3 * 60 * 1000000, .prepare oldWorker completed ["operation-2"]),
    (0, .prepare oldWorker abandoned ["operation-1"])]

theorem oldWorkersFenced_of_run_sample :
    OldWorkersFenced (performAll earlyPoll).1 (performAll earlyPoll).2 :=
  oldWorkersFenced_of_run (run_performAll earlyPoll
    ⟨by decide, fun h => absurd h (by decide +kernel), by decide, trivial, by decide,
      fun _ _ _ => ⟨by decide +kernel, by decide +kernel⟩, by decide,
      fun _ h => (h (by decide +kernel)).elim, by decide, fun _ h => (h rfl).elim, trivial⟩)

/-- The abandoned request is polled after its budget ran out. -/
private def latePoll : List (Nat × FenceCall) :=
  [(11 * 60 * 1000000, .prepare oldWorker abandoned []),
    (4 * 60 * 1000000, .confirmStartup replacement),
    (3 * 60 * 1000000, .prepare oldWorker completed []),
    (0, .prepare oldWorker abandoned ["operation-1"])]

/-- A late poll of an abandoned request writes its own drain over the confirmed fence, and the old
worker is admitted again. -/
theorem not_oldWorkersFenced_latePoll :
    ∃ events store clock, Run (fun _ _ _ => True) events store clock ∧
      store.admissionAllowed oldWorker clock = true ∧ ¬ OldWorkersFenced events store := by
  refine ⟨_, _, _, run_performAll latePoll
    ⟨by decide, trivial, by decide, trivial, by decide, trivial, by decide, trivial, trivial⟩,
    by decide +kernel, ?_⟩
  intro h
  have hraised := h.raised _ List.mem_cons_self oldWorker abandoned [] (.drainTimeout []) rfl
    (by decide +kernel)
  revert hraised
  decide +kernel

end Sample

end Launchplane.SelfDeploy
