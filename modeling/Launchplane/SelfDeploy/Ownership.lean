import Launchplane.SelfDeploy.Runs

/-!
# Launchplane.SelfDeploy.Ownership

**The fence has one owner and closes admission.** A request is granted the
dispatch at most once, and while it holds the fence nobody is admitted and no
other request is granted anything.

A refusal gives the fence back to whoever had it before the refused request took
it. The rows remember only one name for that, `previous_request_fingerprint`, so
the proof keeps the fences that were taken one over the other as a list
(`Stacked`): the service row is its first receipt, and every receipt names the
next one. A request that lost its fence and takes it again from another one
breaks the list, since it then names the wrong predecessor. `KeepsPlace` leaves
such calls out.
-/

namespace Launchplane.SelfDeploy

open FenceStore

/-- The call gave the request the ownership of the dispatch. -/
def FenceEvent.Grants (event : FenceEvent) (request : PrepareRequest) : Prop :=
  ∃ process blockers record names, event.call = .prepare process request blockers ∧
    event.answer = .prepared (.ok (record, names, true))

/-- The call said that the request timed out. -/
def FenceEvent.TimesOut (event : FenceEvent) (fp : String) : Prop :=
  ∃ process request blockers blockers', event.call = .prepare process request blockers ∧
    request.requestFingerprint = fp ∧ event.answer = .prepared (.error (.drainTimeout blockers'))

/-- The call recorded that the request was refused before effects. -/
def FenceEvent.Refuses (event : FenceEvent) (fp : String) : Prop :=
  event.call = .recordPreEffectRefusal fp ∧ event.answer = .recorded (.ok ())

/-- The call recorded that the request was dispatched. -/
def FenceEvent.Dispatches (event : FenceEvent) (fp : String) : Prop :=
  event.call = .recordDispatch fp ∧ ∃ record, event.after.service = some record ∧
    record.requestFingerprint = fp ∧ record.state = .requested

/-- The call may end the ownership of a request: a process with its image and marker starts, it is
refused, or a repair names its marker and target. -/
def FenceCall.Ends (request : PrepareRequest) : FenceCall → Prop
  | .confirmStartup process =>
    request.imageReference = pyStrip process.dockerImageReference ∧
      request.deploymentMarker = pyStrip (process.launchplaneDeploymentMarker.getD "")
  | .recordPreEffectRefusal fp => fp = request.requestFingerprint
  | .prepare _ repair _ =>
    repair.supersedesDeploymentMarker = request.deploymentMarker ∧
      repair.targetType = request.targetType ∧ repair.targetId = request.targetId
  | .recordDispatch _ => False

/-- What the fence promises in a run. -/
structure OneOwner (events : List FenceEvent) (store : FenceStore) : Prop where
  /-- The ownership is given once, and not to a request that is settled. -/
  once : ∀ later event earlier request, events = later ++ event :: earlier →
    event.Grants request → ∀ e ∈ earlier,
      (∀ other : PrepareRequest, other.requestFingerprint = request.requestFingerprint →
        ¬ e.Grants other) ∧
      ¬ e.TimesOut request.requestFingerprint ∧ ¬ e.Refuses request.requestFingerprint ∧
        ¬ e.Dispatches request.requestFingerprint
  /-- No operation is running when it is given. -/
  unblocked : ∀ event ∈ events, ∀ process request blockers record names,
    event.call = .prepare process request blockers →
      event.answer = .prepared (.ok (record, names, true)) → blockers = []
  /-- Until it ends nobody else gets it, and no process admits work. -/
  closed : ∀ later event earlier request, events = later ++ event :: earlier →
    event.Grants request → (∀ e ∈ later, ¬ e.call.Ends request) →
      (∀ e ∈ later, ∀ other, ¬ e.Grants other) ∧
        ∀ process now, store.admissionAllowed process now = false
  /-- A refusal restores the fence as it was before the request first took it. -/
  restored : ∀ later event earlier fp, events = later ++ event :: earlier → event.Refuses fp →
    ∃ first ∈ earlier, first.PreparesFirst fp ∧
      event.after.service = first.before.service ∧
        ∀ process now, event.after.admissionAllowed process now =
          first.before.admissionAllowed process now

/-! ### Once -/

/-- A grant comes from taking the fence, when nothing is running. -/
theorem take_of_granted {store store' : FenceStore} {now : Nat} {process : Process}
    {request : PrepareRequest} {blockers names : List String} {record : ServiceDeployDrainRecord}
    (h : Effect store now (.prepare process request blockers)
      (.prepared (.ok (record, names, true))) store') :
    blockers = [] ∧ store.Proceeds process request now ∧
      store' = (store.write (store.preparedRecord request now [])).writeBudget
        request.requestFingerprint (store.prepareBudget request.requestFingerprint now) := by
  generalize hanswer : FenceAnswer.prepared (.ok (record, names, true)) = answer at h
  cases h with
  | idle howned => exact absurd hanswer.symm (howned record names)
  | timeout => cases hanswer
  | take hproceeds hout =>
      have hempty : blockers = [] := by
        simp at hanswer
        exact hanswer.2.2
      subst hempty
      exact ⟨rfl, hproceeds, rfl⟩

/-- The checks of `prepare` report no timeout. -/
theorem prepareRefusal_ne_drainTimeout (store : FenceStore) (process : Process)
    (request : PrepareRequest) (now : Nat) (blockers : List String) :
    store.prepareRefusal process request now ≠ some (.drainTimeout blockers) := by
  unfold prepareRefusal
  repeat' split
  all_goals simp

theorem settled_of_write {store : FenceStore} {record : ServiceDeployDrainRecord}
    (hstate : record.state ≠ .draining) : (store.write record).Settled record.requestFingerprint :=
  ⟨record, by simp, .inl hstate⟩

theorem settled_of_write_budget {store : FenceStore} {record : ServiceDeployDrainRecord}
    {fp : String} {budget : ServiceDeployDrainBudget} (hkey : record.requestFingerprint = fp)
    (h : record.state ≠ .draining ∨ budget.drainTimedOut = true) :
    ((store.write record).writeBudget fp budget).Settled fp :=
  ⟨record, by simp [hkey], h.imp id fun htimed => ⟨budget, by simp, htimed⟩⟩

/-- A request that is told of its timeout has it recorded. -/
theorem settled_of_drainTimeout {store store' : FenceStore} {process : Process}
    {request : PrepareRequest} {now : Nat} {blockers blockers' : List String}
    (hreceipts : store.Receipted)
    (h : store.prepare process request now blockers = (.error (.drainTimeout blockers'), store')) :
    store'.Settled request.requestFingerprint := by
  unfold prepare at h
  split at h
  · rename_i answer hreplay
    cases h
    unfold replay at hreplay
    split at hreplay
    · cases hreplay
    · rename_i prior hprior
      split at hreplay
      · rename_i htimed
        cases hbudget : store.budgets.get request.requestFingerprint with
        | none => simp [hbudget] at htimed
        | some budget => exact ⟨prior, hprior, .inr ⟨budget, hbudget, by simpa [hbudget] using htimed⟩⟩
      · split at hreplay <;> simp at hreplay
  · split at h
    · rename_i error hrefusal
      cases h
      exact absurd hrefusal (prepareRefusal_ne_drainTimeout _ _ _ _ _)
    · simp only at h
      split at h
      · rename_i prior hprior
        obtain ⟨hkey, -, -⟩ := hreceipts.keyed _ _ hprior
        split at h
        · cases h
          exact settled_of_write_budget hkey (.inr rfl)
        · cases h
      · cases h

/-- The events that settle their request. -/
def FenceEvent.Settles (event : FenceEvent) (fp : String) : Prop :=
  (∃ request : PrepareRequest, request.requestFingerprint = fp ∧ event.Grants request) ∨
    event.TimesOut fp ∨ event.Refuses fp ∨ event.Dispatches fp

theorem settled_of_settles {event : FenceEvent} {fp : String} (hreceipts : event.before.Receipted)
    (hevent : event = event.call.event event.before event.now) (h : event.Settles fp) :
    event.after.Settled fp := by
  have heffect := effect_event hevent
  rcases h with ⟨request, rfl, process, blockers, record, names, hcall, hanswer⟩ |
    ⟨process, request, blockers, blockers', hcall, rfl, hanswer⟩ | ⟨hcall, hanswer⟩ |
    ⟨hcall, record, hservice, rfl, hstate⟩
  · rw [hcall, hanswer] at heffect
    obtain ⟨-, -, hafter⟩ := take_of_granted heffect
    rw [hafter]
    exact settled_of_write_budget rfl (.inl (by simp [preparedRecord]))
  · have hperform : event.answer = (event.call.perform event.before event.now).1 :=
      congrArg FenceEvent.answer hevent
    have hafter : event.after = (event.call.perform event.before event.now).2 :=
      congrArg FenceEvent.after hevent
    rw [hanswer, hcall] at hperform
    rw [hcall] at hafter
    rw [hafter]
    exact settled_of_drainTimeout hreceipts (Prod.ext (FenceAnswer.prepared.inj hperform).symm rfl)
  · rw [hcall, hanswer] at heffect
    generalize hafter : event.after = store' at heffect ⊢
    cases heffect with
    | idle _ hrefused => exact absurd rfl (hrefused fp rfl)
    | @refuse record restored =>
        exact @settled_of_write event.before { record with state := .refused, updatedAt := event.now }
          (by simp)
  · exact ⟨record, (receipted_effect hreceipts heffect).service record hservice,
      .inl (by simp [hstate])⟩

/-- **The ownership is given once.** -/
theorem not_settles_of_grants {Allowed : FenceStore → Nat → FenceCall → Prop}
    {event : FenceEvent} {earlier : List FenceEvent} {store : FenceStore} {clock : Nat}
    (h : Run Allowed (event :: earlier) store clock) {request : PrepareRequest}
    (hgrants : event.Grants request) {e : FenceEvent} (he : e ∈ earlier) :
    ¬ e.Settles request.requestFingerprint := by
  intro hsettles
  obtain ⟨clock', hearlier, -, -, hevent, -⟩ := h.cons
  obtain ⟨process, blockers, record, names, hcall, hanswer⟩ := hgrants
  have heffect := effect_event hevent
  rw [hcall, hanswer] at heffect
  obtain ⟨-, hproceeds, -⟩ := take_of_granted heffect
  refine not_proceeds_of_settled ?_ hproceeds
  obtain ⟨later, first, rfl⟩ := List.append_of_mem he
  obtain ⟨_, _, hrun⟩ := hearlier.suffix
  obtain ⟨_, hfirst, _, _, hevent', hafter⟩ := hrun.cons
  have hreceipts := receipted_of_run hfirst
  have hkept : event.before.Receipted ∧ event.before.Settled request.requestFingerprint := by
    refine hearlier.stable (P := fun s => s.Receipted ∧ s.Settled request.requestFingerprint)
      ⟨receipted_effect hreceipts (effect_event hevent'),
        settled_of_settles hreceipts hevent' hsettles⟩ ?_
    intro e' _ hbefore he' _
    exact ⟨receipted_effect hbefore.1 (effect_event he'),
      settled_effect hbefore.1 hbefore.2 (effect_event he')⟩
  exact hkept.2

/-! ### Closed -/

/-- The service row is the request's own, and its dispatch was not settled yet. -/
def FenceStore.HeldBy (store : FenceStore) (request : PrepareRequest) : Prop :=
  ∃ record, store.service = some record ∧
    (record.state = .dispatching ∨ record.state = .requested) ∧
    record.requestFingerprint = request.requestFingerprint ∧
    record.imageReference = request.imageReference ∧
    record.deploymentMarker = request.deploymentMarker ∧
    record.targetType = request.targetType ∧ record.targetId = request.targetId

theorem heldBy_of_grants {event : FenceEvent} {request : PrepareRequest}
    (hevent : event = event.call.event event.before event.now) (h : event.Grants request) :
    event.after.HeldBy request := by
  obtain ⟨process, blockers, record, names, hcall, hanswer⟩ := h
  have heffect := effect_event hevent
  rw [hcall, hanswer] at heffect
  obtain ⟨-, -, hafter⟩ := take_of_granted heffect
  rw [hafter]
  exact ⟨event.before.preparedRecord request event.now [], by simp, by simp [preparedRecord]⟩

/-- Only a repair that names the fence comes past the checks while the fence is held. -/
theorem repairs_of_proceeds {store : FenceStore} {request repair : PrepareRequest}
    {process : Process} {now : Nat} {blockers : List String} (h : store.HeldBy request)
    (hproceeds : store.Proceeds process repair now) :
    (FenceCall.prepare process repair blockers).Ends request := by
  obtain ⟨record, hservice, hstate, -, -, hmarker, htype, hid⟩ := h
  have hmatches : store.repairMatches repair = true := by
    refine Classical.byContradiction fun hno => ?_
    have hrefusal := hproceeds.2
    unfold prepareRefusal at hrefusal
    split at hrefusal
    · cases hrefusal
    · split at hrefusal
      · cases hrefusal
      · split at hrefusal
        · cases hrefusal
        · rw [if_pos ⟨⟨record, hservice, hstate⟩, hno⟩] at hrefusal
          cases hrefusal
  simpa [FenceCall.Ends, repairMatches, hservice, hmarker, htype, hid] using hmatches

/-- **What is held stays held**, and nothing is granted, until the ownership ends. -/
theorem heldBy_effect {store store' : FenceStore} {now : Nat} {call : FenceCall}
    {answer : FenceAnswer} {request : PrepareRequest} (h : store.HeldBy request)
    (hends : ¬ call.Ends request) (heffect : Effect store now call answer store') :
    store'.HeldBy request ∧ ∀ record names, answer ≠ .prepared (.ok (record, names, true)) := by
  cases heffect with
  | idle howned => exact ⟨h, howned⟩
  | timeout hproceeds => exact absurd (repairs_of_proceeds h hproceeds) hends
  | take hproceeds => exact absurd (repairs_of_proceeds h hproceeds) hends
  | dispatch hservice hstate howned =>
      obtain ⟨record, hrecord, -, hsame⟩ := h
      obtain rfl := Option.some.inj (hservice.symm.trans hrecord)
      exact ⟨⟨_, write_service _ _, .inr rfl, hsame⟩, howned⟩
  | refuse hservice =>
      obtain ⟨record, hrecord, -, hsame⟩ := h
      obtain rfl := Option.some.inj (hservice.symm.trans hrecord)
      exact absurd hsame.1 hends
  | confirm hservice hstate himage hmarker =>
      obtain ⟨record, hrecord, -, hsame⟩ := h
      obtain rfl := Option.some.inj (hservice.symm.trans hrecord)
      exact absurd ⟨hsame.2.1 ▸ himage, hsame.2.2.1 ▸ hmarker⟩ hends

theorem admissionAllowed_of_heldBy {store : FenceStore} {request : PrepareRequest}
    (h : store.HeldBy request) (process : Process) (now : Nat) :
    store.admissionAllowed process now = false := by
  obtain ⟨record, hservice, hstate, -⟩ := h
  rcases hstate with hstate | hstate <;> simp [admissionAllowed, hservice, hstate]

/-- **While a request holds the fence, nothing is granted.** -/
theorem closed_of_grants {Allowed : FenceStore → Nat → FenceCall → Prop} {event : FenceEvent}
    {earlier : List FenceEvent} {request : PrepareRequest} (hgrants : event.Grants request)
    {later : List FenceEvent} (hends : ∀ e ∈ later, ¬ e.call.Ends request) :
    ∀ {store : FenceStore} {clock : Nat}, Run Allowed (later ++ event :: earlier) store clock →
      store.HeldBy request ∧ ∀ e ∈ later, ∀ other, ¬ e.Grants other := by
  induction later with
  | nil =>
      intro store clock h
      obtain ⟨_, _, _, _, hevent, rfl⟩ := h.cons
      exact ⟨heldBy_of_grants hevent hgrants, by simp⟩
  | cons e later ih =>
      intro store clock h
      obtain ⟨_, hrest, _, _, he, rfl⟩ := h.cons
      obtain ⟨hheld, hnone⟩ := ih (fun e' he' => hends e' (List.mem_cons_of_mem _ he')) hrest
      obtain ⟨hheld', hanswer⟩ := heldBy_effect hheld (hends e List.mem_cons_self) (effect_event he)
      refine ⟨hheld', ?_⟩
      intro e' he' other hother
      rcases List.mem_cons.mp he' with rfl | he'
      · obtain ⟨_, _, record, names, _, hgranted⟩ := hother
        exact hanswer record names hgranted
      · exact hnone e' he' other hother

/-! ### Restored -/

/-- A request with a receipt that comes past the checks takes the fence only from itself. -/
def KeepsPlace (store : FenceStore) (now : Nat) : FenceCall → Prop
  | .prepare process request _ =>
    store.Proceeds process request now → store.requests.get request.requestFingerprint ≠ none →
      ¬ store.OutOfBudget request.requestFingerprint now → store.Owns request.requestFingerprint
  | _ => True

/-- The receipts of the fences that were taken one over the other, the current one first. Below a
request that ran out of its budget nothing is remembered: it is never refused any more. -/
inductive Stacked (events : List FenceEvent) (store : FenceStore) :
    List ServiceDeployDrainRecord → Prop
  | nil : Stacked events store []
  | dead {record : ServiceDeployDrainRecord} (budget : ServiceDeployDrainBudget)
      (hreceipt : store.requests.get record.requestFingerprint = some record)
      (hdraining : record.state = .draining)
      (hbudget : store.budgets.get record.requestFingerprint = some budget)
      (htimed : budget.drainTimedOut = true) : Stacked events store [record]
  | held {record : ServiceDeployDrainRecord} {rest : List ServiceDeployDrainRecord}
      (hreceipt : store.requests.get record.requestFingerprint = some record)
      (hfirst : ∀ e ∈ events, e.PreparesFirst record.requestFingerprint →
        e.before.service = rest.head?)
      (hprevious : record.previousRequestFingerprint =
        (rest.head?.map (·.requestFingerprint)).getD "")
      (hfresh : ∀ other ∈ rest, other.requestFingerprint ≠ record.requestFingerprint)
      (hrest : Stacked events store rest) : Stacked events store (record :: rest)

/-- Every fence of the list has its receipt. -/
theorem Stacked.receipt {events : List FenceEvent} {store : FenceStore}
    {stack : List ServiceDeployDrainRecord} (h : Stacked events store stack) :
    ∀ record ∈ stack, store.requests.get record.requestFingerprint = some record := by
  induction h with
  | nil => simp
  | dead _ hreceipt => simpa using hreceipt
  | held hreceipt _ _ _ _ ih => simpa using ⟨hreceipt, ih⟩

/-- An event that leaves the rows of these requests alone keeps the list. -/
theorem Stacked.frame {events : List FenceEvent} {store store' : FenceStore}
    {stack : List ServiceDeployDrainRecord} (h : Stacked events store stack) {event : FenceEvent}
    (hbefore : event.before = store)
    (hsame : ∀ record ∈ stack,
      store'.requests.get record.requestFingerprint =
          store.requests.get record.requestFingerprint ∧
        store'.budgets.get record.requestFingerprint =
          store.budgets.get record.requestFingerprint) :
    Stacked (event :: events) store' stack := by
  induction h with
  | nil => exact .nil
  | dead budget hreceipt hdraining hbudget htimed =>
      obtain ⟨hrequests, hbudgets⟩ := hsame _ List.mem_cons_self
      exact .dead budget (hrequests.trans hreceipt) hdraining (hbudgets.trans hbudget) htimed
  | held hreceipt hfirst hprevious hfresh hrest ih =>
      obtain ⟨hrequests, -⟩ := hsame _ List.mem_cons_self
      refine .held (hrequests.trans hreceipt) ?_ hprevious hfresh
        (ih fun r hr => hsame r (List.mem_cons_of_mem _ hr))
      intro e he hprepares
      rcases List.mem_cons.mp he with rfl | he
      · -- a request that has a receipt is not prepared for the first time
        rw [FenceEvent.PreparesFirst, hbefore, hreceipt] at hprepares
        cases hprepares.1
      · exact hfirst e he hprepares

/-- What a request that may still be dispatched knows of the fences below it. -/
structure Above (events : List FenceEvent) (store : FenceStore) (record : ServiceDeployDrainRecord)
    (rest : List ServiceDeployDrainRecord) : Prop where
  first : ∀ e ∈ events, e.PreparesFirst record.requestFingerprint → e.before.service = rest.head?
  previous : record.previousRequestFingerprint = (rest.head?.map (·.requestFingerprint)).getD ""
  fresh : ∀ other ∈ rest, other.requestFingerprint ≠ record.requestFingerprint
  stacked : Stacked events store rest

theorem Stacked.above {events : List FenceEvent} {store : FenceStore}
    {record : ServiceDeployDrainRecord} {rest : List ServiceDeployDrainRecord}
    (h : Stacked events store (record :: rest))
    (halive : record.state = .draining → ∀ budget,
      store.budgets.get record.requestFingerprint = some budget → budget.drainTimedOut = false) :
    Above events store record rest := by
  cases h with
  | dead budget hreceipt hdraining hbudget htimed =>
      rw [halive hdraining _ hbudget] at htimed
      cases htimed
  | held hreceipt hfirst hprevious hfresh hrest => exact ⟨hfirst, hprevious, hfresh, hrest⟩

/-- The rows of all other requests are as they were. -/
def FenceStore.SameElsewhere (store store' : FenceStore) (fp : String) : Prop :=
  ∀ key, key ≠ fp → store'.requests.get key = store.requests.get key ∧
    store'.budgets.get key = store.budgets.get key

theorem receipt_write (store : FenceStore) (record : ServiceDeployDrainRecord) :
    (store.write record).requests.get record.requestFingerprint = some record := by
  simp

theorem sameElsewhere_write (store : FenceStore) (record : ServiceDeployDrainRecord) :
    store.SameElsewhere (store.write record) record.requestFingerprint := by
  intro key hkey
  simp [hkey]

theorem sameElsewhere_write_budget (store : FenceStore) {record : ServiceDeployDrainRecord}
    {fp : String} (hfp : record.requestFingerprint = fp) (budget : ServiceDeployDrainBudget) :
    store.SameElsewhere ((store.write record).writeBudget fp budget) fp := by
  intro key hkey
  simp [hkey, hfp]

/-- The fence is on top of a list of fences. -/
def Fenced (events : List FenceEvent) (store : FenceStore) : Prop :=
  ∃ stack, Stacked events store stack ∧ store.service = stack.head?

/-- The request on top is written again and keeps its place. -/
theorem fenced_rewrite {events : List FenceEvent} {store store' : FenceStore}
    {record record' : ServiceDeployDrainRecord} {rest : List ServiceDeployDrainRecord}
    (habove : Above events store record rest)
    (hreceipt : store.requests.get record.requestFingerprint = some record)
    {event : FenceEvent} (hbefore : event.before = store) (hservice' : store'.service = some record')
    (hfp : record'.requestFingerprint = record.requestFingerprint)
    (hprevious : record'.previousRequestFingerprint = record.previousRequestFingerprint)
    (hreceipt' : store'.requests.get record'.requestFingerprint = some record')
    (hsame : store.SameElsewhere store' record.requestFingerprint) :
    Fenced (event :: events) store' := by
  refine ⟨record' :: rest, .held hreceipt' ?_ (hprevious.trans habove.previous) ?_
    (habove.stacked.frame hbefore fun r hr => hsame _ (habove.fresh r hr)), hservice'⟩
  · intro e he hprepares
    rw [hfp] at hprepares
    rcases List.mem_cons.mp he with rfl | he
    · rw [FenceEvent.PreparesFirst, hbefore, hreceipt] at hprepares
      cases hprepares.1
    · exact habove.first e he hprepares
  · intro other hother
    rw [hfp]
    exact habove.fresh other hother

/-- The request whose row is the fence is on top of the list, if it may still be dispatched. -/
theorem Fenced.above {events : List FenceEvent} {store : FenceStore} (h : Fenced events store)
    {record : ServiceDeployDrainRecord} (hservice : store.service = some record)
    (halive : record.state = .draining → ∀ budget,
      store.budgets.get record.requestFingerprint = some budget → budget.drainTimedOut = false) :
    ∃ rest, Above events store record rest := by
  obtain ⟨stack, hstack, htop⟩ := h
  rw [hservice] at htop
  cases stack with
  | nil => cases htop
  | cons top rest =>
      obtain rfl := Option.some.inj htop
      exact ⟨rest, hstack.above halive⟩

/-- What a refusal restores is the fence below. -/
theorem restored_eq_head {events : List FenceEvent} {store : FenceStore}
    {record : ServiceDeployDrainRecord} {rest : List ServiceDeployDrainRecord}
    (hreceipts : store.Receipted) (habove : Above events store record rest)
    {restored : Option ServiceDeployDrainRecord}
    (hrestored : record.previousRequestFingerprint = "" ∧ restored = none ∨
      record.previousRequestFingerprint ≠ "" ∧ restored ≠ none ∧
        restored = store.requests.get record.previousRequestFingerprint) :
    restored = rest.head? := by
  rw [habove.previous] at hrestored
  cases rest with
  | nil =>
      rcases hrestored with ⟨-, hnone⟩ | ⟨hne, -⟩
      · exact hnone
      · exact absurd rfl hne
  | cons below rest =>
      have hbelow := habove.stacked.receipt below List.mem_cons_self
      rcases hrestored with ⟨hempty, -⟩ | ⟨-, -, hreceipt⟩
      · exact absurd hempty (hreceipts.keyed _ _ hbelow).2.1
      · exact hreceipt.trans hbelow

/-- **Every allowed call keeps the list of fences.** -/
theorem fenced_effect {events : List FenceEvent} {event : FenceEvent}
    (hreceipts : event.before.Receipted)
    (hpast : ∀ e ∈ events, ∀ fp, e.PreparesFirst fp → event.before.requests.get fp ≠ none)
    (h : Fenced events event.before) (hkeeps : KeepsPlace event.before event.now event.call)
    (hevent : event = event.call.event event.before event.now) :
    Fenced (event :: events) event.after := by
  have heffect := effect_event hevent
  generalize hbefore : event.before = store at *
  generalize hafter : event.after = store' at *
  generalize event.call = call at *
  generalize event.answer = answer at *
  generalize event.now = now at *
  cases heffect with
  | idle =>
      obtain ⟨stack, hstack, htop⟩ := h
      exact ⟨stack, hstack.frame hbefore fun _ _ => ⟨rfl, rfl⟩, htop⟩
  | @timeout process request blockers prior hproceeds hout hprior =>
      obtain ⟨hkey, -, -⟩ := hreceipts.keyed _ _ hprior
      refine ⟨[{ prior with expiresAt := some now, updatedAt := now }], ?_, rfl⟩
      refine .dead
        { store.prepareBudget request.requestFingerprint now with drainTimedOut := true }
        (receipt_write _ _) (replay_eq_none.mp hproceeds.1 prior hprior).1 ?_ rfl
      simp [hkey]
  | @take process request blockers hproceeds hout =>
      have hnamed : (store.preparedRecord request now blockers).requestFingerprint =
          request.requestFingerprint := rfl
      cases hreceipt : store.requests.get request.requestFingerprint with
      | some prior =>
          -- the request has the fence already, and writes it again
          obtain ⟨current, hcurrent, hown⟩ := hkeeps hproceeds (by simp [hreceipt]) hout
          have hservice : store.service = some current := hcurrent
          have hstored := hreceipts.service current hservice
          obtain ⟨rest, habove⟩ := h.above hservice fun _ budget hbudget =>
            (replay_eq_none.mp hproceeds.1 current (hown ▸ hstored)).2 budget (hown ▸ hbudget)
          refine fenced_rewrite habove hstored hbefore rfl hown.symm ?_ (receipt_write _ _) ?_
          · simp [preparedRecord, hservice, hown]
          · rw [hown]
            exact sameElsewhere_write_budget store hnamed _
      | none =>
          obtain ⟨stack, hstack, htop⟩ := h
          have hfresh : ∀ other ∈ stack, other.requestFingerprint ≠ request.requestFingerprint := by
            intro other hother heq
            rw [← heq, hstack.receipt other hother] at hreceipt
            cases hreceipt
          refine ⟨_ :: stack, .held (receipt_write _ _) ?_ ?_ hfresh
            (hstack.frame hbefore fun r hr => ?_), rfl⟩
          · intro e he hprepares
            rcases List.mem_cons.mp he with rfl | he
            · rw [hbefore]
              exact htop
            · exact absurd hreceipt (hpast e he _ hprepares)
          · rw [← htop]
            cases hservice : store.service with
            | none => simp [preparedRecord, hservice]
            | some current =>
                rw [hservice] at htop
                have hmem : current ∈ stack := List.mem_of_head? htop.symm
                simp [preparedRecord, hservice, hfresh current hmem]
          · exact sameElsewhere_write_budget store hnamed _ _ (hfresh r hr)
  | @dispatch record answer hservice hstate =>
      obtain ⟨rest, habove⟩ := h.above hservice (by simp [hstate])
      exact fenced_rewrite habove (hreceipts.service record hservice) hbefore rfl rfl rfl
        (receipt_write _ _) (sameElsewhere_write store _)
  | @refuse record restored hservice hstate hrestored =>
      obtain ⟨rest, habove⟩ := h.above hservice (by simp [hstate])
      refine ⟨rest, habove.stacked.frame hbefore fun r hr => ?_,
        restored_eq_head hreceipts habove hrestored⟩
      exact sameElsewhere_write store { record with state := .refused, updatedAt := now } _
        (habove.fresh r hr)
  | @confirm process record hservice hstate =>
      have halive : record.state ≠ .draining := by
        rcases hstate with h | h <;> simp [h]
      obtain ⟨rest, habove⟩ := h.above hservice fun hdraining => absurd hdraining halive
      exact fenced_rewrite habove (hreceipts.service record hservice) hbefore rfl rfl rfl
        (receipt_write _ _) (sameElsewhere_write store _)

theorem fenced_of_run {events : List FenceEvent} {store : FenceStore} {clock : Nat}
    (h : Run KeepsPlace events store clock) : Fenced events store := by
  induction h with
  | start => exact ⟨[], .nil, rfl⟩
  | @call events store clock now call hrun hclock hallowed ih =>
      refine @fenced_effect events (call.event store now) (receipted_of_run hrun) ?_ ih hallowed rfl
      intro e he fp hfirst
      exact receipt_of_mem hrun he hfirst.2

theorem admissionAllowed_of_service {store store' : FenceStore} (h : store.service = store'.service)
    (process : Process) (now : Nat) :
    store.admissionAllowed process now = store'.admissionAllowed process now := by
  simp only [admissionAllowed, h]

/-- **A refusal restores the fence** as it was before the request first took it. -/
theorem restored_of_refuses {event : FenceEvent} {earlier : List FenceEvent} {store : FenceStore}
    {clock : Nat} (h : Run KeepsPlace (event :: earlier) store clock) {fp : String}
    (hrefuses : event.Refuses fp) :
    ∃ first ∈ earlier, first.PreparesFirst fp ∧ event.after.service = first.before.service := by
  obtain ⟨_, hrun, _, _, hevent, _⟩ := h.cons
  obtain ⟨hcall, hanswer⟩ := hrefuses
  have hreceipts := receipted_of_run hrun
  have hfenced := fenced_of_run hrun
  have heffect := effect_event hevent
  rw [hcall, hanswer] at heffect
  generalize event.after = store' at heffect ⊢
  cases heffect with
  | idle _ hrefused => exact absurd rfl (hrefused fp rfl)
  | @refuse record restored hservice hstate hrestored =>
      obtain ⟨rest, habove⟩ := hfenced.above hservice (by simp [hstate])
      have hreceipt := hreceipts.service record hservice
      have hsome : event.before.requests.get record.requestFingerprint ≠ none := by simp [hreceipt]
      obtain ⟨first, hmem, hfirst⟩ := exists_preparesFirst hrun hsome
      refine ⟨first, hmem, hfirst, ?_⟩
      rw [habove.first first hmem hfirst]
      exact restored_eq_head hreceipts habove hrestored

/-- **The fence has one owner and closes admission**, in every run in which a request that lost the
fence does not take it from another one again. -/
theorem oneOwner_of_run {events : List FenceEvent} {store : FenceStore} {clock : Nat}
    (h : Run KeepsPlace events store clock) : OneOwner events store where
  once := by
    intro later event earlier request hsplit hgrants e he
    subst hsplit
    obtain ⟨_, _, hrun⟩ := h.suffix
    have hno := not_settles_of_grants hrun hgrants he
    refine ⟨fun other hother hgranted => hno (.inl ⟨other, hother, hgranted⟩), ?_, ?_, ?_⟩
    · exact fun htimes => hno (.inr (.inl htimes))
    · exact fun hrefuses => hno (.inr (.inr (.inl hrefuses)))
    · exact fun hdispatches => hno (.inr (.inr (.inr hdispatches)))
  unblocked := by
    intro event hmem process request blockers record names hcall hanswer
    obtain ⟨later, earlier, rfl⟩ := List.append_of_mem hmem
    obtain ⟨_, _, hrun⟩ := h.suffix
    obtain ⟨_, _, _, _, hevent, _⟩ := hrun.cons
    have heffect := effect_event hevent
    rw [hcall, hanswer] at heffect
    exact (take_of_granted heffect).1
  closed := by
    intro later event earlier request hsplit hgrants hends
    subst hsplit
    obtain ⟨hheld, hnone⟩ := closed_of_grants hgrants hends h
    exact ⟨hnone, admissionAllowed_of_heldBy hheld⟩
  restored := by
    intro later event earlier fp hsplit hrefuses
    subst hsplit
    obtain ⟨_, _, hrun⟩ := h.suffix
    obtain ⟨first, hmem, hfirst, hsame⟩ := restored_of_refuses hrun hrefuses
    exact ⟨first, hmem, hfirst, hsame, admissionAllowed_of_service hsame⟩

/-! ### The runs the condition leaves out -/

section Sample

/-- The process of the image that serves at first. -/
private def serving : Process :=
  { dockerImageReference := "image:1", launchplaneDeploymentMarker := some "marker-1" }

/-- The request that brought the serving image. -/
private def served : PrepareRequest :=
  { requestFingerprint := "x", targetType := "application", targetId := "launchplane"
    imageReference := "image:1", deploymentMarker := "marker-1" }

private theorem pausedFingerprint_ne : "a" ≠ "" := by decide

private theorem intruderFingerprint_ne : "b" ≠ "" := by decide

/-- A request that is not polled for a while. -/
private def paused : PrepareRequest :=
  { requestFingerprint := "a", targetType := "application", targetId := "launchplane"
    imageReference := "image:2", deploymentMarker := "marker-2"
    requestFingerprint_ne := pausedFingerprint_ne }

/-- A request that takes the fence from the paused one. -/
private def intruder : PrepareRequest :=
  { requestFingerprint := "b", targetType := "application", targetId := "launchplane"
    imageReference := "image:3", deploymentMarker := "marker-3"
    requestFingerprint_ne := intruderFingerprint_ne }

/-- The serving image is confirmed. -/
private def serve : List (Nat × FenceCall) :=
  [(1, .confirmStartup serving), (0, .prepare {} served [])]

theorem oneOwner_of_run_sample :
    OneOwner
      (performAll ((3, .recordPreEffectRefusal "a") :: (2, .prepare serving paused []) :: serve)).1
      (performAll ((3, .recordPreEffectRefusal "a") :: (2, .prepare serving paused []) :: serve)).2 :=
  oneOwner_of_run (run_performAll _
    ⟨by decide, trivial, by decide, fun _ h => (h (by decide +kernel)).elim, by decide, trivial,
      by decide, fun _ h => (h rfl).elim, trivial⟩)

/-- The paused request loses its drain to the intruder, takes the fence again and is refused. -/
private def lostPlace : List (Nat × FenceCall) :=
  (8 * 60 * 1000000, .recordPreEffectRefusal "a") ::
    (7 * 60 * 1000000, .prepare serving paused []) ::
    (4 * 60 * 1000000, .prepare serving intruder ["operation-2"]) ::
    (1 * 60 * 1000000, .prepare serving paused ["operation-1"]) :: serve

/-- What is restored then is the intruder's expired drain, which admits everybody, and not the
confirmed fence. -/
theorem not_oneOwner_lostPlace :
    ∃ events store clock, Run (fun _ _ _ => True) events store clock ∧
      store.admissionAllowed {} clock = true ∧ ¬ OneOwner events store := by
  refine ⟨_, _, _, run_performAll lostPlace
    ⟨by decide, trivial, by decide, trivial, by decide, trivial, by decide, trivial, by decide,
      trivial, by decide, trivial, trivial⟩, by decide +kernel, ?_⟩
  intro h
  obtain ⟨first, hmem, hfirst, hsame, -⟩ := h.restored [] _ _ "a" rfl ⟨rfl, by decide +kernel⟩
  have hall : ∀ first ∈ (performAll (lostPlace.drop 1)).1,
      first.before.requests.get "a" = none → first.after.requests.get "a" ≠ none →
        first.before.service ≠ (performAll lostPlace).2.service := by
    decide +kernel
  exact hall first hmem hfirst.1 hfirst.2 hsame.symm

end Sample

end Launchplane.SelfDeploy
