import Launchplane.Dict
import Launchplane.Text

/-!
# Launchplane.SelfDeploy.Fence

**The fence around a replacement of the control plane.** One row says which
self-deploy request currently holds the service, and every process asks it
whether it may admit new provider effects. Each request also keeps a receipt of
its own, so that a request whose response was lost is answered again and never
dispatched twice, and a budget that says until when it may still drain.

The four entry points are transactions: a call reads the rows, answers, and
leaves new rows. What the running operations block is an argument, since it is
read from other tables in the same transaction. Times are instants, in
microseconds.
-/

namespace Launchplane.SelfDeploy

/-- The state of a `ServiceDeployDrainRecord`. -/
inductive ServiceDeployDrainState
  | draining | dispatching | requested | confirmed | refused
  deriving Repr, DecidableEq

/-- `ServiceDeployDrainRecord`. An empty `expires_at` is `none`. -/
structure ServiceDeployDrainRecord where
  requestFingerprint : String
  targetType : String
  targetId : String
  imageReference : String
  deploymentMarker : String
  previousRequestFingerprint : String := ""
  state : ServiceDeployDrainState
  updatedAt : Nat
  expiresAt : Option Nat := none
  deriving Repr, DecidableEq

/-- `ServiceDeployDrainBudget`. -/
structure ServiceDeployDrainBudget where
  drainStartedAt : Nat
  drainDeadlineAt : Nat
  drainTimedOut : Bool := false
  deriving Repr, DecidableEq

/-- The rows of `launchplane_service_deploy_drain`: `service`, `request:…` and `budget:…`. -/
structure FenceStore where
  service : Option ServiceDeployDrainRecord := none
  requests : Dict String ServiceDeployDrainRecord := []
  budgets : Dict String ServiceDeployDrainBudget := []
  deriving Repr, DecidableEq

/-- What a process reads from its environment. -/
structure Process where
  dockerImageReference : String := ""
  launchplaneDeploymentMarker : Option String := none
  deriving Repr, DecidableEq

/-- The arguments of `prepare`. A fingerprint is a digest, so it is not empty. -/
structure PrepareRequest where
  requestFingerprint : String
  targetType : String
  targetId : String
  imageReference : String
  deploymentMarker : String
  supersedesDeploymentMarker : String := ""
  requestFingerprint_ne : requestFingerprint ≠ "" := by decide

instance : DecidableEq PrepareRequest := fun r r' =>
  decidable_of_iff ((r.requestFingerprint, r.targetType, r.targetId, r.imageReference,
      r.deploymentMarker, r.supersedesDeploymentMarker) = (r'.requestFingerprint, r'.targetType,
      r'.targetId, r'.imageReference, r'.deploymentMarker, r'.supersedesDeploymentMarker)) <| by
    cases r
    cases r'
    simp

/-- The exceptions of the fence. -/
inductive ServiceDeployError
  | valueError (message : String)
  | outcomeUnknown (message : String)
  | fenceConflict (message : String) (fence : Option ServiceDeployDrainRecord)
  | preEffectRefused (message : String)
  | drainTimeout (blockers : List String)
  deriving Repr, DecidableEq

/-- `SERVICE_DEPLOY_DRAIN_TIMEOUT_SECONDS`. -/
def serviceDeployDrainTimeout : Nat := 10 * 60 * 1000000

/-- How long a drain keeps admission closed when it is not polled again. -/
def drainPause : Nat := 2 * 60 * 1000000

namespace FenceStore

/-- `_write`: the service row and the receipt of the record's request. -/
def write (store : FenceStore) (record : ServiceDeployDrainRecord) : FenceStore :=
  { store with
    service := some record
    requests := store.requests.set record.requestFingerprint record }

/-- `_write_budget`. -/
def writeBudget (store : FenceStore) (requestFingerprint : String)
    (budget : ServiceDeployDrainBudget) : FenceStore :=
  { store with budgets := store.budgets.set requestFingerprint budget }

@[simp] theorem write_service (store : FenceStore) (record : ServiceDeployDrainRecord) :
    (store.write record).service = some record := rfl
@[simp] theorem write_requests (store : FenceStore) (record : ServiceDeployDrainRecord) :
    (store.write record).requests = store.requests.set record.requestFingerprint record := rfl
@[simp] theorem write_budgets (store : FenceStore) (record : ServiceDeployDrainRecord) :
    (store.write record).budgets = store.budgets := rfl
@[simp] theorem writeBudget_service (store : FenceStore) (fp : String)
    (budget : ServiceDeployDrainBudget) : (store.writeBudget fp budget).service = store.service := rfl
@[simp] theorem writeBudget_requests (store : FenceStore) (fp : String)
    (budget : ServiceDeployDrainBudget) :
    (store.writeBudget fp budget).requests = store.requests := rfl
@[simp] theorem writeBudget_budgets (store : FenceStore) (fp : String)
    (budget : ServiceDeployDrainBudget) :
    (store.writeBudget fp budget).budgets = store.budgets.set fp budget := rfl

/-- `admission_allowed`. -/
def admissionAllowed (store : FenceStore) (process : Process) (now : Nat) : Bool :=
  match store.service with
  | none => true
  | some record =>
    match record.state with
    -- an abandoned pre-effect request cannot permanently park releases
    | .draining => ∀ expiresAt ∈ record.expiresAt, expiresAt ≤ now
    | .confirmed =>
      record.imageReference = pyStrip process.dockerImageReference ∧
        record.deploymentMarker = pyStrip (process.launchplaneDeploymentMarker.getD "")
    | _ => false

/-! ### `prepare` -/

/-- The answer of `prepare` to a request that was answered before: it timed out, was refused, or
was dispatched. A request that is still draining has none. -/
def replay (store : FenceStore) (requestFingerprint : String) (blockers : List String) :
    Option (Except ServiceDeployError (ServiceDeployDrainRecord × List String × Bool)) :=
  match store.requests.get requestFingerprint with
  | none => none
  | some prior =>
    if (store.budgets.get requestFingerprint).any (·.drainTimedOut) then
      some (.error (.drainTimeout blockers))
    else match prior.state with
    | .refused => some (.error (.preEffectRefused
        "This self-deploy was refused before effects; use a new request after resolving the refusal."))
    | .dispatching => some (.error (.outcomeUnknown
        "Self-deploy dispatch requires provider reconciliation."))
    | .draining => none
    | _ => some (.ok (prior, [], false))

/-- Whether another request's row carries the marker. -/
def markerUsed (store : FenceStore) (deploymentMarker requestFingerprint : String) : Bool :=
  (store.service.toList ++ store.requests.map Prod.snd).any fun record =>
    record.deploymentMarker = deploymentMarker ∧ record.requestFingerprint ≠ requestFingerprint

/-- `repair_matches`: the request names the marker and target of the current fence. -/
def repairMatches (store : FenceStore) (request : PrepareRequest) : Bool :=
  match store.service with
  | none => false
  | some current =>
    request.supersedesDeploymentMarker = current.deploymentMarker ∧
      request.targetType = current.targetType ∧ request.targetId = current.targetId

/-- `continuing_drain`: the fence is this request's own, and still draining. -/
def continuingDrain (store : FenceStore) (request : PrepareRequest) : Bool :=
  match store.requests.get request.requestFingerprint, store.service with
  | some prior, some current =>
    prior.state = .draining ∧ current.state = .draining ∧
      current.requestFingerprint = request.requestFingerprint
  | _, _ => false

/-- The checks of `prepare` on a request that has no final answer yet. -/
def prepareRefusal (store : FenceStore) (process : Process) (request : PrepareRequest) (now : Nat) :
    Option ServiceDeployError :=
  if request.deploymentMarker = "" ∨
      process.launchplaneDeploymentMarker = some request.deploymentMarker then
    some (.valueError
      "Self-deploy requires a fresh deployment marker before draining releases.")
  else if store.markerUsed request.deploymentMarker request.requestFingerprint then
    some (.valueError
      "Self-deploy requires an unused deployment marker for each new request.")
  else if request.supersedesDeploymentMarker ≠ "" ∧ ¬ store.repairMatches request ∧
      ¬ store.continuingDrain request then
    some (.fenceConflict "The superseded self-deploy fence does not match." store.service)
  else if (∃ current ∈ store.service, current.state = .dispatching ∨ current.state = .requested) ∧
      ¬ store.repairMatches request then
    some (.fenceConflict
      "An earlier self-deploy requires matching startup or an explicit marker-bound service repair."
      store.service)
  else if ∃ current ∈ store.service, current.requestFingerprint ≠ request.requestFingerprint ∧
      current.state = .draining ∧ ∃ expiresAt ∈ current.expiresAt, now < expiresAt then
    some (.valueError "Another self-deploy is draining release operations.")
  else none

/-- The budget `prepare` works with: the stored one, or one that starts now or, for a receipt of an
older version, when the receipt was last written. -/
def prepareBudget (store : FenceStore) (requestFingerprint : String) (now : Nat) :
    ServiceDeployDrainBudget :=
  match store.budgets.get requestFingerprint with
  | some budget => budget
  | none =>
    let drainStartedAt := match store.requests.get requestFingerprint with
      | some prior => prior.updatedAt
      | none => now
    { drainStartedAt, drainDeadlineAt := drainStartedAt + serviceDeployDrainTimeout }

/-- The record `prepare` takes the fence with. -/
def preparedRecord (store : FenceStore) (request : PrepareRequest) (now : Nat)
    (blockers : List String) : ServiceDeployDrainRecord where
  requestFingerprint := request.requestFingerprint
  targetType := request.targetType
  targetId := request.targetId
  imageReference := request.imageReference
  deploymentMarker := request.deploymentMarker
  previousRequestFingerprint := match store.service with
    | none => ""
    | some current =>
      if current.requestFingerprint = request.requestFingerprint then
        current.previousRequestFingerprint
      else current.requestFingerprint
  state := if blockers ≠ [] then .draining else .dispatching
  updatedAt := now
  expiresAt := if blockers ≠ [] then some (now + drainPause) else none

/-- `prepare`: the answer and the rows it leaves. -/
def prepare (store : FenceStore) (process : Process) (request : PrepareRequest) (now : Nat)
    (blockers : List String) :
    Except ServiceDeployError (ServiceDeployDrainRecord × List String × Bool) × FenceStore :=
  match store.replay request.requestFingerprint blockers with
  | some answer => (answer, store)
  | none =>
    match store.prepareRefusal process request now with
    | some error => (.error error, store)
    | none =>
      let budget := store.prepareBudget request.requestFingerprint now
      match store.requests.get request.requestFingerprint with
      | some prior =>
        if budget.drainDeadlineAt ≤ now then
          -- a timed-out request must never later dispatch on a poll
          (.error (.drainTimeout blockers),
            (store.write { prior with expiresAt := some now, updatedAt := now }).writeBudget
              request.requestFingerprint { budget with drainTimedOut := true })
        else
          let record := store.preparedRecord request now blockers
          (.ok (record, blockers, blockers = []),
            (store.write record).writeBudget request.requestFingerprint budget)
      | none =>
        let record := store.preparedRecord request now blockers
        (.ok (record, blockers, blockers = []),
          (store.write record).writeBudget request.requestFingerprint budget)

/-! ### The other entry points -/

/-- `record_dispatch`. -/
def recordDispatch (store : FenceStore) (requestFingerprint : String) :
    Except ServiceDeployError Unit × FenceStore :=
  match store.service with
  | none => (.error (.outcomeUnknown "Self-deploy fence changed during provider dispatch."), store)
  | some record =>
    if record.requestFingerprint ≠ requestFingerprint then
      (.error (.outcomeUnknown "Self-deploy fence changed during provider dispatch."), store)
    else if record.state = .dispatching then
      (.ok (), store.write { record with state := .requested })
    else (.ok (), store)

/-- `record_pre_effect_refusal`. -/
def recordPreEffectRefusal (store : FenceStore) (requestFingerprint : String) (now : Nat) :
    Except ServiceDeployError Unit × FenceStore :=
  match store.service with
  | none => (.error (.outcomeUnknown
      "The service fence changed before recording provider refusal."), store)
  | some record =>
    if record.requestFingerprint ≠ requestFingerprint ∨ record.state ≠ .dispatching then
      (.error (.outcomeUnknown "The service fence changed before recording provider refusal."),
        store)
    else
      let refused := store.write { record with state := .refused, updatedAt := now }
      if record.previousRequestFingerprint = "" then (.ok (), { refused with service := none })
      else match store.requests.get record.previousRequestFingerprint with
      | none => (.error (.outcomeUnknown "The previous service fence receipt is unavailable."), store)
      | some previous => (.ok (), { refused with service := some previous })

/-- `confirm_startup`. -/
def confirmStartup (store : FenceStore) (process : Process) (now : Nat) : FenceStore :=
  match store.service with
  | none => store
  | some record =>
    if record.state ≠ .dispatching ∧ record.state ≠ .requested then store
    else if record.imageReference ≠ pyStrip process.dockerImageReference ∨
        record.deploymentMarker ≠ pyStrip (process.launchplaneDeploymentMarker.getD "") then store
    else store.write { record with state := .confirmed, updatedAt := now }

/-! ### What each entry point can do -/

/-- `prepare` gets past its early answers: it will write the fence. -/
def Proceeds (store : FenceStore) (process : Process) (request : PrepareRequest) (now : Nat) :
    Prop :=
  store.replay request.requestFingerprint [] = none ∧
    store.prepareRefusal process request now = none

instance (store : FenceStore) (process : Process) (request : PrepareRequest) (now : Nat) :
    Decidable (store.Proceeds process request now) :=
  inferInstanceAs (Decidable (_ ∧ _))

/-- The request has run out of its budget. -/
def OutOfBudget (store : FenceStore) (requestFingerprint : String) (now : Nat) : Prop :=
  store.requests.get requestFingerprint ≠ none ∧
    (store.prepareBudget requestFingerprint now).drainDeadlineAt ≤ now

instance (store : FenceStore) (requestFingerprint : String) (now : Nat) :
    Decidable (store.OutOfBudget requestFingerprint now) :=
  inferInstanceAs (Decidable (_ ∧ _))

/-- The current fence is the request's own. -/
def Owns (store : FenceStore) (requestFingerprint : String) : Prop :=
  ∃ current ∈ store.service, current.requestFingerprint = requestFingerprint

instance (store : FenceStore) (requestFingerprint : String) :
    Decidable (store.Owns requestFingerprint) :=
  inferInstanceAs (Decidable (∃ current ∈ store.service, _))

theorem replay_eq_none {store : FenceStore} {fp : String} {blockers : List String} :
    store.replay fp blockers = none ↔
      ∀ prior, store.requests.get fp = some prior →
        prior.state = .draining ∧ ∀ budget, store.budgets.get fp = some budget →
          budget.drainTimedOut = false := by
  unfold replay
  cases hprior : store.requests.get fp with
  | none => simp
  | some prior =>
      cases hbudget : store.budgets.get fp with
      | none => cases hstate : prior.state <;> simp [hstate]
      | some budget =>
          cases htimed : budget.drainTimedOut <;> cases hstate : prior.state <;>
            simp [hstate, htimed]

/-- What is answered early is no ownership. -/
theorem replay_eq_some {store : FenceStore} {fp : String} {blockers : List String}
    {answer : Except ServiceDeployError (ServiceDeployDrainRecord × List String × Bool)}
    (h : store.replay fp blockers = some answer) :
    ∀ record names, answer ≠ .ok (record, names, true) := by
  intro record names heq
  rw [heq] at h
  unfold replay at h
  repeat' split at h
  all_goals simp at h

/-- **What `prepare` can do**: answer without a write, end a drain that ran out of its budget, or
take the fence. -/
theorem prepare_cases {store store' : FenceStore} {process : Process} {request : PrepareRequest}
    {now : Nat} {blockers : List String}
    {answer : Except ServiceDeployError (ServiceDeployDrainRecord × List String × Bool)}
    (h : store.prepare process request now blockers = (answer, store')) :
    (store' = store ∧ ∀ record names, answer ≠ .ok (record, names, true)) ∨
      (store.Proceeds process request now ∧ store.OutOfBudget request.requestFingerprint now ∧
        answer = .error (.drainTimeout blockers) ∧
        ∃ prior, store.requests.get request.requestFingerprint = some prior ∧
          store' = (store.write { prior with expiresAt := some now, updatedAt := now }).writeBudget
            request.requestFingerprint
            { store.prepareBudget request.requestFingerprint now with drainTimedOut := true }) ∨
      (store.Proceeds process request now ∧ ¬ store.OutOfBudget request.requestFingerprint now ∧
        answer = .ok (store.preparedRecord request now blockers, blockers, blockers = []) ∧
        store' = (store.write (store.preparedRecord request now blockers)).writeBudget
          request.requestFingerprint (store.prepareBudget request.requestFingerprint now)) := by
  unfold prepare at h
  split at h
  · rename_i early hreplay
    cases h
    exact .inl ⟨rfl, replay_eq_some hreplay⟩
  · rename_i hreplay
    split at h
    · cases h
      exact .inl ⟨rfl, by simp⟩
    · rename_i hrefusal
      have hproceeds : store.Proceeds process request now :=
        ⟨replay_eq_none.mpr (replay_eq_none.mp hreplay), hrefusal⟩
      simp only at h
      split at h
      · rename_i prior hprior
        split at h
        · rename_i hdeadline
          cases h
          exact .inr (.inl ⟨hproceeds, ⟨by simp [hprior], hdeadline⟩, rfl, prior, hprior, rfl⟩)
        · rename_i hdeadline
          cases h
          exact .inr (.inr ⟨hproceeds, fun hout => hdeadline hout.2, rfl, rfl⟩)
      · rename_i hprior
        cases h
        exact .inr (.inr ⟨hproceeds, fun hout => hout.1 hprior, rfl, rfl⟩)

theorem recordDispatch_cases {store store' : FenceStore} {fp : String}
    {answer : Except ServiceDeployError Unit} (h : store.recordDispatch fp = (answer, store')) :
    store' = store ∨ ∃ record, store.service = some record ∧ record.requestFingerprint = fp ∧
      record.state = .dispatching ∧ store' = store.write { record with state := .requested } := by
  unfold recordDispatch at h
  split at h
  · cases h
    exact .inl rfl
  · rename_i record hservice
    split at h
    · cases h
      exact .inl rfl
    · rename_i hfp
      split at h
      · rename_i hstate
        cases h
        exact .inr ⟨record, hservice, not_not.mp hfp, hstate, rfl⟩
      · cases h
        exact .inl rfl

theorem recordPreEffectRefusal_cases {store store' : FenceStore} {fp : String} {now : Nat}
    {answer : Except ServiceDeployError Unit}
    (h : store.recordPreEffectRefusal fp now = (answer, store')) :
    (store' = store ∧ answer ≠ .ok ()) ∨
      ∃ record, store.service = some record ∧ record.requestFingerprint = fp ∧
        record.state = .dispatching ∧ answer = .ok () ∧
        ∃ restored, store' = { store.write { record with state := .refused, updatedAt := now } with
            service := restored } ∧
          (record.previousRequestFingerprint = "" ∧ restored = none ∨
            record.previousRequestFingerprint ≠ "" ∧ restored ≠ none ∧
              restored = store.requests.get record.previousRequestFingerprint) := by
  unfold recordPreEffectRefusal at h
  split at h
  · cases h
    exact .inl ⟨rfl, by simp⟩
  · rename_i record hservice
    split at h
    · cases h
      exact .inl ⟨rfl, by simp⟩
    · rename_i hguard
      simp only [ne_eq, not_or, not_not] at hguard
      simp only at h
      split at h
      · rename_i hprevious
        cases h
        exact .inr ⟨record, hservice, hguard.1, hguard.2, rfl, none, rfl, .inl ⟨hprevious, rfl⟩⟩
      · rename_i hprevious
        split at h
        · cases h
          exact .inl ⟨rfl, by simp⟩
        · rename_i previous hreceipt
          cases h
          exact .inr ⟨record, hservice, hguard.1, hguard.2, rfl, some previous, rfl,
            .inr ⟨hprevious, by simp, hreceipt.symm⟩⟩

theorem confirmStartup_cases (store : FenceStore) (process : Process) (now : Nat) :
    store.confirmStartup process now = store ∨
      ∃ record, store.service = some record ∧
        (record.state = .dispatching ∨ record.state = .requested) ∧
        record.imageReference = pyStrip process.dockerImageReference ∧
        record.deploymentMarker = pyStrip (process.launchplaneDeploymentMarker.getD "") ∧
        store.confirmStartup process now =
          store.write { record with state := .confirmed, updatedAt := now } := by
  unfold confirmStartup
  split
  · exact .inl rfl
  · rename_i record hservice
    split
    · exact .inl rfl
    · rename_i hstate
      split
      · exact .inl rfl
      · rename_i hmatch
        simp only [ne_eq, not_and_or, not_not] at hstate
        simp only [ne_eq, not_or, not_not] at hmatch
        exact .inr ⟨record, hservice, hstate, hmatch.1, hmatch.2, rfl⟩

end FenceStore

end Launchplane.SelfDeploy
