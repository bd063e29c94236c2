import Mathlib.Data.List.Basic

/-!
# Launchplane.ProductReconcile.Requests

**Requests to reconcile a target.** There is at most one request for a target; a
new request folds into it. A worker claims the request under a lease, renews the
lease while it runs and completes it. This module has what each of these makes of
the record; who may write it when is the business of `Statements`.

Timestamps are seconds: their texts have one fixed form, in which they sort as
they do in time.
-/

namespace Launchplane.ProductReconcile

/-- `ProductReconcileTargetKind`. -/
inductive TargetKind
  | testing | preview
  deriving Repr, DecidableEq

/-- `ProductReconcileRequestState`. -/
inductive RequestState
  | pending | running | done | failed
  deriving Repr, DecidableEq

/-- `ProductReconcileTarget`. -/
structure Target where
  product : String
  targetKind : TargetKind
  pullRequestNumber : Option Nat := none
  deriving Repr, DecidableEq

/-- `target_key`. -/
def Target.key (target : Target) : String :=
  match target.targetKind with
  | .preview =>
    target.product ++ ":preview:" ++ ((target.pullRequestNumber.map toString).getD "None")
  | .testing => target.product ++ ":testing"

/-- The plan of a run. Of its fields only `retry_at` is read here. -/
structure Plan where
  retryAt : Option Nat := none
  deriving Repr, DecidableEq

/-- `ProductReconcileRequestRecord`. No `lease_expires_at` is the empty text. -/
structure RequestRecord where
  targetKey : String
  product : String
  targetKind : TargetKind
  pullRequestNumber : Option Nat := none
  state : RequestState
  requestedAt : Nat
  updatedAt : Nat
  requestCount : Nat
  rerequestedWhileRunning : Bool := false
  lastDeliveryId : String := ""
  leaseOwner : String := ""
  leaseExpiresAt : Option Nat := none
  attempt : Nat := 0
  lastError : String := ""
  lastPlan : Plan := {}
  deriving Repr, DecidableEq

/-- What `_fold_product_reconcile_request` makes of the record of a target. -/
def foldRequest (target : Target) (requestedAt : Nat) (deliveryId : String) :
    Option RequestRecord → RequestRecord
  | none =>
    { targetKey := target.key
      product := target.product
      targetKind := target.targetKind
      pullRequestNumber := target.pullRequestNumber
      state := .pending
      requestedAt
      updatedAt := requestedAt
      requestCount := 1
      lastDeliveryId := deliveryId }
  | some existing =>
    let record :=
      { existing with
        requestCount := existing.requestCount + 1
        updatedAt := requestedAt
        lastDeliveryId := if deliveryId ≠ "" then deliveryId else existing.lastDeliveryId }
    match existing.state with
    | .pending => record
    | .running => { record with rerequestedWhileRunning := true }
    | .done =>
      { record with state := .pending, requestedAt, rerequestedWhileRunning := false, lastError := "" }
    | .failed => { record with state := .pending, requestedAt, rerequestedWhileRunning := false }

/-- `lease_expires_at < observed_at`, where the empty text is the least. -/
def leaseExpired (observedAt : Nat) (record : RequestRecord) : Prop :=
  ∀ expiry ∈ record.leaseExpiresAt, expiry < observedAt

instance (observedAt : Nat) (record : RequestRecord) : Decidable (leaseExpired observedAt record) :=
  inferInstanceAs (Decidable (∀ expiry ∈ record.leaseExpiresAt, expiry < observedAt))

/-- The rows `claim_next_product_reconcile_request` selects. -/
def Claimable (observedAt : Nat) (record : RequestRecord) : Prop :=
  (∀ retryAt ∈ record.lastPlan.retryAt, retryAt ≤ observedAt) ∧
    (record.state = .pending ∨ (record.state = .running ∧ leaseExpired observedAt record))

instance (observedAt : Nat) (record : RequestRecord) : Decidable (Claimable observedAt record) :=
  inferInstanceAs (Decidable (_ ∧ _))

/-- The lease lengths `_mutation_lease_expiry` accepts. -/
def validLease (leaseSeconds : Nat) : Prop := 1 ≤ leaseSeconds ∧ leaseSeconds ≤ 86400

/-- What `claim_next_product_reconcile_request` makes of the record. -/
def claimRequest (owner : String) (observedAt leaseSeconds : Nat) (record : RequestRecord) :
    RequestRecord :=
  { record with
    state := .running
    updatedAt := observedAt
    leaseOwner := owner
    leaseExpiresAt := some (observedAt + leaseSeconds)
    attempt := record.attempt + 1
    rerequestedWhileRunning := false }

/-- What `renew_product_reconcile_lease` makes of the record. -/
def renewRequest (observedAt leaseSeconds : Nat) (record : RequestRecord) : RequestRecord :=
  { record with leaseExpiresAt := some (observedAt + leaseSeconds) }

/-- What a run was completed as. -/
inductive Outcome
  | done | failed
  deriving Repr, DecidableEq

/-- The state of a record with an outcome. -/
def Outcome.state : Outcome → RequestState
  | done => .done
  | failed => .failed

/-- What `complete_product_reconcile_request` makes of the record. -/
def completeRequest (outcome : Outcome) (plan : Plan) (error : String) (completedAt : Nat)
    (record : RequestRecord) : RequestRecord :=
  { record with
    state := if record.rerequestedWhileRunning then .pending else outcome.state
    -- A deferred or newly requested pass yields to work already waiting.
    requestedAt := if record.rerequestedWhileRunning then completedAt else record.requestedAt
    updatedAt := completedAt
    leaseOwner := ""
    leaseExpiresAt := none
    rerequestedWhileRunning := false
    lastPlan := plan
    lastError := if outcome = .failed then error else "" }

/-- The record is leased to the owner. -/
def IsLeasedTo (owner : String) (record : RequestRecord) : Prop :=
  record.state = .running ∧ record.leaseOwner = owner

/-! ### What happened to a target -/

/-- What a committed transaction did to the record of a target. A claim is known by its owner and
attempt, and a renewal or completion belongs to one. -/
inductive Event
  | folded
  | claimed (owner : String) (attempt : Nat)
  | renewed (owner : String) (attempt : Nat)
  | finished (owner : String) (attempt : Nat)
  deriving Repr, DecidableEq

/-- The owner and attempt of a claim. -/
def Event.claim : Event → Option (String × Nat)
  | claimed owner attempt => some (owner, attempt)
  | _ => none

/-- The latest claim of a target, from its events with the newest first. -/
def latestClaim (past : List Event) : Option (String × Nat) := past.findSome? Event.claim

/-- The events since the latest claim. -/
def sinceClaim (past : List Event) : List Event := past.takeWhile (·.claim.isNone)

/-- The record of a target, and what happened to it. -/
structure Entry where
  row : Option RequestRecord := none
  past : List Event := []
  deriving Repr, DecidableEq

end Launchplane.ProductReconcile
