import Mathlib.Logic.Function.Basic
import Mathlib.Logic.Relation
import Launchplane.ProductReconcile.Requests

/-!
# Launchplane.ProductReconcile.Statements

**The transactions, statement by statement.** A session runs one transaction. It
sees the rows that are committed when a statement runs, holds what it locked until
it ends, and publishes its writes when it commits; that it may be ended at any
time is how a statement fails, a connection is lost or a process dies.

A worker runs one claim at a time: it claims, renews and completes the run it has,
in any number of sessions, and turns to the next claim when none of them is left.
When it dies, a commit that is already under way can still take effect.

The database locks out nobody: an advisory lock stops those who ask for it, a row
lock those who lock or write the row. Reading a row needs neither.
-/

namespace Launchplane.ProductReconcile

/-- A step of a transaction that folds requests: every caller of
`_fold_product_reconcile_request` locks the target before it folds. -/
inductive FoldStep
  | lock (key : String)
  | fold (target : Target) (requestedAt : Nat) (deliveryId : String)
  deriving Repr, DecidableEq

/-- The claim a worker runs. -/
structure Run where
  owner : String
  key : String
  attempt : Nat
  deriving Repr, DecidableEq

/-- What a worker does with its run: `renew_product_reconcile_lease` or
`complete_product_reconcile_request`, which go through the same statements. -/
inductive HolderCall
  | renew (leaseSeconds : Nat)
  | complete (outcome : Outcome) (plan : Plan) (error : String)
  deriving Repr, DecidableEq

/-- What the call makes of the record. -/
def HolderCall.apply (observedAt : Nat) : HolderCall → RequestRecord → RequestRecord
  | renew leaseSeconds => renewRequest observedAt leaseSeconds
  | complete outcome plan error => completeRequest outcome plan error observedAt

/-- What happens to the target. -/
def HolderCall.event (run : Run) : HolderCall → Event
  | renew _ => .renewed run.owner run.attempt
  | complete _ _ _ => .finished run.owner run.attempt

/-- The lease length is checked when a lease is renewed. -/
def HolderCall.Valid : HolderCall → Prop
  | renew leaseSeconds => validLease leaseSeconds
  | complete _ _ _ => True

/-- Where a transaction stands, with its local variables. -/
inductive Work
  /-- A folding transaction, with the steps that are left. -/
  | folding (todo : List FoldStep)
  /-- It has read the row it folds into. -/
  | foldRead (target : Target) (requestedAt : Nat) (deliveryId : String)
      (row : Option RequestRecord) (todo : List FoldStep)
  /-- A claim, before it read the clock. -/
  | claiming (owner : String) (leaseSeconds : Nat)
  | claimObserved (owner : String) (leaseSeconds observedAt : Nat)
  /-- The rows that are left to try. -/
  | claimListed (owner : String) (leaseSeconds observedAt : Nat) (rows : List RequestRecord)
  | claimLocked (owner : String) (leaseSeconds observedAt : Nat) (record : RequestRecord)
  /-- A renewal or completion, before it has the lock. -/
  | holding (run : Run) (call : HolderCall)
  | holdLocked (run : Run) (call : HolderCall)
  | holdRead (run : Run) (call : HolderCall) (record : RequestRecord)
  | holdObserved (run : Run) (call : HolderCall) (record : RequestRecord) (observedAt : Nat)
  /-- All is written, for a claim with what it returns. -/
  | written (claimed : Option Run)
  /-- `COMMIT` was sent. -/
  | committing (claimed : Option Run)
  deriving DecidableEq

/-- A transaction. -/
structure Session where
  /-- The worker that runs it, if it is not a requester's. -/
  worker : Option String := none
  /-- Its process still runs. -/
  alive : Bool := true
  work : Work
  advisory : List String := []
  rowLocks : List String := []
  /-- What it wrote, and what that does to the target. -/
  writes : String → Option (RequestRecord × Event) := fun _ => none

/-- The commit was sent: nothing more depends on the process. -/
def Session.isCommitting (session : Session) : Bool :=
  match session.work with
  | .committing _ => true
  | _ => false

/-- What a worker is doing. -/
inductive Worker
  | idle
  | claiming (session : Nat)
  | running (run : Run)
  deriving Repr, DecidableEq

/-- The committed rows with what happened to them, the sessions, the workers, and the clock of the
database. -/
structure State where
  entries : String → Entry := fun _ => {}
  sessions : Nat → Option Session := fun _ => none
  workers : String → Worker := fun _ => .idle
  clock : Nat

namespace State

/-- The state with another session `n`. -/
def put (s : State) (n : Nat) (session : Option Session) : State :=
  { s with sessions := Function.update s.sessions n session }

/-- The state with a worker doing something else. -/
def setWorker (s : State) (owner : String) (worker : Worker) : State :=
  { s with workers := Function.update s.workers owner worker }

/-- No session but `n` holds the advisory lock. -/
def AdvisoryFree (s : State) (n : Nat) (key : String) : Prop :=
  ∀ m session, m ≠ n → s.sessions m = some session → key ∉ session.advisory

/-- No session but `n` holds the row lock. -/
def RowFree (s : State) (n : Nat) (key : String) : Prop :=
  ∀ m session, m ≠ n → s.sessions m = some session → key ∉ session.rowLocks

/-- The entries when a session's writes are published. -/
def published (s : State) (session : Session) (key : String) : Entry :=
  match session.writes key with
  | some (record, event) => { row := some record, past := event :: (s.entries key).past }
  | none => s.entries key

/-- The workers when a claim was committed: one that waits for the answer has its run. -/
def answered (s : State) (n : Nat) : Option Run → String → Worker
  | none => s.workers
  | some run =>
    if s.workers run.owner = .claiming n then Function.update s.workers run.owner (.running run)
    else s.workers

/-- The workers when a session ended without a commit: a claim that was waited for has failed. -/
def dismissed (s : State) (n : Nat) (owner : String) : Worker :=
  if s.workers owner = .claiming n then .idle else s.workers owner

/-- The sessions when a worker died: only its commits go on. -/
def orphaned (s : State) (owner : String) (n : Nat) : Option Session :=
  (s.sessions n).map fun session =>
    if session.worker = some owner then { session with alive := false } else session

end State

/-- A session with a write of its own. -/
def Session.write (session : Session) (work : Work) (record : RequestRecord) (event : Event) :
    Session :=
  { session with
    work
    rowLocks := record.targetKey :: session.rowLocks
    writes := Function.update session.writes record.targetKey (some (record, event)) }

/-- One step: the clock moves, a session begins, performs a statement or ends, a worker dies or is
done with a run. -/
inductive Step (s : State) : State → Prop
  | tick {clock : Nat} (h : s.clock ≤ clock) : Step s { s with clock }
  /-- A statement fails, or the connection is lost. -/
  | abort {n : Nat} {session : Session} (h : s.sessions n = some session) :
      Step s { s.put n none with workers := s.dismissed n }
  | crash (owner : String) :
      Step s { s.setWorker owner .idle with sessions := s.orphaned owner }
  /-- A worker goes on to the next claim. -/
  | endRun {owner : String} {run : Run} (hrun : s.workers owner = .running run)
      (hdone : ∀ n session, s.sessions n = some session → session.worker = some owner →
        session.alive = true → session.isCommitting = true) :
      Step s (s.setWorker owner .idle)
  | sendCommit {n : Nat} {session : Session} {claimed : Option Run}
      (h : s.sessions n = some session) (halive : session.alive = true)
      (hwork : session.work = .written claimed) :
      Step s (s.put n (some { session with work := .committing claimed }))
  | commit {n : Nat} {session : Session} {claimed : Option Run}
      (h : s.sessions n = some session) (hwork : session.work = .committing claimed) :
      Step s { s.put n none with
        entries := s.published session
        workers := s.answered n claimed }
  -- request_product_reconcile, and the other callers of _fold_product_reconcile_request
  | beginFold {n : Nat} (h : s.sessions n = none) (todo : List FoldStep) :
      Step s (s.put n (some { work := .folding todo }))
  | lockAdvisory {n : Nat} {session : Session} {key : String} {todo : List FoldStep}
      (h : s.sessions n = some session) (halive : session.alive = true)
      (hwork : session.work = .folding (.lock key :: todo)) (hfree : s.AdvisoryFree n key) :
      Step s (s.put n (some
        { session with work := .folding todo, advisory := key :: session.advisory }))
  | readRow {n : Nat} {session : Session} {target : Target} {requestedAt : Nat}
      {deliveryId : String} {todo : List FoldStep} (h : s.sessions n = some session)
      (halive : session.alive = true)
      (hwork : session.work = .folding (.fold target requestedAt deliveryId :: todo))
      (hlocked : target.key ∈ session.advisory) (hfirst : session.writes target.key = none) :
      Step s (s.put n (some
        { session with
          work := .foldRead target requestedAt deliveryId (s.entries target.key).row todo }))
  | mergeFold {n : Nat} {session : Session} {target : Target} {requestedAt : Nat}
      {deliveryId : String} {row : Option RequestRecord} {todo : List FoldStep}
      (h : s.sessions n = some session) (halive : session.alive = true)
      (hwork : session.work = .foldRead target requestedAt deliveryId row todo)
      (hfree : s.RowFree n (foldRequest target requestedAt deliveryId row).targetKey) :
      Step s (s.put n (some (session.write (.folding todo)
        (foldRequest target requestedAt deliveryId row) .folded)))
  | folded {n : Nat} {session : Session} (h : s.sessions n = some session)
      (halive : session.alive = true) (hwork : session.work = .folding []) :
      Step s (s.put n (some { session with work := .written none }))
  -- claim_next_product_reconcile_request
  | beginClaim {n : Nat} {owner : String} (h : s.sessions n = none)
      (hidle : s.workers owner = .idle) (hnamed : owner ≠ "") (leaseSeconds : Nat) :
      Step s ((s.put n (some
        { worker := some owner, work := .claiming owner leaseSeconds })).setWorker owner
          (.claiming n))
  | observeClaim {n : Nat} {session : Session} {owner : String} {leaseSeconds : Nat}
      (h : s.sessions n = some session) (halive : session.alive = true)
      (hwork : session.work = .claiming owner leaseSeconds) (hlease : validLease leaseSeconds) :
      Step s (s.put n (some
        { session with work := .claimObserved owner leaseSeconds s.clock }))
  /-- The rows are locked as they are read; locked ones are skipped. Which of the others are
  returned, and in which order, makes no difference. -/
  | selectClaimable {n : Nat} {session : Session} {owner : String} {leaseSeconds observedAt : Nat}
      {rows : List RequestRecord} (h : s.sessions n = some session)
      (halive : session.alive = true)
      (hwork : session.work = .claimObserved owner leaseSeconds observedAt)
      (hlimit : rows.length ≤ 20)
      (hrows : ∀ record ∈ rows, (s.entries record.targetKey).row = some record ∧
        Claimable observedAt record ∧ s.RowFree n record.targetKey) :
      Step s (s.put n (some
        { session with
          work := .claimListed owner leaseSeconds observedAt rows
          rowLocks := rows.map (·.targetKey) ++ session.rowLocks }))
  /-- A fold that holds the target's lock read the row before: it is skipped. -/
  | skipLocked {n m : Nat} {session other : Session} {owner : String}
      {leaseSeconds observedAt : Nat} {record : RequestRecord} {rows : List RequestRecord}
      (h : s.sessions n = some session) (halive : session.alive = true)
      (hwork : session.work = .claimListed owner leaseSeconds observedAt (record :: rows))
      (hother : s.sessions m = some other) (hne : m ≠ n)
      (hheld : record.targetKey ∈ other.advisory) :
      Step s (s.put n (some
        { session with work := .claimListed owner leaseSeconds observedAt rows }))
  | tryLock {n : Nat} {session : Session} {owner : String} {leaseSeconds observedAt : Nat}
      {record : RequestRecord} {rows : List RequestRecord} (h : s.sessions n = some session)
      (halive : session.alive = true)
      (hwork : session.work = .claimListed owner leaseSeconds observedAt (record :: rows))
      (hfree : s.AdvisoryFree n record.targetKey) :
      Step s (s.put n (some
        { session with
          work := .claimLocked owner leaseSeconds observedAt record
          advisory := record.targetKey :: session.advisory }))
  | mergeClaim {n : Nat} {session : Session} {owner : String} {leaseSeconds observedAt : Nat}
      {record : RequestRecord} (h : s.sessions n = some session) (halive : session.alive = true)
      (hwork : session.work = .claimLocked owner leaseSeconds observedAt record)
      (hfree : s.RowFree n record.targetKey) :
      Step s (s.put n (some (session.write
        (.written (some ⟨owner, record.targetKey, record.attempt + 1⟩))
        (claimRequest owner observedAt leaseSeconds record)
        (.claimed owner (record.attempt + 1)))))
  -- renew_product_reconcile_lease and complete_product_reconcile_request
  | beginHold {n : Nat} {owner : String} {run : Run} (h : s.sessions n = none)
      (hrun : s.workers owner = .running run) (call : HolderCall) :
      Step s (s.put n (some { worker := some owner, work := .holding run call }))
  | lockHold {n : Nat} {session : Session} {run : Run} {call : HolderCall}
      (h : s.sessions n = some session) (halive : session.alive = true)
      (hwork : session.work = .holding run call) (hfree : s.AdvisoryFree n run.key) :
      Step s (s.put n (some
        { session with work := .holdLocked run call, advisory := run.key :: session.advisory }))
  | selectHeld {n : Nat} {session : Session} {run : Run} {call : HolderCall}
      {record : RequestRecord} (h : s.sessions n = some session) (halive : session.alive = true)
      (hwork : session.work = .holdLocked run call) (hfree : s.RowFree n run.key)
      (hrow : (s.entries run.key).row = some record) (hleased : IsLeasedTo run.owner record) :
      Step s (s.put n (some
        { session with
          work := .holdRead run call record, rowLocks := run.key :: session.rowLocks }))
  | observeHold {n : Nat} {session : Session} {run : Run} {call : HolderCall}
      {record : RequestRecord} (h : s.sessions n = some session) (halive : session.alive = true)
      (hwork : session.work = .holdRead run call record) (hvalid : call.Valid) :
      Step s (s.put n (some { session with work := .holdObserved run call record s.clock }))
  | mergeHold {n : Nat} {session : Session} {run : Run} {call : HolderCall}
      {record : RequestRecord} {observedAt : Nat} (h : s.sessions n = some session)
      (halive : session.alive = true)
      (hwork : session.work = .holdObserved run call record observedAt)
      (hfree : s.RowFree n record.targetKey) :
      Step s (s.put n (some (session.write (.written none) (call.apply observedAt record)
        (call.event run))))

/-- Nothing was requested yet. -/
def initial (clock : Nat) : State := { clock }

/-- The states that can be reached. -/
def Reaches (clock : Nat) : State → Prop := Relation.ReflTransGen Step (initial clock)

end Launchplane.ProductReconcile
