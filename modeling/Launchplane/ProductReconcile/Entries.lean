import Mathlib.Data.List.Pairwise
import Launchplane.ProductReconcile.Statements

/-!
# Launchplane.ProductReconcile.Entries

**One target under one write.** What a record says about what happened to its
target, and that each write of a transaction keeps it so, provided the write was
made from the committed record. That it is made from the committed record is the
business of `NeverLost`.
-/

namespace Launchplane.ProductReconcile

/-! ### The past of a target -/

@[simp] theorem latestClaim_cons_folded {past : List Event} :
    latestClaim (.folded :: past) = latestClaim past := rfl

@[simp] theorem latestClaim_cons_claimed {past : List Event} {owner : String} {attempt : Nat} :
    latestClaim (.claimed owner attempt :: past) = some (owner, attempt) := rfl

@[simp] theorem latestClaim_cons_renewed {past : List Event} {owner : String} {attempt : Nat} :
    latestClaim (.renewed owner attempt :: past) = latestClaim past := rfl

@[simp] theorem latestClaim_cons_finished {past : List Event} {owner : String} {attempt : Nat} :
    latestClaim (.finished owner attempt :: past) = latestClaim past := rfl

@[simp] theorem sinceClaim_cons_folded {past : List Event} :
    sinceClaim (.folded :: past) = .folded :: sinceClaim past := rfl

@[simp] theorem sinceClaim_cons_claimed {past : List Event} {owner : String} {attempt : Nat} :
    sinceClaim (.claimed owner attempt :: past) = [] := rfl

@[simp] theorem sinceClaim_cons_renewed {past : List Event} {owner : String} {attempt : Nat} :
    sinceClaim (.renewed owner attempt :: past) = .renewed owner attempt :: sinceClaim past := rfl

@[simp] theorem sinceClaim_cons_finished {past : List Event} {owner : String} {attempt : Nat} :
    sinceClaim (.finished owner attempt :: past) = .finished owner attempt :: sinceClaim past := rfl

/-- The attempts of the claims of a target, the latest first. -/
def attempts (past : List Event) : List Nat := past.filterMap fun event => event.claim.map (·.2)

@[simp] theorem attempts_nil : attempts [] = [] := rfl

@[simp] theorem attempts_cons_folded {past : List Event} :
    attempts (.folded :: past) = attempts past := rfl

@[simp] theorem attempts_cons_claimed {past : List Event} {owner : String} {attempt : Nat} :
    attempts (.claimed owner attempt :: past) = attempt :: attempts past := rfl

@[simp] theorem attempts_cons_renewed {past : List Event} {owner : String} {attempt : Nat} :
    attempts (.renewed owner attempt :: past) = attempts past := rfl

@[simp] theorem attempts_cons_finished {past : List Event} {owner : String} {attempt : Nat} :
    attempts (.finished owner attempt :: past) = attempts past := rfl

/-! ### What a record says -/

/-- The record tells the truth about its requests: it counts them, it is settled only by the latest
claim and only when nothing was requested since that claim, and while it runs it remembers that
something was. -/
structure EntrySafe (entry : Entry) : Prop where
  counted : ∀ record ∈ entry.row, record.requestCount = entry.past.count .folded
  settled : ∀ record ∈ entry.row, record.state = .done ∨ record.state = .failed →
    ∃ owner attempt, latestClaim entry.past = some (owner, attempt) ∧
      .finished owner attempt ∈ sinceClaim entry.past ∧ .folded ∉ sinceClaim entry.past
  remembered : ∀ record ∈ entry.row, record.state = .running →
    .folded ∈ sinceClaim entry.past → record.rerequestedWhileRunning = true
  /-- Claims are told apart by their attempts. -/
  numbered : (attempts entry.past).Pairwise (· > ·)

/-- A record that tells the truth, with what its writes rely on. -/
structure EntryInv (key : String) (entry : Entry) : Prop extends EntrySafe entry where
  fresh : entry.row = none → entry.past = []
  keyed : ∀ record ∈ entry.row, record.targetKey = key
  leased : ∀ record ∈ entry.row, record.state = .running →
    latestClaim entry.past = some (record.leaseOwner, record.attempt) ∧
      record.leaseExpiresAt ≠ none
  reached : ∀ record ∈ entry.row, ∀ attempt ∈ attempts entry.past, attempt ≤ record.attempt

theorem entryInv_empty (key : String) : EntryInv key {} where
  counted := by simp
  settled := by simp
  remembered := by simp
  numbered := .nil
  fresh := fun _ => rfl
  keyed := by simp
  leased := by simp
  reached := by simp

/-! ### One write -/

/-- A write that was made from the committed record. -/
inductive Change (key : String) (clock : Nat) (entry : Entry) : RequestRecord → Event → Prop
  | folded {target : Target} {requestedAt : Nat} {deliveryId : String} (htarget : target.key = key) :
      Change key clock entry (foldRequest target requestedAt deliveryId entry.row) .folded
  | claimed {owner : String} {observedAt leaseSeconds : Nat} {record : RequestRecord}
      (hrow : entry.row = some record) (hclaimable : Claimable observedAt record)
      (hclock : observedAt ≤ clock) :
      Change key clock entry (claimRequest owner observedAt leaseSeconds record)
        (.claimed owner (record.attempt + 1))
  | held {run : Run} {call : HolderCall} {observedAt : Nat} {record : RequestRecord}
      (hrow : entry.row = some record) (hrunning : record.state = .running)
      (hlatest : latestClaim entry.past = some (run.owner, run.attempt)) :
      Change key clock entry (call.apply observedAt record) (call.event run)

theorem Change.mono {key : String} {clock clock' : Nat} {entry : Entry} {record : RequestRecord}
    {event : Event} (h : Change key clock entry record event) (hle : clock ≤ clock') :
    Change key clock' entry record event := by
  cases h with
  | folded htarget => exact .folded htarget
  | claimed hrow hclaimable hclock => exact .claimed hrow hclaimable (Nat.le_trans hclock hle)
  | held hrow hrunning hlatest => exact .held hrow hrunning hlatest

theorem foldRequest_none (target : Target) (requestedAt : Nat) (deliveryId : String) :
    (foldRequest target requestedAt deliveryId none).requestCount = 1 ∧
      (foldRequest target requestedAt deliveryId none).state = .pending ∧
      (foldRequest target requestedAt deliveryId none).targetKey = target.key ∧
      (foldRequest target requestedAt deliveryId none).attempt = 0 := by
  simp [foldRequest]

/-- A fold into a record counts the request. A running record goes on under its lease and remembers
it; any other is pending. -/
theorem foldRequest_some (target : Target) (requestedAt : Nat) (deliveryId : String)
    (existing : RequestRecord) :
    let record := foldRequest target requestedAt deliveryId (some existing)
    record.requestCount = existing.requestCount + 1 ∧
      record.targetKey = existing.targetKey ∧ record.attempt = existing.attempt ∧
      record.leaseOwner = existing.leaseOwner ∧
      record.leaseExpiresAt = existing.leaseExpiresAt ∧
      ((record.state = .running ∧ existing.state = .running ∧
          record.rerequestedWhileRunning = true) ∨
        record.state = .pending) := by
  cases hstate : existing.state <;> simp [foldRequest, hstate]

theorem EntryInv.folded {key : String} {entry : Entry} (hinv : EntryInv key entry)
    {target : Target} {requestedAt : Nat} {deliveryId : String} (htarget : target.key = key) :
    EntryInv key ⟨some (foldRequest target requestedAt deliveryId entry.row),
      .folded :: entry.past⟩ := by
  cases hrow : entry.row with
  | none =>
    have hpast : entry.past = [] := hinv.fresh hrow
    obtain ⟨hcount, hstate, hkey, hattempt⟩ :=
      foldRequest_none target requestedAt deliveryId
    constructor
    · constructor <;> simp [hpast, hcount, hstate, List.count]
    all_goals simp [hpast, hstate, hkey, hattempt, htarget]
  | some existing =>
    obtain ⟨hcount, hkey, hattempt, howner, hexpiry, hstate⟩ :=
      foldRequest_some target requestedAt deliveryId existing
    have hmem : existing ∈ entry.row := hrow
    constructor
    · constructor
      · simp [hcount, hinv.counted existing hmem]
      · obtain ⟨hrunning, -, -⟩ | hpending := hstate
        · simp [hrunning]
        · simp [hpending]
      · obtain ⟨-, -, hflag⟩ | hpending := hstate
        · simp [hflag]
        · simp [hpending]
      · simpa using hinv.numbered
    · simp
    · simpa [hkey] using hinv.keyed existing hmem
    · obtain ⟨-, hwas, -⟩ | hpending := hstate
      · simpa [howner, hattempt, hexpiry] using fun _ => hinv.leased existing hmem hwas
      · simp [hpending]
    · simpa [hattempt] using hinv.reached existing hmem

theorem EntryInv.claimed {key : String} {entry : Entry} (hinv : EntryInv key entry)
    {owner : String} {observedAt leaseSeconds : Nat} {record : RequestRecord}
    (hrow : entry.row = some record) :
    EntryInv key ⟨some (claimRequest owner observedAt leaseSeconds record),
      .claimed owner (record.attempt + 1) :: entry.past⟩ := by
  have hmem : record ∈ entry.row := hrow
  have hreached := hinv.reached record hmem
  constructor
  · constructor
    · simpa [claimRequest] using hinv.counted record hmem
    · simp [claimRequest]
    · simp
    · have hbelow : ∀ attempt ∈ attempts entry.past, attempt < record.attempt + 1 :=
        fun attempt h => Nat.lt_succ_of_le (hreached attempt h)
      exact List.pairwise_cons.mpr ⟨hbelow, hinv.numbered⟩
  · simp
  · simpa [claimRequest] using hinv.keyed record hmem
  · simp [claimRequest]
  · simpa [claimRequest] using fun attempt h => Nat.le_succ_of_le (hreached attempt h)

/-- A renewal only moves the expiry. -/
theorem EntryInv.renewed {key : String} {entry : Entry} (hinv : EntryInv key entry)
    {run : Run} {observedAt leaseSeconds : Nat} {record : RequestRecord}
    (hrow : entry.row = some record) :
    EntryInv key ⟨some (renewRequest observedAt leaseSeconds record),
      .renewed run.owner run.attempt :: entry.past⟩ := by
  have hmem : record ∈ entry.row := hrow
  constructor
  · constructor
    · simpa [renewRequest] using hinv.counted record hmem
    · simpa [renewRequest] using hinv.settled record hmem
    · simpa [renewRequest] using hinv.remembered record hmem
    · simpa using hinv.numbered
  · simp
  · simpa [renewRequest] using hinv.keyed record hmem
  · simpa [renewRequest] using fun h => (hinv.leased record hmem h).1
  · simpa [renewRequest] using hinv.reached record hmem

/-- A completion settles the record only when nothing was requested since the claim. -/
theorem EntryInv.finished {key : String} {entry : Entry} (hinv : EntryInv key entry)
    {run : Run} {outcome : Outcome} {plan : Plan} {error : String} {completedAt : Nat}
    {record : RequestRecord} (hrow : entry.row = some record) (hrunning : record.state = .running)
    (hclaim : latestClaim entry.past = some (run.owner, run.attempt)) :
    EntryInv key ⟨some (completeRequest outcome plan error completedAt record),
      .finished run.owner run.attempt :: entry.past⟩ := by
  have hmem : record ∈ entry.row := hrow
  have hstopped : (completeRequest outcome plan error completedAt record).state ≠ .running := by
    cases hflag : record.rerequestedWhileRunning <;> cases outcome <;>
      simp [completeRequest, hflag, Outcome.state]
  constructor
  · constructor
    · simpa [completeRequest] using hinv.counted record hmem
    · intro settled hsettled hstate
      cases hsettled
      have hflag : record.rerequestedWhileRunning = false := by
        cases hflag : record.rerequestedWhileRunning
        · rfl
        · simp [completeRequest, hflag] at hstate
      have hnone : .folded ∉ sinceClaim entry.past := fun hfolded => by
        simp [hinv.remembered record hmem hrunning hfolded] at hflag
      exact ⟨run.owner, run.attempt, by simp [hclaim], by simp, by simpa using hnone⟩
    · simp [hstopped]
    · simpa using hinv.numbered
  · simp
  · simpa [completeRequest] using hinv.keyed record hmem
  · simp [hstopped]
  · simpa [completeRequest] using hinv.reached record hmem

/-- Every write keeps what the record says. -/
theorem Change.step {key : String} {clock : Nat} {entry : Entry} {record : RequestRecord}
    {event : Event} (h : Change key clock entry record event) (hinv : EntryInv key entry) :
    EntryInv key ⟨some record, event :: entry.past⟩ := by
  cases h with
  | folded htarget => exact hinv.folded htarget
  | claimed hrow => exact hinv.claimed hrow
  | @held run call observedAt record hrow hrunning hlatest =>
    cases call with
    | renew leaseSeconds => exact hinv.renewed hrow
    | complete outcome plan error => exact hinv.finished hrow hrunning hlatest

/-- What may happen to a target: it is claimed only when no lease on it is left, and renewed or
finished only by its latest claim. -/
def EventSafe (clock : Nat) (entry : Entry) : Event → Prop
  | .folded => True
  | .claimed _ _ => ∀ record ∈ entry.row, record.state = .running →
      ∃ expiry, record.leaseExpiresAt = some expiry ∧ expiry < clock
  | .renewed owner attempt | .finished owner attempt =>
    latestClaim entry.past = some (owner, attempt)

theorem Change.eventSafe {key : String} {clock : Nat} {entry : Entry} {record : RequestRecord}
    {event : Event} (h : Change key clock entry record event) (hinv : EntryInv key entry) :
    EventSafe clock entry event := by
  cases h with
  | folded => trivial
  | @claimed owner observedAt leaseSeconds record hrow hclaimable hclock =>
    intro held hheld hrunning
    have hsame : held = record := Option.some.inj (hheld.symm.trans hrow)
    obtain ⟨expiry, hexpiry⟩ :=
      Option.ne_none_iff_exists'.mp (hinv.leased held hheld hrunning).2
    obtain ⟨-, hpending | ⟨-, hexpired⟩⟩ := hclaimable
    · simp [hsame, hpending] at hrunning
    · exact ⟨expiry, hexpiry, Nat.lt_of_lt_of_le (hexpired expiry (hsame ▸ hexpiry)) hclock⟩
  | @held run call observedAt record hrow hrunning hlatest => cases call <;> exact hlatest

end Launchplane.ProductReconcile
