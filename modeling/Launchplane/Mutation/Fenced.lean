import Launchplane.Mutation.Conduct
import Launchplane.Mutation.Custody

/-!
# Launchplane.Mutation.Fenced

**No effect is lost and none is done twice.** However the calls of many owners
interleave, and whichever answers are lost: only the holder of a target records
effects for it, and what it has recorded keeps everybody else away until the
reservation is over, or somebody has seen since that the effect is absent.
-/

namespace Launchplane.Mutation

open Interaction

variable {ω : Type}

/-! ### What may follow -/

namespace Log

/-- What an acquisition of the target of a record takes. -/
def Admits (log : Log ω) (w : ω) (record : IdempotencyRecord) : Means → Prop
  | .fresh | .superseding => log.vacant record.providerTargetKey = true
  | .reclaimed => False
  | .retried _ => ∃ observation,
      .observed w record.key (log.evidence record.providerTargetKey) observation ∈
        log.since record.providerTargetKey ∧
      observation.outcome = .absent ∧
      ((log.evidence record.providerTargetKey).2 = none ∨ observation.retrySafe = true)

/-- What the end of a reservation takes. -/
def Settles (log : Log ω) (w : ω) (record : IdempotencyRecord) : Ending → Prop
  | .completed => log.Holds w record
  | .adopted => log.Holds w record ∨ ∃ observation,
      .observed w record.key (log.evidence record.providerTargetKey) observation ∈
        log.since record.providerTargetKey ∧ observation.outcome = .present
  | .superseded reservation =>
      reservation = record ∧ record.evidence = log.evidence record.providerTargetKey ∧
        .quiescent w record ∈ log.since record.providerTargetKey

end Log

/-- What the log says before an event. -/
def Event.Follows (older : Log ω) : Event ω → Prop
  | acquired w record means => ¬older.Acquired w ∧ older.Admits w record means
  | checkpointed w record => older.Holds w record ∧ record.providerEffectStartedAt ≠ none
  | dispatched w => ∃ record, checkpointed w record ∈ older
  | released w record => older.Holds w record ∧ (older.evidence record.providerTargetKey).2 = none
  | ended w record ending =>
      older.vacant record.providerTargetKey = false ∧ older.Settles w record ending
  | observed .. | quiescent .. => True

/-- Each event follows from the ones before it. -/
def Log.Fenced : Log ω → Prop
  | [] => True
  | event :: older => event.Follows older ∧ Fenced older

/-! ### What a call knows -/

/-- The owner of the leases of a call. -/
def DurableOperation.owner (operation : DurableOperation) : String := pyStrip operation.leaseOwner

/-- As long as the owner of a record has its target, the event has happened since it took it. -/
def StillSince (owner : ω → String) (log : Log ω) (record : IdempotencyRecord) (event : Event ω) :
    Prop :=
  ∀ v key, owner v = record.leaseOwner → log.holder record.providerTargetKey = some (v, key) →
    event ∈ log.since record.providerTargetKey

section Calls

variable (operation : ω → DurableOperation) {log : Log ω} {w : ω} {stage : Stage}
  {record : IdempotencyRecord} {event : Event ω}

/-- Nothing is running that the owner of a record has. -/
def Waiting (rows : Rows) (record : IdempotencyRecord) : Prop :=
  ∀ key row, rows key = some row → row.leaseOwner = record.leaseOwner → row.state ≠ .running

/-- What a call may rely on that was shown a record. -/
structure Shown (rows : Rows) (log : Log ω) (w : ω) (record : IdempotencyRecord) : Prop where
  unacquired : ¬log.Acquired w
  met : Met (fun w => (operation w).owner) log record
  waiting : record.state = .reconcileRequired → Waiting rows record

/-- What a call in a stage may rely on. -/
def Knows (rows : Rows) (log : Log ω) (w : ω) : Stage → Prop
  | .starting | .reconciling none => ¬log.Acquired w
  | .busy record => Shown operation rows log w record
  | .quiet record => Shown operation rows log w record ∧ record.state = .reconcileRequired ∧
      StillSince (fun w => (operation w).owner) log record (.quiescent w record)
  | .reconciling (some record) => Shown operation rows log w record ∧
      record.state = .reconcileRequired ∧ record.key = (operation w).request.normalizedKey
  | .observed record observation => Shown operation rows log w record ∧
      record.state = .reconcileRequired ∧ StillSince (fun w => (operation w).owner) log record
        (.observed w record.key record.evidence observation)
  | .holding held armed inserted => held.leaseOwner = (operation w).owner ∧
      (armed = true → ∃ record, .checkpointed w record ∈ log) ∧
      (inserted = true → held.providerEffectStartedAt = none)
  | .done => True

variable {operation} {rows rows' : Rows}

theorem Met.cons {owner : ω → String} (h : Met owner log record) : Met owner (event :: log) record := by
  obtain ⟨v, hv, howner⟩ := h
  exact ⟨v, hv.cons, howner⟩

theorem not_acquired_cons (hnew : ∀ record means, event ≠ .acquired w record means)
    (h : ¬log.Acquired w) : ¬Log.Acquired (event :: log) w :=
  fun hacquired => h ((Log.acquired_cons hnew).mp hacquired)

/-- What may happen next, for the rows there are: nobody acquires twice, and only who runs records
an effect. -/
structure Event.Fits (operation : ω → DurableOperation) (rows : Rows) (log : Log ω)
    (event : Event ω) : Prop where
  first : ∀ u record means, event = .acquired u record means → ¬log.Acquired u
  runs : ∀ u record, event = .checkpointed u record → ∃ key row, rows key = some row ∧
    row.state = .running ∧ row.leaseOwner = (operation u).owner

/-- What was seen of a target stays seen: who takes the target has not had it before, and the owner
that had it records no effect any more. -/
theorem StillSince.cons (howner : Function.Injective fun w => (operation w).owner) {seen : Event ω}
    (hshown : Shown operation rows log w record) (hstate : record.state = .reconcileRequired)
    (hfits : event.Fits operation rows log)
    (hfollows : event.Follows log)
    (h : StillSince (fun w => (operation w).owner) log record seen) :
    StillSince (fun w => (operation w).owner) (event :: log) record seen := by
  intro v key hv hholder
  cases htakes : event.takes record.providerTargetKey with
  | false =>
      rw [Log.holder_cons htakes] at hholder
      cases hrecords : event.records record.providerTargetKey with
      | false =>
          rw [Log.since_cons htakes hrecords]
          exact List.mem_cons_of_mem _ (h v key hv hholder)
      | true =>
          cases event with
          | checkpointed u checked =>
              have hsame : checked.providerTargetKey = record.providerTargetKey := by
                simpa [Event.records] using hrecords
              have hholds := hfollows.1.holder
              rw [hsame, hholder] at hholds
              obtain ⟨rfl, -⟩ := Prod.mk.inj (Option.some.inj hholds)
              obtain ⟨key, row, hrow, hrunning, hrowOwner⟩ := hfits.runs v checked rfl
              exact absurd hrunning (hshown.waiting hstate key row hrow (hrowOwner.trans hv))
          | _ => cases hrecords
  | true =>
      cases event with
      | acquired u taken means =>
          have hsame : taken.providerTargetKey = record.providerTargetKey := by
            simpa [Event.takes] using htakes
          simp only [Log.holder, hsame, if_true, Option.some.injEq, Prod.mk.injEq] at hholder
          obtain ⟨met, hmet, hmetOwner⟩ := hshown.met
          obtain rfl := howner (hmetOwner.trans (hholder.1 ▸ hv.symm))
          exact absurd hmet (hfits.first met taken means rfl)
      | _ => cases htakes

/-- An event of somebody else, or one that is no acquisition, leaves what a call knows. -/
theorem Knows.cons (howner : Function.Injective fun w => (operation w).owner)
    (hfits : event.Fits operation rows log) (hfollows : event.Follows log)
    (hnew : ∀ record means, event ≠ .acquired w record means)
    (h : Knows operation rows log w stage) : Knows operation rows (event :: log) w stage := by
  have hshown {record : IdempotencyRecord} (h : Shown operation rows log w record) :
      Shown operation rows (event :: log) w record :=
    ⟨not_acquired_cons hnew h.unacquired, h.met.cons, h.waiting⟩
  cases stage with
  | starting => exact not_acquired_cons hnew h
  | busy record => exact hshown h
  | quiet record => exact ⟨hshown h.1, h.2.1, h.2.2.cons howner h.1 h.2.1 hfits hfollows⟩
  | reconciling record =>
      cases record with
      | none => exact not_acquired_cons hnew h
      | some record => exact ⟨hshown h.1, h.2⟩
  | observed record observation =>
      exact ⟨hshown h.1, h.2.1, h.2.2.cons howner h.1 h.2.1 hfits hfollows⟩
  | holding held armed inserted =>
      refine ⟨h.1, fun harmed => ?_, h.2.2⟩
      obtain ⟨record, hmem⟩ := h.2.1 harmed
      exact ⟨record, List.mem_cons_of_mem _ hmem⟩
  | done => trivial

/-- Nobody runs afterwards who did not before, but for one who has not acquired anything yet. -/
def RunsOnly (operation : ω → DurableOperation) (w : ω) (log : Log ω) (rows rows' : Rows) : Prop :=
  ∀ key row, rows' key = some row → row.state = .running →
    (∃ key row', rows key = some row' ∧ row'.state = .running ∧ row'.leaseOwner = row.leaseOwner) ∨
      ¬log.Acquired w ∧ row.leaseOwner = (operation w).owner

theorem Shown.of_runsOnly {v : ω} (howner : Function.Injective fun w => (operation w).owner)
    (hruns : RunsOnly operation v log rows rows') (h : Shown operation rows log w record) :
    Shown operation rows' log w record where
  unacquired := h.unacquired
  met := h.met
  waiting hstate key row hrow hrowOwner hrunning := by
    rcases hruns key row hrow hrunning with ⟨key, before, hbefore, hrunning, hsame⟩ | ⟨hnot, hv⟩
    · exact h.waiting hstate key before hbefore (hsame.trans hrowOwner) hrunning
    · obtain ⟨met, hmet, hmetOwner⟩ := h.met
      exact hnot (howner (hmetOwner.trans (hrowOwner.symm.trans hv)) ▸ hmet)

/-- What is written leaves what a call knows. -/
theorem Knows.of_runsOnly {v : ω} (howner : Function.Injective fun w => (operation w).owner)
    (hruns : RunsOnly operation v log rows rows') (h : Knows operation rows log w stage) :
    Knows operation rows' log w stage := by
  cases stage with
  | busy record => exact h.of_runsOnly howner hruns
  | quiet record => exact ⟨h.1.of_runsOnly howner hruns, h.2⟩
  | reconciling record =>
      cases record with
      | none => exact h
      | some record => exact ⟨h.1.of_runsOnly howner hruns, h.2⟩
  | observed record observation => exact ⟨h.1.of_runsOnly howner hruns, h.2⟩
  | _ => exact h

/-- The events of a call fit the rows that it leaves. -/
def Log.Fits (operation : ω → DurableOperation) (rows : Rows) : Log ω → Log ω → Prop
  | [], _ => True
  | event :: events, log => event.Fits operation rows (events ++ log) ∧ Fits operation rows events log

/-- What somebody else does leaves what a call knows. -/
theorem Knows.append (howner : Function.Injective fun w => (operation w).owner) {events : Log ω}
    (hfits : Log.Fits operation rows events log) (hfenced : Log.Fenced (events ++ log))
    (hothers : ∀ event ∈ events, event.actor ≠ w) (h : Knows operation rows log w stage) :
    Knows operation rows (events ++ log) w stage := by
  induction events with
  | nil => exact h
  | cons event events ih =>
      obtain ⟨hfollows, hfenced⟩ := hfenced
      refine (ih hfits.2 hfenced fun event hevent =>
        hothers event (List.mem_cons_of_mem _ hevent)).cons howner hfits.1 hfollows ?_
      rintro record means rfl
      exact hothers _ List.mem_cons_self rfl

end Calls

theorem actor_of_mem_events {call : OperationCall} {response : OperationResponse call} {w : ω}
    {event : Event ω} (h : event ∈ call.events w response) : event.actor = w := by
  cases call <;> simp only [OperationCall.events] at h <;> grind [Event.actor]

end Launchplane.Mutation
