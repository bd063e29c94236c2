import Launchplane.Outbox.World

/-!
# Launchplane.Outbox.Log

**What the log of the world says**, the newest event first: under which lease a
marker was stored, what became of a send, and how a lease ended.
-/

namespace Launchplane.Outbox

/-- The events of one worker. -/
def ownEvents (w : LeaseOwner) (log : List OutboxEvent) : List OutboxEvent :=
  log.filter (·.worker = w)

section Own

variable {w : LeaseOwner} {event : OutboxEvent} {log : List OutboxEvent}

@[simp] theorem ownEvents_nil : ownEvents w [] = [] := rfl

@[simp] theorem ownEvents_append (newer older : List OutboxEvent) :
    ownEvents w (newer ++ older) = ownEvents w newer ++ ownEvents w older :=
  List.filter_append ..

theorem ownEvents_cons_of_worker (h : event.worker = w) :
    ownEvents w (event :: log) = event :: ownEvents w log :=
  List.filter_cons_of_pos (by simpa using h)

theorem ownEvents_cons_of_ne (h : event.worker ≠ w) :
    ownEvents w (event :: log) = ownEvents w log :=
  List.filter_cons_of_neg (by simpa using h)

end Own

/-- The row is leased to a worker, and the lease has not run out. -/
def UnderLease (w : LeaseOwner) (row : OutboxDeliveryRow) (now : Nat) : Prop :=
  row.record.state = .running ∧ row.record.leaseOwner = w.text ∧
    ∃ expiresAt, row.record.leaseExpiresAt = some expiresAt ∧ now < expiresAt

/-- The last thing a worker did is to store its marker for a delivery, under its live lease. -/
def JustMarked (w : LeaseOwner) (deliveryId : String) (log : List OutboxEvent) : Prop :=
  ∃ row now own, ownEvents w log = .marked w row now :: own ∧
    row.record.deliveryId = deliveryId ∧ row.record.providerOperationKey ≠ "" ∧
    UnderLease w row now

/-- The two things a worker did first after its send: the send was refused, and it completed the
delivery. -/
def RefusedThenCompleted (w : LeaseOwner) (deliveryId : String) (log : List OutboxEvent) : Prop :=
  ∃ own row now, ownEvents w log = own ++ [.completed w row now, .answered w deliveryId true] ∧
    row.record.deliveryId = deliveryId

/-- A worker completed the delivery of a lease. -/
def Released (w : LeaseOwner) (row : OutboxDeliveryRow) (log : List OutboxEvent) : Prop :=
  ∃ completed now, .completed w completed now ∈ log ∧
    completed.record.deliveryId = row.record.deliveryId ∧
    completed.record.attempt = row.record.attempt

theorem Released.cons {w : LeaseOwner} {row : OutboxDeliveryRow} {log : List OutboxEvent}
    (h : Released w row log) (event : OutboxEvent) : Released w row (event :: log) := by
  obtain ⟨completed, now, hmem, hrest⟩ := h
  exact ⟨completed, now, List.mem_cons_of_mem _ hmem, hrest⟩

/-- A send of a delivery that was not refused and then completed by its sender. `mid` is what
happened since it was started. -/
def OpenSend (log : List OutboxEvent) (deliveryId : String) (w : LeaseOwner) (route : SendRoute)
    (mid : List OutboxEvent) : Prop :=
  (∃ older, log = mid ++ .started w deliveryId route :: older) ∧
    ¬ RefusedThenCompleted w deliveryId mid

variable {w : LeaseOwner} {deliveryId : String} {route : SendRoute} {event : OutboxEvent}
  {log mid : List OutboxEvent}

theorem RefusedThenCompleted.cons (h : RefusedThenCompleted w deliveryId log)
    (event : OutboxEvent) : RefusedThenCompleted w deliveryId (event :: log) := by
  obtain ⟨own, row, now, hown, hid⟩ := h
  by_cases hworker : event.worker = w
  · exact ⟨event :: own, row, now, by rw [ownEvents_cons_of_worker hworker, hown]; rfl, hid⟩
  · exact ⟨own, row, now, by rw [ownEvents_cons_of_ne hworker, hown], hid⟩

/-- A send that is open after an event was just started, or was open before. -/
theorem OpenSend.of_cons (h : OpenSend (event :: log) deliveryId w route mid) :
    event = .started w deliveryId route ∧ mid = [] ∨
      ∃ mid', mid = event :: mid' ∧ OpenSend log deliveryId w route mid' := by
  obtain ⟨⟨older, hlog⟩, hopen⟩ := h
  cases mid with
  | nil =>
      obtain ⟨rfl, -⟩ := List.cons.inj hlog
      exact .inl ⟨rfl, rfl⟩
  | cons event' mid' =>
      obtain ⟨rfl, htail⟩ := List.cons.inj hlog
      exact .inr ⟨mid', rfl, ⟨older, htail⟩, fun hrefused => hopen (hrefused.cons event)⟩

/-! ### What a log must say -/

/-- What must have happened before a send is started. -/
structure SendLaw (w : LeaseOwner) (deliveryId : String) (route : SendRoute)
    (log : List OutboxEvent) : Prop where
  marked : JustMarked w deliveryId log
  single : ∀ mid w' route' older, log = mid ++ .started w' deliveryId route' :: older →
    route' = .discordWebhook ∧ route = .discordWebhook ∧ RefusedThenCompleted w' deliveryId mid

/-- What must have happened before a delivery is claimed: every earlier lease of it has ended. -/
structure LeaseLaw (w : LeaseOwner) (row : OutboxDeliveryRow) (now : Nat)
    (log : List OutboxEvent) : Prop where
  leased : UnderLease w row now
  ended : ∀ mid w' row' now' older, log = mid ++ .claimed w' row' now' :: older →
    row'.record.deliveryId = row.record.deliveryId →
      Released w' row' mid ∨ ∃ expiresAt, row'.record.leaseExpiresAt = some expiresAt ∧
        expiresAt < now

/-- What must have happened before an event. -/
def EventLaw (log : List OutboxEvent) : OutboxEvent → Prop
  | .claimed w row now => LeaseLaw w row now log
  | .started w deliveryId route => SendLaw w deliveryId route log
  | _ => True

/-- Every event of the log came after what it must come after. -/
def Lawful (log : List OutboxEvent) : Prop :=
  ∀ newer event older, log = newer ++ event :: older → EventLaw older event

theorem lawful_nil : Lawful [] := by
  intro newer event older h
  cases newer <;> cases h

theorem Lawful.cons (h : Lawful log) (hevent : EventLaw log event) : Lawful (event :: log) := by
  intro newer event' older hlog
  cases newer with
  | nil =>
      obtain ⟨rfl, rfl⟩ := List.cons.inj hlog
      exact hevent
  | cons first newer =>
      obtain ⟨rfl, rfl⟩ := List.cons.inj hlog
      exact h newer event' older rfl

end Launchplane.Outbox
