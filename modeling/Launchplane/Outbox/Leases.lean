import Launchplane.Outbox.Sends

/-!
# Launchplane.Outbox.Leases

**The invariant of the log**: a lease that was given has been released, has run
out, or is the one that stands in the row. With the invariant of the sends, every
event of the log came after what it must come after (`Machine.Sound`).
-/

namespace Launchplane.Outbox

namespace Machine

/-- What became of a lease, as of now. -/
def LeaseSettled (m : Machine) (w : LeaseOwner) (row : OutboxDeliveryRow)
    (mid : List OutboxEvent) : Prop :=
  Released w row mid ∨ ∃ expiresAt, row.record.leaseExpiresAt = some expiresAt ∧
    (expiresAt < m.clock ∨ ∃ v, m.row row.record.deliveryId = some v ∧ v.LeasedTo w ∧
      v.leaseExpiresAt = some expiresAt ∧ v.attempt = row.record.attempt)

/-- The invariant of the log. -/
structure LogInv (m : Machine) : Prop where
  lawful : Lawful m.log
  leases : ∀ mid w row now older, m.log = mid ++ .claimed w row now :: older →
    m.LeaseSettled w row mid

theorem logInv_of_fresh {m : Machine} (h : m.Fresh) : m.LogInv := by
  obtain ⟨-, hlog, -⟩ := h
  refine ⟨hlog ▸ lawful_nil, ?_⟩
  intro mid w row now older heq
  simp [hlog] at heq

variable {m m' : Machine}

namespace LogInv

/-- The log grows by an event, if that is lawful, and the leases that stood are settled. -/
theorem grow (h : m.LogInv) {event : OutboxEvent} (hlog : m'.log = event :: m.log)
    (hlaw : EventLaw m.log event)
    (hnew : ∀ w row now, event = .claimed w row now → m'.LeaseSettled w row [])
    (hold : ∀ w row mid, m.LeaseSettled w row mid → m'.LeaseSettled w row (event :: mid)) :
    m'.LogInv := by
  refine ⟨hlog ▸ h.lawful.cons hlaw, ?_⟩
  intro mid w row now older heq
  rw [hlog] at heq
  cases mid with
  | nil =>
      obtain ⟨rfl, -⟩ := List.cons.inj heq
      exact hnew w row now rfl
  | cons first mid =>
      obtain ⟨rfl, htail⟩ := List.cons.inj heq
      exact hold w row mid (h.leases mid w row now older htail)

/-- Nothing is logged. -/
theorem keep (h : m.LogInv) (hlog : m'.log = m.log)
    (hold : ∀ w row mid, m.LeaseSettled w row mid → m'.LeaseSettled w row mid) : m'.LogInv := by
  refine ⟨hlog ▸ h.lawful, ?_⟩
  intro mid w row now older heq
  exact hold w row mid (h.leases mid w row now older (hlog ▸ heq))

end LogInv

/-- A lease stays settled when the row it may stand in stays as it is, or the clock has passed it,
or its holder completes the delivery. -/
theorem LeaseSettled.mono {w : LeaseOwner} {row : OutboxDeliveryRow} {mid mid' : List OutboxEvent}
    (h : m.LeaseSettled w row mid) (hclock : m.clock ≤ m'.clock)
    (hmid : Released w row mid → Released w row mid')
    (hrow : ∀ v expiresAt, m.row row.record.deliveryId = some v → v.LeasedTo w →
      v.leaseExpiresAt = some expiresAt → v.attempt = row.record.attempt →
      Released w row mid' ∨ expiresAt < m'.clock ∨
        ∃ v', m'.row row.record.deliveryId = some v' ∧ v'.LeasedTo w ∧
          v'.leaseExpiresAt = some expiresAt ∧ v'.attempt = row.record.attempt) :
    m'.LeaseSettled w row mid' := by
  rcases h with hreleased | ⟨expiresAt, hlease, hexpired | ⟨v, hv, hleased, hexpires, hattempt⟩⟩
  · exact .inl (hmid hreleased)
  · exact .inr ⟨expiresAt, hlease, .inl (by omega)⟩
  · rcases hrow v expiresAt hv hleased hexpires hattempt with hreleased | hexpired | hrow
    · exact .inl hreleased
    · exact .inr ⟨expiresAt, hlease, .inl hexpired⟩
    · exact .inr ⟨expiresAt, hlease, .inr hrow⟩

/-- A lease in a row that may be claimed has run out. -/
theorem expired_of_free {v : DeliveryView} {w : LeaseOwner} {expiresAt now : Nat}
    (hfree : v.Free now) (hleased : v.LeasedTo w) (hlease : v.leaseExpiresAt = some expiresAt) :
    expiresAt < now := hfree.2 hleased.1 expiresAt hlease

namespace LogInv

/-- What a send needs: the marker of its worker, and no other send that is open. -/
theorem sendLaw (hsends : m.SendInv) (hrows : m.RowInv) {w : LeaseOwner}
    {copy : OutboxDeliveryRecord} {route : SendRoute} (hstage : m.stage w = .marked copy)
    (hkind : copy.kind = route.kind) : SendLaw w copy.deliveryId route m.log := by
  have hticket : (m.stage w).ticket = some copy := by
    rw [hstage]
    rfl
  refine ⟨hsends.marked w copy hstage, ?_⟩
  intro mid w' route' older hlog
  have hrefused : RefusedThenCompleted w' copy.deliveryId mid := by
    by_contra hopen
    obtain ⟨-, hsince⟩ := hsends.own w copy w' route' mid hticket ⟨⟨older, hlog⟩, hopen⟩
    rw [hstage] at hsince
    cases hsince
  -- only a webhook is answered so, and the kind of a delivery never changes
  obtain ⟨own, row, now, hown, hid⟩ := hrefused
  have hanswered : OutboxEvent.answered w' copy.deliveryId true ∈ m.log := by
    have hmem : OutboxEvent.answered w' copy.deliveryId true ∈ ownEvents w' mid := by
      rw [hown]
      simp
    rw [hlog]
    exact List.mem_append_left _ (List.mem_of_mem_filter hmem)
  have hstarted : OutboxEvent.started w' copy.deliveryId route' ∈ m.log := by
    rw [hlog]
    simp
  obtain ⟨v, hv, hvkind⟩ := hsends.refusedKind _ _ hanswered
  obtain ⟨u, hu, hukind⟩ := hsends.startedKind _ _ _ hstarted
  obtain rfl := Option.some.inj (hv.symm.trans hu)
  obtain ⟨u, hu, hcopy, -⟩ := hrows.held w copy (WorkerStage.copy_of_ticket hticket)
  obtain rfl := Option.some.inj (hv.symm.trans hu)
  have hwebhook : ∀ r : SendRoute, r.kind = .publicIngressNotification → r = .discordWebhook := by
    intro r hr
    cases r
    · cases hr
    · rfl
  exact ⟨hwebhook route' (hukind.symm.trans hvkind),
    hwebhook route (hkind.symm.trans (hcopy.symm.trans hvkind)), own, row, now, hown, hid⟩

/-- What a claim needs: every earlier lease of the row has ended. -/
theorem leaseLaw (h : m.LogInv) {w : LeaseOwner} {row : OutboxDeliveryRow} {v : DeliveryView}
    (hv : m.row row.record.deliveryId = some v) (hfree : v.Free m.clock)
    (hleased : UnderLease w row m.clock) : LeaseLaw w row m.clock m.log := by
  refine ⟨hleased, ?_⟩
  intro mid w' row' now' older hlog hid
  rcases h.leases mid w' row' now' older hlog with
    hreleased | ⟨expiresAt, hlease, hexpired | ⟨u, hu, hleased', hexpires, -⟩⟩
  · exact .inl hreleased
  · exact .inr ⟨expiresAt, hlease, hexpired⟩
  · rw [hid, hv] at hu
    obtain rfl := Option.some.inj hu
    exact .inr ⟨expiresAt, hlease, expired_of_free hfree hleased' hexpires⟩

/-- **A step keeps the invariant of the log.** -/
theorem step (h : m.LogInv) (hrows : m.RowInv) (hsends : m.SendInv) (hstep : Step m m') :
    m'.LogInv := by
  cases hstep with
  | forget w hforgets =>
      refine h.keep rfl fun w' row mid hset => hset.mono le_rfl id ?_
      exact fun v expiresAt hv hl he ha => .inr (.inr ⟨v, hv, hl, he, ha⟩)
  | @claim w v row expiresAt stage hv hfree hbound hexpires hrow hstage =>
      have hlease : UnderLease w row m.clock :=
        ⟨congrArg DeliveryView.state hrow, congrArg DeliveryView.leaseOwner hrow, expiresAt,
          congrArg DeliveryView.leaseExpiresAt hrow, hexpires⟩
      refine h.grow rfl (h.leaseLaw hv hfree hlease) ?_ ?_
      · intro w' row' now heq
        obtain ⟨rfl, rfl, -⟩ := OutboxEvent.claimed.inj heq
        refine .inr ⟨expiresAt, congrArg DeliveryView.leaseExpiresAt hrow, .inr ⟨row.view, ?_,
          ⟨hlease.1, hlease.2.1⟩, congrArg DeliveryView.leaseExpiresAt hrow, rfl⟩⟩
        exact Function.update_self ..
      · refine fun w' row' mid hset => hset.mono le_rfl (·.cons _) ?_
        intro u exp hu hl he ha
        by_cases hd : row'.record.deliveryId = row.record.deliveryId
        · rw [hd, hv] at hu
          obtain rfl := Option.some.inj hu
          exact .inr (.inl (expired_of_free hfree hl he))
        · exact .inr (.inr ⟨u, (Function.update_of_ne hd ..).trans hu, hl, he, ha⟩)
  | @exhaust d v v' hv hfree hkind hattempt hmax hstate =>
      refine h.keep rfl fun w' row' mid hset => hset.mono le_rfl id ?_
      intro u exp hu hl he ha
      by_cases hd : row'.record.deliveryId = d
      · rw [hd, hv] at hu
        obtain rfl := Option.some.inj hu
        exact .inr (.inl (expired_of_free hfree hl he))
      · exact .inr (.inr ⟨u, (Function.update_of_ne hd ..).trans hu, hl, he, ha⟩)
  | @mark w copy v row expiresAt stage hcopy hd hv hleased hlease hlive hrow hkey hstage =>
      refine h.grow rfl trivial (fun _ _ _ heq => nomatch heq)
        fun w' row' mid hset => hset.mono le_rfl (·.cons _) ?_
      intro u exp hu hl he ha
      by_cases hsame : row'.record.deliveryId = copy.deliveryId
      · rw [hsame, hv] at hu
        obtain rfl := Option.some.inj hu
        refine .inr (.inr ⟨row.view, ?_, ?_, ?_, ?_⟩)
        · rw [hsame]
          exact Function.update_self ..
        · rw [hrow]
          exact hl
        · rw [hrow]
          exact he
        · rw [hrow]
          exact ha
      · exact .inr (.inr ⟨u, (Function.update_of_ne hsame ..).trans hu, hl, he, ha⟩)
  | start w route hstage hkind =>
      refine h.grow rfl (sendLaw hsends hrows hstage hkind) (fun _ _ _ heq => nomatch heq)
        fun w' row' mid hset => hset.mono le_rfl (·.cons _) ?_
      exact fun v expiresAt hv hl he ha => .inr (.inr ⟨v, hv, hl, he, ha⟩)
  | answer w hstage hrefused =>
      refine h.grow rfl trivial (fun _ _ _ heq => nomatch heq)
        fun w' row' mid hset => hset.mono le_rfl (·.cons _) ?_
      exact fun v expiresAt hv hl he ha => .inr (.inr ⟨v, hv, hl, he, ha⟩)
  | @complete w copy result v row expiresAt hcopy hreports hd hv hleased hlease hlive hrow hstate =>
      refine h.grow rfl trivial (fun _ _ _ heq => nomatch heq)
        fun w' row' mid hset => hset.mono le_rfl (·.cons _) ?_
      intro u exp hu hl he ha
      by_cases hsame : row'.record.deliveryId = copy.deliveryId
      · rw [hsame, hv] at hu
        obtain rfl := Option.some.inj hu
        obtain rfl := owner_unique hleased hl
        refine .inl ⟨row, m.clock, List.mem_cons_self, hd.trans hsame.symm, ?_⟩
        calc row.record.attempt = result.attempt := congrArg DeliveryView.attempt hrow
          _ = copy.attempt := hreports.attempt
          _ = v.attempt := (hrows.agrees w' copy v hcopy hv hleased).symm
          _ = row'.record.attempt := ha
      · exact .inr (.inr ⟨u, (Function.update_of_ne hsame ..).trans hu, hl, he, ha⟩)
  | tick hnow =>
      refine h.keep rfl fun w' row mid hset => hset.mono hnow id ?_
      exact fun v expiresAt hv hl he ha => .inr (.inr ⟨v, hv, hl, he, ha⟩)
  | @enqueue d v hnew hstate hattempt =>
      refine h.keep rfl fun w' row' mid hset => hset.mono le_rfl id ?_
      intro u exp hu hl he ha
      by_cases hd : row'.record.deliveryId = d
      · rw [hd, hnew] at hu
        cases hu
      · exact .inr (.inr ⟨u, (Function.update_of_ne hd ..).trans hu, hl, he, ha⟩)

end LogInv

/-- The invariants of the machine together. -/
structure Sound (m : Machine) : Prop where
  rows : m.RowInv
  sends : m.SendInv
  log : m.LogInv

theorem sound_of_fresh (h : m.Fresh) : m.Sound :=
  ⟨rowInv_of_fresh h, sendInv_of_fresh h, logInv_of_fresh h⟩

theorem Sound.step (h : m.Sound) (hstep : Step m m') : m'.Sound :=
  ⟨h.rows.step hstep, h.sends.step h.rows hstep, h.log.step h.rows h.sends hstep⟩

/-- **The invariants hold along every run.** -/
theorem Sound.reaches (h : m.Sound) (hreach : Reaches m m') : m'.Sound := by
  induction hreach with
  | refl => exact h
  | tail _ hstep ih => exact ih.step hstep

end Machine

end Launchplane.Outbox
