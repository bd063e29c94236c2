import Launchplane.Outbox.World

/-!
# Launchplane.Outbox.Machine

**The outbox without its records**: of a row only what leases and markers depend
on, and one step for each thing that can take effect. Workers are their stages.

A delivery is *hot* when a worker may still start its send, or a send of it was
started that was not refused and then completed by its sender. The invariant is
that the row of a hot delivery has a marker or has ended, and that nobody who
claimed it without a marker still holds its lease (`Machine.SendInv`). So a
second send needs a claim without a marker, and that needs a row that was given
its marker back.
-/

namespace Launchplane.Outbox

/-- A row, as far as leases and markers depend on it. -/
structure DeliveryView where
  kind : OutboxDeliveryKind
  state : OutboxDeliveryState
  leaseOwner : String
  leaseExpiresAt : Option Nat
  attempt : Nat
  maxAttempts : Nat
  providerOperationKey : String
  deriving DecidableEq

/-- The view of a row. -/
def OutboxDeliveryRow.view (row : OutboxDeliveryRow) : DeliveryView where
  kind := row.record.kind
  state := row.record.state
  leaseOwner := row.record.leaseOwner
  leaseExpiresAt := row.record.leaseExpiresAt
  attempt := row.record.attempt
  maxAttempts := row.record.maxAttempts
  providerOperationKey := row.record.providerOperationKey

namespace DeliveryView

/-- The row is leased to a worker. -/
def LeasedTo (v : DeliveryView) (w : LeaseOwner) : Prop :=
  v.state = .running ∧ v.leaseOwner = w.text

/-- The row may be claimed. -/
def Free (v : DeliveryView) (now : Nat) : Prop :=
  ¬ v.state.Terminal ∧ (v.state = .running → ∀ expiresAt ∈ v.leaseExpiresAt, expiresAt < now)

end DeliveryView

/-- The rows, the clock, the log, and the stage of every worker. -/
structure Machine where
  row : String → Option DeliveryView
  clock : Nat
  log : List OutboxEvent
  stage : LeaseOwner → WorkerStage

namespace Machine

/-- A worker loses sight of what it did. -/
def Forgets (stage stage' : WorkerStage) : Prop :=
  stage' = .idle ∨ stage' = .done ∨ ∃ copy, stage = .holding copy ∧ stage' = .unsure copy

/-- A row is replaced, with an event and a new stage of the worker whose event it is. -/
def write (m : Machine) (w : LeaseOwner) (d : String) (v : DeliveryView) (event : OutboxEvent)
    (stage : WorkerStage) : Machine :=
  { m with
    row := Function.update m.row d (some v)
    log := event :: m.log
    stage := Function.update m.stage w stage }

/-- An event that changes no row. -/
def send (m : Machine) (w : LeaseOwner) (event : OutboxEvent) (stage : WorkerStage) : Machine :=
  { m with log := event :: m.log, stage := Function.update m.stage w stage }

/-- Everything that can take effect. -/
inductive Step : Machine → Machine → Prop
  | forget (m : Machine) (w : LeaseOwner) {stage : WorkerStage} (h : Forgets (m.stage w) stage) :
      Step m { m with stage := Function.update m.stage w stage }
  | claim (m : Machine) (w : LeaseOwner) {v : DeliveryView} {row : OutboxDeliveryRow}
      {expiresAt : Nat} {stage : WorkerStage} (hv : m.row row.record.deliveryId = some v)
      (hfree : v.Free m.clock) (hbound : v.attempt < v.maxAttempts) (hexpires : m.clock < expiresAt)
      (hrow : row.view = { v with
        state := .running
        leaseOwner := w.text
        leaseExpiresAt := some expiresAt
        attempt := v.attempt + 1 })
      (hstage : stage = .holding row.record ∨ stage = .done) :
      Step m (m.write w row.record.deliveryId row.view (.claimed w row m.clock) stage)
  | exhaust (m : Machine) {d : String} {v v' : DeliveryView} (hv : m.row d = some v)
      (hfree : v.Free m.clock) (hkind : v'.kind = v.kind) (hattempt : v'.attempt = v.attempt)
      (hmax : v'.maxAttempts = v.maxAttempts) (hstate : v'.state = .failed) :
      Step m { m with row := Function.update m.row d (some v') }
  | mark (m : Machine) (w : LeaseOwner) {copy : OutboxDeliveryRecord} {v : DeliveryView}
      {row : OutboxDeliveryRow} {expiresAt : Nat} {stage : WorkerStage}
      (hcopy : m.stage w = .holding copy ∨ m.stage w = .unsure copy)
      (hd : row.record.deliveryId = copy.deliveryId) (hv : m.row copy.deliveryId = some v)
      (hleased : v.LeasedTo w) (hlease : v.leaseExpiresAt = some expiresAt)
      (hlive : m.clock < expiresAt)
      (hrow : row.view = { v with providerOperationKey := row.record.providerOperationKey })
      (hkey : row.record.providerOperationKey ≠ "")
      (hstage : stage = .unsure copy ∨ m.stage w = .holding copy ∧ copy.kind.SentOnce ∧
        copy.providerOperationKey = "" ∧ stage = .marked copy) :
      Step m (m.write w copy.deliveryId row.view (.marked w row m.clock) stage)
  | start (m : Machine) (w : LeaseOwner) {copy : OutboxDeliveryRecord} (route : SendRoute)
      (hstage : m.stage w = .marked copy) (hkind : copy.kind = route.kind) :
      Step m (m.send w (.started w copy.deliveryId route) (.sending copy route))
  | answer (m : Machine) (w : LeaseOwner) {copy : OutboxDeliveryRecord} {route : SendRoute}
      {refused : Bool} (hstage : m.stage w = .sending copy route)
      (hrefused : refused = true → route = .discordWebhook) :
      Step m (m.send w (.answered w copy.deliveryId refused) (.answered copy route refused))
  | complete (m : Machine) (w : LeaseOwner) {copy result : OutboxDeliveryRecord} {v : DeliveryView}
      {row : OutboxDeliveryRow} {expiresAt : Nat} (hcopy : (m.stage w).copy = some copy)
      (hreports : (m.stage w).Reports copy result) (hd : row.record.deliveryId = copy.deliveryId)
      (hv : m.row copy.deliveryId = some v) (hleased : v.LeasedTo w)
      (hlease : v.leaseExpiresAt = some expiresAt) (hlive : m.clock < expiresAt)
      (hrow : row.view = {
        kind := result.kind
        state := result.state
        leaseOwner := ""
        leaseExpiresAt := none
        attempt := result.attempt
        maxAttempts := result.maxAttempts
        providerOperationKey := pyStrip result.providerOperationKey })
      (hstate : result.state ≠ .running) :
      Step m (m.write w copy.deliveryId row.view (.completed w row m.clock) .done)
  | tick (m : Machine) {now : Nat} (h : m.clock ≤ now) : Step m { m with clock := now }
  | enqueue (m : Machine) {d : String} {v : DeliveryView} (hnew : m.row d = none)
      (hstate : v.state = .pending) (hattempt : v.attempt = 0) :
      Step m { m with row := Function.update m.row d (some v) }

/-- A machine without rows, events and claims. -/
def Fresh (m : Machine) : Prop := (∀ d, m.row d = none) ∧ m.log = [] ∧ ∀ w, m.stage w = .idle

/-- The machines that can be reached. -/
abbrev Reaches : Machine → Machine → Prop := Relation.ReflTransGen Step

/-! ### Rows and copies -/

/-- What workers hold agrees with the rows. -/
structure RowInv (m : Machine) : Prop where
  bounded : ∀ d v, m.row d = some v → v.attempt ≤ v.maxAttempts
  held : ∀ w copy, (m.stage w).copy = some copy →
    ∃ v, m.row copy.deliveryId = some v ∧ v.kind = copy.kind ∧ v.maxAttempts = copy.maxAttempts
  agrees : ∀ w copy v, (m.stage w).copy = some copy → m.row copy.deliveryId = some v →
    v.LeasedTo w → v.attempt = copy.attempt
  key : ∀ w copy v, m.stage w = .holding copy → m.row copy.deliveryId = some v →
    v.LeasedTo w → v.providerOperationKey = copy.providerOperationKey
  stripped : ∀ w copy, m.stage w = .holding copy →
    pyStrip copy.providerOperationKey = copy.providerOperationKey

theorem rowInv_of_fresh {m : Machine} (h : m.Fresh) : m.RowInv := by
  obtain ⟨hrow, -, hstage⟩ := h
  constructor <;> simp [hrow, hstage, WorkerStage.copy]

variable {m : Machine} {w : LeaseOwner}

/-- A row leased to one worker is leased to no other. -/
theorem owner_unique {v : DeliveryView} {w' : LeaseOwner} (h : v.LeasedTo w)
    (h' : v.LeasedTo w') : w' = w := LeaseOwner.ext (h'.2.symm.trans h.2)

namespace RowInv

/-- A worker's stage changes, and it holds no copy it did not hold. -/
theorem setStage (h : m.RowInv) {stage : WorkerStage}
    (hcopy : ∀ copy, stage.copy = some copy → (m.stage w).copy = some copy)
    (hholding : ∀ copy, stage ≠ .holding copy) (log : List OutboxEvent) :
    RowInv { m with log, stage := Function.update m.stage w stage } := by
  have hold : ∀ w' copy, (Function.update m.stage w stage w').copy = some copy →
      (m.stage w').copy = some copy := by
    intro w' copy hw'
    by_cases heq : w' = w
    · subst heq
      rw [Function.update_self] at hw'
      exact hcopy copy hw'
    · rwa [Function.update_of_ne heq] at hw'
  have hsame : ∀ w' copy, Function.update m.stage w stage w' = .holding copy →
      m.stage w' = .holding copy := by
    intro w' copy hw'
    by_cases heq : w' = w
    · subst heq
      rw [Function.update_self] at hw'
      exact absurd hw' (hholding copy)
    · rwa [Function.update_of_ne heq] at hw'
  exact ⟨h.bounded, fun w' copy hw' => h.held w' copy (hold w' copy hw'),
    fun w' copy v hw' => h.agrees w' copy v (hold w' copy hw'),
    fun w' copy v hw' => h.key w' copy v (hsame w' copy hw'),
    fun w' copy hw' => h.stripped w' copy (hsame w' copy hw')⟩

/-- A row is replaced by one that is leased to nobody else than the worker that writes it. -/
theorem write (h : m.RowInv) {d : String} {v v' : DeliveryView} {event : OutboxEvent}
    {stage : WorkerStage} (hv : m.row d = some v) (hkind : v'.kind = v.kind)
    (hmax : v'.maxAttempts = v.maxAttempts) (hbound : v'.attempt ≤ v'.maxAttempts)
    (hleased : ∀ w', v'.LeasedTo w' → w' = w)
    (hheld : ∀ copy, stage.copy = some copy → copy.deliveryId = d ∧ v'.kind = copy.kind ∧
      v'.maxAttempts = copy.maxAttempts ∧ (v'.LeasedTo w → v'.attempt = copy.attempt))
    (hholding : ∀ copy, stage = .holding copy → v'.providerOperationKey = copy.providerOperationKey ∧
      pyStrip copy.providerOperationKey = copy.providerOperationKey) :
    (m.write w d v' event stage).RowInv := by
  have hrow : ∀ d', (m.write w d v' event stage).row d' = if d' = d then some v' else m.row d' :=
    fun d' => Function.update_apply m.row d (some v') d'
  have hstage : ∀ w', (m.write w d v' event stage).stage w' =
      if w' = w then stage else m.stage w' := fun w' => Function.update_apply m.stage w stage w'
  constructor
  · intro d' u hu
    rw [hrow] at hu
    split at hu
    · obtain rfl := Option.some.inj hu
      exact hbound
    · exact h.bounded d' u hu
  · intro w' copy hcopy
    rw [hstage] at hcopy
    rw [hrow]
    split at hcopy
    · obtain ⟨rfl, hk, hm, -⟩ := hheld copy hcopy
      exact ⟨v', if_pos rfl, hk, hm⟩
    · obtain ⟨u, hu, hk, hm⟩ := h.held w' copy hcopy
      split
      · rename_i hd
        rw [hd, hv] at hu
        obtain rfl := Option.some.inj hu
        exact ⟨v', rfl, hkind.trans hk, hmax.trans hm⟩
      · exact ⟨u, hu, hk, hm⟩
  · intro w' copy u hcopy hu hlease
    rw [hstage] at hcopy
    rw [hrow] at hu
    split at hcopy
    · rename_i hw
      obtain ⟨rfl, -, -, ha⟩ := hheld copy hcopy
      rw [if_pos rfl] at hu
      obtain rfl := Option.some.inj hu
      exact ha (hw ▸ hlease)
    · rename_i hw
      split at hu
      · obtain rfl := Option.some.inj hu
        exact absurd (hleased w' hlease) hw
      · exact h.agrees w' copy u hcopy hu hlease
  · intro w' copy u hcopy hu hlease
    rw [hstage] at hcopy
    rw [hrow] at hu
    split at hcopy
    · obtain ⟨rfl, -⟩ := hheld copy (by rw [hcopy]; rfl)
      rw [if_pos rfl] at hu
      obtain rfl := Option.some.inj hu
      exact (hholding copy hcopy).1
    · rename_i hw
      split at hu
      · obtain rfl := Option.some.inj hu
        exact absurd (hleased w' hlease) hw
      · exact h.key w' copy u hcopy hu hlease
  · intro w' copy hcopy
    rw [hstage] at hcopy
    split at hcopy
    · exact (hholding copy hcopy).2
    · exact h.stripped w' copy hcopy

/-- A row is written that is leased to nobody. -/
theorem writeFree (h : m.RowInv) {d : String} {v' : DeliveryView}
    (hsame : ∀ v, m.row d = some v → v'.kind = v.kind ∧ v'.maxAttempts = v.maxAttempts)
    (hbound : v'.attempt ≤ v'.maxAttempts) (hfree : v'.state ≠ .running) :
    RowInv { m with row := Function.update m.row d (some v') } := by
  have hrow : ∀ d' u, Function.update m.row d (some v') d' = some u → u = v' ∨ m.row d' = some u := by
    intro d' u hu
    rw [Function.update_apply] at hu
    split at hu
    · exact .inl (Option.some.inj hu).symm
    · exact .inr hu
  constructor
  · intro d' u hu
    rcases hrow d' u hu with rfl | hu
    · exact hbound
    · exact h.bounded d' u hu
  · intro w copy hcopy
    obtain ⟨u, hu, hk, hm⟩ := h.held w copy hcopy
    show ∃ v, Function.update m.row d (some v') copy.deliveryId = some v ∧ _
    rw [Function.update_apply]
    split
    · rename_i hd
      obtain ⟨hkind, hmax⟩ := hsame u (hd ▸ hu)
      exact ⟨v', rfl, hkind.trans hk, hmax.trans hm⟩
    · exact ⟨u, hu, hk, hm⟩
  · intro w copy u hcopy hu hlease
    rcases hrow _ u hu with rfl | hu
    · exact absurd hlease.1 hfree
    · exact h.agrees w copy u hcopy hu hlease
  · intro w copy u hcopy hu hlease
    rcases hrow _ u hu with rfl | hu
    · exact absurd hlease.1 hfree
    · exact h.key w copy u hcopy hu hlease
  · exact h.stripped

/-- What a worker holds, it claimed: a step keeps the agreement of copies and rows. -/
theorem step (h : m.RowInv) {m' : Machine} (hstep : Step m m') : m'.RowInv := by
  cases hstep with
  | forget w hforgets =>
      refine h.setStage ?_ ?_ m.log
      · rintro copy hcopy
        rcases hforgets with rfl | rfl | ⟨held, hheld, rfl⟩
        · cases hcopy
        · cases hcopy
        · rw [hheld]
          exact hcopy
      · rcases hforgets with rfl | rfl | ⟨held, hheld, rfl⟩ <;> simp
  | @claim w v row expiresAt stage hv hfree hbound hexpires hrow hstage =>
      have hcopy : ∀ copy, stage.copy = some copy → copy = row.record := by
        rintro copy hcopy
        rcases hstage with rfl | rfl
        · exact (Option.some.inj hcopy).symm
        · cases hcopy
      refine h.write hv (by rw [hrow]) (by rw [hrow]) (by rw [hrow]; exact hbound) ?_ ?_ ?_
      · intro w' hw'
        exact LeaseOwner.ext (hw'.2.symm.trans (by rw [hrow]))
      · intro copy h
        obtain rfl := hcopy copy h
        exact ⟨rfl, rfl, rfl, fun _ => rfl⟩
      · rintro copy rfl
        obtain rfl := hcopy copy rfl
        exact ⟨rfl, row.pyStrip_providerOperationKey⟩
  | @exhaust d v v' hv hfree hkind hattempt hmax hstate =>
      refine h.writeFree ?_ (by rw [hattempt, hmax]; exact h.bounded d v hv) (by simp [hstate])
      intro u hu
      obtain rfl := Option.some.inj (hv.symm.trans hu)
      exact ⟨hkind, hmax⟩
  | @mark w copy v row expiresAt stage hcopy hd hv hleased hlease hlive hrow hkey hstage =>
      have hheld : (m.stage w).copy = some copy := by
        rcases hcopy with h | h <;> rw [h] <;> rfl
      have hstay : stage.copy = some copy ∧ ∀ held, stage ≠ .holding held := by
        rcases hstage with rfl | ⟨-, -, -, rfl⟩ <;> simp [WorkerStage.copy]
      obtain ⟨u, hu, hk, hm⟩ := h.held w copy hheld
      obtain rfl := Option.some.inj (hv.symm.trans hu)
      refine h.write hv (by rw [hrow]) (by rw [hrow]) (by rw [hrow]; exact h.bounded _ v hv) ?_ ?_ ?_
      · intro w' hw'
        refine owner_unique hleased ?_
        rw [hrow] at hw'
        exact hw'
      · intro held hheld'
        obtain rfl := Option.some.inj (hstay.1.symm.trans hheld')
        rw [hrow]
        exact ⟨rfl, hk, hm, fun _ => h.agrees w copy v hheld hv hleased⟩
      · exact fun held hholding => absurd hholding (hstay.2 held)
  | start w route hstage hkind =>
      refine h.setStage ?_ (by simp) _
      intro copy hcopy
      rw [hstage]
      exact hcopy
  | answer w hstage hrefused =>
      refine h.setStage ?_ (by simp) _
      intro copy hcopy
      rw [hstage]
      exact hcopy
  | @complete w copy result v row expiresAt hcopy hreports hd hv hleased hlease hlive hrow hstate =>
      obtain ⟨u, hu, hk, hm⟩ := h.held w copy hcopy
      obtain rfl := Option.some.inj (hv.symm.trans hu)
      refine h.write hv ?_ ?_ ?_ ?_ (fun copy h => nomatch h) (fun copy h => nomatch h)
      · rw [hrow, hk]
        exact hreports.kind
      · rw [hrow, hm]
        exact hreports.maxAttempts
      · rw [hrow]
        show result.attempt ≤ result.maxAttempts
        rw [hreports.attempt, hreports.maxAttempts, ← hm, ← h.agrees w copy v hcopy hv hleased]
        exact h.bounded _ v hv
      · intro w' hw'
        refine absurd hw'.1 ?_
        rw [hrow]
        exact hstate
  | tick hnow => exact ⟨h.bounded, h.held, h.agrees, h.key, h.stripped⟩
  | @enqueue d v hnew hstate hattempt =>
      refine h.writeFree ?_ (by simp [hattempt]) (by simp [hstate])
      intro u hu
      rw [hnew] at hu
      cases hu

end RowInv

end Machine

end Launchplane.Outbox
