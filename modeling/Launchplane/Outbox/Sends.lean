import Launchplane.Outbox.Log
import Launchplane.Outbox.Machine

/-!
# Launchplane.Outbox.Sends

**The invariant of the sends** (`Machine.SendInv`). A worker whose marker is
stored has a *ticket* for the delivery, until it reports or forgets. A delivery
is *hot* when somebody has a ticket for it or a send of it is open. The row of a
hot delivery has a marker or has ended, so who claims it gets a copy with a
marker and asks for no ticket; and who claimed it without a marker before it
became hot has lost its lease.

Most steps only cool deliveries down (`SendInv.quiet`). A marker heats one up;
the start and the answer of a send are steps of the one who has the ticket.
-/

namespace Launchplane.Outbox

namespace WorkerStage

/-- The copy a worker has a stored marker for. -/
def ticket : WorkerStage → Option OutboxDeliveryRecord
  | marked copy => some copy
  | sending copy _ => some copy
  | answered copy _ _ => some copy
  | _ => none

/-- What the worker with a ticket did since it started its send, if it did. -/
def sinceStart (w : LeaseOwner) : WorkerStage → Option (List OutboxEvent)
  | sending _ _ => some []
  | answered copy _ refused => some [.answered w copy.deliveryId refused]
  | _ => none

theorem copy_of_ticket {stage : WorkerStage} {copy : OutboxDeliveryRecord}
    (h : stage.ticket = some copy) : stage.copy = some copy := by
  cases stage <;> first | exact h | cases h

end WorkerStage

/-- An event of the store: not of a send. -/
def OutboxEvent.OfStore : OutboxEvent → Prop
  | started .. => False
  | answered .. => False
  | _ => True

namespace DeliveryView

/-- Nobody may ask for a ticket after a claim of this row. -/
def Barred (v : DeliveryView) : Prop := v.state.Terminal ∨ v.providerOperationKey ≠ ""

end DeliveryView

namespace Machine

/-- A send of the delivery may still be started, or was started and is open. -/
def Hot (m : Machine) (d : String) : Prop :=
  (∃ w copy, (m.stage w).ticket = some copy ∧ copy.deliveryId = d) ∨
    ∃ w route mid, OpenSend m.log d w route mid

/-- The invariant of the sends. -/
structure SendInv (m : Machine) : Prop where
  startedKind : ∀ w d route, .started w d route ∈ m.log →
    ∃ v, m.row d = some v ∧ v.kind = route.kind
  refusedKind : ∀ w d, .answered w d true ∈ m.log →
    ∃ v, m.row d = some v ∧ v.kind = .publicIngressNotification
  ticketKind : ∀ w copy, (m.stage w).ticket = some copy → copy.kind.SentOnce
  routeKind : ∀ w copy route, m.stage w = .sending copy route → copy.kind = route.kind
  refusedRoute : ∀ w copy route, m.stage w = .answered copy route true → route = .discordWebhook
  hot : ∀ d, m.Hot d → ∃ v, m.row d = some v ∧ v.Barred
  fresh : ∀ w copy v, m.stage w = .holding copy ∨ m.stage w = .unsure copy →
    copy.kind.SentOnce → pyStrip copy.providerOperationKey = "" →
    m.row copy.deliveryId = some v → v.LeasedTo w → ¬ m.Hot copy.deliveryId
  unique : ∀ w w' copy copy', (m.stage w).ticket = some copy → (m.stage w').ticket = some copy' →
    copy'.deliveryId = copy.deliveryId → w' = w
  own : ∀ w copy w' route mid, (m.stage w).ticket = some copy →
    OpenSend m.log copy.deliveryId w' route mid →
    w' = w ∧ (m.stage w).sinceStart w = some (ownEvents w mid)
  marked : ∀ w copy, m.stage w = .marked copy → JustMarked w copy.deliveryId m.log

theorem sendInv_of_fresh {m : Machine} (h : m.Fresh) : m.SendInv := by
  obtain ⟨-, hlog, hstage⟩ := h
  have hcold : ∀ d, ¬ m.Hot d := by
    rintro d (⟨w, copy, hticket, -⟩ | ⟨w, route, mid, ⟨older, h⟩, -⟩)
    · simp [hstage, WorkerStage.ticket] at hticket
    · simp [hlog] at h
  constructor
  case hot => exact fun d hd => absurd hd (hcold d)
  all_goals simp [hlog, hstage, WorkerStage.ticket]

variable {m m' : Machine}

/-- A step that opens nothing: the log grows by at most an event of the store, of a worker without
a ticket, and tickets can only be lost. -/
structure Cools (m m' : Machine) : Prop where
  log : m'.log = m.log ∨ ∃ event : OutboxEvent, m'.log = event :: m.log ∧ event.OfStore ∧
    (m'.stage event.worker).ticket = none
  stage : ∀ w, m'.stage w = m.stage w ∨ (m'.stage w).ticket = none
  kind : ∀ d v, m.row d = some v → ∃ v', m'.row d = some v' ∧ v'.kind = v.kind

namespace Cools

theorem stage_of_ticket (h : Cools m m') {w : LeaseOwner} {copy : OutboxDeliveryRecord}
    (hticket : (m'.stage w).ticket = some copy) : m'.stage w = m.stage w := by
  rcases h.stage w with heq | hnone
  · exact heq
  · rw [hnone] at hticket
    cases hticket

theorem mem_log (h : Cools m m') {event : OutboxEvent} (hevent : event ∈ m'.log)
    (hsend : ¬ event.OfStore) : event ∈ m.log := by
  rcases h.log with hlog | ⟨first, hlog, hstore, -⟩
  · rwa [hlog] at hevent
  · rw [hlog] at hevent
    rcases List.mem_cons.mp hevent with rfl | hold
    · exact absurd hstore hsend
    · exact hold

/-- A send that is open was open before. -/
theorem openSend (h : Cools m m') {d : String} {w : LeaseOwner} {route : SendRoute}
    {mid : List OutboxEvent} (hopen : OpenSend m'.log d w route mid) :
    ∃ mid', OpenSend m.log d w route mid' ∧
      ∀ w' copy, (m'.stage w').ticket = some copy → ownEvents w' mid = ownEvents w' mid' := by
  rcases h.log with hlog | ⟨first, hlog, hstore, hnone⟩
  · exact ⟨mid, hlog ▸ hopen, fun _ _ _ => rfl⟩
  · rw [hlog] at hopen
    rcases hopen.of_cons with ⟨rfl, -⟩ | ⟨mid', rfl, hopen'⟩
    · exact absurd hstore id
    · refine ⟨mid', hopen', fun w' copy hticket => ownEvents_cons_of_ne ?_⟩
      rintro rfl
      rw [hnone] at hticket
      cases hticket

theorem hot (h : Cools m m') {d : String} (hd : m'.Hot d) : m.Hot d := by
  rcases hd with ⟨w, copy, hticket, hid⟩ | ⟨w, route, mid, hopen⟩
  · exact .inl ⟨w, copy, h.stage_of_ticket hticket ▸ hticket, hid⟩
  · obtain ⟨mid', hopen', -⟩ := h.openSend hopen
    exact .inr ⟨w, route, mid', hopen'⟩

/-- A row and a stage are written with an event of the store, and the worker has no ticket after. -/
theorem write {w : LeaseOwner} {d : String} {v v' : DeliveryView} {event : OutboxEvent}
    {stage : WorkerStage} (hv : m.row d = some v) (hkind : v'.kind = v.kind)
    (hworker : event.worker = w) (hstore : event.OfStore) (hticket : stage.ticket = none) :
    Cools m (m.write w d v' event stage) := by
  have hrow : ∀ d', (m.write w d v' event stage).row d' = if d' = d then some v' else m.row d' :=
    fun d' => Function.update_apply m.row d (some v') d'
  have hstage : ∀ w', (m.write w d v' event stage).stage w' =
      if w' = w then stage else m.stage w' := fun w' => Function.update_apply m.stage w stage w'
  refine ⟨.inr ⟨event, rfl, hstore, ?_⟩, ?_, ?_⟩
  · rw [hstage, if_pos hworker]
    exact hticket
  · intro w'
    rw [hstage]
    split
    · exact .inr hticket
    · exact .inl rfl
  · intro d' u hu
    rw [hrow]
    split
    · rename_i hd
      rw [hd, hv] at hu
      obtain rfl := Option.some.inj hu
      exact ⟨v', rfl, hkind⟩
    · exact ⟨u, hu, rfl⟩

end Cools

namespace SendInv

/-- Only deliveries that are to be sent once are hot. -/
theorem sentOnce_of_hot (h : m.SendInv) (hrows : m.RowInv) {d : String} {v : DeliveryView}
    (hd : m.Hot d) (hv : m.row d = some v) : v.kind.SentOnce := by
  rcases hd with ⟨w, copy, hticket, rfl⟩ | ⟨w, route, mid, ⟨older, hlog⟩, -⟩
  · obtain ⟨u, hu, hkind, -⟩ := hrows.held w copy (WorkerStage.copy_of_ticket hticket)
    obtain rfl := Option.some.inj (hv.symm.trans hu)
    rw [hkind]
    exact h.ticketKind w copy hticket
  · obtain ⟨u, hu, hkind⟩ := h.startedKind w d route (by rw [hlog]; simp)
    obtain rfl := Option.some.inj (hv.symm.trans hu)
    rw [hkind]
    cases route
    · exact .inl rfl
    · exact .inr rfl

/-- A step that opens nothing, and leaves the rows of what is still hot barred. -/
theorem quiet (h : m.SendInv) (hcools : Cools m m')
    (hbarred : ∀ d v, m'.Hot d → m.row d = some v → v.Barred →
      ∃ v', m'.row d = some v' ∧ v'.Barred)
    (hfresh : ∀ w copy v, m'.stage w = .holding copy ∨ m'.stage w = .unsure copy →
      copy.kind.SentOnce → pyStrip copy.providerOperationKey = "" →
      m'.row copy.deliveryId = some v → v.LeasedTo w → ¬ m.Hot copy.deliveryId) :
    m'.SendInv where
  startedKind w d route hmem := by
    obtain ⟨v, hv, hkind⟩ := h.startedKind w d route (hcools.mem_log hmem id)
    obtain ⟨v', hv', hkind'⟩ := hcools.kind d v hv
    exact ⟨v', hv', hkind'.trans hkind⟩
  refusedKind w d hmem := by
    obtain ⟨v, hv, hkind⟩ := h.refusedKind w d (hcools.mem_log hmem id)
    obtain ⟨v', hv', hkind'⟩ := hcools.kind d v hv
    exact ⟨v', hv', hkind'.trans hkind⟩
  ticketKind w copy hticket :=
    h.ticketKind w copy (hcools.stage_of_ticket hticket ▸ hticket)
  routeKind w copy route hstage := by
    have hticket : (m'.stage w).ticket = some copy := by
      rw [hstage]
      rfl
    have heq := hcools.stage_of_ticket hticket
    exact h.routeKind w copy route (heq ▸ hstage)
  refusedRoute w copy route hstage := by
    have hticket : (m'.stage w).ticket = some copy := by
      rw [hstage]
      rfl
    have heq := hcools.stage_of_ticket hticket
    exact h.refusedRoute w copy route (heq ▸ hstage)
  hot d hd := by
    obtain ⟨v, hv, hb⟩ := h.hot d (hcools.hot hd)
    exact hbarred d v hd hv hb
  fresh w copy v hstage hkind hkey hv hleased hd :=
    hfresh w copy v hstage hkind hkey hv hleased (hcools.hot hd)
  unique w w' copy copy' hticket hticket' :=
    h.unique w w' copy copy' (hcools.stage_of_ticket hticket ▸ hticket)
      (hcools.stage_of_ticket hticket' ▸ hticket')
  own w copy w' route mid hticket hopen := by
    obtain ⟨mid', hopen', hown⟩ := hcools.openSend hopen
    have heq := hcools.stage_of_ticket hticket
    rw [hown w copy hticket, heq]
    exact h.own w copy w' route mid' (heq ▸ hticket) hopen'
  marked w copy hstage := by
    have hticket : (m'.stage w).ticket = some copy := by
      rw [hstage]
      rfl
    obtain ⟨row, now, own, hown, hrow⟩ := h.marked w copy (hcools.stage_of_ticket hticket ▸ hstage)
    refine ⟨row, now, own, ?_, hrow⟩
    rcases hcools.log with hlog | ⟨first, hlog, -, hnone⟩
    · rw [hlog, hown]
    · rw [hlog, ownEvents_cons_of_ne, hown]
      rintro rfl
      rw [hnone] at hticket
      cases hticket

variable {w : LeaseOwner}

theorem forget (h : m.SendInv) {stage : WorkerStage} (hforgets : Forgets (m.stage w) stage) :
    SendInv { m with stage := Function.update m.stage w stage } := by
  have hticket : stage.ticket = none := by
    rcases hforgets with rfl | rfl | ⟨copy, -, rfl⟩ <;> rfl
  have hstage : ∀ w', Function.update m.stage w stage w' = if w' = w then stage else m.stage w' :=
    fun w' => Function.update_apply m.stage w stage w'
  refine h.quiet ⟨.inl rfl, ?_, fun d v hv => ⟨v, hv, rfl⟩⟩ (fun d v _ hv hb => ⟨v, hv, hb⟩) ?_
  · intro w'
    show Function.update m.stage w stage w' = m.stage w' ∨
      (Function.update m.stage w stage w').ticket = none
    rw [hstage]
    split
    · exact .inr hticket
    · exact .inl rfl
  · intro w' copy v hholds hkind hkey hv hleased
    refine h.fresh w' copy v ?_ hkind hkey hv hleased
    simp only [hstage] at hholds
    split at hholds
    · rename_i hw
      subst hw
      rcases hforgets with rfl | rfl | ⟨held, hheld, rfl⟩
      · simp at hholds
      · simp at hholds
      · simp only [WorkerStage.unsure.injEq, reduceCtorEq, false_or] at hholds
        exact .inl (hholds ▸ hheld)
    · exact hholds

/-- A row and a stage are written with an event of the store, and the worker has no ticket after. -/
theorem writeQuiet (h : m.SendInv) {d : String} {v v' : DeliveryView} {event : OutboxEvent}
    {stage : WorkerStage} (hv : m.row d = some v) (hkind : v'.kind = v.kind)
    (hworker : event.worker = w) (hstore : event.OfStore) (hticket : stage.ticket = none)
    (hbarred : (m.write w d v' event stage).Hot d → v.Barred → v'.Barred)
    (hleased : ∀ w', v'.LeasedTo w' → w' = w)
    (hfresh : ∀ copy, stage = .holding copy ∨ stage = .unsure copy → copy.kind.SentOnce →
      pyStrip copy.providerOperationKey = "" → copy.deliveryId = d ∧ ¬ m.Hot d) :
    (m.write w d v' event stage).SendInv := by
  have hrow : ∀ d', (m.write w d v' event stage).row d' = if d' = d then some v' else m.row d' :=
    fun d' => Function.update_apply m.row d (some v') d'
  have hstage : ∀ w', (m.write w d v' event stage).stage w' =
      if w' = w then stage else m.stage w' := fun w' => Function.update_apply m.stage w stage w'
  refine h.quiet (.write hv hkind hworker hstore hticket) ?_ ?_
  · intro d' u hhot hu hb
    rw [hrow]
    split
    · rename_i hd
      subst hd
      rw [hv] at hu
      obtain rfl := Option.some.inj hu
      exact ⟨v', rfl, hbarred hhot hb⟩
    · exact ⟨u, hu, hb⟩
  · intro w' copy u hholds hkind' hkey hu hlease
    rw [hstage] at hholds
    rw [hrow] at hu
    split at hholds
    · obtain ⟨rfl, hcold⟩ := hfresh copy hholds hkind' hkey
      exact hcold
    · rename_i hw
      split at hu
      · obtain rfl := Option.some.inj hu
        exact absurd (hleased w' hlease) hw
      · exact h.fresh w' copy u hholds hkind' hkey hu hlease

/-- A row is written that is leased to nobody, and is barred if one stood there. -/
theorem writeFree (h : m.SendInv) {d : String} {v' : DeliveryView}
    (hsame : ∀ v, m.row d = some v → v'.kind = v.kind ∧ v'.Barred)
    (hfree : v'.state ≠ .running) :
    SendInv { m with row := Function.update m.row d (some v') } := by
  have hrow : ∀ d', Function.update m.row d (some v') d' = if d' = d then some v' else m.row d' :=
    fun d' => Function.update_apply m.row d (some v') d'
  refine h.quiet ⟨.inl rfl, fun w => .inl rfl, ?_⟩ ?_ ?_
  · intro d' u hu
    show ∃ v, Function.update m.row d (some v') d' = some v ∧ _
    rw [hrow]
    split
    · rename_i hd
      exact ⟨v', rfl, (hsame u (hd ▸ hu)).1⟩
    · exact ⟨u, hu, rfl⟩
  · intro d' u _ hu hb
    show ∃ v, Function.update m.row d (some v') d' = some v ∧ _
    rw [hrow]
    split
    · rename_i hd
      exact ⟨v', rfl, (hsame u (hd ▸ hu)).2⟩
    · exact ⟨u, hu, hb⟩
  · intro w copy u hholds hkind hkey hu hlease
    simp only [hrow] at hu
    split at hu
    · obtain rfl := Option.some.inj hu
      exact absurd hlease.1 hfree
    · exact h.fresh w copy u hholds hkind hkey hu hlease

/-- The marker of a worker whose delivery is not hot gives it the ticket. -/
theorem markTicket (h : m.SendInv) {copy : OutboxDeliveryRecord} {v v' : DeliveryView}
    {row : OutboxDeliveryRow} {now : Nat} (hkind : copy.kind.SentOnce)
    (hv : m.row copy.deliveryId = some v) (hcold : ¬ m.Hot copy.deliveryId)
    (hkeep : v'.kind = v.kind) (hkey : v'.providerOperationKey ≠ "")
    (hleased : ∀ w', v'.LeasedTo w' → w' = w) (hmark : JustMarked w copy.deliveryId
      (.marked w row now :: m.log)) :
    (m.write w copy.deliveryId v' (.marked w row now) (.marked copy)).SendInv := by
  have hrow : ∀ d', (m.write w copy.deliveryId v' (.marked w row now) (.marked copy)).row d' =
      if d' = copy.deliveryId then some v' else m.row d' :=
    fun d' => Function.update_apply m.row copy.deliveryId (some v') d'
  have hstage : ∀ w', (m.write w copy.deliveryId v' (.marked w row now) (.marked copy)).stage w' =
      if w' = w then .marked copy else m.stage w' :=
    fun w' => Function.update_apply m.stage w (.marked copy) w'
  have hkinds : ∀ d kind, (∃ u, m.row d = some u ∧ u.kind = kind) →
      ∃ u, (m.write w copy.deliveryId v' (.marked w row now) (.marked copy)).row d = some u ∧
        u.kind = kind := by
    rintro d kind ⟨u, hu, hk⟩
    rw [hrow]
    split
    · rename_i hd
      rw [hd, hv] at hu
      obtain rfl := Option.some.inj hu
      exact ⟨v', rfl, hkeep.trans hk⟩
    · exact ⟨u, hu, hk⟩
  have hopen : ∀ {d w' route mid}, OpenSend (.marked w row now :: m.log) d w' route mid →
      ∃ mid', mid = .marked w row now :: mid' ∧ OpenSend m.log d w' route mid' := by
    intro d w' route mid hmid
    rcases hmid.of_cons with ⟨heq, -⟩ | hold
    · cases heq
    · exact hold
  have hhot : ∀ d, (m.write w copy.deliveryId v' (.marked w row now) (.marked copy)).Hot d →
      d = copy.deliveryId ∨ m.Hot d := by
    rintro d (⟨w', held, hticket, hid⟩ | ⟨w', route, mid, hmid⟩)
    · rw [hstage] at hticket
      split at hticket
      · obtain rfl := Option.some.inj hticket
        exact .inl hid.symm
      · exact .inr (.inl ⟨w', held, hticket, hid⟩)
    · obtain ⟨mid', -, hold⟩ := hopen hmid
      exact .inr (.inr ⟨w', route, mid', hold⟩)
  constructor
  case startedKind =>
    intro w' d route hmem
    rcases List.mem_cons.mp hmem with heq | hold
    · cases heq
    · exact hkinds d _ (h.startedKind w' d route hold)
  case refusedKind =>
    intro w' d hmem
    rcases List.mem_cons.mp hmem with heq | hold
    · cases heq
    · exact hkinds d _ (h.refusedKind w' d hold)
  case ticketKind =>
    intro w' held hticket
    rw [hstage] at hticket
    split at hticket
    · obtain rfl := Option.some.inj hticket
      exact hkind
    · exact h.ticketKind w' held hticket
  case routeKind =>
    intro w' held route hsending
    rw [hstage] at hsending
    split at hsending
    · cases hsending
    · exact h.routeKind w' held route hsending
  case refusedRoute =>
    intro w' held route hrefused
    rw [hstage] at hrefused
    split at hrefused
    · cases hrefused
    · exact h.refusedRoute w' held route hrefused
  case hot =>
    intro d hd
    rw [hrow]
    split
    · exact ⟨v', rfl, .inr hkey⟩
    · rename_i hne
      exact h.hot d ((hhot d hd).resolve_left hne)
  case fresh =>
    intro w' held u hholds hkind' hkey' hu hlease hd
    rw [hstage] at hholds
    rw [hrow] at hu
    split at hholds
    · simp at hholds
    · rename_i hw
      split at hu
      · obtain rfl := Option.some.inj hu
        exact hw (hleased w' hlease)
      · rename_i hne
        exact h.fresh w' held u hholds hkind' hkey' hu hlease ((hhot _ hd).resolve_left hne)
  case unique =>
    intro w₁ w₂ held₁ held₂ hticket₁ hticket₂ hid
    rw [hstage] at hticket₁ hticket₂
    split at hticket₁ <;> split at hticket₂
    · simp [*]
    · obtain rfl := Option.some.inj hticket₁
      exact absurd (.inl ⟨w₂, held₂, hticket₂, hid⟩) hcold
    · obtain rfl := Option.some.inj hticket₂
      exact absurd (.inl ⟨w₁, held₁, hticket₁, hid.symm⟩) hcold
    · exact h.unique w₁ w₂ held₁ held₂ hticket₁ hticket₂ hid
  case own =>
    intro w₁ held w' route mid hticket hmid
    obtain ⟨mid', rfl, hold⟩ := hopen hmid
    rw [hstage] at hticket ⊢
    split at hticket
    · obtain rfl := Option.some.inj hticket
      exact absurd (.inr ⟨w', route, mid', hold⟩) hcold
    · rename_i hw
      rw [if_neg hw, ownEvents_cons_of_ne (Ne.symm hw)]
      exact h.own w₁ held w' route mid' hticket hold
  case marked =>
    intro w' held hmarked
    rw [hstage] at hmarked
    split at hmarked
    · rename_i hw
      obtain rfl := WorkerStage.marked.inj hmarked
      subst hw
      exact hmark
    · rename_i hw
      obtain ⟨row', now', own, hown, hrest⟩ := h.marked w' held hmarked
      exact ⟨row', now', own, (ownEvents_cons_of_ne (Ne.symm hw)).trans hown, hrest⟩

/-- The one who has the ticket goes on with its send. -/
theorem sendOn (h : m.SendInv) {copy : OutboxDeliveryRecord} {v : DeliveryView}
    {event : OutboxEvent} {stage : WorkerStage} (hold : (m.stage w).ticket = some copy)
    (hnew : stage.ticket = some copy) (hworker : event.worker = w)
    (hv : m.row copy.deliveryId = some v)
    (hstart : ∀ w' d route, event = .started w' d route →
      d = copy.deliveryId ∧ v.kind = route.kind)
    (hrefuse : ∀ w' d, event = .answered w' d true →
      d = copy.deliveryId ∧ v.kind = .publicIngressNotification)
    (hroute : ∀ held route, stage = .sending held route → held.kind = route.kind)
    (hrefused : ∀ held route, stage = .answered held route true → route = .discordWebhook)
    (hmarked : ∀ held, stage ≠ .marked held)
    (hown : ∀ w' route mid, OpenSend (event :: m.log) copy.deliveryId w' route mid →
      w' = w ∧ stage.sinceStart w = some (ownEvents w mid)) :
    (m.send w event stage).SendInv := by
  have hstage : ∀ w', (m.send w event stage).stage w' = if w' = w then stage else m.stage w' :=
    fun w' => Function.update_apply m.stage w stage w'
  have hticket : ∀ w' held, ((m.send w event stage).stage w').ticket = some held →
      (m.stage w').ticket = some held := by
    intro w' held hw'
    rw [hstage] at hw'
    split at hw'
    · rename_i hw
      rw [hw, hold, ← hnew, hw']
    · exact hw'
  have hhot : ∀ d, (m.send w event stage).Hot d → m.Hot d := by
    rintro d (⟨w', held, hw', hid⟩ | ⟨w', route, mid, hmid⟩)
    · exact .inl ⟨w', held, hticket w' held hw', hid⟩
    · rcases hmid.of_cons with ⟨heq, -⟩ | ⟨mid', -, hopen⟩
      · exact .inl ⟨w, copy, hold, (hstart w' d route heq).1.symm⟩
      · exact .inr ⟨w', route, mid', hopen⟩
  constructor
  case startedKind =>
    intro w' d route hmem
    rcases List.mem_cons.mp hmem with heq | hmem
    · obtain ⟨rfl, hkind⟩ := hstart w' d route heq.symm
      exact ⟨v, hv, hkind⟩
    · exact h.startedKind w' d route hmem
  case refusedKind =>
    intro w' d hmem
    rcases List.mem_cons.mp hmem with heq | hmem
    · obtain ⟨rfl, hkind⟩ := hrefuse w' d heq.symm
      exact ⟨v, hv, hkind⟩
    · exact h.refusedKind w' d hmem
  case ticketKind => exact fun w' held hw' => h.ticketKind w' held (hticket w' held hw')
  case routeKind =>
    intro w' held route hsending
    rw [hstage] at hsending
    split at hsending
    · exact hroute held route hsending
    · exact h.routeKind w' held route hsending
  case refusedRoute =>
    intro w' held route hanswered
    rw [hstage] at hanswered
    split at hanswered
    · exact hrefused held route hanswered
    · exact h.refusedRoute w' held route hanswered
  case hot => exact fun d hd => h.hot d (hhot d hd)
  case fresh =>
    intro w' held u hholds hkind hkey hu hleased hd
    refine h.fresh w' held u ?_ hkind hkey hu hleased (hhot _ hd)
    rw [hstage] at hholds
    split at hholds
    · -- the one who goes on holds no copy without a ticket
      rcases hholds with rfl | rfl <;> cases hnew
    · exact hholds
  case unique =>
    exact fun w₁ w₂ held₁ held₂ h₁ h₂ =>
      h.unique w₁ w₂ held₁ held₂ (hticket w₁ held₁ h₁) (hticket w₂ held₂ h₂)
  case own =>
    intro w₁ held w' route mid hw₁ hmid
    have hbefore := hticket w₁ held hw₁
    rw [hstage]
    split
    · rename_i hw
      subst hw
      obtain rfl := Option.some.inj (hold.symm.trans hbefore)
      exact hown w' route mid hmid
    · rename_i hw
      rcases hmid.of_cons with ⟨heq, -⟩ | ⟨mid', rfl, hopen⟩
      · exact absurd (h.unique w w₁ copy held hold hbefore (hstart w' _ route heq).1) hw
      · rw [ownEvents_cons_of_ne (fun heq => hw (heq.symm.trans hworker))]
        exact h.own w₁ held w' route mid' hbefore hopen
  case marked =>
    intro w' held hw'
    rw [hstage] at hw'
    split at hw'
    · exact absurd hw' (hmarked held)
    · rename_i hw
      obtain ⟨row, now, own, hown', hrest⟩ := h.marked w' held hw'
      refine ⟨row, now, own, ?_, hrest⟩
      exact (ownEvents_cons_of_ne (fun heq => hw (heq.symm.trans hworker))).trans hown'

/-- The one who has the ticket starts its send. -/
theorem start (h : m.SendInv) {copy : OutboxDeliveryRecord} {route : SendRoute}
    (hstage : m.stage w = .marked copy) (hkind : copy.kind = route.kind) {v : DeliveryView}
    (hv : m.row copy.deliveryId = some v) (hsame : v.kind = copy.kind) :
    (m.send w (.started w copy.deliveryId route) (.sending copy route)).SendInv := by
  have hticket : (m.stage w).ticket = some copy := by
    rw [hstage]
    rfl
  refine h.sendOn hticket rfl rfl hv ?_ (by simp) ?_ (by simp) (by simp) ?_
  · rintro w' d route' heq
    obtain ⟨-, rfl, rfl⟩ := OutboxEvent.started.inj heq
    exact ⟨rfl, hsame.trans hkind⟩
  · rintro held route' heq
    obtain ⟨rfl, rfl⟩ := WorkerStage.sending.inj heq
    exact hkind
  · intro w' route' mid hmid
    rcases hmid.of_cons with ⟨heq, rfl⟩ | ⟨mid', -, hopen⟩
    · obtain ⟨rfl, -, -⟩ := OutboxEvent.started.inj heq
      exact ⟨rfl, rfl⟩
    · -- before its start, no send of the delivery is open
      obtain ⟨-, hsince⟩ := h.own w copy w' route' mid' hticket hopen
      rw [hstage] at hsince
      cases hsince

/-- The send is answered. -/
theorem answer (h : m.SendInv) {copy : OutboxDeliveryRecord} {route : SendRoute} {refused : Bool}
    (hstage : m.stage w = .sending copy route)
    (hrefused : refused = true → route = .discordWebhook) {v : DeliveryView}
    (hv : m.row copy.deliveryId = some v) (hsame : v.kind = copy.kind) :
    (m.send w (.answered w copy.deliveryId refused) (.answered copy route refused)).SendInv := by
  have hticket : (m.stage w).ticket = some copy := by
    rw [hstage]
    rfl
  refine h.sendOn hticket rfl rfl hv (by simp) ?_ (by simp) ?_ (by simp) ?_
  · rintro w' d heq
    obtain ⟨-, rfl, rfl⟩ := OutboxEvent.answered.inj heq
    refine ⟨rfl, ?_⟩
    rw [hsame, h.routeKind w copy route hstage, hrefused rfl]
    rfl
  · rintro held route' heq
    obtain ⟨-, rfl, rfl⟩ := WorkerStage.answered.inj heq
    exact hrefused rfl
  · intro w' route' mid hmid
    rcases hmid.of_cons with ⟨heq, -⟩ | ⟨mid', rfl, hopen⟩
    · cases heq
    · obtain ⟨rfl, hsince⟩ := h.own w copy w' route' mid' hticket hopen
      rw [hstage] at hsince
      have hmine : (OutboxEvent.answered w' copy.deliveryId refused).worker = w' := rfl
      rw [ownEvents_cons_of_worker hmine, ← Option.some.inj hsince]
      exact ⟨rfl, rfl⟩

/-- What is still hot after its holder reported was hot before, and not by the holder's ticket. -/
theorem not_unsent_of_hot (h : m.SendInv) {copy : OutboxDeliveryRecord} {v v' : DeliveryView}
    {row : OutboxDeliveryRow} {now : Nat} (hcopy : (m.stage w).copy = some copy)
    (hd : row.record.deliveryId = copy.deliveryId) (hkind : copy.kind.SentOnce)
    (hv : m.row copy.deliveryId = some v) (hleased : v.LeasedTo w) (hkeep : v'.kind = v.kind)
    (hhot : (m.write w copy.deliveryId v' (.completed w row now) .done).Hot copy.deliveryId) :
    ¬ (m.stage w).Unsent := by
  intro hunsent
  have hcools : Cools m (m.write w copy.deliveryId v' (.completed w row now) .done) :=
    .write hv hkeep rfl trivial rfl
  -- the ticket for a delivery is the holder's own, and the report gives it up
  have hopen : ∀ held, (m.stage w).ticket = some held → held = copy →
      ∃ w' route mid, OpenSend (.completed w row now :: m.log) copy.deliveryId w' route mid := by
    rintro held hticket rfl
    rcases hhot with ⟨w', held', hticket', hid⟩ | hopen
    · have hsame := hcools.stage_of_ticket hticket'
      obtain rfl := h.unique w w' held held' hticket (hsame ▸ hticket') hid
      rw [show (m.write w' held.deliveryId v' (.completed w' row now) .done).stage w' = .done from
        Function.update_self ..] at hticket'
      cases hticket'
    · exact hopen
  cases hstage : m.stage w with
  | holding held =>
      rw [hstage] at hcopy hunsent
      obtain rfl := Option.some.inj hcopy
      exact h.fresh w held v (.inl hstage) hkind hunsent hv hleased (hcools.hot hhot)
  | unsure held =>
      rw [hstage] at hcopy hunsent
      obtain rfl := Option.some.inj hcopy
      exact h.fresh w held v (.inr hstage) hkind hunsent hv hleased (hcools.hot hhot)
  | marked held =>
      rw [hstage] at hcopy hopen
      obtain rfl := Option.some.inj hcopy
      obtain ⟨w', route, mid, hmid⟩ := hopen held rfl rfl
      rcases hmid.of_cons with ⟨heq, -⟩ | ⟨mid', -, hbefore⟩
      · cases heq
      · obtain ⟨-, hsince⟩ := h.own w held w' route mid' (by rw [hstage]; rfl) hbefore
        rw [hstage] at hsince
        cases hsince
  | answered held route refused =>
      rw [hstage] at hcopy hunsent hopen
      obtain rfl := Option.some.inj hcopy
      obtain ⟨-, -, rfl⟩ := hunsent
      obtain ⟨w', route', mid, hmid⟩ := hopen held rfl rfl
      rcases hmid.of_cons with ⟨heq, -⟩ | ⟨mid', rfl, hbefore⟩
      · cases heq
      · -- refused, and now completed
        obtain ⟨rfl, hsince⟩ := h.own w held w' route' mid' (by rw [hstage]; rfl) hbefore
        rw [hstage] at hsince
        refine hmid.2 ⟨[], row, now, ?_, hd⟩
        have hmine : (OutboxEvent.completed w' row now).worker = w' := rfl
        rw [ownEvents_cons_of_worker hmine, ← Option.some.inj hsince]
        rfl
  | idle => simp [hstage, WorkerStage.Unsent] at hunsent
  | sending held route => simp [hstage, WorkerStage.Unsent] at hunsent
  | done => simp [hstage, WorkerStage.Unsent] at hunsent

/-- A worker reports: the row of a delivery that is still hot keeps its marker or ends. -/
theorem complete (h : m.SendInv) (hrows : m.RowInv) {copy result : OutboxDeliveryRecord}
    {v v' : DeliveryView} {row : OutboxDeliveryRow} {now : Nat}
    (hcopy : (m.stage w).copy = some copy) (hreports : (m.stage w).Reports copy result)
    (hd : row.record.deliveryId = copy.deliveryId) (hv : m.row copy.deliveryId = some v)
    (hleased : v.LeasedTo w) (hkind : v'.kind = v.kind) (hstate : v'.state = result.state)
    (hkey : v'.providerOperationKey = pyStrip result.providerOperationKey)
    (hrelease : v'.state ≠ .running) :
    (m.write w copy.deliveryId v' (.completed w row now) .done).SendInv := by
  refine h.writeQuiet hv hkind rfl trivial rfl ?_ (fun w' hw' => absurd hw'.1 hrelease) (by simp)
  intro hhot _
  by_contra hopen
  obtain ⟨hlive, hblank⟩ := not_or.mp hopen
  have hcools : Cools m (m.write w copy.deliveryId v' (.completed w row now) .done) :=
    .write hv hkind rfl trivial rfl
  have hbefore : m.Hot copy.deliveryId := hcools.hot hhot
  have hsent : copy.kind.SentOnce := by
    obtain ⟨u, hu, hk, -⟩ := hrows.held w copy hcopy
    rw [← hk]
    exact h.sentOnce_of_hot hrows hbefore hu
  refine h.not_unsent_of_hot hcopy hd hsent hv hleased hkind hhot (hreports.key hsent ?_ ?_)
  · rwa [← hstate]
  · rw [← hkey]
    exact not_not.mp hblank

/-- **A step keeps the invariant of the sends.** -/
theorem step (h : m.SendInv) (hrows : m.RowInv) (hstep : Step m m') : m'.SendInv := by
  cases hstep with
  | forget w hforgets => exact h.forget hforgets
  | @claim w v row expiresAt stage hv hfree hbound hexpires hrow hstage =>
      have hcopy : ∀ copy, stage = .holding copy ∨ stage = .unsure copy → copy = row.record := by
        rintro copy (rfl | rfl) <;> rcases hstage with heq | heq
        · exact WorkerStage.holding.inj heq
        · cases heq
        · cases heq
        · cases heq
      refine h.writeQuiet hv (by rw [hrow]) rfl trivial ?_ ?_ ?_ ?_
      · rcases hstage with rfl | rfl <;> rfl
      · rintro - (hended | hkey)
        · exact absurd hended hfree.1
        · right
          rw [hrow]
          exact hkey
      · intro w' hw'
        exact LeaseOwner.ext (hw'.2.symm.trans (by rw [hrow]))
      · intro copy hholds hkind hkey
        obtain rfl := hcopy copy hholds
        refine ⟨rfl, fun hhot => ?_⟩
        obtain ⟨u, hu, hbarred⟩ := h.hot _ hhot
        obtain rfl := Option.some.inj (hv.symm.trans hu)
        -- who claims a row that is barred gets a copy with its marker
        refine (hbarred.resolve_left hfree.1) ?_
        have hsame : row.record.providerOperationKey = v.providerOperationKey :=
          congrArg DeliveryView.providerOperationKey hrow
        rw [← hsame, ← row.pyStrip_providerOperationKey]
        exact hkey
  | @exhaust d v v' hv hfree hkind hattempt hmax hstate =>
      refine h.writeFree ?_ (by simp [hstate])
      intro u hu
      obtain rfl := Option.some.inj (hv.symm.trans hu)
      exact ⟨hkind, .inl (.inr hstate)⟩
  | @mark w copy v row expiresAt stage hcopy hd hv hleased hlease hlive hrow hkey hstage =>
      have hleased' : ∀ w', row.view.LeasedTo w' → w' = w := by
        intro w' hw'
        rw [hrow] at hw'
        exact owner_unique hleased hw'
      rcases hstage with rfl | ⟨hholding, hkind, hblank, rfl⟩
      · refine h.writeQuiet hv (by rw [hrow]) rfl trivial rfl (fun _ _ => .inr hkey) hleased' ?_
        intro held hholds hkind hkey'
        have heq : held = copy := by
          rcases hholds with h | h
          · cases h
          · exact (WorkerStage.unsure.inj h).symm
        subst heq
        exact ⟨rfl, h.fresh w held v hcopy hkind hkey' hv hleased⟩
      · have hstripped : pyStrip copy.providerOperationKey = "" := by
          rw [hrows.stripped w copy hholding, hblank]
        have hcold := h.fresh w copy v (.inl hholding) hkind hstripped hv hleased
        refine h.markTicket hkind hv hcold (by rw [hrow]) hkey hleased' ?_
        have hmine : (OutboxEvent.marked w row m.clock).worker = w := rfl
        refine ⟨row, m.clock, _, ownEvents_cons_of_worker hmine, hd, hkey, ?_, ?_, expiresAt, ?_,
          hlive⟩
        · exact (congrArg DeliveryView.state hrow).trans hleased.1
        · exact (congrArg DeliveryView.leaseOwner hrow).trans hleased.2
        · exact (congrArg DeliveryView.leaseExpiresAt hrow).trans hlease
  | @start w copy route hstage hkind =>
      obtain ⟨v, hv, hsame, -⟩ := hrows.held w copy (by rw [hstage]; rfl)
      exact h.start hstage hkind hv hsame
  | @answer w copy route refused hstage hrefused =>
      obtain ⟨v, hv, hsame, -⟩ := hrows.held w copy (by rw [hstage]; rfl)
      exact h.answer hstage hrefused hv hsame
  | @complete w copy result v row expiresAt hcopy hreports hd hv hleased hlease hlive hrow hstate =>
      obtain ⟨u, hu, hk, -⟩ := hrows.held w copy hcopy
      obtain rfl := Option.some.inj (hv.symm.trans hu)
      refine h.complete hrows hcopy hreports hd hv hleased ?_ (by rw [hrow]) (by rw [hrow]) ?_
      · rw [hrow, hk]
        exact hreports.kind
      · rw [hrow]
        exact hstate
  | tick hnow =>
      exact h.quiet ⟨.inl rfl, fun w => .inl rfl, fun d v hv => ⟨v, hv, rfl⟩⟩
        (fun d v _ hv hb => ⟨v, hv, hb⟩) h.fresh
  | @enqueue d v hnew hstate hattempt =>
      refine h.writeFree ?_ (by simp [hstate])
      intro u hu
      rw [hnew] at hu
      cases hu

end SendInv

end Machine

end Launchplane.Outbox
