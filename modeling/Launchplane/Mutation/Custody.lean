import Launchplane.Mutation.World

/-!
# Launchplane.Mutation.Custody

**The rows, and who holds what.** The rows that are not completed are what the log
says of the targets: who acquired a target last and has not left it has the row
that stands for it, with the evidence that was recorded last.
-/

namespace Launchplane.Mutation

variable {ω : Type} {target : String} {w : ω}

/-! ### Reading the log -/

namespace Event

/-- The target that an event is about. -/
def about : Event ω → Option String
  | acquired _ record _ | checkpointed _ record | released _ record | ended _ record _ =>
      some record.providerTargetKey
  | _ => none

end Event

namespace Log

variable {log log' : Log ω} {event : Event ω} {record : IdempotencyRecord}

/-- The call has acquired a reservation. -/
def Acquired (log : Log ω) (w : ω) : Prop :=
  ∃ record means, Event.acquired w record means ∈ log

/-- The call has its target, as this reservation. -/
structure Holds (log : Log ω) (w : ω) (record : IdempotencyRecord) : Prop where
  holder : log.holder record.providerTargetKey = some (w, record.key)
  held : log.vacant record.providerTargetKey = false

/-- Both logs say the same of a target. -/
structure SameFor (target : String) (log log' : Log ω) : Prop where
  holder : log'.holder target = log.holder target
  vacant : log'.vacant target = log.vacant target
  evidence : log'.evidence target = log.evidence target

theorem sameFor_cons (h : event.about ≠ some target) : SameFor target log (event :: log) := by
  cases event with
  | acquired w record means =>
      have hne : record.providerTargetKey ≠ target := fun heq => h (congrArg some heq)
      exact ⟨by simp [holder, hne], by simp [vacant, Event.takes, Event.leaves, hne],
        by simp [evidence, hne]⟩
  | checkpointed w record =>
      have hne : record.providerTargetKey ≠ target := fun heq => h (congrArg some heq)
      exact ⟨by simp [holder], by simp [vacant, Event.takes, Event.leaves], by simp [evidence, hne]⟩
  | released w record =>
      have hne : record.providerTargetKey ≠ target := fun heq => h (congrArg some heq)
      exact ⟨by simp [holder], by simp [vacant, Event.takes, Event.leaves, hne], by simp [evidence]⟩
  | ended w record ending =>
      have hne : record.providerTargetKey ≠ target := fun heq => h (congrArg some heq)
      exact ⟨by simp [holder], by simp [vacant, Event.takes, Event.leaves, hne], by simp [evidence]⟩
  | dispatched w => exact ⟨rfl, rfl, rfl⟩
  | observed w key evidence observation => exact ⟨rfl, rfl, rfl⟩
  | quiescent w reservation => exact ⟨rfl, rfl, rfl⟩

/-- Acquiring a target is holding it. -/
theorem holds_acquired (means : Means) : Log.Holds (.acquired w record means :: log) w record ∧
    Log.evidence record.providerTargetKey (.acquired w record means :: log) = record.evidence :=
  ⟨⟨by simp [holder], by simp [vacant, Event.takes]⟩, by simp [evidence]⟩

theorem holds_checkpointed (h : log.Holds w record) :
    Log.Holds (.checkpointed w record :: log) w record ∧
      Log.evidence record.providerTargetKey (.checkpointed w record :: log) = record.evidence :=
  ⟨⟨by simp [holder, h.holder], by simp [vacant, Event.takes, Event.leaves, h.held]⟩,
    by simp [evidence]⟩

theorem vacant_of_leaves (htakes : event.takes target = false) (hleaves : event.leaves target = true) :
    vacant target (event :: log) = true := by
  simp [vacant, htakes, hleaves]

/-- Only whoever acquires a target, or records an effect on it, interrupts what was seen of it. -/
theorem since_cons (htakes : event.takes target = false) (hrecords : event.records target = false) :
    since target (event :: log) = event :: since target log := by
  simp [since, htakes, hrecords]

theorem holder_cons (h : event.takes target = false) :
    holder target (event :: log) = holder target log := by
  cases event with
  | acquired w record means =>
      have hne : record.providerTargetKey ≠ target := by simpa [Event.takes] using h
      simp [holder, hne]
  | _ => rfl

theorem acquired_cons (hother : ∀ record means, event ≠ .acquired w record means) :
    Acquired (event :: log) w ↔ Acquired log w := by
  unfold Acquired
  constructor
  · rintro ⟨record, means, hmem⟩
    exact ⟨record, means, (List.mem_cons.mp hmem).resolve_left (hother record means ·.symm)⟩
  · rintro ⟨record, means, hmem⟩
    exact ⟨record, means, List.mem_cons_of_mem _ hmem⟩

theorem Acquired.cons (h : Acquired log w) : Acquired (event :: log) w := by
  obtain ⟨record, means, hmem⟩ := h
  exact ⟨record, means, List.mem_cons_of_mem _ hmem⟩

end Log

/-! ### The rows -/

/-- The rows by their keys. -/
abbrev Rows : Type := ReservationKey → Option IdempotencyRecord

/-- The owner of a record is a call that has acquired something. -/
def Met (owner : ω → String) (log : Log ω) (record : IdempotencyRecord) : Prop :=
  ∃ w, log.Acquired w ∧ owner w = record.leaseOwner

/-- The rows are what the log says of the targets. -/
structure Agrees (owner : ω → String) (rows : Rows) (log : Log ω) : Prop where
  key : ∀ key record, rows key = some record → record.key = key
  target : ∀ key record, rows key = some record → record.providerTargetKey ≠ ""
  met : ∀ key record, rows key = some record → Met owner log record
  once : ∀ key record, rows key = some record → ∀ key' record', rows key' = some record' →
    record.leaseOwner = record'.leaseOwner → key = key'
  held : ∀ key record, rows key = some record → record.state ≠ .completed →
    ∃ w, owner w = record.leaseOwner ∧ log.Holds w record ∧
      log.evidence record.providerTargetKey = record.evidence
  row : ∀ target, log.vacant target = false → ∃ key record, rows key = some record ∧
    record.state ≠ .completed ∧ record.providerTargetKey = target

namespace Agrees

variable {owner : ω → String} {rows rows' : Rows} {log log' : Log ω} {key : ReservationKey}
  {old new : IdempotencyRecord}

/-- No two rows that are not completed stand for the same target. -/
theorem key_eq (h : Agrees owner rows log) (hnew : rows key = some new) {key' : ReservationKey}
    (hold : rows key' = some old) (hopen : new.state ≠ .completed) (hopen' : old.state ≠ .completed)
    (htarget : new.providerTargetKey = old.providerTargetKey) : key = key' := by
  obtain ⟨w, -, hholds, -⟩ := h.held key new hnew hopen
  obtain ⟨w', -, hholds', -⟩ := h.held key' old hold hopen'
  have hsame := hholds.holder.symm.trans (htarget ▸ hholds'.holder)
  rw [← h.key key new hnew, ← h.key key' old hold]
  exact (Prod.mk.inj (Option.some.inj hsame)).2

/-- A row that stands for a target is written: for a target that nobody has, or by who has it. -/
theorem put (h : Agrees owner rows log)
    (hput : ∀ key, rows' key = if key = new.key then some new else rows key)
    (hopen : new.state ≠ .completed) (htarget : new.providerTargetKey ≠ "")
    (hplace : (rows new.key = none ∧ log.vacant new.providerTargetKey = true) ∨
      ∃ old, rows new.key = some old ∧ old.state ≠ .completed ∧
        old.providerTargetKey = new.providerTargetKey)
    (hholds : owner w = new.leaseOwner ∧ log'.Holds w new ∧
      log'.evidence new.providerTargetKey = new.evidence)
    (hother : ∀ target ≠ new.providerTargetKey, log.SameFor target log')
    (honce : ∀ key record, rows key = some record → record.leaseOwner = new.leaseOwner →
      key = new.key)
    (hmet : Met owner log' new) (hmono : ∀ w, log.Acquired w → log'.Acquired w) :
    Agrees owner rows' log' where
  key key record hrecord := by
    rw [hput] at hrecord
    split_ifs at hrecord with hkey
    · exact Option.some.inj hrecord ▸ hkey.symm
    · exact h.key key record hrecord
  target key record hrecord := by
    rw [hput] at hrecord
    split_ifs at hrecord
    · exact Option.some.inj hrecord ▸ htarget
    · exact h.target key record hrecord
  met key record hrecord := by
    rw [hput] at hrecord
    split_ifs at hrecord
    · exact Option.some.inj hrecord ▸ hmet
    · obtain ⟨v, hv, howner⟩ := h.met key record hrecord
      exact ⟨v, hmono v hv, howner⟩
  once key record hrecord key' record' hrecord' hsame := by
    rw [hput] at hrecord hrecord'
    split_ifs at hrecord hrecord' with hkey hkey' hkey'
    · exact hkey.trans hkey'.symm
    · rw [← Option.some.inj hrecord] at hsame
      exact hkey.trans (honce key' record' hrecord' hsame.symm).symm
    · rw [← Option.some.inj hrecord'] at hsame
      exact (honce key record hrecord hsame).trans hkey'.symm
    · exact h.once key record hrecord key' record' hrecord' hsame
  held key record hrecord hstate := by
    rw [hput] at hrecord
    split_ifs at hrecord with hkey
    · exact Option.some.inj hrecord ▸ ⟨w, hholds⟩
    · obtain ⟨v, howner, hheld, hevidence⟩ := h.held key record hrecord hstate
      -- another row with the target would be held as well
      have hne : record.providerTargetKey ≠ new.providerTargetKey := by
        intro hsame
        rcases hplace with ⟨-, hvacant⟩ | ⟨old, hold, hopenOld, htargetOld⟩
        · rw [← hsame, hheld.held] at hvacant
          cases hvacant
        · exact hkey (h.key_eq hrecord hold hstate hopenOld (hsame.trans htargetOld.symm))
      have hsame := hother _ hne
      exact ⟨v, howner, ⟨hsame.holder.trans hheld.holder, hsame.vacant.trans hheld.held⟩,
        hsame.evidence.trans hevidence⟩
  row target hheld := by
    by_cases hne : target = new.providerTargetKey
    · exact ⟨new.key, new, by rw [hput, if_pos rfl], hopen, hne.symm⟩
    · rw [(hother target hne).vacant] at hheld
      obtain ⟨key, record, hrecord, hstate, hsame⟩ := h.row target hheld
      have hkey : key ≠ new.key := by
        rintro rfl
        rcases hplace with ⟨hnone, -⟩ | ⟨old, hold, -, htargetOld⟩
        · rw [hrecord] at hnone
          cases hnone
        · rw [hrecord] at hold
          cases hold
          exact hne (hsame.symm.trans htargetOld)
      exact ⟨key, record, by rw [hput, if_neg hkey, hrecord], hstate, hsame⟩

/-- A row that stands for a target does so no more: it is gone, or completed. -/
theorem settle {settled : Option IdempotencyRecord} (h : Agrees owner rows log)
    (hput : ∀ key', rows' key' = if key' = key then settled else rows key')
    (hold : rows key = some old) (hopen : old.state ≠ .completed)
    (hsettled : ∀ record, settled = some record → record.state = .completed ∧ record.key = old.key ∧
      record.leaseOwner = old.leaseOwner ∧ record.providerTargetKey = old.providerTargetKey)
    (hvacant : log'.vacant old.providerTargetKey = true)
    (hother : ∀ target ≠ old.providerTargetKey, log.SameFor target log')
    (hmono : ∀ w, log.Acquired w → log'.Acquired w) : Agrees owner rows' log' where
  key key' record hrecord := by
    rw [hput] at hrecord
    split_ifs at hrecord with hkey
    · rw [(hsettled record hrecord).2.1, h.key key old hold, hkey]
    · exact h.key key' record hrecord
  target key' record hrecord := by
    rw [hput] at hrecord
    split_ifs at hrecord with hkey
    · rw [(hsettled record hrecord).2.2.2]
      exact h.target key old hold
    · exact h.target key' record hrecord
  met key' record hrecord := by
    rw [hput] at hrecord
    split_ifs at hrecord with hkey
    · obtain ⟨v, hv, howner⟩ := h.met key old hold
      exact ⟨v, hmono v hv, howner.trans (hsettled record hrecord).2.2.1.symm⟩
    · obtain ⟨v, hv, howner⟩ := h.met key' record hrecord
      exact ⟨v, hmono v hv, howner⟩
  once key₁ record₁ hrecord₁ key₂ record₂ hrecord₂ hsame := by
    -- who has the settled row had the row before
    have hbefore : ∀ key' record, rows' key' = some record →
        ∃ before, rows key' = some before ∧ before.leaseOwner = record.leaseOwner := by
      intro key' record hrecord
      rw [hput] at hrecord
      split_ifs at hrecord with hkey
      · exact ⟨old, hkey ▸ hold, (hsettled record hrecord).2.2.1.symm⟩
      · exact ⟨record, hrecord, rfl⟩
    obtain ⟨before₁, hbefore₁, howner₁⟩ := hbefore key₁ record₁ hrecord₁
    obtain ⟨before₂, hbefore₂, howner₂⟩ := hbefore key₂ record₂ hrecord₂
    exact h.once _ _ hbefore₁ _ _ hbefore₂ (howner₁.trans (hsame.trans howner₂.symm))
  held key' record hrecord hstate := by
    rw [hput] at hrecord
    split_ifs at hrecord with hkey
    · exact absurd (hsettled record hrecord).1 hstate
    · obtain ⟨v, howner, hheld, hevidence⟩ := h.held key' record hrecord hstate
      have hsame := hother _ fun hsame => hkey (h.key_eq hrecord hold hstate hopen hsame)
      exact ⟨v, howner, ⟨hsame.holder.trans hheld.holder, hsame.vacant.trans hheld.held⟩,
        hsame.evidence.trans hevidence⟩
  row target hheld := by
    have hne : target ≠ old.providerTargetKey := by
      rintro rfl
      rw [hvacant] at hheld
      cases hheld
    rw [(hother target hne).vacant] at hheld
    obtain ⟨key', record, hrecord, hstate, hsame⟩ := h.row target hheld
    have hkey : key' ≠ key := by
      rintro rfl
      rw [hrecord] at hold
      cases hold
      exact hne hsame.symm
    exact ⟨key', record, by rw [hput, if_neg hkey, hrecord], hstate, hsame⟩

/-- Events that are about no target change nothing. -/
theorem cons {event : Event ω} (h : Agrees owner rows log) (hevent : event.about = none) :
    Agrees owner rows (event :: log) where
  key := h.key
  target := h.target
  met key record hrecord := by
    obtain ⟨v, hv, howner⟩ := h.met key record hrecord
    exact ⟨v, hv.cons, howner⟩
  once := h.once
  held key record hrecord hstate := by
    obtain ⟨v, howner, hheld, hevidence⟩ := h.held key record hrecord hstate
    have hsame : log.SameFor record.providerTargetKey (event :: log) :=
      Log.sameFor_cons fun heq => by cases hevent.symm.trans heq
    exact ⟨v, howner, ⟨hsame.holder.trans hheld.holder, hsame.vacant.trans hheld.held⟩,
      hsame.evidence.trans hevidence⟩
  row target hheld := by
    have hsame : log.SameFor target (event :: log) :=
      Log.sameFor_cons fun heq => by cases hevent.symm.trans heq
    exact h.row target (hsame.vacant.symm.trans hheld)

/-- A call that has acquired nothing owns no row. -/
theorem leaseOwner_ne (h : Agrees owner rows log) (howner : Function.Injective owner)
    (hnot : ¬log.Acquired w) (hold : rows key = some old) : old.leaseOwner ≠ owner w := by
  intro hsame
  obtain ⟨v, hv, hvOwner⟩ := h.met key old hold
  exact hnot (howner (hvOwner.trans hsame) ▸ hv)

/-- A holder has the row with its owner. -/
theorem holds_of_owner (h : Agrees owner rows log) (howner : Function.Injective owner)
    (hold : rows key = some old) (hopen : old.state ≠ .completed) (hw : old.leaseOwner = owner w) :
    log.Holds w old ∧ log.evidence old.providerTargetKey = old.evidence := by
  obtain ⟨v, hv, hholds⟩ := h.held key old hold hopen
  obtain rfl := howner (hv.trans hw)
  exact hholds

end Agrees

end Launchplane.Mutation
