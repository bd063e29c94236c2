import Launchplane.ProductReconcile.Entries

/-!
# Launchplane.ProductReconcile.NeverLost

**No request is lost.** A session changes a target only while it holds both of
its locks, and has read the row while it held one of them: nobody else can have
changed it since. So every write that is committed was made from the committed
record, and `Entries` says what that makes of the record.
-/

namespace Launchplane.ProductReconcile

variable {s t : State} {n m : Nat} {session other : Session} {key owner : String}

/-! ### What holds of a session -/

/-- The session belongs to a worker, which waits for the answer of its claim. -/
def ClaimedBy (s : State) (n : Nat) (session : Session) (owner : String) : Prop :=
  session.worker = some owner ∧ (session.alive = true → s.workers owner = .claiming n)

/-- The session belongs to the worker of a run. -/
def HeldBy (s : State) (session : Session) (run : Run) : Prop :=
  session.worker = some run.owner ∧ (session.alive = true → s.workers run.owner = .running run)

/-- What a session knows where it stands. -/
def Knows (s : State) (n : Nat) (session : Session) : Work → Prop
  | .folding _ => True
  | .foldRead target _ _ row _ =>
    target.key ∈ session.advisory ∧ (s.entries target.key).row = row
  | .claiming owner _ => ClaimedBy s n session owner
  | .claimObserved owner _ observedAt => ClaimedBy s n session owner ∧ observedAt ≤ s.clock
  | .claimListed owner _ observedAt rows =>
    ClaimedBy s n session owner ∧ observedAt ≤ s.clock ∧
      ∀ record ∈ rows, record.targetKey ∈ session.rowLocks ∧
        (s.entries record.targetKey).row = some record ∧ Claimable observedAt record
  | .claimLocked owner _ observedAt record =>
    ClaimedBy s n session owner ∧ observedAt ≤ s.clock ∧
      record.targetKey ∈ session.rowLocks ∧ record.targetKey ∈ session.advisory ∧
        (s.entries record.targetKey).row = some record ∧ Claimable observedAt record
  | .holding run _ => HeldBy s session run
  | .holdLocked run _ => HeldBy s session run ∧ run.key ∈ session.advisory
  | .holdRead run _ record | .holdObserved run _ record _ =>
    HeldBy s session run ∧ run.key ∈ session.advisory ∧ (s.entries run.key).row = some record ∧
      record.state = .running ∧
        latestClaim (s.entries run.key).past = some (run.owner, run.attempt)
  | .written (some run) =>
    ClaimedBy s n session run.owner ∧
      ∃ record, session.writes run.key = some (record, .claimed run.owner run.attempt)
  | .committing (some run) =>
    ∃ record, session.writes run.key = some (record, .claimed run.owner run.attempt)
  | .written none | .committing none => True

/-- What holds of session `n`. -/
structure SessionInv (s : State) (n : Nat) (session : Session) : Prop where
  /-- Its locks are its own. -/
  advisory : ∀ key ∈ session.advisory, s.AdvisoryFree n key
  rowLocks : ∀ key ∈ session.rowLocks, s.RowFree n key
  /-- It has both locks of what it writes, and writes it from what is committed. -/
  writes : ∀ key record event, session.writes key = some (record, event) →
    key ∈ session.advisory ∧ key ∈ session.rowLocks ∧
      Change key s.clock (s.entries key) record event
  /-- It claims nothing for a worker that runs it. -/
  claims : ∀ key record owner attempt,
    session.writes key = some (record, .claimed owner attempt) →
      ∀ run, s.workers owner = .running run → run.key ≠ key
  knows : Knows s n session session.work

/-- The invariant. -/
structure Inv (s : State) : Prop where
  entries : ∀ key, EntryInv key (s.entries key)
  sessions : ∀ n session, s.sessions n = some session → SessionInv s n session
  /-- A worker runs what it claimed: a claim of its target by it is that claim. -/
  runs : ∀ owner run, s.workers owner = .running run → run.owner = owner ∧
    ∀ attempt, latestClaim (s.entries run.key).past = some (owner, attempt) →
      attempt = run.attempt

theorem inv_initial (clock : Nat) : Inv (initial clock) where
  entries key := entryInv_empty key
  sessions n session h := by simp [initial] at h
  runs owner run h := by simp [initial] at h

/-! ### What the others do -/

/-- What must stay of a state for session `n` to go on. -/
structure Undisturbed (s t : State) (n : Nat) (session : Session) : Prop where
  clock : s.clock ≤ t.clock
  entries : ∀ key, key ∈ session.advisory ∨ key ∈ session.rowLocks → t.entries key = s.entries key
  advisory : ∀ key ∈ session.advisory, t.AdvisoryFree n key
  rowLocks : ∀ key ∈ session.rowLocks, t.RowFree n key
  worker : ∀ owner, session.worker = some owner → session.alive = true →
    session.isCommitting = false →
      s.workers owner = .claiming n ∨ (∃ run, s.workers owner = .running run) →
        t.workers owner = s.workers owner
  /-- A worker that has a run since then claimed another target. -/
  runs : ∀ owner run, t.workers owner = .running run → s.workers owner = .running run ∨
    run.key ∉ session.advisory

theorem ClaimedBy.undisturbed (h : ClaimedBy s n session owner) (hwork : session.isCommitting = false)
    (hsame : Undisturbed s t n session) : ClaimedBy t n session owner := by
  refine ⟨h.1, fun halive => ?_⟩
  have hclaiming := h.2 halive
  rw [hsame.worker owner h.1 halive hwork (.inl hclaiming), hclaiming]

theorem HeldBy.undisturbed {run : Run} (h : HeldBy s session run)
    (hwork : session.isCommitting = false) (hsame : Undisturbed s t n session) :
    HeldBy t session run := by
  refine ⟨h.1, fun halive => ?_⟩
  have hrunning := h.2 halive
  rw [hsame.worker run.owner h.1 halive hwork (.inr ⟨run, hrunning⟩), hrunning]

theorem Knows.undisturbed (h : Knows s n session session.work)
    (hsame : Undisturbed s t n session) : Knows t n session session.work := by
  have hclock := hsame.clock
  have hentry := hsame.entries
  cases hwork : session.work with
  | folding => trivial
  | foldRead target =>
    rw [hwork] at h
    exact ⟨h.1, by rw [hentry _ (.inl h.1)]; exact h.2⟩
  | claiming =>
    rw [hwork] at h
    exact ClaimedBy.undisturbed h (by simp [Session.isCommitting, hwork]) hsame
  | claimObserved =>
    rw [hwork] at h
    exact ⟨h.1.undisturbed (by simp [Session.isCommitting, hwork]) hsame, Nat.le_trans h.2 hclock⟩
  | claimListed _ _ _ rows =>
    rw [hwork] at h
    refine ⟨h.1.undisturbed (by simp [Session.isCommitting, hwork]) hsame,
      Nat.le_trans h.2.1 hclock, fun record hmem => ?_⟩
    obtain ⟨hlocked, hrow, hclaimable⟩ := h.2.2 record hmem
    exact ⟨hlocked, by rw [hentry _ (.inr hlocked)]; exact hrow, hclaimable⟩
  | claimLocked _ _ _ record =>
    rw [hwork] at h
    obtain ⟨hclaimed, hle, hlocked, hadvisory, hrow, hclaimable⟩ := h
    exact ⟨hclaimed.undisturbed (by simp [Session.isCommitting, hwork]) hsame,
      Nat.le_trans hle hclock, hlocked, hadvisory, by rw [hentry _ (.inr hlocked)]; exact hrow,
      hclaimable⟩
  | holding =>
    rw [hwork] at h
    exact HeldBy.undisturbed h (by simp [Session.isCommitting, hwork]) hsame
  | holdLocked =>
    rw [hwork] at h
    exact ⟨h.1.undisturbed (by simp [Session.isCommitting, hwork]) hsame, h.2⟩
  | holdRead run =>
    rw [hwork] at h
    obtain ⟨hheld, hadvisory, hread⟩ := h
    exact ⟨hheld.undisturbed (by simp [Session.isCommitting, hwork]) hsame, hadvisory,
      by rw [hentry _ (.inl hadvisory)]; exact hread⟩
  | holdObserved run =>
    rw [hwork] at h
    obtain ⟨hheld, hadvisory, hread⟩ := h
    exact ⟨hheld.undisturbed (by simp [Session.isCommitting, hwork]) hsame, hadvisory,
      by rw [hentry _ (.inl hadvisory)]; exact hread⟩
  | written claimed =>
    rw [hwork] at h
    cases claimed with
    | none => trivial
    | some run => exact ⟨h.1.undisturbed (by simp [Session.isCommitting, hwork]) hsame, h.2⟩
  | committing claimed =>
    rw [hwork] at h
    cases claimed with
    | none => trivial
    | some run => exact h

/-- A session goes on. -/
theorem SessionInv.undisturbed (h : SessionInv s n session) (hsame : Undisturbed s t n session) :
    SessionInv t n session where
  advisory := hsame.advisory
  rowLocks := hsame.rowLocks
  writes key record event hwrite := by
    obtain ⟨hadvisory, hlocked, hchange⟩ := h.writes key record event hwrite
    refine ⟨hadvisory, hlocked, ?_⟩
    rw [hsame.entries key (.inl hadvisory)]
    exact hchange.mono hsame.clock
  claims key record owner attempt hwrite run hrun := by
    obtain hrun | hother := hsame.runs owner run hrun
    · exact h.claims key record owner attempt hwrite run hrun
    · intro hkey
      exact hother (hkey ▸ (h.writes key record _ hwrite).1)
  knows := h.knows.undisturbed hsame

/-! ### Sessions that come and go -/

theorem State.AdvisoryFree.put (h : s.AdvisoryFree m key)
    (hsession : m ≠ n → key ∉ session.advisory) :
    (s.put n (some session)).AdvisoryFree m key := by
  intro k held hne hheld
  by_cases hk : k = n
  · subst hk
    obtain rfl : session = held := by simpa [State.put] using hheld
    exact hsession hne.symm
  · exact h k held hne (by simpa [State.put, hk] using hheld)

theorem State.RowFree.put (h : s.RowFree m key) (hsession : m ≠ n → key ∉ session.rowLocks) :
    (s.put n (some session)).RowFree m key := by
  intro k held hne hheld
  by_cases hk : k = n
  · subst hk
    obtain rfl : session = held := by simpa [State.put] using hheld
    exact hsession hne.symm
  · exact h k held hne (by simpa [State.put, hk] using hheld)

/-- A session that has what it needs may take its next step: its locks keep the others out. -/
theorem Inv.put (hinv : Inv s) (hsession : SessionInv s n session) :
    Inv (s.put n (some session)) where
  entries := hinv.entries
  runs := hinv.runs
  sessions m other hother := by
    have hundisturbed (hlocks : SessionInv s m other) (hne : m ≠ n → s.sessions m = some other) :
        Undisturbed s (s.put n (some session)) m other :=
      { clock := Nat.le_refl _
        entries := fun _ _ => rfl
        advisory := fun key hkey => (hlocks.advisory key hkey).put fun hmn hmem =>
          hsession.advisory key hmem m other hmn (hne hmn) hkey
        rowLocks := fun key hkey => (hlocks.rowLocks key hkey).put fun hmn hmem =>
          hsession.rowLocks key hmem m other hmn (hne hmn) hkey
        worker := fun _ _ _ _ _ => rfl
        runs := fun _ _ hrun => .inl hrun }
    by_cases hm : m = n
    · subst hm
      obtain rfl : session = other := by simpa [State.put] using hother
      exact hsession.undisturbed (hundisturbed hsession (absurd rfl))
    · have hold : s.sessions m = some other := by simpa [State.put, hm] using hother
      have hlocks := hinv.sessions m other hold
      exact hlocks.undisturbed (hundisturbed hlocks fun _ => hold)

/-- A worker that has no session left may turn to something else. -/
theorem Inv.setWorker (hinv : Inv s) {worker : Worker} (hworker : ∀ run, worker ≠ .running run)
    (hquiet : ∀ n session, s.sessions n = some session → session.worker = some owner →
      session.alive = true → session.isCommitting = false →
        s.workers owner ≠ .claiming n ∧ ∀ run, s.workers owner ≠ .running run) :
    Inv (s.setWorker owner worker) where
  entries := hinv.entries
  runs other run hrun := by
    by_cases hother : other = owner
    · subst hother
      exact absurd (by simpa [State.setWorker] using hrun) (hworker run)
    · exact hinv.runs other run (by simpa [State.setWorker, hother] using hrun)
  sessions n session hsession := by
    have h := hinv.sessions n session hsession
    refine h.undisturbed ⟨Nat.le_refl _, fun _ _ => rfl, h.advisory, h.rowLocks, ?_, ?_⟩
    · intro other hworks halive hwork hbusy
      by_cases hother : other = owner
      · subst hother
        obtain ⟨hclaiming, hrunning⟩ := hquiet n session hsession hworks halive hwork
        obtain h | ⟨run, h⟩ := hbusy
        · exact absurd h hclaiming
        · exact absurd h (hrunning run)
      · simp [State.setWorker, hother]
    · intro other run hrun
      by_cases hother : other = owner
      · subst hother
        exact absurd (by simpa [State.setWorker] using hrun) (hworker run)
      · exact .inl (by simpa [State.setWorker, hother] using hrun)

/-- A session that locked more and stands elsewhere. -/
theorem SessionInv.locked (h : SessionInv s n session) {work : Work}
    (advisory rowLocks : List String) (hadvisory : ∀ key ∈ advisory, s.AdvisoryFree n key)
    (hrowLocks : ∀ key ∈ rowLocks, s.RowFree n key)
    (hknows : Knows s n { session with
      work, advisory := advisory ++ session.advisory, rowLocks := rowLocks ++ session.rowLocks }
        work) :
    SessionInv s n { session with
      work, advisory := advisory ++ session.advisory, rowLocks := rowLocks ++ session.rowLocks }
    where
  advisory key hkey := by
    obtain hkey | hkey := List.mem_append.mp hkey
    · exact hadvisory key hkey
    · exact h.advisory key hkey
  rowLocks key hkey := by
    obtain hkey | hkey := List.mem_append.mp hkey
    · exact hrowLocks key hkey
    · exact h.rowLocks key hkey
  writes key record event hwrite := by
    obtain ⟨hadvisory, hrow, hchange⟩ := h.writes key record event hwrite
    exact ⟨List.mem_append_right _ hadvisory, List.mem_append_right _ hrow, hchange⟩
  claims := h.claims
  knows := hknows

/-- A session that stands elsewhere. -/
theorem SessionInv.moved (h : SessionInv s n session) {work : Work}
    (hknows : Knows s n { session with work } work) : SessionInv s n { session with work } :=
  h.locked [] [] (by simp) (by simp) hknows

/-- A session that wrote a record. -/
theorem SessionInv.write (h : SessionInv s n session) {work : Work} {record : RequestRecord}
    {event : Event} (hadvisory : record.targetKey ∈ session.advisory)
    (hfree : s.RowFree n record.targetKey)
    (hchange : Change record.targetKey s.clock (s.entries record.targetKey) record event)
    (hclaims : ∀ owner attempt, event = .claimed owner attempt →
      ∀ run, s.workers owner = .running run → run.key ≠ record.targetKey)
    (hknows : Knows s n (session.write work record event) work) :
    SessionInv s n (session.write work record event) where
  advisory := h.advisory
  rowLocks key hkey := by
    obtain rfl | hkey := List.mem_cons.mp hkey
    · exact hfree
    · exact h.rowLocks key hkey
  writes key written event' hwrite := by
    by_cases hkey : key = record.targetKey
    · subst hkey
      obtain ⟨rfl, rfl⟩ : record = written ∧ event = event' := by
        simpa [Session.write] using hwrite
      exact ⟨hadvisory, List.mem_cons_self, hchange⟩
    · have hold : session.writes key = some (written, event') := by
        simpa [Session.write, hkey] using hwrite
      obtain ⟨hadvisory, hrow, hchange⟩ := h.writes key written event' hold
      exact ⟨hadvisory, List.mem_cons_of_mem _ hrow, hchange⟩
  claims key written owner attempt hwrite run hrun := by
    by_cases hkey : key = record.targetKey
    · subst hkey
      obtain ⟨-, hevent⟩ : record = written ∧ event = .claimed owner attempt := by
        simpa [Session.write] using hwrite
      exact hclaims owner attempt hevent run hrun
    · exact h.claims key written owner attempt (by simpa [Session.write, hkey] using hwrite)
        run hrun
  knows := hknows

/-- A session that has just begun. -/
theorem sessionInv_begin {worker : Option String} {work : Work}
    (hknows : Knows s n { worker, work } work) : SessionInv s n { worker, work } where
  advisory := by simp
  rowLocks := by simp
  writes := by simp
  claims := by simp
  knows := hknows

/-! ### One step -/

theorem Inv.tick (hinv : Inv s) {clock : Nat} (h : s.clock ≤ clock) : Inv { s with clock } where
  entries := hinv.entries
  runs := hinv.runs
  sessions n session hsession := by
    have hlocks := hinv.sessions n session hsession
    exact hlocks.undisturbed ⟨h, fun _ _ => rfl, hlocks.advisory, hlocks.rowLocks,
      fun _ _ _ _ _ => rfl, fun _ _ hrun => .inl hrun⟩

theorem Inv.abort (hinv : Inv s) : Inv { s.put n none with workers := s.dismissed n } where
  entries := hinv.entries
  runs owner run hrun := by
    by_cases hclaiming : s.workers owner = .claiming n
    · simp [State.dismissed, hclaiming] at hrun
    · exact hinv.runs owner run (by simpa [State.dismissed, hclaiming] using hrun)
  sessions m other hother := by
    have hne : m ≠ n := fun hm => by simp [State.put, hm] at hother
    have hold : s.sessions m = some other := by simpa [State.put, hne] using hother
    have hlocks := hinv.sessions m other hold
    refine hlocks.undisturbed ⟨Nat.le_refl _, fun _ _ => rfl, ?_, ?_, ?_, ?_⟩
    · intro key hkey k held hk hheld
      have hkn : k ≠ n := fun h => by simp [State.put, h] at hheld
      exact hlocks.advisory key hkey k held hk (by simpa [State.put, hkn] using hheld)
    · intro key hkey k held hk hheld
      have hkn : k ≠ n := fun h => by simp [State.put, h] at hheld
      exact hlocks.rowLocks key hkey k held hk (by simpa [State.put, hkn] using hheld)
    · intro owner _ _ _ hbusy
      refine if_neg fun hclaiming => ?_
      obtain h | ⟨run, h⟩ := hbusy
      · exact hne (by simpa [hclaiming] using h.symm)
      · simp [hclaiming] at h
    · intro owner run hrun
      by_cases hclaiming : s.workers owner = .claiming n
      · simp [State.dismissed, hclaiming] at hrun
      · exact .inl (by simpa [State.dismissed, hclaiming] using hrun)

/-- What a session knows does not depend on its process. -/
theorem SessionInv.dead (h : SessionInv s n session) :
    SessionInv s n { session with alive := false } where
  advisory := h.advisory
  rowLocks := h.rowLocks
  writes := h.writes
  claims := h.claims
  knows := by
    have hknows := h.knows
    cases hwork : session.work with
    | written claimed =>
      rw [hwork] at hknows
      cases claimed <;> simp_all [Knows, ClaimedBy]
    | committing claimed =>
      rw [hwork] at hknows
      cases claimed <;> simp_all [Knows]
    | _ =>
      rw [hwork] at hknows
      simp_all [Knows, ClaimedBy, HeldBy]

theorem Inv.crash (hinv : Inv s) (owner : String) :
    Inv { s.setWorker owner .idle with sessions := s.orphaned owner } where
  entries := hinv.entries
  runs other run hrun := by
    by_cases hother : other = owner
    · simp [State.setWorker, hother] at hrun
    · exact hinv.runs other run (by simpa [State.setWorker, hother] using hrun)
  sessions n session hsession := by
    have hlocks {k : Nat} {held : Session} (hheld : s.orphaned owner k = some held) :
        ∃ before, s.sessions k = some before ∧ held.advisory = before.advisory ∧
          held.rowLocks = before.rowLocks := by
      obtain ⟨before, hbefore, rfl⟩ := Option.map_eq_some_iff.mp hheld
      refine ⟨before, hbefore, ?_⟩
      split <;> exact ⟨rfl, rfl⟩
    obtain ⟨before, hbefore, heq⟩ := Option.map_eq_some_iff.mp hsession
    have h := hinv.sessions n before hbefore
    have hquiet : SessionInv s n session ∧
        (session.worker = some owner → session.alive = false) := by
      by_cases hworks : before.worker = some owner
      · rw [if_pos hworks] at heq
        subst heq
        exact ⟨h.dead, fun _ => rfl⟩
      · rw [if_neg hworks] at heq
        subst heq
        exact ⟨h, fun h => absurd h hworks⟩
    refine hquiet.1.undisturbed ⟨Nat.le_refl _, fun _ _ => rfl, ?_, ?_, ?_, ?_⟩
    · intro key hkey k held hk hheld
      obtain ⟨before, hbefore, hadvisory, -⟩ := hlocks hheld
      rw [hadvisory]
      exact hquiet.1.advisory key hkey k before hk hbefore
    · intro key hkey k held hk hheld
      obtain ⟨before, hbefore, -, hrowLocks⟩ := hlocks hheld
      rw [hrowLocks]
      exact hquiet.1.rowLocks key hkey k before hk hbefore
    · intro other hworks halive _ _
      by_cases hother : other = owner
      · subst hother
        rw [hquiet.2 hworks] at halive
        cases halive
      · simp [State.setWorker, hother]
    · intro other run hrun
      by_cases hother : other = owner
      · simp [State.setWorker, hother] at hrun
      · exact .inl (by simpa [State.setWorker, hother] using hrun)

/-- Nobody else writes or has locked what a session writes. -/
theorem Inv.writes_disjoint (hinv : Inv s) (hsession : s.sessions n = some session)
    (hother : s.sessions m = some other) (hne : m ≠ n)
    (hkey : key ∈ other.advisory ∨ key ∈ other.rowLocks) : session.writes key = none := by
  cases hwrite : session.writes key with
  | none => rfl
  | some written =>
    have h := hinv.sessions n session hsession
    obtain ⟨hadvisory, hrow, -⟩ := h.writes key written.1 written.2 hwrite
    obtain hkey | hkey := hkey
    · exact absurd hkey (h.advisory key hadvisory m other hne hother)
    · exact absurd hkey (h.rowLocks key hrow m other hne hother)

/-- The worker of a committed claim runs it, and every other worker goes on. -/
theorem running_answered {claimed : Option Run} {run : Run}
    (h : s.answered n claimed owner = .running run) :
    s.workers owner = .running run ∨ (claimed = some run ∧ run.owner = owner) := by
  cases claimed with
  | none => exact .inl h
  | some other =>
    unfold State.answered at h
    by_cases hwaits : s.workers other.owner = .claiming n
    · by_cases howner : owner = other.owner
      · subst howner
        obtain rfl : other = run := by simpa [hwaits] using h
        exact .inr ⟨rfl, rfl⟩
      · exact .inl (by simpa [hwaits, howner] using h)
    · exact .inl (by simpa [hwaits] using h)

theorem Inv.commit (hinv : Inv s) {claimed : Option Run} (h : s.sessions n = some session)
    (hwork : session.work = .committing claimed) :
    Inv { s.put n none with entries := s.published session, workers := s.answered n claimed } := by
  have hsession := hinv.sessions n session h
  have hwrote {run : Run} (hrun : claimed = some run) :
      ∃ record, session.writes run.key = some (record, .claimed run.owner run.attempt) := by
    have hknows := hsession.knows
    rw [hwork, hrun] at hknows
    exact hknows
  constructor
  · intro key
    show EntryInv key (s.published session key)
    unfold State.published
    cases hwrite : session.writes key with
    | none => exact hinv.entries key
    | some written => exact (hsession.writes key _ _ hwrite).2.2.step (hinv.entries key)
  · intro m other hother
    have hne : m ≠ n := fun hm => by simp [State.put, hm] at hother
    have hold : s.sessions m = some other := by simpa [State.put, hne] using hother
    have hlocks := hinv.sessions m other hold
    refine hlocks.undisturbed ⟨Nat.le_refl _, ?_, ?_, ?_, ?_, ?_⟩
    · intro key hkey
      show s.published session key = s.entries key
      unfold State.published
      rw [hinv.writes_disjoint h hold hne hkey]
    · intro key hkey k held hk hheld
      have hkn : k ≠ n := fun h => by simp [State.put, h] at hheld
      exact hlocks.advisory key hkey k held hk (by simpa [State.put, hkn] using hheld)
    · intro key hkey k held hk hheld
      have hkn : k ≠ n := fun h => by simp [State.put, h] at hheld
      exact hlocks.rowLocks key hkey k held hk (by simpa [State.put, hkn] using hheld)
    · intro owner _ _ _ hbusy
      show s.answered n claimed owner = s.workers owner
      unfold State.answered
      cases claimed with
      | none => rfl
      | some run =>
        by_cases hwaits : s.workers run.owner = .claiming n
        · have howner : owner ≠ run.owner := fun howner => by
            rw [howner, hwaits] at hbusy
            obtain hbusy | ⟨_, hbusy⟩ := hbusy
            · exact hne (by simpa using hbusy.symm)
            · cases hbusy
          simp [hwaits, howner]
        · simp [hwaits]
    · intro owner run hrun
      obtain hold' | ⟨hclaimed, -⟩ := running_answered hrun
      · exact .inl hold'
      · obtain ⟨record, hwrite⟩ := hwrote hclaimed
        refine .inr fun hkey => ?_
        rw [hinv.writes_disjoint h hold hne (.inl hkey)] at hwrite
        cases hwrite
  · intro owner run hrun
    show run.owner = owner ∧ ∀ attempt,
      latestClaim (s.published session run.key).past = some (owner, attempt) →
        attempt = run.attempt
    unfold State.published
    obtain hold | ⟨hclaimed, rfl⟩ := running_answered hrun
    · obtain ⟨howner, hattempt⟩ := hinv.runs owner run hold
      refine ⟨howner, fun attempt => ?_⟩
      cases hwrite : session.writes run.key with
      | none => exact hattempt attempt
      | some written =>
        obtain ⟨record, event⟩ := written
        have hchange := (hsession.writes _ _ _ hwrite).2.2
        cases hchange with
        | folded => exact hattempt attempt
        | @held _ call => cases call <;> exact hattempt attempt
        | @claimed other =>
          intro hlatest
          obtain ⟨rfl, -⟩ : other = owner ∧ _ := by simpa using hlatest
          exact absurd rfl (hsession.claims _ _ _ _ hwrite run hold)
    · obtain ⟨record, hwrite⟩ := hwrote hclaimed
      rw [hwrite]
      simp

/-- Every step keeps the invariant. -/
theorem Step.inv (hstep : Step s t) (hinv : Inv s) : Inv t := by
  cases hstep with
  | tick h => exact hinv.tick h
  | abort => exact hinv.abort
  | crash owner => exact hinv.crash owner
  | endRun hrun hdone =>
    refine hinv.setWorker (by simp) fun n session h hworks halive hwork => ?_
    rw [hdone n session h hworks halive] at hwork
    cases hwork
  | commit h hwork => exact hinv.commit h hwork
  | @sendCommit n session claimed h halive hwork =>
    have hsession := hinv.sessions n session h
    have hknows := hsession.knows
    rw [hwork] at hknows
    refine hinv.put (hsession.moved ?_)
    cases claimed with
    | none => trivial
    | some run => exact hknows.2
  -- folds
  | beginFold => exact hinv.put (sessionInv_begin trivial)
  | @lockAdvisory n session key todo h halive hwork hfree =>
    exact hinv.put ((hinv.sessions n session h).locked [key] []
      (by simpa using hfree) (by simp) trivial)
  | @readRow n session target _ _ _ h halive hwork hlocked =>
    exact hinv.put ((hinv.sessions n session h).moved ⟨hlocked, rfl⟩)
  | @mergeFold n session target requestedAt deliveryId row todo h halive hwork hfree =>
    have hsession := hinv.sessions n session h
    have hknows := hsession.knows
    rw [hwork] at hknows
    obtain ⟨hlocked, rfl⟩ := hknows
    have hkey : (foldRequest target requestedAt deliveryId
        (s.entries target.key).row).targetKey = target.key :=
      ((hinv.entries target.key).folded rfl).keyed _ rfl
    refine hinv.put (hsession.write (by rw [hkey]; exact hlocked) hfree ?_ ?_ trivial)
    · rw [hkey]
      exact .folded rfl
    · intro owner attempt hevent
      cases hevent
  | @folded n session h => exact hinv.put ((hinv.sessions n session h).moved trivial)
  -- claims
  | @beginClaim n owner h hidle hnamed leaseSeconds =>
    have hquiet : Inv (s.setWorker owner (.claiming n)) :=
      hinv.setWorker (by simp) fun _ _ _ _ _ _ => by simp [hidle]
    exact hquiet.put (sessionInv_begin ⟨rfl, fun _ => by simp [State.setWorker]⟩)
  | @observeClaim n session owner leaseSeconds h halive hwork hlease =>
    have hsession := hinv.sessions n session h
    have hknows := hsession.knows
    rw [hwork] at hknows
    exact hinv.put (hsession.moved ⟨hknows, Nat.le_refl _⟩)
  | @selectClaimable n session owner leaseSeconds observedAt rows h halive hwork hlimit hrows =>
    have hsession := hinv.sessions n session h
    have hknows := hsession.knows
    rw [hwork] at hknows
    refine hinv.put (hsession.locked [] _ (by simp) ?_ ?_)
    · intro key hkey
      obtain ⟨record, hmem, rfl⟩ := List.mem_map.mp hkey
      exact (hrows record hmem).2.2
    · refine ⟨hknows.1, hknows.2, fun record hmem => ?_⟩
      obtain ⟨hrow, hclaimable, -⟩ := hrows record hmem
      exact ⟨List.mem_append_left _ (List.mem_map_of_mem hmem), hrow, hclaimable⟩
  | @skipLocked n m session other owner leaseSeconds observedAt record rows h halive hwork =>
    have hsession := hinv.sessions n session h
    have hknows := hsession.knows
    rw [hwork] at hknows
    obtain ⟨hclaimed, hle, hrows⟩ := hknows
    exact hinv.put (hsession.moved
      ⟨hclaimed, hle, fun record hmem => hrows record (List.mem_cons_of_mem _ hmem)⟩)
  | @tryLock n session owner leaseSeconds observedAt record rows h halive hwork hfree =>
    have hsession := hinv.sessions n session h
    have hknows := hsession.knows
    rw [hwork] at hknows
    obtain ⟨hclaimed, hle, hrows⟩ := hknows
    obtain ⟨hlocked, hrow, hclaimable⟩ := hrows record List.mem_cons_self
    exact hinv.put (hsession.locked [record.targetKey] []
      (by simpa using hfree) (by simp)
      ⟨hclaimed, hle, hlocked, List.mem_cons_self, hrow, hclaimable⟩)
  | @mergeClaim n session owner leaseSeconds observedAt record h halive hwork hfree =>
    have hsession := hinv.sessions n session h
    have hknows := hsession.knows
    rw [hwork] at hknows
    obtain ⟨hclaimed, hle, hlocked, hadvisory, hrow, hclaimable⟩ := hknows
    refine hinv.put (hsession.write hadvisory hfree (.claimed hrow hclaimable hle) ?_ ?_)
    · intro other attempt hevent run hrun
      obtain ⟨rfl, -⟩ : owner = other ∧ _ := by simpa using hevent
      rw [hclaimed.2 halive] at hrun
      cases hrun
    · exact ⟨hclaimed, claimRequest owner observedAt leaseSeconds record, by
        simp [Session.write, claimRequest]⟩
  -- renewals and completions
  | @beginHold n owner run h hrun call =>
    obtain rfl := (hinv.runs owner run hrun).1
    exact hinv.put (sessionInv_begin ⟨rfl, fun _ => hrun⟩)
  | @lockHold n session run call h halive hwork hfree =>
    have hsession := hinv.sessions n session h
    have hknows := hsession.knows
    rw [hwork] at hknows
    exact hinv.put (hsession.locked [run.key] []
      (by simpa using hfree) (by simp) ⟨hknows, List.mem_cons_self⟩)
  | @selectHeld n session run call record h halive hwork hfree hrow hleased =>
    have hsession := hinv.sessions n session h
    have hknows := hsession.knows
    rw [hwork] at hknows
    obtain ⟨hheld, hadvisory⟩ := hknows
    obtain ⟨hrunning, howner⟩ := hleased
    -- The row is leased to the worker, so its latest claim is by the worker, so it is this run.
    have hlatest := ((hinv.entries run.key).leased record hrow hrunning).1
    rw [howner] at hlatest
    rw [(hinv.runs run.owner run (hheld.2 halive)).2 _ hlatest] at hlatest
    exact hinv.put (hsession.locked [] [run.key] (by simp)
      (by simpa using hfree) ⟨hheld, hadvisory, hrow, hrunning, hlatest⟩)
  | @observeHold n session run call record h halive hwork hvalid =>
    have hsession := hinv.sessions n session h
    have hknows := hsession.knows
    rw [hwork] at hknows
    exact hinv.put (hsession.moved hknows)
  | @mergeHold n session run call record observedAt h halive hwork hfree =>
    have hsession := hinv.sessions n session h
    have hknows := hsession.knows
    rw [hwork] at hknows
    obtain ⟨hheld, hadvisory, hrow, hrunning, hlatest⟩ := hknows
    have hrecord : record.targetKey = run.key := (hinv.entries run.key).keyed record hrow
    have hkey : (call.apply observedAt record).targetKey = run.key := by
      rw [← hrecord]
      cases call <;> rfl
    refine hinv.put (hsession.write (by rw [hkey]; exact hadvisory)
      (by rw [hkey, ← hrecord]; exact hfree) ?_ ?_ trivial)
    · rw [hkey]
      exact .held hrow hrunning hlatest
    · intro owner attempt hevent
      cases call <;> cases hevent

theorem Reaches.inv {clock : Nat} (h : Reaches clock s) : Inv s := by
  induction h with
  | refl => exact inv_initial clock
  | tail _ hstep ih => exact hstep.inv ih

/-! ### The result -/

/-- Whatever a step does to a target was made from what is committed. -/
theorem Step.change (hstep : Step s t) (hinv : Inv s) (key : String) :
    t.entries key = s.entries key ∨
      ∃ record event, Change key s.clock (s.entries key) record event ∧
        t.entries key = ⟨some record, event :: (s.entries key).past⟩ := by
  cases hstep
  case commit n session claimed h hwork =>
    show s.published session key = _ ∨ ∃ record event, _ ∧ s.published session key = _
    unfold State.published
    cases hwrite : session.writes key with
    | none => exact .inl rfl
    | some written =>
      exact .inr ⟨written.1, written.2,
        ((hinv.sessions n session h).writes key _ _ hwrite).2.2, rfl⟩
  all_goals exact .inl rfl

/-- In every state that can be reached every record tells the truth about its requests, and every
step from there leaves a target alone or does one thing to it that may happen. -/
theorem Reaches.neverLost {clock : Nat} (h : Reaches clock s) :
    (∀ key, EntrySafe (s.entries key)) ∧
      ∀ t, Step s t → ∀ key, t.entries key = s.entries key ∨
        ∃ record event, t.entries key = ⟨some record, event :: (s.entries key).past⟩ ∧
          EventSafe s.clock (s.entries key) event := by
  refine ⟨fun key => (h.inv.entries key).toEntrySafe, fun t hstep key => ?_⟩
  obtain hsame | ⟨record, event, hchange, hnew⟩ := hstep.change h.inv key
  · exact .inl hsame
  · exact .inr ⟨record, event, hnew, hchange.eventSafe (h.inv.entries key)⟩

/-! ### One transaction after the other -/

/-- No session but `n` is open. -/
def State.Alone (s : State) (n : Nat) : Prop := ∀ m, m ≠ n → s.sessions m = none

theorem State.Alone.put (h : s.Alone n) (session : Option Session) : (s.put n session).Alone n := by
  intro m hne
  exact (Function.update_of_ne hne _ _).trans (h m hne)

theorem State.Alone.advisoryFree (h : s.Alone n) : s.AdvisoryFree n key := by
  intro m session hne hsession
  rw [h m hne] at hsession
  cases hsession

theorem State.Alone.rowFree (h : s.Alone n) : s.RowFree n key := by
  intro m session hne hsession
  rw [h m hne] at hsession
  cases hsession

section

variable {clock : Nat} (h : Reaches clock s) (hcalm : ∀ n, s.sessions n = none)
include h hcalm

/-- A request that nothing stands in the way of is folded. -/
theorem Reaches.foldAlone (target : Target) (requestedAt : Nat) (deliveryId : String)
    (hkey : (foldRequest target requestedAt deliveryId (s.entries target.key).row).targetKey =
      target.key) :
    ∃ t, Reaches clock t ∧ (∀ n, t.sessions n = none) ∧ t.workers = s.workers ∧
      t.clock = s.clock ∧
      t.entries target.key =
        ⟨some (foldRequest target requestedAt deliveryId (s.entries target.key).row),
          .folded :: (s.entries target.key).past⟩ := by
  have halone : s.Alone 0 := fun m _ => hcalm m
  have h1 := h.tail (.beginFold (n := 0) (hcalm 0)
    [.lock target.key, .fold target requestedAt deliveryId])
  have h2 := h1.tail (.lockAdvisory (n := 0) rfl rfl rfl (halone.put _).advisoryFree)
  have h3 := h2.tail (.readRow (n := 0) rfl rfl rfl List.mem_cons_self rfl)
  have h4 := h3.tail (.mergeFold (n := 0) rfl rfl rfl (((halone.put _).put _).put _).rowFree)
  have h5 := h4.tail (.folded (n := 0) rfl rfl rfl)
  have h6 := h5.tail (.sendCommit (n := 0) rfl rfl rfl)
  refine ⟨_, h6.tail (.commit (n := 0) rfl rfl), fun n => ?_, rfl, rfl, ?_⟩
  · by_cases hn : n = 0
    · simp [State.put, hn]
    · simp [State.put, hn, hcalm]
  · simp [State.published, Session.write, State.put, hkey]

/-- An idle worker claims a request that nothing stands in the way of. -/
theorem Reaches.claimAlone (owner : String) (leaseSeconds : Nat) (record : RequestRecord)
    (hidle : s.workers owner = .idle) (hnamed : owner ≠ "") (hlease : validLease leaseSeconds)
    (hrow : (s.entries record.targetKey).row = some record) (hclaimable : Claimable s.clock record) :
    ∃ t, Reaches clock t ∧ (∀ n, t.sessions n = none) ∧
      t.workers owner = .running ⟨owner, record.targetKey, record.attempt + 1⟩ ∧
      t.clock = s.clock ∧
      t.entries record.targetKey = ⟨some (claimRequest owner s.clock leaseSeconds record),
        .claimed owner (record.attempt + 1) :: (s.entries record.targetKey).past⟩ := by
  have halone : s.Alone 0 := fun m _ => hcalm m
  have h1 := h.tail (@Step.beginClaim _ 0 owner (hcalm 0) hidle hnamed leaseSeconds)
  -- That its worker waits for it changes no session.
  have hstarted : State.Alone (State.setWorker (s.put 0 (some
      { worker := some owner, work := .claiming owner leaseSeconds })) owner (.claiming 0)) 0 :=
    halone.put _
  have h2 := h1.tail (.observeClaim (n := 0) rfl rfl rfl hlease)
  have h3 := h2.tail (@Step.selectClaimable _ 0 _ _ _ _ [record] rfl rfl rfl (by simp)
    fun other hmem => by
      obtain rfl := List.mem_singleton.mp hmem
      exact ⟨hrow, hclaimable, (hstarted.put _).rowFree⟩)
  have h4 := h3.tail (.tryLock (n := 0) rfl rfl rfl ((hstarted.put _).put _).advisoryFree)
  have h5 := h4.tail (.mergeClaim (n := 0) rfl rfl rfl (((hstarted.put _).put _).put _).rowFree)
  have h6 := h5.tail (.sendCommit (n := 0) rfl rfl rfl)
  refine ⟨_, h6.tail (.commit (n := 0) rfl rfl), fun n => ?_, ?_, rfl, ?_⟩
  · by_cases hn : n = 0
    · simp [State.put, hn]
    · simp [State.put, State.setWorker, hn, hcalm]
  · simp [State.answered, State.put, State.setWorker]
  · simp [State.published, Session.write, State.put, State.setWorker, claimRequest]

/-- The holder of a run completes it, if nothing stands in the way: the last step is the commit. -/
theorem Reaches.completeAlone (run : Run) (record : RequestRecord) (outcome : Outcome)
    (plan : Plan) (error : String) (hrun : s.workers run.owner = .running run)
    (hrow : (s.entries run.key).row = some record) (hkey : record.targetKey = run.key)
    (hleased : IsLeasedTo run.owner record) :
    ∃ t u, Reaches clock t ∧ Step t u ∧ t.clock = s.clock ∧ t.entries = s.entries ∧
      u.entries run.key = ⟨some (completeRequest outcome plan error s.clock record),
        .finished run.owner run.attempt :: (s.entries run.key).past⟩ := by
  have halone : s.Alone 0 := fun m _ => hcalm m
  have h1 := h.tail (.beginHold (n := 0) (hcalm 0) hrun (.complete outcome plan error))
  have h2 := h1.tail (.lockHold (n := 0) rfl rfl rfl (halone.put _).advisoryFree)
  have h3 := h2.tail (.selectHeld (n := 0) rfl rfl rfl ((halone.put _).put _).rowFree hrow hleased)
  have h4 := h3.tail (.observeHold (n := 0) rfl rfl rfl trivial)
  have h5 := h4.tail (.mergeHold (n := 0) rfl rfl rfl
    ((((halone.put _).put _).put _).put _).rowFree)
  have h6 := h5.tail (.sendCommit (n := 0) rfl rfl rfl)
  refine ⟨_, _, h6, .commit (n := 0) rfl rfl, rfl, rfl, ?_⟩
  simp [State.published, Session.write, State.put, HolderCall.apply, HolderCall.event,
    completeRequest, hkey]

end

/-- A first request for a target. -/
def sampleRequest : RequestRecord := foldRequest ⟨"shop", .testing, none⟩ 5 "delivery" none

/-- The request while it runs, after it was requested again. -/
def rerequested : RequestRecord :=
  foldRequest ⟨"shop", .testing, none⟩ 5 "again" (some (claimRequest "worker" 5 60 sampleRequest))

/-- A request that was claimed is requested again while it runs. So its completion, which is made of
what is committed, leaves it pending. -/
theorem Reaches.neverLost_sample : ∃ s t, Reaches 5 s ∧ Step s t ∧
    s.entries "shop:testing" = ⟨some rerequested, [.folded, .claimed "worker" 1, .folded]⟩ ∧
    (∀ key, EntrySafe (s.entries key)) ∧
    t.entries "shop:testing" = ⟨some (completeRequest .done {} "" 5 rerequested),
      [.finished "worker" 1, .folded, .claimed "worker" 1, .folded]⟩ ∧
    EventSafe s.clock (s.entries "shop:testing") (.finished "worker" 1) := by
  have htarget : (⟨"shop", .testing, none⟩ : Target).key = "shop:testing" := rfl
  obtain ⟨s₁, h₁, hcalm₁, hworkers₁, hclock₁, hentries₁⟩ :=
    Reaches.foldAlone (.refl : Reaches 5 (initial 5)) (fun _ => rfl) ⟨"shop", .testing, none⟩ 5
      "delivery" rfl
  have hclock₁ : s₁.clock = 5 := hclock₁
  have hentries₁ : s₁.entries "shop:testing" = ⟨some sampleRequest, [.folded]⟩ := hentries₁
  obtain ⟨s₂, h₂, hcalm₂, hworker₂, hclock₂, hentries₂⟩ :=
    h₁.claimAlone hcalm₁ "worker" 60 sampleRequest (congrFun hworkers₁ _) (by decide)
      ⟨by decide, by decide⟩ (congrArg Entry.row hentries₁) (by rw [hclock₁]; decide)
  have hentries₂ : s₂.entries "shop:testing" =
      ⟨some (claimRequest "worker" 5 60 sampleRequest), [.claimed "worker" 1, .folded]⟩ := by
    rw [← hclock₁, show [Event.folded] = (s₁.entries "shop:testing").past by rw [hentries₁]]
    exact hentries₂
  -- While it runs, the target is requested again.
  have hrow₂ := congrArg Entry.row hentries₂
  obtain ⟨s₃, h₃, hcalm₃, hworkers₃, hclock₃, hentries₃⟩ :=
    h₂.foldAlone hcalm₂ ⟨"shop", .testing, none⟩ 5 "again" (by rw [htarget, hrow₂]; rfl)
  rw [htarget, hentries₂] at hentries₃
  have hclock₃ : s₃.clock = 5 := by rw [hclock₃, hclock₂, hclock₁]
  obtain ⟨s, t, hs, hstep, hclock, hentries, hcompleted⟩ :=
    h₃.completeAlone hcalm₃ ⟨"worker", "shop:testing", 1⟩ rerequested .done {} ""
      ((congrFun hworkers₃ _).trans hworker₂) (congrArg Entry.row hentries₃) rfl ⟨rfl, rfl⟩
  rw [hentries₃, hclock₃] at hcompleted
  have hbefore : s.entries "shop:testing" =
      ⟨some rerequested, [.folded, .claimed "worker" 1, .folded]⟩ := by
    rw [hentries]
    exact hentries₃
  refine ⟨s, t, hs, hstep, hbefore, (Reaches.neverLost hs).1, hcompleted, ?_⟩
  obtain hsame | ⟨record, event, hnew, hsafe⟩ := (Reaches.neverLost hs).2 t hstep "shop:testing"
  · rw [hcompleted, hbefore] at hsame
    cases congrArg Entry.past hsame
  · rw [hcompleted, hbefore] at hnew
    cases congrArg Entry.past hnew
    exact hsafe

end Launchplane.ProductReconcile
