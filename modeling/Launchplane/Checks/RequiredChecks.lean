import Mathlib.Data.List.Perm.Basic

/-!
# Launchplane.Checks.RequiredChecks

**Required checks.** A commit meets its required checks when each of them was
reported, every report of it is a pass and, where the successful reports are
known separately, one of those is of it. The evaluation is one loop over the
requirements that collects states, what is missing and what blocks.

`Satisfied` and `ownState` say what a requirement means by itself;
`evaluate_eq` is the loop in these terms, and the rest follows from it.
-/

namespace Launchplane.Checks

/-- `RequiredCheckState`. -/
inductive RequiredCheckState
  | pass | pending | fail | unavailable
  deriving Repr, DecidableEq

/-- `CheckRequirement`. -/
structure CheckRequirement where
  name : String
  appId : Option Int := none
  deriving Repr, DecidableEq

/-- Where a signal comes from. -/
inductive SignalSource
  | commitStatus | checkRun
  deriving Repr, DecidableEq

/-- `CheckSignal`. -/
structure CheckSignal where
  source : SignalSource
  name : String
  appId : Option Int
  state : RequiredCheckState
  deriving Repr, DecidableEq

/-- `RequiredCheckVerdict`. -/
structure RequiredCheckVerdict where
  status : RequiredCheckState
  missing : List String := []
  blocking : List (CheckRequirement × RequiredCheckState) := []
  deriving Repr, DecidableEq

/-! ### The evaluation -/

/-- `matches_required_check`; `casefold` is `str.casefold`. -/
def matchesRequiredCheck (casefold : String → String) (requirement : CheckRequirement)
    (name : String) (appId : Option Int) : Bool :=
  casefold name = casefold requirement.name ∧
    (requirement.appId = none ∨ appId = requirement.appId)

/-- How a missing requirement is named. -/
def CheckRequirement.identity (requirement : CheckRequirement) : String :=
  match requirement.appId with
  | none => requirement.name
  | some appId => requirement.name ++ " (app_id=" ++ toString appId ++ ")"

/-- The first of the states that are not a pass, in the order of their weight. -/
def worst (states : List RequiredCheckState) : Option RequiredCheckState :=
  [.fail, .pending, .unavailable].find? (· ∈ states)

/-- What the loop has collected. -/
structure Collected where
  states : List RequiredCheckState := []
  missing : List String := []
  blocking : List (CheckRequirement × RequiredCheckState) := []

section

variable (casefold : String → String) (signals : List CheckSignal)
  (successfulSignals : Option (List CheckSignal))

/-- Whether a signal is of a requirement. -/
def CheckSignal.isOf (requirement : CheckRequirement) (signal : CheckSignal) : Bool :=
  matchesRequiredCheck casefold requirement signal.name signal.appId

/-- `requirement_states`: of the signals of a requirement, which there are. -/
def requirementStates (requirement : CheckRequirement) : List RequiredCheckState :=
  let states := (signals.filter (·.isOf casefold requirement)).map (·.state)
  match successfulSignals with
  | none => states
  | some successful =>
      if states.all (· = .pass) && !successful.any (·.isOf casefold requirement) then
        states ++ [.unavailable]
      else states

/-- One round of the loop. -/
def collect (collected : Collected) (requirement : CheckRequirement) : Collected :=
  if signals.any (·.isOf casefold requirement) then
    let states := requirementStates casefold signals successfulSignals requirement
    { collected with
      states := collected.states ++ states
      blocking := collected.blocking ++ (worst states).toList.map (requirement, ·) }
  else
    { states := collected.states ++ [.pending]
      missing := collected.missing ++ [requirement.identity]
      blocking := collected.blocking ++ [(requirement, .pending)] }

/-- `evaluate_required_checks`. -/
def evaluateRequiredChecks (requirements : List CheckRequirement) : RequiredCheckVerdict :=
  if requirements = [] then { status := .unavailable }
  else
    let collected := requirements.foldl (collect casefold signals successfulSignals) {}
    match worst collected.states with
    | some state => ⟨state, collected.missing, collected.blocking⟩
    | none => { status := .pass }

end

/-! ### What a requirement means -/

section

variable (casefold : String → String) (signals : List CheckSignal)
  (successfulSignals : Option (List CheckSignal)) (requirement : CheckRequirement)

/-- The requirement was reported. -/
def Reported : Prop := ∃ signal ∈ signals, signal.isOf casefold requirement = true

instance : Decidable (Reported casefold signals requirement) :=
  inferInstanceAs (Decidable (∃ signal ∈ signals, signal.isOf casefold requirement = true))

/-- The requirement was reported, by passes only, and is among the successes if these are given. -/
structure Satisfied : Prop where
  reported : Reported casefold signals requirement
  pass : ∀ signal ∈ signals, signal.isOf casefold requirement = true → signal.state = .pass
  confirmed : ∀ successful ∈ successfulSignals, Reported casefold successful requirement

/-- The state of a requirement by itself. -/
def ownState : RequiredCheckState :=
  if Reported casefold signals requirement then
    (worst (requirementStates casefold signals successfulSignals requirement)).getD .pass
  else .pending

end

/-! ### The loop -/

section

variable {casefold : String → String} {signals : List CheckSignal}
  {successfulSignals : Option (List CheckSignal)} {requirement : CheckRequirement}

theorem worst_eq (states : List RequiredCheckState) :
    worst states =
      if .fail ∈ states then some .fail
      else if .pending ∈ states then some .pending
      else if .unavailable ∈ states then some .unavailable
      else none := by
  unfold worst
  split_ifs with hfail hpending hunavailable <;> simp [*]

theorem worst_eq_none {states : List RequiredCheckState} :
    worst states = none ↔ ∀ state ∈ states, state = .pass := by
  rw [worst_eq]
  constructor
  · intro h state hstate
    cases state with
    | pass => rfl
    | _ => split_ifs at h
  · intro h
    have hnot {state : RequiredCheckState} (hne : state ≠ .pass) : state ∉ states :=
      fun hmem => hne (h state hmem)
    rw [if_neg (hnot (by decide)), if_neg (hnot (by decide)), if_neg (hnot (by decide))]

theorem worst_ne_pass {states : List RequiredCheckState} : worst states ≠ some .pass := by
  rw [worst_eq]
  split_ifs <;> simp

/-- Only which states there are counts. -/
theorem worst_congr {states states' : List RequiredCheckState}
    (h : ∀ state, state ∈ states ↔ state ∈ states') : worst states = worst states' := by
  simp only [worst, h]

/-- The states of a requirement: those of its signals, and `unavailable` where no success confirms
its passes. -/
theorem mem_requirementStates {state : RequiredCheckState} :
    state ∈ requirementStates casefold signals successfulSignals requirement ↔
      (∃ signal ∈ signals, signal.isOf casefold requirement = true ∧ signal.state = state) ∨
        (state = .unavailable ∧
          (∀ signal ∈ signals, signal.isOf casefold requirement = true → signal.state = .pass) ∧
          ∃ successful ∈ successfulSignals, ¬ Reported casefold successful requirement) := by
  cases successfulSignals with
  | none => simp [requirementStates, and_assoc]
  | some successful =>
      have hconfirmed : successful.any (·.isOf casefold requirement) = true ↔
          Reported casefold successful requirement := by
        simp [Reported]
      have hpasses : ((signals.filter (·.isOf casefold requirement)).map (·.state)).all
          (· = .pass) = true ↔
          ∀ signal ∈ signals, signal.isOf casefold requirement = true → signal.state = .pass := by
        simp [← Bool.not_eq_true, imp_iff_not_or]
      simp only [requirementStates, Bool.and_eq_true, Bool.not_eq_true', ← Bool.not_eq_true,
        hconfirmed, hpasses]
      split_ifs with h
      · have hall : ∀ signal ∈ signals, signal.isOf casefold requirement = true →
            signal.state = .pass := h.1
        simp only [List.mem_append, List.mem_map, List.mem_filter, List.mem_singleton, and_assoc]
        exact or_congr_right ⟨fun hstate => ⟨hstate, hall, successful, rfl, h.2⟩, fun hstate => hstate.1⟩
      · have hnot : ¬ (state = .unavailable ∧
            (∀ signal ∈ signals, signal.isOf casefold requirement = true → signal.state = .pass) ∧
            ∃ s ∈ some successful, ¬ Reported casefold s requirement) := by
          rintro ⟨-, hall, _, ⟨⟩, hnone⟩
          exact h ⟨hall, hnone⟩
        simp only [hnot, or_false]
        simp [and_assoc]

/-- A reported requirement has only passes iff it is satisfied. -/
theorem worst_requirementStates_eq_none (hreported : Reported casefold signals requirement) :
    worst (requirementStates casefold signals successfulSignals requirement) = none ↔
      Satisfied casefold signals successfulSignals requirement := by
  rw [worst_eq_none]
  constructor
  · intro hall
    have hpass : ∀ signal ∈ signals, signal.isOf casefold requirement = true →
        signal.state = .pass :=
      fun signal hsignal hof => hall _ (mem_requirementStates.mpr (.inl ⟨signal, hsignal, hof, rfl⟩))
    refine ⟨hreported, hpass, fun successful hsuccessful => ?_⟩
    by_contra hnone
    have hunavailable := hall .unavailable
      (mem_requirementStates.mpr (.inr ⟨rfl, hpass, successful, hsuccessful, hnone⟩))
    cases hunavailable
  · intro h state hstate
    obtain ⟨signal, hsignal, hof, rfl⟩ | ⟨-, -, successful, hsuccessful, hnone⟩ :=
      mem_requirementStates.mp hstate
    · exact h.pass signal hsignal hof
    · exact absurd (h.confirmed successful hsuccessful) hnone

theorem ownState_eq_pass_iff :
    ownState casefold signals successfulSignals requirement = .pass ↔
      Satisfied casefold signals successfulSignals requirement := by
  unfold ownState
  split_ifs with hreported
  · rw [← worst_requirementStates_eq_none hreported]
    cases hworst : worst (requirementStates casefold signals successfulSignals requirement) with
    | none => simp
    | some state =>
        have hne : state ≠ .pass := fun h => worst_ne_pass (h ▸ hworst)
        simp [hne]
  · constructor
    · intro h
      cases h
    · intro h
      exact absurd h.reported hreported

/-- Of the states of a requirement only the worst counts. -/
theorem worst_append_worst (before states after : List RequiredCheckState) :
    worst (before ++ states ++ after) = worst (before ++ (worst states).getD .pass :: after) := by
  simp only [worst_eq, List.mem_append, List.mem_cons]
  by_cases hfail : RequiredCheckState.fail ∈ states
  · simp [hfail]
  · by_cases hpending : RequiredCheckState.pending ∈ states
    · simp [hfail, hpending]
    · by_cases hunavailable : RequiredCheckState.unavailable ∈ states
      · simp [hfail, hpending, hunavailable]
      · simp [hfail, hpending, hunavailable]

/-- One round, for a requirement that was reported and for one that was not. -/
theorem collect_of_reported (collected : Collected)
    (h : Reported casefold signals requirement) :
    collect casefold signals successfulSignals collected requirement =
      { collected with
        states := collected.states ++
          requirementStates casefold signals successfulSignals requirement
        blocking := collected.blocking ++
          (worst (requirementStates casefold signals successfulSignals requirement)).toList.map
            (requirement, ·) } := by
  have hany : signals.any (·.isOf casefold requirement) = true := by simpa [Reported] using h
  rw [collect, if_pos hany]

theorem collect_of_not_reported (collected : Collected)
    (h : ¬ Reported casefold signals requirement) :
    collect casefold signals successfulSignals collected requirement =
      { states := collected.states ++ [.pending]
        missing := collected.missing ++ [requirement.identity]
        blocking := collected.blocking ++ [(requirement, .pending)] } := by
  have hany : ¬ signals.any (·.isOf casefold requirement) = true := by simpa [Reported] using h
  rw [collect, if_neg hany]

variable (casefold signals successfulSignals) in
/-- The requirements that are not satisfied, each with its own state. -/
def unsatisfied (requirements : List CheckRequirement) :
    List (CheckRequirement × RequiredCheckState) :=
  (requirements.map fun r => (r, ownState casefold signals successfulSignals r)).filter
    (·.2 ≠ .pass)

variable (casefold signals successfulSignals) in
/-- What the loop has collected after some of the requirements. -/
theorem foldl_collect (requirements : List CheckRequirement) (collected : Collected) :
    let after := requirements.foldl (collect casefold signals successfulSignals) collected
    worst after.states = worst (collected.states ++
        requirements.map (ownState casefold signals successfulSignals)) ∧
      after.missing = collected.missing ++
        (requirements.filter (¬ Reported casefold signals ·)).map (·.identity) ∧
      after.blocking = collected.blocking ++
        unsatisfied casefold signals successfulSignals requirements := by
  induction requirements generalizing collected with
  | nil => simp [unsatisfied]
  | cons requirement rest ih =>
      rw [List.foldl_cons]
      by_cases hreported : Reported casefold signals requirement
      · obtain ⟨hstates, hmissing, hblocking⟩ :=
          ih (collect casefold signals successfulSignals collected requirement)
        rw [collect_of_reported collected hreported] at hstates hmissing hblocking ⊢
        have hown : ownState casefold signals successfulSignals requirement =
            (worst (requirementStates casefold signals successfulSignals requirement)).getD
              .pass := by
          rw [ownState, if_pos hreported]
        refine ⟨?_, ?_, ?_⟩
        · rw [hstates, worst_append_worst, ← hown, List.map_cons]
        · simpa [hreported] using hmissing
        · rw [hblocking]
          cases hworst : worst (requirementStates casefold signals successfulSignals requirement) with
          | none => simp [unsatisfied, hown, hworst]
          | some state =>
              have hne : state ≠ .pass := fun h => worst_ne_pass (h ▸ hworst)
              simp [unsatisfied, hown, hworst, hne]
      · obtain ⟨hstates, hmissing, hblocking⟩ :=
          ih (collect casefold signals successfulSignals collected requirement)
        rw [collect_of_not_reported collected hreported] at hstates hmissing hblocking ⊢
        have hown : ownState casefold signals successfulSignals requirement = .pending := by
          rw [ownState, if_neg hreported]
        refine ⟨?_, ?_, ?_⟩
        · rw [hstates, List.map_cons, hown]
          simp
        · simp [hmissing, hreported]
        · simp [hblocking, unsatisfied, hown]

variable (casefold signals successfulSignals) in
/-- **The evaluation, in terms of what each requirement means.** -/
theorem evaluate_eq (requirements : List CheckRequirement) :
    let verdict := evaluateRequiredChecks casefold signals successfulSignals requirements
    (verdict.status = if requirements = [] then .unavailable
      else (worst (requirements.map (ownState casefold signals successfulSignals))).getD .pass) ∧
    verdict.missing = (requirements.filter (¬ Reported casefold signals ·)).map (·.identity) ∧
    verdict.blocking = unsatisfied casefold signals successfulSignals requirements := by
  obtain ⟨hstates, hmissing, hblocking⟩ :=
    foldl_collect casefold signals successfulSignals requirements {}
  unfold evaluateRequiredChecks
  split_ifs with hnil
  · subst hnil
    simp [unsatisfied]
  · simp only [List.nil_append] at hstates hmissing hblocking
    dsimp only
    rw [hstates]
    cases hworst : worst (requirements.map (ownState casefold signals successfulSignals)) with
    | some state => exact ⟨rfl, hmissing, hblocking⟩
    | none =>
        have hall : ∀ r ∈ requirements,
            ownState casefold signals successfulSignals r = .pass := by
          simpa using worst_eq_none.mp hworst
        refine ⟨rfl, ?_, ?_⟩
        · have hnone : requirements.filter (¬ Reported casefold signals ·) = [] := by
            simp only [List.filter_eq_nil_iff, decide_eq_true_eq, not_not]
            exact fun r hr => (ownState_eq_pass_iff.mp (hall r hr)).reported
          rw [hnone]
          rfl
        · symm
          simpa [unsatisfied] using hall

instance : Decidable (Satisfied casefold signals successfulSignals requirement) :=
  decidable_of_iff _ ownState_eq_pass_iff

/-- How much a state weighs: `fail`, `pending`, `unavailable`. -/
def RequiredCheckState.weight : RequiredCheckState → Nat
  | pass => 0
  | unavailable => 1
  | pending => 2
  | fail => 3

/-- The worst of some states is one of them, and none weighs more. -/
theorem worst_eq_some {states : List RequiredCheckState} {state : RequiredCheckState}
    (h : worst states = some state) :
    state ∈ states ∧ ∀ other ∈ states, other.weight ≤ state.weight := by
  rw [worst_eq] at h
  split_ifs at h with hfail hpending hunavailable
  all_goals
    cases h
    refine ⟨by assumption, fun other hother => ?_⟩
    cases other <;> first | contradiction | simp [RequiredCheckState.weight]

variable (casefold signals successfulSignals requirement) in
/-- The state a requirement is in: `pending` if it was not reported; otherwise the worst of its
signals', or `unavailable` if they are passes that no success confirms. -/
inductive IsIn : RequiredCheckState → Prop
  | missing (h : ¬ Reported casefold signals requirement) : IsIn .pending
  | signalled (signal : CheckSignal) (hsignal : signal ∈ signals)
      (hof : signal.isOf casefold requirement = true)
      (hworst : ∀ other ∈ signals, other.isOf casefold requirement = true →
        other.state.weight ≤ signal.state.weight)
      (hconfirmed : signal.state = .pass → ∀ successful ∈ successfulSignals,
        Reported casefold successful requirement) : IsIn signal.state
  | unconfirmed (hreported : Reported casefold signals requirement)
      (hpass : ∀ signal ∈ signals, signal.isOf casefold requirement = true → signal.state = .pass)
      (successful : List CheckSignal) (hgiven : successfulSignals = some successful)
      (hnone : ¬ Reported casefold successful requirement) : IsIn .unavailable

variable (casefold signals successfulSignals requirement) in
theorem isIn_ownState : IsIn casefold signals successfulSignals requirement
    (ownState casefold signals successfulSignals requirement) := by
  by_cases hreported : Reported casefold signals requirement
  · rw [ownState, if_pos hreported]
    cases hworst : worst (requirementStates casefold signals successfulSignals requirement) with
    | none =>
        obtain ⟨⟨signal, hsignal, hof⟩, hpass, hconfirmed⟩ :=
          (worst_requirementStates_eq_none hreported).mp hworst
        have hstate : signal.state = .pass := hpass signal hsignal hof
        rw [Option.getD_none, ← hstate]
        refine .signalled signal hsignal hof (fun other hother hof' => ?_) fun _ => hconfirmed
        rw [hpass other hother hof']
        exact Nat.zero_le _
    | some state =>
        obtain ⟨hmem, hall⟩ := worst_eq_some hworst
        rw [Option.getD_some]
        obtain ⟨signal, hsignal, hof, rfl⟩ | ⟨rfl, hpass, successful, hgiven, hnone⟩ :=
          mem_requirementStates.mp hmem
        · refine .signalled signal hsignal hof (fun other hother hof' => hall _ ?_) fun hpass => ?_
          · exact mem_requirementStates.mpr (.inl ⟨other, hother, hof', rfl⟩)
          · exact absurd (hpass ▸ hworst) worst_ne_pass
        · exact .unconfirmed hreported hpass successful hgiven hnone
  · rw [ownState, if_neg hreported]
    exact .missing hreported

theorem weight_injective {state state' : RequiredCheckState} (h : state.weight = state'.weight) :
    state = state' := by
  cases state <;> cases state' <;> simp [RequiredCheckState.weight] at h ⊢

/-- A requirement is in one state only. -/
theorem IsIn.unique {state state' : RequiredCheckState}
    (h : IsIn casefold signals successfulSignals requirement state)
    (h' : IsIn casefold signals successfulSignals requirement state') : state = state' := by
  cases h with
  | missing hmissing =>
      cases h' with
      | missing => rfl
      | signalled signal hsignal hof => exact absurd ⟨signal, hsignal, hof⟩ hmissing
      | unconfirmed hreported => exact absurd hreported hmissing
  | signalled signal hsignal hof hworst hconfirmed =>
      cases h' with
      | missing hmissing => exact absurd ⟨signal, hsignal, hof⟩ hmissing
      | signalled signal' hsignal' hof' hworst' =>
          exact weight_injective
            (Nat.le_antisymm (hworst' signal hsignal hof) (hworst signal' hsignal' hof'))
      | unconfirmed _ hpass successful hgiven hnone =>
          exact absurd (hconfirmed (hpass signal hsignal hof) successful hgiven) hnone
  | unconfirmed hreported hpass successful hgiven hnone =>
      cases h' with
      | missing hmissing => exact absurd hreported hmissing
      | signalled signal hsignal hof _ hconfirmed =>
          exact absurd (hconfirmed (hpass signal hsignal hof) successful hgiven) hnone
      | unconfirmed => rfl

/-- What the evaluation reads of the signals: which there are. -/
def SameSignals (signals signals' : List CheckSignal) : Prop :=
  ∀ signal, signal ∈ signals ↔ signal ∈ signals'

theorem reported_congr {signals' : List CheckSignal} (h : SameSignals signals signals') :
    Reported casefold signals requirement ↔ Reported casefold signals' requirement := by
  unfold Reported
  simp only [h _]

theorem ownState_congr {signals' : List CheckSignal} {successfulSignals' : Option (List CheckSignal)}
    (h : SameSignals signals signals')
    (hs : Option.Rel SameSignals successfulSignals successfulSignals') :
    ownState casefold signals successfulSignals requirement =
      ownState casefold signals' successfulSignals' requirement := by
  have hsuccess : (∃ successful ∈ successfulSignals, ¬ Reported casefold successful requirement) ↔
      ∃ successful ∈ successfulSignals', ¬ Reported casefold successful requirement := by
    cases hs with
    | none => rfl
    | some hsame => simp [reported_congr hsame]
  have hworst : worst (requirementStates casefold signals successfulSignals requirement) =
      worst (requirementStates casefold signals' successfulSignals' requirement) := by
    refine worst_congr fun state => ?_
    rw [mem_requirementStates, mem_requirementStates, hsuccess]
    simp only [h _]
  unfold ownState
  rw [hworst]
  simp only [reported_congr h]

/-- A verdict is a pass iff there is a requirement and all are satisfied. -/
theorem status_eq_pass_iff (requirements : List CheckRequirement) :
    (evaluateRequiredChecks casefold signals successfulSignals requirements).status = .pass ↔
      requirements ≠ [] ∧
        ∀ r ∈ requirements, Satisfied casefold signals successfulSignals r := by
  rw [(evaluate_eq casefold signals successfulSignals requirements).1]
  split_ifs with hnil
  · simp [hnil]
  · cases hworst : worst (requirements.map (ownState casefold signals successfulSignals)) with
    | none =>
        have hall := worst_eq_none.mp hworst
        simp only [List.mem_map, forall_exists_index, and_imp, forall_apply_eq_imp_iff₂,
          ownState_eq_pass_iff] at hall
        simpa [hnil] using hall
    | some state =>
        have hne : state ≠ .pass := fun h => worst_ne_pass (h ▸ hworst)
        simp only [Option.getD_some, hne, false_iff, not_and]
        intro _ hall
        have hnone : worst (requirements.map (ownState casefold signals successfulSignals)) = none :=
          worst_eq_none.mpr (by simpa [ownState_eq_pass_iff] using hall)
        rw [hnone] at hworst
        cases hworst

variable (casefold signals successfulSignals) in
/-- **Required checks pass only on full evidence**, the verdict says what keeps them from it, and
neither the order nor the number of the signals matters. -/
theorem evaluateRequiredChecks_spec (requirements : List CheckRequirement) :
    let evaluate := fun signals successfulSignals =>
      evaluateRequiredChecks casefold signals successfulSignals requirements
    let verdict := evaluate signals successfulSignals
    (verdict.status = .pass ↔ requirements ≠ [] ∧
      ∀ r ∈ requirements, Satisfied casefold signals successfulSignals r) ∧
    (requirements = [] → verdict.status = .unavailable) ∧
    (requirements ≠ [] →
      (∃ r ∈ requirements, IsIn casefold signals successfulSignals r verdict.status) ∧
      ∀ r ∈ requirements, ∀ state, IsIn casefold signals successfulSignals r state →
        state.weight ≤ verdict.status.weight) ∧
    verdict.blocking.map (·.1) =
      requirements.filter (¬ Satisfied casefold signals successfulSignals ·) ∧
    (∀ item ∈ verdict.blocking, IsIn casefold signals successfulSignals item.1 item.2) ∧
    verdict.missing = (requirements.filter (¬ Reported casefold signals ·)).map (·.identity) ∧
    (∀ signals' successfulSignals', SameSignals signals signals' →
      Option.Rel SameSignals successfulSignals successfulSignals' →
      evaluate signals' successfulSignals' = verdict) ∧
    ∀ signal signals', signal.state ≠ .pass →
      (∀ other, other ∈ signals' ↔ other = signal ∨ other ∈ signals) →
      verdict.status ≠ .pass → (evaluate signals' successfulSignals).status ≠ .pass := by
  obtain ⟨hstatus, hmissing, hblocking⟩ :=
    evaluate_eq casefold signals successfulSignals requirements
  refine ⟨status_eq_pass_iff requirements, ?_, ?_, ?_, ?_, hmissing, ?_, ?_⟩
  · intro hnil
    rw [hstatus, if_pos hnil]
  · intro hne
    rw [hstatus, if_neg hne]
    set own := requirements.map (ownState casefold signals successfulSignals) with hown
    -- the verdict is the worst of the own states, `pass` where there is no worst
    have hworst : (worst own).getD .pass ∈ own ∧
        ∀ state ∈ own, state.weight ≤ ((worst own).getD .pass).weight := by
      cases h : worst own with
      | some state => exact worst_eq_some h
      | none =>
          have hall := worst_eq_none.mp h
          obtain ⟨r, hr⟩ := List.exists_mem_of_ne_nil requirements hne
          have hmem : ownState casefold signals successfulSignals r ∈ own :=
            List.mem_map_of_mem hr
          refine ⟨hall _ hmem ▸ hmem, fun state hstate => ?_⟩
          rw [hall state hstate]
          exact Nat.zero_le _
    obtain ⟨hmem, hmax⟩ := hworst
    constructor
    · obtain ⟨r, hr, heq⟩ := List.mem_map.mp hmem
      exact ⟨r, hr, heq ▸ isIn_ownState casefold signals successfulSignals r⟩
    · intro r hr state hstate
      rw [hstate.unique (isIn_ownState casefold signals successfulSignals r)]
      exact hmax _ (List.mem_map_of_mem hr)
  · rw [hblocking, unsatisfied, List.filter_map, List.map_map]
    have hsame : requirements.filter
        ((fun item : CheckRequirement × RequiredCheckState => decide (item.2 ≠ .pass)) ∘
          fun r => (r, ownState casefold signals successfulSignals r)) =
        requirements.filter (¬ Satisfied casefold signals successfulSignals ·) :=
      List.filter_congr fun r _ => by simp [ownState_eq_pass_iff]
    rw [hsame]
    exact List.map_id _
  · intro item hitem
    rw [hblocking, unsatisfied] at hitem
    obtain ⟨r, -, rfl⟩ := List.mem_map.mp (List.mem_filter.mp hitem).1
    exact isIn_ownState casefold signals successfulSignals r
  · intro signals' successfulSignals' h hs
    obtain ⟨hstatus', hmissing', hblocking'⟩ :=
      evaluate_eq casefold signals' successfulSignals' requirements
    have hown : ownState casefold signals successfulSignals =
        ownState casefold signals' successfulSignals' := funext fun _ => ownState_congr h hs
    have hreported : (fun r => decide ¬ Reported casefold signals r) =
        fun r => decide ¬ Reported casefold signals' r :=
      funext fun _ => by simp [reported_congr h]
    have hfields (v v' : RequiredCheckVerdict) (h₁ : v.status = v'.status)
        (h₂ : v.missing = v'.missing) (h₃ : v.blocking = v'.blocking) : v = v' := by
      cases v
      cases v'
      simp_all
    refine hfields _ _ ?_ ?_ ?_
    · rw [hstatus, hstatus', hown]
    · rw [hmissing, hmissing', hreported]
    · rw [hblocking, hblocking', unsatisfied, unsatisfied, hown]
  · intro signal signals' hnot hadded hbefore hafter
    obtain ⟨hne, hall⟩ := (status_eq_pass_iff requirements).mp hafter
    refine hbefore ((status_eq_pass_iff requirements).mpr ⟨hne, fun r hr => ?_⟩)
    obtain ⟨⟨reported, hreported, hof⟩, hpass, hconfirmed⟩ := hall r hr
    have hold : reported ∈ signals := by
      obtain rfl | hold := (hadded reported).mp hreported
      · exact absurd (hpass reported hreported hof) hnot
      · exact hold
    exact ⟨⟨reported, hold, hof⟩, fun other hother => hpass other ((hadded other).mpr (.inr hother)),
      hconfirmed⟩

end

end Launchplane.Checks
