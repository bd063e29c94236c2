import Launchplane.MergeTrain.AdmissionRecord
import Mathlib.Data.List.MinMax
import Mathlib.Data.List.Sort
import Mathlib.Data.Prod.Lex
import Mathlib.Data.String.Basic

/-!
# Launchplane.MergeTrain.Ledger

**The admission ledger.** Two append-only tables: admissions, and the outcomes
observed for each of them. A row is never changed or deleted, so everything the
ledger guarantees it guarantees by refusing to insert.

An admission is inserted in one transaction that also reads the controller's
row: the lease it was made under must still be the stored one. An outcome is
checked against its predecessor by reads before the insert, and the unique index
on the admission and the sequence of the observation is what decides between
two writers.
-/

namespace Launchplane.MergeTrain

/-- The rows of `launchplane_merge_admissions` and of `launchplane_merge_landing_outcomes`. -/
structure Ledger where
  admissions : List MergeAdmissionRecord := []
  outcomes : List MergeLandingOutcomeRecord := []
  deriving Repr, DecidableEq

namespace Ledger

/-! ### Reads -/

/-- `created_at desc, admission_id desc`. -/
def newestFirst (a b : MergeAdmissionRecord) : Prop :=
  toLex (b.createdAt, b.admissionId) ≤ toLex (a.createdAt, a.admissionId)

instance : DecidableRel newestFirst := fun a b =>
  inferInstanceAs (Decidable (toLex (b.createdAt, b.admissionId) ≤
    toLex (a.createdAt, a.admissionId)))

/-- The filters of `list_merge_admission_records`; an empty text filters nothing. -/
def matchesTarget (repository baseBranch : String) (pullRequestNumber : Nat)
    (landingPlanId : String) (record : MergeAdmissionRecord) : Bool :=
  (repository = "" ∨ record.repository = pyLower (pyStrip repository)) ∧
    (baseBranch = "" ∨ record.baseBranch = baseBranch) ∧
    record.pullRequestNumber = pullRequestNumber ∧
    (landingPlanId = "" ∨ record.landingPlanId = landingPlanId)

/-- `list_merge_admission_records`. -/
def listMergeAdmissionRecords (ledger : Ledger) (repository baseBranch : String)
    (pullRequestNumber : Nat) (landingPlanId : String) : List MergeAdmissionRecord :=
  (ledger.admissions.filter
    (matchesTarget repository baseBranch pullRequestNumber landingPlanId)).insertionSort newestFirst

/-- `read_merge_admission_record`. -/
def readMergeAdmissionRecord (ledger : Ledger) (admissionId : String) :
    Except TrainError MergeAdmissionRecord :=
  match ledger.admissions.find? (·.admissionId = admissionId) with
  | some record => .ok record
  | none => .error (.other admissionId)

/-- `list_merge_landing_outcome_records` of one admission with `limit=1`: its latest outcome. -/
def latestMergeLandingOutcomeRecord (ledger : Ledger) (admissionId : String) :
    Option MergeLandingOutcomeRecord :=
  (ledger.outcomes.filter (·.admissionId = admissionId)).argmax fun record =>
    toLex (record.observationSequence, toLex (record.observedAt, record.outcomeId))

/-! ### Inserts -/

/-- Whether a stored outcome keeps a record from being inserted. -/
def outcomeConflicts (record row : MergeLandingOutcomeRecord) : Bool :=
  row.outcomeId = record.outcomeId ∨
    (row.admissionId = record.admissionId ∧ row.observationSequence = record.observationSequence)

/-- The insert at the end of `create_merge_landing_outcome_record_if_absent`, with its unique
indexes. -/
def insertMergeLandingOutcomeRecord (ledger : Ledger) (record : MergeLandingOutcomeRecord) :
    Except TrainError (MergeLandingOutcomeRecord × Bool) × Ledger :=
  match ledger.outcomes.find? (outcomeConflicts record) with
  | some existing =>
    if existing ≠ record then
      (.error (.valueError "Merge landing outcome records are append-only."), ledger)
    else (.ok (existing, false), ledger)
  | none => (.ok (record, true), { ledger with outcomes := record :: ledger.outcomes })

/-! ### What an insert can do -/

/-- An outcome that was inserted is a new observation; every other answer leaves the ledger
alone. -/
theorem insertOutcome_cases {ledger ledger' : Ledger} {record : MergeLandingOutcomeRecord}
    {answer : Except TrainError (MergeLandingOutcomeRecord × Bool)}
    (h : ledger.insertMergeLandingOutcomeRecord record = (answer, ledger')) :
    (answer = .ok (record, true) ∧
        ledger' = { ledger with outcomes := record :: ledger.outcomes } ∧
        ∀ row ∈ ledger.outcomes, row.admissionId = record.admissionId →
          row.observationSequence ≠ record.observationSequence) ∨
      (ledger' = ledger ∧ ∀ stored created, answer = .ok (stored, created) →
        created = false ∧ stored = record ∧ record ∈ ledger.outcomes) := by
  unfold insertMergeLandingOutcomeRecord at h
  split at h
  · rename_i existing hfind
    split at h
    · cases h
      exact .inr ⟨rfl, fun _ _ he => by cases he⟩
    · rename_i hsame
      cases h
      refine .inr ⟨rfl, ?_⟩
      intro stored created he
      cases he
      rw [ne_eq, not_not] at hsame
      exact ⟨rfl, hsame, hsame ▸ List.mem_of_find?_eq_some hfind⟩
  · rename_i hfind
    cases h
    refine .inl ⟨rfl, rfl, ?_⟩
    intro row hrow hid hseq
    have hrowConflict := List.find?_eq_none.mp hfind row hrow
    simp [outcomeConflicts, hid, hseq] at hrowConflict

theorem mem_listMergeAdmissionRecords {ledger : Ledger} {repository baseBranch landingPlanId : String}
    {pullRequestNumber : Nat} {record : MergeAdmissionRecord} :
    record ∈ ledger.listMergeAdmissionRecords repository baseBranch pullRequestNumber landingPlanId ↔
      record ∈ ledger.admissions ∧
        matchesTarget repository baseBranch pullRequestNumber landingPlanId record = true := by
  simp [listMergeAdmissionRecords]

/-- The latest outcome of an admission is one of its outcomes, and none is later. -/
theorem latestOutcome_eq_some {ledger : Ledger} {admissionId : String}
    {latest : MergeLandingOutcomeRecord}
    (h : ledger.latestMergeLandingOutcomeRecord admissionId = some latest) :
    latest ∈ ledger.outcomes ∧ latest.admissionId = admissionId ∧
      ∀ row ∈ ledger.outcomes, row.admissionId = admissionId →
        row.observationSequence ≤ latest.observationSequence := by
  have hmem := List.mem_filter.mp (List.argmax_mem h)
  refine ⟨hmem.1, by simpa using hmem.2, ?_⟩
  intro row hrow hid
  have hle := List.le_of_mem_argmax (List.mem_filter.mpr ⟨hrow, by simpa using hid⟩) h
  rcases Prod.Lex.le_iff.mp hle with hlt | heq
  · exact le_of_lt hlt
  · exact le_of_eq heq.1

theorem latestOutcome_eq_none {ledger : Ledger} {admissionId : String} :
    ledger.latestMergeLandingOutcomeRecord admissionId = none ↔
      ∀ row ∈ ledger.outcomes, row.admissionId ≠ admissionId := by
  simp [latestMergeLandingOutcomeRecord, List.argmax_eq_none]

end Ledger

end Launchplane.MergeTrain
