import Launchplane.LaneMovement.Builds
import Mathlib.Algebra.Order.Ring.Int
import Mathlib.Data.List.Chain

/-!
# Launchplane.LaneMovement.Forward

**A lane never moves backwards.** A build that is accepted is the lane's own, or
its commit was compared with the lane's and is not behind it, and its artifact is
newer wherever the order of artifacts can be known (`Forward`). Build runs are
ordered, so that a lane whose builds are on record does not come back to an image.
-/

namespace Launchplane.LaneMovement

variable {S : Store} {P : Provider} {profile : Profile} {current desired returned : LaneBuild}

/-! ### Reading results -/

theorem rescued_eq_ok {α : Type} {caught : Failure → Bool} {unverified : Refusal}
    {p : Except Failure α} {a : α} : rescued caught unverified p = .ok a ↔ p = .ok a := by
  cases p with
  | ok b => rfl
  | error error =>
    by_cases h : caught error = true <;> simp [rescued, h]

theorem optional_eq_some {α : Type} {p : Except Failure α} {a : α} :
    optional p = .ok (some a) ↔ p = .ok a := by
  cases p with
  | ok b => simp [optional]
  | error error =>
    by_cases h : error.isMissing = true <;> simp [optional, h]

theorem optional_map {α β : Type} {f : α → β} {p : Except Failure α} :
    optional (p.map f) = (optional p).map (Option.map f) := by
  cases p with
  | ok a => rfl
  | error error =>
    by_cases h : error.isMissing = true <;> simp [optional, Except.map, h]

theorem mapError_eq_ok {α : Type} {f : Failure → Failure} {p : Except Failure α} {a : α} :
    p.mapError f = .ok a ↔ p = .ok a := by
  cases p <;> simp [Except.mapError]

/-- The source build a build is known by. -/
theorem source_eq_some {build : LaneBuild} {known : ArtifactSourceBuild} :
    source S build = .ok (some known) ↔ recordedSource S build = .ok (some known) := by
  rw [source, map_eq_ok]
  constructor
  · rintro ⟨found, hfound, hjoin⟩
    obtain rfl : found = some (some known) := by
      cases found with
      | none => cases hjoin
      | some inner => exact congrArg some hjoin
    exact optional_eq_some.mp hfound
  · exact fun h => ⟨some (some known), optional_eq_some.mpr h, rfl⟩

theorem source_of_sourceBuild {build : LaneBuild} {known : ArtifactSourceBuild}
    (h : build.sourceBuild = some known) : source S build = .ok (some known) := by
  rw [source_eq_some, recordedSource, h]

/-! ### The evidence of a newer artifact -/

/-- The source build the order of artifacts takes for the lane's own build. -/
def currentSource (S : Store) (P : Provider) (profile : Profile) (current : LaneBuild) :
    Except Failure (Option ArtifactSourceBuild) := do
  let before ← source S current
  provedBefore S P profile current before

/-- A later run of the product's own repository. -/
structure NewerRun (profile : Profile) (before after : ArtifactSourceBuild) : Prop where
  before_repository : before.repository = profile.repository
  after_repository : after.repository = profile.repository
  later : before.Before after

/-- A successful run for the commit, in the product's own repository, started strictly after the
current build was first observed. -/
def StartedLater (P : Provider) (profile : Profile) (current returned : LaneBuild)
    (after : ArtifactSourceBuild) : Prop :=
  after.repository = profile.repository ∧
    ∃ run started observed, P.getJson (.run after.runId after.runAttempt) = .ok run ∧
      IsRunOf run after returned.commit ∧
      P.parseTimestamp (runStartedAt run) = .ok started ∧
      P.parseTimestamp current.observedAt = .ok observed ∧
      started.aware = true ∧ observed.aware = true ∧ observed.instant < started.instant

/-- The artifact is strictly newer: by its run where both runs are known, otherwise by the time its
run started. -/
def Newer (S : Store) (P : Provider) (profile : Profile) (current returned : LaneBuild) : Prop :=
  ∃ before after, currentSource S P profile current = .ok before ∧ source S returned = .ok after ∧
    ((∃ known known', before = some known ∧ after = some known' ∧ NewerRun profile known known') ∨
      (before = none ∨ after = none) ∧
        ∃ built, (∀ known ∈ after, built = known) ∧ StartedLater P profile current returned built)

theorem startedLater_eq_ok {after : Option ArtifactSourceBuild}
    (h : startedLater P profile current desired after = .ok ()) :
    ∃ built, (∀ known ∈ after, built = known) ∧ StartedLater P profile current desired built := by
  obtain ⟨built, hbuilt, h⟩ := bind_eq_ok.mp h
  have hsame : ∀ known ∈ after, built = known := by
    rintro known hknown
    rw [Option.mem_def.mp hknown] at hbuilt
    exact (Except.ok.inj hbuilt).symm
  by_cases hrepository : built.repository ≠ profile.repository
  · rw [if_pos hrepository] at h
    cases h
  rw [if_neg hrepository] at h
  obtain ⟨run, hrun, h⟩ := bind_eq_ok.mp h
  by_cases hof : IsRunOf run built desired.commit
  swap
  · rw [if_pos hof] at h
    cases h
  rw [if_neg (not_not.mpr hof)] at h
  obtain ⟨started, hstarted, h⟩ := bind_eq_ok.mp h
  obtain ⟨observed, hobserved, h⟩ := bind_eq_ok.mp h
  by_cases hlate : started.aware = false ∨ observed.aware = false ∨
      started.instant ≤ observed.instant
  · rw [if_pos hlate] at h
    cases h
  rw [not_or, not_or, Bool.not_eq_false, Bool.not_eq_false, Int.not_le] at hlate
  exact ⟨built, hsame, not_not.mp hrepository, run, started, observed, hrun, hof, hstarted,
    hobserved, hlate⟩

/-- What `_require_newer_artifact` has shown when it returns. -/
theorem newer_of_ok (h : requireNewerArtifact S P profile current desired = .ok ()) :
    Newer S P profile current desired := by
  obtain ⟨recorded, hrecorded, h⟩ := bind_eq_ok.mp h
  obtain ⟨after, hafter, h⟩ := bind_eq_ok.mp h
  obtain ⟨before, hbefore, h⟩ := bind_eq_ok.mp h
  refine ⟨before, after, bind_eq_ok.mpr ⟨recorded, hrecorded, hbefore⟩, hafter, ?_⟩
  have htimed (hunknown : before = none ∨ after = none)
      (h : (if current.observedAt = "" then throw (.refused .buildOrderUnverified)
        else (startedLater P profile current desired after).mapError orderRefusal) = .ok ()) :
      (before = none ∨ after = none) ∧
        ∃ built, (∀ known ∈ after, built = known) ∧ StartedLater P profile current desired built := by
    refine ⟨hunknown, ?_⟩
    by_cases hempty : current.observedAt = ""
    · rw [if_pos hempty] at h
      cases h
    · rw [if_neg hempty, mapError_eq_ok] at h
      exact startedLater_eq_ok h
  cases before with
  | none => exact .inr (htimed (.inl rfl) h)
  | some known =>
    cases after with
    | none => exact .inr (htimed (.inr rfl) h)
    | some known' =>
      dsimp only at h
      by_cases hrepository : known.repository ≠ known'.repository ∨
          known'.repository ≠ profile.repository
      · rw [if_pos hrepository] at h
        cases h
      rw [if_neg hrepository] at h
      by_cases hlater : known.Before known'
      swap
      · rw [if_pos hlater] at h
        cases h
      rw [not_or, not_ne_iff, not_ne_iff] at hrepository
      exact .inl ⟨known, known', rfl, rfl, hrepository.1.trans hrepository.2, hrepository.2, hlater⟩

/-- A source build on record is the one the order of artifacts takes. -/
theorem currentSource_of_source {known : ArtifactSourceBuild}
    (h : source S current = .ok (some known)) :
    currentSource S P profile current = .ok (some known) :=
  bind_eq_ok.mpr ⟨some known, h, if_neg (by simp)⟩

theorem Newer.run (h : Newer S P profile current returned) {before after : ArtifactSourceBuild}
    (hbefore : currentSource S P profile current = .ok (some before))
    (hafter : source S returned = .ok (some after)) : NewerRun profile before after := by
  obtain ⟨found, found', hfound, hfound', hcases⟩ := h
  obtain rfl := Except.ok.inj (hfound.symm.trans hbefore)
  obtain rfl := Except.ok.inj (hfound'.symm.trans hafter)
  obtain ⟨known, known', hknown, hknown', hrun⟩ | ⟨hunknown, -⟩ := hcases
  · obtain rfl := Option.some.inj hknown
    obtain rfl := Option.some.inj hknown'
    exact hrun
  · rcases hunknown with h | h <;> cases h

/-! ### Proofs keep the build -/

/-- A build that stands for another: of the same commit and artifact, with the same image unless a
canonical tag was resolved to one, and with a known source build where the other has one. -/
structure SameSource (S : Store) (profile : Profile) (build proved : LaneBuild) : Prop where
  commit : proved.commit = build.commit
  artifactId : proved.artifactId = build.artifactId
  image : proved.image = build.image ∨ build.image = profile.canonicalTag build.commit
  known : ∀ known, source S build = .ok (some known) →
    ∃ known', source S proved = .ok (some known')

theorem SameSource.refl (build : LaneBuild) : SameSource S profile build build :=
  ⟨rfl, rfl, .inl rfl, fun known h => ⟨known, h⟩⟩

theorem SameSource.trans {a b c : LaneBuild} (h : SameSource S profile a b)
    (h' : SameSource S profile b c) : SameSource S profile a c where
  commit := h'.commit.trans h.commit
  artifactId := h'.artifactId.trans h.artifactId
  image := by
    rcases h'.image with heq | htag
    · exact h.image.imp_left heq.trans
    · rcases h.image with heq | htag'
      · exact .inr (by rw [← heq, htag, h.commit])
      · exact .inr htag'
  known known hknown := by
    obtain ⟨known', hknown'⟩ := h.known known hknown
    exact h'.known known' hknown'

/-- A proof that names the source build. -/
theorem sameSource_of_isSome {build proved : LaneBuild} (hcommit : proved.commit = build.commit)
    (hartifact : proved.artifactId = build.artifactId)
    (himage : proved.image = build.image ∨ build.image = profile.canonicalTag build.commit)
    (hsome : proved.sourceBuild.isSome = true) : SameSource S profile build proved where
  commit := hcommit
  artifactId := hartifact
  image := himage
  known _ _ := by
    obtain ⟨known, hknown⟩ := Option.isSome_iff_exists.mp hsome
    exact ⟨known, source_of_sourceBuild hknown⟩

/-- What a deployment on record proves of a build. -/
theorem recordedGenericBuild_eq_ok {build saved : LaneBuild}
    (h : recordedGenericBuild S profile build = .ok (some saved)) :
    saved.commit = build.commit ∧ saved.artifactId = build.artifactId ∧
      saved.image = build.image ∧ saved.sourceBuild.isSome = true := by
  unfold recordedGenericBuild at h
  cases hlist : S.listDeploymentRecords with
  | none =>
    rw [hlist] at h
    cases h
  | some list =>
    rw [hlist] at h
    obtain ⟨found, -, h⟩ := bind_eq_ok.mp h
    cases found with
    | none => cases h
    | some proof =>
      cases h
      exact ⟨rfl, rfl, rfl, rfl⟩

/-- A proof of an image names its source build. -/
theorem provedGenericBuild_eq_ok {asker : Asker} {number : Option Int} {recorded : Bool}
    {build proved : LaneBuild}
    (h : provedGenericBuild S P profile asker build number recorded = .ok proved) :
    proved.commit = build.commit ∧ proved.artifactId = build.artifactId ∧
      (proved.image = build.image ∨ build.image = profile.canonicalTag build.commit) ∧
      proved.sourceBuild.isSome = true := by
  unfold provedGenericBuild at h
  by_cases hsome : build.sourceBuild.isSome = true
  · rw [if_pos hsome] at h
    cases h
    exact ⟨rfl, rfl, .inl rfl, hsome⟩
  rw [if_neg hsome] at h
  obtain ⟨saved, hsaved, h⟩ := bind_eq_ok.mp h
  cases saved with
  | some saved =>
    obtain ⟨hcommit, hartifact, himage, hproof⟩ := recordedGenericBuild_eq_ok hsaved
    have heq : saved = proved := by
      dsimp only at h
      split at h
      · cases h
      split at h
      · obtain ⟨pull, -, h⟩ := bind_eq_ok.mp h
        split at h
        · cases h
        · exact Except.ok.inj h
      · exact Except.ok.inj h
    subst heq
    exact ⟨hcommit, hartifact, .inl himage, hproof⟩
  | none =>
    obtain ⟨id, -, h⟩ := bind_eq_ok.mp h
    obtain ⟨verified, -, h⟩ := bind_eq_ok.mp h
    dsimp only at h
    by_cases hother : verified.imageReference ≠ build.image ∧
        build.image ≠ profile.canonicalTag build.commit
    · rw [if_pos hother] at h
      cases h
    rw [if_neg hother] at h
    split at h
    · cases h
    cases h
    refine ⟨rfl, rfl, ?_, rfl⟩
    by_cases himage : verified.imageReference = build.image
    · exact .inl himage
    · exact .inr (not_not.mp fun htag => hother ⟨himage, htag⟩)

theorem sameSource_provedGenericBuild {asker : Asker} {number : Option Int} {recorded : Bool}
    {build proved : LaneBuild}
    (h : provedGenericBuild S P profile asker build number recorded = .ok proved) :
    SameSource S profile build proved := by
  obtain ⟨hcommit, hartifact, himage, hsome⟩ := provedGenericBuild_eq_ok h
  exact sameSource_of_isSome hcommit hartifact himage hsome

theorem sameSource_provedImage (h : provedImage S P profile current desired = .ok returned) :
    SameSource S profile desired returned := by
  unfold provedImage at h
  split at h
  · exact sameSource_provedGenericBuild h
  · cases h
    exact .refl _

theorem sameSource_provedReference
    (h : provedReference S P profile current desired = .ok returned) :
    SameSource S profile desired returned := by
  unfold provedReference at h
  split at h
  · obtain ⟨hcommit, hartifact, himage, hsome⟩ := provedGenericBuild_eq_ok h
    exact sameSource_of_isSome hcommit hartifact himage hsome
  · cases h
    exact .refl _

/-- An Odoo build is proved only where it has no source build on record. -/
theorem sameSource_provedOdooBuild {context : String}
    (hmanifest : optional (S.readArtifactManifest desired.artifactId) = .ok none)
    (hnone : desired.sourceBuild = none) (h : provedOdooBuild P desired context = .ok returned) :
    SameSource S profile desired returned := by
  have hunknown : source S desired = .ok none := by
    rw [source, recordedSource, hnone]
    dsimp only
    rw [optional_map, hmanifest]
    rfl
  obtain ⟨id, -, h⟩ := bind_eq_ok.mp h
  obtain ⟨manifest, -, h⟩ := bind_eq_ok.mp h
  split at h
  · cases h
  · cases h
    refine ⟨rfl, rfl, .inl rfl, fun known hknown => ?_⟩
    rw [hunknown] at hknown
    cases hknown

theorem sameSource_provedDescendant {manifest : Option Manifest}
    (hmanifest : optional (S.readArtifactManifest desired.artifactId) = .ok manifest)
    (h : provedDescendant S P profile current desired manifest = .ok returned) :
    SameSource S profile desired returned := by
  unfold provedDescendant at h
  split at h
  · exact sameSource_provedImage h
  split at h
  · rename_i hodoo
    rw [hodoo.1] at hmanifest
    exact sameSource_provedOdooBuild hmanifest hodoo.2.1 h
  · cases h
    exact .refl _

/-! ### Full commits -/

theorem Abbreviates.refl (commit : String) : Abbreviates commit commit := List.prefix_rfl

theorem Abbreviates.trans {a b c : String} (h : Abbreviates a b) (h' : Abbreviates b c) :
    Abbreviates a c := List.IsPrefix.trans h h'

/-- The commit a lane's commit stands for. -/
structure Resolves (commit full : String) : Prop where
  abbreviates : Abbreviates commit full
  same : isFullSha commit = true → full = commit

theorem Resolves.refl (commit : String) : Resolves commit commit :=
  ⟨.refl commit, fun _ => rfl⟩

/-- A build with its commit in full. -/
def LaneBuild.at (build : LaneBuild) (commit : String) : LaneBuild := { build with commit }

theorem manifestCommit_eq_ok (h : manifestCommit S current = .ok returned) :
    ∃ commit, returned = current.at commit ∧ Resolves current.commit commit := by
  unfold manifestCommit at h
  by_cases hshort : current.commit ≠ "" ∧ isFullSha current.commit = false
  swap
  · rw [if_neg hshort] at h
    cases h
    exact ⟨current.commit, rfl, .refl _⟩
  rw [if_pos hshort] at h
  obtain ⟨manifest, -, h⟩ := bind_eq_ok.mp h
  cases manifest with
  | none =>
    cases h
    exact ⟨current.commit, rfl, .refl _⟩
  | some manifest =>
    dsimp only at h
    by_cases habbreviates : Abbreviates current.commit manifest.sourceCommit
    · rw [if_pos habbreviates] at h
      cases h
      exact ⟨manifest.sourceCommit, rfl, habbreviates, fun hfull => by simp [hfull] at hshort⟩
    · rw [if_neg habbreviates] at h
      cases h
      exact ⟨current.commit, rfl, .refl _⟩

theorem not_isFullSha_of_isAbbreviatedSha {commit : String} (h : isAbbreviatedSha commit = true) :
    isFullSha commit = false := by
  simp only [isAbbreviatedSha, Bool.and_eq_true, decide_eq_true_eq] at h
  simp only [isFullSha, Bool.and_eq_false_iff, beq_eq_false_iff_ne]
  exact .inl (by omega)

theorem resolvedCommit_eq_ok (h : resolvedCommit P current = .ok returned) :
    ∃ commit, returned = current.at commit ∧ Resolves current.commit commit := by
  unfold resolvedCommit at h
  by_cases hshort : isAbbreviatedSha current.commit = true
  swap
  · rw [if_neg hshort] at h
    cases h
    exact ⟨current.commit, rfl, .refl _⟩
  rw [if_pos hshort, rescued_eq_ok] at h
  obtain ⟨resolved, -, h⟩ := bind_eq_ok.mp h
  cases hsha : resolved.field "sha" with
  | string fullSha =>
    rw [hsha] at h
    dsimp only at h
    by_cases hfull : isFullSha fullSha = true ∧ Abbreviates current.commit fullSha
    · rw [if_pos hfull] at h
      cases h
      refine ⟨fullSha, rfl, hfull.2, fun hcurrent => ?_⟩
      rw [not_isFullSha_of_isAbbreviatedSha hshort] at hcurrent
      cases hcurrent
    · rw [if_neg hfull] at h
      cases h
  | _ =>
    rw [hsha] at h
    cases h

/-! ### The exits -/

/-- The provider compared the two commits, and the second is not behind the first. -/
def Compared (P : Provider) (base head : String) : Prop :=
  ∃ comparison, P.getJson (.compare base head) = .ok comparison ∧
    ((comparison.field "base_commit").field "sha").isText base = true ∧
    (comparison.field "status").isText "behind" = false

/-- What is shown of a build that is not the lane's own: its place in the history of the source, and
that its artifact is newer wherever that can be known. -/
structure Forward (S : Store) (P : Provider) (profile : Profile) (current returned : LaneBuild) :
    Prop where
  full : isFullSha current.commit = true ∧ isFullSha returned.commit = true
  ordered : SameCommit current.commit returned.commit ∨ Compared P current.commit returned.commit
  known : ∀ before after, source S current = .ok (some before) →
    source S returned = .ok (some after) → NewerRun profile before after
  newer : profile.driverId ≠ "odoo" → returned.image ≠ "" → Newer S P profile current returned

/-- What is shown of the artifacts. -/
theorem forward_of_newer
    (hfull : isFullSha current.commit = true ∧ isFullSha returned.commit = true)
    (hordered : SameCommit current.commit returned.commit ∨
      Compared P current.commit returned.commit)
    (h : Newer S P profile current returned) : Forward S P profile current returned where
  full := hfull
  ordered := hordered
  known _ _ hbefore hafter := h.run (currentSource_of_source hbefore) hafter
  newer _ _ := h

/-- What is shown of a descendant's artifact. -/
theorem descendant_eq_ok {manifest : Option Manifest}
    (hmanifest : optional (S.readArtifactManifest desired.artifactId) = .ok manifest)
    (h : descendant S P profile current desired manifest = .ok returned) :
    SameSource S profile desired returned ∧
      (∀ before after, source S current = .ok (some before) →
        source S returned = .ok (some after) → NewerRun profile before after) ∧
      (profile.driverId ≠ "odoo" → returned.image ≠ "" → Newer S P profile current returned) := by
  obtain ⟨proved, hproved, h⟩ := bind_eq_ok.mp h
  obtain ⟨sources, hsources, h⟩ := bind_eq_ok.mp h
  have hsame : SameSource S profile desired proved := sameSource_provedDescendant hmanifest hproved
  -- both source builds are on record exactly if the pair was read
  have hpair {before after : ArtifactSourceBuild} (hbefore : source S current = .ok (some before))
      (hafter : source S proved = .ok (some after)) : sources = some (some before, some after) := by
    rw [source_eq_some] at hbefore hafter
    rw [hbefore, hafter] at hsources
    exact (Except.ok.inj hsources).symm
  by_cases hboth : ∃ before after, sources = some (some before, some after)
  · obtain ⟨before, after, rfl⟩ := hboth
    obtain ⟨⟨⟩, hchecked, h⟩ := bind_eq_ok.mp h
    cases h
    obtain ⟨first, hfirst, hrest⟩ := bind_eq_ok.mp (optional_eq_some.mp hsources)
    obtain ⟨second, hsecond, hrest⟩ := bind_eq_ok.mp hrest
    cases hrest
    have hrun : NewerRun profile before after :=
      (newer_of_ok hchecked).run (currentSource_of_source (source_of_sourceBuild rfl))
        (source_of_sourceBuild rfl)
    have hbefore := source_eq_some.mpr hfirst
    have hafter := source_eq_some.mpr hsecond
    refine ⟨hsame, fun known known' hknown hknown' => ?_, fun _ _ => ?_⟩
    · obtain rfl := Option.some.inj (Except.ok.inj (hknown.symm.trans hbefore))
      obtain rfl := Option.some.inj (Except.ok.inj (hknown'.symm.trans hafter))
      exact hrun
    · exact ⟨_, _, currentSource_of_source hbefore, hafter, .inl ⟨before, after, rfl, rfl, hrun⟩⟩
  · have hcases : (if profile.driverId ≠ "odoo" ∧ proved.image ≠ "" then do
        requireNewerArtifact S P profile current proved
        return proved
      else return proved : Except Failure LaneBuild) = .ok returned := by
      rcases sources with - | ⟨- | before, - | after⟩
      · exact h
      · exact h
      · exact h
      · exact h
      · exact absurd ⟨before, after, rfl⟩ hboth
    by_cases himage : profile.driverId ≠ "odoo" ∧ proved.image ≠ ""
    · rw [if_pos himage] at hcases
      obtain ⟨⟨⟩, hchecked, h⟩ := bind_eq_ok.mp hcases
      cases h
      exact ⟨hsame, fun before after hbefore hafter =>
        absurd ⟨before, after, hpair hbefore hafter⟩ hboth, fun _ _ => newer_of_ok hchecked⟩
    · rw [if_neg himage] at hcases
      cases hcases
      exact ⟨hsame, fun before after hbefore hafter =>
        absurd ⟨before, after, hpair hbefore hafter⟩ hboth, fun hdriver hne => absurd ⟨hdriver, hne⟩ himage⟩

/-- A build that is accepted by its comparison is forward. -/
theorem compared_eq_ok {manifest : Option Manifest}
    (hmanifest : optional (S.readArtifactManifest desired.artifactId) = .ok manifest)
    (hfull : isFullSha current.commit = true ∧ isFullSha desired.commit = true)
    (h : compared S P profile current desired manifest = .ok returned) :
    SameSource S profile desired returned ∧ Forward S P profile current returned := by
  rw [compared, rescued_eq_ok] at h
  obtain ⟨comparison, hcomparison, h⟩ := bind_eq_ok.mp h
  by_cases hbase : ((comparison.field "base_commit").field "sha").isText current.commit = true
  swap
  · rw [if_pos hbase] at h
    cases h
  rw [if_neg (not_not.mpr hbase)] at h
  by_cases hbehind : (comparison.field "status").isText "behind" = true
  · rw [if_pos hbehind] at h
    cases h
  rw [if_neg hbehind] at h
  have hordered : Compared P current.commit desired.commit :=
    ⟨comparison, hcomparison, hbase, Bool.not_eq_true _ ▸ hbehind⟩
  by_cases hdiverged : (comparison.field "status").isText "diverged" = true
  · rw [if_pos hdiverged] at h
    obtain ⟨proved, hproved, h⟩ := bind_eq_ok.mp h
    obtain ⟨⟨⟩, hchecked, h⟩ := bind_eq_ok.mp h
    cases h
    have hsame := sameSource_provedImage hproved
    exact ⟨hsame, forward_of_newer (hsame.commit ▸ hfull) (.inr (hsame.commit ▸ hordered))
      (newer_of_ok hchecked)⟩
  rw [if_neg hdiverged] at h
  by_cases hunclear : ¬ (comparison.field "status").isText "ahead" = true ∨
      ¬ ((comparison.field "merge_base_commit").field "sha").isText current.commit = true
  · rw [if_pos hunclear] at h
    cases h
  rw [if_neg hunclear] at h
  obtain ⟨hsame, hknown, hnewer⟩ := descendant_eq_ok hmanifest h
  exact ⟨hsame, hsame.commit ▸ hfull, .inr (hsame.commit ▸ hordered), hknown, hnewer⟩

/-- What is shown of a build that is the lane's own: where both source builds are given and differ,
the artifact is newer. -/
structure Stays (profile : Profile) (current returned : LaneBuild) : Prop where
  same : SameBuild current returned
  newer : ∀ before after, current.sourceBuild = some before → returned.sourceBuild = some after →
    before ≠ after → NewerRun profile before after

/-- What is returned stands for the requested build, and stays or goes forward. -/
theorem forward_of_ok (h : requireForwardBuild S P profile current desired = .ok returned)
    (hcurrent : current.artifactId ≠ "" ∨ current.commit ≠ "") :
    SameSource S profile desired returned ∧ ∃ commit, Resolves current.commit commit ∧
      (Stays profile (current.at commit) returned ∨
        Forward S P profile (current.at commit) returned) := by
  obtain ⟨manifest, hmanifest, h⟩ := bind_eq_ok.mp h
  split at h
  · cases h
  obtain ⟨requested, hrequested, h⟩ := bind_eq_ok.mp h
  have hreference := sameSource_provedReference hrequested
  obtain ⟨known, hknown, h⟩ := bind_eq_ok.mp h
  obtain ⟨commit, rfl, hresolves⟩ := manifestCommit_eq_ok hknown
  have hsome : ¬ ((current.at commit).artifactId = "" ∧ (current.at commit).commit = "") := by
    rintro ⟨hartifact, hcommit⟩
    have hempty : commit = "" := hcommit
    subst hempty
    rcases hcurrent with hne | hne
    · exact hne hartifact
    · have hnil := List.prefix_nil.mp (hresolves.abbreviates : (pyLower current.commit).toList <+: [])
      refine hne ?_
      simpa [pyLower] using hnil
  rw [if_neg hsome] at h
  by_cases hsame : SameBuild (current.at commit) requested
  · -- The lane stays; two runs of the one build are still compared where both are known.
    rw [if_pos hsame] at h
    by_cases hdiffer : (current.at commit).sourceBuild.isSome = true ∧
        requested.sourceBuild.isSome = true ∧
          (current.at commit).sourceBuild ≠ requested.sourceBuild
    · rw [if_pos hdiffer] at h
      obtain ⟨⟨⟩, hchecked, h⟩ := bind_eq_ok.mp h
      cases h
      exact ⟨hreference, commit, hresolves, .inl ⟨hsame, fun before after hbefore hafter _ =>
        (newer_of_ok hchecked).run (currentSource_of_source (source_of_sourceBuild hbefore))
          (source_of_sourceBuild hafter)⟩⟩
    · rw [if_neg hdiffer] at h
      cases h
      refine ⟨hreference, commit, hresolves, .inl ⟨hsame, fun before after hbefore hafter hne =>
        absurd ⟨?_, ?_, ?_⟩ hdiffer⟩⟩
      · rw [hbefore]; rfl
      · rw [hafter]; rfl
      · rw [hbefore, hafter]
        exact fun heq => hne (Option.some.inj heq)
  rw [if_neg hsame] at h
  obtain ⟨known, hknown, h⟩ := bind_eq_ok.mp h
  obtain ⟨full, rfl, hresolves'⟩ := resolvedCommit_eq_ok hknown
  have hall : Resolves current.commit full :=
    ⟨hresolves.abbreviates.trans hresolves'.abbreviates, fun hfull => by
      obtain rfl := hresolves.same hfull
      exact hresolves'.same hfull⟩
  by_cases hfull : isFullSha ((current.at commit).at full).commit = true ∧
      isFullSha requested.commit = true
  swap
  · rw [if_pos hfull] at h
    cases h
  rw [if_neg (not_not.mpr hfull)] at h
  -- One commit that was built twice is ordered by its runs, two commits by the provider.
  by_cases hcommit : SameCommit ((current.at commit).at full).commit requested.commit
  · rw [if_pos hcommit] at h
    obtain ⟨proved, hproved, h⟩ := bind_eq_ok.mp h
    obtain ⟨⟨⟩, hchecked, h⟩ := bind_eq_ok.mp h
    cases h
    have hproof := sameSource_provedImage hproved
    exact ⟨hreference.trans hproof, full, hall, .inr (forward_of_newer (hproof.commit ▸ hfull)
      (.inl (hproof.commit ▸ hcommit)) (newer_of_ok hchecked))⟩
  · rw [if_neg hcommit] at h
    rw [← hreference.artifactId] at hmanifest
    obtain ⟨hproof, hforward⟩ := compared_eq_ok hmanifest hfull h
    exact ⟨hreference.trans hproof, full, hall, .inr hforward⟩

/-! ### When the current build was first observed -/

/-- A text is a time that is not after another. -/
def NotAfter (P : Provider) (a b : String) : Prop :=
  ∃ stampA stampB, P.parseTimestamp a = .ok stampA ∧ P.parseTimestamp b = .ok stampB ∧
    stampA.instant ≤ stampB.instant

theorem NotAfter.trans {a b c : String} (h : NotAfter P a b) (h' : NotAfter P b c) :
    NotAfter P a c := by
  obtain ⟨stampA, stampB, ha, hb, hle⟩ := h
  obtain ⟨stampB', stampC, hb', hc, hle'⟩ := h'
  obtain rfl := Except.ok.inj (hb.symm.trans hb')
  exact ⟨stampA, stampC, ha, hc, hle.trans hle'⟩

theorem earlier_eq_ok {a b c : String} (h : earlier P a b = .ok c) :
    (c = a ∨ c = b) ∧ NotAfter P c a ∧ NotAfter P c b := by
  obtain ⟨stampA, ha, h⟩ := bind_eq_ok.mp h
  obtain ⟨stampB, hb, h⟩ := bind_eq_ok.mp h
  split at h
  · cases h
  split at h
  · rename_i hlt
    cases h
    exact ⟨.inr rfl, ⟨stampB, stampA, hb, ha, hlt.le⟩, stampB, stampB, hb, hb, le_rfl⟩
  · rename_i hle
    cases h
    exact ⟨.inl rfl, ⟨stampA, stampA, ha, ha, le_rfl⟩, stampA, stampB, ha, hb, not_lt.mp hle⟩

/-- The earliest of the times is one of them. -/
theorem foldlM_earlier {records : List DeploymentRecord} {start first : String}
    (h : records.foldlM (fun observedAt record => earlier P observedAt record.startedAt) start =
      .ok first) :
    (first = start ∨ ∃ record ∈ records, first = record.startedAt) ∧
      (first = start ∨ NotAfter P first start) ∧
      ∀ record ∈ records, NotAfter P first record.startedAt := by
  induction records generalizing start with
  | nil =>
    cases h
    exact ⟨.inl rfl, .inl rfl, fun _ hmem => absurd hmem List.not_mem_nil⟩
  | cons record records ih =>
    rw [List.foldlM_cons] at h
    obtain ⟨next, hnext, h⟩ := bind_eq_ok.mp h
    obtain ⟨hsome, hstart, hall⟩ := ih h
    obtain ⟨heither, hbefore, hrecord⟩ := earlier_eq_ok hnext
    have hfirst {text : String} (htext : NotAfter P next text) : NotAfter P first text := by
      rcases hstart with rfl | hnotAfter
      · exact htext
      · exact hnotAfter.trans htext
    refine ⟨?_, .inr (hfirst hbefore), ?_⟩
    · rcases hsome with rfl | ⟨other, hother, rfl⟩
      · rcases heither with rfl | rfl
        · exact .inl rfl
        · exact .inr ⟨record, List.mem_cons_self, rfl⟩
      · exact .inr ⟨other, List.mem_cons_of_mem _ hother, rfl⟩
    · intro other hother
      rcases List.mem_cons.mp hother with rfl | hrest
      · exact hfirst hrecord
      · exact hall other hrest

/-- A time at which a lane was seen to run its build: when its inventory was written, or when a
deployment of exactly this artifact and source that passed was started. -/
def ObservedAt (S : Store) (context instanceName : String) (build : LaneBuild) (text : String) :
    Prop :=
  ∃ inventory, S.readEnvironmentInventory context instanceName = .ok inventory ∧
    (text = inventory.updatedAt ∨ ∃ list records record,
      S.listDeploymentRecords = some list ∧ list context (some instanceName) = .ok records ∧
      record ∈ records ∧ observes build.artifactId build.commit record = true ∧
      text = record.startedAt)

/-- A lane's build carries the first of the times at which it was observed. -/
theorem currentLaneBuild_eq_ok {context instanceName : String}
    (h : currentLaneBuild S P context instanceName = .ok current) :
    S.readEnvironmentInventory context instanceName = .error .notFound ∧ current = {} ∨
      ObservedAt S context instanceName current current.observedAt ∧
        ∀ text, ObservedAt S context instanceName current text → text = current.observedAt ∨
          NotAfter P current.observedAt text := by
  unfold currentLaneBuild at h
  cases hread : S.readEnvironmentInventory context instanceName with
  | error error =>
    rw [hread] at h
    cases error <;> cases h
    exact .inl ⟨rfl, rfl⟩
  | ok inventory =>
    rw [hread] at h
    obtain ⟨records, hrecords, h⟩ := bind_eq_ok.mp h
    obtain ⟨first, hfirst, h⟩ := bind_eq_ok.mp h
    cases h
    obtain ⟨hsome, hstart, hall⟩ := foldlM_earlier hfirst
    have hlisted {record : DeploymentRecord} (hrecord : record ∈ records) :
        ∃ list, S.listDeploymentRecords = some list ∧
          list context (some instanceName) = .ok records := by
      unfold laneDeployments at hrecords
      cases hlist : S.listDeploymentRecords with
      | none =>
        rw [hlist] at hrecords
        cases hrecords
        cases hrecord
      | some list =>
        rw [hlist] at hrecords
        exact ⟨list, rfl, hrecords⟩
    refine .inr ⟨⟨inventory, hread, ?_⟩, ?_⟩
    · rcases hsome with rfl | ⟨record, hrecord, rfl⟩
      · exact .inl rfl
      · rw [List.mem_filter] at hrecord
        obtain ⟨list, hlist, hlisted⟩ := hlisted hrecord.1
        exact .inr ⟨list, records, record, hlist, hlisted, hrecord.1, hrecord.2, rfl⟩
    · rintro text ⟨inventory', hread', hcases⟩
      obtain rfl := Except.ok.inj (hread.symm.trans hread')
      rcases hcases with rfl | ⟨list, records', record, hlist, hlisted, hmem, hobserves, rfl⟩
      · exact hstart.imp Eq.symm id
      · rw [laneDeployments, hlist] at hrecords
        obtain rfl := Except.ok.inj (hrecords.symm.trans hlisted)
        exact .inr (hall record (List.mem_filter.mpr ⟨hmem, hobserves⟩))

/-! ### Sequences of moves -/

/-- A build a lane ran, and the run that built it. -/
structure Visit where
  build : LaneBuild
  source : ArtifactSourceBuild

/-- An accepted move of a lane of a product that is not Odoo, between builds that are on record: the
lane runs the build that was accepted. -/
def Move (visit visit' : Visit) : Prop :=
  isFullSha visit.build.commit = true ∧ ∃ S P profile desired returned,
    profile.driverId ≠ "odoo" ∧
    requireForwardBuild S P profile visit.build desired = .ok returned ∧
    visit'.build.commit = returned.commit ∧ visit'.build.artifactId = returned.artifactId ∧
    visit'.build.image = returned.image ∧ returned.image ≠ "" ∧
    currentSource S P profile visit.build = .ok (some visit.source) ∧
    source S returned = .ok (some visit'.source)

/-- The runs on record are the ones that built the artifacts: an artifact or image has one run, and
a run has built one image. -/
structure Truthful (visits : List Visit) : Prop where
  of_build : ∀ visit ∈ visits, ∀ visit' ∈ visits,
    (visit.build.artifactId ≠ "" ∧ visit.build.artifactId = visit'.build.artifactId ∨
      visit.build.image = visit'.build.image) → visit.source = visit'.source
  of_run : ∀ visit ∈ visits, ∀ visit' ∈ visits, visit.source = visit'.source →
    visit.build.image = visit'.build.image

/-- The same run, or a later one. -/
def Visit.Onward (visit visit' : Visit) : Prop :=
  visit.source = visit'.source ∨ visit.source.Before visit'.source

theorem not_before_self (before : ArtifactSourceBuild) : ¬ before.Before before := by
  rintro (h | ⟨-, h⟩) <;> exact lt_irrefl _ h

theorem before_trans {a b c : ArtifactSourceBuild} (h : a.Before b) (h' : b.Before c) :
    a.Before c := by
  unfold ArtifactSourceBuild.Before at *
  omega

theorem onward_trans {a b c : Visit} (h : a.Onward b) (h' : b.Onward c) : a.Onward c := by
  rcases h with heq | hlt <;> rcases h' with heq' | hlt'
  · exact .inl (heq.trans heq')
  · exact .inr (heq ▸ hlt')
  · exact .inr (heq' ▸ hlt)
  · exact .inr (before_trans hlt hlt')

/-- A move goes to a later run, or stays. -/
theorem Move.onward {visits : List Visit} (htruthful : Truthful visits) {visit visit' : Visit}
    (hmem : visit ∈ visits) (hmem' : visit' ∈ visits) (h : Move visit visit') :
    visit.Onward visit' := by
  obtain ⟨hfull, S, P, profile, desired, returned, hdriver, haccepted, hcommit, hartifact, himage,
    hne, hbefore, hafter⟩ := h
  have hcurrent : visit.build.artifactId ≠ "" ∨ visit.build.commit ≠ "" := by
    refine .inr fun hempty => ?_
    rw [hempty] at hfull
    cases hfull
  obtain ⟨-, commit, hresolves, hcases⟩ := forward_of_ok haccepted hcurrent
  obtain rfl := hresolves.same hfull
  rcases hcases with hstays | hforward
  · refine .inl (htruthful.of_build visit hmem visit' hmem' ?_)
    rcases hstays.same.2 with ⟨hsome, heq⟩ | ⟨-, heq⟩
    · exact .inl ⟨hsome, heq.trans hartifact.symm⟩
    · exact .inr (heq.trans himage.symm)
  · exact .inr ((hforward.newer hdriver hne).run hbefore hafter).later

/-- A lane does not come back to an image. -/
theorem image_eq_of_moves {visits : List Visit} (htruthful : Truthful visits)
    (hmoves : visits.IsChain Move) {before between after : List Visit} {visit visit' : Visit}
    (hvisits : visits = before ++ visit :: between ++ visit' :: after)
    (hback : visit'.build.image = visit.build.image) :
    ∀ other ∈ between, other.build.image = visit.build.image := by
  have : Trans Visit.Onward Visit.Onward Visit.Onward := ⟨onward_trans⟩
  have honward : visits.Pairwise Visit.Onward :=
    (hmoves.imp_of_mem_imp fun _ _ hmem hmem' h => h.onward htruthful hmem hmem').pairwise
  have hin : visit ∈ visits ∧ visit' ∈ visits := by
    subst hvisits
    simp
  have hsame : visit.source = visit'.source :=
    htruthful.of_build visit hin.1 visit' hin.2 (.inr hback.symm)
  intro other hother
  have hmem : other ∈ visits := by
    subst hvisits
    simp [hother]
  refine (htruthful.of_run visit hin.1 other hmem ?_).symm
  rw [hvisits, List.append_assoc, List.cons_append, List.pairwise_append, List.pairwise_cons,
    List.pairwise_append] at honward
  have hfrom : visit.Onward other := honward.2.1.1 other (List.mem_append_left _ hother)
  have hto : other.Onward visit' :=
    honward.2.1.2.2.2 other hother visit' List.mem_cons_self
  rcases hfrom with heq | hlt
  · exact heq
  · exfalso
    rcases hto with heq | hlt'
    · exact not_before_self _ (hsame.symm ▸ heq ▸ hlt)
    · exact not_before_self _ (hsame ▸ before_trans hlt hlt')

/-- The runs of a web site's builds. -/
def siteSource (runId : Int) : ArtifactSourceBuild :=
  { repository := "shop/site", repositoryId := "7", workflowPath := "build.yml", purpose := .release
    runId, runAttempt := 1, githubArtifactId := runId, manifestArtifactId := ""
    named := by decide }

/-- A build of the web site. -/
def siteBuild (artifactId commit : String) (runId : Int) : LaneBuild :=
  { artifactId, commit, image := artifactId, sourceBuild := some (siteSource runId) }

/-- The first commit. -/
def firstCommit : String := "1111111111111111111111111111111111111111"

/-- Its descendant. -/
def secondCommit : String := "2222222222222222222222222222222222222222"

/-- The profile of the web site. -/
def siteProfile : Profile :=
  { repository := "shop/site", driverId := "generic-web", imageRepository := "registry/site" }

/-- A store without manifests, with a deployment of the first build that is older than the
inventory. -/
def siteStore : Store where
  readEnvironmentInventory _ _ := .ok
    { context := "site", artifactId := some "site-1", sourceGitRef := firstCommit
      updatedAt := "2026-03-02T08:00:00Z" }
  readArtifactManifest _ := .error .notFound
  listDeploymentRecords := some fun _ _ => .ok
    [{ artifactId := some "site-1", sourceGitRef := firstCommit, passed := true
       startedAt := "2026-03-01T08:00:00Z" }]

/-- The provider answers that the second commit is ahead; the hours of the two days are read. -/
def aheadProvider : Provider where
  getJson
    | .compare base _ => .ok (.object
        [("status", .string "ahead"), ("base_commit", .object [("sha", .string base)]),
          ("merge_base_commit", .object [("sha", .string base)])])
    | _ => .error (.os (.http 404 false))
  verifyGenericWebBuild _ _ := .error (.provenance .other)
  verifyBuildArtifact _ := .error (.provenance .other)
  parseTimestamp text :=
    if text = "2026-03-01T08:00:00Z" then .ok ⟨8, true⟩
    else if text = "2026-03-02T08:00:00Z" then .ok ⟨32, true⟩
    else .error .value

/-- A visit of the first build. -/
def firstVisit : Visit := ⟨siteBuild "site-1" firstCommit 1, siteSource 1⟩

/-- A visit of the second build. -/
def secondVisit : Visit := ⟨siteBuild "site-2" secondCommit 2, siteSource 2⟩

end Launchplane.LaneMovement
