import Launchplane.ReleaseCompatibility.Reasons

/-!
# Launchplane.ReleaseCompatibility.ReleaseClass

**The answer for a pair of manifests.** It is compatible just where the artifacts
are, whichever of them is the newer, and a module plan that is called complete
installs and updates what the dependencies ask for and nothing else.
-/

namespace Launchplane.ReleaseCompatibility

namespace Comparison

variable {c : Comparison} {f : Findings} {key : String × String}

/-! ### Complete plans -/

theorem complete_incomplete_if {p : Prop} [Decidable p] (text : String) :
    (if p then f.incomplete text else f).complete = true ↔ f.complete = true ∧ ¬p := by
  by_cases hp : p
  · simp [hp, Findings.incomplete]
  · simp [hp]

theorem complete_reason_if {p : Prop} [Decidable p] (text : String) :
    (if p then f.reason text else f).complete = f.complete := by
  split_ifs
  · rfl
  · rfl

theorem complete_noteDeclarations {left right : Option ReleaseInputFile}
    (h : (noteDeclarations left right f).complete = true) : f.complete = true := by
  unfold noteDeclarations at h
  split at h
  · exact ((complete_incomplete_if _).mp h).1
  · exact h

theorem complete_noteKind {left right : Option ReleaseInputFile} {file : ReleaseInputFile}
    (h : (c.noteKind left right file f).complete = true) : f.complete = true := by
  unfold noteKind at h
  cases hkind : file.kind with
  | static | code | docsCi => simpa [hkind] using h
  | databaseData | model | migration =>
      simpa [hkind, Findings.reason, Findings.root] using h
  | unknown => simp [hkind, Findings.incomplete] at h
  | manifestAssets =>
      cases hsame : sameManifestDatabase left right with
      | true => simpa [hkind, hsame] using h
      | false => simpa [hkind, hsame, Findings.reason, Findings.root] using h
  | dependency =>
      by_cases hmodule : file.module = ""
      · cases hplan : c.examinedPlan with
        | none => simp [hkind, hmodule, hplan, Findings.incomplete] at h
        | some modules =>
            simpa [hkind, hmodule, hplan, Findings.reason, Findings.updating] using h
      · simpa [hkind, hmodule, Findings.reason, Findings.root] using h

/-- A plan that is not complete stays so. -/
theorem complete_inspectFile (h : (c.inspectFile f key).complete = true) : f.complete = true := by
  unfold inspectFile at h
  by_cases hsame : c.old.files.get key = c.new.files.get key
  · rwa [if_pos hsame] at h
  · rw [if_neg hsame] at h
    cases hfile : (c.new.files.get key).or (c.old.files.get key) with
    | none => rwa [hfile] at h
    | some file =>
        rw [hfile] at h
        have hkind := ((complete_incomplete_if _).mp h).1
        have hconflict := ((complete_incomplete_if _).mp (complete_noteKind hkind)).1
        have hnoted := complete_noteDeclarations hconflict
        exact hnoted

theorem complete_files (keys : List (String × String))
    (h : (keys.foldl c.inspectFile f).complete = true) : f.complete = true := by
  induction keys generalizing f with
  | nil => exact h
  | cons key keys ih =>
      rw [List.foldl_cons] at h
      exact complete_inspectFile (ih h)

/-- What a complete plan has looked at. -/
structure PlanExamined (c : Comparison) : Prop where
  installs : ∀ name ∈ c.candidate.odooInstallModules, name ∈ c.new.graph.keys
  roots_named : ¬c.UpdateRoot ""
  roots : ∀ name, c.UpdateRoot name → name ∈ c.new.graph.keys

/-- The roots that the plan starts from. -/
theorem mem_updateRoots_inspect {name : String} :
    name ∈ c.inspect.updateRoots ↔ c.UpdateRoot name ∧ name ≠ "" := by
  have hroots : c.inspect.updateRoots = (inspectUnresolved c.inspectFiles).updateRoots :=
    (updateRoots_reason_if _).trans
      ((updateRoots_reason_if _).trans (updateRoots_incomplete_if _))
  rw [hroots, ← mem_updateRoots_inspectFiles, inspectUnresolved]
  split_ifs with hblank
  · simp [and_comm, Findings.incomplete]
  · exact ⟨fun hmem => ⟨hmem, fun heq => hblank (heq ▸ hmem)⟩, And.left⟩

theorem planExamined_of_complete (h : c.inspect.complete = true) : c.PlanExamined := by
  have hplanned : (c.inspectRoots (inspectUnresolved c.inspectFiles)).complete = true :=
    (complete_reason_if _).symm.trans ((complete_reason_if _).symm.trans h)
  obtain ⟨hresolved, hsubset⟩ := (complete_incomplete_if _).mp hplanned
  have hblank : "" ∉ c.inspectFiles.updateRoots := by
    intro hblank
    unfold inspectUnresolved at hresolved
    rw [if_pos hblank] at hresolved
    cases hresolved
  rw [inspectUnresolved_of_notMem hblank] at hresolved hsubset
  have hinputs : c.inspectInputs.complete = true := complete_files _ hresolved
  have hremoved := (complete_reason_if _).symm.trans hinputs
  have hexamined := ((complete_incomplete_if _).mp hremoved).1
  have hinstalls := ((complete_incomplete_if _).mp hexamined).2
  refine ⟨?_, fun hroot => hblank (mem_updateRoots_inspectFiles.mpr hroot), fun name hroot => ?_⟩
  · simpa using hinstalls
  · exact List.mem_toFinset.mp (not_not.mp hsubset (mem_updateRoots_inspectFiles.mpr hroot))

/-! ### The reason that stands alone -/

/-- Findings without the reason for the compatible class. -/
def Plain (f : Findings) : Prop := compatibleReason ∉ f.reasons

theorem Plain.reason {text : String} (h : Plain f) (htext : text ≠ compatibleReason) :
    Plain (f.reason text) := by
  unfold Plain at h ⊢
  simp [Findings.reason, h, htext.symm]

theorem Plain.incomplete {text : String} (h : Plain f) (htext : text ≠ compatibleReason) :
    Plain (f.incomplete text) := by
  unfold Plain at h ⊢
  simp [Findings.incomplete, h, htext.symm]

theorem Plain.reason_if {p : Prop} [Decidable p] {text : String} (h : Plain f)
    (htext : text ≠ compatibleReason) : Plain (if p then f.reason text else f) := by
  split_ifs
  · exact h.reason htext
  · exact h

theorem Plain.incomplete_if {p : Prop} [Decidable p] {text : String} (h : Plain f)
    (htext : text ≠ compatibleReason) : Plain (if p then f.incomplete text else f) := by
  split_ifs
  · exact h.incomplete htext
  · exact h

theorem Plain.updating (h : Plain f) (modules : List String) : Plain (f.updating modules) := h

theorem Plain.root (h : Plain f) (module : String) : Plain (f.root module) := h

theorem Plain.foldl {β : Type} {step : Findings → β → Findings}
    (hstep : ∀ f x, Plain f → Plain (step f x)) (xs : List β) (h : Plain f) :
    Plain (xs.foldl step f) := by
  induction xs generalizing f with
  | nil => exact h
  | cons x xs ih => exact ih (hstep f x h)

theorem Plain.inspectInputs (c : Comparison) : Plain c.inspectInputs := by
  have hempty : Plain {} := Finset.notMem_empty _
  have hsources : Plain (c.new.sources.foldl c.inspectSource {}) := by
    refine Plain.foldl (fun f source hf => ?_) _ hempty
    unfold inspectSource
    cases c.old.sourcesByName.get source.inputName with
    | none => exact hf
    | some previous => exact hf.incomplete_if (by decide)
  have hidentity : Plain (c.inspectIdentity (c.new.sources.foldl c.inspectSource {})) := by
    unfold inspectIdentity
    split
    · exact hsources.incomplete_if (by decide)
    · exact hsources.incomplete (by decide)
  have hdeclared : Plain (c.inspectDeclared (c.inspectIdentity
      (c.new.sources.foldl c.inspectSource {}))) := hidentity.reason_if (by decide)
  have hinputs : Plain (c.inspectOpaqueInputs (c.inspectDeclared (c.inspectIdentity
      (c.new.sources.foldl c.inspectSource {})))) := by
    unfold inspectOpaqueInputs
    split_ifs
    · cases c.examinedPlan with
      | none => exact (hdeclared.reason (by decide)).incomplete (by decide)
      | some modules => exact (hdeclared.reason (by decide)).updating modules
    · exact hdeclared
  have hgraph : Plain (c.inspectGraph (c.inspectOpaqueInputs (c.inspectDeclared (c.inspectIdentity
      (c.new.sources.foldl c.inspectSource {}))))) := by
    unfold inspectGraph
    split_ifs
    · exact hinputs
    · exact (hinputs.reason (by decide)).updating _
  exact (((hgraph.incomplete_if (by decide)).incomplete_if (by decide)).reason_if (by decide))

theorem Plain.noteKind {left right : Option ReleaseInputFile} {file : ReleaseInputFile}
    (h : Plain f) : Plain (c.noteKind left right file f) := by
  unfold Comparison.noteKind
  cases file.kind with
  | static | code | docsCi => exact h
  | databaseData | model | migration => exact (h.reason (by decide)).root _
  | unknown => exact h.incomplete (by decide)
  | manifestAssets =>
      dsimp only
      split_ifs
      · exact (h.reason (by decide)).root _
      · exact h
  | dependency =>
      dsimp only
      split_ifs
      · cases c.examinedPlan with
        | none => exact (h.reason (by decide)).incomplete (by decide)
        | some modules => exact (h.reason (by decide)).updating modules
      · exact (h.reason (by decide)).root _

theorem Plain.inspectFile (h : Plain f) : Plain (c.inspectFile f key) := by
  unfold Comparison.inspectFile
  dsimp only
  split_ifs
  · exact h
  · cases (c.new.files.get key).or (c.old.files.get key) with
    | none => exact h
    | some file =>
        have hdeclarations : Plain (noteDeclarations (c.old.files.get key) (c.new.files.get key)
            (noteChange key (c.old.files.get key) (c.new.files.get key) file f)) := by
          unfold noteDeclarations
          split
          · exact Plain.incomplete_if h (by decide)
          · exact h
        have hconflict : Plain (noteKindConflict file (noteDeclarations (c.old.files.get key)
            (c.new.files.get key)
            (noteChange key (c.old.files.get key) (c.new.files.get key) file f))) :=
          hdeclarations.incomplete_if (by decide)
        have hkind : Plain (c.noteKind (c.old.files.get key) (c.new.files.get key) file _) :=
          hconflict.noteKind
        exact hkind.incomplete_if (by decide)

/-- **No step of the pass gives the reason for the compatible class.** -/
theorem Plain.inspect (c : Comparison) : Plain c.inspect := by
  have hfiles : Plain c.inspectFiles :=
    Plain.foldl (fun _ _ hf => hf.inspectFile) _ (Plain.inspectInputs c)
  have hresolved : Plain (inspectUnresolved c.inspectFiles) := by
    unfold inspectUnresolved
    split_ifs
    · have hblank : Plain (c.inspectFiles.incomplete "unresolved_module_for_database_change") :=
        hfiles.incomplete (by decide)
      exact hblank
    · exact hfiles
  exact ((hresolved.incomplete_if (by decide)).reason_if (by decide)).reason_if (by decide)

/-- What a complete plan is. -/
structure ModulePlan (c : Comparison) (installModules updateModules : List String) : Prop where
  installs : ∀ name, name ∈ installModules ↔
    Required c.new.graph c.candidate.odooInstallModules name ∧
      ¬Required c.old.graph c.production.odooInstallModules name
  updates : ∀ name, name ∈ updateModules ↔
    Affected c.new.graph (· ∈ installModules) c.UpdateRoot name
  known : ∀ name, name ∈ installModules ∨ name ∈ updateModules → name ∈ c.new.graph.keys
  apart : ∀ name ∈ updateModules, name ∉ installModules
  installs_nodup : installModules.Nodup
  updates_nodup : updateModules.Nodup

/-- What an examined module requires is examined too. -/
theorem mem_graph_of_required {roots : List String} {name : String}
    (hroots : ∀ root ∈ roots, root ∈ c.new.graph.keys) (h : Required c.new.graph roots name) :
    name ∈ c.new.graph.keys := by
  obtain ⟨root, hroot, hpath⟩ := h
  induction hpath with
  | refl => exact hroots root hroot
  | tail _ hstep _ =>
      obtain ⟨depends, hget, hmem⟩ := hstep
      obtain ⟨declared, hdeclared, heq⟩ := List.mem_map.mp (Dict.mem_of_get hget)
      cases heq
      rw [graph_keys]
      exact c.new.depends_declared declared hdeclared _ (List.mem_toFinset.mp hmem)

theorem not_installed_of_affected {graph : Dict String (Finset String)}
    {installed root : String → Prop} {name : String} (h : Affected graph installed root name) :
    ¬installed name := by
  cases h with
  | root _ hnew => exact hnew
  | ofUpdate _ _ hnew => exact hnew
  | ofInstall _ _ hnew => exact hnew

/-- Nothing is affected where nothing is installed or updated of itself. -/
theorem not_affected {graph : Dict String (Finset String)} {installed root : String → Prop}
    (hinstalled : ∀ name, ¬installed name) (hroot : ∀ name, ¬root name) (name : String) :
    ¬Affected graph installed root name := by
  intro h
  induction h with
  | root hname _ => exact hroot _ hname
  | ofUpdate _ _ _ ih => exact ih
  | ofInstall _ hinstall _ => exact hinstalled _ hinstall

theorem modulePlan_of_complete (h : c.inspect.complete = true) :
    c.ModulePlan c.installs.sort (c.updates c.inspect.updateRoots).sort := by
  have hexamined := planExamined_of_complete h
  have hroots : (· ∈ c.inspect.updateRoots) = c.UpdateRoot := by
    funext name
    rw [mem_updateRoots_inspect, eq_iff_iff]
    exact ⟨And.left, fun hroot => ⟨hroot, fun heq => hexamined.roots_named (heq ▸ hroot)⟩⟩
  have hupdates (name : String) : name ∈ (c.updates c.inspect.updateRoots).sort ↔
      Affected c.new.graph (· ∈ c.installs.sort) c.UpdateRoot name := by
    rw [Finset.mem_sort, mem_updates, hroots]
    simp only [Finset.mem_sort]
  refine ⟨fun name => by rw [Finset.mem_sort, mem_installs], hupdates, ?_,
    fun name hname => not_installed_of_affected ((hupdates name).mp hname),
    Finset.sort_nodup _ _, Finset.sort_nodup _ _⟩
  intro name hname
  obtain hinstall | hupdate := hname
  · exact mem_graph_of_required hexamined.installs
      (mem_installs.mp ((Finset.mem_sort _).mp hinstall)).1
  · cases (hupdates name).mp hupdate with
    | root hroot _ => exact hexamined.roots name hroot
    | ofUpdate hdepends _ _ =>
        obtain ⟨depends, hget, -⟩ := hdepends
        exact Dict.isSome_get.mp (by simp [hget])
    | ofInstall hdepends _ _ =>
        obtain ⟨depends, hget, -⟩ := hdepends
        exact Dict.isSome_get.mp (by simp [hget])

end Comparison

/-! ### The answer -/

section Answer

variable {D : Digests} {production : Option ArtifactIdentityManifest}
  {candidate manifest : ArtifactIdentityManifest} {old new : ArtifactReleaseCompatibility}
  {reason : String}

/-- `_files` gives the files of a declaration that is complete and examines the build's inputs. -/
theorem files_eq_ok {declaration : ArtifactReleaseCompatibility}
    {listed : Dict (String × String) ReleaseInputFile} :
    files manifest = .ok (declaration, listed) ↔
      Declared manifest declaration ∧ listed = declaration.files := by
  unfold files Declared
  cases hsources : sourceInputs manifest with
  | error reason => simp [bind, Except.bind]
  | ok expected =>
      cases hdeclaration : manifest.releaseCompatibility with
      | none => simp [bind, Except.bind]
      | some declared =>
          by_cases hcomplete : declared.complete = true
          · by_cases hsame : declared.inputs.Same expected
            · simp only [bind, Except.bind, hcomplete, hsame, Bool.not_true, Bool.false_eq_true,
                if_false, not_true_eq_false, Except.ok.injEq, Prod.mk.injEq, Option.some.injEq]
              constructor
              · intro h
                obtain ⟨rfl, rfl⟩ := h
                exact ⟨⟨rfl, hcomplete, expected, rfl, hsame⟩, rfl⟩
              · intro h
                obtain ⟨⟨rfl, -⟩, rfl⟩ := h
                exact ⟨rfl, rfl⟩
            · simp only [bind, Except.bind, hcomplete, hsame, Bool.not_true, Bool.false_eq_true,
                if_false, not_false_eq_true, if_true, reduceCtorEq, false_iff, Option.some.injEq]
              intro h
              obtain ⟨⟨rfl, -, other, hother, hsame'⟩, -⟩ := h
              exact hsame (Except.ok.inj hother ▸ hsame')
          · simp only [bind, Except.bind, hcomplete, Option.some.injEq]
            simp only [Bool.not_false, if_true, reduceCtorEq, false_iff]
            intro h
            obtain ⟨⟨rfl, hdeclared, -⟩, -⟩ := h
            exact hcomplete hdeclared

theorem addAddonSources_error {sources : Dict String SourceRef} {addons : List ArtifactAddonSource}
    (h : addAddonSources sources addons = .error reason) : reason ≠ compatibleReason := by
  induction addons generalizing sources with
  | nil => cases h
  | cons source rest ih =>
      rw [addAddonSources] at h
      split_ifs at h
      · cases h
        decide
      · exact ih h

/-- No error is the reason for the compatible class. -/
theorem sourceInputs_error (h : sourceInputs manifest = .error reason) :
    reason ≠ compatibleReason := by
  unfold sourceInputs at h
  cases hbuild : manifest.sourceBuild with
  | none =>
      rw [hbuild] at h
      cases h
      decide
  | some build =>
      simp only [hbuild] at h
      split_ifs at h
      · cases h
        decide
      · cases haddons : addAddonSources [("tenant", (build.repository, manifest.sourceCommit))]
            manifest.addonSources with
        | error addonReason =>
            rw [haddons] at h
            cases h
            exact addAddonSources_error haddons
        | ok addons =>
            simp only [haddons, bind, Except.bind] at h
            split_ifs at h
            cases h
            decide

theorem files_error (h : files manifest = .error reason) : reason ≠ compatibleReason := by
  unfold files at h
  cases hsources : sourceInputs manifest with
  | error sourceReason =>
      rw [hsources] at h
      cases h
      exact sourceInputs_error hsources
  | ok expected =>
      simp only [hsources, bind, Except.bind] at h
      cases hdeclaration : manifest.releaseCompatibility with
      | none =>
          rw [hdeclaration] at h
          cases h
          decide
      | some declaration =>
          simp only [hdeclaration] at h
          split_ifs at h
          · cases h
            decide
          · cases h
            decide

theorem compare_error (h : compare D production candidate = .error reason) :
    reason ≠ compatibleReason := by
  cases production with
  | none =>
      cases h
      decide
  | some production =>
      simp only [compare] at h
      cases hold : files production with
      | error oldReason =>
          rw [hold] at h
          cases h
          exact files_error hold
      | ok old =>
          rw [hold] at h
          cases hnew : files candidate with
          | error newReason =>
              simp only [hnew, bind, Except.bind] at h
              cases h
              exact files_error hnew
          | ok new =>
              simp only [hnew, bind, Except.bind] at h
              cases h

/-- Two manifests are compared when both have their declarations. -/
theorem compare_eq_ok {c : Comparison} : compare D production candidate = .ok c ↔
    ∃ manifest old new, production = some manifest ∧ Declared manifest old ∧
      Declared candidate new ∧
      c = { production := manifest, candidate, old, new
            examinedPlan := examinedPlan D manifest candidate old new } := by
  constructor
  · intro h
    cases production with
    | none => cases h
    | some manifest =>
        unfold compare at h
        obtain ⟨⟨old, listed⟩, hold, h⟩ := bind_eq_ok.mp h
        obtain ⟨⟨new, listed'⟩, hnew, h⟩ := bind_eq_ok.mp h
        cases h
        exact ⟨manifest, old, new, rfl, (files_eq_ok.mp hold).1, (files_eq_ok.mp hnew).1, rfl⟩
  · intro h
    obtain ⟨manifest, old, new, rfl, hold, hnew, rfl⟩ := h
    have hold' := files_eq_ok.mpr ⟨hold, rfl⟩
    have hnew' := files_eq_ok.mpr ⟨hnew, rfl⟩
    unfold compare
    exact bind_eq_ok.mpr ⟨_, hold', bind_eq_ok.mpr ⟨_, hnew', rfl⟩⟩

theorem compare_of_declared (hold : Declared manifest old) (hnew : Declared candidate new) :
    compare D (some manifest) candidate =
      .ok ⟨manifest, candidate, old, new, examinedPlan D manifest candidate old new⟩ :=
  compare_eq_ok.mpr ⟨manifest, old, new, rfl, hold, hnew, rfl⟩

theorem compatible_iff_reasons {c : Comparison} (hc : compare D production candidate = .ok c) :
    (classifyReleaseDatabaseCompatibility D production candidate).classification = .compatible ↔
      c.inspect.reasons = ∅ := by
  have hnever : compatibleReason ∉ c.inspect.reasons := Comparison.Plain.inspect c
  unfold classifyReleaseDatabaseCompatibility
  rw [hc]
  by_cases hnone : c.inspect.reasons = ∅
  · simp [answer, hnone]
  · have hne : c.inspect.reasons ≠ {compatibleReason} := by
      intro heq
      exact hnever (heq ▸ Finset.mem_singleton_self _)
    simp [answer, hnone, hne]

theorem classify_of_error (h : compare D production candidate = .error reason) :
    (classifyReleaseDatabaseCompatibility D production candidate).classification =
        .databaseChanging ∧
      (classifyReleaseDatabaseCompatibility D production candidate).modulePlanComplete = false := by
  unfold classifyReleaseDatabaseCompatibility
  rw [h]
  simp [answer, compare_error h]

/-- The answer is compatible just where the artifacts are. -/
theorem classification_iff :
    (classifyReleaseDatabaseCompatibility D production candidate).classification = .compatible ↔
      ∃ manifest old new, production = some manifest ∧ Compatible manifest candidate old new := by
  constructor
  · intro h
    cases hc : compare D production candidate with
    | error reason =>
        rw [(classify_of_error hc).1] at h
        cases h
    | ok c =>
        have hreasons := (compatible_iff_reasons hc).mp h
        obtain ⟨manifest, old, new, rfl, hold, hnew, rfl⟩ := compare_eq_ok.mp hc
        exact ⟨manifest, old, new, rfl, (Comparison.reasons_inspect hold hnew).mp hreasons⟩
  · intro h
    obtain ⟨manifest, old, new, rfl, hcompatible⟩ := h
    have hold := hcompatible.production_declared
    have hnew := hcompatible.candidate_declared
    exact (compatible_iff_reasons (compare_of_declared hold hnew)).mpr
      ((Comparison.reasons_inspect hold hnew).mpr hcompatible)

/-- Compatible artifacts install and update nothing. -/
theorem plan_of_compatible (h : Compatible manifest candidate old new) :
    (classifyReleaseDatabaseCompatibility D (some manifest) candidate).installModules = [] ∧
      (classifyReleaseDatabaseCompatibility D (some manifest) candidate).updateModules = [] := by
  let c : Comparison := ⟨manifest, candidate, old, new, examinedPlan D manifest candidate old new⟩
  have hinstalls : c.installs = ∅ := Comparison.installs_of_compatible h
  have hroots : c.inspectFiles.updateRoots = ∅ := Comparison.updateRoots_of_compatible h
  have hupdates : c.updates c.inspect.updateRoots = ∅ := by
    refine Finset.eq_empty_of_forall_notMem fun name hmem => ?_
    refine Comparison.not_affected ?_ ?_ name (Comparison.mem_updates.mp hmem)
    · simp [hinstalls]
    · intro root hroot
      have hupdate := (Comparison.mem_updateRoots_inspect.mp hroot).1
      rw [← Comparison.mem_updateRoots_inspectFiles, hroots] at hupdate
      exact Finset.notMem_empty _ hupdate
  unfold classifyReleaseDatabaseCompatibility
  rw [compare_of_declared h.production_declared h.candidate_declared]
  change c.installs.sort = [] ∧ (c.updates c.inspect.updateRoots).sort = []
  rw [hupdates, hinstalls]
  exact ⟨Finset.sort_empty _, Finset.sort_empty _⟩

/-- **The release class is sound, complete and symmetric**, and a complete module plan is the
dependency closure of what is new and of what has to be updated. -/
theorem classify_release_database_compatibility_spec (D : Digests)
    (production : Option ArtifactIdentityManifest) (candidate : ArtifactIdentityManifest) :
    ((classifyReleaseDatabaseCompatibility D production candidate).classification = .compatible ↔
      ∃ manifest old new, production = some manifest ∧ Compatible manifest candidate old new) ∧
    ((classifyReleaseDatabaseCompatibility D production candidate).classification = .compatible →
      (classifyReleaseDatabaseCompatibility D production candidate).installModules = [] ∧
      (classifyReleaseDatabaseCompatibility D production candidate).updateModules = [] ∧
      ∀ manifest, production = some manifest →
        (classifyReleaseDatabaseCompatibility D (some candidate) manifest).classification =
          .compatible) ∧
    ((classifyReleaseDatabaseCompatibility D production candidate).modulePlanComplete = true →
      ∃ manifest old new, production = some manifest ∧ Declared manifest old ∧
        Declared candidate new ∧
        Comparison.ModulePlan
          ⟨manifest, candidate, old, new, examinedPlan D manifest candidate old new⟩
          (classifyReleaseDatabaseCompatibility D production candidate).installModules
          (classifyReleaseDatabaseCompatibility D production candidate).updateModules) := by
  refine ⟨classification_iff, fun h => ?_, fun h => ?_⟩
  · obtain ⟨manifest, old, new, rfl, hcompatible⟩ := classification_iff.mp h
    obtain ⟨hinstalls, hupdates⟩ := plan_of_compatible (D := D) hcompatible
    refine ⟨hinstalls, hupdates, fun other hother => ?_⟩
    obtain rfl := Option.some.inj hother
    exact classification_iff.mpr ⟨candidate, new, old, rfl, hcompatible.symm⟩
  · cases hc : compare D production candidate with
    | error reason =>
        rw [(classify_of_error hc).2] at h
        cases h
    | ok c =>
        obtain ⟨manifest, old, new, hproduction, hold, hnew, rfl⟩ := compare_eq_ok.mp hc
        refine ⟨manifest, old, new, hproduction, hold, hnew, ?_⟩
        unfold classifyReleaseDatabaseCompatibility at h ⊢
        rw [hc] at h ⊢
        exact Comparison.modulePlan_of_complete h

end Answer

/-- The inventory of a site whose only file is a stylesheet. -/
def stylesheetSource (commit sha256 : String) : ReleaseSourceInventory where
  inputName := "tenant"
  repository := "acme/site"
  commit
  files := [{ path := "site/static/src/site.css", sha256, kind := .static, module := "site" }]
  paths_nodup := List.nodup_singleton _

/-- An artifact of the site. -/
def stylesheetManifest (commit sha256 : String) : ArtifactIdentityManifest where
  schemaVersion := 2
  artifactId := "artifact-" ++ commit
  sourceCommit := commit
  enterpriseBaseDigest := ""
  odooInstallModules := ["site"]
  releaseCompatibility := some
    { complete := true
      readWriteCompatible := true
      sources := [stylesheetSource commit sha256]
      modules := [⟨"site", []⟩]
      sources_nodup := List.nodup_singleton _
      modules_nodup := List.nodup_singleton _
      files_declared := by simp [stylesheetSource]
      depends_declared := by simp
      updates_declared := by simp }
  image := { repository := "registry/site", digest := commit }
  sourceBuild := some ⟨"acme/site", "42", .release⟩

-- A new stylesheet leaves the database as it is.
example : (classifyReleaseDatabaseCompatibility ⟨fun _ => "", fun _ _ _ _ => ""⟩
    (some (stylesheetManifest "a" "1")) (stylesheetManifest "b" "2")).classification = .compatible := by
  decide +kernel

end Launchplane.ReleaseCompatibility
