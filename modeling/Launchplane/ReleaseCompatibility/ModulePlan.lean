import Launchplane.ReleaseCompatibility.Classify
import Mathlib.Logic.Relation

/-!
# Launchplane.ReleaseCompatibility.ModulePlan

**What the modules of a release are.** The loops of the pass end with the modules
that are required and the modules that are affected: the closures of what the
manifests name, along the dependencies one way and the other.
-/

namespace Launchplane.ReleaseCompatibility.Comparison

variable {c : Comparison}

/-! ### Closures -/

/-- `a` depends on `b` at once. -/
def DependsOn (graph : Dict String (Finset String)) (a b : String) : Prop :=
  ∃ depends, graph.get a = some depends ∧ b ∈ depends

/-- A module that one of the roots is, or depends on in the end. -/
def Required (graph : Dict String (Finset String)) (roots : List String) (name : String) : Prop :=
  ∃ root ∈ roots, Relation.ReflTransGen (DependsOn graph) root name

theorem mem_getD_iff {graph : Dict String (Finset String)} {a b : String} :
    b ∈ (graph.get a).getD ∅ ↔ DependsOn graph a b := by
  unfold DependsOn
  cases graph.get a with
  | none => simp
  | some depends => simp

/-- **The dependency closure is what the roots require.** -/
theorem mem_dependencyClosure {graph : Dict String (Finset String)} {roots : List String}
    {name : String} : name ∈ dependencyClosure graph roots.toFinset ↔ Required graph roots name := by
  constructor
  · intro hmem
    refine Growth.saturate_induction (P := Required graph roots) ?_ ?_ name hmem
    · exact fun root hroot => ⟨root, List.mem_toFinset.mp hroot, .refl⟩
    · intro names hnames dependency hdependency
      obtain ⟨between, hbetween, hstep⟩ := Finset.mem_biUnion.mp hdependency
      obtain ⟨root, hroot, hpath⟩ := hnames between hbetween
      exact ⟨root, hroot, hpath.tail (mem_getD_iff.mp hstep)⟩
  · intro hrequired
    obtain ⟨root, hroot, hpath⟩ := hrequired
    induction hpath with
    | refl => exact Growth.subset_saturate _ (List.mem_toFinset.mpr hroot)
    | tail _ hstep ih =>
        exact Growth.closed_saturate _ (Finset.mem_biUnion.mpr ⟨_, ih, mem_getD_iff.mpr hstep⟩)

/-- What has to be updated: a root that is not installed, and what depends on an update or an
install and is not installed itself. -/
inductive Affected (graph : Dict String (Finset String)) (installed root : String → Prop) :
    String → Prop
  | root {name : String} (hroot : root name) (hnew : ¬installed name) :
      Affected graph installed root name
  | ofUpdate {name dependency : String} (hdepends : DependsOn graph name dependency)
      (hupdate : Affected graph installed root dependency) (hnew : ¬installed name) :
      Affected graph installed root name
  | ofInstall {name dependency : String} (hdepends : DependsOn graph name dependency)
      (hinstall : installed dependency) (hnew : ¬installed name) :
      Affected graph installed root name

theorem mem_affectedGrowth_next {graph : Dict String (Finset String)}
    {installs updates : Finset String} {name : String} :
    name ∈ (affectedGrowth graph installs).next updates ↔
      (∃ dependency, DependsOn graph name dependency ∧
        (dependency ∈ updates ∨ dependency ∈ installs)) ∧ name ∉ installs := by
  simp only [affectedGrowth, Finset.mem_sdiff, Finset.mem_filter, List.mem_toFinset,
    ← Finset.nonempty_iff_ne_empty]
  constructor
  · intro h
    obtain ⟨⟨-, dependency, hdependency⟩, hnew⟩ := h
    obtain ⟨hdepends, hmem⟩ := Finset.mem_inter.mp hdependency
    exact ⟨⟨dependency, mem_getD_iff.mp hdepends, Finset.mem_union.mp hmem⟩, hnew⟩
  · intro h
    obtain ⟨⟨dependency, hdepends, hmem⟩, hnew⟩ := h
    obtain ⟨depends, hget, -⟩ := id hdepends
    refine ⟨⟨Dict.isSome_get.mp (by simp [hget]), dependency, ?_⟩, hnew⟩
    exact Finset.mem_inter.mpr ⟨mem_getD_iff.mpr hdepends, Finset.mem_union.mpr hmem⟩

/-- **The updates are what is affected.** -/
theorem mem_updates {roots : Finset String} {name : String} :
    name ∈ c.updates roots ↔ Affected c.new.graph (· ∈ c.installs) (· ∈ roots) name := by
  constructor
  · intro hmem
    refine Growth.saturate_induction
      (P := Affected c.new.graph (· ∈ c.installs) (· ∈ roots)) ?_ ?_ name hmem
    · intro root hroot
      obtain ⟨hroot, hnew⟩ := Finset.mem_sdiff.mp hroot
      exact .root hroot hnew
    · intro updates hupdates affected haffected
      obtain ⟨⟨dependency, hdepends, hdependency⟩, hnew⟩ := mem_affectedGrowth_next.mp haffected
      obtain hupdate | hinstall := hdependency
      · exact .ofUpdate hdepends (hupdates dependency hupdate) hnew
      · exact .ofInstall hdepends hinstall hnew
  · intro haffected
    induction haffected with
    | root hroot hnew => exact Growth.subset_saturate _ (Finset.mem_sdiff.mpr ⟨hroot, hnew⟩)
    | ofUpdate hdepends _ hnew ih =>
        exact Growth.closed_saturate _
          (mem_affectedGrowth_next.mpr ⟨⟨_, hdepends, .inl ih⟩, hnew⟩)
    | ofInstall hdepends hinstall hnew =>
        exact Growth.closed_saturate _
          (mem_affectedGrowth_next.mpr ⟨⟨_, hdepends, .inr hinstall⟩, hnew⟩)

theorem mem_installs {name : String} : name ∈ c.installs ↔
    Required c.new.graph c.candidate.odooInstallModules name ∧
      ¬Required c.old.graph c.production.odooInstallModules name := by
  rw [installs, Finset.mem_sdiff, mem_dependencyClosure, mem_dependencyClosure]

/-! ### Roots -/

/-- What a change of a file asks to update. -/
def FileRoot (c : Comparison) (left right : Option ReleaseInputFile) (file : ReleaseInputFile)
    (name : String) : Prop :=
  match file.kind with
  | .manifestAssets => sameManifestDatabase left right = false ∧ name = file.module
  | .dependency =>
      (file.module = "" ∧ ∃ modules, c.examinedPlan = some modules ∧ name ∈ modules) ∨
        (file.module ≠ "" ∧ name = file.module)
  | .databaseData | .model | .migration => name = file.module
  | .static | .code | .docsCi | .unknown => False

/-- What has to be updated of itself: by the examined plan where the build inputs changed, for
dependencies of its own that changed, or for a file. -/
inductive UpdateRoot (c : Comparison) (name : String) : Prop
  | inputs (modules : List String) (hplan : c.examinedPlan = some modules)
      (hchanged : opaqueInputs c.production ≠ opaqueInputs c.candidate) (hname : name ∈ modules)
  | dependencies (hname : name ∈ c.new.graph.keys)
      (hchanged : c.old.graph.get name ≠ c.new.graph.get name)
  | file (key : String × String) (file : ReleaseInputFile)
      (hchanged : c.old.files.get key ≠ c.new.files.get key)
      (hfile : (c.new.files.get key).or (c.old.files.get key) = some file)
      (hroot : c.FileRoot (c.old.files.get key) (c.new.files.get key) file name)

section Roots

variable {f : Findings} {name : String} {left right : Option ReleaseInputFile}
  {file : ReleaseInputFile} {key : String × String}

@[simp] theorem updateRoots_reason (text : String) : (f.reason text).updateRoots = f.updateRoots := rfl

@[simp] theorem updateRoots_incomplete (text : String) :
    (f.incomplete text).updateRoots = f.updateRoots := rfl

@[simp] theorem mem_updateRoots_updating {modules : List String} :
    name ∈ (f.updating modules).updateRoots ↔ name ∈ f.updateRoots ∨ name ∈ modules := by
  simp [Findings.updating]

@[simp] theorem mem_updateRoots_root {module : String} :
    name ∈ (f.root module).updateRoots ↔ name = module ∨ name ∈ f.updateRoots := by
  simp [Findings.root]

/-- A reason alone asks for no update. -/
theorem updateRoots_reason_if {p : Prop} [Decidable p] (text : String) :
    (if p then f.reason text else f).updateRoots = f.updateRoots := by
  split_ifs
  · rfl
  · rfl

theorem updateRoots_incomplete_if {p : Prop} [Decidable p] (text : String) :
    (if p then f.incomplete text else f).updateRoots = f.updateRoots := by
  split_ifs
  · rfl
  · rfl

theorem updateRoots_inspectSource (source : ReleaseSourceInventory) :
    (c.inspectSource f source).updateRoots = f.updateRoots := by
  unfold inspectSource
  cases c.old.sourcesByName.get source.inputName with
  | none => rfl
  | some previous => exact updateRoots_incomplete_if _

theorem updateRoots_inspectIdentity : (c.inspectIdentity f).updateRoots = f.updateRoots := by
  unfold inspectIdentity
  split
  · exact updateRoots_incomplete_if _
  · rfl

theorem updateRoots_inspectDeclared : (c.inspectDeclared f).updateRoots = f.updateRoots :=
  updateRoots_reason_if _

theorem mem_updateRoots_inspectOpaqueInputs : name ∈ (c.inspectOpaqueInputs f).updateRoots ↔
    name ∈ f.updateRoots ∨ ∃ modules, c.examinedPlan = some modules ∧
      opaqueInputs c.production ≠ opaqueInputs c.candidate ∧ name ∈ modules := by
  unfold inspectOpaqueInputs
  split_ifs with hchanged
  · cases hplan : c.examinedPlan with
    | none => simp
    | some modules => simp [hchanged]
  · simp [not_not.mp hchanged]

theorem mem_updateRoots_inspectGraph : name ∈ (c.inspectGraph f).updateRoots ↔
    name ∈ f.updateRoots ∨
      (name ∈ c.new.graph.keys ∧ c.old.graph.get name ≠ c.new.graph.get name) := by
  unfold inspectGraph
  by_cases hsame : c.old.graph.Same c.new.graph
  · simp [hsame, hsame name]
  · simp [hsame, changedDependencies]

theorem updateRoots_inspectExaminedInstalls :
    (c.inspectExaminedInstalls f).updateRoots = f.updateRoots := updateRoots_incomplete_if _

theorem updateRoots_inspectRemovedInstalls :
    (c.inspectRemovedInstalls f).updateRoots = f.updateRoots := updateRoots_incomplete_if _

theorem updateRoots_inspectNewInstalls :
    (c.inspectNewInstalls f).updateRoots = f.updateRoots := updateRoots_reason_if _

theorem updateRoots_sources (sources : List ReleaseSourceInventory) :
    (sources.foldl c.inspectSource f).updateRoots = f.updateRoots := by
  induction sources generalizing f with
  | nil => rfl
  | cons source sources ih =>
      rw [List.foldl_cons, ih]
      exact updateRoots_inspectSource source

theorem updateRoots_noteDeclarations :
    (noteDeclarations left right f).updateRoots = f.updateRoots := by
  unfold noteDeclarations
  split
  · exact updateRoots_incomplete_if _
  · rfl

theorem updateRoots_noteKindConflict : (noteKindConflict file f).updateRoots = f.updateRoots :=
  updateRoots_incomplete_if _

theorem updateRoots_noteRemoved :
    (c.noteRemoved left right file f).updateRoots = f.updateRoots := updateRoots_incomplete_if _

theorem mem_updateRoots_noteKind : name ∈ (c.noteKind left right file f).updateRoots ↔
    name ∈ f.updateRoots ∨ c.FileRoot left right file name := by
  unfold noteKind FileRoot
  cases file.kind with
  | static | code | docsCi | unknown => simp
  | databaseData | model | migration => simp [or_comm]
  | manifestAssets =>
      cases hsame : sameManifestDatabase left right with
      | true => simp
      | false => simp [or_comm]
  | dependency =>
      by_cases hmodule : file.module = ""
      · cases hplan : c.examinedPlan with
        | none => simp [hmodule]
        | some modules => simp [hmodule]
      · simp [hmodule, or_comm]

theorem mem_updateRoots_inspectFile : name ∈ (c.inspectFile f key).updateRoots ↔
    name ∈ f.updateRoots ∨ ∃ file, c.old.files.get key ≠ c.new.files.get key ∧
      (c.new.files.get key).or (c.old.files.get key) = some file ∧
      c.FileRoot (c.old.files.get key) (c.new.files.get key) file name := by
  unfold inspectFile
  by_cases hsame : c.old.files.get key = c.new.files.get key
  · simp [hsame]
  · rw [if_neg hsame]
    cases hfile : (c.new.files.get key).or (c.old.files.get key) with
    | none => simp
    | some file =>
        simp only [updateRoots_noteRemoved, mem_updateRoots_noteKind, updateRoots_noteKindConflict,
          updateRoots_noteDeclarations]
        simp [noteChange, hsame]

theorem mem_updateRoots_files (keys : List (String × String)) :
    name ∈ (keys.foldl c.inspectFile f).updateRoots ↔
      name ∈ f.updateRoots ∨ ∃ key ∈ keys, ∃ file, c.old.files.get key ≠ c.new.files.get key ∧
        (c.new.files.get key).or (c.old.files.get key) = some file ∧
        c.FileRoot (c.old.files.get key) (c.new.files.get key) file name := by
  induction keys generalizing f with
  | nil => simp
  | cons key keys ih =>
      rw [List.foldl_cons, ih, mem_updateRoots_inspectFile, or_assoc]
      simp

/-- The keys of the loop are the files that either side has. -/
theorem mem_fileKeys : key ∈ c.fileKeys ↔
    key ∈ c.old.files.keys ∨ key ∈ c.new.files.keys := by
  rw [fileKeys, List.mem_mergeSort, mem_fromKeys, List.mem_append]

theorem mem_fileKeys_of_ne (h : c.old.files.get key ≠ c.new.files.get key) : key ∈ c.fileKeys := by
  by_contra hout
  rw [mem_fileKeys, not_or] at hout
  exact h ((Dict.get_eq_none.mpr hout.1).trans (Dict.get_eq_none.mpr hout.2).symm)

/-- **The pass gathers the update roots.** -/
theorem mem_updateRoots_inspectFiles : name ∈ c.inspectFiles.updateRoots ↔ c.UpdateRoot name := by
  simp only [inspectFiles, inspectInputs, mem_updateRoots_files, updateRoots_inspectNewInstalls,
    updateRoots_inspectRemovedInstalls, updateRoots_inspectExaminedInstalls,
    mem_updateRoots_inspectGraph, mem_updateRoots_inspectOpaqueInputs, updateRoots_inspectDeclared,
    updateRoots_inspectIdentity, updateRoots_sources, Finset.notMem_empty, false_or]
  constructor
  · intro h
    obtain (⟨modules, hplan, hchanged, hname⟩ | ⟨hname, hchanged⟩) | ⟨key, -, file, hfile⟩ := h
    · exact .inputs modules hplan hchanged hname
    · exact .dependencies hname hchanged
    · exact .file key file hfile.1 hfile.2.1 hfile.2.2
  · intro h
    cases h with
    | inputs modules hplan hchanged hname => exact .inl (.inl ⟨modules, hplan, hchanged, hname⟩)
    | dependencies hname hchanged => exact .inl (.inr ⟨hname, hchanged⟩)
    | file key file hchanged hfile hroot =>
        exact .inr ⟨key, mem_fileKeys_of_ne hchanged, file, hchanged, hfile, hroot⟩

end Roots

end Launchplane.ReleaseCompatibility.Comparison
