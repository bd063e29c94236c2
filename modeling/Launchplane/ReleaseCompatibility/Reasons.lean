import Launchplane.ReleaseCompatibility.ModulePlan

/-!
# Launchplane.ReleaseCompatibility.Reasons

**When there is no reason against a release.** Every step of the pass adds a
reason for a condition of its own. What is left when none of them holds is what
the compatible class means, and it reads the same from either side.
-/

namespace Launchplane.ReleaseCompatibility

/-! ### What the compatible class means -/

/-- A complete declaration whose sources are the inputs of the build. -/
def Declared (manifest : ArtifactIdentityManifest) (declaration : ArtifactReleaseCompatibility) :
    Prop :=
  manifest.releaseCompatibility = some declaration ∧ declaration.complete = true ∧
    ∃ expected, sourceInputs manifest = .ok expected ∧ declaration.inputs.Same expected

/-- A file that may differ under an unchanged database, or stand on one side alone. -/
structure FileCompatible (left right : Option ReleaseInputFile) : Prop where
  declarations : ∀ before after, left = some before → right = some after →
    before.kind = after.kind ∧ before.module = after.module
  path : ∀ file, left = some file ∨ right = some file → kindConflicts file = false
  kind : ∀ file, left = some file ∨ right = some file →
    file.kind ∈ [ReleaseInputKind.static, .code, .docsCi] ∨
      (file.kind = .manifestAssets ∧ ∃ before after, left = some before ∧ right = some after ∧
        before.manifestDatabaseSha256 = after.manifestDatabaseSha256)

/-- Two artifacts that can run on one database at the same time. -/
structure Compatible (production candidate : ArtifactIdentityManifest)
    (old new : ArtifactReleaseCompatibility) : Prop where
  production_declared : Declared production old
  candidate_declared : Declared candidate new
  inventories : ∀ name before after, old.sourcesByName.get name = some before →
    new.sourcesByName.get name = some after → before.repository = after.repository →
    before.commit = after.commit → before.filesByPath.Same after.filesByPath
  identity : ∃ before after, production.sourceBuild = some before ∧
    candidate.sourceBuild = some after ∧ before.repositoryId = after.repositoryId ∧
    before.repository = after.repository ∧
    production.image.repository = candidate.image.repository
  read_write : old.readWriteCompatible = true ∧ new.readWriteCompatible = true
  build_inputs : opaqueInputs production = opaqueInputs candidate
  graph : old.graph.Same new.graph
  installs : ∀ name, name ∈ production.odooInstallModules ↔ name ∈ candidate.odooInstallModules
  installs_examined : ∀ name ∈ candidate.odooInstallModules, name ∈ new.graph.keys
  files : ∀ key, old.files.get key ≠ new.files.get key →
    FileCompatible (old.files.get key) (new.files.get key)

theorem FileCompatible.symm {left right : Option ReleaseInputFile} (h : FileCompatible left right) :
    FileCompatible right left where
  declarations before after hbefore hafter :=
    (h.declarations after before hafter hbefore).imp Eq.symm Eq.symm
  path file hfile := h.path file hfile.symm
  kind file hfile := by
    refine (h.kind file hfile.symm).imp_right fun hmanifest => ⟨hmanifest.1, ?_⟩
    obtain ⟨before, after, hbefore, hafter, hhash⟩ := hmanifest.2
    exact ⟨after, before, hafter, hbefore, hhash.symm⟩

/-- **The class does not ask which artifact is the newer one.** -/
theorem Compatible.symm {production candidate : ArtifactIdentityManifest}
    {old new : ArtifactReleaseCompatibility} (h : Compatible production candidate old new) :
    Compatible candidate production new old where
  production_declared := h.candidate_declared
  candidate_declared := h.production_declared
  inventories name before after hbefore hafter hrepository hcommit path :=
    (h.inventories name after before hafter hbefore hrepository.symm hcommit.symm path).symm
  identity := by
    obtain ⟨before, after, hbefore, hafter, hid, hrepository, himage⟩ := h.identity
    exact ⟨after, before, hafter, hbefore, hid.symm, hrepository.symm, himage.symm⟩
  read_write := h.read_write.symm
  build_inputs := h.build_inputs.symm
  graph name := (h.graph name).symm
  installs name := (h.installs name).symm
  installs_examined name hname :=
    (Dict.mem_keys_iff_of_same h.graph).mpr (h.installs_examined name ((h.installs name).mp hname))
  files key hne := (h.files key hne.symm).symm

/-! ### Inventories as maps -/

section Inventory

variable {declaration : ArtifactReleaseCompatibility} {key : String × String}
  {file : ReleaseInputFile}

/-- A file of the inventory is listed under its own path. -/
theorem mem_of_files_get (h : declaration.files.get key = some file) :
    ∃ source ∈ declaration.sources, file ∈ source.files ∧ key = (source.inputName, file.path) := by
  have hmem := Dict.mem_of_get h
  simp only [ArtifactReleaseCompatibility.files, List.mem_flatMap, List.mem_map,
    Prod.mk.injEq] at hmem
  obtain ⟨source, hsource, listed, hlisted, hkey, rfl⟩ := hmem
  exact ⟨source, hsource, hlisted, hkey.symm⟩

theorem path_of_files_get (h : declaration.files.get key = some file) : file.path = key.2 := by
  obtain ⟨source, -, -, rfl⟩ := mem_of_files_get h
  rfl

theorem graph_keys : declaration.graph.keys = declaration.modules.map (·.name) := by
  simp [ArtifactReleaseCompatibility.graph, Dict.keys]

/-- The module of a listed file is one of the inventory's. -/
theorem module_mem_graph (h : declaration.files.get key = some file) (hmodule : file.module ≠ "") :
    file.module ∈ declaration.graph.keys := by
  obtain ⟨source, hsource, hfile, -⟩ := mem_of_files_get h
  rw [graph_keys]
  exact declaration.files_declared source hsource file hfile hmodule

/-- A source of the inventory is found by its name. -/
theorem sourcesByName_get {source : ReleaseSourceInventory} (h : source ∈ declaration.sources) :
    declaration.sourcesByName.get source.inputName = some source := by
  refine Dict.get_of_mem ?_ (List.mem_map.mpr ⟨source, h, rfl⟩)
  rw [Dict.keys, ArtifactReleaseCompatibility.sourcesByName, List.map_map]
  exact declaration.sources_nodup

theorem mem_of_sourcesByName_get {name : String} {source : ReleaseSourceInventory}
    (h : declaration.sourcesByName.get name = some source) :
    source ∈ declaration.sources ∧ source.inputName = name := by
  obtain ⟨listed, hlisted, heq⟩ := List.mem_map.mp (Dict.mem_of_get h)
  cases heq
  exact ⟨hlisted, rfl⟩

/-- Whether a kind goes with a path depends on nothing else. -/
theorem kindConflicts_congr {file' : ReleaseInputFile} (hkind : file.kind = file'.kind)
    (hpath : file.path = file'.path) : kindConflicts file = kindConflicts file' := by
  unfold kindConflicts
  rw [hkind, hpath]

end Inventory

namespace Comparison

/-! ### One step -/

section Steps

variable {c : Comparison} {f : Findings} {left right : Option ReleaseInputFile}
  {file : ReleaseInputFile} {key : String × String}

@[simp] theorem reasons_reason (text : String) : (f.reason text).reasons ≠ ∅ :=
  Finset.insert_ne_empty _ _

@[simp] theorem reasons_incomplete (text : String) : (f.incomplete text).reasons ≠ ∅ :=
  Finset.insert_ne_empty _ _

@[simp] theorem reasons_updating (modules : List String) :
    (f.updating modules).reasons = f.reasons := rfl

@[simp] theorem reasons_root (module : String) : (f.root module).reasons = f.reasons := rfl

theorem reasons_reason_if {p : Prop} [Decidable p] (text : String) :
    (if p then f.reason text else f).reasons = ∅ ↔ f.reasons = ∅ ∧ ¬p := by
  by_cases hp : p
  · simp [hp]
  · simp [hp]

theorem reasons_incomplete_if {p : Prop} [Decidable p] (text : String) :
    (if p then f.incomplete text else f).reasons = ∅ ↔ f.reasons = ∅ ∧ ¬p := by
  by_cases hp : p
  · simp [hp]
  · simp [hp]

theorem reasons_inspectSource (source : ReleaseSourceInventory) :
    (c.inspectSource f source).reasons = ∅ ↔ f.reasons = ∅ ∧
      ∀ previous, c.old.sourcesByName.get source.inputName = some previous →
        previous.repository = source.repository → previous.commit = source.commit →
        previous.filesByPath.Same source.filesByPath := by
  unfold inspectSource
  cases hget : c.old.sourcesByName.get source.inputName with
  | none => simp
  | some previous =>
      simp only [reasons_incomplete_if, not_and, not_not, Option.some.injEq, forall_eq']

theorem reasons_sources (sources : List ReleaseSourceInventory) :
    (sources.foldl c.inspectSource f).reasons = ∅ ↔ f.reasons = ∅ ∧
      ∀ source ∈ sources, ∀ previous, c.old.sourcesByName.get source.inputName = some previous →
        previous.repository = source.repository → previous.commit = source.commit →
        previous.filesByPath.Same source.filesByPath := by
  induction sources generalizing f with
  | nil => simp
  | cons source sources ih =>
      rw [List.foldl_cons, ih, reasons_inspectSource, List.forall_mem_cons, and_assoc]

theorem reasons_inspectIdentity : (c.inspectIdentity f).reasons = ∅ ↔ f.reasons = ∅ ∧
    ∃ before after, c.production.sourceBuild = some before ∧
      c.candidate.sourceBuild = some after ∧ before.repositoryId = after.repositoryId ∧
      before.repository = after.repository ∧
      c.production.image.repository = c.candidate.image.repository := by
  unfold inspectIdentity
  cases hbefore : c.production.sourceBuild with
  | none => simp
  | some before =>
      cases hafter : c.candidate.sourceBuild with
      | none => simp
      | some after => simp [reasons_incomplete_if]

theorem reasons_inspectDeclared : (c.inspectDeclared f).reasons = ∅ ↔ f.reasons = ∅ ∧
    c.old.readWriteCompatible = true ∧ c.new.readWriteCompatible = true := by
  simp [inspectDeclared, reasons_reason_if]

theorem reasons_inspectOpaqueInputs : (c.inspectOpaqueInputs f).reasons = ∅ ↔ f.reasons = ∅ ∧
    opaqueInputs c.production = opaqueInputs c.candidate := by
  unfold inspectOpaqueInputs
  by_cases hsame : opaqueInputs c.production = opaqueInputs c.candidate
  · simp [hsame]
  · cases hplan : c.examinedPlan with
    | none => simp [hsame]
    | some modules => simp [hsame]

theorem reasons_inspectGraph : (c.inspectGraph f).reasons = ∅ ↔ f.reasons = ∅ ∧
    c.old.graph.Same c.new.graph := by
  unfold inspectGraph
  by_cases hsame : c.old.graph.Same c.new.graph
  · simp [hsame]
  · simp [hsame]

theorem reasons_inspectExaminedInstalls : (c.inspectExaminedInstalls f).reasons = ∅ ↔
    f.reasons = ∅ ∧ ∀ name ∈ c.candidate.odooInstallModules, name ∈ c.new.graph.keys := by
  simp [inspectExaminedInstalls, reasons_incomplete_if]

theorem reasons_inspectRemovedInstalls : (c.inspectRemovedInstalls f).reasons = ∅ ↔
    f.reasons = ∅ ∧
      ∀ name ∈ c.production.odooInstallModules, name ∈ c.candidate.odooInstallModules := by
  simp [inspectRemovedInstalls, reasons_incomplete_if]

theorem reasons_inspectNewInstalls : (c.inspectNewInstalls f).reasons = ∅ ↔ f.reasons = ∅ ∧
    ∀ name ∈ c.candidate.odooInstallModules, name ∈ c.production.odooInstallModules := by
  simp [inspectNewInstalls, reasons_reason_if]

/-! ### One file -/

theorem reasons_noteDeclarations : (noteDeclarations left right f).reasons = ∅ ↔ f.reasons = ∅ ∧
    ∀ before after, left = some before → right = some after →
      before.kind = after.kind ∧ before.module = after.module := by
  unfold noteDeclarations
  cases left with
  | none => simp
  | some before =>
      cases right with
      | none => simp
      | some after => simp [reasons_incomplete_if]

theorem reasons_noteKindConflict : (noteKindConflict file f).reasons = ∅ ↔ f.reasons = ∅ ∧
    kindConflicts file = false := by
  simp [noteKindConflict, reasons_incomplete_if]

theorem reasons_noteKind : (c.noteKind left right file f).reasons = ∅ ↔ f.reasons = ∅ ∧
    (file.kind ∈ [ReleaseInputKind.static, .code, .docsCi] ∨
      (file.kind = .manifestAssets ∧ sameManifestDatabase left right = true)) := by
  unfold noteKind
  cases file.kind with
  | static | code | docsCi | unknown => simp
  | databaseData | model | migration => simp
  | manifestAssets =>
      cases hsame : sameManifestDatabase left right with
      | true => simp
      | false => simp
  | dependency =>
      by_cases hmodule : file.module = ""
      · cases hplan : c.examinedPlan with
        | none => simp [hmodule]
        | some modules => simp [hmodule]
      · simp [hmodule]

theorem reasons_noteRemoved : (c.noteRemoved left right file f).reasons = ∅ ↔ f.reasons = ∅ ∧
    (left.isSome → right = none → file.module ≠ "" → file.module ∈ c.new.graph.keys) := by
  simp [noteRemoved, reasons_incomplete_if]

theorem sameManifestDatabase_iff : sameManifestDatabase left right = true ↔
    ∃ before after, left = some before ∧ right = some after ∧
      before.manifestDatabaseSha256 = after.manifestDatabaseSha256 := by
  unfold sameManifestDatabase
  cases left with
  | none => simp
  | some before =>
      cases right with
      | none => simp
      | some after => simp

/-- The file that the loop looks at is one of the two. -/
theorem mem_of_or (h : right.or left = some file) : left = some file ∨ right = some file := by
  cases right with
  | none => exact .inl h
  | some after => exact .inr h

/-- Where the sides agree about kind and module, one of the files stands for both. -/
theorem fileCompatible_iff (hfile : right.or left = some file)
    (hpath : ∀ other, left = some other ∨ right = some other → other.path = file.path) :
    FileCompatible left right ↔
      (∀ before after, left = some before → right = some after →
        before.kind = after.kind ∧ before.module = after.module) ∧
      kindConflicts file = false ∧
      (file.kind ∈ [ReleaseInputKind.static, .code, .docsCi] ∨
        (file.kind = .manifestAssets ∧ sameManifestDatabase left right = true)) := by
  constructor
  · intro h
    refine ⟨h.declarations, h.path file (mem_of_or hfile), ?_⟩
    exact (h.kind file (mem_of_or hfile)).imp_right fun hmanifest =>
      ⟨hmanifest.1, sameManifestDatabase_iff.mpr hmanifest.2⟩
  · intro h
    obtain ⟨hdeclarations, hconflicts, hkind⟩ := h
    have hsame : ∀ other, left = some other ∨ right = some other → other.kind = file.kind := by
      intro other hother
      cases hright : right with
      | none =>
          rw [hright] at hfile hother
          obtain rfl := Option.some.inj
            ((hother.resolve_right (by simp)).symm.trans (show left = some file from hfile))
          rfl
      | some after =>
          rw [hright] at hfile
          obtain rfl : after = file := Option.some.inj hfile
          obtain hleft | hother := hother
          · exact (hdeclarations other after hleft hright).1
          · rw [Option.some.inj (hright.symm.trans hother)]
    refine ⟨hdeclarations, fun other hother => ?_, fun other hother => ?_⟩
    · rw [kindConflicts_congr (hsame other hother) (hpath other hother)]
      exact hconflicts
    · rw [hsame other hother, ← sameManifestDatabase_iff]
      exact hkind

/-- What the loop asks of the files under a key. -/
def FileClear (c : Comparison) (key : String × String) : Prop :=
  c.old.files.get key ≠ c.new.files.get key →
    FileCompatible (c.old.files.get key) (c.new.files.get key) ∧
      ∀ file, c.old.files.get key = some file → c.new.files.get key = none → file.module ≠ "" →
        file.module ∈ c.new.graph.keys

theorem reasons_inspectFile : (c.inspectFile f key).reasons = ∅ ↔
    f.reasons = ∅ ∧ c.FileClear key := by
  unfold inspectFile FileClear
  by_cases hsame : c.old.files.get key = c.new.files.get key
  · simp [hsame]
  · rw [if_neg hsame]
    have hnote (file : ReleaseInputFile) : (noteChange key (c.old.files.get key)
        (c.new.files.get key) file f).reasons = f.reasons := rfl
    cases hfile : (c.new.files.get key).or (c.old.files.get key) with
    | none =>
        have hnone := Option.or_eq_none_iff.mp hfile
        exact absurd (hnone.2.trans hnone.1.symm) hsame
    | some file =>
        have hpath : ∀ other, c.old.files.get key = some other ∨ c.new.files.get key = some other →
            other.path = file.path := by
          have hkey : ∀ other, c.old.files.get key = some other ∨
              c.new.files.get key = some other → other.path = key.2 :=
            fun other hother => hother.elim path_of_files_get path_of_files_get
          exact fun other hother => (hkey other hother).trans (hkey file (mem_of_or hfile)).symm
        simp only [reasons_noteRemoved, reasons_noteKind, reasons_noteKindConflict,
          reasons_noteDeclarations, hnote, fileCompatible_iff hfile hpath, and_assoc]
        -- a file that stands on the old side alone is the one that is looked at
        have hremoved : ((c.old.files.get key).isSome = true → c.new.files.get key = none →
              file.module ≠ "" → file.module ∈ c.new.graph.keys) ↔
            ∀ other, c.old.files.get key = some other → c.new.files.get key = none →
              other.module ≠ "" → other.module ∈ c.new.graph.keys := by
          constructor
          · intro h other hold hnew hmodule
            rw [hnew, Option.none_or, hold] at hfile
            obtain rfl := Option.some.inj hfile
            exact h (by simp [hold]) hnew hmodule
          · intro h hsome hnew hmodule
            rw [hnew, Option.none_or] at hfile
            exact h file hfile hnew hmodule
        rw [hremoved]
        simp only [ne_eq, hsame, not_false_eq_true, forall_const]

theorem reasons_files (keys : List (String × String)) :
    (keys.foldl c.inspectFile f).reasons = ∅ ↔ f.reasons = ∅ ∧ ∀ key ∈ keys, c.FileClear key := by
  induction keys generalizing f with
  | nil => simp
  | cons key keys ih =>
      rw [List.foldl_cons, ih, reasons_inspectFile, List.forall_mem_cons, and_assoc]

/-! ### The whole pass -/

theorem reasons_inspectUnresolved : (inspectUnresolved f).reasons = ∅ ↔
    f.reasons = ∅ ∧ "" ∉ f.updateRoots := by
  unfold inspectUnresolved
  by_cases hblank : "" ∈ f.updateRoots
  · simp [hblank]
  · simp [hblank]

theorem inspectUnresolved_of_notMem (h : "" ∉ f.updateRoots) : inspectUnresolved f = f := if_neg h

theorem reasons_inspectRoots : (c.inspectRoots f).reasons = ∅ ↔
    f.reasons = ∅ ∧ f.updateRoots ⊆ c.new.graph.keys.toFinset :=
  (reasons_incomplete_if _).trans (and_congr_right' not_not)

theorem reasons_inspectRequiredInstalls : (c.inspectRequiredInstalls f).reasons = ∅ ↔
    f.reasons = ∅ ∧ c.installs = ∅ :=
  (reasons_reason_if _).trans (and_congr_right' not_not)

theorem reasons_inspectConflict : (c.inspectConflict f).reasons = ∅ ↔
    f.reasons = ∅ ∧ ¬((f.updateRoots ≠ ∅ ∨ c.installs ≠ ∅) ∧
      (c.old.readWriteCompatible && c.new.readWriteCompatible)) := reasons_reason_if _

/-- No reason comes up before the module plan just where the artifacts are compatible. -/
theorem reasons_inspectFiles (hproduction : Declared c.production c.old)
    (hcandidate : Declared c.candidate c.new) :
    c.inspectFiles.reasons = ∅ ↔ Compatible c.production c.candidate c.old c.new := by
  simp only [inspectFiles, inspectInputs, reasons_files, reasons_inspectNewInstalls,
    reasons_inspectRemovedInstalls, reasons_inspectExaminedInstalls, reasons_inspectGraph,
    reasons_inspectOpaqueInputs, reasons_inspectDeclared, reasons_inspectIdentity, reasons_sources,
    true_and]
  constructor
  · intro h
    obtain ⟨⟨⟨⟨⟨⟨⟨⟨hsources, hidentity⟩, hdeclared⟩, hinputs⟩, hgraph⟩, hexamined⟩, hremoved⟩,
      hadded⟩, hfiles⟩ := h
    refine ⟨hproduction, hcandidate, ?_, hidentity, hdeclared, hinputs, hgraph,
      fun name => ⟨hremoved name, hadded name⟩, hexamined, ?_⟩
    · intro name before after hbefore hafter hrepository hcommit
      obtain ⟨hmem, rfl⟩ := mem_of_sourcesByName_get hafter
      exact hsources after hmem before hbefore hrepository hcommit
    · intro key hne
      exact (hfiles key (mem_fileKeys_of_ne hne) hne).1
  · intro h
    refine ⟨⟨⟨⟨⟨⟨⟨⟨?_, h.identity⟩, h.read_write⟩, h.build_inputs⟩, h.graph⟩,
      h.installs_examined⟩, fun name => (h.installs name).mp⟩, fun name => (h.installs name).mpr⟩, ?_⟩
    · intro source hsource previous hprevious hrepository hcommit
      exact h.inventories _ previous source hprevious (sourcesByName_get hsource) hrepository
        hcommit
    · intro key _ hne
      refine ⟨h.files key hne, fun file hold _ hmodule => ?_⟩
      exact (Dict.mem_keys_iff_of_same h.graph).mp (module_mem_graph hold hmodule)

/-- Compatible artifacts leave nothing to update. -/
theorem updateRoots_of_compatible (h : Compatible c.production c.candidate c.old c.new) :
    c.inspectFiles.updateRoots = ∅ := by
  refine Finset.eq_empty_of_forall_notMem fun name hmem => ?_
  cases mem_updateRoots_inspectFiles.mp hmem with
  | inputs modules _ hchanged _ => exact hchanged h.build_inputs
  | dependencies _ hchanged => exact hchanged (h.graph name)
  | file key file hne hfile hroot =>
      obtain hkind | ⟨hkind, hsame⟩ := (h.files key hne).kind file (mem_of_or hfile)
      · unfold FileRoot at hroot
        simp only [List.mem_cons, List.not_mem_nil, or_false] at hkind
        obtain hkind | hkind | hkind := hkind
        all_goals simp [hkind] at hroot
      · unfold FileRoot at hroot
        simp [hkind, sameManifestDatabase_iff.mpr hsame] at hroot

/-- Compatible artifacts require the same modules. -/
theorem installs_of_compatible (h : Compatible c.production c.candidate c.old c.new) :
    c.installs = ∅ := by
  have hdepends (a b : String) : DependsOn c.new.graph a b → DependsOn c.old.graph a b := by
    intro hdepends
    obtain ⟨depends, hget, hmem⟩ := hdepends
    exact ⟨depends, (h.graph a).trans hget, hmem⟩
  refine Finset.eq_empty_of_forall_notMem fun name hmem => ?_
  obtain ⟨⟨root, hroot, hpath⟩, hnot⟩ := mem_installs.mp hmem
  exact hnot ⟨root, (h.installs root).mpr hroot, Relation.ReflTransGen.mono hdepends _ _ hpath⟩

/-- **The pass finds no reason just where the artifacts are compatible.** -/
theorem reasons_inspect (hproduction : Declared c.production c.old)
    (hcandidate : Declared c.candidate c.new) :
    c.inspect.reasons = ∅ ↔ Compatible c.production c.candidate c.old c.new := by
  rw [← reasons_inspectFiles hproduction hcandidate]
  constructor
  · intro h
    rw [inspect, reasons_inspectConflict, reasons_inspectRequiredInstalls, reasons_inspectRoots,
      reasons_inspectUnresolved] at h
    exact h.1.1.1.1
  · intro h
    have hcompatible := (reasons_inspectFiles hproduction hcandidate).mp h
    have hroots := updateRoots_of_compatible hcompatible
    have hinstalls := installs_of_compatible hcompatible
    have hplanned : (c.inspectRequiredInstalls (c.inspectRoots c.inspectFiles)).updateRoots = ∅ :=
      (updateRoots_reason_if _).trans ((updateRoots_incomplete_if _).trans hroots)
    rw [inspect, inspectUnresolved_of_notMem (by simp [hroots]), reasons_inspectConflict,
      reasons_inspectRequiredInstalls, reasons_inspectRoots, hplanned, hroots]
    simp [h, hinstalls]

end Steps

end Comparison

end Launchplane.ReleaseCompatibility
