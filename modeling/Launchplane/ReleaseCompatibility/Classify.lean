import Launchplane.ReleaseCompatibility.Manifest
import Launchplane.Saturation
import Mathlib.Data.Finset.Sort

/-!
# Launchplane.ReleaseCompatibility.Classify

**The release class of a pair of artifacts.** One pass over the inputs of both
gathers the reasons why production's database may not be kept as it is, and the
modules that a release would have to install and to update.
-/

namespace Launchplane.ReleaseCompatibility

/-- The digests, as functions of what is digested. -/
structure Digests where
  /-- `_digest`. -/
  manifest : ArtifactIdentityManifest → String
  /-- `release_examined_inputs_sha256`, of the payload that it builds. -/
  examinedInputs : OpaqueInputs → List ReleaseSourceInventory → List ReleaseModuleDeclaration →
    List String → String

/-- `ReleaseInputChange`. -/
structure ReleaseInputChange where
  inputName : String
  path : String
  beforeSha256 : String := ""
  afterSha256 : String := ""
  kind : ReleaseInputKind
  module : String := ""
  deriving Repr, DecidableEq

/-- The two classes. -/
inductive ReleaseClass
  | compatible | databaseChanging
  deriving Repr, DecidableEq

/-- `ReleaseDatabaseCompatibility`. -/
structure ReleaseDatabaseCompatibility where
  productionArtifactId : String
  candidateArtifactId : String
  productionImage : String
  candidateImage : String
  productionManifestSha256 : String
  candidateManifestSha256 : String
  classification : ReleaseClass
  reasons : List String
  changes : List ReleaseInputChange := []
  changedModules : List String := []
  installModules : List String := []
  updateModules : List String := []
  modulePlanComplete : Bool := false
  warmAssets : Bool := false
  retainPreviousAssets : Bool := false
  deriving Repr, DecidableEq

/-! ### What is gathered -/

/-- The variables of the pass. -/
structure Findings where
  reasons : Finset String := ∅
  changes : List ReleaseInputChange := []
  changedModules : Finset String := ∅
  updateRoots : Finset String := ∅
  complete : Bool := true
  warmAssets : Bool := false

namespace Findings

/-- One more reason. -/
def reason (f : Findings) (text : String) : Findings :=
  { f with reasons := insert text f.reasons }

/-- One more reason, for which the module plan is not complete. -/
def incomplete (f : Findings) (text : String) : Findings :=
  { f with reasons := insert text f.reasons, complete := false }

/-- Modules that have to be updated. -/
def updating (f : Findings) (modules : List String) : Findings :=
  { f with
    updateRoots := f.updateRoots ∪ modules.toFinset
    changedModules := f.changedModules ∪ modules.toFinset }

/-- A module whose database has to be updated. -/
def root (f : Findings) (module : String) : Findings :=
  { f with updateRoots := insert module f.updateRoots }

end Findings

/-- A pair of manifests with complete declarations, and the modules of the examined plan if
there is one. -/
structure Comparison where
  production : ArtifactIdentityManifest
  candidate : ArtifactIdentityManifest
  old : ArtifactReleaseCompatibility
  new : ArtifactReleaseCompatibility
  /-- `new.database_update_modules`, where `examined_database_plan`. -/
  examinedPlan : Option (List String)

namespace Comparison

variable (c : Comparison)

/-- A source that both inventories list at one commit has to list the same files. -/
def inspectSource (f : Findings) (source : ReleaseSourceInventory) : Findings :=
  match c.old.sourcesByName.get source.inputName with
  | none => f
  | some previous =>
      if previous.repository = source.repository ∧ previous.commit = source.commit ∧
          ¬previous.filesByPath.Same source.filesByPath then
        f.incomplete "conflicting_immutable_source_inventory"
      else f

/-- Both artifacts have to be of one repository and one image. -/
def inspectIdentity (f : Findings) : Findings :=
  match c.production.sourceBuild, c.candidate.sourceBuild with
  | some before, some after =>
      if before.repositoryId ≠ after.repositoryId ∨ before.repository ≠ after.repository ∨
          c.production.image.repository ≠ c.candidate.image.repository then
        f.incomplete "conflicting_artifact_identity"
      else f
  | _, _ => f.incomplete "conflicting_artifact_identity"

/-- Both declare that they read and write the unchanged database. -/
def inspectDeclared (f : Findings) : Findings :=
  if !c.old.readWriteCompatible || !c.new.readWriteCompatible then
    f.reason "read_write_compatibility_not_declared"
  else f

/-- The inputs that no inventory examines. -/
def inspectOpaqueInputs (f : Findings) : Findings :=
  if opaqueInputs c.production ≠ opaqueInputs c.candidate then
    match c.examinedPlan with
    | none => (f.reason "changed_base_dependency_or_build_inputs").incomplete
        "unexamined_opaque_input_plan"
    | some modules => (f.reason "changed_base_dependency_or_build_inputs").updating modules
  else f

/-- The modules whose dependencies changed. -/
def changedDependencies : List String :=
  c.new.graph.keys.filter fun name => c.old.graph.get name ≠ c.new.graph.get name

/-- The module dependencies. -/
def inspectGraph (f : Findings) : Findings :=
  if ¬c.old.graph.Same c.new.graph then
    (f.reason "changed_module_dependencies").updating c.changedDependencies
  else f

/-- Every module that is to be installed is one of the candidate's. -/
def inspectExaminedInstalls (f : Findings) : Findings :=
  if c.candidate.odooInstallModules.any (· ∉ c.new.graph.keys) then
    f.incomplete "unexamined_install_requirements"
  else f

/-- No module is installed any less. -/
def inspectRemovedInstalls (f : Findings) : Findings :=
  if c.production.odooInstallModules.any (· ∉ c.candidate.odooInstallModules) then
    f.incomplete "removed_install_requirements"
  else f

/-- Modules that are installed for the first time. -/
def inspectNewInstalls (f : Findings) : Findings :=
  if c.candidate.odooInstallModules.any (· ∉ c.production.odooInstallModules) then
    f.reason "required_module_installs"
  else f

/-! ### One file -/

/-- The change of a file, and the module that it belongs to. -/
def noteChange (key : String × String) (left right : Option ReleaseInputFile)
    (file : ReleaseInputFile) (f : Findings) : Findings :=
  { f with
    changes := f.changes ++ [{
      inputName := key.1
      path := key.2
      beforeSha256 := (left.map (·.sha256)).getD ""
      afterSha256 := (right.map (·.sha256)).getD ""
      kind := file.kind
      module := file.module }]
    changedModules := if file.module ≠ "" then insert file.module f.changedModules
      else f.changedModules }

/-- A file is declared as one kind of one module. -/
def noteDeclarations (left right : Option ReleaseInputFile) (f : Findings) : Findings :=
  match left, right with
  | some before, some after =>
      if before.kind ≠ after.kind ∨ before.module ≠ after.module then
        f.incomplete "conflicting_file_declarations"
      else f
  | _, _ => f

/-- A path admits only some kinds. -/
def noteKindConflict (file : ReleaseInputFile) (f : Findings) : Findings :=
  if kindConflicts file then f.incomplete "conflicting_file_declarations" else f

/-- Whether a manifest is on both sides, with one hash of what is not an asset. -/
def sameManifestDatabase (left right : Option ReleaseInputFile) : Bool :=
  match left, right with
  | some before, some after => before.manifestDatabaseSha256 = after.manifestDatabaseSha256
  | _, _ => false

/-- What a change of a file of this kind asks of the database. -/
def noteKind (left right : Option ReleaseInputFile) (file : ReleaseInputFile) (f : Findings) :
    Findings :=
  match file.kind with
  | .manifestAssets =>
      if !sameManifestDatabase left right then
        (f.reason "changed_manifest_database_fields").root file.module
      else { f with warmAssets := true }
  | .static => { f with warmAssets := true }
  | .dependency =>
      if file.module = "" then
        match c.examinedPlan with
        | none => (f.reason "changed_dependency").incomplete "unexamined_non_module_dependency_plan"
        | some modules => (f.reason "changed_dependency").updating modules
      else (f.reason "changed_dependency").root file.module
  | .databaseData | .model | .migration => (f.reason ("changed_" ++ file.kind.text)).root file.module
  | .unknown => f.incomplete "unexamined_file_input"
  | .code | .docsCi => f

/-- A module may not lose its last file. -/
def noteRemoved (left right : Option ReleaseInputFile) (file : ReleaseInputFile) (f : Findings) :
    Findings :=
  if left.isSome ∧ right = none ∧ file.module ≠ "" ∧ file.module ∉ c.new.graph.keys then
    f.incomplete "removed_module"
  else f

/-- One round of the loop over the files. -/
def inspectFile (f : Findings) (key : String × String) : Findings :=
  let left := c.old.files.get key
  let right := c.new.files.get key
  if left = right then f
  else match right.or left with
    | none => f
    | some file =>
        c.noteRemoved left right file
          (c.noteKind left right file
            (noteKindConflict file (noteDeclarations left right (noteChange key left right file f))))

/-- `sorted(before.keys() | after.keys())`. -/
def fileKeys : List (String × String) :=
  (fromKeys (c.old.files.keys ++ c.new.files.keys)).mergeSort fun a b =>
    a.1 < b.1 || (a.1 = b.1 && a.2 ≤ b.2)

/-! ### The module plan -/

/-- The modules that the modules of a set depend on at once. -/
def dependencyGrowth (graph : Dict String (Finset String)) : Growth String where
  next names := names.biUnion fun name => (graph.get name).getD ∅
  bound := graph.keys.toFinset.biUnion fun name => (graph.get name).getD ∅
  next_subset names := by
    intro dependency hmem
    obtain ⟨name, -, hmem⟩ := Finset.mem_biUnion.mp hmem
    by_cases hname : name ∈ graph.keys
    · exact Finset.mem_biUnion.mpr ⟨name, List.mem_toFinset.mpr hname, hmem⟩
    · simp [Dict.get_eq_none.mpr hname] at hmem

/-- `_dependency_closure`. -/
def dependencyClosure (graph : Dict String (Finset String)) (roots : Finset String) :
    Finset String :=
  (dependencyGrowth graph).saturate roots

/-- The modules that depend on one that is updated or installed, and are not installed themselves. -/
def affectedGrowth (graph : Dict String (Finset String)) (installs : Finset String) :
    Growth String where
  next updates := (graph.keys.toFinset.filter fun name =>
    (graph.get name).getD ∅ ∩ (updates ∪ installs) ≠ ∅) \ installs
  bound := graph.keys.toFinset
  next_subset _ := Finset.sdiff_subset.trans (Finset.filter_subset _ _)

/-- The installs: what the candidate requires and production did not. -/
def installs : Finset String :=
  dependencyClosure c.new.graph c.candidate.odooInstallModules.toFinset \
    dependencyClosure c.old.graph c.production.odooInstallModules.toFinset

/-- The updates: what has to be updated and whatever depends on it, of what is not installed. -/
def updates (roots : Finset String) : Finset String :=
  (affectedGrowth c.new.graph c.installs).saturate (roots \ c.installs)

/-! ### The pass -/

/-- A change of the database has to name its module. -/
def inspectUnresolved (f : Findings) : Findings :=
  if "" ∈ f.updateRoots then
    let f := f.incomplete "unresolved_module_for_database_change"
    { f with updateRoots := f.updateRoots.erase "" }
  else f

/-- Every module that is to be updated is one of the candidate's. -/
def inspectRoots (f : Findings) : Findings :=
  if ¬f.updateRoots ⊆ c.new.graph.keys.toFinset then f.incomplete "unresolved_changed_modules"
  else f

/-- Modules that come in as dependencies are installs too. -/
def inspectRequiredInstalls (f : Findings) : Findings :=
  if c.installs ≠ ∅ then f.reason "required_module_installs" else f

/-- Work on the database contradicts what both declared. -/
def inspectConflict (f : Findings) : Findings :=
  if (f.updateRoots ≠ ∅ ∨ c.installs ≠ ∅) ∧
      (c.old.readWriteCompatible && c.new.readWriteCompatible) then
    f.reason "declaration_conflicts_with_required_database_work"
  else f

/-- The findings before the files are looked at. -/
def inspectInputs : Findings :=
  c.inspectNewInstalls <| c.inspectRemovedInstalls <| c.inspectExaminedInstalls <|
    c.inspectGraph <| c.inspectOpaqueInputs <| c.inspectDeclared <| c.inspectIdentity <|
    c.new.sources.foldl c.inspectSource {}

/-- The findings with the files. -/
def inspectFiles : Findings := c.fileKeys.foldl c.inspectFile c.inspectInputs

/-- The findings of the whole pass. -/
def inspect : Findings :=
  c.inspectConflict <| c.inspectRequiredInstalls <| c.inspectRoots <|
    inspectUnresolved c.inspectFiles

end Comparison

/-- The reason for the compatible class, which stands alone. -/
def compatibleReason : String := "verified_complete_read_write_compatible_diff"

/-- `release_examined_inputs_sha256`. -/
def releaseExaminedInputsSha256 (D : Digests) (manifest : ArtifactIdentityManifest)
    (declaration : ArtifactReleaseCompatibility) : String :=
  D.examinedInputs (opaqueInputs manifest) declaration.sources declaration.modules
    manifest.odooInstallModules

/-- The modules of the examined plan, if it was made for just this pair. -/
def examinedPlan (D : Digests) (production candidate : ArtifactIdentityManifest)
    (old new : ArtifactReleaseCompatibility) : Option (List String) :=
  if new.examinedBaselineInputsSha256 = releaseExaminedInputsSha256 D production old ∧
      new.examinedInputsSha256 = releaseExaminedInputsSha256 D candidate new then
    new.databaseUpdateModules
  else none

/-- The comparison of two manifests, or the reason why there is none. -/
def compare (D : Digests) (production : Option ArtifactIdentityManifest)
    (candidate : ArtifactIdentityManifest) : Except String Comparison :=
  match production with
  | none => .error "missing_production_history"
  | some production => do
      let (old, _) ← files production
      let (new, _) ← files candidate
      return { production, candidate, old, new
               examinedPlan := examinedPlan D production candidate old new }

/-- `_image`. -/
def imageText (manifest : ArtifactIdentityManifest) : String :=
  manifest.image.repository ++ "@" ++ manifest.image.digest

/-- The answer for what was found. -/
def answer (D : Digests) (production : Option ArtifactIdentityManifest)
    (candidate : ArtifactIdentityManifest) (reasons : Finset String) (f : Findings)
    (installs updates : Finset String) : ReleaseDatabaseCompatibility :=
  { productionArtifactId := (production.map (·.artifactId)).getD ""
    candidateArtifactId := candidate.artifactId
    productionImage := (production.map imageText).getD ""
    candidateImage := imageText candidate
    productionManifestSha256 := (production.map D.manifest).getD ""
    candidateManifestSha256 := D.manifest candidate
    classification := if reasons = {compatibleReason} then .compatible else .databaseChanging
    reasons := reasons.sort
    changes := f.changes
    changedModules := f.changedModules.sort
    installModules := installs.sort
    updateModules := updates.sort
    modulePlanComplete := f.complete
    warmAssets := f.warmAssets
    retainPreviousAssets := f.warmAssets }

/-- `classify_release_database_compatibility`. -/
def classifyReleaseDatabaseCompatibility (D : Digests)
    (production : Option ArtifactIdentityManifest) (candidate : ArtifactIdentityManifest) :
    ReleaseDatabaseCompatibility :=
  match compare D production candidate with
  | .error reason => answer D production candidate {reason} { complete := false } ∅ ∅
  | .ok c =>
      let f := c.inspect
      let reasons := if f.reasons = ∅ then {compatibleReason} else f.reasons
      answer D production candidate reasons f c.installs (c.updates f.updateRoots)

end Launchplane.ReleaseCompatibility
