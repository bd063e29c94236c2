import Mathlib.Data.Finmap
import Mathlib.Data.String.Basic
import Launchplane.Dict
import Launchplane.Text

/-!
# Launchplane.ReleaseCompatibility.Manifest

**What an artifact was built from.** The manifest of a verified build, the
inventory of the files of its inputs, and what of the two is compared as a whole.

A declaration carries what its validators checked: the names of its inputs and
modules are distinct, and every module that is named is one of its own.
-/

namespace Launchplane.ReleaseCompatibility

/-! ### The inventory -/

/-- `ReleaseInputKind`. -/
inductive ReleaseInputKind
  | static | code | manifestAssets | databaseData | model | migration | dependency | docsCi | unknown
  deriving Repr, DecidableEq

/-- The literal of a kind. -/
def ReleaseInputKind.text : ReleaseInputKind → String
  | static => "static"
  | code => "code"
  | manifestAssets => "manifest_assets"
  | databaseData => "database_data"
  | model => "model"
  | migration => "migration"
  | dependency => "dependency"
  | docsCi => "docs_ci"
  | unknown => "unknown"

/-- The `parts` of a relative path. -/
def pathParts (path : String) : List String :=
  ((path.toList.splitOn '/').filter (· ≠ [])).map String.ofList

/-- The `name` of a path, its last part. -/
def pathName (path : String) : String := (pathParts path).getLastD ""

/-- The `suffix` of a path: from the last dot of its name, unless only dots stand before it. -/
def pathSuffix (path : String) : String :=
  let name := (pathName path).toList
  let ending := name.reverse.takeWhile (· ≠ '.')
  let stem := name.take (name.length - ending.length - 1)
  if ending.length < name.length ∧ stem.any (· ≠ '.') then String.ofList ('.' :: ending.reverse)
  else ""

example : pathSuffix "site/models/.hidden.tar.py" = ".py" ∧ pathSuffix "docs/.gitignore" = "" := by
  decide +kernel

/-- `ReleaseInputFile`. -/
structure ReleaseInputFile where
  path : String
  sha256 : String
  kind : ReleaseInputKind
  module : String := ""
  manifestDatabaseSha256 : String := ""
  deriving Repr, DecidableEq

/-- `ReleaseSourceInventory`, with no path twice. -/
structure ReleaseSourceInventory where
  inputName : String
  repository : String
  commit : String
  files : List ReleaseInputFile
  paths_nodup : (files.map (·.path)).Nodup
  deriving DecidableEq

/-- `ReleaseModuleDeclaration`. -/
structure ReleaseModuleDeclaration where
  name : String
  depends : List String := []
  deriving Repr, DecidableEq

/-- `ArtifactReleaseCompatibility`, with what `validate_inventory` checks. -/
structure ArtifactReleaseCompatibility where
  complete : Bool
  readWriteCompatible : Bool
  sources : List ReleaseSourceInventory
  modules : List ReleaseModuleDeclaration
  examinedInputsSha256 : String := ""
  examinedBaselineInputsSha256 : String := ""
  /-- Without an examined plan there is none; an empty one has no module to update. -/
  databaseUpdateModules : Option (List String) := none
  sources_nodup : (sources.map (·.inputName)).Nodup
  modules_nodup : (modules.map (·.name)).Nodup
  files_declared : ∀ source ∈ sources, ∀ file ∈ source.files, file.module ≠ "" →
    file.module ∈ modules.map (·.name)
  depends_declared : ∀ declared ∈ modules, ∀ name ∈ declared.depends, name ∈ modules.map (·.name)
  updates_declared : ∀ updates, databaseUpdateModules = some updates →
    examinedInputsSha256 ≠ "" ∧ ∀ name ∈ updates, name ∈ modules.map (·.name)

/-! ### The manifest -/

/-- `ArtifactAddonSource`. -/
structure ArtifactAddonSource where
  repository : String
  ref : String
  deriving Repr, DecidableEq

/-- `ArtifactAddonSelector`. -/
structure ArtifactAddonSelector where
  repository : String
  selector : String
  resolvedRef : String
  deriving Repr, DecidableEq

/-- `ArtifactOpenUpgradeInputs`. -/
structure ArtifactOpenUpgradeInputs where
  addonRepository : String := ""
  installSpec : String := ""
  deriving Repr, DecidableEq

/-- `ArtifactBuildFlags`. -/
structure ArtifactBuildFlags where
  addonSkipFlags : List String := []
  values : Finmap fun _ : String => String := ∅
  deriving DecidableEq

/-- `ArtifactImageReference`. -/
structure ArtifactImageReference where
  repository : String
  digest : String
  tags : List String := []
  deriving Repr, DecidableEq

/-- `ArtifactBaseImageProvenance`. -/
structure ArtifactBaseImageProvenance where
  role : String
  image : ArtifactImageReference
  sourceRepository : String := ""
  sourceRef : String := ""
  deriving Repr, DecidableEq

/-- `ArtifactBuildToolProvenance`. -/
structure ArtifactBuildToolProvenance where
  name : String
  version : String := ""
  sourceRepository : String := ""
  sourceRef : String := ""
  deriving Repr, DecidableEq

/-- `ArtifactBuildProvenance`. -/
structure ArtifactBuildProvenance where
  baseImages : List ArtifactBaseImageProvenance := []
  buildTools : List ArtifactBuildToolProvenance := []
  deriving Repr, DecidableEq

/-- `ArtifactUvLockProvenance`. -/
structure ArtifactUvLockProvenance where
  scope : String
  sourceRepository : String
  sourceRef : String
  path : String
  sha256 : String
  deriving Repr, DecidableEq

/-- `ArtifactPythonPackageSource`. -/
structure ArtifactPythonPackageSource where
  kind : String
  repository : String := ""
  commit : String := ""
  deriving Repr, DecidableEq

/-- `ArtifactPythonPackage`. -/
structure ArtifactPythonPackage where
  name : String
  version : String
  source : ArtifactPythonPackageSource
  deriving Repr, DecidableEq

/-- `ArtifactPythonEnvironmentProvenance`. -/
structure ArtifactPythonEnvironmentProvenance where
  pythonVersion : String
  packages : List ArtifactPythonPackage
  packageCount : Nat
  packagesSha256 : String
  deriving Repr, DecidableEq

/-- `ArtifactExternalCompatibilityInput`. -/
structure ArtifactExternalCompatibilityInput where
  sourceRepository : String
  sourceRef : String
  dependencyFilePath : String
  dependencyFileSha256 : String
  format : String
  resolutionPosture : String
  deriving Repr, DecidableEq

/-- `ArtifactDependencyProvenance`. -/
structure ArtifactDependencyProvenance where
  targetPlatforms : List String
  uvLocks : List ArtifactUvLockProvenance
  pythonEnvironments : Finmap fun _ : String => ArtifactPythonEnvironmentProvenance
  externalCompatibilityInputs : List ArtifactExternalCompatibilityInput := []
  deriving DecidableEq

/-- `BuildPurpose`. -/
inductive BuildPurpose
  | release | preview
  deriving Repr, DecidableEq

/-- `ArtifactSourceBuild`, as far as it is read here. -/
structure ArtifactSourceBuild where
  repository : String
  repositoryId : String
  purpose : BuildPurpose
  deriving Repr, DecidableEq

/-- `ArtifactIdentityManifest`. -/
structure ArtifactIdentityManifest where
  schemaVersion : Nat := 1
  artifactId : String
  sourceCommit : String
  enterpriseBaseDigest : String
  addonSources : List ArtifactAddonSource := []
  addonSelectors : List ArtifactAddonSelector := []
  odooInstallModules : List String := []
  openupgradeInputs : ArtifactOpenUpgradeInputs := {}
  buildFlags : ArtifactBuildFlags := {}
  buildProvenance : ArtifactBuildProvenance := {}
  dependencyProvenance : Option ArtifactDependencyProvenance := none
  releaseCompatibility : Option ArtifactReleaseCompatibility := none
  image : ArtifactImageReference
  sourceBuild : Option ArtifactSourceBuild := none

/-! ### What is compared as a whole -/

/-- The payload of `_opaque_inputs`: the references are left out, which the inventories examine. -/
structure OpaqueInputs where
  schemaVersion : Nat
  enterpriseBaseDigest : String
  addonSources : List String
  addonSelectors : List (String × String)
  openupgradeInputs : ArtifactOpenUpgradeInputs
  buildFlags : ArtifactBuildFlags
  /-- The role, image repository, image digest and source repository of each. -/
  baseImages : List (String × String × String × String)
  /-- The name, version and source repository of each. -/
  buildTools : List (String × String × String)
  dependencyProvenance : Option ArtifactDependencyProvenance
  deriving DecidableEq

/-- `_opaque_inputs`. -/
def opaqueInputs (manifest : ArtifactIdentityManifest) : OpaqueInputs :=
  { schemaVersion := manifest.schemaVersion
    enterpriseBaseDigest := manifest.enterpriseBaseDigest
    addonSources := manifest.addonSources.map (·.repository)
    addonSelectors := manifest.addonSelectors.map fun source => (source.repository, source.selector)
    openupgradeInputs := manifest.openupgradeInputs
    buildFlags := manifest.buildFlags
    baseImages := manifest.buildProvenance.baseImages.map fun source =>
      (source.role, source.image.repository, source.image.digest, source.sourceRepository)
    buildTools := manifest.buildProvenance.buildTools.map fun source =>
      (source.name, source.version, source.sourceRepository)
    dependencyProvenance := manifest.dependencyProvenance.map fun dependency =>
      { dependency with
        uvLocks := dependency.uvLocks.map fun source => { source with sourceRef := "" }
        externalCompatibilityInputs := dependency.externalCompatibilityInputs.map fun source =>
          { source with sourceRef := "" } } }

/-! ### The inputs of a build -/

/-- A repository and a commit of it. -/
abbrev SourceRef : Type := String × String

/-- The addon sources join the others, each repository once. -/
def addAddonSources (sources : Dict String SourceRef) :
    List ArtifactAddonSource → Except String (Dict String SourceRef)
  | [] => .ok sources
  | source :: rest =>
      if "addon:" ++ source.repository ∈ sources.keys then .error "conflicting_source_inputs"
      else addAddonSources
        (sources.set ("addon:" ++ source.repository) (source.repository, source.ref)) rest

/-- `_source_inputs`. -/
def sourceInputs (manifest : ArtifactIdentityManifest) : Except String (Dict String SourceRef) :=
  match manifest.sourceBuild with
  | none => .error "unverified_artifact"
  | some build =>
      if build.purpose ≠ .release ∨ manifest.schemaVersion ≠ 2 then .error "unverified_artifact"
      else do
        let addons ← addAddonSources [("tenant", (build.repository, manifest.sourceCommit))]
          manifest.addonSources
        let bases := manifest.buildProvenance.baseImages.foldl (fun sources base =>
          sources.set ("base:" ++ base.role) (base.sourceRepository, base.sourceRef)) addons
        let tools := manifest.buildProvenance.buildTools.foldl (fun sources tool =>
          sources.set ("tool:" ++ tool.name) (tool.sourceRepository, tool.sourceRef)) bases
        let externals := match manifest.dependencyProvenance with
          | none => []
          | some dependency => dependency.externalCompatibilityInputs
        let sources := externals.foldl (fun sources external =>
          sources.set
            ("external:" ++ external.sourceRepository ++ ":" ++ external.dependencyFilePath)
            (external.sourceRepository, external.sourceRef)) tools
        if manifest.addonSelectors.any fun selector =>
            sources.get ("addon:" ++ selector.repository) ≠
              some (selector.repository, selector.resolvedRef) then
          .error "conflicting_source_selector"
        else .ok sources

namespace ReleaseSourceInventory

/-- The files of a source, by path. -/
def filesByPath (source : ReleaseSourceInventory) : Dict String ReleaseInputFile :=
  source.files.map fun file => (file.path, file)

end ReleaseSourceInventory

namespace ArtifactReleaseCompatibility

/-- The repositories and commits that the inventory lists, by input. -/
def inputs (declaration : ArtifactReleaseCompatibility) : Dict String SourceRef :=
  declaration.sources.map fun source => (source.inputName, (source.repository, source.commit))

/-- The sources of the inventory, by input. -/
def sourcesByName (declaration : ArtifactReleaseCompatibility) :
    Dict String ReleaseSourceInventory :=
  declaration.sources.map fun source => (source.inputName, source)

/-- The files of the inventory, by input and path. -/
def files (declaration : ArtifactReleaseCompatibility) : Dict (String × String) ReleaseInputFile :=
  declaration.sources.flatMap fun source =>
    source.files.map fun file => ((source.inputName, file.path), file)

/-- The dependencies of the modules, by name. -/
def graph (declaration : ArtifactReleaseCompatibility) : Dict String (Finset String) :=
  declaration.modules.map fun declared => (declared.name, declared.depends.toFinset)

end ArtifactReleaseCompatibility

/-- `_files`, with the declaration that it reads. -/
def files (manifest : ArtifactIdentityManifest) :
    Except String (ArtifactReleaseCompatibility × Dict (String × String) ReleaseInputFile) := do
  let expected ← sourceInputs manifest
  match manifest.releaseCompatibility with
  | none => .error "missing_complete_declaration"
  | some declaration =>
      if !declaration.complete then .error "missing_complete_declaration"
      else if ¬declaration.inputs.Same expected then
        .error "unexamined_or_conflicting_source_inputs"
      else .ok (declaration, declaration.files)

/-- `_kind_conflicts`. -/
def kindConflicts (file : ReleaseInputFile) : Bool :=
  let parts := pathParts file.path
  match file.kind with
  | .static => "static" ∉ parts
  | .code =>
      pathSuffix file.path ≠ ".py" ||
        ["models", "wizard", "wizards", "report", "reports", "security", "migrations", "data",
          "views"].any (· ∈ parts) ||
        pathName file.path ∈ ["__manifest__.py", "__init__.py"]
  | .docsCi =>
      !(pathSuffix file.path ∈ [".md", ".rst", ".adoc"] ||
        ["docs", "doc", ".github", "tests"].any (· ∈ parts) ||
        pathName file.path = ".gitignore")
  | _ => false

end Launchplane.ReleaseCompatibility
