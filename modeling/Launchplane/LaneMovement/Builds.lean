import Launchplane.Dict
import Launchplane.Json

/-!
# Launchplane.LaneMovement.Builds

**Whether a lane may change to another build.** What a lane runs is read back from
its inventory and its deployments. A requested build is accepted when the history
of the source and the build runs of the two artifacts say that it is no older; the
image of a product that is not Odoo is proved by its build run first.

A read of the provider includes getting the transport for it, and may answer
anything, at every place where it is asked.
-/

namespace Launchplane.LaneMovement

/-- The codes of `LANE_MOVEMENT_REFUSALS`. -/
inductive Refusal
  | ancestorBuild | olderArtifact | sourceOrderUnverified | sourceOrderUnavailable
  | buildOrderUnverified | previewSourceUnverified | sourceAuthorityUnavailable
  | buildIdentityUnverified
  deriving Repr, DecidableEq

/-- What is behind the failure of a read. -/
inductive Cause
  /-- `HTTPError`, and whether it says when to come back. -/
  | http (status : Nat) (throttled : Bool)
  /-- Any other `OSError`, or an `HTTPException`. -/
  | connection
  | other
  deriving Repr, DecidableEq

/-- The exceptions. -/
inductive Failure
  /-- `LaneMovementRefused`. -/
  | refused (code : Refusal)
  /-- `FileNotFoundError`. -/
  | notFound
  /-- `AttributeError`: the store does not have the method. -/
  | noAttribute
  /-- `BuildProvenanceError`. -/
  | provenance (cause : Cause)
  /-- `OSError`. -/
  | os (cause : Cause)
  /-- Another `ClickException`. -/
  | click
  | value | type | other
  deriving Repr, DecidableEq

namespace Failure

/-- `error.__cause__ if isinstance(error, BuildProvenanceError) else error`. -/
def cause : Failure → Cause
  | provenance cause => cause
  | os cause => cause
  | notFound => .connection
  | _ => .other

/-- `_source_read_refusal`. -/
def sourceReadRefusal (error : Failure) (unverified : Refusal) : Failure :=
  match error.cause with
  | .http status throttled =>
    if 500 ≤ status ∨ status = 429 ∨ status = 403 ∧ throttled = true then
      refused .sourceOrderUnavailable
    else if status = 401 ∨ status = 403 then refused .sourceAuthorityUnavailable
    else refused unverified
  | .connection => refused .sourceOrderUnavailable
  | .other => refused unverified

/-- `(OSError, BuildProvenanceError, ValueError)`. -/
def isRead : Failure → Bool
  | notFound | provenance _ | os _ | value => true
  | _ => false

/-- The same, and `ClickException` behind a clause for refusals. -/
def isReadOrClick (error : Failure) : Bool := error.isRead || error = click

/-- `BuildProvenanceError`. -/
def isProvenance : Failure → Bool
  | provenance _ => true
  | _ => false

/-- `(FileNotFoundError, AttributeError)`. -/
def isMissing : Failure → Bool
  | notFound | noAttribute => true
  | _ => false

end Failure

/-- An `except` clause that refuses. -/
def rescued {α : Type} (caught : Failure → Bool) (unverified : Refusal) (p : Except Failure α) :
    Except Failure α :=
  match p with
  | .ok a => .ok a
  | .error error =>
    if caught error then .error (error.sourceReadRefusal unverified) else .error error

/-- A read of something that may not be there. -/
def optional {α : Type} (p : Except Failure α) : Except Failure (Option α) :=
  match p with
  | .ok a => .ok (some a)
  | .error error => if error.isMissing then .ok none else .error error

/-- `BuildPurpose`. -/
inductive BuildPurpose
  | release | preview
  deriving Repr, DecidableEq

/-- `ArtifactSourceBuild`. -/
structure ArtifactSourceBuild where
  repository : String
  repositoryId : String
  workflowPath : String
  purpose : BuildPurpose
  pullRequestNumber : Option Int := none
  runId : Int
  runAttempt : Int
  githubArtifactId : Int
  manifestArtifactId : String
  /-- `_validate_source_build`: only a preview artifact names its pull request. -/
  named : purpose = .preview ↔ pullRequestNumber.isSome = true
  deriving DecidableEq

/-- `LaneBuild`. -/
structure LaneBuild where
  artifactId : String := ""
  commit : String := ""
  image : String := ""
  sourceBuild : Option ArtifactSourceBuild := none
  observedAt : String := ""
  pullRequestNumber : Option Int := none
  deployReference : String := ""
  context : String := ""
  deployTags : List String := []
  deriving DecidableEq

/-- `ArtifactIdentityManifest`, as far as it is read here. -/
structure Manifest where
  sourceCommit : String
  imageRepository : String
  imageDigest : String
  sourceBuild : Option ArtifactSourceBuild
  deriving DecidableEq

/-- The proof of a build that a deployment keeps, as `lane_build_proof` writes it. -/
structure LaneProof where
  image : String
  sourceCommit : String
  sourceBuild : ArtifactSourceBuild
  deployTags : List String := []
  deriving DecidableEq

/-- `DeploymentRecord`. A proof that cannot be read is none. -/
structure DeploymentRecord where
  artifactId : Option String
  sourceGitRef : String
  passed : Bool
  startedAt : String
  verifiedLaneBuild : Option LaneProof := none
  deriving DecidableEq

/-- `RuntimeIdentity`. -/
structure RuntimeIdentity where
  artifactId : String
  sourceGitRef : String
  imageReference : String := ""
  deriving Repr, DecidableEq

/-- `EnvironmentInventory`. -/
structure EnvironmentInventory where
  context : String
  artifactId : Option String := none
  sourceGitRef : String
  runtimeIdentity : Option RuntimeIdentity := none
  updatedAt : String
  deriving Repr, DecidableEq

/-- `LaunchplaneProductProfileRecord`. -/
structure Profile where
  repository : String
  driverId : String
  imageRepository : String
  laneContexts : List String := []
  previewContext : String := ""
  deriving Repr, DecidableEq

/-- `LaneMovementStore`. -/
structure Store where
  readEnvironmentInventory : String → String → Except Failure EnvironmentInventory
  readArtifactManifest : String → Except Failure Manifest
  /-- Not every store can list deployments. -/
  listDeploymentRecords : Option (String → Option String → Except Failure (List DeploymentRecord))

/-- For which build a proof is asked. -/
inductive Asker
  | reference | desired | current | order
  deriving Repr, DecidableEq

/-- The reads of the provider's JSON. -/
inductive ProviderRead
  /-- `/repos/{repository}/commits/{commit}`. -/
  | commit (commit : String)
  /-- `/repos/{repository}/compare/{base}...{head}`. -/
  | compare (base head : String)
  /-- `/repos/{repository}`. -/
  | repository (asker : Asker)
  /-- `/repos/{repository}/pulls/{number}`. -/
  | pull (asker : Asker) (number : Int)
  /-- `/repos/{repository}/actions/runs/{runId}/attempts/{runAttempt}`. -/
  | run (runId runAttempt : Int)
  deriving Repr, DecidableEq

/-- What `verify_generic_web_build` and `verify_build_artifact` are asked. -/
structure VerifyRequest where
  repositoryId : String
  commit : String
  purpose : BuildPurpose
  pullRequestNumber : Option Int
  recordedImageReference : String := ""
  context : String := ""
  deriving Repr, DecidableEq

/-- `VerifiedGenericWebBuild`. -/
structure VerifiedGenericWebBuild where
  imageReference : String
  sourceBuild : ArtifactSourceBuild
  tags : List String
  deriving DecidableEq

/-- `datetime`, as an instant and whether it has a timezone. -/
structure Stamp where
  instant : Int
  aware : Bool
  deriving Repr, DecidableEq

/-- The provider's answers. -/
structure Provider where
  getJson : ProviderRead → Except Failure JsonValue
  verifyGenericWebBuild : Asker → VerifyRequest → Except Failure VerifiedGenericWebBuild
  verifyBuildArtifact : VerifyRequest → Except Failure Manifest
  /-- `datetime.fromisoformat`, of a text whose `Z` is replaced. -/
  parseTimestamp : String → Except Failure Stamp

variable (S : Store) (P : Provider) (profile : Profile)

/-! ### Commits -/

/-- A hexadecimal digit of either case. -/
def isAnyHexDigit (c : Char) : Bool := isHexDigit c || ('A' ≤ c && c ≤ 'F')

/-- `re.fullmatch(r"[0-9a-fA-F]{40}", commit)`. -/
def isFullSha (commit : String) : Bool :=
  commit.toList.length == 40 && commit.toList.all isAnyHexDigit

/-- `re.fullmatch(r"[0-9a-fA-F]{4,39}", commit)`. -/
def isAbbreviatedSha (commit : String) : Bool :=
  4 ≤ commit.toList.length && commit.toList.length ≤ 39 && commit.toList.all isAnyHexDigit

/-- `full.lower().startswith(commit.lower())`. -/
def Abbreviates (commit full : String) : Prop :=
  (pyLower commit).toList <+: (pyLower full).toList

instance (commit full : String) : Decidable (Abbreviates commit full) :=
  inferInstanceAs (Decidable (_ <+: _))

/-- `a.lower() == b.lower()`. -/
def SameCommit (a b : String) : Prop := pyLower a = pyLower b

instance (a b : String) : Decidable (SameCommit a b) := inferInstanceAs (Decidable (_ = _))

/-! ### The build a lane runs -/

/-- `re.fullmatch(r".+@sha256:[0-9a-f]{64}", artifact_id)`. -/
def isDigestReference (artifactId : String) : Bool :=
  let name := artifactId.toList.take (artifactId.toList.length - 72)
  let rest := artifactId.toList.drop (artifactId.toList.length - 72)
  !name.isEmpty && !name.contains '\n' && rest.take 8 == "@sha256:".toList &&
    (rest.drop 8).length == 64 && (rest.drop 8).all isHexDigit

/-- `min((a, b), key=datetime.fromisoformat)`. -/
def earlier (a b : String) : Except Failure String := do
  let stampA ← P.parseTimestamp a
  let stampB ← P.parseTimestamp b
  if stampA.aware ≠ stampB.aware then throw .type
  else if stampB.instant < stampA.instant then return b
  else return a

/-- A deployment that observed the build. -/
def observes (artifactId sourceGitRef : String) (record : DeploymentRecord) : Bool :=
  record.artifactId = some artifactId ∧ record.sourceGitRef = sourceGitRef ∧
    record.passed = true ∧ record.startedAt ≠ ""

/-- The deployments of a lane; a store that cannot list them has none. -/
def laneDeployments (context instanceName : String) : Except Failure (List DeploymentRecord) :=
  match S.listDeploymentRecords with
  | none => .ok []
  | some list => list context (some instanceName)

/-- `current_lane_build`. -/
def currentLaneBuild (context instanceName : String) : Except Failure LaneBuild := do
  match S.readEnvironmentInventory context instanceName with
  | .error .notFound => return {}
  | .error error => throw error
  | .ok inventory =>
    let artifactId := match inventory.runtimeIdentity with
      | some identity => identity.artifactId
      | none => inventory.artifactId.getD ""
    let image := (inventory.runtimeIdentity.map (·.imageReference)).getD ""
    let commit := match inventory.runtimeIdentity with
      | some identity => identity.sourceGitRef
      | none => inventory.sourceGitRef
    let records ← laneDeployments S context instanceName
    let observedAt ← (records.filter (observes artifactId commit)).foldlM
      (fun observedAt record => earlier P observedAt record.startedAt) inventory.updatedAt
    return {
      artifactId
      commit
      image := if isDigestReference artifactId then artifactId else image
      observedAt
      context := inventory.context }

/-! ### Proofs of a build -/

/-- The contexts of a product, in the order they are searched. -/
def Profile.contexts (profile : Profile) : List String :=
  ((fromKeys (profile.laneContexts ++ [profile.previewContext])).filter (· ≠ "")).mergeSort
    fun a b => decide (a ≤ b)

/-- A proof of exactly this build. -/
def LaneProof.proves (proof : LaneProof) (profile : Profile) (desired : LaneBuild) : Bool :=
  proof.image = desired.image ∧ proof.sourceCommit = desired.commit ∧
    proof.sourceBuild.repository = profile.repository ∧
    proof.sourceBuild.pullRequestNumber = desired.pullRequestNumber

/-- `_recorded_generic_build`. -/
def recordedGenericBuild (desired : LaneBuild) : Except Failure (Option LaneBuild) :=
  match S.listDeploymentRecords with
  | none => .ok none
  | some list => do
    let found ← profile.contexts.findSomeM? fun context => do
      let records ← list context none
      return (records.filterMap (·.verifiedLaneBuild)).find? (·.proves profile desired)
    return found.map fun proof =>
      { desired with sourceBuild := some proof.sourceBuild, deployTags := proof.deployTags }

/-- `f"{profile.image.repository}:sha-{commit}"`. -/
def Profile.canonicalTag (profile : Profile) (commit : String) : String :=
  profile.imageRepository ++ ":sha-" ++ commit

/-- A tag with its repository. -/
def Profile.qualified (profile : Profile) (tag : String) : String :=
  if (profile.imageRepository ++ ":").toList.isPrefixOf tag.toList then tag
  else profile.imageRepository ++ ":" ++ tag

/-- The purpose of a build, by its pull request. -/
def purposeOf (pullRequestNumber : Option Int) : BuildPurpose :=
  if pullRequestNumber.getD 0 ≠ 0 then .preview else .release

/-- The id of the repository, as the provider has it. -/
def repositoryId (asker : Asker) (unverified : Refusal) : Except Failure String := do
  let identity ← P.getJson (.repository asker)
  if ¬ (identity.field "id").truthy then throw (.refused unverified)
  else return (identity.field "id").str

/-- `_proved_generic_build`. -/
def provedGenericBuild (asker : Asker) (desired : LaneBuild) (pullRequestNumber : Option Int)
    (recorded : Bool) : Except Failure LaneBuild :=
  if desired.sourceBuild.isSome then .ok desired
  else do
    let desired := { desired with pullRequestNumber }
    let canonicalTag := profile.canonicalTag desired.commit
    match ← recordedGenericBuild S profile desired with
    | some saved =>
      if desired.deployReference ≠ "" ∧ desired.deployReference ≠ canonicalTag ∧
          desired.deployReference ∉ saved.deployTags then
        throw (.refused .buildIdentityUnverified)
      else if pullRequestNumber.getD 0 ≠ 0 ∧ recorded = false then
        let pull ← rescued Failure.isRead .buildIdentityUnverified
          (P.getJson (.pull asker (pullRequestNumber.getD 0)))
        if ¬ ((pull.field "head").field "sha").isText desired.commit then
          throw (.refused .buildIdentityUnverified)
        else return saved
      else return saved
    | none =>
      let id ← rescued Failure.isRead .buildIdentityUnverified
        (repositoryId P asker .buildIdentityUnverified)
      let verified ← rescued Failure.isProvenance .buildIdentityUnverified
        (P.verifyGenericWebBuild asker
          { repositoryId := id
            commit := desired.commit
            purpose := purposeOf pullRequestNumber
            pullRequestNumber
            recordedImageReference := if recorded then desired.image else "" })
      let tags := verified.tags.map profile.qualified
      if verified.imageReference ≠ desired.image ∧ desired.image ≠ canonicalTag then
        throw (.refused .buildIdentityUnverified)
      else if desired.deployReference ≠ "" ∧ desired.deployReference ≠ canonicalTag ∧
          desired.deployReference ∉ tags then
        throw (.refused .buildIdentityUnverified)
      else return { desired with
        sourceBuild := some verified.sourceBuild
        image := verified.imageReference
        deployTags := tags }

/-- `_proved_odoo_build`, of a lane. -/
def provedOdooBuild (desired : LaneBuild) (context : String) : Except Failure LaneBuild := do
  let id ← rescued Failure.isRead .buildIdentityUnverified
    (repositoryId P .desired .buildIdentityUnverified)
  let manifest ← rescued Failure.isProvenance .buildIdentityUnverified
    (P.verifyBuildArtifact
      { repositoryId := id, commit := desired.commit, purpose := .release, pullRequestNumber := none
        context })
  if manifest.imageRepository ++ "@" ++ manifest.imageDigest ≠ desired.image then
    throw (.refused .buildIdentityUnverified)
  else return { desired with sourceBuild := manifest.sourceBuild }

/-! ### The order of artifacts -/

/-- The source build of a record: its own, or that of its manifest. -/
def recordedSource (build : LaneBuild) : Except Failure (Option ArtifactSourceBuild) :=
  match build.sourceBuild with
  | some source => .ok (some source)
  | none => (S.readArtifactManifest build.artifactId).map (·.sourceBuild)

/-- `source`, where a missing manifest is no source build. -/
def source (build : LaneBuild) : Except Failure (Option ArtifactSourceBuild) :=
  (optional (recordedSource S build)).map (·.join)

/-- Where the lane's own build has no source build on record, one that was kept with a deployment or
that the provider proves will do. -/
def provedBefore (current : LaneBuild) (before : Option ArtifactSourceBuild) :
    Except Failure (Option ArtifactSourceBuild) :=
  if before = none ∧ current.image ≠ "" ∧ profile.driverId ≠ "odoo" then
    match provedGenericBuild S P profile .current current current.pullRequestNumber true with
    | .ok proved => .ok proved.sourceBuild
    | .error error => if error = .refused .buildIdentityUnverified then .ok none else .error error
  else .ok before

/-- `(before.run_id, before.run_attempt) < (after.run_id, after.run_attempt)`. -/
def ArtifactSourceBuild.Before (before after : ArtifactSourceBuild) : Prop :=
  before.runId < after.runId ∨ before.runId = after.runId ∧ before.runAttempt < after.runAttempt

instance (before after : ArtifactSourceBuild) : Decidable (before.Before after) :=
  inferInstanceAs (Decidable (_ ∨ _ ∧ _))

/-- `value == n` of a JSON value: a truth value is a number in Python. -/
def isNumber (value : JsonValue) (n : Int) : Bool :=
  match value with
  | .number m => m = n
  | .bool b => (if b then 1 else 0) = n
  | _ => false

/-- `str(run.get("run_started_at", ""))`. -/
def runStartedAt : JsonValue → String
  | .object fields => ((Dict.get fields "run_started_at").map JsonValue.str).getD ""
  | _ => ""

/-- The run is the successful attempt that built the commit. -/
def IsRunOf (run : JsonValue) (after : ArtifactSourceBuild) (commit : String) : Prop :=
  (run.field "head_sha").isText commit = true ∧ isNumber (run.field "id") after.runId = true ∧
    isNumber (run.field "run_attempt") after.runAttempt = true ∧
    (run.field "conclusion").isText "success" = true

instance (run : JsonValue) (after : ArtifactSourceBuild) (commit : String) :
    Decidable (IsRunOf run after commit) := inferInstanceAs (Decidable (_ ∧ _ ∧ _ ∧ _))

/-- The source build of the artifact, which is proved where it is not on record. -/
def verifiedSource (current desired : LaneBuild) :
    Option ArtifactSourceBuild → Except Failure ArtifactSourceBuild
  | some after => .ok after
  | none => do
    let id ← repositoryId P .order .buildOrderUnverified
    let verified ← P.verifyGenericWebBuild .order
      { repositoryId := id
        commit := desired.commit
        purpose := if current.pullRequestNumber.isSome then .preview else .release
        pullRequestNumber := current.pullRequestNumber }
    if verified.imageReference ≠ desired.image then throw (.refused .buildOrderUnverified)
    else return verified.sourceBuild

/-- The artifact's build run started after the current build was first observed. -/
def startedLater (current desired : LaneBuild) (after : Option ArtifactSourceBuild) :
    Except Failure Unit := do
  let after ← verifiedSource P current desired after
  if after.repository ≠ profile.repository then throw (.refused .buildOrderUnverified)
  else
    let run ← P.getJson (.run after.runId after.runAttempt)
    if ¬ IsRunOf run after desired.commit then throw (.refused .buildOrderUnverified)
    else
      let started ← P.parseTimestamp (runStartedAt run)
      let observed ← P.parseTimestamp current.observedAt
      if started.aware = false ∨ observed.aware = false ∨ started.instant ≤ observed.instant then
        throw (.refused .buildOrderUnverified)
      else return ()

/-- The `except` clauses of `_require_newer_artifact`. -/
def orderRefusal (error : Failure) : Failure :=
  match error with
  | .value | .type => .refused .buildOrderUnverified
  | error =>
    if error.isReadOrClick then error.sourceReadRefusal .buildOrderUnverified else error

/-- `_require_newer_artifact`. -/
def requireNewerArtifact (current desired : LaneBuild) : Except Failure Unit := do
  let before ← source S current
  let after ← source S desired
  let before ← provedBefore S P profile current before
  match before, after with
  | some before, some after =>
    if before.repository ≠ after.repository ∨ after.repository ≠ profile.repository then
      throw (.refused .buildOrderUnverified)
    else if ¬ before.Before after then throw (.refused .olderArtifact)
    else return ()
  | _, _ =>
    if current.observedAt = "" then throw (.refused .buildOrderUnverified)
    else (startedLater P profile current desired after).mapError orderRefusal

/-! ### The order of builds -/

/-- The same commit, and the same artifact or image. -/
def SameBuild (current desired : LaneBuild) : Prop :=
  SameCommit current.commit desired.commit ∧
    (current.artifactId ≠ "" ∧ current.artifactId = desired.artifactId ∨
      current.image ≠ "" ∧ current.image = desired.image)

instance (current desired : LaneBuild) : Decidable (SameBuild current desired) :=
  inferInstanceAs (Decidable (_ ∧ (_ ∨ _)))

/-- The image of a product that is not Odoo is proved. -/
def provedImage (current desired : LaneBuild) : Except Failure LaneBuild :=
  if profile.driverId ≠ "odoo" ∧ desired.image ≠ "" then
    provedGenericBuild S P profile .desired desired current.pullRequestNumber false
  else .ok desired

/-- The reference by which a build is deployed has to be its canonical tag, or a proved one. -/
def provedReference (current desired : LaneBuild) : Except Failure LaneBuild :=
  if desired.deployReference ≠ "" ∧
      ¬ (desired.deployReference = profile.canonicalTag desired.commit ∧
        desired.commit.toList.length = 40 ∧ desired.commit.toList.all isHexDigit = true) then
    provedGenericBuild S P profile .reference { desired with sourceBuild := none }
      current.pullRequestNumber false
  else .ok desired

/-- An abbreviated commit is taken in full from the artifact's own manifest. -/
def manifestCommit (current : LaneBuild) : Except Failure LaneBuild :=
  if current.commit ≠ "" ∧ isFullSha current.commit = false then do
    match ← optional (S.readArtifactManifest current.artifactId) with
    | some manifest =>
      if Abbreviates current.commit manifest.sourceCommit then
        return { current with commit := manifest.sourceCommit }
      else return current
    | none => return current
  else .ok current

/-- An abbreviated commit is taken in full from the provider. -/
def resolvedCommit (current : LaneBuild) : Except Failure LaneBuild :=
  if isAbbreviatedSha current.commit then
    rescued Failure.isReadOrClick .sourceOrderUnverified do
      let resolved ← P.getJson (.commit current.commit)
      match resolved.field "sha" with
      | .string fullSha =>
        if isFullSha fullSha = true ∧ Abbreviates current.commit fullSha then
          return { current with commit := fullSha }
        else throw (.refused .sourceOrderUnverified)
      | _ => throw (.refused .sourceOrderUnverified)
  else .ok current

/-- The proof of a descendant's image. -/
def provedDescendant (current desired : LaneBuild) (manifest : Option Manifest) :
    Except Failure LaneBuild :=
  if profile.driverId ≠ "odoo" ∧ desired.image ≠ "" then provedImage S P profile current desired
  else if manifest = none ∧ desired.sourceBuild = none ∧ desired.image ≠ "" then
    provedOdooBuild P desired current.context
  else .ok desired

/-- What a descendant has to show: its artifact is newer where both source builds are known. -/
def descendant (current desired : LaneBuild) (manifest : Option Manifest) :
    Except Failure LaneBuild := do
  let desired ← provedDescendant S P profile current desired manifest
  let sources ← optional (do
    let before ← recordedSource S current
    let after ← recordedSource S desired
    return (before, after))
  match sources with
  | some (some before, some after) =>
    requireNewerArtifact S P profile { current with sourceBuild := some before }
      { desired with sourceBuild := some after }
    return desired
  | _ =>
    if profile.driverId ≠ "odoo" ∧ desired.image ≠ "" then
      requireNewerArtifact S P profile current desired
      return desired
    else return desired

/-- The provider's comparison of two commits decides. -/
def compared (current desired : LaneBuild) (manifest : Option Manifest) :
    Except Failure LaneBuild :=
  rescued Failure.isReadOrClick .sourceOrderUnverified do
    let comparison ← P.getJson (.compare current.commit desired.commit)
    if ¬ ((comparison.field "base_commit").field "sha").isText current.commit then
      throw (.refused .sourceOrderUnverified)
    else if (comparison.field "status").isText "behind" then throw (.refused .ancestorBuild)
    else if (comparison.field "status").isText "diverged" then
      -- a pull request that was rebased: its artifact has to be newer
      let desired ← provedImage S P profile current desired
      requireNewerArtifact S P profile current desired
      return desired
    else if ¬ (comparison.field "status").isText "ahead" ∨
        ¬ ((comparison.field "merge_base_commit").field "sha").isText current.commit then
      throw (.refused .sourceOrderUnverified)
    else descendant S P profile current desired manifest

/-- `require_forward_build`. -/
def requireForwardBuild (current desired : LaneBuild) : Except Failure LaneBuild := do
  let manifest ← optional (S.readArtifactManifest desired.artifactId)
  if manifest.any (·.sourceCommit ≠ desired.commit) then throw (.refused .buildIdentityUnverified)
  else
    let desired ← provedReference S P profile current desired
    let current ← manifestCommit S current
    if current.artifactId = "" ∧ current.commit = "" then return desired
    else if SameBuild current desired then
      if current.sourceBuild.isSome ∧ desired.sourceBuild.isSome ∧
          current.sourceBuild ≠ desired.sourceBuild then
        requireNewerArtifact S P profile current desired
        return desired
      else return desired
    else
      let current ← resolvedCommit P current
      if ¬ (isFullSha current.commit = true ∧ isFullSha desired.commit = true) then
        throw (.refused .sourceOrderUnverified)
      else if SameCommit current.commit desired.commit then
        let desired ← provedImage S P profile current desired
        requireNewerArtifact S P profile current desired
        return desired
      else compared S P profile current desired manifest

end Launchplane.LaneMovement
