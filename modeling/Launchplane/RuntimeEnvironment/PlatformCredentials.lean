import Launchplane.Secrets.Store

/-!
# Launchplane.RuntimeEnvironment.PlatformCredentials

**Platform credentials stay out of application environments.** A value is a
platform credential by the name of its key, or because it holds a GitHub token.
-/

namespace Launchplane.RuntimeEnvironment

open Secrets (Chars)

/-- `PLATFORM_CREDENTIAL_KEYS`. -/
def platformCredentialKeys : List Chars :=
  ["GITHUB_TOKEN".toList, "GH_TOKEN".toList, "DOKPLOY_TOKEN".toList, "DOKPLOY_HOST".toList,
    "LAUNCHPLANE_SERVICE_TOKEN".toList, "LAUNCHPLANE_LOCAL_OPERATOR_TOKEN".toList,
    "LAUNCHPLANE_LOCAL_ADMIN_TOKEN".toList, "LAUNCHPLANE_TERMINAL_AGENT_READ_TOKEN".toList,
    "LAUNCHPLANE_EVERY_CODE_WORKER_TOKEN".toList, "LAUNCHPLANE_EVERY_CODE_GITHUB_TOKEN".toList,
    "LAUNCHPLANE_PUBLIC_INGRESS_GITHUB_TOKEN".toList, "LAUNCHPLANE_WORK_GRAPH_GH_TOKEN".toList,
    "LAUNCHPLANE_EMERGENCY_DOKPLOY_HOST".toList, "LAUNCHPLANE_EMERGENCY_DOKPLOY_TOKEN".toList,
    "LAUNCHPLANE_MASTER_ENCRYPTION_KEY".toList, "LAUNCHPLANE_SECRET_KEYS_JSON".toList]

/-- `[A-Za-z0-9]`. -/
def isAsciiAlnum (c : Char) : Bool :=
  ('a' ≤ c && c ≤ 'z') || ('A' ≤ c && c ≤ 'Z') || ('0' ≤ c && c ≤ '9')

/-- `[A-Za-z0-9_]`. -/
def isTokenChar (c : Char) : Bool := isAsciiAlnum c || c == '_'

/-- Whether a GitHub token begins a text: `gh[pousr]_` with 30 characters, or `github_pat_` with
40. -/
def beginsGithubToken (text : Chars) : Bool :=
  (match text with
    | 'g' :: 'h' :: kind :: '_' :: body =>
      kind ∈ ['p', 'o', 'u', 's', 'r'] && 30 ≤ (body.takeWhile isAsciiAlnum).length
    | _ => false) ||
  ("github_pat_".toList.isPrefixOf text &&
    40 ≤ ((text.drop "github_pat_".toList.length).takeWhile isTokenChar).length)

/-- `GITHUB_TOKEN_VALUE_PATTERN.search`, given the character before the text. -/
def holdsGithubToken (before : Option Char) (text : Chars) : Bool :=
  (!before.any isTokenChar && beginsGithubToken text) ||
    match text with
    | [] => false
    | c :: rest => holdsGithubToken (some c) rest

/-- `PlatformCredentialReason`. -/
inductive PlatformCredentialReason
  | platformCredentialKey | githubTokenValue
  deriving Repr, DecidableEq

/-- `PlatformCredentialFinding`. -/
structure PlatformCredentialFinding where
  key : Chars
  reason : PlatformCredentialReason
  source : Chars := []
  deriving Repr, DecidableEq

/-- `platform_credential_reason`. -/
def platformCredentialReason (key value : Chars) : Option PlatformCredentialReason :=
  if stripChars value = [] then none
  else if stripChars key ∈ platformCredentialKeys then some .platformCredentialKey
  else if holdsGithubToken none value then some .githubTokenValue
  else none

/-- `find_platform_credentials`. -/
def findPlatformCredentials (values : Dict Chars Chars) : List PlatformCredentialFinding :=
  (sortedBy id values.keys).filterMap fun key =>
    (platformCredentialReason key ((values.get key).getD [])).map fun reason => { key, reason }

end Launchplane.RuntimeEnvironment
