import Launchplane.Text

/-!
# Launchplane.MergeTrain.Errors

**The exceptions of the merge train.** Handlers tell them apart by class, and
the admission ledger reads the provider's status code from the ones that carry
it, so both are part of the exception.
-/

namespace Launchplane.MergeTrain

/-- The exception classes the merge train raises and handles. -/
inductive TrainError
  /-- `ValueError`, which includes a contract's `ValidationError`. -/
  | valueError (message : String)
  /-- `MergeTrainGitHubError`. -/
  | gitHub (message : String) (statusCode : Option Int)
  /-- `MergeTrainGitHubStaleHeadError`, a subclass of the former. -/
  | gitHubStaleHead (message : String) (statusCode : Option Int)
  /-- `MergeAdmissionDeniedError`. -/
  | admissionDenied (message reasonCode : String)
  /-- `MergeAdmissionReconciliationRequiredError`. -/
  | reconciliationRequired (message : String)
  /-- `MergeAdmissionFenceRejectedError`. -/
  | fenceRejected (message : String)
  /-- `OrdinaryAgentSessionAdmissionDenied`. -/
  | ordinarySessionDenied (code : String)
  /-- Any other exception: a lost lease, an unavailable store, a transport that broke. -/
  | other (message : String)
  deriving Repr, DecidableEq

end Launchplane.MergeTrain
