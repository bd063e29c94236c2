import Launchplane.Authz.Policy

/-!
# Launchplane.Authz.Records

**The records of the policy store.** Reading a record validates it, and a valid
record is validated to itself.
-/

namespace Launchplane.Authz

/-- What stands for text and digests: `str.isdecimal` of one character, and the digest of a
policy. -/
structure Digests where
  isDecimal : Char → Bool
  /-- `authz_policy_sha256`. -/
  policySha256 : LaunchplaneAuthzPolicy → String

/-- `AuthzPolicyStatus`. -/
inductive AuthzPolicyStatus
  | active | superseded
  deriving Repr, DecidableEq

/-- `LaunchplaneAuthzPolicyRecord`. -/
structure LaunchplaneAuthzPolicyRecord where
  recordId : String
  revision : Nat := 1
  status : AuthzPolicyStatus := .active
  source : String
  updatedAt : String
  policySha256 : String := ""
  policy : LaunchplaneAuthzPolicy
  deriving Repr, DecidableEq

namespace LaunchplaneAuthzPolicyRecord

variable {D : Digests} {record record' : LaunchplaneAuthzPolicyRecord}

/-- `LaunchplaneAuthzPolicyRecord.model_validate`. -/
def validate (D : Digests) (record : LaunchplaneAuthzPolicyRecord) :
    Except String LaunchplaneAuthzPolicyRecord := do
  let policy ← record.policy.validate D.isDecimal
  let policySha256 :=
    if record.policySha256 = "" then D.policySha256 policy else record.policySha256
  if record.revision = 0 then .error "revision should be greater than or equal to 1"
  else if pyStrip record.recordId = "" then .error "authz policy record requires record_id"
  else if pyStrip record.source = "" then .error "authz policy record requires source"
  else if pyStrip record.updatedAt = "" then .error "authz policy record requires updated_at"
  else if policySha256 ≠ D.policySha256 policy then
    .error "authz policy record policy_sha256 does not match policy payload"
  else pure { record with policy, policySha256 }

/-- A record as it is after validation. -/
structure Valid (D : Digests) (record : LaunchplaneAuthzPolicyRecord) : Prop where
  policy : record.policy.Valid D.isDecimal
  revision : record.revision ≠ 0
  recordId : pyStrip record.recordId ≠ ""
  source : pyStrip record.source ≠ ""
  updatedAt : pyStrip record.updatedAt ≠ ""
  policySha256 : record.policySha256 = D.policySha256 record.policy

theorem valid_of_validate (h : record.validate D = .ok record') : record'.Valid D := by
  unfold validate at h
  obtain ⟨policy, hpolicy, h⟩ := bind_eq_ok.mp h
  have hpolicy' := LaunchplaneAuthzPolicy.valid_of_validate hpolicy
  by_cases hempty : record.policySha256 = ""
  · simp only [if_pos hempty] at h
    split_ifs at h with hrevision hid hsource hupdated hsha
    cases h
    exact ⟨hpolicy', hrevision, hid, hsource, hupdated, rfl⟩
  · simp only [if_neg hempty] at h
    split_ifs at h with hrevision hid hsource hupdated hsha
    cases h
    exact ⟨hpolicy', hrevision, hid, hsource, hupdated, not_not.mp hsha⟩

/-- A valid record is validated to itself. -/
theorem Valid.validate (h : record.Valid D) : record.validate D = .ok record := by
  have hsha : (if record.policySha256 = "" then D.policySha256 record.policy
      else record.policySha256) = record.policySha256 := by
    split_ifs
    · exact h.policySha256.symm
    · rfl
  have hpolicy : record.policy.validate D.isDecimal = .ok record.policy := h.policy
  unfold LaunchplaneAuthzPolicyRecord.validate
  simp only [hpolicy, bind, Except.bind, hsha]
  rw [if_neg h.revision, if_neg h.recordId, if_neg h.source, if_neg h.updatedAt,
    if_neg (not_not.mpr h.policySha256)]
  rfl

end LaunchplaneAuthzPolicyRecord

end Launchplane.Authz
