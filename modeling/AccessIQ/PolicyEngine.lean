import AccessIQ.Auth
import AccessIQ.Delegation.Models

/-
  The business policy of access changes.

  A grant or revoke request is evaluated against rules in a
  fixed order; the first rule that applies decides.

  Key definitions include:
    * `PolicyDecision`
    * `evaluateGrantPolicy`
    * `evaluateRevokePolicy`
    * `RoleMayChange`

  Key theorems include:
    * `evaluateGrantPolicy_allowed_iff`
    * `evaluateRevokePolicy_allowed_iff`
    * `normalizeDelegationRole_value`
-/

------------------------------------------------------------
-- Policy Evaluation
------------------------------------------------------------

namespace AccessIQ

open Python

def adminPolicyRoles : List String :=
  ["security_admin", "iam_admin"]

def helpdeskPolicyRoles : List String :=
  ["helpdesk"]

def delegatedAccessPolicyRoles : List String :=
  ["APPLICATION_OWNER", "APPLICATION_ADMINISTRATOR",
    "HELPDESK_DELEGATE"]

def delegatedAdminPolicyRoles : List String :=
  ["APPLICATION_OWNER", "APPLICATION_ADMINISTRATOR"]

structure PolicyDecision where
  allowed : Bool
  reason : String
  deriving DecidableEq, Repr

variable [Platform]

def isAdministratorEntitlement
    (entitlement : Entitlement) :
    Bool :=
  Platform.lower entitlement.slug == "administrator"

def normalizeDelegationRole
    (delegationRole : Option String) :
    Option String :=
  delegationRole.map fun role =>
    replaceChar (Platform.upper (strip role)) '-' '_'

/- `role in roles` of an optional role. -/
def roleIn
    (role : Option String)
    (roles : List String) :
    Bool :=
  role.any fun r => roles.contains r

def evaluateGrantPolicy
    (requester targetUser : User)
    (entitlement : Entitlement)
    (application : Application)
    (delegationRole : Option String) :
    PolicyDecision :=
  let requesterRole :=
    normalizeOperatorRole requester.operatorRole
  let applicationSlug := Platform.lower application.slug
  let normalizedDelegationRole :=
    normalizeDelegationRole delegationRole
  if targetUser.active = false then
    ⟨false, "Target user is inactive"⟩
  else if requester.active = false then
    ⟨false, "Requester is inactive"⟩
  else if normalizedDelegationRole = none ∧
      requesterRole = "auditor" then
    ⟨false, "Auditors cannot grant access"⟩
  else if normalizedDelegationRole = none ∧
      requesterRole = "employee" then
    ⟨false, "Employees cannot grant access"⟩
  else if applicationSlug = "finance-portal" ∧
      Platform.lower targetUser.department ≠
        "finance" then
    ⟨false,
      "Finance Portal access is restricted to Finance " ++
        "employees"⟩
  else if isAdministratorEntitlement entitlement = true ∧
      normalizedDelegationRole ≠ none ∧
      roleIn normalizedDelegationRole
        delegatedAdminPolicyRoles = false then
    ⟨false,
      "Delegation does not permit administrator access " ++
        "changes"⟩
  else if isAdministratorEntitlement entitlement = true ∧
      normalizedDelegationRole = none ∧
      requesterRole ∉ adminPolicyRoles then
    ⟨false,
      "Requester lacks permission to grant " ++
        "administrator access"⟩
  else if roleIn normalizedDelegationRole
      delegatedAccessPolicyRoles = true then
    ⟨true, "Delegated access request approved"⟩
  else if requesterRole ∈
      adminPolicyRoles ++ helpdeskPolicyRoles then
    ⟨true, "Access request approved"⟩
  else
    ⟨false, "Requester role is not allowed to grant access"⟩

/- The target user is not considered. -/
def evaluateRevokePolicy
    (requester _targetUser : User)
    (entitlement : Entitlement)
    (_application : Application)
    (delegationRole : Option String) :
    PolicyDecision :=
  let requesterRole :=
    normalizeOperatorRole requester.operatorRole
  let normalizedDelegationRole :=
    normalizeDelegationRole delegationRole
  if requester.active = false then
    ⟨false, "Requester is inactive"⟩
  else if normalizedDelegationRole = none ∧
      requesterRole = "auditor" then
    ⟨false, "Auditors cannot revoke access"⟩
  else if normalizedDelegationRole = none ∧
      requesterRole = "employee" then
    ⟨false, "Employees cannot revoke access"⟩
  else if isAdministratorEntitlement entitlement = true ∧
      normalizedDelegationRole ≠ none ∧
      roleIn normalizedDelegationRole
        delegatedAdminPolicyRoles = false then
    ⟨false,
      "Delegation does not permit administrator access " ++
        "changes"⟩
  else if isAdministratorEntitlement entitlement = true ∧
      normalizedDelegationRole = none ∧
      requesterRole ∉ adminPolicyRoles then
    ⟨false,
      "Requester lacks permission to revoke " ++
        "administrator access"⟩
  else if roleIn normalizedDelegationRole
      delegatedAccessPolicyRoles = true then
    ⟨true, "Delegated access request approved"⟩
  else if requesterRole ∈
      adminPolicyRoles ++ helpdeskPolicyRoles then
    ⟨true, "Access request approved"⟩
  else
    ⟨false,
      "Requester role is not allowed to revoke access"⟩

end AccessIQ

------------------------------------------------------------
-- When The Policy Allows
------------------------------------------------------------

namespace AccessIQ

open Python Delegation

/- A rule that denies lets pass what it does not match. -/
theorem allowed_deny_iff
    (c : Prop)
    [Decidable c]
    (reason : String)
    (rest : PolicyDecision) :
    (if c then ⟨false, reason⟩ else rest).allowed = true ↔
      ¬ c ∧ rest.allowed = true := by
  split
  · rename_i hc
    simp [hc]
  · rename_i hc
    simp [hc]

/- A rule that allows decides for what it matches. -/
theorem allowed_allow_iff
    (c : Prop)
    [Decidable c]
    (reason : String)
    (rest : PolicyDecision) :
    (if c then ⟨true, reason⟩ else rest).allowed = true ↔
      c ∨ rest.allowed = true := by
  split
  · rename_i hc
    simp [hc]
  · rename_i hc
    simp [hc]

/-
  What both policies ask of the requester's roles: of the
  operator role where the request is not delegated, and else
  of the delegation role, with a helpdesk or administrative
  operator role to fall back on.
-/
def RoleMayChange
    (requesterRole : String)
    (administrator : Prop) :
    Option String → Prop
  | none =>
      (administrator → requesterRole ∈ adminPolicyRoles) ∧
        requesterRole ∈
          adminPolicyRoles ++ helpdeskPolicyRoles
  | some role =>
      (administrator → role ∈ delegatedAdminPolicyRoles) ∧
        (role ∈ delegatedAccessPolicyRoles ∨
          requesterRole ∈
            adminPolicyRoles ++ helpdeskPolicyRoles)

theorem ne_of_mem_policyRoles
    {role : String}
    (hRole : role ∈ adminPolicyRoles ++ helpdeskPolicyRoles) :
    role ≠ "auditor" ∧ role ≠ "employee" := by
  simp only [adminPolicyRoles, helpdeskPolicyRoles,
    List.cons_append, List.nil_append, List.mem_cons,
    List.not_mem_nil, or_false] at hRole
  rcases hRole with rfl | rfl | rfl <;> decide

/-
  The rules about roles, which both policies check in the
  same order, come down to `RoleMayChange`.
-/
theorem roleMayChange_iff
    (role : String)
    (administrator : Prop)
    (delegated : Option String) :
    (¬ (delegated = none ∧ role = "auditor") ∧
      ¬ (delegated = none ∧ role = "employee") ∧
      ¬ (administrator ∧ delegated ≠ none ∧
        roleIn delegated delegatedAdminPolicyRoles =
          false) ∧
      ¬ (administrator ∧ delegated = none ∧
        role ∉ adminPolicyRoles) ∧
      (roleIn delegated delegatedAccessPolicyRoles = true ∨
        role ∈ adminPolicyRoles ++ helpdeskPolicyRoles)) ↔
      RoleMayChange role administrator delegated := by
  cases delegated with
  | none =>
      have hOther := @ne_of_mem_policyRoles role
      simp only [RoleMayChange, roleIn, Option.any_none]
      tauto
  | some delegatedRole =>
      simp only [RoleMayChange, roleIn, Option.any_some,
        List.contains_eq_mem, decide_eq_true_eq,
        decide_eq_false_iff_not, reduceCtorEq]
      tauto

variable [Platform]

theorem evaluateGrantPolicy_allowed_iff
    (requester targetUser : User)
    (entitlement : Entitlement)
    (application : Application)
    (delegationRole : Option String) :
    (evaluateGrantPolicy requester targetUser entitlement
        application delegationRole).allowed = true ↔
      targetUser.active = true ∧
        requester.active = true ∧
        (Platform.lower application.slug =
            "finance-portal" →
          Platform.lower targetUser.department =
            "finance") ∧
        RoleMayChange
          (normalizeOperatorRole requester.operatorRole)
          (isAdministratorEntitlement entitlement = true)
          (normalizeDelegationRole delegationRole) := by
  rw [← roleMayChange_iff]
  simp only [evaluateGrantPolicy, allowed_deny_iff,
    allowed_allow_iff, Bool.not_eq_false,
    Bool.false_eq_true, or_false]
  constructor
  · rintro ⟨hTarget, hRequester, hAuditor, hEmployee,
      hFinance, hRest⟩
    refine ⟨hTarget, hRequester, fun hSlug => ?_,
      hAuditor, hEmployee, hRest⟩
    by_contra hDepartment
    exact hFinance ⟨hSlug, hDepartment⟩
  · rintro ⟨hTarget, hRequester, hFinance, hAuditor,
      hEmployee, hRest⟩
    refine ⟨hTarget, hRequester, hAuditor, hEmployee, ?_,
      hRest⟩
    rintro ⟨hSlug, hDepartment⟩
    exact hDepartment (hFinance hSlug)

theorem evaluateRevokePolicy_allowed_iff
    (requester targetUser : User)
    (entitlement : Entitlement)
    (application : Application)
    (delegationRole : Option String) :
    (evaluateRevokePolicy requester targetUser entitlement
        application delegationRole).allowed = true ↔
      requester.active = true ∧
        RoleMayChange
          (normalizeOperatorRole requester.operatorRole)
          (isAdministratorEntitlement entitlement = true)
          (normalizeDelegationRole delegationRole) := by
  rw [← roleMayChange_iff]
  simp only [evaluateRevokePolicy, allowed_deny_iff,
    allowed_allow_iff, Bool.not_eq_false,
    Bool.false_eq_true, or_false]

/- The value of a delegation role is in normal form. -/
theorem normalizeDelegationRole_value
    (role : DelegationRole) :
    normalizeDelegationRole (some role.value) =
      some role.value := by
  have hAscii : isAscii (strip role.value) = true := by
    cases role <;> decide
  simp only [normalizeDelegationRole, Option.map_some,
    Platform.upper_of_isAscii _ hAscii]
  cases role <;> decide

omit [Platform] in
theorem value_mem_delegatedAccessPolicyRoles
    (role : DelegationRole) :
    role.value ∈ delegatedAccessPolicyRoles ↔
      role = .applicationOwner ∨
        role = .applicationAdministrator ∨
        role = .helpdeskDelegate := by
  cases role <;> decide

omit [Platform] in
theorem value_mem_delegatedAdminPolicyRoles
    (role : DelegationRole) :
    role.value ∈ delegatedAdminPolicyRoles ↔
      role = .applicationOwner ∨
        role = .applicationAdministrator := by
  cases role <;> decide

end AccessIQ
