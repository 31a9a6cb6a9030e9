import AccessIQ.Models

/-
  Delegated administration assignments.

  Key definitions include:
    * `DelegationRole`
    * `DelegationScopeType`
    * `DelegationAssignment`
-/

------------------------------------------------------------
-- Enumerations
------------------------------------------------------------

namespace AccessIQ

namespace Delegation

inductive DelegationRole where
  | applicationOwner
  | applicationAdministrator
  | groupOwner
  | groupAdministrator
  | accessReviewer
  | helpdeskDelegate
  deriving DecidableEq, Repr

def DelegationRole.value : DelegationRole → String
  | .applicationOwner => "APPLICATION_OWNER"
  | .applicationAdministrator =>
      "APPLICATION_ADMINISTRATOR"
  | .groupOwner => "GROUP_OWNER"
  | .groupAdministrator => "GROUP_ADMINISTRATOR"
  | .accessReviewer => "ACCESS_REVIEWER"
  | .helpdeskDelegate => "HELPDESK_DELEGATE"

inductive DelegationScopeType where
  | application
  | group
  | entitlement
  deriving DecidableEq, Repr

def DelegationScopeType.value :
    DelegationScopeType → String
  | .application => "APPLICATION"
  | .group => "GROUP"
  | .entitlement => "ENTITLEMENT"

inductive DelegatedAction where
  | grantAccess
  | revokeAccess
  deriving DecidableEq, Repr

end Delegation

end AccessIQ

------------------------------------------------------------
-- Assignments
------------------------------------------------------------

namespace AccessIQ

namespace Delegation

open Foundations

/-
  `expiresAt` is the column as the database stores it, to be
  compared with a bound time.
-/
structure DelegationAssignment where
  id : Int
  delegateUserId : Int
  scopeType : DelegationScopeType
  scopeId : Int
  delegationRole : DelegationRole
  createdBy : Int
  createdAt : Timestamp
  expiresAt : Option Int
  active : Bool := true
  deriving DecidableEq, Repr

/- The unique constraint includes the active flag. -/
instance : Row DelegationAssignment where
  id a := a.id
  withId a n := { a with id := n }
  conflicts a b :=
    decide
      (a.delegateUserId = b.delegateUserId ∧
        a.scopeType = b.scopeType ∧
        a.scopeId = b.scopeId ∧
        a.delegationRole = b.delegationRole ∧
        a.active = b.active)
  id_withId _ _ := rfl
  withId_id _ := rfl
  conflicts_comm _ _ := by simp [eq_comm]
  conflicts_withId _ _ _ := rfl

end Delegation

end AccessIQ
