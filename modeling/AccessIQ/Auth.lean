import AccessIQ.Runtime

/-
  Operator roles and the checks in front of every endpoint.

  The token has been decoded before a handler runs; what is
  left of authentication is to load the user it names, and
  of API RBAC to compare that user's normalized operator
  role with the roles the endpoint admits.

  Key definitions include:
    * `normalizeOperatorRole`
    * `getCurrentUser`
    * `requireRoles`
    * `authenticated`

  Key theorems include:
    * `wp_authenticated`
-/

------------------------------------------------------------
-- Operator Roles
------------------------------------------------------------

namespace AccessIQ

open Foundations Python

def canonicalOperatorRoles : List String :=
  ["security_admin", "iam_admin", "auditor", "helpdesk",
    "manager", "employee"]

def legacyOperatorRoleAliases : List (String × String) :=
  [("administrator", "security_admin"),
    ("help_desk", "helpdesk")]

variable [Platform]

def normalizeOperatorRole
    (role : String) :
    String :=
  let normalizedRole :=
    replaceChar (Platform.lower (strip role)) '-' '_'
  (legacyOperatorRoleAliases.lookup normalizedRole).getD
    normalizedRole

/- The role of an operator, unless it is not supported. -/
def validateOperatorRole
    (role : String) :
    Option String :=
  if normalizeOperatorRole role ∈ canonicalOperatorRoles then
    some (normalizeOperatorRole role)
  else
    none

end AccessIQ

------------------------------------------------------------
-- Authentication And RBAC
------------------------------------------------------------

namespace AccessIQ

open Foundations Python

/- Load the user the request's token names. -/
def getCurrentUser
    (ctx : RequestContext) :
    Handler User := do
  let s ← Program.view
  match s.users.get? ctx.subject with
  | some user => return user
  | none => raiseHttp 401 "Authentication required"

variable [Platform]

/- Whether API RBAC admits a user to an endpoint. -/
def hasRole
    (roles : List String)
    (user : User) :
    Bool :=
  match validateOperatorRole user.operatorRole with
  | some currentRole => roles.contains currentRole
  | none => false

/- Only a user in one of the roles may pass. -/
def requireRoles
    (roles : List String)
    (currentUser : User) :
    Handler User :=
  if hasRole roles currentUser then
    return currentUser
  else
    raiseHttp 403 "Insufficient privileges"

/- `Depends(require_roles(...))`. -/
def authenticated
    (ctx : RequestContext)
    (roles : List String) :
    Handler User := do
  let currentUser ← getCurrentUser ctx
  requireRoles roles currentUser

/- The token names a user of the database in a role. -/
def Store.Admits
    (s : Store)
    (ctx : RequestContext)
    (roles : List String)
    (user : User) : Prop :=
  s.users.get? ctx.subject = some user ∧
    hasRole roles user = true

theorem Store.Admits.resolves
    {s : Store}
    {ctx : RequestContext}
    {roles : List String}
    {user : User}
    (hAdmits : s.Admits ctx roles user) :
    s.resolves s.users user.id = true := by
  have hId : user.id = ctx.subject :=
    Table.id_of_get? hAdmits.1
  rw [hId]
  exact Store.resolves_of_get? hAdmits.1

end AccessIQ

------------------------------------------------------------
-- Rules
------------------------------------------------------------

namespace AccessIQ

open Foundations Python

variable {w : World Question Reply}
variable {c s : Store}
variable {p : List DomainEvent}

theorem wp_getCurrentUser
    (ctx : RequestContext)
    (post : Post Store DomainEvent PyException User) :
    (getCurrentUser ctx).wp w post ⟨c, s, false, p⟩ ↔
      (s.users.get? ctx.subject = none →
        post
          (.error (.http ⟨401, "Authentication required"⟩))
          ⟨c, s, false, p⟩) ∧
      (∀ user, s.users.get? ctx.subject = some user →
        post (.ok user) ⟨c, s, false, p⟩) := by
  cases hGet : s.users.get? ctx.subject <;>
    simp [getCurrentUser, raiseHttp, hGet]

variable [Platform]

theorem wp_authenticated
    (ctx : RequestContext)
    (roles : List String)
    (post : Post Store DomainEvent PyException User) :
    (authenticated ctx roles).wp w post ⟨c, s, false, p⟩ ↔
      (s.users.get? ctx.subject = none →
        post
          (.error (.http ⟨401, "Authentication required"⟩))
          ⟨c, s, false, p⟩) ∧
      (∀ user, s.users.get? ctx.subject = some user →
        hasRole roles user = false →
        post
          (.error (.http ⟨403, "Insufficient privileges"⟩))
          ⟨c, s, false, p⟩) ∧
      (∀ user, s.Admits ctx roles user →
        post (.ok user) ⟨c, s, false, p⟩) := by
  simp only [authenticated, Program.wp_bind,
    wp_getCurrentUser, Program.bindPost_error,
    Program.bindPost_ok, Store.Admits]
  refine and_congr_right fun _ => ?_
  rw [← forall_and]
  refine forall_congr' fun user => ?_
  rcases hRole : hasRole roles user with _ | _ <;>
    simp [requireRoles, raiseHttp, hRole]

end AccessIQ
