import AccessIQ.Scim.Requests

/-
  User creation, and runs that mix it with SCIM mutations.

  `POST /users` stores a user under an email address that is
  lower case and not in use, with the department the request
  names.

  Key definitions include:
    * `UserCreate`
    * `registerUser`
    * `DirectoryRequest`
    * `DirectoryEffect`

  Key theorems include:
    * `directoryEffect`
-/

------------------------------------------------------------
-- User Creation
------------------------------------------------------------

namespace AccessIQ

open Foundations Python

/- The payload of `POST /users`, after its validation. -/
structure UserCreate where
  name : String
  email : String
  department : String
  active : Bool := true
  operatorRole : String := "employee"
  deriving DecidableEq, Repr

/- The first user with an email address. -/
def Store.findUserByEmail
    (s : Store)
    (email : String) :
    Option User :=
  s.users.rows.find? (·.email == email)

variable [Platform]

/- The row `create_user` adds, before it has a key. -/
def newRegisteredUser
    (userData : UserCreate) :
    User where
  id := 0
  name := userData.name
  email := Platform.lower userData.email
  department := userData.department
  active := userData.active
  operatorRole := userData.operatorRole

/- `create_user` of the user routes. -/
def registerUser
    (userData : UserCreate) :
    Handler User := do
  let s ← Program.view
  match s.findUserByEmail (Platform.lower userData.email) with
  | some _ =>
      raiseHttp 409 "A user with this email already exists"
  | none => do
      let user := newRegisteredUser userData
      let id ← Program.flush (·.insertUser user)
      Program.commit
      let s ← Program.view
      Program.getOrRaise (s.users.get? id)
        (.runtimeError "Could not refresh instance")

/- The row of a registered user. -/
def registeredUser
    (s : Store)
    (userData : UserCreate) :
    User :=
  { newRegisteredUser userData with
    id := s.users.freshId s.dialect.keyPolicy }

end AccessIQ

------------------------------------------------------------
-- Directory Requests
------------------------------------------------------------

namespace AccessIQ

open Foundations Python Scim

/- A request that creates or changes users and groups. -/
inductive DirectoryRequest where
  | register (userData : UserCreate)
  | scim (request : ScimRequest)
  deriving Repr

variable [Platform]

/- The store after a request, and what it published. -/
def serveDirectory
    (s : Store)
    (request : DirectoryRequest × Environment) :
    Store × List DomainEvent :=
  match request.1 with
  | .register userData =>
      (((registerUser userData).serve request.2 s).committed,
        ((registerUser userData).serve request.2 s).published)
  | .scim scimRequest =>
      (scimRequest.committed request.2 s,
        scimRequest.published request.2 s)

/- What a request does to the store, and what it publishes. -/
inductive DirectoryEffect
    (s : Store) :
    List DomainEvent → Store → Prop
  | registered
      (userData : UserCreate)
      (users' : Table User)
      (hFree :
        s.findUserByEmail (Platform.lower userData.email) =
          none)
      (hUsers :
        s.users.Stores users' (registeredUser s userData)) :
      DirectoryEffect s [] { s with users := users' }
  | scim
      (events : List DomainEvent)
      (s' : Store)
      (hEffect : ScimEffect s events s') :
      DirectoryEffect s events s'

theorem registerEffect
    (env : Environment)
    (s : Store)
    (userData : UserCreate) :
    DirectoryEffect s
      ((registerUser userData).serve env s).published
      ((registerUser userData).serve env s).committed := by
  have hWp :
      (registerUser userData).wp env.world
        (fun _ m =>
          DirectoryEffect s m.published m.committed)
        (Moment.start s) := by
    unfold registerUser
    rw [Program.wp_bind, Moment.start, Program.wp_view,
      Program.bindPost_ok]
    cases hFind :
        s.findUserByEmail (Platform.lower userData.email) with
    | some found => exact .scim _ _ .none
    | none =>
        simp only [Program.wp_bind, Program.wp_flush]
        refine ⟨fun _ => .scim _ _ .none, ?_,
          fun _ _ => .scim _ _ .none⟩
        intro s₁ id hInsert
        rcases Store.insertInto_eq_ok_iff.mp hInsert with
          ⟨-, hFits, rfl, rfl⟩
        have hUsers :=
          Table.stores_insert s.dialect.keyPolicy s.users
            hFits
        rw [Program.bindPost_ok, Program.wp_bind,
          Program.wp_commit]
        refine ⟨fun _ => .scim _ _ .none, ?_⟩
        rw [Program.bindPost_ok, Program.wp_bind,
          Program.wp_view, Program.bindPost_ok,
          Program.wp_getOrRaise]
        constructor
        · intro _
          exact .registered userData _ hFind hUsers
        · intro _ _
          exact .registered userData _ hFind hUsers
  exact
    @Program.serve_of_wp _ _ _ _ _ _ _ _ env.conforms_world _
      _ (fun _ committed published =>
        DirectoryEffect s published committed)
      hWp

/- Every request has one of the effects. -/
theorem directoryEffect
    (s : Store)
    (request : DirectoryRequest × Environment) :
    DirectoryEffect s (serveDirectory s request).2
      (serveDirectory s request).1 := by
  rcases request with ⟨userData | scimRequest, env⟩
  · exact registerEffect env s userData
  · exact .scim _ _ (scimEffect env s scimRequest)

end AccessIQ
