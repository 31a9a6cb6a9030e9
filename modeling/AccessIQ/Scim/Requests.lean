import AccessIQ.Scim.GroupRules
import AccessIQ.Scim.UserRules

/-
  Runs of SCIM mutations.

  A request changes one user or one group and publishes the
  events of that change, or it leaves at most a denial and
  publishes nothing.

  Key definitions include:
    * `ScimRequest`
    * `ScimRequest.committed`
    * `ScimRequest.published`
    * `ScimEffect`

  Key theorems include:
    * `scimEffect`
-/

------------------------------------------------------------
-- Requests
------------------------------------------------------------

namespace AccessIQ

namespace Scim

open Foundations Python

/- A mutation of the SCIM routes. -/
inductive ScimRequest where
  | user (request : UserRequest)
  | group (request : GroupRequest)
  deriving Repr

variable [Platform]

/- The store after a request was served. -/
def ScimRequest.committed
    (env : Environment)
    (s : Store) :
    ScimRequest → Store
  | .user request => (request.serve.serve env s).committed
  | .group request => (request.serve.serve env s).committed

/- The events a request published. -/
def ScimRequest.published
    (env : Environment)
    (s : Store) :
    ScimRequest → List DomainEvent
  | .user request => (request.serve.serve env s).published
  | .group request => (request.serve.serve env s).published

end Scim

end AccessIQ

------------------------------------------------------------
-- Effects
------------------------------------------------------------

namespace AccessIQ

namespace Scim

open Foundations Python

variable [Platform]

/- What a request does to the store, and what it publishes. -/
inductive ScimEffect
    (s : Store) :
    List DomainEvent → Store → Prop
  | none : ScimEffect s [] s
  | denied
      (event : AuditEvent)
      (hDenied : event.result = .denied) :
      ScimEffect s [] (s.withAuditEvent event)
  | user
      (ctx : RequestContext)
      (userId : Int)
      (events : List DomainEvent)
      (s' : Store)
      (hMutated : UserMutated ctx s userId events s') :
      ScimEffect s events s'
  | group
      (ctx : RequestContext)
      (groupId : Int)
      (events : List DomainEvent)
      (s' : Store)
      (hMutated : GroupMutated ctx s groupId events s') :
      ScimEffect s events s'

variable {s : Store}
variable {env : Environment}

theorem ScimEffect.of_refuses
    {m : Moment Store DomainEvent}
    (hRefuses : Refuses s m) :
    ScimEffect s m.published m.committed := by
  rcases hRefuses with
    ⟨hPublished, hSame | ⟨event, hDenied, hCommitted⟩⟩
  · rw [hPublished, hSame]
    exact .none
  · rw [hPublished, hCommitted]
    exact .denied event hDenied

/- The caller is refused, or the handler ends the route. -/
theorem serve_route
    {α : Type}
    {ctx : RequestContext}
    {roles : List String}
    {handler : User → Handler α}
    (post :
      Except PyException α → Store → List DomainEvent → Prop)
    (hRefused : ∀ e, post (.error e) s [])
    (hHandler :
      ∀ user,
        (handler user).wp env.world
          (fun r m => post r m.committed m.published)
          ⟨s, s, false, []⟩) :
    let served :=
      Program.serve env
        (do
          let user ← authenticated ctx roles
          handler user)
        s
    post served.result served.committed
      served.published := by
  intro served
  apply Program.serve_of_wp env.conforms_world
  rw [Program.wp_bind]
  simp only [Moment.start, wp_authenticated,
    Program.bindPost_error, Program.bindPost_ok]
  refine ⟨fun _ => hRefused _, fun _ _ _ => hRefused _, ?_⟩
  intro user _
  exact hHandler user

theorem userEffect
    (request : UserRequest) :
    ScimEffect s (request.serve.serve env s).published
      (request.serve.serve env s).committed := by
  apply serve_route fun _ committed published =>
    ScimEffect s published committed
  · intro e
    exact .none
  · intro user
    apply Program.wp_mono wp_userHandler
    intro r m hServed
    cases hServed with
    | refused e m hRefuses => exact .of_refuses hRefuses
    | mutated r userId events s' hMutated hReading =>
        exact .user _ userId events s' hMutated

theorem groupEffect
    (request : GroupRequest) :
    ScimEffect s (request.serve.serve env s).published
      (request.serve.serve env s).committed := by
  apply serve_route fun _ committed published =>
    ScimEffect s published committed
  · intro e
    exact .none
  · intro user
    apply Program.wp_mono wp_groupHandler
    intro r m hServed
    cases hServed with
    | refused e m hRefuses => exact .of_refuses hRefuses
    | mutated r groupId events s' hMutated hReading =>
        exact .group _ groupId events s' hMutated

/- Every request has one of the effects. -/
theorem scimEffect
    (env : Environment)
    (s : Store)
    (request : ScimRequest) :
    ScimEffect s (request.published env s)
      (request.committed env s) := by
  cases request with
  | user request => exact userEffect request
  | group request => exact groupEffect request

end Scim

end AccessIQ
