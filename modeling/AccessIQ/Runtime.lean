import AccessIQ.Foundations.Program
import AccessIQ.Store
import AccessIQ.Domain.Events
import AccessIQ.Exceptions

/-
  Request handlers as programs on the database.

  A handler runs in the context of one request, in a session
  of its own.  It may ask a connector; the calls of a
  connector are numbered by the provisioning job and the
  attempt that makes them.

  Key definitions include:
    * `RequestContext`
    * `Question`
    * `Handler`
    * `Environment`
    * `guardDatabase`
    * `respond`

  Key theorems include:
    * `wp_guardDatabase`
-/

------------------------------------------------------------
-- Handlers
------------------------------------------------------------

namespace AccessIQ

open Foundations Connectors

/-
  What a request carries besides its payload: its correlation
  id, the time it is handled at, and the id of the user its
  token authenticates.
-/
structure RequestContext where
  correlationId : String
  now : Timestamp
  subject : Int
  deriving DecidableEq, Repr

/- A call of a connector. -/
structure ConnectorCall where
  jobId : Int
  attempt : Nat
  connector : String
  operation : ConnectorOperation
  deriving DecidableEq, Repr

/- What a handler can ask the outside world. -/
inductive Question where
  | callConnector (call : ConnectorCall)
  deriving DecidableEq, Repr

/- What the outside world answers. -/
def Reply : Question → Type
  | .callConnector _ => ConnectorReply

/- A request handler, or a part of one. -/
abbrev Handler (α : Type) :=
  Program Store Question Reply DomainEvent PyException α

/- An environment a request is served in. -/
abbrev Environment := Oracle Question Reply

/-
  What a query raises that is given an integer the database
  cannot bind.  The SQLite driver raises before it sends the
  statement, and SQLAlchemy does not wrap its error.
-/
def Dialect.bindError : Dialect → PyException
  | .sqlite => .overflowError
  | .postgresql => .database .dataError

/- What is left of a served request. -/
abbrev Response (α : Type) :=
  Program.Served Store DomainEvent PyException α

end AccessIQ

------------------------------------------------------------
-- Error Handling
------------------------------------------------------------

namespace AccessIQ

open Foundations

/- Raise an HTTP exception. -/
def raiseHttp
    {α : Type}
    (statusCode : Nat)
    (detail : String) :
    Handler α :=
  throw (.http ⟨statusCode, detail⟩)

/- The response to a failed database call. -/
def databaseFailure : PyException :=
  .http ⟨500, "Database operation failed"⟩

/-
  `try: body` with `except SQLAlchemyError`: roll back and
  answer 500.
-/
def guardDatabase
    {α : Type}
    (body : Handler α) :
    Handler α :=
  tryCatch body fun exc =>
    match exc with
    | .database _ => do
        Program.rollback
        throw databaseFailure
    | other => throw other

/- The postcondition `guardDatabase` passes to its body. -/
def guardPost
    {α : Type}
    (post : Post Store DomainEvent PyException α) :
    Post Store DomainEvent PyException α
  | .error (.database _), m =>
      post (.error databaseFailure)
        { m with working := m.committed, broken := false }
  | r, m => post r m

theorem wp_guardDatabase
    {α : Type}
    {w : World Question Reply}
    (body : Handler α)
    (post : Post Store DomainEvent PyException α)
    (m : Moment Store DomainEvent) :
    (guardDatabase body).wp w post m ↔
      body.wp w (guardPost post) m := by
  have hPost :
      Program.catchPost w
        (fun exc =>
          match exc with
          | .database _ => do
              Program.rollback
              throw databaseFailure
          | other => throw other)
        post = guardPost post := by
    funext r m'
    rcases r with exc | a
    · cases exc <;>
        simp [Program.catchPost, guardPost]
    · rfl
  unfold guardDatabase
  rw [Program.wp_tryCatch, hPost]

end AccessIQ

------------------------------------------------------------
-- Environments
------------------------------------------------------------

namespace AccessIQ

open Foundations Connectors

/-
  An environment in which the database never fails by itself
  and every connector reports an authentication error.
-/
def steadyEnvironment : Environment where
  fails _ := false
  answer
    | .callConnector _ =>
        .error
          { className := "AuthenticationError"
            baseClasses := ["ConnectorError", "Exception"]
            message := "Authentication failed"
            retryable := false
            details := [] }

theorem steadyEnvironment_steady :
    steadyEnvironment.Steady :=
  fun _ => rfl

end AccessIQ
