import AccessIQ.Python.Json

/-
  What connectors are asked and what they answer.

  A connector returns a result or raises an exception.  The
  details of a result are an arbitrary dictionary, which may
  hold a value that cannot be serialised.

  Key definitions include:
    * `ConnectorOperation`
    * `ConnectorStatus`
    * `Details`
    * `ConnectorResult`
    * `ConnectorReply`
-/

------------------------------------------------------------
-- Results
------------------------------------------------------------

namespace AccessIQ

namespace Connectors

open Python

inductive ConnectorOperation where
  | healthCheck
  | createUser
  | updateUser
  | disableUser
  | deleteUser
  | createGroup
  | updateGroup
  | deleteGroup
  | addGroupMember
  | removeGroupMember
  | grantEntitlement
  | revokeEntitlement
  deriving DecidableEq, Repr

def ConnectorOperation.value :
    ConnectorOperation → String
  | .healthCheck => "health_check"
  | .createUser => "create_user"
  | .updateUser => "update_user"
  | .disableUser => "disable_user"
  | .deleteUser => "delete_user"
  | .createGroup => "create_group"
  | .updateGroup => "update_group"
  | .deleteGroup => "delete_group"
  | .addGroupMember => "add_group_member"
  | .removeGroupMember => "remove_group_member"
  | .grantEntitlement => "grant_entitlement"
  | .revokeEntitlement => "revoke_entitlement"

inductive ConnectorStatus where
  | success
  | failed
  | retryable
  | skipped
  deriving DecidableEq, Repr

/-
  One value of a details dictionary: JSON, or an object for
  which `json.dumps` raises with a message.
-/
inductive DetailValue where
  | json (value : Json)
  | rejected (message : String)
  deriving Repr

/- A details dictionary. -/
abbrev Details := List (String × DetailValue)

/- A duration in thousandths of a millisecond. -/
abbrev Duration := Int

structure ConnectorResult where
  connector : String
  operation : ConnectorOperation
  status : ConnectorStatus
  message : String
  durationMs : Duration := 0
  retryable : Bool := false
  correlationId : Option String := none
  details : Details := []
  deriving Repr

/- `ConnectorResult.failed`. -/
def ConnectorResult.fromFailure
    (connector : String)
    (operation : ConnectorOperation)
    (message : String)
    (retryable : Bool)
    (correlationId : Option String)
    (durationMs : Duration)
    (details : Details) :
    ConnectorResult where
  connector := connector
  operation := operation
  status := if retryable then .retryable else .failed
  message := message
  durationMs := durationMs
  retryable := retryable
  correlationId := correlationId
  details := details

end Connectors

end AccessIQ

------------------------------------------------------------
-- Replies
------------------------------------------------------------

namespace AccessIQ

namespace Connectors

/-
  An exception a connector raises: its class and the classes
  that class derives from, its text, its `retryable`
  attribute and its `details`.
-/
structure ConnectorException where
  className : String
  baseClasses : List String
  message : String
  retryable : Bool
  details : Details
  deriving Repr

/- `isinstance(exc, cls)`. -/
def ConnectorException.isInstance
    (exc : ConnectorException)
    (cls : String) :
    Bool :=
  exc.className == cls || exc.baseClasses.contains cls

/- A connector returns a result or raises. -/
abbrev ConnectorReply :=
  Except ConnectorException ConnectorResult

end Connectors

end AccessIQ
