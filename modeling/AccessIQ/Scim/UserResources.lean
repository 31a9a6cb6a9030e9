import AccessIQ.Scim.UserPayloads
import AccessIQ.Store

/-
  The SCIM resource of a user.

  The resource carries the enterprise extension of a user
  whose profile has an attribute.

  Key definitions include:
    * `userToScimResource`
    * `Store.enterpriseProfileOf`
    * `Store.userResource`
-/

------------------------------------------------------------
-- Resources
------------------------------------------------------------

namespace AccessIQ

namespace Scim

open Python

def scimBasePath : String :=
  "/scim/v2"

/- `str.rstrip` of slashes. -/
def stripSlashes
    (s : String) :
    String :=
  String.ofList (s.toList.rdropWhile (· = '/'))

def buildUserLocation
    (baseUrl : String)
    (userId : Int) :
    String :=
  stripSlashes baseUrl ++ scimBasePath ++
    s!"/Users/{userId}"

/- A member of an object, left out for `None`. -/
def optionalMember
    (key : String)
    (value : Option String) :
    JsonObject :=
  (value.map fun text => (key, Json.string text)).toList

/- The `manager` of an extension. -/
def managerMember
    (baseUrl : String)
    (managerId : Option Int)
    (manager : Option User) :
    JsonObject :=
  match managerId with
  | none => []
  | some managerId =>
      [("manager",
        .object
          ([("value", .string (toString managerId)),
            ("$ref",
              .string (buildUserLocation baseUrl managerId))] ++
            optionalMember "displayName"
              (manager.map (·.name))))]

/- The members of the enterprise extension. -/
def enterpriseProfileToScimExtension
    (baseUrl : String)
    (profile : EnterpriseUserProfile)
    (manager : Option User) :
    JsonObject :=
  optionalMember "employeeNumber" profile.employeeNumber ++
    optionalMember "department" profile.department ++
    optionalMember "division" profile.division ++
    optionalMember "organization" profile.organization ++
    optionalMember "costCenter" profile.costCenter ++
    managerMember baseUrl profile.managerId manager

/- The members of a user resource besides its extension. -/
def coreMembers
    (baseUrl : String)
    (user : User)
    (schemas : List String) :
    JsonObject :=
  [("schemas", .array (schemas.map .string)),
    ("id", .string (toString user.id)),
    ("userName", .string user.email),
    ("name", .object [("formatted", .string user.name)]),
    ("displayName", .string user.name),
    ("active", .bool user.active),
    ("emails",
      .array
        [.object
          [("value", .string user.email),
            ("type", .string "work"),
            ("primary", .bool true)]]),
    ("meta",
      .object
        [("resourceType", .string "User"),
          ("location",
            .string (buildUserLocation baseUrl user.id))])]

/- An extension without members is left out. -/
def userToScimResource
    (baseUrl : String)
    (user : User)
    (extension : JsonObject) :
    Json :=
  if extension.isEmpty then
    .object (coreMembers baseUrl user [scimSchemaUser])
  else
    .object
      (coreMembers baseUrl user
          [scimSchemaUser, scimSchemaEnterpriseUser] ++
        [(scimSchemaEnterpriseUser, .object extension)])

end Scim

end AccessIQ

------------------------------------------------------------
-- Stored Users
------------------------------------------------------------

namespace AccessIQ

open Foundations Python Scim

namespace Store

/- `user.enterprise_profile` of the user with an id. -/
def enterpriseProfileOf
    (s : Store)
    (userId : Int) :
    Option EnterpriseUserProfile :=
  s.enterpriseUserProfiles.rows.find? (·.userId == userId)

/- The extension of a user, empty without a profile. -/
def enterpriseExtension
    (s : Store)
    (baseUrl : String)
    (userId : Int) :
    JsonObject :=
  match s.enterpriseProfileOf userId with
  | none => []
  | some profile =>
      enterpriseProfileToScimExtension baseUrl profile
        (profile.managerId.bind s.users.get?)

/- `user_to_scim_resource` of a stored user. -/
def userResource
    (s : Store)
    (baseUrl : String)
    (user : User) :
    Json :=
  userToScimResource baseUrl user
    (s.enterpriseExtension baseUrl user.id)

end Store

end AccessIQ
