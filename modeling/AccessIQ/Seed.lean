import AccessIQ.Runtime

/-
  The database as the first startup leaves it.

  The startup seeds users, applications and entitlements.
  Some of the entitlements exist only for the audit events of
  the services, which look them up by their slugs.

  Key definitions include:
    * `seededUsers`
    * `seededApplications`
    * `seededEntitlements`
    * `seededStore`
    * `salesStore`
-/

------------------------------------------------------------
-- Reference Data
------------------------------------------------------------

namespace AccessIQ

open Foundations

def bob : User where
  id := 1
  name := "Bob Smith"
  email := "bob@example.com"
  department := "Sales"
  operatorRole := "employee"

def sarah : User where
  id := 2
  name := "Sarah Chen"
  email := "sarah@example.com"
  department := "Finance"
  operatorRole := "helpdesk"

def alice : User where
  id := 3
  name := "Alice Johnson"
  email := "alice@example.com"
  department := "Engineering"
  operatorRole := "security_admin"

def maya : User where
  id := 6
  name := "Maya Patel"
  email := "manager@example.com"
  department := "Operations"
  operatorRole := "manager"

def seededUsers : Table User where
  rows :=
    [ bob,
      sarah,
      alice,
      { id := 4
        name := "Ian Wright"
        email := "ian@example.com"
        department := "Engineering"
        operatorRole := "iam_admin" },
      { id := 5
        name := "Audit Reviewer"
        email := "auditor@example.com"
        department := "Compliance"
        operatorRole := "auditor" },
      maya ]
  issued := 6
  sorted := by decide
  bounded := by decide
  unique := by decide

def seededApplications : Table Application where
  rows :=
    [ ⟨1, "Salesforce", "salesforce"⟩,
      ⟨2, "Zendesk", "zendesk"⟩,
      ⟨3, "Finance Portal", "finance-portal"⟩,
      ⟨4, "GitHub", "github"⟩,
      ⟨5, "SCIM Provisioning", "scim-provisioning"⟩,
      ⟨6, "Connector Framework", "connector-framework"⟩,
      ⟨7, "Governance", "governance"⟩ ]
  issued := 7
  sorted := by decide
  bounded := by decide
  unique := by decide

def seededEntitlements : Table Entitlement where
  rows :=
    [ ⟨1, "Salesforce User", "user", 1⟩,
      ⟨2, "Salesforce Administrator", "administrator", 1⟩,
      ⟨3, "Zendesk Agent", "agent", 2⟩,
      ⟨4, "Zendesk Administrator", "administrator", 2⟩,
      ⟨5, "Finance Read Only", "read-only", 3⟩,
      ⟨6, "Finance Administrator", "administrator", 3⟩,
      ⟨7, "GitHub Developer", "developer", 4⟩,
      ⟨8, "GitHub Administrator", "administrator", 4⟩,
      ⟨9, "SCIM User Lifecycle", "user-lifecycle", 5⟩,
      ⟨10, "SCIM Group Lifecycle", "group-lifecycle", 5⟩,
      ⟨11, "SCIM Enterprise User Extension",
        "enterprise-user-extension", 5⟩,
      ⟨12, "Connector Execution", "connector-execution",
        6⟩,
      ⟨13, "Access Review Certification",
        "access-review-certification", 7⟩ ]
  issued := 13
  sorted := by decide
  bounded := by decide
  unique := by decide

def seededStore
    (dialect : Dialect) :
    Store :=
  { Store.empty dialect with
    users := seededUsers
    applications := seededApplications
    entitlements := seededEntitlements }

/- The seeded store with a group of one member. -/
def salesStore : Store :=
  { seededStore .sqlite with
    groups :=
      { rows := [⟨1, "Sales", 0, 0⟩]
        issued := 1
        sorted := by decide
        bounded := by decide
        unique := by decide }
    groupMembers :=
      { rows := [⟨1, 1, 1, 0⟩]
        issued := 1
        sorted := by decide
        bounded := by decide
        unique := by decide } }

end AccessIQ
