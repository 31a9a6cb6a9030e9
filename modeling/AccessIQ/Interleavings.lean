import AccessIQ.Permanence
import AccessIQ.Foundations.Interleaving
import AccessIQ.Seed

/-
  Requests that are served at the same time.

  Sessions of SQLite share one file.  The first statement of a
  transaction that changes it takes the write lock, and until
  then a session reads what others commit, or has rows loaded
  that others have changed since.  What a handler sends does
  not depend on being alone: each of its flushes is a sequence
  of statements.

  Key definitions include:
    * `applicationHandler`
    * `ApplicationHandler`

  Key theorems include:
    * `writes_applicationHandler`
    * `serveApplication_eq`
    * `interleaved_requests_permanent`
    * `permanent_serveAll`
-/

------------------------------------------------------------
-- Audit And Authentication
------------------------------------------------------------

namespace AccessIQ

open Foundations Python

theorem Statement.writes_flush
    {ε : Type}
    [RaisesDatabaseError ε]
    {change : Store → Except DatabaseError (Store × Int)}
    (hChange :
      ∀ s s' n, change s = .ok (s', n) → Statement s s') :
    (Program.flush change :
      Program Store Question Reply DomainEvent ε
        Int).Writes Statements :=
  Program.writes_flush fun s s' n hOk =>
    .single (hChange s s' n hOk)

theorem Statement.writes_flush_
    {ε : Type}
    [RaisesDatabaseError ε]
    {change : Store → Except DatabaseError Store}
    (hChange :
      ∀ s s', change s = .ok s' → Statement s s') :
    (Program.flush_ change :
      Program Store Question Reply DomainEvent ε
        Unit).Writes Statements :=
  Program.writes_flush_ fun s s' hOk =>
    .single (hChange s s' hOk)

theorem writes_recordAuditEvent
    (event : AuditEvent) :
    (recordAuditEvent event).Writes Statements :=
  Program.writes_bind
    (Statement.writes_flush
      fun _ _ n hOk => .insertAuditEvent event n hOk)
    fun _ => trivial

theorem writes_createAuditEvent
    (ctx : RequestContext)
    (requesterId targetUserId : Int)
    (action : AuditAction)
    (applicationId entitlementId : Int)
    (result : AuditResult)
    (reason : String)
    (correlationId : Option String) :
    (createAuditEvent ctx requesterId targetUserId action
      applicationId entitlementId result reason
      correlationId).Writes Statements :=
  writes_recordAuditEvent _

theorem writes_guardDatabase
    {α : Type}
    {body : Handler α}
    (hBody : body.Writes Statements) :
    (guardDatabase body).Writes Statements := by
  apply Program.writes_tryCatch hBody
  intro exc
  cases exc with
  | database e => exact trivial
  | _ => exact trivial

theorem writes_transactional
    {α : Type}
    {respond : PyException → Option HttpException}
    {body : Handler (α × List DomainEvent)}
    (hBody : body.Writes Statements) :
    (transactional respond body).Writes Statements := by
  refine Program.writes_bind ?_ fun _ => trivial
  apply Program.writes_tryCatch
  · exact Program.writes_bind hBody fun _ =>
      Program.writes_bind Program.writes_commit
        fun _ => trivial
  · intro exc
    split
    · exact trivial
    · split
      · exact trivial
      · exact trivial

theorem writes_getCurrentUser
    (ctx : RequestContext) :
    (getCurrentUser ctx).Writes Statements := by
  refine Program.writes_bind Program.writes_view fun s => ?_
  split
  · exact trivial
  · exact trivial

variable [Platform]

theorem writes_authenticated
    (ctx : RequestContext)
    (roles : List String) :
    (authenticated ctx roles).Writes Statements := by
  refine Program.writes_bind (writes_getCurrentUser ctx)
    fun user => ?_
  unfold requireRoles
  split
  · exact trivial
  · exact trivial

/- An endpoint behind a role check. -/
theorem writes_endpoint
    {α : Type}
    (ctx : RequestContext)
    (roles : List String)
    {handler : User → Handler α}
    (hHandler : ∀ user, (handler user).Writes Statements) :
    (authenticated ctx roles >>= handler).Writes
      Statements :=
  Program.writes_bind (writes_authenticated ctx roles)
    hHandler

theorem writes_registerUser
    (userData : UserCreate) :
    (registerUser userData).Writes Statements := by
  refine Program.writes_bind Program.writes_view fun s => ?_
  split
  · exact trivial
  · apply Program.writes_bind
    · exact Statement.writes_flush
        fun _ _ n hOk => .insertUser _ n hOk
    · intro id
      refine Program.writes_bind Program.writes_commit
        fun _ => ?_
      exact Program.writes_bind Program.writes_view
        fun _ => Program.writes_getOrRaise _ _

end AccessIQ

------------------------------------------------------------
-- Users And Their Profiles
------------------------------------------------------------

namespace AccessIQ

namespace Scim

open Foundations Python

theorem writes_recordScimAudit
    (ctx : RequestContext)
    (entitlementSlug notSeeded : String)
    (actor : User)
    (targetUserId : Int)
    (action : AuditAction)
    (result : AuditResult)
    (reason : String) :
    (recordScimAudit ctx entitlementSlug notSeeded actor
      targetUserId action result reason).Writes
      Statements := by
  refine Program.writes_bind Program.writes_view fun s => ?_
  refine Program.writes_bind
    (Program.writes_getOrRaise _ _) fun entitlement => ?_
  exact Program.writes_bind
    (writes_createAuditEvent _ _ _ _ _ _ _ _ _)
    fun _ => trivial

theorem writes_auditAndRaise
    {α : Type}
    (databaseError : ScimHttpException)
    {record : Handler Unit}
    (hRecord : record.Writes Statements)
    (response : ScimHttpException) :
    (auditAndRaise databaseError record response :
      Handler α).Writes Statements := by
  refine Program.writes_bind ?_ fun _ => trivial
  apply Program.writes_tryCatch
  · exact Program.writes_bind hRecord
      fun _ => Program.writes_commit
  · intro exc
    split
    · exact trivial
    · exact trivial

theorem writes_provisioning
    {α : Type}
    (databaseError : ScimHttpException)
    {deny :
      PyException →
        Option (Handler (α × List DomainEvent))}
    (hDeny :
      ∀ exc answer, deny exc = some answer →
        answer.Writes Statements)
    {body : Handler (α × List DomainEvent)}
    (hBody : body.Writes Statements) :
    (provisioning databaseError deny body).Writes
      Statements := by
  refine Program.writes_bind ?_ fun _ => trivial
  apply Program.writes_tryCatch
  · exact Program.writes_bind hBody fun _ =>
      Program.writes_bind Program.writes_commit
        fun _ => trivial
  · intro exc
    unfold answerException
    split
    · rename_i answer hSome
      exact Program.writes_bind Program.writes_rollback
        fun _ => hDeny exc answer hSome
    · split
      · exact trivial
      · exact trivial

theorem writes_flushUser
    (loaded new : User) :
    (flushUser loaded new).Writes Statements := by
  unfold flushUser
  split
  · exact trivial
  · exact Statement.writes_flush_
      fun _ _ hOk => .updateUser loaded new hOk

theorem writes_walkManagers
    (userId managerId : Int)
    (fuel : Nat)
    (current : Int)
    (seen : List Int) :
    (walkManagers userId managerId fuel current
      seen).Writes Statements := by
  induction fuel generalizing current seen with
  | zero => exact trivial
  | succ fuel ih =>
      refine Program.writes_bind Program.writes_view
        fun s => ?_
      split
      · exact trivial
      · split
        · exact trivial
        · split
          · exact trivial
          · refine Program.writes_bind Program.writes_view
              fun s => ?_
            split
            · exact trivial
            · exact ih _ _

theorem writes_checkManager
    (user : User)
    (desired : Option (Option Int)) :
    (checkManager user desired).Writes Statements := by
  unfold checkManager
  split
  · refine Program.writes_bind ?_ fun _ => trivial
    unfold validateManager
    split
    · exact trivial
    · refine Program.writes_bind Program.writes_view
        fun s => ?_
      refine Program.writes_bind
        (Program.writes_raiseIf _ _) fun _ => ?_
      refine Program.writes_bind
        (Program.writes_getOrRaise _ _) fun manager => ?_
      refine Program.writes_bind
        (Program.writes_raiseIf _ _) fun _ => ?_
      exact Program.writes_bind
        (writes_walkManagers _ _ _ _ _) fun _ => trivial
  · exact trivial

/- A profile and its user are written in one flush. -/
theorem statements_writeProfile
    {user newUser : User}
    {profile newProfile : EnterpriseUserProfile}
    {s s' : Store}
    (hOk :
      writeProfile user newUser profile newProfile s =
        .ok s') :
    Statements s s' := by
  rcases bind_eq_ok hOk with ⟨s₁, hUser, hProfile⟩
  exact .tail (.single (.updateUser _ _ hUser))
    (.updateEnterpriseUserProfile _ _ hProfile)

variable [Platform]

theorem writes_requireUser
    (userId : String) :
    (requireUser userId).Writes Statements :=
  Program.writes_bind Program.writes_view
    fun _ => Program.writes_getOrRaise _ _

theorem writes_ensureUserNameAvailable
    (userName : String)
    (user : User) :
    (ensureUserNameAvailable userName user).Writes
      Statements := by
  refine Program.writes_bind Program.writes_view fun s => ?_
  split
  · exact trivial
  · exact Program.writes_raiseIf _ _

theorem writes_createUser
    (ctx : RequestContext)
    (userName displayName : String)
    (active : Bool) :
    (createUser ctx userName displayName active).Writes
      Statements := by
  refine Program.writes_bind Program.writes_view fun s => ?_
  split
  · exact trivial
  · refine Program.writes_bind ?_ fun _ => trivial
    exact Statement.writes_flush
      fun _ _ n hOk => .insertUser _ n hOk

theorem writes_replaceUser
    (userId userName displayName : String)
    (active : Bool) :
    (replaceUser userId userName displayName
      active).Writes Statements := by
  refine Program.writes_bind (writes_requireUser userId)
    fun user => ?_
  refine Program.writes_bind
    (writes_ensureUserNameAvailable _ _) fun _ => ?_
  exact Program.writes_bind (writes_flushUser _ _)
    fun _ => trivial

theorem writes_patchUser
    (user : User)
    (mutation : UserMutation) :
    (patchUser user mutation).Writes Statements := by
  apply Program.writes_bind
  · unfold checkUserName
    split
    · exact writes_ensureUserNameAvailable _ _
    · exact trivial
  · intro _
    exact Program.writes_bind (writes_flushUser _ _)
      fun _ => trivial

theorem writes_checkEmployeeNumber
    (profile : EnterpriseUserProfile)
    (desired : Option (Option String)) :
    (checkEmployeeNumber profile desired).Writes
      Statements := by
  unfold checkEmployeeNumber
  split
  · refine Program.writes_bind Program.writes_view
      fun s => ?_
    split
    · exact trivial
    · exact Program.writes_raiseIf _ _
  · exact trivial

theorem writes_changeProfile
    (ctx : RequestContext)
    (user : User)
    (desired : EnterpriseProfileMutation)
    (profile : EnterpriseUserProfile)
    (created : Bool) :
    (changeProfile ctx user desired profile created).Writes
      Statements := by
  refine Program.writes_bind
    (writes_checkEmployeeNumber _ _) fun _ => ?_
  refine Program.writes_bind (writes_checkManager _ _)
    fun _ => ?_
  unfold setProfile
  split
  · exact trivial
  · refine Program.writes_bind ?_ fun _ => trivial
    exact Program.writes_flush_
      fun _ _ hOk => statements_writeProfile hOk

theorem writes_applyProfileMutation
    (ctx : RequestContext)
    (user : User)
    (mutation : EnterpriseProfileMutation)
    (replace : Bool) :
    (applyProfileMutation ctx user mutation replace).Writes
      Statements := by
  unfold applyProfileMutation
  dsimp only
  split
  · exact trivial
  · refine Program.writes_bind Program.writes_view
      fun s => ?_
    split
    · exact writes_changeProfile _ _ _ _ _
    · split
      · exact trivial
      · refine Program.writes_bind ?_
          fun _ => writes_changeProfile _ _ _ _ _
        exact Statement.writes_flush
          fun _ _ n hOk =>
            .insertEnterpriseUserProfile _ n hOk

theorem writes_createEnterpriseProfile
    (ctx : RequestContext)
    (user : User)
    (mutation : Option EnterpriseProfileMutation) :
    (createEnterpriseProfile ctx user mutation).Writes
      Statements := by
  cases mutation with
  | none => exact trivial
  | some mutation =>
      exact writes_applyProfileMutation _ _ _ _

theorem writes_replaceEnterpriseProfile
    (ctx : RequestContext)
    (user : User)
    (mutation : Option EnterpriseProfileMutation) :
    (replaceEnterpriseProfile ctx user mutation).Writes
      Statements := by
  cases mutation with
  | none =>
      refine Program.writes_bind Program.writes_view
        fun s => ?_
      split
      · exact trivial
      · exact writes_applyProfileMutation _ _ _ _
  | some mutation =>
      exact writes_applyProfileMutation _ _ _ _

theorem writes_patchEnterpriseProfile
    (ctx : RequestContext)
    (user : User)
    (mutation : Option EnterpriseProfileMutation) :
    (patchEnterpriseProfile ctx user mutation).Writes
      Statements := by
  cases mutation with
  | none => exact trivial
  | some mutation =>
      exact writes_applyProfileMutation _ _ _ _

end Scim

end AccessIQ

------------------------------------------------------------
-- User Mutations
------------------------------------------------------------

namespace AccessIQ

namespace Scim

open Foundations Python

theorem writes_denyUserRequest
    {α : Type}
    (ctx : RequestContext)
    (actor : User)
    (targetUserId : Int)
    (action : AuditAction)
    (entitlementSlug : String)
    (response : ScimHttpException) :
    (denyUserRequest ctx actor targetUserId action
      entitlementSlug response : Handler α).Writes
      Statements :=
  writes_auditAndRaise _
    (writes_recordScimAudit _ _ _ _ _ _ _ _) _

theorem writes_auditEnterpriseError
    {α : Type}
    (ctx : RequestContext)
    (actor : User)
    (targetUserId : Int)
    (exc : EnterpriseUserServiceError) :
    (auditEnterpriseError ctx actor targetUserId exc :
      Handler α).Writes Statements :=
  Program.writes_bind Program.writes_view
    fun _ => writes_denyUserRequest _ _ _ _ _ _

theorem writes_denyCreation
    {α : Type}
    (ctx : RequestContext)
    (actor : User)
    (exc : PyException)
    (answer : Handler α)
    (hSome : denyCreation ctx actor exc = some answer) :
    answer.Writes Statements := by
  unfold denyCreation at hSome
  split at hSome
  · cases hSome
    exact writes_denyUserRequest _ _ _ _ _ _
  · cases hSome
    exact writes_auditEnterpriseError _ _ _ _
  · cases hSome

theorem writes_recordEnterpriseAudits
    (ctx : RequestContext)
    (actor : User)
    (targetUserId : Int)
    (changes : List EnterpriseProfileChange) :
    (recordEnterpriseAudits ctx actor targetUserId
      changes).Writes Statements := by
  induction changes with
  | nil => exact trivial
  | cons change changes ih =>
      exact Program.writes_bind
        (writes_recordScimAudit _ _ _ _ _ _ _ _)
        fun _ => ih

theorem writes_recordUpdateAudits
    (ctx : RequestContext)
    (actor user : User)
    (changes : List EnterpriseProfileChange) :
    (recordUpdateAudits ctx actor user changes).Writes
      Statements :=
  Program.writes_bind
    (writes_recordScimAudit _ _ _ _ _ _ _ _)
    fun _ => writes_recordEnterpriseAudits _ _ _ _

theorem writes_refreshedUser
    (baseUrl : String)
    (userId : Int) :
    (refreshedUser baseUrl userId).Writes Statements := by
  refine Program.writes_bind Program.writes_view fun s => ?_
  exact Program.writes_bind
    (Program.writes_getOrRaise _ _) fun _ => trivial

variable [Platform]

theorem writes_denyChange
    {α : Type}
    (ctx : RequestContext)
    (actor : User)
    (userId : String)
    (exc : PyException)
    (answer : Handler α)
    (hSome : denyChange ctx actor userId exc = some answer) :
    answer.Writes Statements := by
  unfold denyChange at hSome
  split at hSome
  · cases hSome
    exact writes_denyUserRequest _ _ _ _ _ _
  · cases hSome
    exact writes_denyUserRequest _ _ _ _ _ _
  · cases hSome
    exact Program.writes_bind Program.writes_view
      fun _ => writes_auditEnterpriseError _ _ _ _
  · cases hSome

theorem writes_creation
    (ctx : RequestContext)
    (actor : User)
    (userData : ScimUserPayload) :
    (creation ctx actor userData).Writes Statements := by
  refine Program.writes_bind (writes_createUser _ _ _ _)
    fun created => ?_
  refine Program.writes_bind
    (writes_createEnterpriseProfile _ _ _) fun _ => ?_
  refine Program.writes_bind
    (writes_recordScimAudit _ _ _ _ _ _ _ _) fun _ => ?_
  exact Program.writes_bind
    (writes_recordEnterpriseAudits _ _ _ _) fun _ => trivial

theorem writes_replacement
    (ctx : RequestContext)
    (actor : User)
    (userId : String)
    (userData : ScimUserPayload) :
    (replacement ctx actor userId userData).Writes
      Statements := by
  refine Program.writes_bind (writes_replaceUser _ _ _ _)
    fun user => ?_
  refine Program.writes_bind
    (writes_replaceEnterpriseProfile _ _ _) fun _ => ?_
  exact Program.writes_bind
    (writes_recordUpdateAudits _ _ _ _) fun _ => trivial

theorem writes_patching
    (ctx : RequestContext)
    (actor currentUser : User)
    (patch : ScimUserPatch) :
    (patching ctx actor currentUser patch).Writes
      Statements := by
  refine Program.writes_bind (writes_patchUser _ _)
    fun user => ?_
  refine Program.writes_bind
    (writes_patchEnterpriseProfile _ _ _) fun _ => ?_
  exact Program.writes_bind
    (writes_recordUpdateAudits _ _ _ _) fun _ => trivial

theorem writes_createScimUser
    (ctx : RequestContext)
    (actor : User)
    (payload : Json)
    (baseUrl : String) :
    (createScimUser ctx actor payload baseUrl).Writes
      Statements := by
  unfold createScimUser
  split
  · exact writes_denyUserRequest _ _ _ _ _ _
  · exact trivial
  · exact Program.writes_bind
      (writes_provisioning _ (writes_denyCreation ctx actor)
        (writes_creation _ _ _))
      fun _ => writes_refreshedUser _ _

theorem writes_replaceScimUser
    (ctx : RequestContext)
    (actor : User)
    (userId : String)
    (payload : Json)
    (baseUrl : String) :
    (replaceScimUser ctx actor userId payload
      baseUrl).Writes Statements := by
  unfold replaceScimUser
  split
  · exact writes_denyUserRequest _ _ _ _ _ _
  · exact trivial
  · exact Program.writes_bind
      (writes_provisioning _
        (writes_denyChange ctx actor userId)
        (writes_replacement _ _ _ _))
      fun _ => writes_refreshedUser _ _

theorem writes_patchScimUser
    (ctx : RequestContext)
    (actor : User)
    (userId : String)
    (payload : Json)
    (baseUrl : String) :
    (patchScimUser ctx actor userId payload
      baseUrl).Writes Statements := by
  refine Program.writes_bind ?_
    fun _ => writes_refreshedUser _ _
  apply writes_provisioning _
    (writes_denyChange ctx actor userId)
  refine Program.writes_bind (writes_requireUser userId)
    fun currentUser => ?_
  split
  · exact writes_denyUserRequest _ _ _ _ _ _
  · exact trivial
  · exact writes_patching _ _ _ _

theorem writes_userRequest
    (request : UserRequest) :
    request.serve.Writes Statements := by
  apply writes_endpoint
  intro user
  unfold UserRequest.handler
  split
  · exact writes_createScimUser _ _ _ _
  · exact writes_replaceScimUser _ _ _ _ _
  · exact writes_patchScimUser _ _ _ _ _

end Scim

end AccessIQ

------------------------------------------------------------
-- Group Mutations
------------------------------------------------------------

namespace AccessIQ

namespace Scim

open Foundations Python

/- A group, its new members and its removed ones. -/
theorem LoadedGroup.statements_write
    {ctx : RequestContext}
    {group : LoadedGroup}
    {s s' : Store}
    (hOk : group.write ctx s = .ok s') :
    Statements s s' := by
  rcases bind_eq_ok hOk with ⟨s₁, hNamed, hMembers⟩
  rcases bind_eq_ok hMembers with ⟨s₂, hInserted, hDeleted⟩
  injection hDeleted with hEq
  subst hEq
  have hName : Statements s s₁ :=
    .single (.updateGroup _ _ hNamed)
  have hInsert : Statements s s₂ :=
    hName.tail (.insertGroupMembers _ _ _ hInserted)
  exact hInsert.tail (.deleteGroupMembers _)

theorem writes_flushGroup
    (ctx : RequestContext)
    (group : LoadedGroup) :
    (flushGroup ctx group).Writes Statements := by
  unfold flushGroup
  split
  · exact trivial
  · exact Program.writes_flush_
      fun _ _ hOk => group.statements_write hOk

theorem writes_requireDistinctUsers
    (userIds : List Int) :
    (requireDistinctUsers userIds).Writes Statements := by
  unfold requireDistinctUsers
  split
  · exact trivial
  · split
    · exact trivial
    · refine Program.writes_bind Program.writes_view
        fun s => ?_
      split
      · exact trivial
      · exact trivial

theorem writes_requireMember
    (userId : Int) :
    (requireMember userId).Writes Statements :=
  Program.writes_bind Program.writes_view
    fun _ => Program.writes_raiseIf _ _

theorem writes_addMember
    (group : LoadedGroup)
    (userId : Int) :
    (addMember group userId).Writes Statements := by
  refine Program.writes_bind (writes_requireMember userId)
    fun _ => ?_
  exact Program.writes_bind (Program.writes_raiseIf _ _)
    fun _ => trivial

theorem writes_removeMember
    (group : LoadedGroup)
    (userId : Int) :
    (removeMember group userId).Writes Statements := by
  refine Program.writes_bind (writes_requireMember userId)
    fun _ => ?_
  exact Program.writes_bind (Program.writes_raiseIf _ _)
    fun _ => trivial

theorem writes_replaceMembers
    (group : LoadedGroup)
    (userIds : List Int) :
    (replaceMembers group userIds).Writes Statements :=
  Program.writes_bind (writes_requireDistinctUsers userIds)
    fun _ => trivial

theorem writes_forEach
    {β : Type}
    {step :
      LoadedGroup → β →
        Handler (LoadedGroup × List EventKind)}
    (hStep : ∀ group b, (step group b).Writes Statements)
    (group : LoadedGroup)
    (bs : List β) :
    (forEach step group bs).Writes Statements := by
  induction bs generalizing group with
  | nil => exact trivial
  | cons b bs ih =>
      refine Program.writes_bind (hStep group b)
        fun stepped => ?_
      exact Program.writes_bind (ih _) fun _ => trivial

theorem writes_recordGroupAudit
    (ctx : RequestContext)
    (actor : User)
    (action : AuditAction)
    (result : AuditResult)
    (reason : String) :
    (recordGroupAudit ctx actor action result
      reason).Writes Statements :=
  writes_recordScimAudit _ _ _ _ _ _ _ _

theorem writes_denyGroupRequest
    {α : Type}
    (ctx : RequestContext)
    (actor : User)
    (response : ScimHttpException) :
    (denyGroupRequest ctx actor response :
      Handler α).Writes Statements :=
  writes_auditAndRaise _
    (writes_recordGroupAudit _ _ _ _ _) _

theorem writes_denyGroupChange
    {α : Type}
    (ctx : RequestContext)
    (actor : User)
    (response : PyException → Option ScimHttpException)
    (exc : PyException)
    (answer : Handler α)
    (hSome :
      denyGroupChange ctx actor response exc = some answer) :
    answer.Writes Statements := by
  rcases Option.map_eq_some_iff.mp hSome with
    ⟨denied, -, rfl⟩
  exact writes_denyGroupRequest _ _ _

theorem writes_refreshedGroup
    (baseUrl : String)
    (groupId : Int) :
    (refreshedGroup baseUrl groupId).Writes Statements := by
  refine Program.writes_bind Program.writes_view fun s => ?_
  refine Program.writes_bind
    (Program.writes_getOrRaise _ _) fun group => ?_
  split
  · exact trivial
  · exact trivial

variable [Platform]

theorem writes_checkDuplicateGroup
    (displayName : String)
    (currentGroup : Option Int) :
    (checkDuplicateGroup displayName currentGroup).Writes
      Statements := by
  refine Program.writes_bind Program.writes_view fun s => ?_
  split
  · exact trivial
  · exact Program.writes_raiseIf _ _

theorem writes_requireGroup
    (groupId : String) :
    (requireGroup groupId).Writes Statements := by
  refine Program.writes_bind Program.writes_view fun s => ?_
  refine Program.writes_bind
    (Program.writes_getOrRaise _ _) fun group => ?_
  exact Program.writes_bind Program.writes_view
    fun _ => trivial

theorem writes_applyGroupOperation
    (group : LoadedGroup)
    (operation : GroupPatchOperation) :
    (applyGroupOperation group operation).Writes
      Statements := by
  unfold applyGroupOperation
  split
  · split
    · exact trivial
    · unfold renameGroup
      split
      · exact trivial
      · exact Program.writes_bind
          (writes_checkDuplicateGroup _ _) fun _ => trivial
  · exact writes_replaceMembers _ _
  · exact writes_forEach writes_addMember _ _
  · exact writes_forEach writes_removeMember _ _

theorem writes_createGroup
    (ctx : RequestContext)
    (displayName : String)
    (memberIds : List Int) :
    (createGroup ctx displayName memberIds).Writes
      Statements := by
  refine Program.writes_bind
    (writes_checkDuplicateGroup _ _) fun _ => ?_
  refine Program.writes_bind
    (writes_requireDistinctUsers _) fun _ => ?_
  apply Program.writes_bind
  · exact Statement.writes_flush
      fun _ _ n hOk => .insertGroup _ n hOk
  · intro id
    refine Program.writes_bind Program.writes_view
      fun s => ?_
    exact Program.writes_bind (writes_flushGroup _ _)
      fun _ => trivial

theorem writes_replaceGroup
    (ctx : RequestContext)
    (groupId displayName : String)
    (memberIds : List Int) :
    (replaceGroup ctx groupId displayName
      memberIds).Writes Statements := by
  refine Program.writes_bind (writes_requireGroup groupId)
    fun group => ?_
  refine Program.writes_bind
    (writes_checkDuplicateGroup _ _) fun _ => ?_
  refine Program.writes_bind (writes_replaceMembers _ _)
    fun _ => ?_
  exact Program.writes_bind (writes_flushGroup _ _)
    fun _ => trivial

theorem writes_patchGroup
    (ctx : RequestContext)
    (groupId : String)
    (operations : List GroupPatchOperation) :
    (patchGroup ctx groupId operations).Writes
      Statements := by
  refine Program.writes_bind (writes_requireGroup groupId)
    fun group => ?_
  refine Program.writes_bind
    (writes_forEach writes_applyGroupOperation _ _)
    fun _ => ?_
  exact Program.writes_bind (writes_flushGroup _ _)
    fun _ => trivial

theorem writes_createScimGroup
    (ctx : RequestContext)
    (actor : User)
    (payload : Json)
    (baseUrl : String) :
    (createScimGroup ctx actor payload baseUrl).Writes
      Statements := by
  unfold createScimGroup
  split
  · exact writes_denyGroupRequest _ _ _
  · exact trivial
  · refine Program.writes_bind ?_
      fun _ => writes_refreshedGroup _ _
    apply writes_provisioning _
      (writes_denyGroupChange ctx actor _)
    exact Program.writes_bind (writes_createGroup _ _ _)
      fun _ => Program.writes_bind
        (writes_recordGroupAudit _ _ _ _ _) fun _ => trivial

theorem writes_replaceScimGroup
    (ctx : RequestContext)
    (actor : User)
    (groupId : String)
    (payload : Json)
    (baseUrl : String) :
    (replaceScimGroup ctx actor groupId payload
      baseUrl).Writes Statements := by
  unfold replaceScimGroup
  split
  · exact writes_denyGroupRequest _ _ _
  · exact trivial
  · refine Program.writes_bind ?_
      fun _ => writes_refreshedGroup _ _
    apply writes_provisioning _
      (writes_denyGroupChange ctx actor _)
    exact Program.writes_bind (writes_replaceGroup _ _ _ _)
      fun _ => Program.writes_bind
        (writes_recordGroupAudit _ _ _ _ _) fun _ => trivial

theorem writes_patchScimGroup
    (ctx : RequestContext)
    (actor : User)
    (groupId : String)
    (payload : Json)
    (baseUrl : String) :
    (patchScimGroup ctx actor groupId payload
      baseUrl).Writes Statements := by
  refine Program.writes_bind ?_
    fun _ => writes_refreshedGroup _ _
  apply writes_provisioning _
    (writes_denyGroupChange ctx actor _)
  split
  · exact trivial
  · exact Program.writes_bind (writes_patchGroup _ _ _)
      fun _ => Program.writes_bind
        (writes_recordGroupAudit _ _ _ _ _) fun _ => trivial

theorem writes_groupRequest
    (request : GroupRequest) :
    request.serve.Writes Statements := by
  apply writes_endpoint
  intro user
  unfold GroupRequest.handler
  split
  · exact writes_createScimGroup _ _ _ _
  · exact writes_replaceScimGroup _ _ _ _ _
  · exact writes_patchScimGroup _ _ _ _ _

end Scim

end AccessIQ

------------------------------------------------------------
-- Access And Delegation
------------------------------------------------------------

namespace AccessIQ

namespace Access

open Foundations Python Delegation

variable {α : Type}

theorem writes_refuseChange
    (change : AccessChange α)
    (ctx : RequestContext)
    (data : AccessActionRequest)
    (currentUser user : User)
    (entitlement : Entitlement)
    (application : Application)
    (authorization : DelegationAuthorization)
    (response : HttpException) :
    (refuseChange change ctx data currentUser user
      entitlement application authorization
      response).Writes Statements := by
  apply Program.writes_bind
  · apply writes_guardDatabase
    exact Program.writes_bind (writes_recordAuditEvent _)
      fun _ => Program.writes_commit
  · intro _
    exact Program.writes_bind (Program.writes_publish _)
      fun _ => trivial

theorem writes_writeGrant
    (ctx : RequestContext)
    (data : AccessActionRequest)
    (assignment : Option AccessAssignment)
    (event : AuditEvent) :
    (writeGrant ctx data assignment event).Writes
      Statements := by
  apply Program.writes_bind
  · exact Statement.writes_flush
      fun _ _ n hOk => .insertAccessAssignment _ n hOk
  · intro id
    exact Program.writes_bind (writes_recordAuditEvent _)
      fun _ => trivial

/- The event and the deletion go in one flush. -/
theorem writes_writeRevoke
    (ctx : RequestContext)
    (data : AccessActionRequest)
    (assignment : Option AccessAssignment)
    (event : AuditEvent) :
    (writeRevoke ctx data assignment event).Writes
      Statements := by
  refine Program.writes_bind
    (Program.writes_getOrRaise _ _) fun a => ?_
  refine Program.writes_bind ?_ fun _ => trivial
  apply Program.writes_flush_
  intro s s' hOk
  rcases bind_eq_ok hOk with ⟨⟨s₁, n⟩, hEvent, hDelete⟩
  exact .tail (.single (.insertAuditEvent _ n hEvent))
    (.deleteAccessAssignment _ hDelete)

theorem writes_respondGrant
    (data : AccessActionRequest)
    (assignmentId : Int) :
    (respondGrant data assignmentId).Writes Statements := by
  refine Program.writes_bind Program.writes_view fun s => ?_
  refine Program.writes_bind
    (Program.writes_getOrRaise _ _) fun assignment => ?_
  refine Program.writes_bind
    (Program.writes_getOrRaise _ _) fun entitlement => ?_
  exact Program.writes_bind
    (Program.writes_getOrRaise _ _) fun _ => trivial

variable [Platform]

theorem writes_authorizeAccessAction
    (ctx : RequestContext)
    (actor targetUser : User)
    (entitlement : Entitlement)
    (action : DelegatedAction) :
    (authorizeAccessAction ctx actor targetUser entitlement
      action).Writes Statements := by
  have hAudit :
      ∀ (auditAction : AuditAction) (result : AuditResult)
          (reason : String),
        (recordActionAudit ctx actor targetUser entitlement
          auditAction result reason).Writes Statements := by
    intro auditAction result reason
    exact Program.writes_bind
      (writes_createAuditEvent _ _ _ _ _ _ _ _ _)
      fun _ => trivial
  unfold authorizeAccessAction
  split
  · exact trivial
  · apply Program.writes_bind
    · refine Program.writes_bind ?_ fun _ => trivial
      exact Program.writes_bind Program.writes_view
        fun _ => trivial
    · intro assignment
      split
      · exact Program.writes_bind (hAudit _ _ _)
          fun _ => trivial
      · exact Program.writes_bind (hAudit _ _ _)
          fun _ => trivial

theorem writes_changeAccess
    {change : AccessChange α}
    (hWrite :
      ∀ ctx data assignment event,
        (change.write ctx data assignment event).Writes
          Statements)
    (hRespond :
      ∀ data id, (change.respond data id).Writes Statements)
    (ctx : RequestContext)
    (data : AccessActionRequest)
    (currentUser : User) :
    (changeAccess change ctx data currentUser).Writes
      Statements := by
  refine Program.writes_bind Program.writes_view fun s => ?_
  refine Program.writes_bind
    (Program.writes_getOrRaise _ _) fun user => ?_
  refine Program.writes_bind Program.writes_view fun s => ?_
  refine Program.writes_bind
    (Program.writes_getOrRaise _ _) fun entitlement => ?_
  refine Program.writes_bind
    (Program.writes_getOrRaise _ _) fun application => ?_
  refine Program.writes_bind
    (writes_authorizeAccessAction _ _ _ _ _)
    fun authorized => ?_
  dsimp only
  split
  · refine Program.writes_bind
      (writes_guardDatabase Program.writes_commit)
      fun _ => ?_
    exact Program.writes_bind (Program.writes_publish _)
      fun _ => trivial
  · refine Program.writes_bind Program.writes_view
      fun s => ?_
    split
    · exact writes_refuseChange _ _ _ _ _ _ _ _ _
    · split
      · exact writes_refuseChange _ _ _ _ _ _ _ _ _
      · refine Program.writes_bind ?_ fun id => ?_
        · apply writes_guardDatabase
          refine Program.writes_bind (hWrite _ _ _ _)
            fun _ => ?_
          exact Program.writes_bind Program.writes_commit
            fun _ => trivial
        · exact Program.writes_bind
            (Program.writes_publish _) fun _ => hRespond _ _

theorem writes_grantAccess
    (ctx : RequestContext)
    (data : AccessActionRequest)
    (currentUser : User) :
    (grantAccess ctx data currentUser).Writes Statements :=
  writes_changeAccess writes_writeGrant writes_respondGrant
    ctx data currentUser

theorem writes_revokeAccess
    (ctx : RequestContext)
    (data : AccessActionRequest)
    (currentUser : User) :
    (revokeAccess ctx data currentUser).Writes
      Statements := by
  apply writes_changeAccess writes_writeRevoke
  intro data id
  exact trivial

end Access

namespace Delegation

open Foundations Python

theorem writes_recordAssignmentAudit
    (ctx : RequestContext)
    (assignment : DelegationAssignment)
    (actor : User)
    (action : AuditAction)
    (result : AuditResult)
    (reason : String) :
    (recordAssignmentAudit ctx assignment actor action
      result reason).Writes Statements := by
  apply Program.writes_bind
  · exact Program.writes_bind Program.writes_view
      fun _ => Program.writes_getOrRaise _ _
  · intro _
    exact Program.writes_bind
      (writes_createAuditEvent _ _ _ _ _ _ _ _ _)
      fun _ => trivial

theorem writes_assignDelegate
    (ctx : RequestContext)
    (payload : DelegationAssignmentCreate)
    (actor : User) :
    (assignDelegate ctx payload actor).Writes
      Statements := by
  refine Program.writes_bind Program.writes_view fun s => ?_
  refine Program.writes_bind
    (Program.writes_getOrRaise _ _) fun delegate => ?_
  refine Program.writes_bind (Program.writes_raiseIf _ _)
    fun _ => ?_
  refine Program.writes_bind (Program.writes_raiseIf _ _)
    fun _ => ?_
  apply Program.writes_bind
  · refine Program.writes_bind (Program.writes_raiseIf _ _)
      fun _ => ?_
    exact Program.writes_bind Program.writes_view
      fun _ => Program.writes_raiseIf _ _
  · intro _
    apply Program.writes_bind
    · exact Program.writes_bind Program.writes_view
        fun _ => Program.writes_raiseIf _ _
    · intro _
      apply Program.writes_bind
      · exact Statement.writes_flush
          fun _ _ n hOk =>
            .insertDelegationAssignment _ n hOk
      · intro id
        exact Program.writes_bind
          (writes_recordAssignmentAudit _ _ _ _ _ _)
          fun _ => trivial

theorem writes_removeDelegate
    (ctx : RequestContext)
    (assignmentId : Int)
    (actor : User) :
    (removeDelegate ctx assignmentId actor).Writes
      Statements := by
  apply Program.writes_bind
  · exact Program.writes_bind Program.writes_view
      fun _ => Program.writes_getOrRaise _ _
  · intro found
    refine Program.writes_bind (Program.writes_raiseIf _ _)
      fun _ => ?_
    apply Program.writes_bind
    · exact Statement.writes_flush_
        fun _ _ hOk =>
          .deactivateDelegationAssignment _ hOk
    · intro _
      exact Program.writes_bind
        (writes_recordAssignmentAudit _ _ _ _ _ _)
        fun _ => trivial

end Delegation

end AccessIQ

------------------------------------------------------------
-- Campaigns
------------------------------------------------------------

namespace AccessIQ

namespace Governance

open Foundations Python

theorem writes_recordGovernanceAudit
    (ctx : RequestContext)
    (actor : User)
    (targetUserId : Int)
    (action : AuditAction)
    (result : AuditResult)
    (reason : String) :
    (recordGovernanceAudit ctx actor targetUserId action
      result reason).Writes Statements := by
  apply Program.writes_bind
  · exact Program.writes_bind Program.writes_view
      fun _ => Program.writes_getOrRaise _ _
  · intro entitlement
    exact Program.writes_bind
      (writes_createAuditEvent _ _ _ _ _ _ _ _ _)
      fun _ => trivial

theorem writes_lookupCampaign
    (campaignId : Int) :
    (lookupCampaign campaignId).Writes Statements :=
  Program.writes_bind Program.writes_view
    fun _ => Program.writes_getOrRaise _ _

theorem writes_flushCampaign
    (loaded new : CertificationCampaign) :
    (flushCampaign loaded new).Writes Statements := by
  unfold flushCampaign
  split
  · exact trivial
  · exact Statement.writes_flush_
      fun _ _ hOk =>
        .updateCertificationCampaign loaded new hOk

theorem writes_recalculateCampaignCounts
    (campaign : CertificationCampaign) :
    (recalculateCampaignCounts campaign).Writes
      Statements := by
  refine Program.writes_bind Program.writes_view fun s => ?_
  refine Program.writes_bind Program.writes_view fun s => ?_
  refine Program.writes_bind Program.writes_view fun s => ?_
  exact Program.writes_bind (writes_flushCampaign _ _)
    fun _ => trivial

theorem writes_generateReviewItems
    (ctx : RequestContext)
    (campaign : CertificationCampaign) :
    (generateReviewItems ctx campaign).Writes
      Statements := by
  refine Program.writes_bind Program.writes_view fun s => ?_
  split
  · exact Program.writes_bind Program.writes_view
      fun _ => trivial
  · refine Program.writes_bind Program.writes_view
      fun s => ?_
    refine Program.writes_bind
      (Program.writes_getOrRaise _ _) fun items => ?_
    split
    · refine Program.writes_bind ?_
        fun _ => writes_recalculateCampaignCounts _
      exact Statement.writes_flush_
        fun _ _ hOk =>
          .insertCertificationReviewItems items hOk
    · exact writes_recalculateCampaignCounts _

theorem writes_startCampaign
    (ctx : RequestContext)
    (campaignId : Int)
    (actor : User) :
    (startCampaign ctx campaignId actor).Writes
      Statements := by
  refine Program.writes_bind (writes_lookupCampaign _)
    fun campaign => ?_
  refine Program.writes_bind (Program.writes_raiseIf _ _)
    fun _ => ?_
  refine Program.writes_bind
    (writes_generateReviewItems _ _) fun generated => ?_
  refine Program.writes_bind (writes_flushCampaign _ _)
    fun _ => ?_
  exact Program.writes_bind
    (writes_recordGovernanceAudit _ _ _ _ _ _)
    fun _ => trivial

theorem writes_completeCampaign
    (ctx : RequestContext)
    (campaignId : Int)
    (actor : User) :
    (completeCampaign ctx campaignId actor).Writes
      Statements := by
  refine Program.writes_bind (writes_lookupCampaign _)
    fun campaign => ?_
  refine Program.writes_bind (Program.writes_raiseIf _ _)
    fun _ => ?_
  refine Program.writes_bind
    (writes_recalculateCampaignCounts _) fun counted => ?_
  refine Program.writes_bind (Program.writes_raiseIf _ _)
    fun _ => ?_
  refine Program.writes_bind (writes_flushCampaign _ _)
    fun _ => ?_
  exact Program.writes_bind
    (writes_recordGovernanceAudit _ _ _ _ _ _)
    fun _ => trivial

theorem writes_cancelCampaign
    (ctx : RequestContext)
    (campaignId : Int)
    (actor : User) :
    (cancelCampaign ctx campaignId actor).Writes
      Statements := by
  refine Program.writes_bind (writes_lookupCampaign _)
    fun campaign => ?_
  refine Program.writes_bind (Program.writes_raiseIf _ _)
    fun _ => ?_
  refine Program.writes_bind (writes_flushCampaign _ _)
    fun _ => ?_
  exact Program.writes_bind
    (writes_recordGovernanceAudit _ _ _ _ _ _)
    fun _ => trivial

/- A decision and its item are written in one flush. -/
theorem statements_flushDecision
    {ctx : RequestContext}
    {payload : DecisionRequest}
    {actor : User}
    {campaign : CertificationCampaign}
    {item : CertificationReviewItem}
    {existing : Option CertificationDecision}
    {s s' : Store}
    (hOk :
      flushDecision ctx payload actor campaign item existing
        s = .ok s') :
    Statements s s' := by
  rcases bind_eq_ok hOk with ⟨s₁, hItem, hDecision⟩
  have hFirst : Statements s s₁ :=
    .single (.updateCertificationReviewItem _ _ hItem)
  cases existing with
  | none =>
      exact hFirst.tail
        (.insertCertificationDecision _ hDecision)
  | some existing =>
      exact hFirst.tail
        (.updateCertificationDecision _ _ hDecision)

theorem writes_recordDecision
    (ctx : RequestContext)
    (itemId : Int)
    (payload : DecisionRequest)
    (actor : User) :
    (recordDecision ctx itemId payload actor).Writes
      Statements := by
  have hLookup :
      (lookupReviewItem itemId).Writes Statements :=
    Program.writes_bind Program.writes_view
      fun _ => Program.writes_getOrRaise _ _
  refine Program.writes_bind hLookup fun loaded => ?_
  refine Program.writes_bind
    (Program.writes_getOrRaise _ _) fun campaign => ?_
  refine Program.writes_bind (Program.writes_raiseIf _ _)
    fun _ => ?_
  apply Program.writes_bind
  · exact Program.writes_flush_
      fun _ _ hOk => statements_flushDecision hOk
  · intro _
    refine Program.writes_bind
      (writes_recalculateCampaignCounts _) fun _ => ?_
    refine Program.writes_bind
      (writes_createAuditEvent _ _ _ _ _ _ _ _ _)
      fun _ => ?_
    exact Program.writes_bind hLookup fun _ => trivial

variable [Platform]

theorem writes_createCampaign
    (ctx : RequestContext)
    (payload : CampaignCreateRequest)
    (actor : User) :
    (createCampaign ctx payload actor).Writes
      Statements := by
  apply Program.writes_bind
  · exact Program.writes_bind Program.writes_view
      fun _ => Program.writes_raiseIf _ _
  · intro _
    refine Program.writes_bind Program.writes_view
      fun s => ?_
    refine Program.writes_bind
      (Program.writes_getOrRaise _ _) fun reviewer => ?_
    apply Program.writes_bind
    · exact Statement.writes_flush
        fun _ _ n hOk => .insertCertificationCampaign _ n hOk
    · intro id
      exact Program.writes_bind
        (writes_recordGovernanceAudit _ _ _ _ _ _)
        fun _ => trivial

end Governance

end AccessIQ

------------------------------------------------------------
-- Provisioning
------------------------------------------------------------

namespace AccessIQ

namespace Connectors

open Foundations Python

variable {run : ProvisioningRun}

theorem writes_recordHistory
    (entry : ProvisioningHistory) :
    (recordHistory entry).Writes Statements := by
  unfold recordHistory
  split
  · exact trivial
  · exact Statement.writes_flush_
      fun _ _ hOk => .insertProvisioningHistory _ hOk

theorem writes_flushProvisioningJob
    (loaded new : ProvisioningJob) :
    (flushProvisioningJob loaded new).Writes
      Statements := by
  unfold flushProvisioningJob
  split
  · exact trivial
  · exact Statement.writes_flush_
      fun _ _ hOk => .updateProvisioningJob loaded new hOk

theorem writes_recordAudit
    (action : AuditAction)
    (result : AuditResult)
    (reason : String) :
    (run.recordAudit action result reason).Writes
      Statements := by
  unfold ProvisioningRun.recordAudit
  split
  · apply Program.writes_bind
    · exact Program.writes_bind Program.writes_view
        fun _ => Program.writes_getOrRaise _ _
    · intro entitlement
      exact Program.writes_bind
        (writes_createAuditEvent _ _ _ _ _ _ _ _ _)
        fun _ => trivial
  · exact trivial

theorem writes_begin :
    run.begin.Writes Statements := by
  apply Program.writes_bind
  · apply Program.writes_bind
    · exact Statement.writes_flush
        fun _ _ n hOk => .insertProvisioningJob _ n hOk
    · intro id
      exact Program.writes_bind (writes_recordHistory _)
        fun _ => trivial
  · intro created
    exact Program.writes_bind (writes_recordAudit _ _ _)
      fun _ => trivial

theorem writes_invoke
    (progress : Progress)
    (attempt : Nat) :
    (run.invoke progress attempt).Writes Statements := by
  apply Program.writes_bind
  · refine Program.writes_bind
      (writes_flushProvisioningJob _ _) fun _ => ?_
    exact Program.writes_bind (writes_recordHistory _)
      fun _ => trivial
  · intro started
    refine Program.writes_bind (writes_recordHistory _)
      fun _ => ?_
    exact Program.writes_bind (writes_recordAudit _ _ _)
      fun _ => trivial

theorem writes_callConnector
    (jobId : Int)
    (attempt : Nat) :
    (run.callConnector jobId attempt).Writes
      Statements := by
  unfold ProvisioningRun.callConnector
  split
  · exact trivial
  · exact Program.writes_ask _

theorem writes_retry
    (progress : Progress)
    (attempt : Nat)
    (exc : ConnectorException) :
    (run.retry progress attempt exc).Writes Statements := by
  apply Program.writes_bind
  · refine Program.writes_bind
      (writes_flushProvisioningJob _ _) fun _ => ?_
    exact Program.writes_bind (writes_recordHistory _)
      fun _ => trivial
  · intro retried
    refine Program.writes_bind (writes_recordAudit _ _ _)
      fun _ => ?_
    exact Program.writes_bind (writes_recordAudit _ _ _)
      fun _ => trivial

theorem writes_settle
    (loaded new : ProvisioningJob)
    (first second : ProvisioningHistory)
    (events : List DomainEvent) :
    (do
      flushProvisioningJob loaded new
      recordHistory first
      recordHistory second
      return (new, events) :
      Handler (ProvisioningJob × List DomainEvent)).Writes
      Statements := by
  refine Program.writes_bind
    (writes_flushProvisioningJob _ _) fun _ => ?_
  refine Program.writes_bind (writes_recordHistory _)
    fun _ => ?_
  exact Program.writes_bind (writes_recordHistory _)
    fun _ => trivial

theorem writes_fail
    (progress : Progress)
    (attempt : Nat)
    (exc : ConnectorException) :
    (run.fail progress attempt exc).Writes Statements := by
  refine Program.writes_bind (writes_recordAudit _ _ _)
    fun _ => ?_
  refine Program.writes_bind (writes_settle _ _ _ _ _)
    fun _ => ?_
  exact Program.writes_bind (writes_recordAudit _ _ _)
    fun _ => trivial

theorem writes_finish
    (progress : Progress)
    (attempt : Nat)
    (result : ConnectorResult) :
    (run.finish progress attempt result).Writes
      Statements := by
  refine Program.writes_bind (writes_settle _ _ _ _ _)
    fun _ => ?_
  refine Program.writes_bind (writes_recordAudit _ _ _)
    fun _ => ?_
  refine Program.writes_bind (writes_recordAudit _ _ _)
    fun _ => ?_
  exact Program.writes_bind (writes_recordAudit _ _ _)
    fun _ => trivial

theorem writes_conclude
    (progress : Progress)
    (attempt : Nat)
    (reply : ConnectorReply) :
    (run.conclude progress attempt reply).Writes
      Statements := by
  cases reply with
  | ok result => exact writes_finish _ _ _
  | error exc => exact writes_fail _ _ _

/- Every attempt of a run, by induction on those left. -/
theorem writes_attemptLoop
    (remaining attempt : Nat)
    (progress : Progress) :
    (run.attemptLoop remaining attempt progress).Writes
      Statements := by
  induction remaining generalizing attempt progress with
  | zero =>
      refine Program.writes_bind (writes_invoke _ _)
        fun invoked => ?_
      exact Program.writes_bind (writes_callConnector _ _)
        fun _ => writes_conclude _ _ _
  | succ remaining ih =>
      refine Program.writes_bind (writes_invoke _ _)
        fun invoked => ?_
      refine Program.writes_bind (writes_callConnector _ _)
        fun reply => ?_
      split
      · exact Program.writes_bind (writes_retry _ _ _)
          fun _ => ih _ _
      · exact writes_conclude _ _ _

theorem writes_execute
    [Platform]
    (orchestrator : ProvisioningOrchestrator)
    (ctx : RequestContext)
    (arguments : ExecuteArguments) :
    (orchestrator.execute ctx arguments).Writes
      Statements := by
  unfold ProvisioningOrchestrator.execute
  split
  · exact trivial
  · exact Program.writes_bind writes_begin
      fun _ => writes_attemptLoop _ _ _

end Connectors

end AccessIQ

------------------------------------------------------------
-- Remediation
------------------------------------------------------------

namespace AccessIQ

namespace Remediation

open Foundations Connectors Governance Python

theorem writes_lookupReviewItem
    (reviewItemId : Int) :
    (lookupReviewItem reviewItemId).Writes Statements :=
  Program.writes_bind Program.writes_view
    fun _ => Program.writes_getOrRaise _ _

theorem writes_recordJobAudit
    (ctx : RequestContext)
    (job : RemediationJob)
    (actor : User)
    (action : AuditAction)
    (result : AuditResult)
    (reason : String) :
    (recordJobAudit ctx job actor action result
      reason).Writes Statements := by
  refine Program.writes_bind (writes_lookupReviewItem _)
    fun _ => ?_
  exact Program.writes_bind
    (writes_createAuditEvent _ _ _ _ _ _ _ _ _)
    fun _ => trivial

theorem writes_flushRemediationJob
    (loaded new : RemediationJob) :
    (flushRemediationJob loaded new).Writes Statements := by
  unfold flushRemediationJob
  split
  · exact trivial
  · exact Statement.writes_flush_
      fun _ _ hOk => .updateRemediationJob loaded new hOk

theorem writes_linkProvisioningJob
    (job : RemediationJob) :
    (linkProvisioningJob job).Writes Statements := by
  refine Program.writes_bind Program.writes_view fun s => ?_
  split
  · exact trivial
  · exact Program.writes_bind
      (writes_flushRemediationJob _ _) fun _ => trivial

theorem writes_createJob
    (ctx : RequestContext)
    (reviewItemId : Int)
    (remediationType : RemediationType)
    (actor : User) :
    (createJob ctx reviewItemId remediationType
      actor).Writes Statements := by
  refine Program.writes_bind (writes_lookupReviewItem _)
    fun item => ?_
  refine Program.writes_bind Program.writes_view fun s => ?_
  refine Program.writes_bind (Program.writes_raiseIf _ _)
    fun _ => ?_
  refine Program.writes_bind Program.writes_view fun s => ?_
  refine Program.writes_bind (Program.writes_raiseIf _ _)
    fun _ => ?_
  apply Program.writes_bind
  · exact Statement.writes_flush
      fun _ _ n hOk => .insertRemediationJob _ n hOk
  · intro id
    exact Program.writes_bind
      (writes_recordJobAudit _ _ _ _ _ _) fun _ => trivial

/- A step of a job flushes it and writes an audit event. -/
theorem writes_jobStep
    (loaded new : RemediationJob)
    (ctx : RequestContext)
    (actor : User)
    (action : AuditAction)
    (result : AuditResult)
    (reason : String)
    (events : List DomainEvent) :
    (do
      flushRemediationJob loaded new
      recordJobAudit ctx new actor action result reason
      return (new, events) :
      Handler (RemediationJob × List DomainEvent)).Writes
      Statements := by
  refine Program.writes_bind
    (writes_flushRemediationJob _ _) fun _ => ?_
  exact Program.writes_bind
    (writes_recordJobAudit _ _ _ _ _ _) fun _ => trivial

theorem writes_failJob
    (ctx : RequestContext)
    (job : RemediationJob)
    (actor : User)
    (message : String) :
    (failJob ctx job actor message).Writes Statements :=
  Program.writes_bind (writes_linkProvisioningJob _)
    fun _ => writes_jobStep _ _ _ _ _ _ _ _

variable [Platform]
variable {orchestrator : ProvisioningOrchestrator}
variable {ctx : RequestContext}
variable {actor : User}

theorem writes_attemptJob
    (job : RemediationJob)
    (item : CertificationReviewItem) :
    (attemptJob orchestrator ctx job item actor).Writes
      Statements := by
  refine Program.writes_bind Program.writes_view fun s => ?_
  split
  · exact trivial
  · refine Program.writes_bind (writes_execute _ _ _)
      fun executed => ?_
    refine Program.writes_bind
      (writes_linkProvisioningJob _) fun _ => ?_
    unfold settleJob
    cases executed.1.status with
    | success => exact writes_jobStep _ _ _ _ _ _ _ _
    | skipped => exact writes_jobStep _ _ _ _ _ _ _ _
    | failed => exact writes_failJob _ _ _ _
    | retryable => exact writes_failJob _ _ _ _

theorem writes_remediateItem
    (item : CertificationReviewItem) :
    (remediateItem orchestrator ctx actor item).Writes
      Statements := by
  refine Program.writes_bind Program.writes_view fun s => ?_
  split
  · exact trivial
  · refine Program.writes_bind (writes_createJob _ _ _ _)
      fun created => ?_
    refine Program.writes_bind ?_ fun _ => trivial
    refine Program.writes_bind (writes_lookupReviewItem _)
      fun item => ?_
    refine Program.writes_bind
      (writes_jobStep _ _ _ _ _ _ _ _) fun started => ?_
    refine Program.writes_bind ?_ fun _ => trivial
    exact Program.writes_tryCatch (writes_attemptJob _ _)
      fun _ => writes_failJob _ _ _ _

theorem writes_remediateItems
    (items : List CertificationReviewItem) :
    (remediateItems orchestrator ctx actor items).Writes
      Statements := by
  induction items with
  | nil => exact trivial
  | cons item items ih =>
      refine Program.writes_bind (writes_remediateItem _)
        fun _ => ?_
      exact Program.writes_bind ih fun _ => trivial

theorem writes_executeCampaign
    (campaignId : Int) :
    (executeCampaign orchestrator ctx campaignId
      actor).Writes Statements := by
  apply Program.writes_bind
  · refine Program.writes_bind Program.writes_view
      fun s => ?_
    refine Program.writes_bind
      (Program.writes_getOrRaise _ _) fun campaign => ?_
    exact Program.writes_bind
      (Program.writes_raiseIf _ _) fun _ => trivial
  · intro campaign
    refine Program.writes_bind Program.writes_view
      fun s => ?_
    exact Program.writes_bind (writes_remediateItems _)
      fun _ => trivial

end Remediation

end AccessIQ

------------------------------------------------------------
-- Requests
------------------------------------------------------------

namespace AccessIQ

open Foundations Python Scim Access Delegation Governance
open Connectors Remediation

variable [Platform]

/- The handler of a request, without what it answers. -/
def applicationHandler :
    ApplicationRequest → Handler Unit
  | .directory (.register userData) => do
      let _ ← registerUser userData
  | .directory (.scim (.user request)) => do
      let _ ← request.serve
  | .directory (.scim (.group request)) => do
      let _ ← request.serve
  | .access request =>
      match request.kind with
      | .grant => do
          let _ ← grantAccess request.ctx request.data
            request.actor
      | .revoke => do
          let _ ← revokeAccess request.ctx request.data
            request.actor
  | .governance (.create ctx payload) => do
      let _ ← createCampaignRoute ctx payload
  | .governance (.start ctx campaignId) => do
      let _ ← startCampaignRoute ctx campaignId
  | .governance (.decide ctx itemId payload) => do
      let _ ← recordDecisionRoute ctx itemId payload
  | .governance (.complete ctx campaignId) => do
      let _ ← completeCampaignRoute ctx campaignId
  | .governance (.cancel ctx campaignId) => do
      let _ ← cancelCampaignRoute ctx campaignId
  | .delegation (.assign ctx payload) => do
      let _ ← assignDelegation ctx payload
  | .delegation (.remove ctx assignmentId) => do
      let _ ← removeDelegationAssignment ctx assignmentId
  | .remediation orchestrator ctx campaignId => do
      let _ ← remediateCampaign orchestrator ctx campaignId

/- A program that handles a request. -/
def ApplicationHandler
    (program : Handler Unit) : Prop :=
  ∃ request, program = applicationHandler request

theorem writes_applicationHandler
    (request : ApplicationRequest) :
    (applicationHandler request).Writes Statements := by
  unfold applicationHandler
  split
  · exact Program.writes_bind (writes_registerUser _)
      fun _ => trivial
  · exact Program.writes_bind (writes_userRequest _)
      fun _ => trivial
  · exact Program.writes_bind (writes_groupRequest _)
      fun _ => trivial
  · split
    · exact Program.writes_bind (writes_grantAccess _ _ _)
        fun _ => trivial
    · exact Program.writes_bind (writes_revokeAccess _ _ _)
        fun _ => trivial
  · refine Program.writes_bind ?_ fun _ => trivial
    exact writes_endpoint _ _ fun _ =>
      writes_transactional (writes_createCampaign _ _ _)
  · refine Program.writes_bind ?_ fun _ => trivial
    exact writes_endpoint _ _ fun _ =>
      writes_transactional (writes_startCampaign _ _ _)
  · refine Program.writes_bind ?_ fun _ => trivial
    exact writes_endpoint _ _ fun _ =>
      writes_transactional (writes_recordDecision _ _ _ _)
  · refine Program.writes_bind ?_ fun _ => trivial
    exact writes_endpoint _ _ fun _ =>
      writes_transactional (writes_completeCampaign _ _ _)
  · refine Program.writes_bind ?_ fun _ => trivial
    exact writes_endpoint _ _ fun _ =>
      writes_transactional (writes_cancelCampaign _ _ _)
  · refine Program.writes_bind ?_ fun _ => trivial
    exact writes_endpoint _ _ fun _ =>
      writes_transactional (writes_assignDelegate _ _ _)
  · refine Program.writes_bind ?_ fun _ => trivial
    exact writes_endpoint _ _ fun _ =>
      writes_transactional (writes_removeDelegate _ _ _)
  · refine Program.writes_bind ?_ fun _ => trivial
    exact writes_endpoint _ _ fun _ =>
      writes_transactional (writes_executeCampaign _)

omit [Platform] in
/- What a handler answers makes no difference to the store. -/
theorem committed_serve_discard
    {α : Type}
    (env : Environment)
    (handler : Handler α)
    (s : Store) :
    (Program.serve env
        (do
          let _ ← handler) s).committed =
      (handler.serve env s).committed := by
  unfold Program.serve
  rw [Program.run_bind]
  generalize handler.run env ⟨Moment.start s, 0⟩ = final
  rcases final with ⟨e | a, session⟩
  · rfl
  · rfl

/- A request served alone. -/
theorem serveApplication_eq
    (s : Store)
    (request : ApplicationRequest)
    (env : Environment) :
    serveApplication s (request, env) =
      ((applicationHandler request).serve env
        s).committed := by
  unfold applicationHandler
  split
  · exact (committed_serve_discard env _ s).symm
  · exact (committed_serve_discard env _ s).symm
  · exact (committed_serve_discard env _ s).symm
  · rename_i request
    rcases request with ⟨kind, ctx, data, actor⟩
    cases kind with
    | grant => exact (committed_serve_discard env _ s).symm
    | revoke => exact (committed_serve_discard env _ s).symm
  · exact (committed_serve_discard env _ s).symm
  · exact (committed_serve_discard env _ s).symm
  · exact (committed_serve_discard env _ s).symm
  · exact (committed_serve_discard env _ s).symm
  · exact (committed_serve_discard env _ s).symm
  · exact (committed_serve_discard env _ s).symm
  · exact (committed_serve_discard env _ s).symm
  · exact (committed_serve_discard env _ s).symm

end AccessIQ

------------------------------------------------------------
-- Interleavings
------------------------------------------------------------

namespace AccessIQ

open Foundations Python

variable [Platform]

/- Each flush of a handler keeps what is permanent. -/
theorem ApplicationHandler.writes_permanent
    {program : Handler Unit}
    (hHandler : ApplicationHandler program) :
    program.Writes Permanent := by
  rcases hHandler with ⟨request, rfl⟩
  exact Program.writes_mono
    (fun _ _ hStatements =>
      permanent_of_statements hStatements)
    (writes_applicationHandler request)

/-
  In whatever order the steps of the requests come, with
  whatever the sessions read and wherever the database fails,
  every later version of the database holds what an earlier
  one held for good.
-/
theorem interleaved_requests_permanent
    {s : Store}
    {reached later :
      Pool Store Question Reply DomainEvent PyException}
    (hReached :
      Pool.Reaches ApplicationHandler (Pool.idle s) reached)
    (hLater :
      Pool.Reaches ApplicationHandler reached later) :
    Permanent reached.committed later.committed := by
  exact
    Pool.related_of_reaches permanent_refl
      (fun _ _ _ => permanent_trans)
      (fun _ => ApplicationHandler.writes_permanent) hReached
      hLater

/- A run of requests, one after another. -/
theorem reaches_serveApplication
    (s : Store)
    (requests : List (ApplicationRequest × Environment)) :
    ∃ tasks,
      Pool.Reaches ApplicationHandler (Pool.idle s)
        ⟨serveAll serveApplication s requests, none,
          tasks⟩ := by
  have hRun :
      serveAll serveApplication s requests =
        serveAll
          (fun s r => (Program.serve r.2 r.1 s).committed) s
          (requests.map fun r =>
            (applicationHandler r.1, r.2)) := by
    induction requests generalizing s with
    | nil => rfl
    | cons r rs ih =>
        rw [List.map_cons, serveAll_cons, serveAll_cons,
          ← serveApplication_eq]
        exact ih _
  rw [hRun]
  apply Pool.reaches_serveAll
  intro r hr
  rcases List.mem_map.mp hr with ⟨request, -, rfl⟩
  exact ⟨request.1, rfl⟩

/- What a run one after another leaves of the database. -/
theorem permanent_serveAll
    (s : Store)
    (requests : List (ApplicationRequest × Environment)) :
    Permanent s (serveAll serveApplication s requests) := by
  rcases reaches_serveApplication s requests with
    ⟨tasks, hReaches⟩
  exact
    Pool.related_of_reaches permanent_refl
      (fun _ _ _ => permanent_trans)
      (fun _ => ApplicationHandler.writes_permanent) .refl
      hReaches

end AccessIQ

------------------------------------------------------------
-- A Race
------------------------------------------------------------

namespace AccessIQ

open Foundations Python Governance

section Race

attribute [local instance] asciiPlatform

/- A campaign that was just created. -/
def draftedStore : Store :=
  serveAll serveApplication (seededStore .sqlite)
    [(.governance
      (.create aliceContext
        { name := "Quarterly Review", reviewerId := 5 }),
      steadyEnvironment)]

/- It is cancelled and started at the same time. -/
def cancelAndStart :
    Pool Store Question Reply DomainEvent PyException :=
  Pool.together draftedStore
    ([.governance (.cancel aliceContext 1),
      .governance (.start aliceContext 1)].map
      applicationHandler)

/- Both load the campaign before one of them writes it. -/
def raceTurns : List Nat :=
  [0, 0, 1, 1] ++ List.replicate 6 0 ++ List.replicate 14 1

theorem interleaved_requests_permanent_race :
    Permanent draftedStore
      (cancelAndStart.schedule steadyEnvironment
        raceTurns).committed := by
  have hArrived :
      Pool.Reaches ApplicationHandler
        (Pool.idle draftedStore) cancelAndStart := by
    apply Pool.reaches_together
    intro program hMem
    rcases List.mem_map.mp hMem with ⟨request, -, rfl⟩
    exact ⟨request, rfl⟩
  exact interleaved_requests_permanent hArrived
    (Pool.reaches_schedule steadyEnvironment raceTurns
      cancelAndStart)

/-
  The start overwrites the status, which is not among the
  columns that are kept: a cancelled campaign is active.
-/
example :
    (cancelAndStart.schedule steadyEnvironment
        raceTurns).committed.certificationCampaigns.rows.map
        (fun c => (c.status, c.cancelledAt)) =
      [(.active, some 0)] := by
  decide +kernel

end Race

end AccessIQ
