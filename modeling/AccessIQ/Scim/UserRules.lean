import AccessIQ.Foundations.Execution
import AccessIQ.Foundations.Reading
import AccessIQ.Scim.PatchParsing
import AccessIQ.Scim.UserOutcomes

/-
  How the SCIM user mutations end.

  A mutation that goes through has created or changed one
  user, with values that the parser accepted, and publishes
  the events of that.  One that raises has left at most a
  denial.

  Key definitions include:
    * `ChangedUser`
    * `UserMutated`
    * `UserServed`

  Key theorems include:
    * `plainProfile_parsePatchPayload`
    * `wp_createScimUser`
    * `wp_replaceScimUser`
    * `wp_patchScimUser`
    * `wp_userHandler`
-/

------------------------------------------------------------
-- Plain Values
------------------------------------------------------------

namespace AccessIQ

namespace Scim

open Foundations Python

theorem plainProfile_clear :
    PlainProfile clearEnterpriseMutation := by
  intro s hMem
  simp [EnterpriseProfileMutation.strings,
    clearEnterpriseMutation] at hMem

/- The desired values of an optional extension. -/
def desiredOf
    (profile : Option EnterpriseProfileMutation)
    (replace : Bool) :
    EnterpriseProfileMutation :=
  desiredValues (profile.getD {}) replace

theorem plainProfile_desiredOf
    {profile : Option EnterpriseProfileMutation}
    (hPlain : ∀ mutation, profile = some mutation →
      PlainProfile mutation)
    (replace : Bool) :
    PlainProfile (desiredOf profile replace) := by
  have hGiven : PlainProfile (profile.getD {}) := by
    cases profile with
    | none => exact plainProfile_empty
    | some mutation => exact hPlain mutation rfl
  unfold desiredOf desiredValues
  cases replace with
  | false => exact hGiven
  | true => exact hGiven.over plainProfile_clear

variable [Platform]

theorem plainProfile_parseEnterpriseProfile
    {extension : JsonObject}
    {mutation : EnterpriseProfileMutation}
    (hParse :
      parseEnterpriseProfile extension = .ok mutation) :
    PlainProfile mutation := by
  rcases parseEnterpriseProfile_cases extension with
    ⟨-, given, hPlain, hEq⟩ | ⟨-, e, -, hEq⟩
  · rw [hEq] at hParse
    cases hManager :
        parseAttribute extension "manager"
          parseManagerValue with
    | error e =>
        rw [hManager] at hParse
        cases hParse
    | ok managerId =>
        rw [hManager] at hParse
        cases hParse
        exact hPlain
  · rw [hEq] at hParse
    cases hParse

/- The strings of a create or replace payload are plain. -/
theorem plainProfile_parseUserPayload
    {payload : Json}
    {activeDefault : Bool}
    {userData : ScimUserPayload}
    (hParse :
      parseUserPayload payload activeDefault = .ok userData)
    (mutation : EnterpriseProfileMutation)
    (hProfile : userData.enterpriseProfile = some mutation) :
    PlainProfile mutation := by
  unfold parseUserPayload at hParse
  cases payload with
  | object payload =>
      rcases bind_eq_ok hParse with ⟨userName, -, hRest⟩
      rcases bind_eq_ok hRest with ⟨displayName, -, hRest⟩
      rcases bind_eq_ok hRest with ⟨active, -, hRest⟩
      rcases bind_eq_ok hRest with ⟨profile, hGiven, hDone⟩
      cases hDone
      simp only at hProfile
      subst hProfile
      cases hGet :
          JsonObject.get? payload scimSchemaEnterpriseUser with
      | none =>
          rw [hGet] at hGiven
          cases hGiven
      | some value =>
          rw [hGet] at hGiven
          cases value with
          | object extension =>
              unfold parseEnterpriseProfilePayload at hGiven
              simp only at hGiven
              cases hExtension :
                  parseEnterpriseProfile extension with
              | error e =>
                  rw [hExtension] at hGiven
                  cases hGiven
              | ok parsed =>
                  rw [hExtension] at hGiven
                  cases hGiven
                  exact plainProfile_parseEnterpriseProfile
                    hExtension
          | _ => cases hGiven
  | _ => cases hParse

/- An operation on the extension sets plain strings. -/
theorem plainProfile_enterpriseMutation
    {a : PatchAttribute}
    {path : EnterprisePath}
    {mutation : EnterpriseProfileMutation}
    (hPath :
      normalizeEnterprisePatchPath a.path = some path)
    (hMutation :
      enterpriseMutationForPath a.op path a.value =
        .ok mutation) :
    PlainProfile mutation := by
  have hStep := profileStep (fun _ _ => True) hPath
  rw [hMutation] at hStep
  cases hStep with
  | kept _ hPlain => exact hPlain
  | cleared _ hPlain => exact hPlain
  | read _ hPlain => exact hPlain

/- An attribute keeps the strings of a patch plain. -/
theorem plainProfile_apply
    {currentUser : User}
    {patch next : ScimUserPatch}
    {a : PatchAttribute}
    (hPlain :
      ∀ mutation, patch.enterpriseProfile = some mutation →
        PlainProfile mutation)
    (hApply : a.apply currentUser patch = .ok next)
    (mutation : EnterpriseProfileMutation)
    (hNext : next.enterpriseProfile = some mutation) :
    PlainProfile mutation := by
  unfold PatchAttribute.apply applyAttributePatch at hApply
  cases hPath : normalizeEnterprisePatchPath a.path with
  | some path =>
      simp only [hPath] at hApply
      rcases bind_eq_ok hApply with ⟨set, hSet, hDone⟩
      cases hDone
      cases hNext
      have hGiven :
          PlainProfile (patch.enterpriseProfile.getD {}) := by
        cases hProfile : patch.enterpriseProfile with
        | none => exact plainProfile_empty
        | some profile => exact hPlain profile hProfile
      exact (plainProfile_enterpriseMutation hPath hSet).over
        hGiven
  | none =>
      simp only [hPath] at hApply
      cases hLookup :
          patchPaths.lookup (Platform.lower a.path) with
      | none =>
          simp only [hLookup] at hApply
          cases hApply
      | some path =>
          simp only [hLookup] at hApply
          by_cases hRemove : a.op = .remove
          · rw [if_pos hRemove] at hApply
            rcases bind_eq_ok hApply with ⟨set, -, hDone⟩
            cases hDone
            exact hPlain mutation hNext
          · rw [if_neg hRemove] at hApply
            rcases bind_eq_ok hApply with ⟨set, -, hDone⟩
            cases hDone
            exact hPlain mutation hNext

theorem Folds.plainProfile
    {currentUser : User}
    {patch next : ScimUserPatch}
    {attributes : List (Option PatchAttribute)}
    (hFolds : Folds currentUser patch attributes (.ok next))
    (hPlain :
      ∀ mutation, patch.enterpriseProfile = some mutation →
        PlainProfile mutation) :
    ∀ mutation, next.enterpriseProfile = some mutation →
      PlainProfile mutation := by
  generalize hOk : Except.ok next = result at hFolds
  induction hFolds with
  | done patch =>
      cases hOk
      exact hPlain
  | malformed patch rest e hBad => cases hOk
  | failed patch a rest e hApply => cases hOk
  | applied patch between a rest result hApply _ ih =>
      exact ih (plainProfile_apply hPlain hApply) hOk

/- The strings of a patch are plain. -/
theorem plainProfile_parsePatchPayload
    {currentUser : User}
    {payload : Json}
    {patch : ScimUserPatch}
    (hParse :
      parsePatchPayload currentUser payload = .ok patch) :
    ∀ mutation, patch.enterpriseProfile = some mutation →
      PlainProfile mutation := by
  have hFolds := folds_parsePatchPayload currentUser payload
  rw [hParse] at hFolds
  apply hFolds.plainProfile
  intro mutation hNone
  cases hNone

end Scim

end AccessIQ

------------------------------------------------------------
-- Rules Of The Profile Services
------------------------------------------------------------

namespace AccessIQ

namespace Scim

open Foundations Python

variable [Platform]
variable {w : World Question Reply}
variable {c s : Store}
variable {p : List DomainEvent}
variable {ctx : RequestContext}
variable {user : User}
variable {profile : Option EnterpriseProfileMutation}
variable {post :
  Post Store DomainEvent PyException
    (List EnterpriseProfileChange × List DomainEvent)}

theorem wp_createEnterpriseProfile
    (hUser : s.users.get? user.id = some user)
    (hError : ∀ e s' b, post (.error e) ⟨c, s', b, p⟩)
    (hOk :
      ∀ changes events s',
        ProfileStep ctx s user (desiredOf profile false)
            changes events s' →
          post (.ok (changes, eventsAt ctx events))
            ⟨c, s', false, p⟩) :
    (createEnterpriseProfile ctx user profile).wp w post
      ⟨c, s, false, p⟩ := by
  cases profile with
  | none => exact hOk [] [] s (.unset rfl)
  | some mutation =>
      exact wp_applyProfileMutation hUser hError hOk

theorem wp_patchEnterpriseProfile
    (hUser : s.users.get? user.id = some user)
    (hError : ∀ e s' b, post (.error e) ⟨c, s', b, p⟩)
    (hOk :
      ∀ changes events s',
        ProfileStep ctx s user (desiredOf profile false)
            changes events s' →
          post (.ok (changes, eventsAt ctx events))
            ⟨c, s', false, p⟩) :
    (patchEnterpriseProfile ctx user profile).wp w post
      ⟨c, s, false, p⟩ := by
  cases profile with
  | none => exact hOk [] [] s (.unset rfl)
  | some mutation =>
      exact wp_applyProfileMutation hUser hError hOk

/- PUT without an extension clears a profile that exists. -/
theorem wp_replaceEnterpriseProfile
    (hUser : s.users.get? user.id = some user)
    (hError : ∀ e s' b, post (.error e) ⟨c, s', b, p⟩)
    (hOk :
      ∀ changes events s',
        ProfileStep ctx s user (desiredOf profile true)
            changes events s' →
          post (.ok (changes, eventsAt ctx events))
            ⟨c, s', false, p⟩) :
    (replaceEnterpriseProfile ctx user profile).wp w post
      ⟨c, s, false, p⟩ := by
  cases profile with
  | some mutation =>
      exact wp_applyProfileMutation hUser hError hOk
  | none =>
      unfold replaceEnterpriseProfile clearEnterpriseProfile
      rw [Program.wp_bind, Program.wp_view,
        Program.bindPost_ok]
      cases hProfile : s.enterpriseProfileOf user.id with
      | none => exact hOk [] [] s (.absent hProfile rfl)
      | some found =>
          exact wp_applyProfileMutation hUser hError hOk

end Scim

end AccessIQ

------------------------------------------------------------
-- Mutations
------------------------------------------------------------

namespace AccessIQ

namespace Scim

open Foundations Python

variable [Platform]

/-
  A stored user and the row an update leaves; a new user name
  was available.
-/
structure ChangedUser
    (s : Store)
    (old new : User) : Prop where
  id : new.id = old.id
  department : new.department = old.department
  email :
    new.email = old.email ∨
      ∃ userName,
        new.email = Platform.lower userName ∧
          UserNameAvailable s userName old.id

/-
  A user request that goes through has created or changed a
  user and its profile; the strings it sets are plain.
-/
inductive UserMutated
    (ctx : RequestContext)
    (s : Store) :
    Int → List DomainEvent → Store → Prop
  | created
      (userName displayName : String)
      (active : Bool)
      (desired : EnterpriseProfileMutation)
      (events : List EventKind)
      (s' : Store)
      (hFree : s.findUserByUserName userName = none)
      (hPlain : PlainProfile desired)
      (hStep :
        UserStep ctx s
          (createdUser s userName displayName active) desired
          events s') :
      UserMutated ctx s
        (createdUser s userName displayName active).id
        (eventsAt ctx
          (.userProvisioned
              (createdUser s userName displayName active).id
              (createdUser s userName displayName
                active).email ::
            events))
        s'
  | changed
      (old new : User)
      (desired : EnterpriseProfileMutation)
      (events : List EventKind)
      (s' : Store)
      (hGet : s.users.get? old.id = some old)
      (hChanged : ChangedUser s old new)
      (hPlain : PlainProfile desired)
      (hStep : UserStep ctx s new desired events s') :
      UserMutated ctx s new.id (eventsAt ctx events) s'

end Scim

end AccessIQ

------------------------------------------------------------
-- Rules Of The Mutations
------------------------------------------------------------

namespace AccessIQ

namespace Scim

open Foundations Python

variable {w : World Question Reply}
variable {s : Store}
variable {ctx : RequestContext}
variable {actor : User}

/- A denied user request is refused. -/
theorem wp_denyUserRequest
    {α : Type}
    {targetUserId : Int}
    {action : AuditAction}
    {entitlementSlug : String}
    {response : ScimHttpException}
    {post : Post Store DomainEvent PyException α}
    (hScim :
      ∀ r m, Refuses s m → post (.error (.scim r)) m)
    (hMissing :
      ∀ text m, Refuses s m →
        post (.error (.runtimeError text)) m) :
    (denyUserRequest ctx actor targetUserId action
        entitlementSlug response : Handler α).wp w post
      ⟨s, s, false, []⟩ := by
  apply wp_auditAndRaise
  · exact hScim
  · intro m hRefuses
    exact hMissing _ m hRefuses

theorem wp_auditEnterpriseError
    {α : Type}
    {targetUserId : Int}
    {exc : EnterpriseUserServiceError} :
    (auditEnterpriseError ctx actor targetUserId exc :
        Handler α).wp w
      (fun r m => (∃ e, r = .error e) ∧ Refuses s m)
      ⟨s, s, false, []⟩ := by
  unfold auditEnterpriseError
  rw [Program.wp_bind, Program.wp_view, Program.bindPost_ok]
  apply wp_denyUserRequest
  · intro r m hRefuses
    exact ⟨⟨_, rfl⟩, hRefuses⟩
  · intro text m hRefuses
    exact ⟨⟨_, rfl⟩, hRefuses⟩

theorem wp_auditScimException
    {α : Type}
    {targetUserId : Int}
    {exc : ScimHttpException} :
    (auditScimException ctx actor targetUserId exc :
        Handler α).wp w
      (fun r m => (∃ e, r = .error e) ∧ Refuses s m)
      ⟨s, s, false, []⟩ := by
  unfold auditScimException
  apply wp_denyUserRequest
  · intro r m hRefuses
    exact ⟨⟨_, rfl⟩, hRefuses⟩
  · intro text m hRefuses
    exact ⟨⟨_, rfl⟩, hRefuses⟩

theorem wp_denyCreation
    {α : Type}
    {e : PyException}
    {answer : Handler α}
    (hDeny : denyCreation ctx actor e = some answer) :
    answer.wp w
      (fun r m => (∃ e, r = .error e) ∧ Refuses s m)
      ⟨s, s, false, []⟩ := by
  unfold denyCreation at hDeny
  split at hDeny
  · cases hDeny
    exact wp_auditScimException
  · cases hDeny
    exact wp_auditEnterpriseError
  · cases hDeny

variable [Platform]

theorem wp_denyChange
    {α : Type}
    {userId : String}
    {e : PyException}
    {answer : Handler α}
    (hDeny : denyChange ctx actor userId e = some answer) :
    answer.wp w
      (fun r m => (∃ e, r = .error e) ∧ Refuses s m)
      ⟨s, s, false, []⟩ := by
  unfold denyChange at hDeny
  split at hDeny
  · cases hDeny
    exact wp_auditScimException
  · cases hDeny
    exact wp_auditScimException
  · cases hDeny
    rw [Program.wp_bind, Program.wp_view,
      Program.bindPost_ok]
    exact wp_auditEnterpriseError
  · cases hDeny

end Scim

end AccessIQ

------------------------------------------------------------
-- Rules Of The Bodies
------------------------------------------------------------

namespace AccessIQ

namespace Scim

open Foundations Python

variable [Platform]
variable {w : World Question Reply}
variable {s : Store}
variable {ctx : RequestContext}
variable {actor : User}
variable {deny :
  PyException → Option (Handler (Int × List DomainEvent))}

theorem wp_creation
    {userData : ScimUserPayload}
    (hPlain :
      ∀ mutation,
        userData.enterpriseProfile = some mutation →
          PlainProfile mutation) :
    (creation ctx actor userData).wp w
      (MutationPost s deny (UserMutated ctx s))
      ⟨s, s, false, []⟩ := by
  unfold creation
  rw [Program.wp_bind]
  apply wp_createUser
  · intro e s' b
    exact Or.inl ⟨rfl, rfl⟩
  · intro hFree users' user hUsers
    rw [Program.bindPost_ok]
    simp only [Program.wp_bind]
    have hGet : users'.get? user.id = some user :=
      (hUsers.get? user.id).trans (if_pos rfl)
    apply wp_createEnterpriseProfile hGet
    · intro e s' b
      exact Or.inl ⟨rfl, rfl⟩
    · intro changes events s' hProfile
      rw [Program.bindPost_ok]
      simp only [Program.wp_bind]
      apply wp_recordScimAudit
      · intro _
        exact Or.inl ⟨rfl, rfl⟩
      · intro _ error
        exact Or.inl ⟨rfl, rfl⟩
      · intro event _
        rw [Program.bindPost_ok, Program.wp_bind]
        apply wp_recordEnterpriseAudits
        · intro e s'' b
          exact Or.inl ⟨rfl, rfl⟩
        · intro auditEvents'
          rw [Program.bindPost_ok, Program.wp_pure]
          refine ⟨rfl, rfl, rfl, ?_⟩
          have hStep :
              UserStep ctx s user
                (desiredOf userData.enterpriseProfile false)
                events
                { s' with auditEvents := auditEvents' } :=
            .stored users' changes events s' auditEvents'
              hUsers hProfile
          have hMutated :=
            UserMutated.created userData.userName
              userData.displayName userData.active _ events _
              hFree (plainProfile_desiredOf hPlain false) hStep
          exact hMutated

/- The audits of an update, and the answer of its body. -/
theorem wp_auditedUpdate
    {old new : User}
    {users' : Table User}
    {desired : EnterpriseProfileMutation}
    {changes : List EnterpriseProfileChange}
    {events : List EventKind}
    {s' : Store}
    (hGet : s.users.get? old.id = some old)
    (hChanged : ChangedUser s old new)
    (hPlain : PlainProfile desired)
    (hUsers : s.users.Stores users' new)
    (hProfile :
      ProfileStep ctx { s with users := users' } new desired
        changes events s') :
    (do
        recordUpdateAudits ctx actor new changes
        return (new.id, eventsAt ctx events) :
      Handler (Int × List DomainEvent)).wp w
      (MutationPost s deny (UserMutated ctx s))
      ⟨s, s', false, []⟩ := by
  rw [Program.wp_bind]
  unfold recordUpdateAudits
  apply wp_recordProvisioningAudits
  · intro e s'' b
    exact Or.inl ⟨rfl, rfl⟩
  · intro auditEvents'
    rw [Program.bindPost_ok, Program.wp_pure]
    exact ⟨rfl, rfl, rfl,
      .changed old new desired events _ hGet hChanged hPlain
        (.stored users' changes events s' auditEvents' hUsers
          hProfile)⟩

theorem wp_replacement
    {userId : String}
    {userData : ScimUserPayload}
    (hPlain :
      ∀ mutation,
        userData.enterpriseProfile = some mutation →
          PlainProfile mutation) :
    (replacement ctx actor userId userData).wp w
      (MutationPost s deny (UserMutated ctx s))
      ⟨s, s, false, []⟩ := by
  unfold replacement
  rw [Program.wp_bind]
  apply wp_replaceUser
  · intro e b
    exact Or.inl ⟨rfl, rfl⟩
  · intro old users' hFind hAvailable hUsers
    rw [Program.bindPost_ok]
    simp only [Program.wp_bind]
    have hGet := (hUsers.get? _).trans (if_pos rfl)
    apply wp_replaceEnterpriseProfile hGet
    · intro e s' b
      exact Or.inl ⟨rfl, rfl⟩
    · intro changes events s' hProfile
      rw [Program.bindPost_ok]
      have hChanged :
          ChangedUser s old
            (replacedUser old userData.userName
              userData.displayName userData.active) :=
        ⟨rfl, rfl,
          Or.inr ⟨userData.userName, rfl, hAvailable⟩⟩
      have hRest :=
        @wp_auditedUpdate _ w s ctx actor deny old _ users'
          _ changes events s' (get?_of_findUser hFind)
          hChanged (plainProfile_desiredOf hPlain true) hUsers
          hProfile
      simpa only [Program.wp_bind] using hRest

theorem wp_patching
    {old : User}
    {patch : ScimUserPatch}
    (hGet : s.users.get? old.id = some old)
    (hPlain :
      ∀ mutation,
        patch.enterpriseProfile = some mutation →
          PlainProfile mutation) :
    (patching ctx actor old patch).wp w
      (MutationPost s deny (UserMutated ctx s))
      ⟨s, s, false, []⟩ := by
  unfold patching
  rw [Program.wp_bind]
  apply wp_patchUser hGet
  · intro e b
    exact Or.inl ⟨rfl, rfl⟩
  · intro hAvailable users' hUsers
    rw [Program.bindPost_ok]
    simp only [Program.wp_bind]
    have hNew := (hUsers.get? _).trans (if_pos rfl)
    apply wp_patchEnterpriseProfile hNew
    · intro e s' b
      exact Or.inl ⟨rfl, rfl⟩
    · intro changes events s' hProfile
      rw [Program.bindPost_ok]
      have hChanged :
          ChangedUser s old
            (patch.userMutation.applied old) := by
        refine ⟨rfl, rfl, ?_⟩
        unfold UserMutation.applied
        cases hName : patch.userMutation.userName with
        | none => exact Or.inl rfl
        | some userName =>
            exact Or.inr
              ⟨userName, rfl, hAvailable userName hName⟩
      have hRest :=
        @wp_auditedUpdate _ w s ctx actor deny old _ users'
          _ changes events s' hGet hChanged
          (plainProfile_desiredOf hPlain false) hUsers hProfile
      simpa only [Program.wp_bind] using hRest

end Scim

end AccessIQ

------------------------------------------------------------
-- Rules Of The Handlers
------------------------------------------------------------

namespace AccessIQ

namespace Scim

open Foundations Python

variable {w : World Question Reply}
variable {s : Store}
variable {ctx : RequestContext}
variable {actor : User}
variable {baseUrl : String}

theorem reads_refreshedUser
    (s : Store)
    (baseUrl : String)
    (userId : Int) :
    ∃ r, (refreshedUser baseUrl userId).reading s =
      some r := by
  unfold refreshedUser
  apply Program.reads_bind ⟨_, Program.reading_view s⟩
  intro s'
  cases hGet : s'.users.get? userId with
  | none => exact ⟨_, rfl⟩
  | some user =>
      apply Program.reads_bind ⟨_, rfl⟩
      intro user
      exact ⟨_, rfl⟩

variable [Platform]

/-
  How a user mutation ends: it was refused, or it committed a
  change, published its events and answered with what it read
  of the user.
-/
inductive UserServed
    (ctx : RequestContext)
    (baseUrl : String)
    (s : Store) :
    Post Store DomainEvent PyException ScimProvisioningResult
  | refused
      (e : PyException)
      (m : Moment Store DomainEvent)
      (hRefuses : Refuses s m) :
      UserServed ctx baseUrl s (.error e) m
  | mutated
      (r : Except PyException ScimProvisioningResult)
      (userId : Int)
      (events : List DomainEvent)
      (s' : Store)
      (hMutated : UserMutated ctx s userId events s')
      (hReading :
        (refreshedUser baseUrl userId).reading s' = some r) :
      UserServed ctx baseUrl s r ⟨s', s', false, events⟩

-- a rule is applied to a program that is left as it stands
attribute [local irreducible] Program.wp

theorem wp_userProvisioning
    {deny :
      PyException →
        Option (Handler (Int × List DomainEvent))}
    {body : Handler (Int × List DomainEvent)}
    (hDeny :
      ∀ e answer, deny e = some answer →
        answer.wp w
          (fun r m => (∃ e, r = .error e) ∧ Refuses s m)
          ⟨s, s, false, []⟩)
    (hBody :
      body.wp w (MutationPost s deny (UserMutated ctx s))
        ⟨s, s, false, []⟩) :
    (do
        let userId ← provisioning userDatabaseError deny body
        refreshedUser baseUrl userId :
      Handler ScimProvisioningResult).wp w
      (UserServed ctx baseUrl s) ⟨s, s, false, []⟩ := by
  rw [Program.wp_bind]
  apply wp_provisioning hBody hDeny
  · intro userId events s' hMutated
    rw [Program.bindPost_ok]
    rcases reads_refreshedUser s' baseUrl userId with
      ⟨r, hReading⟩
    rw [Program.wp_of_reading hReading]
    exact .mutated r userId events s' hMutated hReading
  · intro e m hRefuses
    exact .refused e m hRefuses

/- A payload that does not parse is denied. -/
theorem wp_denyUserPayload
    {exc : ScimHttpException} :
    (auditScimException ctx actor actor.id exc :
        Handler ScimProvisioningResult).wp w
      (UserServed ctx baseUrl s) ⟨s, s, false, []⟩ := by
  apply Program.wp_mono wp_auditScimException
  rintro r m ⟨⟨e, rfl⟩, hRefuses⟩
  exact .refused e m hRefuses

theorem wp_createScimUser
    {payload : Json} :
    (createScimUser ctx actor payload baseUrl).wp w
      (UserServed ctx baseUrl s) ⟨s, s, false, []⟩ := by
  unfold createScimUser
  cases hParse : parseUserPayload payload true with
  | error exc =>
      cases exc with
      | scim exc => exact wp_denyUserPayload
      | _ =>
          rw [Program.wp_throw]
          exact .refused _ _ ⟨rfl, Or.inl rfl⟩
  | ok userData =>
      simp only
      apply wp_userProvisioning
      · intro e answer hDeny
        exact wp_denyCreation hDeny
      · exact wp_creation
          (plainProfile_parseUserPayload hParse)

theorem wp_replaceScimUser
    {userId : String}
    {payload : Json} :
    (replaceScimUser ctx actor userId payload baseUrl).wp w
      (UserServed ctx baseUrl s) ⟨s, s, false, []⟩ := by
  unfold replaceScimUser
  cases hParse : parseUserPayload payload true with
  | error exc =>
      cases exc with
      | scim exc => exact wp_denyUserPayload
      | _ =>
          rw [Program.wp_throw]
          exact .refused _ _ ⟨rfl, Or.inl rfl⟩
  | ok userData =>
      simp only
      apply wp_userProvisioning
      · intro e answer hDeny
        exact wp_denyChange hDeny
      · exact wp_replacement
          (plainProfile_parseUserPayload hParse)

theorem wp_patchScimUser
    {userId : String}
    {payload : Json} :
    (patchScimUser ctx actor userId payload baseUrl).wp w
      (UserServed ctx baseUrl s) ⟨s, s, false, []⟩ := by
  unfold patchScimUser
  apply wp_userProvisioning
  · intro e answer hDeny
    exact wp_denyChange hDeny
  · rw [Program.wp_bind]
    apply wp_requireUser
    · intro _
      exact Or.inl ⟨rfl, rfl⟩
    · intro old hFind
      rw [Program.bindPost_ok]
      cases hParse : parsePatchPayload old payload with
      | ok patch =>
          simp only
          exact wp_patching (get?_of_findUser hFind)
            (plainProfile_parsePatchPayload hParse)
      | error exc =>
          cases exc with
          | scim exc =>
              simp only
              unfold auditScimException
              -- the denial leaves the mutation as it is
              apply wp_denyUserRequest
              · intro r m hRefuses
                exact Or.inr ⟨hRefuses, rfl, nofun⟩
              · intro text m hRefuses
                exact Or.inr ⟨hRefuses, rfl, nofun⟩
          | _ =>
              simp only
              rw [Program.wp_throw]
              exact Or.inl ⟨rfl, rfl⟩

/- The rule of the three user mutations. -/
theorem wp_userHandler
    {request : UserRequest} :
    (request.handler actor).wp w
      (UserServed request.ctx request.baseUrl s)
      ⟨s, s, false, []⟩ := by
  unfold UserRequest.handler
  cases request.call with
  | create payload => exact wp_createScimUser
  | replace userId payload => exact wp_replaceScimUser
  | patch userId payload => exact wp_patchScimUser

end Scim

end AccessIQ
