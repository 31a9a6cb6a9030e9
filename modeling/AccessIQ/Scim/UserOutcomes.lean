import AccessIQ.Scim.ProfileOutcomes

/-
  What the SCIM user mutations leave behind.

  A mutation that goes through has stored the row of its user
  and applied the desired values to the user's profile.

  Key definitions include:
    * `UserStep`

  Key theorems include:
    * `UserStep.users`
    * `UserStep.attributesOf`
    * `wp_createUser`
    * `wp_replaceUser`
    * `wp_patchUser`
-/

------------------------------------------------------------
-- Steps
------------------------------------------------------------

namespace AccessIQ

namespace Scim

open Foundations Python

variable [Platform]

/-
  A row of the user was stored, the desired values were
  applied to the user's profile, and both were audited.
-/
inductive UserStep
    (ctx : RequestContext)
    (s : Store)
    (user : User)
    (desired : EnterpriseProfileMutation) :
    List EventKind → Store → Prop
  | stored
      (users' : Table User)
      (changes : List EnterpriseProfileChange)
      (events : List EventKind)
      (s' : Store)
      (auditEvents' : Table AuditEvent)
      (hUsers : s.users.Stores users' user)
      (hProfile :
        ProfileStep ctx { s with users := users' } user
          desired changes events s') :
      UserStep ctx s user desired events
        { s' with auditEvents := auditEvents' }

variable {ctx : RequestContext}
variable {s s' : Store}
variable {user : User}
variable {desired : EnterpriseProfileMutation}
variable {events : List EventKind}

/- The user ends up with the department of the profile. -/
theorem UserStep.users
    (hStep : UserStep ctx s user desired events s') :
    s.users.Stores s'.users
      (withAttributes user (s.attributesOf user.id)
        (s'.attributesOf user.id)) := by
  cases hStep with
  | stored users' changes events s₂ auditEvents' hUsers
      hProfile =>
      have hGet : users'.get? user.id = some user :=
        (hUsers.get? user.id).trans (if_pos rfl)
      exact hUsers.trans (hProfile.users hGet)
        (id_withAttributes user _ _).symm

theorem UserStep.attributesOf
    (hStep : UserStep ctx s user desired events s') :
    s'.attributesOf user.id =
      desired.set (s.attributesOf user.id) := by
  cases hStep with
  | stored users' changes events s₂ auditEvents' hUsers
      hProfile =>
      exact hProfile.attributesOf

theorem UserStep.enterpriseProfileOf_ne
    (hStep : UserStep ctx s user desired events s')
    {userId : Int}
    (hNe : userId ≠ user.id) :
    s'.enterpriseProfileOf userId =
      s.enterpriseProfileOf userId := by
  cases hStep with
  | stored users' changes events s₂ auditEvents' hUsers
      hProfile =>
      exact hProfile.enterpriseProfileOf_ne hNe

/- Only users, profiles and audit events are written. -/
theorem UserStep.eq
    (hStep : UserStep ctx s user desired events s') :
    s' =
      { s with
        users := s'.users
        enterpriseUserProfiles := s'.enterpriseUserProfiles
        auditEvents := s'.auditEvents } := by
  cases hStep with
  | stored users' changes events s₂ auditEvents' hUsers
      hProfile =>
      rw [hProfile.eq]

/- The stored user is found. -/
theorem UserStep.get?
    (hStep : UserStep ctx s user desired events s') :
    s'.users.get? user.id =
      some
        (withAttributes user (s.attributesOf user.id)
          (s'.attributesOf user.id)) := by
  rw [hStep.users.get?]
  exact if_pos (id_withAttributes user _ _).symm

end Scim

end AccessIQ

------------------------------------------------------------
-- Rules Of The Services
------------------------------------------------------------

namespace AccessIQ

namespace Scim

open Foundations Python

variable {w : World Question Reply}
variable {c s : Store}
variable {p : List DomainEvent}

theorem wp_recordEnterpriseAudits
    {ctx : RequestContext}
    {actor : User}
    {targetUserId : Int}
    {changes : List EnterpriseProfileChange}
    {post : Post Store DomainEvent PyException Unit}
    (hError : ∀ e s' b, post (.error e) ⟨c, s', b, p⟩)
    (hOk :
      ∀ auditEvents',
        post (.ok ())
          ⟨c, { s with auditEvents := auditEvents' }, false,
            p⟩) :
    (recordEnterpriseAudits ctx actor targetUserId
        changes).wp w post ⟨c, s, false, p⟩ := by
  induction changes generalizing s with
  | nil => exact hOk s.auditEvents
  | cons change changes ih =>
      unfold recordEnterpriseAudits
      rw [Program.wp_bind]
      apply wp_recordScimAudit
      · intro _
        exact hError _ _ _
      · intro _ error
        exact hError _ _ _
      · intro event _
        rw [Program.bindPost_ok]
        apply ih
        intro auditEvents'
        exact hOk auditEvents'

/- A mutation is audited once, and once for each change. -/
theorem wp_recordProvisioningAudits
    {ctx : RequestContext}
    {actor : User}
    {targetUserId : Int}
    {action : AuditAction}
    {result : AuditResult}
    {reason : String}
    {changes : List EnterpriseProfileChange}
    {post : Post Store DomainEvent PyException Unit}
    (hError : ∀ e s' b, post (.error e) ⟨c, s', b, p⟩)
    (hOk :
      ∀ auditEvents',
        post (.ok ())
          ⟨c, { s with auditEvents := auditEvents' }, false,
            p⟩) :
    (do
        recordProvisioningAudit ctx actor targetUserId action
          result reason
        recordEnterpriseAudits ctx actor targetUserId
          changes :
      Handler Unit).wp w post ⟨c, s, false, p⟩ := by
  rw [Program.wp_bind]
  apply wp_recordScimAudit
  · intro _
    exact hError _ _ _
  · intro _ error
    exact hError _ _ _
  · intro event _
    rw [Program.bindPost_ok]
    apply wp_recordEnterpriseAudits
    · exact hError
    · intro auditEvents'
      exact hOk auditEvents'

variable [Platform]

/- No other user is found under the user name. -/
def UserNameAvailable
    (s : Store)
    (userName : String)
    (userId : Int) : Prop :=
  ∀ found,
    s.findUserByUserName userName = some found →
      found.id = userId

theorem wp_ensureUserNameAvailable
    {userName : String}
    {user : User}
    {post : Post Store DomainEvent PyException Unit}
    (hError :
      ¬ UserNameAvailable s userName user.id →
        ∀ e, post (.error e) ⟨c, s, false, p⟩)
    (hOk :
      UserNameAvailable s userName user.id →
        post (.ok ()) ⟨c, s, false, p⟩) :
    (ensureUserNameAvailable userName user).wp w post
      ⟨c, s, false, p⟩ := by
  unfold ensureUserNameAvailable
  rw [Program.wp_bind, Program.wp_view, Program.bindPost_ok]
  cases hFind : s.findUserByUserName userName with
  | none =>
      apply hOk
      intro found hFound
      cases hFind.symm.trans hFound
  | some existing =>
      simp only [Program.wp_raiseIf]
      constructor
      · intro hOther
        apply hError
        intro hAvailable
        exact hOther (hAvailable existing hFind)
      · intro hSame
        apply hOk
        intro found hFound
        cases hFind.symm.trans hFound
        exact not_not.mp hSame

/- The row of a user that is created. -/
def createdUser
    (s : Store)
    (userName displayName : String)
    (active : Bool) :
    User :=
  { newUser userName displayName active with
    id := s.users.freshId s.dialect.keyPolicy }

theorem wp_createUser
    {ctx : RequestContext}
    {userName displayName : String}
    {active : Bool}
    {post :
      Post Store DomainEvent PyException
        (User × List DomainEvent)}
    (hError : ∀ e s' b, post (.error e) ⟨c, s', b, p⟩)
    (hOk :
      s.findUserByUserName userName = none →
        ∀ users',
          let user :=
            createdUser s userName displayName active
          s.users.Stores users' user →
            post
              (.ok
                (user,
                  eventsAt ctx
                    [.userProvisioned user.id user.email]))
              ⟨c, { s with users := users' }, false, p⟩) :
    (createUser ctx userName displayName active).wp w post
      ⟨c, s, false, p⟩ := by
  unfold createUser
  rw [Program.wp_bind, Program.wp_view, Program.bindPost_ok]
  cases hFind : s.findUserByUserName userName with
  | some existing => exact hError _ _ _
  | none =>
      simp only [Program.wp_bind, Program.wp_flush]
      refine ⟨fun _ => hError _ _ _, ?_,
        fun e _ => hError _ _ _⟩
      intro s₁ id hInsert
      rcases Store.insertInto_eq_ok_iff.mp hInsert with
        ⟨-, hFits, rfl, rfl⟩
      exact hOk hFind _
        (Table.stores_insert s.dialect.keyPolicy s.users
          hFits)

theorem wp_requireUser
    {userId : String}
    {post : Post Store DomainEvent PyException User}
    (hError :
      s.findUser userId = none →
        post (.error (.userService (.userNotFound userId)))
          ⟨c, s, false, p⟩)
    (hOk :
      ∀ user, s.findUser userId = some user →
        post (.ok user) ⟨c, s, false, p⟩) :
    (requireUser userId).wp w post ⟨c, s, false, p⟩ := by
  unfold requireUser
  rw [Program.wp_bind, Program.wp_view, Program.bindPost_ok,
    Program.wp_getOrRaise]
  exact ⟨hError, hOk⟩

theorem get?_of_findUser
    {userId : String}
    {user : User}
    (hFind : s.findUser userId = some user) :
    s.users.get? user.id = some user := by
  unfold Store.findUser at hFind
  cases hParse : parseInt userId with
  | none =>
      rw [hParse] at hFind
      cases hFind
  | some id =>
      rw [hParse] at hFind
      simp only at hFind
      by_cases hPositive : id < 1
      · rw [if_pos hPositive] at hFind
        cases hFind
      · rw [if_neg hPositive] at hFind
        have hId : user.id = id := Table.id_of_get? hFind
        rw [hId]
        exact hFind

/- A user after a replacement. -/
def replacedUser
    (old : User)
    (userName displayName : String)
    (active : Bool) :
    User :=
  { old with
    email := Platform.lower userName
    name := displayName
    active := active }

theorem wp_replaceUser
    {userId userName displayName : String}
    {active : Bool}
    {post : Post Store DomainEvent PyException User}
    (hError : ∀ e b, post (.error e) ⟨c, s, b, p⟩)
    (hOk :
      ∀ old users',
        s.findUser userId = some old →
        UserNameAvailable s userName old.id →
        s.users.Stores users'
            (replacedUser old userName displayName active) →
          post
            (.ok
              (replacedUser old userName displayName active))
            ⟨c, { s with users := users' }, false, p⟩) :
    (replaceUser userId userName displayName active).wp w
      post ⟨c, s, false, p⟩ := by
  unfold replaceUser
  rw [Program.wp_bind]
  apply wp_requireUser
  · intro _
    exact hError _ _
  · intro old hFind
    rw [Program.bindPost_ok, Program.wp_bind]
    apply wp_ensureUserNameAvailable
    · intro _ e
      exact hError _ _
    · intro hAvailable
      rw [Program.bindPost_ok, Program.wp_bind]
      have hSame : SameUser old
          (replacedUser old userName displayName active) :=
        ⟨rfl, rfl⟩
      apply wp_flushUser (get?_of_findUser hFind) hSame
      · intro _ e
        exact hError _ _
      · intro users' hUsers
        exact hOk old users' hFind hAvailable hUsers

theorem wp_patchUser
    {old : User}
    {mutation : UserMutation}
    {post : Post Store DomainEvent PyException User}
    (hGet : s.users.get? old.id = some old)
    (hError : ∀ e b, post (.error e) ⟨c, s, b, p⟩)
    (hOk :
      (∀ userName,
        mutation.userName = some userName →
          UserNameAvailable s userName old.id) →
      ∀ users',
        s.users.Stores users' (mutation.applied old) →
          post (.ok (mutation.applied old))
            ⟨c, { s with users := users' }, false, p⟩) :
    (patchUser old mutation).wp w post ⟨c, s, false, p⟩ := by
  have hFlush :
      (∀ userName,
        mutation.userName = some userName →
          UserNameAvailable s userName old.id) →
      (do
          flushUser old (mutation.applied old)
          return mutation.applied old :
        Handler User).wp w post ⟨c, s, false, p⟩ := by
    intro hAvailable
    have hSame : SameUser old (mutation.applied old) :=
      ⟨rfl, rfl⟩
    rw [Program.wp_bind]
    apply wp_flushUser hGet hSame
    · intro _ e
      exact hError _ _
    · intro users' hUsers
      exact hOk hAvailable users' hUsers
  unfold patchUser
  rw [Program.wp_bind]
  unfold checkUserName
  cases hName : mutation.userName with
  | none =>
      apply hFlush
      intro userName hSome
      cases hName.symm.trans hSome
  | some userName =>
      apply wp_ensureUserNameAvailable
      · intro _ e
        exact hError _ _
      · intro hAvailable
        apply hFlush
        intro other hSome
        cases hName.symm.trans hSome
        exact hAvailable

end Scim

end AccessIQ
