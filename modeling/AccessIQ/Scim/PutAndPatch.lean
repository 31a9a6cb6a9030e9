import AccessIQ.Foundations.Equivalence
import AccessIQ.Scim.ExtensionPatch
import AccessIQ.Scim.UserRules
import AccessIQ.Seed

/-
  A replacement of a user, said as a PATCH.

  PUT clears what its payload leaves out and PATCH keeps what
  its operations leave out, and the two are parsed and served
  by code of their own.  A PATCH that sets the three core
  attributes, removes the extension and then sets it to that
  of the payload does nonetheless the same in every run.

  Key definitions include:
    * `replaceOperation`
    * `removeOperation`
    * `patchOf`

  Key theorems include:
    * `parsePatchPayload_patchOf`
    * `same_clearEnterpriseProfile`
    * `put_and_patch_agree`
-/

------------------------------------------------------------
-- The Operations
------------------------------------------------------------

namespace AccessIQ

namespace Scim

open Foundations Python

/- An operation that replaces what a path names. -/
def replaceOperation
    (path : String)
    (value : Json) :
    Json :=
  .object
    [("op", .string "replace"), ("path", .string path),
      ("value", value)]

/- An operation that removes what a path names. -/
def removeOperation
    (path : String) :
    Json :=
  .object
    [("op", .string "remove"), ("path", .string path)]

/- An extension that a payload carries is set as it is. -/
def extensionOperations
    (payload : JsonObject) :
    List Json :=
  match JsonObject.get? payload scimSchemaEnterpriseUser with
  | none => []
  | some extension =>
      [replaceOperation scimSchemaEnterpriseUser extension]

/-
  The PATCH payload for a PUT payload: the user name as it
  is, the display name and the state as they are resolved,
  and the extension in place of the one there was.
-/
def patchOf
    (payload : JsonObject)
    (userData : ScimUserPayload) :
    Json :=
  .object
    [("Operations",
      .array
        ([replaceOperation "userName"
              (getOrNull payload "userName"),
            replaceOperation "displayName"
              (.string userData.displayName),
            replaceOperation "active"
              (.bool userData.active),
            removeOperation scimSchemaEnterpriseUser] ++
          extensionOperations payload))]

end Scim

end AccessIQ

------------------------------------------------------------
-- The Patch
------------------------------------------------------------

namespace AccessIQ

namespace Scim

open Foundations Python

/- Plain text is read as it is. -/
theorem parseDisplayNameValue_of_plain
    {name : String}
    (hPlain : PlainText name) :
    parseDisplayNameValue (.string name) = .ok name := by
  have hEmpty := hPlain.1.1
  have hStrip := hPlain.1.2
  have hShort := hPlain.2
  unfold parseDisplayNameValue
  simp only [hStrip]
  rw [if_neg hEmpty, if_neg (by omega)]

variable [Platform]

theorem named_replace :
    PatchOp.named (Platform.lower "replace") =
      some .replace := by
  rw [Platform.lower_of_isAscii _ (by decide)]
  rfl

theorem named_remove :
    PatchOp.named (Platform.lower "remove") =
      some .remove := by
  rw [Platform.lower_of_isAscii _ (by decide)]
  rfl

theorem normalize_extension :
    normalizeEnterprisePatchPath scimSchemaEnterpriseUser =
      some .extension :=
  if_pos rfl

/- A core attribute is none of the extension. -/
theorem normalize_core
    {path : String}
    (hPath :
      path ∈ ["userName", "displayName", "active"]) :
    normalizeEnterprisePatchPath path = none := by
  have hAscii :
      ∀ path ∈ ["userName", "displayName", "active"],
        isAscii path = true := by
    decide
  have hApart :
      ∀ path ∈ ["userName", "displayName", "active"],
        asciiLower path ≠
            asciiLower scimSchemaEnterpriseUser ∧
          (asciiLower enterprisePathPrefix).toList.isPrefixOf
              (asciiLower path).toList =
            false ∧
          enterprisePatchPaths.lookup (asciiLower path) =
            none := by
    decide
  have hLower :=
    Platform.lower_of_isAscii path (hAscii path hPath)
  rcases hApart path hPath with ⟨hOther, hPrefix, hLookup⟩
  unfold normalizeEnterprisePatchPath
  rw [hLower,
    Platform.lower_of_isAscii scimSchemaEnterpriseUser
      (by decide),
    if_neg hOther,
    Platform.lower_of_isAscii enterprisePathPrefix
      (by decide),
    hPrefix]
  simp only [Bool.false_eq_true, if_false]
  rw [hLower]
  exact hLookup

theorem applyPatchOperation_replace
    (currentUser : User)
    (patch : ScimUserPatch)
    (path : String)
    (value : Json) :
    applyPatchOperation currentUser patch
        (replaceOperation path value) =
      applyAttributePatch currentUser patch .replace path
        value :=
  applyPatchOperation_path
    ⟨named_replace, by decide⟩ currentUser patch path value

/- The removal of the extension clears all of it. -/
theorem applyPatchOperation_remove
    (currentUser : User)
    (patch : ScimUserPatch) :
    applyPatchOperation currentUser patch
        (removeOperation scimSchemaEnterpriseUser) =
      .ok
        (mergeEnterpriseMutation patch
          clearEnterpriseMutation) := by
  have hRawOp :
      getOrNull
          [("op", Json.string "remove"),
            ("path", .string scimSchemaEnterpriseUser)]
          "op" =
        .string "remove" := rfl
  have hPath :
      getOrNull
          [("op", Json.string "remove"),
            ("path", .string scimSchemaEnterpriseUser)]
          "path" =
        .string scimSchemaEnterpriseUser := rfl
  unfold applyPatchOperation removeOperation
  simp only [hRawOp, named_remove]
  unfold applyNamedOperation
  simp only [hPath]
  rw [if_neg (by simp)]
  unfold applyAttributePatch
  rw [normalize_extension]
  rfl

/- A core attribute is replaced in the mutation. -/
theorem applyPatchOperation_core
    (path : String)
    (normalizedPath : PatchPath)
    (hPath :
      path ∈ ["userName", "displayName", "active"])
    (hLookup :
      patchPaths.lookup (asciiLower path) =
        some normalizedPath)
    (currentUser : User)
    (patch : ScimUserPatch)
    {value : Json}
    {mutation : UserMutation}
    (hSet :
      setAttribute patch.userMutation normalizedPath value =
        .ok mutation) :
    applyPatchOperation currentUser patch
        (replaceOperation path value) =
      .ok { patch with userMutation := mutation } := by
  have hAscii :
      ∀ path ∈ ["userName", "displayName", "active"],
        isAscii path = true := by
    decide
  rw [applyPatchOperation_replace]
  unfold applyAttributePatch
  rw [normalize_core hPath,
    Platform.lower_of_isAscii path (hAscii path hPath)]
  simp only [hLookup]
  rw [if_neg (by decide), hSet]
  rfl

/- What a PUT payload sets, as a patch. -/
def ScimUserPayload.asPatch
    (userData : ScimUserPayload) :
    ScimUserPatch where
  userMutation :=
    { userName := some userData.userName
      displayName := some userData.displayName
      active := some userData.active }
  enterpriseProfile :=
    some (desiredOf userData.enterpriseProfile true)

/- The parts of a payload that was accepted. -/
theorem parseUserPayload_eq_ok
    {payload : JsonObject}
    {userData : ScimUserPayload}
    (hParse :
      parseUserPayload (.object payload) true =
        .ok userData) :
    parseUserName (getOrNull payload "userName") =
        .ok userData.userName ∧
      PlainText userData.displayName ∧
      parseEnterpriseProfilePayload
          (JsonObject.get? payload
            scimSchemaEnterpriseUser) =
        .ok userData.enterpriseProfile := by
  unfold parseUserPayload at hParse
  rcases bind_eq_ok hParse with ⟨userName, hName, hParse⟩
  rcases bind_eq_ok hParse with ⟨display, hDisplay, hParse⟩
  rcases bind_eq_ok hParse with ⟨active, -, hParse⟩
  rcases bind_eq_ok hParse with ⟨profile, hProfile, hParse⟩
  have hPlain := parseDisplayName_parses payload
  rw [hDisplay] at hPlain
  cases hPlain with
  | ok _ hPlain =>
      injection hParse with hEq
      subst hEq
      exact ⟨hName, hPlain, hProfile⟩

omit [Platform] in
theorem foldlM_cons_of_ok
    {α β : Type}
    {f : β → α → Except PyException β}
    {a : α}
    {b b' : β}
    (l : List α)
    (hOk : f b a = .ok b') :
    (a :: l).foldlM f b = l.foldlM f b' := by
  rw [List.foldlM_cons, hOk]
  rfl

/- The extension of the payload in place of the one before. -/
theorem foldlM_extensionOperations
    {payload : JsonObject}
    {profile : Option EnterpriseProfileMutation}
    (hProfile :
      parseEnterpriseProfilePayload
          (JsonObject.get? payload
            scimSchemaEnterpriseUser) =
        .ok profile)
    (currentUser : User)
    (mutation : UserMutation) :
    (extensionOperations payload).foldlM
        (applyPatchOperation currentUser)
        { userMutation := mutation
          enterpriseProfile := some clearEnterpriseMutation } =
      .ok
        { userMutation := mutation
          enterpriseProfile :=
            some (desiredOf profile true) } := by
  unfold extensionOperations
  cases hExtension :
      JsonObject.get? payload scimSchemaEnterpriseUser with
  | none =>
      rw [hExtension] at hProfile
      cases hProfile
      rfl
  | some extension =>
      rw [hExtension] at hProfile
      cases extension with
      | object extension =>
          rcases map_eq_ok hProfile with
            ⟨parsed, hParsed, hSome⟩
          have hApply :=
            applyPatchOperation_extension
              ⟨named_replace, by decide⟩ currentUser
              { userMutation := mutation
                enterpriseProfile :=
                  some clearEnterpriseMutation }
              extension
          rw [hParsed] at hApply
          have hOne :
              [replaceOperation scimSchemaEnterpriseUser
                    (.object extension)].foldlM
                  (applyPatchOperation currentUser)
                  { userMutation := mutation
                    enterpriseProfile :=
                      some clearEnterpriseMutation } =
                applyPatchOperation currentUser
                  { userMutation := mutation
                    enterpriseProfile :=
                      some clearEnterpriseMutation }
                  (extensionOperation "replace"
                    extension) := by
            rw [List.foldlM_cons]
            exact bind_pure _
          subst hSome
          exact hOne.trans hApply
      | null => cases hProfile
      | bool b => cases hProfile
      | number n => cases hProfile
      | string text => cases hProfile
      | array items => cases hProfile

/- The operations come to what the payload sets. -/
theorem parsePatchPayload_patchOf
    {payload : JsonObject}
    {userData : ScimUserPayload}
    (hParse :
      parseUserPayload (.object payload) true =
        .ok userData)
    (currentUser : User) :
    parsePatchPayload currentUser
        (patchOf payload userData) =
      .ok userData.asPatch := by
  rcases parseUserPayload_eq_ok hParse with
    ⟨hName, hPlain, hProfile⟩
  have hUserName :
      applyPatchOperation currentUser { userMutation := {} }
          (replaceOperation "userName"
            (getOrNull payload "userName")) =
        .ok
          { userMutation :=
              { userName := some userData.userName } } := by
    apply applyPatchOperation_core "userName" .userName
      (by decide) (by decide)
    unfold setAttribute
    simp only [hName]
    rfl
  have hDisplayName :
      applyPatchOperation currentUser
          { userMutation :=
              { userName := some userData.userName } }
          (replaceOperation "displayName"
            (.string userData.displayName)) =
        .ok
          { userMutation :=
              { userName := some userData.userName
                displayName :=
                  some userData.displayName } } := by
    apply applyPatchOperation_core "displayName" .displayName
      (by decide) (by decide)
    unfold setAttribute
    simp only [parseDisplayNameValue_of_plain hPlain]
    rfl
  have hActive :
      applyPatchOperation currentUser
          { userMutation :=
              { userName := some userData.userName
                displayName := some userData.displayName } }
          (replaceOperation "active"
            (.bool userData.active)) =
        .ok
          { userMutation :=
              userData.asPatch.userMutation } := by
    apply applyPatchOperation_core "active" .active
      (by decide) (by decide)
    rfl
  have hRemove :=
    applyPatchOperation_remove currentUser
      { userMutation := userData.asPatch.userMutation }
  have hRest :=
    foldlM_extensionOperations hProfile currentUser
      userData.asPatch.userMutation
  have hOperations :
      parsePatchPayload currentUser
          (patchOf payload userData) =
        ([replaceOperation "userName"
                (getOrNull payload "userName"),
              replaceOperation "displayName"
                (.string userData.displayName),
              replaceOperation "active"
                (.bool userData.active),
              removeOperation scimSchemaEnterpriseUser] ++
            extensionOperations payload).foldlM
          (applyPatchOperation currentUser)
          { userMutation := {} } :=
    rfl
  rw [hOperations, List.cons_append, List.cons_append,
    List.cons_append, List.cons_append, List.nil_append,
    foldlM_cons_of_ok _ hUserName,
    foldlM_cons_of_ok _ hDisplayName,
    foldlM_cons_of_ok _ hActive,
    foldlM_cons_of_ok _ hRemove]
  exact hRest

end Scim

end AccessIQ

------------------------------------------------------------
-- The Requests
------------------------------------------------------------

namespace AccessIQ

namespace Scim

open Foundations Python

variable [Platform]

/- The profile is looked for once more, and is the same. -/
theorem same_clearEnterpriseProfile
    (ctx : RequestContext)
    (user : User) :
    Program.Same
      (clearEnterpriseProfile ctx user)
      (applyProfileMutation ctx user clearEnterpriseMutation
        false) := by
  change Program.Same (Program.view >>= _)
    (Program.view >>= _)
  apply Program.same_view_bind
  intro o s hUnbroken
  cases hProfile :
      s.working.enterpriseProfileOf user.id with
  | none => rfl
  | some profile =>
      apply (Program.run_view_bind hUnbroken _).trans
      simp only [hProfile]

/- PUT and the PATCH for it change the profile alike. -/
theorem same_replaceEnterpriseProfile
    (ctx : RequestContext)
    (user : User)
    (profile : Option EnterpriseProfileMutation) :
    Program.Same
      (replaceEnterpriseProfile ctx user profile)
      (patchEnterpriseProfile ctx user
        (some (desiredOf profile true))) := by
  cases profile with
  | none => exact same_clearEnterpriseProfile ctx user
  | some mutation => exact Program.same_refl _

/- A replacement is the patch of the user that is found. -/
theorem same_replacement
    (ctx : RequestContext)
    (actor : User)
    (userId : String)
    (userData : ScimUserPayload) :
    Program.Same
      (replacement ctx actor userId userData)
      (do
        let currentUser ← requireUser userId
        patching ctx actor currentUser userData.asPatch) := by
  have hUser :
      replaceUser userId userData.userName
          userData.displayName userData.active =
        (do
          let currentUser ← requireUser userId
          patchUser currentUser
            userData.asPatch.userMutation) :=
    rfl
  unfold replacement
  rw [hUser]
  apply (Program.same_bind_assoc _ _ _).trans
  apply (Program.same_refl _).bind
  intro currentUser
  apply (Program.same_refl _).bind
  intro user
  apply (same_replaceEnterpriseProfile ctx user _).bind
  intro changed
  exact Program.same_refl _

variable {payload : JsonObject}
variable {userData : ScimUserPayload}

/-
  An accepted PUT payload and the PATCH for it are served
  alike: with the same answer, whether a refusal or the
  resource, the same rows and audit events, and the same
  published events, also where the database fails.
-/
theorem put_and_patch_agree
    (hParse :
      parseUserPayload (.object payload) true =
        .ok userData)
    (ctx : RequestContext)
    (baseUrl userId : String)
    (o : Oracle Question Reply)
    (s : Store) :
    (UserRequest.serve
          ⟨ctx, baseUrl,
            .replace userId (.object payload)⟩).serve o s =
      (UserRequest.serve
          ⟨ctx, baseUrl,
            .patch userId (patchOf payload userData)⟩).serve
        o s := by
  apply Program.Same.serve_eq
  apply (Program.same_refl _).bind
  intro actor
  have hReplace :
      replaceScimUser ctx actor userId (.object payload)
          baseUrl =
        (do
          let id ←
            provisioning userDatabaseError
              (denyChange ctx actor userId)
              (replacement ctx actor userId userData)
          refreshedUser baseUrl id) := by
    unfold replaceScimUser
    rw [hParse]
  have hPatch :
      patchScimUser ctx actor userId
          (patchOf payload userData) baseUrl =
        (do
          let id ←
            provisioning userDatabaseError
              (denyChange ctx actor userId)
              (do
                let currentUser ← requireUser userId
                patching ctx actor currentUser
                  userData.asPatch)
          refreshedUser baseUrl id) := by
    unfold patchScimUser
    simp only [parsePatchPayload_patchOf hParse]
  change
    Program.Same
      (replaceScimUser ctx actor userId (.object payload)
        baseUrl)
      (patchScimUser ctx actor userId
        (patchOf payload userData) baseUrl)
  rw [hReplace, hPatch]
  have hBody :=
    same_replacement ctx actor userId userData
  apply Program.Same.bind
  · unfold provisioning
    apply Program.Same.bind
    · apply Program.Same.tryCatch
      apply hBody.bind
      intro done
      exact Program.same_refl _
    · intro done
      exact Program.same_refl _
  · intro id
    exact Program.same_refl _

end Scim

end AccessIQ

------------------------------------------------------------
-- A Replacement
------------------------------------------------------------

namespace AccessIQ

open Foundations Python Scim

namespace Scim

attribute [local instance] asciiPlatform

/- Alice under her formatted name, with a manager. -/
def alicePayload : JsonObject :=
  [("userName", .string " Alice@Example.com"),
    ("name", .object [("formatted", .string "Alice A. ")]),
    (scimSchemaEnterpriseUser,
      .object
        [("department", .string "Finance"),
          ("manager", .object [("value", .string "4")])])]

def aliceData : ScimUserPayload where
  userName := "alice@example.com"
  displayName := "Alice A."
  active := true
  enterpriseProfile :=
    some
      { department := some (some "Finance")
        managerId := some (some 4) }

theorem put_and_patch_agree_alice :
    (UserRequest.serve
          ⟨⟨"request-1", 0, 4⟩, "",
            .replace "3" (.object alicePayload)⟩).serve
        steadyEnvironment (seededStore .sqlite) =
      (UserRequest.serve
          ⟨⟨"request-1", 0, 4⟩, "",
            .patch "3" (patchOf alicePayload aliceData)⟩).serve
        steadyEnvironment (seededStore .sqlite) :=
  put_and_patch_agree (by rfl) ⟨"request-1", 0, 4⟩ "" "3"
    steadyEnvironment (seededStore .sqlite)

example :
    ((UserRequest.serve
            ⟨⟨"request-1", 0, 4⟩, "",
              .patch "3"
                (patchOf alicePayload aliceData)⟩).serve
          steadyEnvironment
          (seededStore .sqlite)).committed.attributesOf 3 =
      { department := some "Finance", managerId := some 4 } :=
  by decide +kernel

end Scim

end AccessIQ
