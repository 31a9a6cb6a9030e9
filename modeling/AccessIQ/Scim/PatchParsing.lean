import AccessIQ.Seed
import AccessIQ.Scim.PayloadParsing

/-
  What the parser of the SCIM user patches returns.

  The operations of a PATCH are flattened into attributes,
  which are applied one after another.  An attribute is
  accepted or not whatever came before it, and the manager of
  the patch is the one that was assigned last.

  Key definitions include:
    * `patchAttributes`
    * `lastManager`
    * `Reaches`
    * `Folds`

  Key theorems include:
    * `folds_parsePatchPayload`
    * `applyAttributePatch_step`
    * `Folds.outcome`
    * `parsePatchPayload_parses_iff`
    * `parses_exactly_iff`
-/

------------------------------------------------------------
-- Patch Attributes
------------------------------------------------------------

namespace AccessIQ

namespace Scim

open Python

/- An attribute that an operation adds, replaces or removes. -/
structure PatchAttribute where
  op : PatchOp
  path : String
  value : Json
  deriving Repr

/-
  The attributes of an operation; `none` stands for one that
  is refused before its attributes are looked at.
-/
def namedAttributes
    (op : PatchOp)
    (operation : JsonObject) :
    List (Option PatchAttribute) :=
  match getOrNull operation "path" with
  | .null =>
      if op = .remove then
        [none]
      else
        match getOrNull operation "value" with
        | .object attributes =>
            attributes.map fun member =>
              some ⟨op, member.1, member.2⟩
        | _ => [none]
  | .string path =>
      if op ≠ .remove ∧
          (JsonObject.get? operation "value").isNone then
        [none]
      else
        [some ⟨op, path, getOrNull operation "value"⟩]
  | _ => [none]

/- A mutation of plain strings. -/
structure PlainPatch
    (currentUser : User)
    (patch : ScimUserPatch) : Prop where
  userName :
    ∀ userName,
      patch.userMutation.userName = some userName →
        Trimmed userName
  displayName :
    ∀ displayName,
      patch.userMutation.displayName = some displayName →
        Trimmed displayName ∧
          (displayName.length ≤ 100 ∨
            displayName = currentUser.email)
  profile :
    ∀ profile,
      patch.enterpriseProfile = some profile →
        PlainProfile profile

/- The manager that a patch sets or clears. -/
def ScimUserPatch.managerId
    (patch : ScimUserPatch) :
    Option (Option Int) :=
  patch.enterpriseProfile.bind
    EnterpriseProfileMutation.managerId

variable [Platform]

def operationAttributes
    (operation : Json) :
    List (Option PatchAttribute) :=
  match operation with
  | .object operation =>
      match getOrNull operation "op" with
      | .string rawOp =>
          match PatchOp.named (Platform.lower rawOp) with
          | some op => namedAttributes op operation
          | none => [none]
      | _ => [none]
  | _ => [none]

/- The attributes of all operations in order. -/
def patchAttributes
    (payload : Json) :
    List (Option PatchAttribute) :=
  match payload with
  | .object payload =>
      match getOrNull payload "Operations" with
      | .array (operation :: operations) =>
          (operation :: operations).flatMap
            operationAttributes
      | _ => [none]
  | _ => [none]

/-
  What an attribute assigns to the manager: nothing, `some
  none` to clear it, or a manager value.
-/
def PatchAttribute.manager
    (a : PatchAttribute) :
    Option (Option Json) :=
  match normalizeEnterprisePatchPath a.path with
  | some .manager =>
      some (if a.op = .remove then none else some a.value)
  | some .extension =>
      if a.op = .remove then
        some none
      else
        match a.value with
        | .object extension =>
            (JsonObject.get? extension "manager").map some
        | _ => none
  | _ => none

/- The manager value that the last assignment leaves. -/
def lastManager
    (last : Option Json) :
    List (Option PatchAttribute) → Option Json
  | [] => last
  | a :: rest =>
      lastManager ((a.bind PatchAttribute.manager).getD last)
        rest

def PatchAttribute.apply
    (currentUser : User)
    (patch : ScimUserPatch)
    (a : PatchAttribute) :
    Except PyException ScimUserPatch :=
  applyAttributePatch currentUser patch a.op a.path a.value

/- An attribute that is taken, whatever came before it. -/
def PatchAttribute.Accepted
    (currentUser : User)
    (a : PatchAttribute) : Prop :=
  ∃ patch next, a.apply currentUser patch = .ok next

/- The strings beside the manager of an extension are taken. -/
def PatchAttribute.StringsAccepted
    (a : PatchAttribute) : Prop :=
  normalizeEnterprisePatchPath a.path = some .extension →
    ∀ extension,
      a.value = .object extension →
        Scim.StringsAccepted extension

/- The parser of an attribute comes to a manager value. -/
def PatchAttribute.ComesTo
    (a : PatchAttribute)
    (value : Json) : Prop :=
  a.manager = some (some value) ∧ a.StringsAccepted

/-
  The parser comes to a manager value: all the attributes
  before it are accepted.
-/
inductive Reaches
    (currentUser : User) :
    List (Option PatchAttribute) → Json → Prop
  | here
      {a : PatchAttribute}
      {rest : List (Option PatchAttribute)}
      {value : Json}
      (hComes : a.ComesTo value) :
      Reaches currentUser (some a :: rest) value
  | later
      {a : PatchAttribute}
      {rest : List (Option PatchAttribute)}
      {value : Json}
      (hAccepted : a.Accepted currentUser)
      (hReaches : Reaches currentUser rest value) :
      Reaches currentUser (some a :: rest) value

/- What folding attributes into a patch comes to. -/
inductive Folds
    (currentUser : User) :
    ScimUserPatch →
      List (Option PatchAttribute) →
        Except PyException ScimUserPatch → Prop
  | done
      (patch : ScimUserPatch) :
      Folds currentUser patch [] (.ok patch)
  | malformed
      (patch : ScimUserPatch)
      (rest : List (Option PatchAttribute))
      (e : PyException)
      (hBad : BadRequest e) :
      Folds currentUser patch (none :: rest) (.error e)
  | failed
      (patch : ScimUserPatch)
      (a : PatchAttribute)
      (rest : List (Option PatchAttribute))
      (e : PyException)
      (hApply : a.apply currentUser patch = .error e) :
      Folds currentUser patch (some a :: rest) (.error e)
  | applied
      (patch next : ScimUserPatch)
      (a : PatchAttribute)
      (rest : List (Option PatchAttribute))
      (result : Except PyException ScimUserPatch)
      (hApply : a.apply currentUser patch = .ok next)
      (hRest : Folds currentUser next rest result) :
      Folds currentUser patch (some a :: rest) result

theorem Folds.append
    {currentUser : User}
    {patch next : ScimUserPatch}
    {before after : List (Option PatchAttribute)}
    {result : Except PyException ScimUserPatch}
    (hBefore : Folds currentUser patch before (.ok next))
    (hAfter : Folds currentUser next after result) :
    Folds currentUser patch (before ++ after) result := by
  generalize hOk : Except.ok next = reached at hBefore
  induction hBefore with
  | done patch =>
      cases hOk
      exact hAfter
  | malformed patch rest e hBad => cases hOk
  | failed patch a rest e hApply => cases hOk
  | applied patch next a rest result hApply _ ih =>
      exact .applied _ _ _ _ _ hApply (ih hOk)

theorem Folds.append_error
    {currentUser : User}
    {patch : ScimUserPatch}
    {before : List (Option PatchAttribute)}
    {e : PyException}
    (hBefore : Folds currentUser patch before (.error e))
    (after : List (Option PatchAttribute)) :
    Folds currentUser patch (before ++ after) (.error e) := by
  generalize hError : Except.error e = reached at hBefore
  induction hBefore with
  | done patch => cases hError
  | malformed patch rest e' hBad =>
      cases hError
      exact .malformed _ _ _ hBad
  | failed patch a rest e' hApply =>
      cases hError
      exact .failed _ _ _ _ hApply
  | applied patch next a rest result hApply _ ih =>
      exact .applied _ _ _ _ _ hApply (ih hError)

theorem folds_attributes
    (currentUser : User)
    (op : PatchOp)
    (attributes : JsonObject)
    (patch : ScimUserPatch) :
    Folds currentUser patch
      (attributes.map fun member =>
        some ⟨op, member.1, member.2⟩)
      (attributes.foldlM
        (fun patch member =>
          applyAttributePatch currentUser patch op
            member.1 member.2)
        patch) := by
  induction attributes generalizing patch with
  | nil => exact .done patch
  | cons member rest ih =>
      rw [List.foldlM_cons]
      cases hApply :
          applyAttributePatch currentUser patch op member.1
            member.2 with
      | error e => exact .failed _ _ _ _ hApply
      | ok next => exact .applied _ _ _ _ _ hApply (ih next)

theorem folds_applyNamedOperation
    (currentUser : User)
    (patch : ScimUserPatch)
    (op : PatchOp)
    (operation : JsonObject) :
    Folds currentUser patch (namedAttributes op operation)
      (applyNamedOperation currentUser patch op operation) := by
  unfold namedAttributes applyNamedOperation
  cases getOrNull operation "path" with
  | null =>
      simp only [applyPathlessOperation]
      by_cases hRemove : op = .remove
      · rw [if_pos hRemove, if_pos hRemove]
        exact .malformed _ _ _ (badRequest_invalidPayload _)
      · rw [if_neg hRemove, if_neg hRemove]
        cases getOrNull operation "value" with
        | object attributes =>
            exact folds_attributes currentUser op attributes
              patch
        | _ =>
            exact .malformed _ _ _
              (badRequest_invalidPayload _)
  | string path =>
      by_cases hMissing :
          op ≠ .remove ∧
            (JsonObject.get? operation "value").isNone
      · simp only [if_pos hMissing]
        exact .malformed _ _ _ (badRequest_invalidPayload _)
      · simp only [if_neg hMissing]
        cases hApply :
            applyAttributePatch currentUser patch op path
              (getOrNull operation "value") with
        | error e => exact .failed _ _ _ _ hApply
        | ok next =>
            exact .applied _ _ _ _ _ hApply (.done next)
  | _ => exact .malformed _ _ _ (badRequest_invalidPath _)

/- An operation folds its attributes into the patch. -/
theorem folds_applyPatchOperation
    (currentUser : User)
    (patch : ScimUserPatch)
    (operation : Json) :
    Folds currentUser patch (operationAttributes operation)
      (applyPatchOperation currentUser patch operation) := by
  unfold operationAttributes applyPatchOperation
  cases operation with
  | object operation =>
      simp only
      cases getOrNull operation "op" with
      | string rawOp =>
          simp only
          cases PatchOp.named (Platform.lower rawOp) with
          | some op =>
              exact folds_applyNamedOperation currentUser
                patch op operation
          | none =>
              exact .malformed _ _ _
                (badRequest_invalidPayload _)
      | _ =>
          exact .malformed _ _ _ (badRequest_invalidPayload _)
  | _ => exact .malformed _ _ _ (badRequest_invalidPayload _)

theorem folds_operations
    (currentUser : User)
    (operations : List Json)
    (patch : ScimUserPatch) :
    Folds currentUser patch
      (operations.flatMap operationAttributes)
      (operations.foldlM (applyPatchOperation currentUser)
        patch) := by
  induction operations generalizing patch with
  | nil => exact .done patch
  | cons operation rest ih =>
      have hFirst :=
        folds_applyPatchOperation currentUser patch operation
      rw [List.foldlM_cons, List.flatMap_cons]
      cases hApply :
          applyPatchOperation currentUser patch operation with
      | error e =>
          rw [hApply] at hFirst
          exact hFirst.append_error _
      | ok next =>
          rw [hApply] at hFirst
          exact hFirst.append (ih next)

/- A PATCH folds all its attributes into an empty patch. -/
theorem folds_parsePatchPayload
    (currentUser : User)
    (payload : Json) :
    Folds currentUser { userMutation := {} }
      (patchAttributes payload)
      (parsePatchPayload currentUser payload) := by
  unfold patchAttributes parsePatchPayload
  cases payload with
  | object payload =>
      simp only
      cases getOrNull payload "Operations" with
      | array operations =>
          cases operations with
          | nil =>
              exact .malformed _ _ _
                (badRequest_invalidPayload _)
          | cons operation rest =>
              exact folds_operations currentUser
                (operation :: rest) _
      | _ =>
          exact .malformed _ _ _ (badRequest_invalidPayload _)
  | _ => exact .malformed _ _ _ (badRequest_invalidPayload _)

end Scim

end AccessIQ

------------------------------------------------------------
-- One Patch Attribute
------------------------------------------------------------

namespace AccessIQ

namespace Scim

open Python

theorem PlainProfile.over
    {mutation current : EnterpriseProfileMutation}
    (hMutation : PlainProfile mutation)
    (hCurrent : PlainProfile current) :
    PlainProfile (mutation.over current) := by
  have hField :
      ∀ {field old : Option (Option String)} {s : String},
        some (some s) = (field <|> old) →
          some (some s) = field ∨ some (some s) = old := by
    intro field old s hEq
    cases field with
    | none => exact Or.inr hEq
    | some value => exact Or.inl hEq
  unfold PlainProfile at hMutation hCurrent ⊢
  simp only [EnterpriseProfileMutation.strings,
    EnterpriseProfileMutation.over, List.mem_cons,
    List.not_mem_nil, or_false] at hMutation hCurrent ⊢
  intro s hMem
  rcases hMem with hMem | hMem | hMem | hMem | hMem
  · rcases hField hMem with hNew | hOld
    · exact hMutation s (Or.inl hNew)
    · exact hCurrent s (Or.inl hOld)
  · rcases hField hMem with hNew | hOld
    · exact hMutation s (Or.inr (Or.inl hNew))
    · exact hCurrent s (Or.inr (Or.inl hOld))
  · rcases hField hMem with hNew | hOld
    · exact hMutation s (Or.inr (Or.inr (Or.inl hNew)))
    · exact hCurrent s (Or.inr (Or.inr (Or.inl hOld)))
  · rcases hField hMem with hNew | hOld
    · exact hMutation s
        (Or.inr (Or.inr (Or.inr (Or.inl hNew))))
    · exact hCurrent s
        (Or.inr (Or.inr (Or.inr (Or.inl hOld))))
  · rcases hField hMem with hNew | hOld
    · exact hMutation s
        (Or.inr (Or.inr (Or.inr (Or.inr hNew))))
    · exact hCurrent s
        (Or.inr (Or.inr (Or.inr (Or.inr hOld))))

theorem plainProfile_empty :
    PlainProfile {} := by
  intro s hMem
  simp [EnterpriseProfileMutation.strings] at hMem

theorem PlainPatch.merge
    {currentUser : User}
    {patch : ScimUserPatch}
    (hPlain : PlainPatch currentUser patch)
    {mutation : EnterpriseProfileMutation}
    (hMutation : PlainProfile mutation) :
    PlainPatch currentUser
      (mergeEnterpriseMutation patch mutation) := by
  have hCurrent :
      PlainProfile (patch.enterpriseProfile.getD {}) := by
    cases hProfile : patch.enterpriseProfile with
    | none => exact plainProfile_empty
    | some profile => exact hPlain.profile profile hProfile
  refine ⟨hPlain.userName, hPlain.displayName, ?_⟩
  intro profile hProfile
  cases hProfile
  exact hMutation.over hCurrent

theorem managerId_merge
    (patch : ScimUserPatch)
    (mutation : EnterpriseProfileMutation) :
    (mergeEnterpriseMutation patch mutation).managerId =
      (mutation.managerId <|> patch.managerId) := by
  have hCurrent :
      (patch.enterpriseProfile.getD {}).managerId =
        patch.managerId := by
    unfold ScimUserPatch.managerId
    cases patch.enterpriseProfile with
    | none => rfl
    | some profile => rfl
  rw [← hCurrent]
  rfl

/- An operation on a string attribute of the extension. -/
theorem enterpriseAttribute_string
    (op : PatchOp)
    (key : String)
    (value : Json) :
    Parses (fun parsed => ∀ s, parsed = some s → PlainText s)
      (enterpriseAttribute op (parseEnterpriseString key)
        value) := by
  unfold enterpriseAttribute
  by_cases hRemove : op = .remove
  · rw [if_pos hRemove]
    apply Parses.ok
    intro s hEq
    cases hEq
  · rw [if_neg hRemove]
    exact parseEnterpriseString_parses key value

variable [Platform]

/- What an attribute of the extension sets of a profile. -/
inductive ProfileOperation
    (decimal : String → Int → Prop)
    (a : PatchAttribute) :
    Except PyException EnterpriseProfileMutation → Prop
  | refused
      (e : PyException)
      (hBad : BadRequest e)
      (hFinite :
        ∀ value, a.ComesTo value → ¬ InfiniteManager value) :
      ProfileOperation decimal a (.error e)
  | infinite
      (value : Json)
      (hComes : a.ComesTo value)
      (hInfinite : InfiniteManager value) :
      ProfileOperation decimal a (.error .overflowError)
  | kept
      (mutation : EnterpriseProfileMutation)
      (hPlain : PlainProfile mutation)
      (hManager : a.manager = none)
      (hManagerId : mutation.managerId = none) :
      ProfileOperation decimal a (.ok mutation)
  | cleared
      (mutation : EnterpriseProfileMutation)
      (hPlain : PlainProfile mutation)
      (hManager : a.manager = some none)
      (hManagerId : mutation.managerId = some none) :
      ProfileOperation decimal a (.ok mutation)
  | read
      (mutation : EnterpriseProfileMutation)
      (hPlain : PlainProfile mutation)
      (value : Json)
      (managerId : Option Int)
      (hComes : a.ComesTo value)
      (hRead : ManagerRead decimal value (.ok managerId))
      (hManagerId : mutation.managerId = some managerId) :
      ProfileOperation decimal a (.ok mutation)

/- One string attribute of the extension. -/
theorem profileStep_string
    (decimal : String → Int → Prop)
    {a : PatchAttribute}
    (hManager : a.manager = none)
    (key : String)
    {set : Option String → EnterpriseProfileMutation}
    (hStrings :
      ∀ parsed s,
        some (some s) ∈ (set parsed).strings →
          some s = parsed)
    (hManagerId : ∀ parsed, (set parsed).managerId = none) :
    ProfileOperation decimal a
      (enterpriseAttribute a.op (parseEnterpriseString key)
          a.value >>= fun parsed => .ok (set parsed)) := by
  rcases
      (enterpriseAttribute_string a.op key a.value).cases with
    ⟨parsed, hOk, hPlain⟩ | ⟨e, hError, hBad⟩
  · rw [hOk]
    apply ProfileOperation.kept _ _ hManager (hManagerId parsed)
    intro s hMem
    exact hPlain s (hStrings parsed s hMem).symm
  · rw [hError]
    apply ProfileOperation.refused e hBad
    intro value hComes
    cases hManager.symm.trans hComes.1

/- The manager attribute of the extension. -/
theorem profileStep_manager
    (decimal : String → Int → Prop)
    {a : PatchAttribute}
    (hPath :
      normalizeEnterprisePatchPath a.path = some .manager) :
    ProfileOperation decimal a
      (enterpriseMutationForPath a.op .manager a.value) := by
  have hManager :
      a.manager =
        some (if a.op = .remove then none else some a.value) := by
    simp only [PatchAttribute.manager, hPath]
  have hOthers : a.StringsAccepted := by
    intro hExtension
    cases hPath.symm.trans hExtension
  have hPlain :
      ∀ managerId : Option Int,
        PlainProfile { managerId := some managerId } := by
    intro managerId s hMem
    simp [EnterpriseProfileMutation.strings] at hMem
  unfold enterpriseMutationForPath enterpriseAttribute
  by_cases hRemove : a.op = .remove
  · simp only [if_pos hRemove] at hManager ⊢
    exact .cleared _ (hPlain none) hManager rfl
  · simp only [if_neg hRemove] at hManager ⊢
    have hComes : a.ComesTo a.value := ⟨hManager, hOthers⟩
    have hOnly :
        ∀ value, a.ComesTo value → value = a.value := by
      intro value hValue
      cases hValue.1.symm.trans hManager
      rfl
    have hRead := parseManagerValue_read decimal a.value
    cases hParsed : parseManagerValue a.value with
    | ok managerId =>
        rw [hParsed] at hRead
        exact .read _ (hPlain managerId) a.value managerId
          hComes hRead rfl
    | error e =>
        rw [hParsed] at hRead
        cases hRead with
        | infinite hInfinite =>
            exact .infinite a.value hComes hInfinite
        | refused _ hBad hFinite =>
            apply ProfileOperation.refused e hBad
            intro value hValue
            rw [hOnly value hValue]
            exact hFinite

/- The extension as a whole. -/
theorem profileStep_extension
    (decimal : String → Int → Prop)
    {a : PatchAttribute}
    (hPath :
      normalizeEnterprisePatchPath a.path =
        some .extension) :
    ProfileOperation decimal a
      (enterpriseMutationForPath a.op .extension
        a.value) := by
  unfold enterpriseMutationForPath
  by_cases hRemove : a.op = .remove
  · simp only [if_pos hRemove]
    have hManager : a.manager = some none := by
      simp only [PatchAttribute.manager, hPath,
        if_pos hRemove]
    apply ProfileOperation.cleared _ _ hManager rfl
    intro s hMem
    simp [EnterpriseProfileMutation.strings,
      clearEnterpriseMutation] at hMem
  · simp only [if_neg hRemove]
    cases hValue : a.value with
    | object extension =>
        have hManager :
            a.manager =
              (JsonObject.get? extension "manager").map
                some := by
          simp only [PatchAttribute.manager, hPath,
            if_neg hRemove, hValue]
        have hOthers :
            a.StringsAccepted ↔ StringsAccepted extension := by
          unfold PatchAttribute.StringsAccepted
          rw [hValue]
          constructor
          · intro hAll
            exact hAll hPath extension rfl
          · intro hStrings _ extension' hEq
            cases hEq
            exact hStrings
        rcases parseEnterpriseProfile_cases extension with
          ⟨hStrings, profile, hPlain, hEq⟩ |
            ⟨hNot, e, hBad, hEq⟩
        swap
        · simp only [hEq]
          apply ProfileOperation.refused e hBad
          intro value hComes
          exact absurd (hOthers.mp hComes.2) hNot
        simp only [hEq, parseAttribute]
        cases hGet :
            JsonObject.get? extension "manager" with
        | none =>
            rw [hGet] at hManager
            exact .kept _ hPlain hManager rfl
        | some value =>
            rw [hGet] at hManager
            have hComes : a.ComesTo value :=
              ⟨hManager, hOthers.mpr hStrings⟩
            have hOnly :
                ∀ value', a.ComesTo value' →
                  value' = value := by
              intro value' hComes'
              cases hComes'.1.symm.trans hManager
              rfl
            have hRead := parseManagerValue_read decimal value
            simp only
            cases hParsed : parseManagerValue value with
            | ok managerId =>
                rw [hParsed] at hRead
                exact .read _ hPlain value managerId hComes
                  hRead rfl
            | error e =>
                rw [hParsed] at hRead
                cases hRead with
                | infinite hInfinite =>
                    exact .infinite value hComes hInfinite
                | refused _ hBad hFinite =>
                    apply ProfileOperation.refused e hBad
                    intro value' hComes'
                    rw [hOnly value' hComes']
                    exact hFinite
    | _ =>
        apply ProfileOperation.refused _
          (badRequest_invalidPayload _)
        intro value hComes
        have hManager := hComes.1
        simp only [PatchAttribute.manager, hPath,
          if_neg hRemove, hValue] at hManager
        cases hManager

/- What an operation on the extension sets of a profile. -/
theorem profileStep
    (decimal : String → Int → Prop)
    {a : PatchAttribute}
    {path : EnterprisePath}
    (hPath :
      normalizeEnterprisePatchPath a.path = some path) :
    ProfileOperation decimal a
      (enterpriseMutationForPath a.op path a.value) := by
  cases path with
  | extension => exact profileStep_extension decimal hPath
  | manager => exact profileStep_manager decimal hPath
  | employeeNumber =>
      apply profileStep_string decimal
      · simp only [PatchAttribute.manager, hPath]
      · simp [EnterpriseProfileMutation.strings]
      · intro parsed
        rfl
  | department =>
      apply profileStep_string decimal
      · simp only [PatchAttribute.manager, hPath]
      · simp [EnterpriseProfileMutation.strings]
      · intro parsed
        rfl
  | division =>
      apply profileStep_string decimal
      · simp only [PatchAttribute.manager, hPath]
      · simp [EnterpriseProfileMutation.strings]
      · intro parsed
        rfl
  | organization =>
      apply profileStep_string decimal
      · simp only [PatchAttribute.manager, hPath]
      · simp [EnterpriseProfileMutation.strings]
      · intro parsed
        rfl
  | costCenter =>
      apply profileStep_string decimal
      · simp only [PatchAttribute.manager, hPath]
      · simp [EnterpriseProfileMutation.strings]
      · intro parsed
        rfl

/- An attribute that is refused once is never accepted. -/
theorem not_accepted_of_error
    {currentUser : User}
    {patch : ScimUserPatch}
    {a : PatchAttribute}
    {e : PyException}
    (hError : a.apply currentUser patch = .error e) :
    ¬ a.Accepted currentUser := by
  intro hAccepted
  rcases hAccepted with ⟨patch', next, hOk⟩
  unfold PatchAttribute.apply applyAttributePatch at hError hOk
  cases hPath : normalizeEnterprisePatchPath a.path with
  | some path =>
      simp only [hPath] at hError hOk
      cases hMutation :
          enterpriseMutationForPath a.op path a.value with
      | ok mutation =>
          simp only [hMutation] at hError
          cases hError
      | error e' =>
          simp only [hMutation] at hOk
          cases hOk
  | none =>
      simp only [hPath] at hError hOk
      cases hLookup :
          patchPaths.lookup (Platform.lower a.path) with
      | none =>
          simp only [hLookup] at hOk
          cases hOk
      | some path =>
          simp only [hLookup] at hError hOk
          by_cases hRemove : a.op = .remove
          · simp only [if_pos hRemove] at hError hOk
            cases path with
            | userName => cases hOk
            | displayName => cases hError
            | active => cases hError
          · simp only [if_neg hRemove, setAttribute]
              at hError hOk
            cases path with
            | userName =>
                cases hParsed : parseUserName a.value with
                | ok userName =>
                    simp only [hParsed] at hError
                    cases hError
                | error e' =>
                    simp only [hParsed] at hOk
                    cases hOk
            | displayName =>
                cases hParsed :
                    parseDisplayNameValue a.value with
                | ok displayName =>
                    simp only [hParsed] at hError
                    cases hError
                | error e' =>
                    simp only [hParsed] at hOk
                    cases hOk
            | active =>
                cases hParsed : parseActive a.value with
                | ok active =>
                    simp only [hParsed] at hError
                    cases hError
                | error e' =>
                    simp only [hParsed] at hOk
                    cases hOk

/- What an accepted attribute makes of the manager. -/
inductive Assigns
    (decimal : String → Int → Prop)
    (a : PatchAttribute)
    (old : Option (Option Int)) :
    Option (Option Int) → Prop
  | kept
      (hManager : a.manager = none) :
      Assigns decimal a old old
  | cleared
      (hManager : a.manager = some none) :
      Assigns decimal a old (some none)
  | read
      (value : Json)
      (managerId : Option Int)
      (hComes : a.ComesTo value)
      (hRead : ManagerRead decimal value (.ok managerId)) :
      Assigns decimal a old (some managerId)

/- What comes of applying an attribute. -/
inductive AttributeStep
    (currentUser : User)
    (decimal : String → Int → Prop)
    (patch : ScimUserPatch)
    (a : PatchAttribute) :
    Except PyException ScimUserPatch → Prop
  | refused
      (e : PyException)
      (hBad : BadRequest e)
      (hFinite :
        ∀ value, a.ComesTo value → ¬ InfiniteManager value) :
      AttributeStep currentUser decimal patch a (.error e)
  | infinite
      (value : Json)
      (hComes : a.ComesTo value)
      (hInfinite : InfiniteManager value) :
      AttributeStep currentUser decimal patch a
        (.error .overflowError)
  | applied
      (next : ScimUserPatch)
      (hPlain :
        PlainPatch currentUser patch →
          PlainPatch currentUser next)
      (hAssigns :
        Assigns decimal a patch.managerId next.managerId) :
      AttributeStep currentUser decimal patch a (.ok next)

/- What a replacement makes of the user. -/
theorem setAttribute_parses
    (hEmails : EmailsHaveNoSpace)
    (hLower : LowerAddsNoSpace)
    (currentUser : User)
    (patch : ScimUserPatch)
    (path : PatchPath)
    (value : Json) :
    Parses
      (fun mutation =>
        PlainPatch currentUser patch →
          PlainPatch currentUser
            { patch with userMutation := mutation })
      (setAttribute patch.userMutation path value) := by
  unfold setAttribute
  cases path with
  | userName =>
      simp only
      rcases (parseUserName_parses hEmails hLower
          value).cases with
        ⟨userName, hOk, hTrimmed⟩ | ⟨e, hError, hBad⟩
      · rw [hOk]
        apply Parses.ok
        intro hPlain
        refine ⟨?_, hPlain.displayName, hPlain.profile⟩
        intro userName' hEq
        cases hEq
        exact hTrimmed
      · rw [hError]
        exact .refused e hBad
  | displayName =>
      simp only
      rcases (parseDisplayNameValue_parses value).cases with
        ⟨displayName, hOk, hText⟩ | ⟨e, hError, hBad⟩
      · rw [hOk]
        apply Parses.ok
        intro hPlain
        refine ⟨hPlain.userName, ?_, hPlain.profile⟩
        intro displayName' hEq
        cases hEq
        exact ⟨hText.1, Or.inl hText.2⟩
      · rw [hError]
        exact .refused e hBad
  | active =>
      simp only
      rcases (parseActive_parses value).cases with
        ⟨active, hOk, -⟩ | ⟨e, hError, hBad⟩
      · rw [hOk]
        apply Parses.ok
        intro hPlain
        exact ⟨hPlain.userName, hPlain.displayName,
          hPlain.profile⟩
      · rw [hError]
        exact .refused e hBad

omit [Platform] in
/- What a removal makes of the user. -/
theorem removeAttribute_parses
    {currentUser : User}
    (hEmail : Trimmed currentUser.email)
    (patch : ScimUserPatch)
    (path : PatchPath) :
    Parses
      (fun mutation =>
        PlainPatch currentUser patch →
          PlainPatch currentUser
            { patch with userMutation := mutation })
      (removeAttribute currentUser patch.userMutation
        path) := by
  cases path with
  | userName => exact .refused _ (badRequest_invalidPayload _)
  | displayName =>
      apply Parses.ok
      intro hPlain
      refine ⟨hPlain.userName, ?_, hPlain.profile⟩
      intro displayName hEq
      cases hEq
      exact ⟨hEmail, Or.inr rfl⟩
  | active =>
      apply Parses.ok
      intro hPlain
      exact ⟨hPlain.userName, hPlain.displayName,
        hPlain.profile⟩

/- An attribute of the user assigns no manager. -/
theorem attributeStep_of_parses
    {currentUser : User}
    (decimal : String → Int → Prop)
    {patch : ScimUserPatch}
    {a : PatchAttribute}
    (hManager : a.manager = none)
    {result : Except PyException UserMutation}
    (hParses :
      Parses
        (fun mutation =>
          PlainPatch currentUser patch →
            PlainPatch currentUser
              { patch with userMutation := mutation })
        result) :
    AttributeStep currentUser decimal patch a
      (result >>= fun mutation =>
        .ok { patch with userMutation := mutation }) := by
  rcases hParses.cases with
    ⟨mutation, hOk, hPlain⟩ | ⟨e, hError, hBad⟩
  · rw [hOk]
    exact .applied _ hPlain (.kept hManager)
  · rw [hError]
    apply AttributeStep.refused e hBad
    intro value hComes
    cases hManager.symm.trans hComes.1

/- One attribute is applied, refused, or overflows. -/
theorem applyAttributePatch_step
    (hEmails : EmailsHaveNoSpace)
    (hLower : LowerAddsNoSpace)
    (decimal : String → Int → Prop)
    {currentUser : User}
    (hEmail : Trimmed currentUser.email)
    (patch : ScimUserPatch)
    (a : PatchAttribute) :
    AttributeStep currentUser decimal patch a
      (a.apply currentUser patch) := by
  unfold PatchAttribute.apply applyAttributePatch
  cases hPath : normalizeEnterprisePatchPath a.path with
  | some path =>
      have hStep := profileStep decimal hPath
      simp only
      generalize
        enterpriseMutationForPath a.op path a.value = result
        at hStep ⊢
      cases hStep with
      | refused e hBad hFinite =>
          exact .refused e hBad hFinite
      | infinite value hComes hInfinite =>
          exact .infinite value hComes hInfinite
      | kept mutation hPlain hManager hManagerId =>
          apply AttributeStep.applied _ (fun h => h.merge hPlain)
          rw [managerId_merge, hManagerId]
          exact .kept hManager
      | cleared mutation hPlain hManager hManagerId =>
          apply AttributeStep.applied _ (fun h => h.merge hPlain)
          rw [managerId_merge, hManagerId]
          exact .cleared hManager
      | read mutation hPlain value managerId hComes hRead
          hManagerId =>
          apply AttributeStep.applied _ (fun h => h.merge hPlain)
          rw [managerId_merge, hManagerId]
          exact .read value managerId hComes hRead
  | none =>
      have hManager : a.manager = none := by
        simp only [PatchAttribute.manager, hPath]
      simp only
      cases patchPaths.lookup (Platform.lower a.path) with
      | none =>
          apply AttributeStep.refused _
            (badRequest_invalidPath _)
          intro value hComes
          cases hManager.symm.trans hComes.1
      | some path =>
          simp only
          by_cases hRemove : a.op = .remove
          · simp only [if_pos hRemove]
            exact attributeStep_of_parses decimal hManager
              (removeAttribute_parses hEmail patch path)
          · simp only [if_neg hRemove]
            exact attributeStep_of_parses decimal hManager
              (setAttribute_parses hEmails hLower currentUser
                patch path a.value)

end Scim

end AccessIQ

------------------------------------------------------------
-- Patches
------------------------------------------------------------

namespace AccessIQ

namespace Scim

open Python

variable [Platform]

theorem ManagerRead.finite
    {decimal : String → Int → Prop}
    {value : Json}
    {managerId : Option Int}
    (hRead : ManagerRead decimal value (.ok managerId)) :
    ¬ InfiniteManager value := by
  cases hRead with
  | cleared hFinite hNot => exact hFinite
  | denoted n hPositive hDenotes hFinite hNot => exact hFinite
  | misread n hPositive hNot hFinite hMisread => exact hFinite

theorem Assigns.finite
    {decimal : String → Int → Prop}
    {a : PatchAttribute}
    {old new : Option (Option Int)}
    (hAssigns : Assigns decimal a old new)
    {value : Json}
    (hComes : a.ComesTo value) :
    ¬ InfiniteManager value := by
  cases hAssigns with
  | kept hManager => cases hManager.symm.trans hComes.1
  | cleared hManager => cases hManager.symm.trans hComes.1
  | read value' managerId hComes' hRead =>
      cases hComes'.1.symm.trans hComes.1
      exact hRead.finite

/- The manager is what the last manager value is read as. -/
inductive Tracks
    (decimal : String → Int → Prop) :
    Option Json → Option (Option Int) → Prop
  | none
      (managerId : Option (Option Int))
      (hNone : ∀ n, managerId ≠ some (some n)) :
      Tracks decimal none managerId
  | some
      (value : Json)
      (managerId : Option Int)
      (hRead : ManagerRead decimal value (.ok managerId)) :
      Tracks decimal (some value) (some managerId)

theorem Tracks.assigns
    {decimal : String → Int → Prop}
    {last : Option Json}
    {old new : Option (Option Int)}
    (hTracks : Tracks decimal last old)
    {a : PatchAttribute}
    (hAssigns : Assigns decimal a old new) :
    Tracks decimal (a.manager.getD last) new := by
  cases hAssigns with
  | kept hManager =>
      rw [hManager]
      exact hTracks
  | cleared hManager =>
      rw [hManager]
      apply Tracks.none
      intro n hEq
      cases hEq
  | read value managerId hComes hRead =>
      rw [hComes.1]
      exact .some value managerId hRead

/- Every attribute is accepted. -/
def AllAccepted
    (currentUser : User)
    (attributes : List (Option PatchAttribute)) : Prop :=
  ∀ a ∈ attributes,
    ∃ accepted : PatchAttribute,
      a = some accepted ∧ accepted.Accepted currentUser

/- What comes of all the attributes of a payload. -/
inductive FoldOutcome
    (currentUser : User)
    (decimal : String → Int → Prop)
    (last : Option Json)
    (attributes : List (Option PatchAttribute)) :
    Except PyException ScimUserPatch → Prop
  | refused
      (e : PyException)
      (hBad : BadRequest e)
      (hFinite :
        ∀ value,
          Reaches currentUser attributes value →
            ¬ InfiniteManager value)
      (hNot : ¬ AllAccepted currentUser attributes) :
      FoldOutcome currentUser decimal last attributes
        (.error e)
  | infinite
      (value : Json)
      (hReaches : Reaches currentUser attributes value)
      (hInfinite : InfiniteManager value) :
      FoldOutcome currentUser decimal last attributes
        (.error .overflowError)
  | applied
      (patch : ScimUserPatch)
      (hAll : AllAccepted currentUser attributes)
      (hFinite :
        ∀ value,
          Reaches currentUser attributes value →
            ¬ InfiniteManager value)
      (hPlain : PlainPatch currentUser patch)
      (hTracks :
        Tracks decimal (lastManager last attributes)
          patch.managerId) :
      FoldOutcome currentUser decimal last attributes
        (.ok patch)

/-
  Folding attributes into a patch, by induction on the fold:
  the patch stays plain and its manager the one that was
  assigned last.
-/
theorem Folds.outcome
    (hEmails : EmailsHaveNoSpace)
    (hLower : LowerAddsNoSpace)
    (decimal : String → Int → Prop)
    {currentUser : User}
    (hEmail : Trimmed currentUser.email)
    {patch : ScimUserPatch}
    {attributes : List (Option PatchAttribute)}
    {result : Except PyException ScimUserPatch}
    (hFolds : Folds currentUser patch attributes result)
    (hPlain : PlainPatch currentUser patch)
    {last : Option Json}
    (hTracks : Tracks decimal last patch.managerId) :
    FoldOutcome currentUser decimal last attributes
      result := by
  induction hFolds generalizing last with
  | done patch =>
      apply FoldOutcome.applied patch
      · intro a ha
        cases ha
      · intro value hReaches
        cases hReaches
      · exact hPlain
      · exact hTracks
  | malformed patch rest e hBad =>
      apply FoldOutcome.refused e hBad
      · intro value hReaches
        cases hReaches
      · intro hAll
        rcases hAll none List.mem_cons_self with
          ⟨accepted, hEq, -⟩
        cases hEq
  | failed patch a rest e hApply =>
      have hStep := applyAttributePatch_step hEmails hLower
        decimal hEmail patch a
      have hNot := not_accepted_of_error hApply
      rw [hApply] at hStep
      cases hStep with
      | refused _ hBad hFinite =>
          apply FoldOutcome.refused e hBad
          · intro value hReaches
            cases hReaches with
            | here hComes => exact hFinite value hComes
            | later hAccepted _ => exact absurd hAccepted hNot
          · intro hAll
            rcases hAll (some a) List.mem_cons_self with
              ⟨accepted, hEq, hAccepted⟩
            cases hEq
            exact hNot hAccepted
      | infinite value hComes hInfinite =>
          exact .infinite value (.here hComes) hInfinite
  | applied patch next a rest result hApply _ ih =>
      have hStep := applyAttributePatch_step hEmails hLower
        decimal hEmail patch a
      rw [hApply] at hStep
      have hAccepted : a.Accepted currentUser :=
        ⟨patch, next, hApply⟩
      cases hStep with
      | applied _ hNext hAssigns =>
          have hFiniteHere :
              (∀ value,
                Reaches currentUser rest value →
                  ¬ InfiniteManager value) →
                ∀ value,
                  Reaches currentUser (some a :: rest) value →
                    ¬ InfiniteManager value := by
            intro hFinite value hReaches
            cases hReaches with
            | here hComes => exact hAssigns.finite hComes
            | later _ hRest => exact hFinite value hRest
          have hOutcome :=
            ih (hNext hPlain) (hTracks.assigns hAssigns)
          cases hOutcome with
          | refused e hBad hFinite hNot =>
              apply FoldOutcome.refused e hBad
                (hFiniteHere hFinite)
              intro hAll
              apply hNot
              intro b hb
              exact hAll b (List.mem_cons_of_mem _ hb)
          | infinite value hReaches hInfinite =>
              exact .infinite value (.later hAccepted hReaches)
                hInfinite
          | applied final hAll hFinite hFinal hLast =>
              apply FoldOutcome.applied final _
                (hFiniteHere hFinite) hFinal hLast
              intro b hb
              rcases List.mem_cons.mp hb with rfl | hb
              · exact ⟨a, rfl, hAccepted⟩
              · exact hAll b hb

/- A mutation of plain strings whose manager is denoted. -/
structure FaithfulPatch
    (decimal : String → Int → Prop)
    (currentUser : User)
    (payload : Json)
    (patch : ScimUserPatch) : Prop where
  plain : PlainPatch currentUser patch
  manager :
    DenotesManager decimal
      (lastManager none (patchAttributes payload))
      patch.managerId

/-
  A PATCH payload is parsed faithfully or refused exactly if
  the parser comes to no infinite manager value and, where
  all its attributes are accepted, its last manager value is
  not misread.
-/
theorem parsePatchPayload_parses_iff
    (hEmails : EmailsHaveNoSpace)
    (hLower : LowerAddsNoSpace)
    (decimal : String → Int → Prop)
    {currentUser : User}
    (hEmail : Trimmed currentUser.email)
    (payload : Json) :
    Parses (FaithfulPatch decimal currentUser payload)
        (parsePatchPayload currentUser payload) ↔
      (∀ value,
        Reaches currentUser (patchAttributes payload) value →
          ¬ InfiniteManager value) ∧
        (AllAccepted currentUser (patchAttributes payload) →
          ∀ value,
            lastManager none (patchAttributes payload) =
                some value →
              ¬ MisreadManager decimal value) := by
  have hPlain :
      PlainPatch currentUser { userMutation := {} } := by
    constructor
    · intro userName hEq
      cases hEq
    · intro displayName hEq
      cases hEq
    · intro profile hEq
      cases hEq
  have hTracks :
      Tracks decimal none
        (ScimUserPatch.managerId { userMutation := {} }) := by
    apply Tracks.none
    intro n hEq
    cases hEq
  have hOutcome :=
    (folds_parsePatchPayload currentUser payload).outcome
      hEmails hLower decimal hEmail hPlain hTracks
  generalize parsePatchPayload currentUser payload = result
    at hOutcome ⊢
  cases hOutcome with
  | refused e hBad hFinite hNot =>
      constructor
      · intro _
        exact ⟨hFinite, fun hAll => absurd hAll hNot⟩
      · intro _
        exact .refused e hBad
  | infinite value hReaches hInfinite =>
      constructor
      · intro hParses
        rcases hParses.cases with
          ⟨patch, hOk, -⟩ | ⟨e, hError, hBad⟩
        · cases hOk
        · cases hError
          exact absurd hBad not_badRequest_overflowError
      · intro hFine
        exact absurd hInfinite (hFine.1 value hReaches)
  | applied patch hAll hFinite hPlain hTracks =>
      constructor
      · intro hParses
        refine ⟨hFinite, ?_⟩
        intro _ value hLast hMisread
        rcases hParses.cases with
          ⟨patch', hOk, hFaithful⟩ | ⟨e, hError, -⟩
        · cases hOk
          have hManager := hFaithful.manager
          rw [hLast] at hManager hTracks
          generalize patch.managerId = managerId
            at hManager hTracks
          cases hTracks with
          | some _ managerId hRead =>
              cases hRead with
              | cleared _ hNot => exact hNot hMisread
              | denoted n _ _ _ hNot => exact hNot hMisread
              | misread n _ hNot _ _ =>
                  rcases hManager n rfl with
                    ⟨-, value', hEq, hDenotes⟩
                  cases hEq
                  exact hNot hDenotes
        · cases hError
      · intro hFine
        apply Parses.ok
        refine ⟨hPlain, ?_⟩
        intro n hId
        have hRight := hFine.2 hAll
        generalize lastManager none (patchAttributes payload) =
          last at hTracks hRight ⊢
        rw [hId] at hTracks
        cases hTracks with
        | none _ hNone => exact absurd rfl (hNone n)
        | some value _ hRead =>
            cases hRead with
            | denoted _ hPositive hDenotes _ _ =>
                exact ⟨hPositive, value, rfl, hDenotes⟩
            | misread _ _ _ _ hMisread =>
                exact absurd hMisread (hRight value rfl)

/-
  The payloads of all three requests are parsed faithfully or
  refused with status 400 exactly if no manager value is
  infinite or misread.
-/
theorem parses_exactly_iff
    (hEmails : EmailsHaveNoSpace)
    (hLower : LowerAddsNoSpace)
    (decimal : String → Int → Prop)
    {currentUser : User}
    (hEmail : Trimmed currentUser.email)
    (payload : Json) :
    (∀ activeDefault,
      Parses (FaithfulPayload decimal payload)
          (parseUserPayload payload activeDefault) ↔
        ∀ value,
          ComesToManager activeDefault payload value →
            ¬ InfiniteManager value ∧
              ¬ MisreadManager decimal value) ∧
      (Parses (FaithfulPatch decimal currentUser payload)
          (parsePatchPayload currentUser payload) ↔
        (∀ value,
          Reaches currentUser (patchAttributes payload)
              value →
            ¬ InfiniteManager value) ∧
          (AllAccepted currentUser (patchAttributes payload) →
            ∀ value,
              lastManager none (patchAttributes payload) =
                  some value →
                ¬ MisreadManager decimal value)) :=
  ⟨fun activeDefault =>
    parseUserPayload_parses_iff hEmails hLower decimal payload
      activeDefault,
    parsePatchPayload_parses_iff hEmails hLower decimal hEmail
      payload⟩

end Scim

end AccessIQ

------------------------------------------------------------
-- Managers That Are Misread
------------------------------------------------------------

namespace AccessIQ

namespace Scim

open Python

/- The ASCII platform, with addresses free of whitespace. -/
@[reducible] def addressPlatform : Platform :=
  { asciiPlatform with
    validateEmail := fun s =>
      if s.toList.all (fun c => !isSpace c) then
        asciiPlatform.validateEmail s
      else
        none }

attribute [local instance] addressPlatform

theorem emailsHaveNoSpace_addressPlatform :
    EmailsHaveNoSpace := by
  intro s email hEmail
  have hValid :
      (if s.toList.all (fun c => !isSpace c) then
        asciiPlatform.validateEmail s
      else
        none) = some email := hEmail
  by_cases hPlain : s.toList.all (fun c => !isSpace c)
  · rw [if_pos hPlain] at hValid
    have hSame : s = email := by
      unfold asciiPlatform at hValid
      simp only at hValid
      split at hValid
      · split at hValid
        · exact Option.some.inj hValid
        · cases hValid
      · cases hValid
    subst hSame
    constructor
    · intro hEmpty
      subst hEmpty
      cases hValid
    · intro c hc
      have hNot := List.all_eq_true.mp hPlain c hc
      simpa using hNot
  · rw [if_neg hPlain] at hValid
    cases hValid

theorem isSpace_toLower
    {c : Char}
    (hSpace : isSpace c = false) :
    isSpace c.toLower = false := by
  unfold Char.toLower
  split
  · rename_i hUpper
    have hLow := UInt32.le_iff_toNat_le.mp hUpper.1
    have hHigh := UInt32.le_iff_toNat_le.mp hUpper.2
    simp at hLow hHigh
    simp [isSpace]
    omega
  · exact hSpace

theorem lowerAddsNoSpace_addressPlatform :
    LowerAddsNoSpace := by
  intro s
  have hList :
      (Platform.lower s).toList = s.toList.map Char.toLower := by
    exact String.toList_ofList
  constructor
  · intro hText hEmpty
    rw [hEmpty] at hList
    have hNil : s.toList = [] :=
      List.map_eq_nil_iff.mp hList.symm
    exact hText (String.toList_eq_nil_iff.mp hNil)
  · intro hSpaces c hc
    rw [hList] at hc
    rcases List.mem_map.mp hc with ⟨d, hd, rfl⟩
    exact isSpace_toLower (hSpaces d hd)

/- A user with a manager. -/
def managerPayload
    (manager : Json) :
    Json :=
  .object
    [("userName", .string "ann@example.com"),
      ("displayName", .string "Ann"),
      (scimSchemaEnterpriseUser,
        .object [("manager", manager)])]

/- The decimal string of an integer. -/
def writtenInt
    (s : String)
    (n : Int) : Prop :=
  s = toString n

theorem parses_exactly_iff_managedUser :
    (∀ activeDefault,
      Parses
          (FaithfulPayload writtenInt
            (managerPayload (.string "2")))
          (parseUserPayload (managerPayload (.string "2"))
            activeDefault) ↔
        ∀ value,
          ComesToManager activeDefault
              (managerPayload (.string "2")) value →
            ¬ InfiniteManager value ∧
              ¬ MisreadManager writtenInt value) ∧
      (Parses
          (FaithfulPatch writtenInt alice
            (managerPayload (.string "2")))
          (parsePatchPayload alice
            (managerPayload (.string "2"))) ↔
        (∀ value,
          Reaches alice
              (patchAttributes (managerPayload (.string "2")))
              value →
            ¬ InfiniteManager value) ∧
          (AllAccepted alice
              (patchAttributes
                (managerPayload (.string "2"))) →
            ∀ value,
              lastManager none
                  (patchAttributes
                    (managerPayload (.string "2"))) =
                  some value →
                ¬ MisreadManager writtenInt value)) :=
  parses_exactly_iff emailsHaveNoSpace_addressPlatform
    lowerAddsNoSpace_addressPlatform writtenInt
    ⟨by decide, by decide +kernel⟩
    (managerPayload (.string "2"))

theorem comesToManager_managerPayload
    (manager : Json) :
    ComesToManager true (managerPayload manager) manager := by
  have hUserName :
      parseUserName (.string "ann@example.com") =
        .ok "ann@example.com" := by
    decide +kernel
  have hDisplayName :
      parseDisplayNameValue (.string "Ann") = .ok "Ann" := by
    decide +kernel
  refine .intro _ [("manager", manager)] manager
    ⟨"ann@example.com", hUserName⟩ ⟨"Ann", hDisplayName⟩
    ⟨true, rfl⟩ rfl ?_ rfl
  intro key hKey value hGet
  simp only [enterpriseStrings, List.mem_cons,
    List.not_mem_nil, or_false] at hKey
  rcases hKey with rfl | rfl | rfl | rfl | rfl <;> cases hGet

/- What the payload is parsed to. -/
def managedBy
    (managerId : Int) :
    ScimUserPayload where
  userName := "ann@example.com"
  displayName := "Ann"
  active := true
  enterpriseProfile := some { managerId := some managerId }

theorem not_parses_managerPayload
    {manager : Json}
    (hWrong :
      InfiniteManager manager ∨
        MisreadManager writtenInt manager) :
    ¬ Parses
        (FaithfulPayload writtenInt (managerPayload manager))
        (parseUserPayload (managerPayload manager) true) := by
  rw [parseUserPayload_parses_iff
    emailsHaveNoSpace_addressPlatform
    lowerAddsNoSpace_addressPlatform]
  intro hFine
  have hManager :=
    hFine manager (comesToManager_managerPayload manager)
  rcases hWrong with hInfinite | hMisread
  · exact hManager.1 hInfinite
  · exact hManager.2 hMisread

/-
  A fraction and a boolean are taken for the user id 1, and
  an infinite number escapes as an `OverflowError`.
-/
theorem managers_misread :
    (parseUserPayload
          (managerPayload (.number (.float (3 / 2)))) true =
        .ok (managedBy 1) ∧
      ¬ Parses
          (FaithfulPayload writtenInt
            (managerPayload (.number (.float (3 / 2)))))
          (parseUserPayload
            (managerPayload (.number (.float (3 / 2))))
            true)) ∧
      (parseUserPayload (managerPayload (.bool true)) true =
          .ok (managedBy 1) ∧
        ¬ Parses
            (FaithfulPayload writtenInt
              (managerPayload (.bool true)))
            (parseUserPayload (managerPayload (.bool true))
              true)) ∧
      parseUserPayload
            (managerPayload (.number (.infinity false))) true =
          .error .overflowError ∧
        ¬ Parses
            (FaithfulPayload writtenInt
              (managerPayload (.number (.infinity false))))
            (parseUserPayload
              (managerPayload (.number (.infinity false)))
              true) := by
  have hFraction :
      MisreadManager writtenInt
        (.number (.float (3 / 2))) := by
    refine ⟨_, rfl, .fraction (3 / 2) (by norm_num) ?_⟩
    intro n hEq
    have hDen := congrArg Rat.den hEq
    rw [Rat.den_intCast] at hDen
    exact absurd hDen (by decide +kernel)
  have hTrue : MisreadManager writtenInt (.bool true) :=
    ⟨_, rfl, .true⟩
  have hInfinite :
      InfiniteManager (.number (.infinity false)) :=
    ⟨false, rfl⟩
  refine ⟨⟨by decide +kernel, ?_⟩, ⟨by decide +kernel, ?_⟩,
    by decide +kernel, ?_⟩
  · exact not_parses_managerPayload (Or.inr hFraction)
  · exact not_parses_managerPayload (Or.inr hTrue)
  · exact not_parses_managerPayload (Or.inl hInfinite)

end Scim

end AccessIQ
