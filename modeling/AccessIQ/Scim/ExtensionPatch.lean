import AccessIQ.Scim.PayloadParsing
import AccessIQ.Scim.UserServices
import AccessIQ.Seed

/-
  Patching the enterprise extension.

  The extension may be patched as one object or by its
  attributes.  The path of an attribute is read in any case
  and refused when it is unknown, while the object is asked
  for six exact names and the rest of it is passed over.

  Key definitions include:
    * `extensionOperation`
    * `memberOperation`
    * `SameOutcome`
    * `SpellingsAgree`

  Key theorems include:
    * `parseEnterpriseProfile_reads`
    * `memberOperations_read`
    * `extension_patch_iff`
-/

------------------------------------------------------------
-- Attribute Values
------------------------------------------------------------

namespace AccessIQ

namespace Scim

open Python

/- A value of an attribute of the extension. -/
inductive AttributeValue where
  | text (value : String)
  | manager (managerId : Int)
  deriving DecidableEq, Repr

/- What a mutation of a profile sets an attribute to. -/
def EnterpriseProfileMutation.field
    (mutation : EnterpriseProfileMutation) :
    EnterprisePath → Option (Option AttributeValue)
  | .extension => none
  | .employeeNumber =>
      mutation.employeeNumber.map (Option.map .text)
  | .department => mutation.department.map (Option.map .text)
  | .division => mutation.division.map (Option.map .text)
  | .organization =>
      mutation.organization.map (Option.map .text)
  | .costCenter => mutation.costCenter.map (Option.map .text)
  | .manager => mutation.managerId.map (Option.map .manager)

/- The attributes in the order the object is asked for them. -/
def attributePaths : List EnterprisePath :=
  [.employeeNumber, .department, .division, .organization,
    .costCenter, .manager]

/- The name that the object is asked for. -/
def literalKey : EnterprisePath → String
  | .extension => scimSchemaEnterpriseUser
  | .employeeNumber => "employeeNumber"
  | .department => "department"
  | .division => "division"
  | .organization => "organization"
  | .costCenter => "costCenter"
  | .manager => "manager"

theorem map_text_inj
    {x y : Option (Option String)}
    (hEq :
      x.map (Option.map AttributeValue.text) =
        y.map (Option.map AttributeValue.text)) :
    x = y := by
  apply Option.map_injective _ hEq
  apply Option.map_injective
  intro s t hText
  exact AttributeValue.text.inj hText

/- A mutation is what it sets its attributes to. -/
theorem field_ext
    {mutation other : EnterpriseProfileMutation}
    (hFields :
      ∀ path ∈ attributePaths,
        mutation.field path = other.field path) :
    mutation = other := by
  have hManager :
      mutation.managerId = other.managerId := by
    apply
      Option.map_injective _ (hFields .manager (by decide))
    apply Option.map_injective
    intro n m hId
    exact AttributeValue.manager.inj hId
  have hNumber :=
    map_text_inj (hFields .employeeNumber (by decide))
  have hDepartment :=
    map_text_inj (hFields .department (by decide))
  have hDivision :=
    map_text_inj (hFields .division (by decide))
  have hOrganization :=
    map_text_inj (hFields .organization (by decide))
  have hCenter :=
    map_text_inj (hFields .costCenter (by decide))
  cases mutation
  cases other
  simp only at hNumber hDepartment hDivision hOrganization
  simp only at hCenter hManager
  rw [hNumber, hDepartment, hDivision, hOrganization, hCenter,
    hManager]

theorem field_over
    (mutation current : EnterpriseProfileMutation)
    (path : EnterprisePath) :
    (mutation.over current).field path =
      (mutation.field path <|> current.field path) := by
  have hMap :
      ∀ {α : Type} (f : α → AttributeValue)
        (x y : Option (Option α)),
        (x <|> y).map (Option.map f) =
          (x.map (Option.map f) <|> y.map (Option.map f)) := by
    intro α f x y
    cases x <;> rfl
  cases path
  case extension => rfl
  all_goals exact hMap _ _ _

/- What a PATCH sets of a profile. -/
def ScimUserPatch.profile
    (patch : ScimUserPatch) :
    EnterpriseProfileMutation :=
  patch.enterpriseProfile.getD {}

end Scim

end AccessIQ

------------------------------------------------------------
-- Members
------------------------------------------------------------

namespace AccessIQ

namespace Scim

open Python

/- The error but for its text. -/
def errorKind : PyException → PyException
  | .scim response => .scim { response with detail := "" }
  | e => e

/- Why a value is refused. -/
def refusalOf
    {α : Type} :
    Except PyException α → Option PyException
  | .ok _ => none
  | .error e => some (errorKind e)

variable [Platform]

/- The attribute that a name spells, in any case. -/
def spelled
    (name : String) :
    Option EnterprisePath :=
  enterprisePatchPaths.lookup (Platform.lower name)

/- A value read for an attribute. -/
def readValue
    (path : EnterprisePath)
    (value : Json) :
    Except PyException (Option AttributeValue) :=
  match path with
  | .manager =>
      (parseManagerValue value).map (Option.map .manager)
  | path =>
      (parseEnterpriseString (literalKey path) value).map
        (Option.map .text)

/- Why a member is refused: its name or its value. -/
def refusal
    (member : String × Json) :
    Option PyException :=
  match spelled member.1 with
  | none => some (errorKind (invalidPath ""))
  | some path => refusalOf (readValue path member.2)

/- What a member sets the attribute to, if it spells it. -/
def readAs
    (path : EnterprisePath)
    (member : String × Json) :
    Option (Option AttributeValue) :=
  if spelled member.1 = some path then
    (readValue path member.2).toOption
  else
    none

/- The last value for an attribute, in any spelling of it. -/
def lastRead
    (extension : JsonObject)
    (path : EnterprisePath) :
    Option (Option AttributeValue) :=
  (extension.filterMap (readAs path)).getLast?

/- Why the member of the exact name is refused. -/
def literalRefusal
    (extension : JsonObject)
    (path : EnterprisePath) :
    Option PyException :=
  (JsonObject.get? extension (literalKey path)).bind
    fun value => refusalOf (readValue path value)

/- The value of the member of the exact name. -/
def literalRead
    (extension : JsonObject)
    (path : EnterprisePath) :
    Option (Option AttributeValue) :=
  (JsonObject.get? extension (literalKey path)).bind
    fun value => (readValue path value).toOption

/-
  The first member that is refused, in the order of the
  object and in any spelling, is refused like the first that
  is asked for by its exact name; and where none is, the last
  member that spells an attribute sets it to what the member
  of its exact name does, or to what it had been set to.
-/
structure SpellingsAgree
    (current : EnterpriseProfileMutation)
    (extension : JsonObject) : Prop where
  refused :
    extension.findSome? refusal =
      attributePaths.findSome? (literalRefusal extension)
  values :
    extension.findSome? refusal = none →
      ∀ path ∈ attributePaths,
        (lastRead extension path <|> current.field path) =
          (literalRead extension path <|> current.field path)

/- The same error class and SCIM type, or the same mutation. -/
def SameOutcome :
    Except PyException ScimUserPatch →
      Except PyException ScimUserPatch → Prop
  | .ok patch, .ok other =>
      patch.userMutation = other.userMutation ∧
        patch.profile = other.profile
  | .error e, .error e' => errorKind e = errorKind e'
  | _, _ => False

instance :
    DecidableRel SameOutcome := fun result result' =>
  match result, result' with
  | .ok patch, .ok other =>
      inferInstanceAs
        (Decidable
          (patch.userMutation = other.userMutation ∧
            patch.profile = other.profile))
  | .error e, .error e' =>
      inferInstanceAs (Decidable (errorKind e = errorKind e'))
  | .ok _, .error _ => inferInstanceAs (Decidable False)
  | .error _, .ok _ => inferInstanceAs (Decidable False)

/- An operation on the extension with an object. -/
def extensionOperation
    (rawOp : String)
    (extension : JsonObject) :
    Json :=
  .object
    [("op", .string rawOp),
      ("path", .string scimSchemaEnterpriseUser),
      ("value", .object extension)]

/- An operation on one attribute of the extension. -/
def memberOperation
    (rawOp : String)
    (member : String × Json) :
    Json :=
  .object
    [("op", .string rawOp),
      ("path", .string (enterprisePathPrefix ++ member.1)),
      ("value", member.2)]

/- The operation adds or replaces. -/
def Sets
    (rawOp : String)
    (op : PatchOp) : Prop :=
  PatchOp.named (Platform.lower rawOp) = some op ∧
    op ≠ .remove

/- What follows an ASCII text does not change its lower case. -/
def LowersPrefixes : Prop :=
  ∀ before after,
    isAscii before = true →
      (Platform.lower before).toList <+:
        (Platform.lower (before ++ after)).toList

end Scim

end AccessIQ

------------------------------------------------------------
-- The Object
------------------------------------------------------------

namespace AccessIQ

namespace Scim

open Python

variable [Platform]

/- One attribute of the object. -/
theorem parseAttribute_reads
    {α : Type}
    (extension : JsonObject)
    {path : EnterprisePath}
    {key : String}
    (hKey : literalKey path = key)
    {parse : Json → Except PyException (Option α)}
    {wrap : α → AttributeValue}
    (hRead :
      ∀ value,
        readValue path value =
          (parse value).map (Option.map wrap)) :
    (∃ e,
      parseAttribute extension key parse = .error e ∧
      literalRefusal extension path = some (errorKind e)) ∨
    (∃ parsed,
      parseAttribute extension key parse = .ok parsed ∧
      literalRefusal extension path = none ∧
      parsed.map (Option.map wrap) =
        literalRead extension path) := by
  unfold parseAttribute literalRefusal literalRead
  rw [hKey]
  cases JsonObject.get? extension key with
  | none => exact Or.inr ⟨none, rfl, rfl, rfl⟩
  | some value =>
      simp only [Option.bind_some, hRead value]
      cases parse value with
      | error e => exact Or.inl ⟨e, rfl, rfl⟩
      | ok parsed =>
          exact Or.inr ⟨some parsed, rfl, rfl, rfl⟩

/- The object is refused, or its six attributes are read. -/
theorem parseEnterpriseProfile_reads
    (extension : JsonObject) :
    (∃ e,
      parseEnterpriseProfile extension = .error e ∧
      attributePaths.findSome? (literalRefusal extension) =
        some (errorKind e)) ∨
    (∃ mutation,
      parseEnterpriseProfile extension = .ok mutation ∧
      attributePaths.findSome? (literalRefusal extension) =
        none ∧
      ∀ path ∈ attributePaths,
        mutation.field path = literalRead extension path) := by
  unfold parseEnterpriseProfile
  simp only [attributePaths, List.findSome?]
  rcases
      @parseAttribute_reads _ _ extension .employeeNumber
        "employeeNumber" rfl
        (parseEnterpriseString "employeeNumber") _
        (fun _ => rfl) with
    ⟨e, hEq, hRefusal⟩ |
      ⟨employeeNumber, hEq, hRefusal, hNumber⟩
  · exact Or.inl ⟨e, by rw [hEq]; rfl, by rw [hRefusal]⟩
  rw [hEq, hRefusal]
  rcases
      @parseAttribute_reads _ _ extension .department
        "department" rfl (parseEnterpriseString "department") _
        (fun _ => rfl) with
    ⟨e, hEq, hRefusal⟩ |
      ⟨department, hEq, hRefusal, hDepartment⟩
  · exact Or.inl ⟨e, by rw [hEq]; rfl, by rw [hRefusal]⟩
  rw [hEq, hRefusal]
  rcases
      @parseAttribute_reads _ _ extension .division
        "division" rfl (parseEnterpriseString "division") _
        (fun _ => rfl) with
    ⟨e, hEq, hRefusal⟩ | ⟨division, hEq, hRefusal, hDivision⟩
  · exact Or.inl ⟨e, by rw [hEq]; rfl, by rw [hRefusal]⟩
  rw [hEq, hRefusal]
  rcases
      @parseAttribute_reads _ _ extension .organization
        "organization" rfl
        (parseEnterpriseString "organization") _
        (fun _ => rfl) with
    ⟨e, hEq, hRefusal⟩ |
      ⟨organization, hEq, hRefusal, hOrganization⟩
  · exact Or.inl ⟨e, by rw [hEq]; rfl, by rw [hRefusal]⟩
  rw [hEq, hRefusal]
  rcases
      @parseAttribute_reads _ _ extension .costCenter
        "costCenter" rfl (parseEnterpriseString "costCenter") _
        (fun _ => rfl) with
    ⟨e, hEq, hRefusal⟩ | ⟨costCenter, hEq, hRefusal, hCenter⟩
  · exact Or.inl ⟨e, by rw [hEq]; rfl, by rw [hRefusal]⟩
  rw [hEq, hRefusal]
  rcases
      @parseAttribute_reads _ _ extension .manager "manager"
        rfl parseManagerValue _ (fun _ => rfl) with
    ⟨e, hEq, hRefusal⟩ | ⟨managerId, hEq, hRefusal, hManager⟩
  · exact Or.inl ⟨e, by rw [hEq]; rfl, by rw [hRefusal]⟩
  rw [hEq, hRefusal]
  refine Or.inr ⟨_, rfl, rfl, ?_⟩
  intro path hPath
  simp only [List.mem_cons, List.not_mem_nil, or_false] at hPath
  rcases hPath with rfl | rfl | rfl | rfl | rfl | rfl
  · exact hNumber
  · exact hDepartment
  · exact hDivision
  · exact hOrganization
  · exact hCenter
  · exact hManager

end Scim

end AccessIQ

------------------------------------------------------------
-- The Members
------------------------------------------------------------

namespace AccessIQ

namespace Scim

open Python

theorem lookup_mem
    {β : Type}
    {key : String}
    {value : β} :
    ∀ {entries : List (String × β)},
      entries.lookup key = some value →
        (key, value) ∈ entries := by
  intro entries hLookup
  induction entries with
  | nil => cases hLookup
  | cons entry rest ih =>
      rw [List.lookup_cons] at hLookup
      split at hLookup
      · rename_i hKey
        rw [← Option.some.inj hLookup, beq_iff_eq.mp hKey]
        exact List.mem_cons_self
      · exact List.mem_cons_of_mem _ (ih hLookup)

variable [Platform]

/- A name spells one of the six attributes. -/
theorem spelled_mem
    {name : String}
    {path : EnterprisePath}
    (hSpelled : spelled name = some path) :
    path ∈ attributePaths := by
  have hMem := lookup_mem hSpelled
  have hAll :
      ∀ entry ∈ enterprisePatchPaths,
        entry.2 ∈ attributePaths := by
    decide
  exact hAll _ hMem

theorem lower_enterprisePathPrefix :
    (Platform.lower enterprisePathPrefix).toList =
      (asciiLower enterprisePathPrefix).toList := by
  rw [Platform.lower_of_isAscii _ (by decide)]

/- The lower case of a path below the extension. -/
theorem lower_memberPath
    (hLowers : LowersPrefixes)
    (name : String) :
    ∃ rest,
      (Platform.lower (enterprisePathPrefix ++ name)).toList =
        (asciiLower enterprisePathPrefix).toList ++ rest := by
  rcases hLowers enterprisePathPrefix name (by decide) with
    ⟨rest, hRest⟩
  rw [lower_enterprisePathPrefix] at hRest
  exact ⟨rest, hRest.symm⟩

/- A path below the extension is read by what it spells. -/
theorem normalizeEnterprisePatchPath_member
    (hLowers : LowersPrefixes)
    (name : String) :
    normalizeEnterprisePatchPath
        (enterprisePathPrefix ++ name) =
      spelled name := by
  rcases lower_memberPath hLowers name with ⟨rest, hRest⟩
  have hNotExtension :
      Platform.lower (enterprisePathPrefix ++ name) ≠
        Platform.lower scimSchemaEnterpriseUser := by
    intro hEq
    have hLengths :=
      congrArg (fun s : String => s.toList.length) hEq
    simp only [hRest,
      Platform.lower_of_isAscii scimSchemaEnterpriseUser
        (by decide),
      List.length_append] at hLengths
    have hLong :
        (asciiLower scimSchemaEnterpriseUser).toList.length <
          (asciiLower enterprisePathPrefix).toList.length := by
      decide
    omega
  have hPrefix :
      (Platform.lower enterprisePathPrefix).toList.isPrefixOf
          (Platform.lower
            (enterprisePathPrefix ++ name)).toList =
        true := by
    rw [hRest, lower_enterprisePathPrefix,
      List.isPrefixOf_iff_prefix]
    exact List.prefix_append _ _
  unfold normalizeEnterprisePatchPath
  rw [if_neg hNotExtension, if_pos hPrefix]
  unfold spelled
  rw [String.toList_append, String.length, List.drop_left,
    String.ofList_toList]

theorem patchPaths_lookup_member
    (hLowers : LowersPrefixes)
    (name : String) :
    patchPaths.lookup
        (Platform.lower (enterprisePathPrefix ++ name)) =
      none := by
  rcases lower_memberPath hLowers name with ⟨rest, hRest⟩
  cases hLookup :
      patchPaths.lookup
        (Platform.lower (enterprisePathPrefix ++ name)) with
  | none => rfl
  | some path =>
      have hShort :
          ∀ entry ∈ patchPaths,
            entry.1.toList.length <
              (asciiLower
                enterprisePathPrefix).toList.length := by
        decide
      have hLength := hShort _ (lookup_mem hLookup)
      rw [hRest, List.length_append] at hLength
      omega

omit [Platform] in
theorem bind_reads
    {α : Type}
    {path : EnterprisePath}
    (wrap : α → AttributeValue)
    {set : Option α → EnterpriseProfileMutation}
    (hSet :
      ∀ parsed other,
        (set parsed).field other =
          if path = other then
            some (parsed.map wrap)
          else
            none)
    (parsed : Except PyException (Option α)) :
    (∃ e,
      (parsed >>= fun value => .ok (set value)) = .error e ∧
      parsed.map (Option.map wrap) = .error e) ∨
    (∃ mutation read,
      (parsed >>= fun value => .ok (set value)) =
        .ok mutation ∧
      parsed.map (Option.map wrap) = .ok read ∧
      ∀ other,
        mutation.field other =
          if path = other then some read else none) := by
  cases parsed with
  | error e => exact Or.inl ⟨e, rfl, rfl⟩
  | ok value =>
      exact Or.inr ⟨set value, value.map wrap, rfl, rfl,
        hSet value⟩

/- One attribute that is added or replaced. -/
theorem enterpriseMutationForPath_reads
    {op : PatchOp}
    (hOp : op ≠ .remove)
    {path : EnterprisePath}
    (hPath : path ∈ attributePaths)
    (value : Json) :
    (∃ e,
      enterpriseMutationForPath op path value = .error e ∧
      readValue path value = .error e) ∨
    (∃ mutation read,
      enterpriseMutationForPath op path value = .ok mutation ∧
      readValue path value = .ok read ∧
      ∀ other,
        mutation.field other =
          if path = other then some read else none) := by
  unfold enterpriseMutationForPath enterpriseAttribute
  cases path with
  | extension => exact absurd hPath (by decide)
  | manager =>
      simp only [if_neg hOp]
      apply bind_reads
      intro parsed other
      cases other <;> rfl
  | employeeNumber =>
      simp only [if_neg hOp]
      apply bind_reads
      intro parsed other
      cases other <;> rfl
  | department =>
      simp only [if_neg hOp]
      apply bind_reads
      intro parsed other
      cases other <;> rfl
  | division =>
      simp only [if_neg hOp]
      apply bind_reads
      intro parsed other
      cases other <;> rfl
  | organization =>
      simp only [if_neg hOp]
      apply bind_reads
      intro parsed other
      cases other <;> rfl
  | costCenter =>
      simp only [if_neg hOp]
      apply bind_reads
      intro parsed other
      cases other <;> rfl

/- An operation with a path is one on an attribute. -/
theorem applyPatchOperation_path
    {rawOp : String}
    {op : PatchOp}
    (hOp : Sets rawOp op)
    (currentUser : User)
    (patch : ScimUserPatch)
    (path : String)
    (value : Json) :
    applyPatchOperation currentUser patch
        (.object
          [("op", .string rawOp), ("path", .string path),
            ("value", value)]) =
      applyAttributePatch currentUser patch op path value := by
  have hRawOp :
      getOrNull
          [("op", Json.string rawOp), ("path", .string path),
            ("value", value)] "op" =
        .string rawOp := rfl
  have hPath :
      getOrNull
          [("op", Json.string rawOp), ("path", .string path),
            ("value", value)] "path" =
        .string path := rfl
  have hValue :
      JsonObject.get?
          [("op", Json.string rawOp), ("path", .string path),
            ("value", value)] "value" =
        some value := rfl
  unfold applyPatchOperation
  simp only [hRawOp, hOp.1]
  unfold applyNamedOperation
  simp only [hPath]
  rw [if_neg]
  · unfold getOrNull
    rw [hValue]
    rfl
  · rintro ⟨-, hMissing⟩
    rw [hValue] at hMissing
    cases hMissing

/- An operation on the extension parses its object. -/
theorem applyPatchOperation_extension
    {rawOp : String}
    {op : PatchOp}
    (hOp : Sets rawOp op)
    (currentUser : User)
    (patch : ScimUserPatch)
    (extension : JsonObject) :
    applyPatchOperation currentUser patch
        (extensionOperation rawOp extension) =
      (parseEnterpriseProfile extension).map
        (mergeEnterpriseMutation patch) := by
  have hApply :=
    applyPatchOperation_path hOp currentUser patch
      scimSchemaEnterpriseUser (.object extension)
  have hNormal :
      normalizeEnterprisePatchPath scimSchemaEnterpriseUser =
        some .extension :=
    if_pos rfl
  unfold extensionOperation
  rw [hApply]
  unfold applyAttributePatch
  rw [hNormal]
  unfold enterpriseMutationForPath
  simp only [if_neg hOp.2]
  cases parseEnterpriseProfile extension <;> rfl

/- What one operation on an attribute comes to. -/
theorem memberOperation_read
    (hLowers : LowersPrefixes)
    {rawOp : String}
    {op : PatchOp}
    (hOp : Sets rawOp op)
    (currentUser : User)
    (patch : ScimUserPatch)
    (member : String × Json) :
    (∃ e,
      applyPatchOperation currentUser patch
          (memberOperation rawOp member) =
        .error e ∧
      refusal member = some (errorKind e)) ∨
    (∃ next,
      applyPatchOperation currentUser patch
          (memberOperation rawOp member) =
        .ok next ∧
      refusal member = none ∧
      next.userMutation = patch.userMutation ∧
      ∀ path,
        next.profile.field path =
          (readAs path member <|>
            patch.profile.field path)) := by
  have hApply :=
    applyPatchOperation_path hOp currentUser patch
      (enterprisePathPrefix ++ member.1) member.2
  unfold memberOperation
  rw [hApply]
  unfold applyAttributePatch refusal readAs
  rw [normalizeEnterprisePatchPath_member hLowers]
  cases hSpelled : spelled member.1 with
  | none =>
      simp only [patchPaths_lookup_member hLowers]
      exact Or.inl ⟨_, rfl, rfl⟩
  | some path =>
      rcases
          enterpriseMutationForPath_reads hOp.2
            (spelled_mem hSpelled) member.2 with
        ⟨e, hMutation, hRead⟩ |
          ⟨mutation, read, hMutation, hRead, hField⟩
      · simp only [hMutation, hRead]
        exact Or.inl ⟨e, rfl, rfl⟩
      · simp only [hMutation, hRead]
        refine Or.inr ⟨_, rfl, rfl, rfl, ?_⟩
        intro other
        have hProfile :
            (mergeEnterpriseMutation patch mutation).profile =
              mutation.over patch.profile :=
          rfl
        rw [hProfile, field_over, hField other]
        by_cases hSame : path = other
        · subst hSame
          rw [if_pos rfl, if_pos rfl]
          simp only [hRead]
          rfl
        · rw [if_neg hSame, if_neg]
          intro hEq
          exact hSame (Option.some.inj hEq)

/- What the operations on the members come to in order. -/
theorem memberOperations_read
    (hLowers : LowersPrefixes)
    {rawOp : String}
    {op : PatchOp}
    (hOp : Sets rawOp op)
    (currentUser : User)
    (extension : JsonObject)
    (patch : ScimUserPatch) :
    (∃ e,
      (extension.map (memberOperation rawOp)).foldlM
          (applyPatchOperation currentUser) patch =
        .error e ∧
      extension.findSome? refusal = some (errorKind e)) ∨
    (∃ next,
      (extension.map (memberOperation rawOp)).foldlM
          (applyPatchOperation currentUser) patch =
        .ok next ∧
      extension.findSome? refusal = none ∧
      next.userMutation = patch.userMutation ∧
      ∀ path,
        next.profile.field path =
          (lastRead extension path <|>
            patch.profile.field path)) := by
  induction extension generalizing patch with
  | nil => exact Or.inr ⟨patch, rfl, rfl, rfl, fun _ => rfl⟩
  | cons member rest ih =>
      rw [List.map_cons, List.foldlM_cons, List.findSome?_cons]
      rcases
          memberOperation_read hLowers hOp currentUser patch
            member with
        ⟨e, hApply, hRefusal⟩ |
          ⟨next, hApply, hRefusal, hUser, hField⟩
      · rw [hApply, hRefusal]
        exact Or.inl ⟨e, rfl, rfl⟩
      rw [hApply, hRefusal]
      rcases ih next with
        ⟨e, hRest, hRefused⟩ |
          ⟨last, hRest, hRefused, hLastUser, hLastField⟩
      · exact Or.inl ⟨e, hRest, hRefused⟩
      · refine Or.inr ⟨last, hRest, hRefused,
          hLastUser.trans hUser, ?_⟩
        intro path
        rw [hLastField path, hField path]
        unfold lastRead
        cases hRead : readAs path member with
        | none =>
            rw [List.filterMap_cons_none hRead]
            rfl
        | some read =>
            rw [List.filterMap_cons_some hRead,
              List.getLast?_cons]
            cases (rest.filterMap (readAs path)).getLast? <;>
              rfl

/-
  A PATCH of the extension with an object comes to the same
  as the PATCHes of its members in order, exactly when the
  spellings of the members agree with the exact names.
-/
theorem extension_patch_iff
    (hLowers : LowersPrefixes)
    {rawOp : String}
    {op : PatchOp}
    (hOp : Sets rawOp op)
    (currentUser : User)
    (patch : ScimUserPatch)
    (extension : JsonObject) :
    SameOutcome
        (applyPatchOperation currentUser patch
          (extensionOperation rawOp extension))
        ((extension.map (memberOperation rawOp)).foldlM
          (applyPatchOperation currentUser) patch) ↔
      SpellingsAgree patch.profile extension := by
  rw [applyPatchOperation_extension hOp]
  rcases parseEnterpriseProfile_reads extension with
    ⟨e, hObject, hRefused⟩ |
      ⟨mutation, hObject, hTaken, hFields⟩
  · rw [hObject]
    rcases
        memberOperations_read hLowers hOp currentUser extension
          patch with
      ⟨e', hMembers, hFirst⟩ | ⟨next, hMembers, hFirst, -, -⟩
    · rw [hMembers]
      constructor
      · intro hSame
        constructor
        · rw [hFirst, hRefused]
          exact congrArg some hSame.symm
        · rw [hFirst]
          exact nofun
      · intro hAgree
        have hKind := hAgree.refused
        rw [hFirst, hRefused] at hKind
        exact (Option.some.inj hKind).symm
    · rw [hMembers]
      constructor
      · exact False.elim
      · intro hAgree
        have hKind := hAgree.refused
        rw [hFirst, hRefused] at hKind
        cases hKind
  · rw [hObject]
    rcases
        memberOperations_read hLowers hOp currentUser extension
          patch with
      ⟨e', hMembers, hFirst⟩ |
        ⟨next, hMembers, hFirst, hUser, hNext⟩
    · rw [hMembers]
      constructor
      · exact False.elim
      · intro hAgree
        have hKind := hAgree.refused
        rw [hFirst, hTaken] at hKind
        cases hKind
    · rw [hMembers]
      have hMerged :
          ∀ path ∈ attributePaths,
            (mutation.over patch.profile).field path =
              (literalRead extension path <|>
                patch.profile.field path) := by
        intro path hPath
        rw [field_over, hFields path hPath]
      constructor
      · rintro ⟨-, hProfile⟩
        constructor
        · rw [hFirst, hTaken]
        · intro _ path hPath
          have hField :
              (mutation.over patch.profile).field path =
                next.profile.field path :=
            congrArg (fun m => m.field path) hProfile
          rw [← hNext path, ← hMerged path hPath, hField]
      · intro hAgree
        refine ⟨hUser.symm, ?_⟩
        apply field_ext
        intro path hPath
        have hProfile :
            (mergeEnterpriseMutation patch mutation).profile =
              mutation.over patch.profile :=
          rfl
        rw [hProfile, hMerged path hPath, hNext path]
        exact (hAgree.values hFirst path hPath).symm

end Scim

end AccessIQ

------------------------------------------------------------
-- Exact Names
------------------------------------------------------------

namespace AccessIQ

namespace Scim

open Python

theorem get?_of_mem_members
    {extension : JsonObject}
    (hNodup : (extension.map Prod.fst).Nodup)
    {member : String × Json}
    (hMember : member ∈ extension) :
    JsonObject.get? extension member.1 = some member.2 := by
  induction extension with
  | nil => cases hMember
  | cons first rest ih =>
      rw [List.map_cons, List.nodup_cons] at hNodup
      unfold JsonObject.get? at ih ⊢
      rw [List.find?_cons]
      by_cases hSame : first.1 = member.1
      · rw [beq_iff_eq.mpr hSame]
        rcases List.mem_cons.mp hMember with rfl | hRest
        · rfl
        · apply absurd _ hNodup.1
          rw [hSame]
          exact List.mem_map_of_mem hRest
      · rw [beq_eq_false_iff_ne.mpr hSame]
        rcases List.mem_cons.mp hMember with rfl | hRest
        · exact absurd rfl hSame
        · exact ih hNodup.2 hRest

theorem mem_members_of_get?
    {extension : JsonObject}
    {key : String}
    {value : Json}
    (hGet : JsonObject.get? extension key = some value) :
    (key, value) ∈ extension := by
  unfold JsonObject.get? at hGet
  rcases Option.map_eq_some_iff.mp hGet with
    ⟨member, hFind, hValue⟩
  have hFound := List.find?_some hFind
  have hKey : member.1 = key := beq_iff_eq.mp hFound
  rw [← hKey, ← hValue]
  exact List.mem_of_find?_eq_some hFind

/- What answers a value that is no attribute value. -/
def refusedValue : PyException :=
  errorKind (invalidPayload "")

/- A string is taken, or answered with `invalidValue`. -/
theorem refusalOf_parseEnterpriseString
    (key : String)
    (value : Json) :
    refusalOf (parseEnterpriseString key value) = none ∨
      refusalOf (parseEnterpriseString key value) =
        some refusedValue := by
  unfold parseEnterpriseString
  split
  · exact Or.inl rfl
  · split
    · exact Or.inr rfl
    · split
      · exact Or.inr rfl
      · exact Or.inl rfl
  · exact Or.inr rfl

theorem refusalOf_map
    {α β : Type}
    (f : α → β)
    (result : Except PyException α) :
    refusalOf (result.map f) = refusalOf result := by
  cases result <;> rfl

variable [Platform]

/- A manager that is not infinite is too. -/
theorem refusalOf_parseManagerValue
    {value : Json}
    (hFinite : ¬InfiniteManager value) :
    refusalOf (parseManagerValue value) = none ∨
      refusalOf (parseManagerValue value) =
        some refusedValue := by
  have hId :
      ∀ id, managerIdOf value = some id →
        refusalOf (parseManagerId id) = none ∨
          refusalOf (parseManagerId id) =
            some refusedValue := by
    intro id hId
    unfold parseManagerId
    cases hInt : toInt id with
    | ok n =>
        simp only
        split
        · exact Or.inr rfl
        · exact Or.inl rfl
    | error e =>
        cases e with
        | typeError => exact Or.inr rfl
        | valueError => exact Or.inr rfl
        | overflowError =>
            rw [toInt_eq_overflowError_iff] at hInt
            exact absurd
              ((infiniteManager_iff hId).mpr hInt) hFinite
  unfold parseManagerValue
  split
  · exact Or.inl rfl
  · rename_i manager
    cases hGet : JsonObject.get? manager "value" with
    | none => exact Or.inr rfl
    | some id => exact hId id hGet
  · rename_i hNotObject
    apply hId
    unfold managerIdOf
    split
    · exact absurd rfl (hNotObject _)
    · rfl

/- An exact name spells its attribute. -/
theorem spelled_literalKey
    {path : EnterprisePath}
    (hPath : path ∈ attributePaths) :
    spelled (literalKey path) = some path := by
  have hAscii :
      ∀ path ∈ attributePaths,
        isAscii (literalKey path) = true ∧
          enterprisePatchPaths.lookup
              (asciiLower (literalKey path)) =
            some path := by
    decide
  unfold spelled
  rw [Platform.lower_of_isAscii _ (hAscii path hPath).1]
  exact (hAscii path hPath).2

/-
  An object of exact names, each given once, whose manager
  is not an infinite number.
-/
structure ExactlyNamed
    (extension : JsonObject) : Prop where
  nodup : (extension.map Prod.fst).Nodup
  literal :
    ∀ member ∈ extension,
      ∃ path ∈ attributePaths, member.1 = literalKey path
  finite :
    ∀ value,
      JsonObject.get? extension (literalKey .manager) =
          some value →
        ¬InfiniteManager value

variable {extension : JsonObject}

/- A member is refused as its attribute is. -/
theorem ExactlyNamed.refusal_eq
    (hExact : ExactlyNamed extension)
    {member : String × Json}
    (hMember : member ∈ extension) :
    ∃ path ∈ attributePaths,
      refusal member = literalRefusal extension path := by
  rcases hExact.literal member hMember with
    ⟨path, hPath, hName⟩
  have hGet := get?_of_mem_members hExact.nodup hMember
  refine ⟨path, hPath, ?_⟩
  unfold refusal literalRefusal
  rw [← hName, hGet, hName, spelled_literalKey hPath]
  rfl

theorem ExactlyNamed.literalRefusal_cases
    (hExact : ExactlyNamed extension)
    {path : EnterprisePath}
    (hPath : path ∈ attributePaths) :
    literalRefusal extension path = none ∨
      literalRefusal extension path = some refusedValue := by
  unfold literalRefusal
  cases hGet :
      JsonObject.get? extension (literalKey path) with
  | none => exact Or.inl rfl
  | some value =>
      rw [Option.bind_some]
      unfold readValue
      cases path with
      | manager =>
          simp only [refusalOf_map]
          exact refusalOf_parseManagerValue
            (hExact.finite value hGet)
      | _ =>
          simp only [refusalOf_map]
          exact refusalOf_parseEnterpriseString _ value

/- The last value of an attribute is that of its name. -/
theorem ExactlyNamed.lastRead_eq
    (hExact : ExactlyNamed extension)
    {path : EnterprisePath}
    (hPath : path ∈ attributePaths) :
    lastRead extension path = literalRead extension path := by
  have hReadAs :
      ∀ value,
        readAs path (literalKey path, value) =
          (readValue path value).toOption := by
    intro value
    unfold readAs
    rw [if_pos (spelled_literalKey hPath)]
  cases hLast : lastRead extension path with
  | some read =>
      have hMem := List.mem_of_getLast? hLast
      rcases List.mem_filterMap.mp hMem with
        ⟨⟨name, value⟩, hMember, hRead⟩
      rcases hExact.literal _ hMember with
        ⟨other, hOther, hName⟩
      have hSpelled : spelled name = some path := by
        unfold readAs at hRead
        split at hRead
        · assumption
        · cases hRead
      simp only at hName
      have hSame : other = path := by
        rw [hName, spelled_literalKey hOther] at hSpelled
        exact Option.some.inj hSpelled
      rw [hSame] at hName
      have hGet := get?_of_mem_members hExact.nodup hMember
      unfold literalRead
      rw [← hName, hGet, Option.bind_some, ← hReadAs, ← hName]
      exact hRead.symm
  | none =>
      have hEmpty := List.getLast?_eq_none_iff.mp hLast
      unfold literalRead
      cases hGet :
          JsonObject.get? extension (literalKey path) with
      | none => rfl
      | some value =>
          have hNone :=
            List.filterMap_eq_nil_iff.mp hEmpty _
              (mem_members_of_get? hGet)
          rw [Option.bind_some, ← hReadAs, hNone]

/- The spellings of exact names agree with them. -/
theorem ExactlyNamed.spellingsAgree
    (hExact : ExactlyNamed extension)
    (current : EnterpriseProfileMutation) :
    SpellingsAgree current extension := by
  constructor
  · cases hFirst : extension.findSome? refusal with
    | none =>
        symm
        rw [List.findSome?_eq_none_iff]
        intro path hPath
        cases hGet :
            JsonObject.get? extension (literalKey path) with
        | none =>
            unfold literalRefusal
            rw [hGet]
            rfl
        | some value =>
            have hTaken :=
              List.findSome?_eq_none_iff.mp hFirst _
                (mem_members_of_get? hGet)
            unfold refusal at hTaken
            rw [spelled_literalKey hPath] at hTaken
            unfold literalRefusal
            rw [hGet]
            exact hTaken
    | some e =>
        rcases List.exists_of_findSome?_eq_some hFirst with
          ⟨member, hMember, hRefusal⟩
        rcases hExact.refusal_eq hMember with
          ⟨path, hPath, hEq⟩
        rw [hRefusal] at hEq
        cases hLiteral :
            attributePaths.findSome?
              (literalRefusal extension) with
        | none =>
            have hNone :=
              List.findSome?_eq_none_iff.mp hLiteral path hPath
            rw [hNone] at hEq
            cases hEq
        | some e' =>
            rcases
                List.exists_of_findSome?_eq_some hLiteral with
              ⟨other, hOther, hOtherRefusal⟩
            have hKind :=
              hExact.literalRefusal_cases hPath
            have hOtherKind :=
              hExact.literalRefusal_cases hOther
            rw [← hEq] at hKind
            rw [hOtherRefusal] at hOtherKind
            have hE := hKind.resolve_left nofun
            have hE' := hOtherKind.resolve_left nofun
            exact hE.trans hE'.symm
  · intro _ path hPath
    rw [hExact.lastRead_eq hPath]

end Scim

end AccessIQ

------------------------------------------------------------
-- Overlooked Members
------------------------------------------------------------

namespace AccessIQ

namespace Scim

open Python

attribute [local instance] asciiPlatform

theorem lowersPrefixes_asciiPlatform :
    LowersPrefixes := by
  intro before after _
  have hLower :
      ∀ s,
        (Platform.lower s).toList =
          s.toList.map Char.toLower :=
    fun _ => String.toList_ofList
  rw [hLower, hLower, String.toList_append, List.map_append]
  exact List.prefix_append _ _

theorem extension_patch_iff_bob :
    SameOutcome
        (applyPatchOperation bob { userMutation := {} }
          (extensionOperation "Replace"
            [("Department", .string "Sales"),
              ("department", .string "Legal")]))
        (([("Department", Json.string "Sales"),
            ("department", .string "Legal")].map
          (memberOperation "Replace")).foldlM
            (applyPatchOperation bob)
            { userMutation := {} }) ↔
      SpellingsAgree {}
        [("Department", .string "Sales"),
          ("department", .string "Legal")] :=
  @extension_patch_iff _ lowersPrefixes_asciiPlatform
    "Replace" .replace ⟨by decide +kernel, by decide⟩ bob _ _

/-
  The object passes over a name in another case, which its
  attribute path sets, and a name that its attribute path
  refuses.
-/
theorem object_passes_over :
    ¬SameOutcome
        (applyPatchOperation bob { userMutation := {} }
          (extensionOperation "replace"
            [("Department", .string "Sales")]))
        (([("Department", Json.string "Sales")].map
          (memberOperation "replace")).foldlM
            (applyPatchOperation bob)
            { userMutation := {} }) ∧
      ¬SameOutcome
        (applyPatchOperation bob { userMutation := {} }
          (extensionOperation "replace"
            [("colour", .string "Red")]))
        (([("colour", Json.string "Red")].map
          (memberOperation "replace")).foldlM
            (applyPatchOperation bob)
            { userMutation := {} }) := by
  constructor
  · decide +kernel
  · decide +kernel

end Scim

end AccessIQ
