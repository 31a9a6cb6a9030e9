import AccessIQ.Foundations.Execution
import AccessIQ.Scim.Groups
import AccessIQ.Scim.Projection
import AccessIQ.Seed

/-
  What a projection leaves of the resources of the server.

  The keys of a resource are of a fixed list, which no two of
  them share a lower case in.  A path names a key by its part
  before the first dot in any case, so that the key of the
  enterprise extension, which has a dot, is named by no path,
  and `schemas` and `id` are excluded when they are spelled
  in another case.

  Key definitions include:
    * `IsScimResource`
    * `resourceKeys`
    * `IdentitySurvives`
    * `SelectsExactly`

  Key theorems include:
    * `resolveResourceKey_eq_some_iff`
    * `identity_survives_iff`
    * `selects_exactly_iff`
-/

------------------------------------------------------------
-- Keys
------------------------------------------------------------

namespace AccessIQ

namespace Scim

open Foundations Python

/- The keys a resource of the server may have. -/
def resourceKeys : List String :=
  ["schemas", "id", "userName", "name", "displayName",
    "active", "emails", "members", "meta",
    scimSchemaEnterpriseUser]

/- The members of a resource that the server builds. -/
def IsScimResource
    (members : JsonObject) : Prop :=
  (∃ (s : Store) (baseUrl : String) (user : User),
      s.userResource baseUrl user = .object members) ∨
    ∃ (s : Store) (baseUrl : String) (group : Group),
      s.groupResource baseUrl group = .ok (.object members)

/- The keys of a resource, which identify it. -/
structure WellKeyed
    (members : JsonObject) : Prop where
  known : ∀ key ∈ members.map Prod.fst, key ∈ resourceKeys
  nodup : (members.map Prod.fst).Nodup
  always :
    ∀ key ∈ alwaysReturnedAttributes,
      key ∈ members.map Prod.fst

/- The keys of a user resource without its extension. -/
def coreKeys : List String :=
  ["schemas", "id", "userName", "name", "displayName",
    "active", "emails", "meta"]

/- The keys of a group resource. -/
def groupKeys : List String :=
  ["schemas", "id", "displayName", "members", "meta"]

theorem keys_userResource
    {s : Store}
    {baseUrl : String}
    {user : User}
    {members : JsonObject}
    (hResource :
      s.userResource baseUrl user = .object members) :
    members.map Prod.fst = coreKeys ∨
      members.map Prod.fst =
        coreKeys ++ [scimSchemaEnterpriseUser] := by
  unfold Store.userResource userToScimResource at hResource
  by_cases hEmpty :
      (s.enterpriseExtension baseUrl user.id).isEmpty = true
  · rw [if_pos hEmpty] at hResource
    cases hResource
    exact Or.inl rfl
  · rw [if_neg hEmpty] at hResource
    cases hResource
    exact Or.inr rfl

theorem keys_groupResource
    {s : Store}
    {baseUrl : String}
    {group : Group}
    {members : JsonObject}
    (hResource :
      s.groupResource baseUrl group =
        .ok (.object members)) :
    members.map Prod.fst = groupKeys := by
  unfold Store.groupResource at hResource
  rcases bind_eq_ok hResource with ⟨resources, _, hMembers⟩
  cases hMembers
  rfl

theorem wellKeyed_of_isScimResource
    {members : JsonObject}
    (hResource : IsScimResource members) :
    WellKeyed members := by
  have hKeys :
      members.map Prod.fst = coreKeys ∨
        members.map Prod.fst =
          coreKeys ++ [scimSchemaEnterpriseUser] ∨
        members.map Prod.fst = groupKeys := by
    rcases hResource with
      ⟨_, _, _, hUser⟩ | ⟨_, _, _, hGroup⟩
    · rcases keys_userResource hUser with hCore | hExtended
      · exact Or.inl hCore
      · exact Or.inr (Or.inl hExtended)
    · exact Or.inr (Or.inr (keys_groupResource hGroup))
  rcases hKeys with hKeys | hKeys | hKeys
  all_goals
    constructor
    · rw [hKeys]
      decide
    · rw [hKeys]
      decide
    · rw [hKeys]
      decide

end Scim

end AccessIQ

------------------------------------------------------------
-- Resolving Paths
------------------------------------------------------------

namespace AccessIQ

namespace Scim

open Python

variable [Platform]

theorem lower_resourceKey
    {key : String}
    (hKey : key ∈ resourceKeys) :
    Platform.lower key = asciiLower key := by
  apply Platform.lower_of_isAscii
  have hAscii :
      ∀ key ∈ resourceKeys, isAscii key = true := by
    decide
  exact hAscii key hKey

/- Two keys of a resource differ in more than case. -/
theorem lower_resourceKey_inj
    {a b : String}
    (hA : a ∈ resourceKeys)
    (hB : b ∈ resourceKeys)
    (hLower : Platform.lower a = Platform.lower b) :
    a = b := by
  rw [lower_resourceKey hA, lower_resourceKey hB] at hLower
  have hInjective :
      ∀ a ∈ resourceKeys, ∀ b ∈ resourceKeys,
        asciiLower a = asciiLower b → a = b := by
    decide
  exact hInjective a hA b hB hLower

/- Only a key with the lower case can be found under it. -/
theorem get?_foldl_canonicalKeys
    (names : List String)
    (keys : Dict String String)
    (lowered key : String)
    (hInjective :
      ∀ name ∈ names, Platform.lower name = lowered →
        name = key) :
    (names.foldl
        (fun keys name => keys.set (Platform.lower name) name)
        keys).get? lowered =
      if key ∈ names ∧ Platform.lower key = lowered then
        some key
      else
        keys.get? lowered := by
  induction names generalizing keys with
  | nil => simp
  | cons name names ih =>
      rw [List.foldl_cons,
        ih (keys.set (Platform.lower name) name)
          (fun other hOther =>
            hInjective other (List.mem_cons_of_mem _ hOther)),
        Dict.get?_set]
      by_cases hName : Platform.lower name = lowered
      · have hKey := hInjective name List.mem_cons_self hName
        subst hKey
        simp [hName]
      · have hNe : Platform.lower key = lowered → key ≠ name := by
          intro hKey hEq
          rw [hEq] at hKey
          exact hName hKey
        rw [if_neg hName]
        by_cases hKey : Platform.lower key = lowered
        · simp [hKey, hNe hKey]
        · simp [hKey]

/- A path resolves to the key it names in any case. -/
theorem resolveResourceKey_eq_some_iff
    {members : JsonObject}
    (hKeyed : WellKeyed members)
    {path key : String} :
    resolveResourceKey (canonicalKeys members) path =
        some key ↔
      key ∈ members.map Prod.fst ∧
        Platform.lower key =
          Platform.lower (topLevelAttribute path) := by
  unfold resolveResourceKey canonicalKeys
  generalize
    Platform.lower (topLevelAttribute path) = lowered
  by_cases hFound :
      ∃ found ∈ members.map Prod.fst,
        Platform.lower found = lowered
  · rcases hFound with ⟨found, hMem, hLower⟩
    rw [get?_foldl_canonicalKeys _ _ _ found,
      if_pos ⟨hMem, hLower⟩]
    · constructor
      · intro hKey
        cases hKey
        exact ⟨hMem, hLower⟩
      · rintro ⟨hKey, hKeyLower⟩
        have hEq :=
          lower_resourceKey_inj (hKeyed.known found hMem)
            (hKeyed.known key hKey)
            (hLower.trans hKeyLower.symm)
        rw [hEq]
    · intro name hName hNameLower
      exact lower_resourceKey_inj (hKeyed.known name hName)
        (hKeyed.known found hMem)
        (hNameLower.trans hLower.symm)
  · rw [get?_foldl_canonicalKeys _ _ _ key,
      if_neg (fun h => hFound ⟨key, h⟩)]
    · constructor
      · intro hKey
        cases hKey
      · intro hKey
        exact absurd ⟨key, hKey⟩ hFound
    · intro name hName hLower
      exact absurd ⟨name, hName, hLower⟩ hFound

/- A key without a dot is a path of its own. -/
theorem lower_topLevelAttribute_iff
    {key other : String}
    (hKey : key ∈ resourceKeys)
    (hOther : other ∈ resourceKeys) :
    Platform.lower key =
        Platform.lower (topLevelAttribute other) ↔
      key = other ∧ other ≠ scimSchemaEnterpriseUser := by
  have hAscii :
      ∀ other ∈ resourceKeys,
        isAscii (topLevelAttribute other) = true := by
    decide
  rw [lower_resourceKey hKey,
    Platform.lower_of_isAscii _ (hAscii other hOther)]
  have hNames :
      ∀ key ∈ resourceKeys, ∀ other ∈ resourceKeys,
        asciiLower key =
            asciiLower (topLevelAttribute other) ↔
          key = other ∧ other ≠ scimSchemaEnterpriseUser := by
    decide
  exact hNames key hKey other hOther

end Scim

end AccessIQ

------------------------------------------------------------
-- Identity
------------------------------------------------------------

namespace AccessIQ

namespace Scim

open Foundations Python

/- Keeping members by key keeps the values of their keys. -/
theorem get?_filter_key
    (members : JsonObject)
    (p : String → Bool)
    (key : String) :
    JsonObject.get? (members.filter fun m => p m.1) key =
      if p key = true then members.get? key else none := by
  unfold JsonObject.get?
  rw [List.find?_filter]
  by_cases hKey : p key = true
  · rw [if_pos hKey]
    congr 2
    funext member
    by_cases hMember : member.1 = key
    · simp [hMember, hKey]
    · simp [hMember]
  · rw [if_neg hKey]
    have hNone :
        members.find? (fun member =>
          decide (p member.1 = true ∧
            (member.1 == key) = true)) = none := by
      rw [List.find?_eq_none]
      intro member _
      by_cases hMember : member.1 = key
      · simp [hMember, hKey]
      · simp [hMember]
    rw [hNone]
    rfl

theorem exists_get?_of_mem_keys
    {members : JsonObject}
    {key : String}
    (hKey : key ∈ members.map Prod.fst) :
    ∃ value, members.get? key = some value := by
  rcases List.mem_map.mp hKey with ⟨member, hMem, rfl⟩
  have hSome :
      (members.find? fun m => m.1 == member.1).isSome := by
    rw [List.find?_isSome]
    exact ⟨member, hMem, beq_self_eq_true _⟩
  rcases Option.isSome_iff_exists.mp hSome with ⟨found, hFound⟩
  refine ⟨found.2, ?_⟩
  unfold JsonObject.get?
  rw [hFound]
  rfl

variable [Platform]

/- `schemas` and `id` are there with their values. -/
def IdentitySurvives
    (members : JsonObject)
    (projection : ScimProjection) : Prop :=
  ∀ key ∈ alwaysReturnedAttributes,
    ∃ value,
      members.get? key = some value ∧
        JsonObject.get?
            (applyAttributeProjection members projection)
            key =
          some value

theorem get?_applyAttributeProjection
    (members : JsonObject)
    (projection : ScimProjection)
    (key : String) :
    JsonObject.get?
        (applyAttributeProjection members projection) key =
      if key ∈ selectedKeys members projection ∧
          key ∉ excludedKeys members projection then
        members.get? key
      else
        none := by
  unfold applyAttributeProjection
  rw [get?_filter_key members fun key =>
    decide
      (key ∈ selectedKeys members projection ∧
        key ∉ excludedKeys members projection)]
  simp only [decide_eq_true_iff]

theorem mem_excludedKeys_iff
    {members : JsonObject}
    (hKeyed : WellKeyed members)
    {projection : ScimProjection}
    {key : String} :
    key ∈ excludedKeys members projection ↔
      key ∈ members.map Prod.fst ∧
        ∃ path ∈ projection.excludedAttributes,
          topLevelAttribute path ∉ alwaysReturnedAttributes ∧
            Platform.lower key =
              Platform.lower (topLevelAttribute path) := by
  unfold excludedKeys
  rw [List.mem_filterMap]
  constructor
  · rintro ⟨path, hPath, hKey⟩
    rw [resolveResourceKey_eq_some_iff hKeyed] at hKey
    have hExcluded := List.mem_filter.mp hPath
    exact ⟨hKey.1, path, hExcluded.1,
      by simpa using hExcluded.2, hKey.2⟩
  · rintro ⟨hKey, path, hPath, hNot, hLower⟩
    refine ⟨path, List.mem_filter.mpr ⟨hPath, ?_⟩, ?_⟩
    · simpa using hNot
    · exact (resolveResourceKey_eq_some_iff hKeyed).mpr
        ⟨hKey, hLower⟩

omit [Platform] in
/- The required keys are written in lower case, dotless. -/
theorem always_resourceKeys
    {key : String}
    (hKey : key ∈ alwaysReturnedAttributes) :
    key ∈ resourceKeys ∧ key ≠ scimSchemaEnterpriseUser ∧
      asciiLower key = key := by
  have hAlways :
      ∀ key ∈ alwaysReturnedAttributes,
        key ∈ resourceKeys ∧
          key ≠ scimSchemaEnterpriseUser ∧
            asciiLower key = key := by
    decide
  exact hAlways key hKey

theorem lower_always
    {key : String}
    (hKey : key ∈ alwaysReturnedAttributes) :
    Platform.lower key = key := by
  rcases always_resourceKeys hKey with ⟨hKnown, _, hLower⟩
  rw [lower_resourceKey hKnown, hLower]

theorem always_mem_selectedKeys
    {members : JsonObject}
    (hKeyed : WellKeyed members)
    (projection : ScimProjection)
    {key : String}
    (hKey : key ∈ alwaysReturnedAttributes) :
    key ∈ selectedKeys members projection := by
  have hMem := hKeyed.always key hKey
  unfold selectedKeys
  cases projection.attributes with
  | none => exact hMem
  | some attributes =>
      rw [List.mem_filterMap]
      refine ⟨key, List.mem_append_right _ hKey, ?_⟩
      rw [resolveResourceKey_eq_some_iff hKeyed]
      rcases always_resourceKeys hKey with ⟨hKnown, hNe, _⟩
      exact ⟨hMem,
        (lower_topLevelAttribute_iff hKnown hKnown).mpr
          ⟨rfl, hNe⟩⟩

/-
  `schemas` and `id` survive a projection exactly when it
  excludes neither of them under another spelling.
-/
theorem identity_survives_iff
    {members : JsonObject}
    (hResource : IsScimResource members)
    (projection : ScimProjection) :
    IdentitySurvives members projection ↔
      ∀ path ∈ projection.excludedAttributes,
        Platform.lower (topLevelAttribute path) ∈
            alwaysReturnedAttributes →
          topLevelAttribute path ∈
            alwaysReturnedAttributes := by
  have hKeyed := wellKeyed_of_isScimResource hResource
  constructor
  · intro hSurvives path hPath hLower
    by_contra hSpelled
    let key := Platform.lower (topLevelAttribute path)
    rcases hSurvives key hLower with ⟨value, _, hValue⟩
    have hExcluded : key ∈ excludedKeys members projection := by
      rw [mem_excludedKeys_iff hKeyed]
      exact ⟨hKeyed.always key hLower, path, hPath, hSpelled,
        lower_always hLower⟩
    rw [get?_applyAttributeProjection,
      if_neg (fun h => h.2 hExcluded)] at hValue
    cases hValue
  · intro hSpelled key hKey
    have hMem := hKeyed.always key hKey
    rcases exists_get?_of_mem_keys hMem with ⟨value, hValue⟩
    refine ⟨value, hValue, ?_⟩
    have hKept : key ∉ excludedKeys members projection := by
      intro hExcluded
      rw [mem_excludedKeys_iff hKeyed] at hExcluded
      rcases hExcluded with ⟨_, path, hPath, hNot, hLower⟩
      rw [lower_always hKey] at hLower
      rw [hLower] at hKey
      exact hNot (hSpelled path hPath hKey)
    rw [get?_applyAttributeProjection,
      if_pos ⟨always_mem_selectedKeys hKeyed _ hKey, hKept⟩]
    exact hValue

end Scim

end AccessIQ

------------------------------------------------------------
-- Named Keys
------------------------------------------------------------

namespace AccessIQ

namespace Scim

open Foundations Python

theorem mapM_parseAttributePath
    (queryName : String)
    {names : List String}
    (hNames : ∀ name ∈ names, name ∈ resourceKeys) :
    (names.map String.toList).mapM
        (fun cs =>
          parseAttributePath queryName (String.ofList cs)) =
      .ok names := by
  have hPaths :
      ∀ name ∈ resourceKeys,
        strip name = name ∧ name ≠ "" ∧
          isAttributePath name = true := by
    decide +kernel
  induction names with
  | nil => rfl
  | cons name names ih =>
      have hName := hPaths name (hNames name List.mem_cons_self)
      have hParsed :
          parseAttributePath queryName
              (String.ofList name.toList) = .ok name := by
        unfold parseAttributePath
        simp only
        rw [String.ofList_toList, hName.1, if_neg hName.2.1,
          if_pos hName.2.2]
      rw [List.map_cons, List.mapM_cons, hParsed,
        ih fun other hOther =>
          hNames other (List.mem_cons_of_mem _ hOther)]
      rfl

/- A list of keys, separated by commas, is accepted. -/
theorem parseAttributeList_intercalate
    (queryName : String)
    {names : List String}
    (hNames : ∀ name ∈ names, name ∈ resourceKeys) :
    parseAttributeList queryName
        (some (String.intercalate "," names)) =
      .ok (some names) := by
  have hComma :
      ∀ name ∈ resourceKeys,
        ',' ∉ name.toList ∧ name.toList ≠ [] := by
    decide +kernel
  unfold parseAttributeList
  cases names with
  | nil => rfl
  | cons name rest =>
      have hNonempty :
          String.intercalate "," (name :: rest) ≠ "" := by
        intro hEmpty
        have hList := congrArg String.toList hEmpty
        rw [String.toList_intercalate] at hList
        have hName :=
          (hComma name (hNames name List.mem_cons_self)).2
        cases rest with
        | nil => simp [List.intercalate] at hList; simp [hList] at hName
        | cons other rest =>
            simp [List.intercalate] at hList
      simp only
      rw [if_neg hNonempty, String.toList_intercalate]
      have hSplit :
          ([','].intercalate
              ((name :: rest).map String.toList)).splitOn ',' =
            (name :: rest).map String.toList := by
        apply List.splitOn_intercalate
        · intro cs hCs
          rcases List.mem_map.mp hCs with ⟨other, hOther, rfl⟩
          exact (hComma other (hNames other hOther)).1
        · simp
      change
        (do
          let attributes ←
            ([','].intercalate
              ((name :: rest).map String.toList)).splitOn ','
              |>.mapM fun cs =>
                parseAttributePath queryName (String.ofList cs)
          return some attributes) = _
      rw [hSplit, mapM_parseAttributePath queryName hNames]
      rfl

variable [Platform]

/-
  Named keys are selected, or excluded, with nothing else but
  that `schemas` and `id` stay.
-/
structure SelectsExactly
    (members : JsonObject)
    (names : List String) : Prop where
  selected :
    ∃ projection,
      parseAttributeProjection
          (some (String.intercalate "," names)) none =
        .ok projection ∧
      applyAttributeProjection members projection =
        members.filter fun member =>
          member.1 ∈ names ++ alwaysReturnedAttributes
  excluded :
    ∃ projection,
      parseAttributeProjection none
          (some (String.intercalate "," names)) =
        .ok projection ∧
      applyAttributeProjection members projection =
        members.filter fun member =>
          member.1 ∉ names ∨
            member.1 ∈ alwaysReturnedAttributes

theorem mem_selectedKeys_names_iff
    {members : JsonObject}
    (hKeyed : WellKeyed members)
    {names : List String}
    (hNames : ∀ name ∈ names, name ∈ members.map Prod.fst)
    {key : String}
    (hKey : key ∈ members.map Prod.fst) :
    key ∈ selectedKeys members ⟨some names, []⟩ ↔
      key ∈ alwaysReturnedAttributes ∨
        key ∈ names ∧ key ≠ scimSchemaEnterpriseUser := by
  have hKnown := hKeyed.known key hKey
  have hAll :
      ∀ name ∈ names ++ alwaysReturnedAttributes,
        name ∈ resourceKeys := by
    intro name hName
    rcases List.mem_append.mp hName with h | h
    · exact hKeyed.known name (hNames name h)
    · exact (always_resourceKeys h).1
  unfold selectedKeys
  rw [List.mem_filterMap]
  constructor
  · rintro ⟨name, hName, hResolved⟩
    rw [resolveResourceKey_eq_some_iff hKeyed,
      lower_topLevelAttribute_iff hKnown (hAll name hName)]
      at hResolved
    rcases hResolved with ⟨_, rfl, hNe⟩
    rcases List.mem_append.mp hName with h | h
    · exact Or.inr ⟨h, hNe⟩
    · exact Or.inl h
  · intro hSelected
    have hName :
        key ∈ names ++ alwaysReturnedAttributes ∧
          key ≠ scimSchemaEnterpriseUser := by
      rcases hSelected with hAlways | ⟨hName, hNe⟩
      · exact ⟨List.mem_append_right _ hAlways,
          (always_resourceKeys hAlways).2.1⟩
      · exact ⟨List.mem_append_left _ hName, hNe⟩
    refine ⟨key, hName.1, ?_⟩
    rw [resolveResourceKey_eq_some_iff hKeyed,
      lower_topLevelAttribute_iff hKnown hKnown]
    exact ⟨hKey, rfl, hName.2⟩

theorem mem_excludedKeys_names_iff
    {members : JsonObject}
    (hKeyed : WellKeyed members)
    {attributes : Option (List String)}
    {names : List String}
    (hNames : ∀ name ∈ names, name ∈ members.map Prod.fst)
    {key : String}
    (hKey : key ∈ members.map Prod.fst) :
    key ∈ excludedKeys members ⟨attributes, names⟩ ↔
      key ∉ alwaysReturnedAttributes ∧
        key ∈ names ∧ key ≠ scimSchemaEnterpriseUser := by
  have hKnown := hKeyed.known key hKey
  have hTop :
      ∀ name ∈ resourceKeys,
        name ≠ scimSchemaEnterpriseUser →
          topLevelAttribute name = name := by
    decide +kernel
  rw [mem_excludedKeys_iff hKeyed]
  constructor
  · rintro ⟨_, name, hName, hNot, hLower⟩
    have hOther := hKeyed.known name (hNames name hName)
    rw [lower_topLevelAttribute_iff hKnown hOther] at hLower
    rcases hLower with ⟨rfl, hNe⟩
    rw [hTop key hKnown hNe] at hNot
    exact ⟨hNot, hName, hNe⟩
  · rintro ⟨hNot, hName, hNe⟩
    refine ⟨hKey, key, hName, ?_, ?_⟩
    · rw [hTop key hKnown hNe]
      exact hNot
    · exact (lower_topLevelAttribute_iff hKnown hKnown).mpr
        ⟨rfl, hNe⟩

/-
  Named keys are selected and excluded exactly as named when
  the extension is not among them.
-/
theorem selects_exactly_iff
    {members : JsonObject}
    (hResource : IsScimResource members)
    {names : List String}
    (hNames : ∀ name ∈ names, name ∈ members.map Prod.fst) :
    SelectsExactly members names ↔
      scimSchemaEnterpriseUser ∉ names := by
  have hKeyed := wellKeyed_of_isScimResource hResource
  have hParsed :
      ∀ queryName,
        parseAttributeList queryName
            (some (String.intercalate "," names)) =
          .ok (some names) := fun queryName =>
    parseAttributeList_intercalate queryName
      fun name hName => hKeyed.known name (hNames name hName)
  have hSelected :
      parseAttributeProjection
          (some (String.intercalate "," names)) none =
        .ok ⟨some names, []⟩ := by
    unfold parseAttributeProjection
    rw [hParsed]
    rfl
  have hExcluded :
      parseAttributeProjection none
          (some (String.intercalate "," names)) =
        .ok ⟨none, names⟩ := by
    unfold parseAttributeProjection
    rw [hParsed]
    rfl
  have hExtension :
      scimSchemaEnterpriseUser ∉ alwaysReturnedAttributes := by
    decide
  constructor
  · intro hExactly hName
    rcases hExactly.selected with ⟨projection, hOk, hKept⟩
    rw [hSelected] at hOk
    cases hOk
    rcases List.mem_map.mp (hNames _ hName) with
      ⟨member, hMember, hKey⟩
    have hMem :
        member ∈ applyAttributeProjection members
          ⟨some names, []⟩ := by
      rw [hKept, List.mem_filter]
      refine ⟨hMember, ?_⟩
      rw [decide_eq_true_iff, hKey]
      exact List.mem_append_left _ hName
    unfold applyAttributeProjection at hMem
    have hSelect :=
      (decide_eq_true_iff.mp (List.mem_filter.mp hMem).2).1
    rw [hKey, mem_selectedKeys_names_iff hKeyed hNames
      (hNames _ hName)] at hSelect
    rcases hSelect with hAlways | hNamed
    · exact hExtension hAlways
    · exact hNamed.2 rfl
  · intro hName
    have hNe :
        ∀ key ∈ names, key ≠ scimSchemaEnterpriseUser := by
      intro key hKey hEq
      rw [hEq] at hKey
      exact hName hKey
    constructor
    · refine ⟨_, hSelected, ?_⟩
      unfold applyAttributeProjection
      apply List.filter_congr
      intro member hMember
      have hKey : member.1 ∈ members.map Prod.fst :=
        List.mem_map_of_mem hMember
      have hNone :
          excludedKeys members ⟨some names, []⟩ = [] := rfl
      rw [decide_eq_decide,
        mem_selectedKeys_names_iff hKeyed hNames hKey, hNone,
        List.mem_append]
      constructor
      · rintro ⟨hAlways | hNamed, _⟩
        · exact Or.inr hAlways
        · exact Or.inl hNamed.1
      · intro hSelect
        refine ⟨?_, List.not_mem_nil⟩
        rcases hSelect with hNamed | hAlways
        · exact Or.inr ⟨hNamed, hNe _ hNamed⟩
        · exact Or.inl hAlways
    · refine ⟨_, hExcluded, ?_⟩
      unfold applyAttributeProjection
      apply List.filter_congr
      intro member hMember
      have hKey : member.1 ∈ members.map Prod.fst :=
        List.mem_map_of_mem hMember
      rw [decide_eq_decide,
        mem_excludedKeys_names_iff hKeyed hNames hKey]
      constructor
      · rintro ⟨_, hKept⟩
        by_cases hAlways : member.1 ∈ alwaysReturnedAttributes
        · exact Or.inr hAlways
        · refine Or.inl fun hNamed => ?_
          exact hKept ⟨hAlways, hNamed, hNe _ hNamed⟩
      · intro hKept
        refine ⟨hKey, fun hExcludedKey => ?_⟩
        rcases hKept with hUnnamed | hAlways
        · exact hUnnamed hExcludedKey.2.1
        · exact hExcludedKey.1 hAlways

end Scim

end AccessIQ

------------------------------------------------------------
-- A User With A Profile
------------------------------------------------------------

namespace AccessIQ

namespace Scim

open Foundations Python

section Seeded

attribute [local instance] asciiPlatform

/- The seeded store with an enterprise profile. -/
def profiledStore : Store :=
  { seededStore .sqlite with
    enterpriseUserProfiles :=
      { rows :=
          [{ id := 1
             userId := 1
             employeeNumber := some "E1"
             createdAt := 0
             updatedAt := 0 }]
        issued := 1
        sorted := by decide
        bounded := by decide
        unique := by decide } }

/- The resource of the user with the profile. -/
def bobMembers : JsonObject :=
  coreMembers "http://localhost:8000/" bob
      [scimSchemaUser, scimSchemaEnterpriseUser] ++
    [(scimSchemaEnterpriseUser,
      .object [("employeeNumber", .string "E1")])]

theorem isScimResource_bobMembers :
    IsScimResource bobMembers :=
  Or.inl ⟨profiledStore, "http://localhost:8000/", bob, rfl⟩

/- Excluding `id` itself, among others, keeps it. -/
theorem identity_survives_iff_bob :
    IdentitySurvives bobMembers
      ⟨some ["name"], ["userName", "id", "meta.location"]⟩ :=
  (identity_survives_iff isScimResource_bobMembers _).mpr
    (by decide +kernel)

/- Excluding `ID` drops it. -/
theorem id_in_capitals_dropped :
    IsScimResource bobMembers ∧
      parseAttributeProjection none (some "ID") =
        .ok ⟨none, ["ID"]⟩ ∧
      ¬IdentitySurvives bobMembers ⟨none, ["ID"]⟩ := by
  refine ⟨isScimResource_bobMembers, rfl, ?_⟩
  intro hSurvives
  rcases hSurvives "id" (by decide) with ⟨value, _, hValue⟩
  have hNone :
      (JsonObject.get?
        (applyAttributeProjection bobMembers ⟨none, ["ID"]⟩)
        "id").isSome = false := by
    decide +kernel
  rw [hValue] at hNone
  cases hNone

/- Two keys of the core schema. -/
theorem selects_exactly_iff_bob :
    SelectsExactly bobMembers ["userName", "emails"] :=
  (selects_exactly_iff isScimResource_bobMembers
    (by decide +kernel)).mpr (by decide +kernel)

/- The extension is not selected by its own key. -/
theorem extension_not_selected :
    IsScimResource bobMembers ∧
      scimSchemaEnterpriseUser ∈ bobMembers.map Prod.fst ∧
      ¬SelectsExactly bobMembers
        [scimSchemaEnterpriseUser] := by
  refine ⟨isScimResource_bobMembers, by decide +kernel, ?_⟩
  intro hExactly
  rcases hExactly.selected with ⟨projection, hOk, hKept⟩
  have hParsed :
      parseAttributeProjection
          (some (String.intercalate ","
            [scimSchemaEnterpriseUser])) none =
        .ok ⟨some [scimSchemaEnterpriseUser], []⟩ := by
    rfl
  rw [hParsed] at hOk
  cases hOk
  have hLength := congrArg List.length hKept
  revert hLength
  decide +kernel

end Seeded

end Scim

end AccessIQ
