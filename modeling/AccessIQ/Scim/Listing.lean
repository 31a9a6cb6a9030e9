import Mathlib.Data.String.Basic
import AccessIQ.Foundations.Execution
import AccessIQ.Foundations.Pagination
import AccessIQ.Scim.Filtering
import AccessIQ.Scim.Projection
import AccessIQ.Seed

/-
  The paged lists of SCIM users and groups.

  A list is sorted by a field and, among equal values, by id,
  in the same direction.  Different rows thus have different
  sort keys, so all queries agree on one order, and the pages
  cut that order into pieces.

  Key definitions include:
    * `parsePaginationParameters`
    * `applyScimSorting`
    * `listUsers`
    * `applyGroupSorting`
    * `listGroups`
    * `PagesPartition`

  Key theorems include:
    * `pagesPartition_of_key`
    * `scim_pages_partition`
-/

------------------------------------------------------------
-- Pagination And Sorting
------------------------------------------------------------

namespace AccessIQ

namespace Scim

open Foundations Python

structure ScimPagination where
  startIndex : Int
  count : Int
  deriving DecidableEq, Repr

/- The offset of the first row of a page. -/
def ScimPagination.offset
    (pagination : ScimPagination) :
    Int :=
  pagination.startIndex - 1

/- A page of a list, with its rows as they are stored. -/
structure ScimListResponse (α : Type) where
  totalResults : Nat
  startIndex : Int
  itemsPerPage : Nat
  resources : List α
  deriving DecidableEq, Repr

/- The query parameters of a list besides its pagination. -/
structure ListParameters where
  filter : Option String := none
  attributes : Option String := none
  excludedAttributes : Option String := none
  sortBy : Option String := none
  sortOrder : Option String := none
  deriving DecidableEq, Repr

/- A parameter the request gets wrong. -/
def invalidValue
    (detail : String) :
    PyException :=
  .scim ⟨400, detail, some "invalidValue"⟩

/- `sort_order or "ascending"`. -/
def normalizedSortOrder : Option String → String
  | none => "ascending"
  | some sortOrder =>
      if sortOrder = "" then "ascending" else sortOrder

/- The expression `sortBy` names; `none` if unsupported. -/
def sortField
    {α : Type}
    (supportedSortFields : List (String × SortKey α))
    (defaultSortField : SortKey α) :
    Option String → Option (SortKey α)
  | none => some defaultSortField
  | some sortBy => supportedSortFields.lookup sortBy

variable [Platform]

/- `_parse_integer_query_parameter`. -/
def parseIntegerQueryParameter
    (name : String)
    (value : Option String)
    (default minimum : Int) :
    Except PyException Int :=
  match value with
  | none => .ok default
  | some value =>
      match parseInt value with
      | none =>
          .error (invalidValue s!"{name} must be an integer")
      | some parsed =>
          if parsed < minimum then
            .error
              (invalidValue
                (s!"{name} must be greater than or equal " ++
                  s!"to {minimum}"))
          else
            .ok parsed

/- `parse_pagination_parameters`. -/
def parsePaginationParameters
    (startIndex count : Option String) :
    Except PyException ScimPagination := do
  let startIndex ←
    parseIntegerQueryParameter "startIndex" startIndex 1 1
  let count ← parseIntegerQueryParameter "count" count 100 0
  return ⟨startIndex, count⟩

end Scim

end AccessIQ

------------------------------------------------------------
-- Users
------------------------------------------------------------

namespace AccessIQ

namespace Scim

open Foundations Python

variable [Platform]

/- `SUPPORTED_USER_SORT_FIELDS`. -/
def userSortFields
    (collation : SortKey String)
    (dialect : Dialect) :
    List (String × SortKey User) :=
  [("id", .column (·.id)),
    ("userName",
      collation.on fun user => dialect.lower user.email),
    ("displayName",
      collation.on fun user => dialect.lower user.name)]

omit [Platform] in
/- `apply_scim_sorting`. -/
def applyScimSorting
    {α : Type}
    (supportedSortFields : List (String × SortKey α))
    (defaultSortField tieBreaker : SortKey α)
    (sortBy sortOrder : Option String) :
    Except PyException (SortKey α) :=
  let sortOrder := normalizedSortOrder sortOrder
  if sortOrder ≠ "ascending" ∧ sortOrder ≠ "descending" then
    .error
      (invalidValue
        "sortOrder must be ascending or descending")
  else
    match sortField supportedSortFields defaultSortField sortBy
    with
    | none =>
        .error
          (invalidPath
            ("Unsupported sortBy field: " ++ sortBy.getD ""))
    | some sortExpression =>
        if sortOrder = "descending" then
          .ok
            (sortExpression.descending.andThen
              tieBreaker.descending)
        else
          .ok (sortExpression.andThen tieBreaker)

/- The users a filter text selects. -/
def matchingUsers
    (s : Store)
    (filterValue : Option String) :
    Except PyException (List User) := do
  let filter ←
    parseScimFilter userFilterOperators filterValue
  let condition ← buildUserFilterExpression s.dialect filter
  return s.users.rows.filter (condition.getD fun _ => true)

/- `list_users`. -/
def listUsers
    (collation : SortKey String)
    (s : Store)
    (parameters : ListParameters)
    (order : RowOrder User)
    (startIndex count : Option String) :
    Except PyException (ScimListResponse User) := do
  let pagination ← parsePaginationParameters startIndex count
  let matching ← matchingUsers s parameters.filter
  let _ ←
    parseAttributeProjection parameters.attributes
      parameters.excludedAttributes
  let key ←
    applyScimSorting (userSortFields collation s.dialect)
      (.column (·.id)) (.column (·.id)) parameters.sortBy
      parameters.sortOrder
  let users :=
    page pagination.offset.toNat pagination.count.toNat
      (orderBy order key matching)
  .ok
    { totalResults := matching.length
      startIndex := pagination.startIndex
      itemsPerPage := users.length
      resources := users }

end Scim

end AccessIQ

------------------------------------------------------------
-- Groups
------------------------------------------------------------

namespace AccessIQ

namespace Scim

open Foundations Python

variable [Platform]

/- `SUPPORTED_GROUP_SORT_FIELDS`. -/
def groupSortFields
    (collation : SortKey String)
    (dialect : Dialect) :
    List (String × SortKey Group) :=
  [("id", .column (·.id)),
    ("displayName",
      collation.on fun group =>
        dialect.lower group.displayName)]

inductive GroupSortError where
  | unsupportedField (sortBy : String)
  | unsupportedOrder (sortOrder : String)
  deriving DecidableEq, Repr

/- `GroupService._apply_group_sorting`. -/
def applyGroupSorting
    (collation : SortKey String)
    (dialect : Dialect)
    (sortBy sortOrder : Option String) :
    Except GroupSortError (SortKey Group) :=
  let sortOrder := normalizedSortOrder sortOrder
  if sortOrder ≠ "ascending" ∧ sortOrder ≠ "descending" then
    .error (.unsupportedOrder sortOrder)
  else
    match sortField (groupSortFields collation dialect)
        (.column (·.id)) sortBy with
    | none => .error (.unsupportedField (sortBy.getD ""))
    | some sortExpression =>
        let groupId := SortKey.column fun g : Group => g.id
        if sortOrder = "descending" then
          .ok
            (sortExpression.descending.andThen
              groupId.descending)
        else
          .ok (sortExpression.andThen groupId)

/- How the route answers a sorting the service rejects. -/
def GroupSortError.response : GroupSortError → PyException
  | .unsupportedOrder _ =>
      invalidValue "sortOrder must be ascending or descending"
  | .unsupportedField sortBy =>
      invalidPath s!"Unsupported sortBy field: {sortBy}"

/- The groups a filter text selects. -/
def matchingGroups
    (s : Store)
    (filterValue : Option String) :
    Except PyException (List Group) := do
  let filter ←
    parseScimFilter groupFilterOperators filterValue
  let condition ← buildGroupFilterExpression s.dialect filter
  return s.groups.rows.filter (condition.getD fun _ => true)

/- `list_groups` and the service method it calls. -/
def listGroups
    (collation : SortKey String)
    (s : Store)
    (parameters : ListParameters)
    (order : RowOrder Group)
    (startIndex count : Option String) :
    Except PyException (ScimListResponse Group) := do
  let pagination ← parsePaginationParameters startIndex count
  let groupFilter ←
    parseScimFilter groupFilterOperators parameters.filter
  let _ ←
    parseAttributeProjection parameters.attributes
      parameters.excludedAttributes
  let condition ←
    buildGroupFilterExpression s.dialect groupFilter
  let matching :=
    s.groups.rows.filter (condition.getD fun _ => true)
  let key ←
    (applyGroupSorting collation s.dialect parameters.sortBy
      parameters.sortOrder).mapError GroupSortError.response
  let groups :=
    page pagination.offset.toNat pagination.count.toNat
      (orderBy order key matching)
  .ok
    { totalResults := matching.length
      startIndex := pagination.startIndex
      itemsPerPage := groups.length
      resources := groups }

end Scim

end AccessIQ

------------------------------------------------------------
-- Pages
------------------------------------------------------------

namespace AccessIQ

namespace Scim

open Foundations Python

/- The sort orders that a request may name. -/
def acceptedSortOrders : List (Option String) :=
  [none, some "", some "ascending", some "descending"]

/-
  There is one order of the matching rows, sorted by a field,
  such that the pages of every list put together give that
  order, or its reverse if descending, and every page counts
  all matching rows.  A request may write the start and the
  size of its page in any way that `int` reads.
-/
def PagesPartition
    [Platform]
    {α : Type}
    (list :
      Option String → RowOrder α → Option String →
        Option String →
          Except PyException (ScimListResponse α))
    (field : SortKey α)
    (matching : List α)
    (count : Nat) : Prop :=
  ∃ ascending : List α,
    ascending.Perm matching ∧
    (ascending.Pairwise fun a b => field.le a b = true) ∧
    ∀ sortOrder ∈ acceptedSortOrders,
      ∀ orders : Nat → RowOrder α,
        ∃ responses : Nat → ScimListResponse α,
          (∀ k startIndex countText,
            parseInt startIndex =
                some ((1 + k * count : Nat) : Int) →
              parseInt countText = some (count : Int) →
                list sortOrder (orders k) (some startIndex)
                    (some countText) =
                  .ok (responses k)) ∧
          (∀ k,
            (responses k).totalResults = matching.length) ∧
          ∀ n, matching.length ≤ n * count →
            (List.range n).flatMap
                (fun k => (responses k).resources) =
              if sortOrder = some "descending" then
                ascending.reverse
              else
                ascending

/- A sort key with a tie breaker, in a direction. -/
def directedKey
    {α : Type}
    (field tieBreaker : SortKey α)
    (sortOrder : Option String) :
    SortKey α :=
  if sortOrder = some "descending" then
    (field.andThen tieBreaker).descending
  else
    field.andThen tieBreaker

/- The page of a list that begins after `k` full pages. -/
def pageResponse
    {α : Type}
    (key : SortKey α)
    (matching : List α)
    (count k : Nat)
    (order : RowOrder α) :
    ScimListResponse α :=
  let resources :=
    page (k * count) count (orderBy order key matching)
  { totalResults := matching.length
    startIndex := ((1 + k * count : Nat) : Int)
    itemsPerPage := resources.length
    resources := resources }

theorem pagesPartition_of_key
    [Platform]
    {α : Type}
    {list :
      Option String → RowOrder α → Option String →
        Option String →
          Except PyException (ScimListResponse α)}
    {field tieBreaker : SortKey α}
    {matching : List α}
    {count : Nat}
    (hSeparates : tieBreaker.Separates matching)
    (hList :
      ∀ sortOrder ∈ acceptedSortOrders,
        ∀ order k startIndex countText,
          parseInt startIndex =
              some ((1 + k * count : Nat) : Int) →
            parseInt countText = some (count : Int) →
              list sortOrder order (some startIndex)
                  (some countText) =
                .ok (pageResponse
                  (directedKey field tieBreaker sortOrder)
                  matching count k order)) :
    PagesPartition list field matching count := by
  have hKey := field.separates_andThen hSeparates
  have hPerm := orderBy_perm .stored (field.andThen tieBreaker)
    matching
  refine ⟨orderBy .stored (field.andThen tieBreaker) matching,
    hPerm, ?_, ?_⟩
  · apply (orderBy_sorted .stored (field.andThen tieBreaker)
      matching).imp
    intro a b hLe
    exact field.le_of_andThen tieBreaker hLe
  · intro sortOrder hOrder orders
    let responses := fun k =>
      pageResponse (directedKey field tieBreaker sortOrder)
        matching count k (orders k)
    have hOrdered :
        ∀ order,
          orderBy order (directedKey field tieBreaker sortOrder)
              matching =
            if sortOrder = some "descending" then
              (orderBy .stored (field.andThen tieBreaker)
                matching).reverse
            else
              orderBy .stored (field.andThen tieBreaker)
                matching := by
      intro order
      unfold directedKey
      by_cases hDescending : sortOrder = some "descending"
      · rw [if_pos hDescending, if_pos hDescending]
        exact orderBy_descending hKey order .stored
      · rw [if_neg hDescending, if_neg hDescending]
        exact orderBy_eq_of_separates hKey order .stored
    refine ⟨responses, ?_, fun _ => rfl, ?_⟩
    · intro k
      exact hList sortOrder hOrder (orders k) k
    · intro n hEnough
      have hLength := hPerm.length_eq
      simp only [responses, pageResponse, hOrdered]
      rw [flatMap_page, List.take_of_length_le]
      split
      · rw [List.length_reverse, hLength]
        exact hEnough
      · rw [hLength]
        exact hEnough

variable [Platform]

/- The parameters of a page that begins after full pages. -/
theorem parsePaginationParameters_page
    {count k : Nat}
    {startIndex countText : String}
    (hStartIndex :
      parseInt startIndex = some ((1 + k * count : Nat) : Int))
    (hCountText : parseInt countText = some (count : Int)) :
    parsePaginationParameters (some startIndex)
        (some countText) =
      .ok ⟨((1 + k * count : Nat) : Int), (count : Int)⟩ := by
  have hStart :
      ¬ ((1 + k * count : Nat) : Int) < 1 := by
    omega
  have hCount : ¬ (count : Int) < 0 := by
    omega
  unfold parsePaginationParameters
  simp only [parseIntegerQueryParameter, hStartIndex,
    hCountText, if_neg hStart, if_neg hCount]
  rfl

/- The same for decimals, unless they have too many digits. -/
theorem parsePaginationParameters_decimal
    {count k : Nat}
    (hStartIndex : (1 + k * count).repr.length ≤ maxStrDigits)
    (hCount : count.repr.length ≤ maxStrDigits) :
    parsePaginationParameters
        (some (toString ((1 + k * count : Nat) : Int)))
        (some (toString (count : Int))) =
      .ok ⟨((1 + k * count : Nat) : Int), (count : Int)⟩ :=
  parsePaginationParameters_page
    (parseInt_natural _ hStartIndex)
    (parseInt_natural _ hCount)

omit [Platform] in
theorem offset_page
    (count k : Nat) :
    (ScimPagination.offset
      ⟨((1 + k * count : Nat) : Int),
        (count : Int)⟩).toNat = k * count := by
  have hOffset :
      ScimPagination.offset
        ⟨((1 + k * count : Nat) : Int), (count : Int)⟩ =
          ((1 + k * count : Nat) : Int) - 1 :=
    rfl
  rw [hOffset]
  omega

omit [Platform] in
/- The id tells rows of a table apart. -/
theorem separates_id
    {α : Type}
    [Row α]
    (t : Table α)
    (p : α → Bool) :
    (SortKey.column fun row : α => Row.id row).Separates
      (t.rows.filter p) := by
  apply SortKey.separates_column
  intro a ha b hb hId
  exact t.eq_of_mem_of_id_eq (List.mem_filter.mp ha).1
    (List.mem_filter.mp hb).1 hId

omit [Platform] in
/- An accepted order sorts both keys in its direction. -/
theorem applyScimSorting_eq_ok
    {α : Type}
    {fields : List (String × SortKey α)}
    {default field : SortKey α}
    (tieBreaker : SortKey α)
    {sortBy sortOrder : Option String}
    (hField : sortField fields default sortBy = some field)
    (hOrder : sortOrder ∈ acceptedSortOrders) :
    applyScimSorting fields default tieBreaker sortBy
        sortOrder =
      .ok (directedKey field tieBreaker sortOrder) := by
  unfold applyScimSorting
  rw [hField]
  simp only [acceptedSortOrders, List.mem_cons,
    List.not_mem_nil, or_false] at hOrder
  rcases hOrder with rfl | rfl | rfl | rfl
  · rfl
  · rfl
  · rfl
  · rfl

theorem applyGroupSorting_eq_ok
    {collation : SortKey String}
    {dialect : Dialect}
    {field : SortKey Group}
    {sortBy sortOrder : Option String}
    (hField :
      sortField (groupSortFields collation dialect)
        (.column (·.id)) sortBy = some field)
    (hOrder : sortOrder ∈ acceptedSortOrders) :
    applyGroupSorting collation dialect sortBy sortOrder =
      .ok (directedKey field (.column (·.id)) sortOrder) := by
  unfold applyGroupSorting
  rw [hField]
  simp only [acceptedSortOrders, List.mem_cons,
    List.not_mem_nil, or_false] at hOrder
  rcases hOrder with rfl | rfl | rfl | rfl
  · rfl
  · rfl
  · rfl
  · rfl

/- The matching users are rows of the table. -/
theorem matchingUsers_eq_ok
    {s : Store}
    {filterValue : Option String}
    {matching : List User}
    (hMatching : matchingUsers s filterValue = .ok matching) :
    ∃ p, matching = s.users.rows.filter p := by
  rcases bind_eq_ok hMatching with ⟨filter, -, hRest⟩
  rcases bind_eq_ok hRest with ⟨condition, -, hRows⟩
  cases hRows
  exact ⟨_, rfl⟩

/-
  The pages of the users and of the groups partition the
  matching rows, for every filter, field and direction that
  is accepted, every page size and every order the queries
  come upon the rows in.
-/
theorem scim_pages_partition
    (collation : SortKey String)
    (s : Store)
    (count : Nat)
    (filter attributes excludedAttributes sortBy :
      Option String)
    (projection : ScimProjection)
    (hProjection :
      parseAttributeProjection attributes
        excludedAttributes = .ok projection) :
    (∀ matching field,
      matchingUsers s filter = .ok matching →
        sortField (userSortFields collation s.dialect)
            (.column (·.id)) sortBy = some field →
          PagesPartition
            (fun sortOrder =>
              listUsers collation s
                ⟨filter, attributes, excludedAttributes,
                  sortBy, sortOrder⟩)
            field matching count) ∧
      ∀ matching field,
        matchingGroups s filter = .ok matching →
          sortField (groupSortFields collation s.dialect)
              (.column (·.id)) sortBy = some field →
            PagesPartition
              (fun sortOrder =>
                listGroups collation s
                  ⟨filter, attributes, excludedAttributes,
                    sortBy, sortOrder⟩)
              field matching count := by
  constructor
  · intro matching field hMatching hField
    rcases matchingUsers_eq_ok hMatching with ⟨p, hRows⟩
    have hSeparates := separates_id s.users p
    rw [← hRows] at hSeparates
    apply pagesPartition_of_key hSeparates
    intro sortOrder hOrder order k startIndex countText hStart
      hCount
    have hKey :=
      applyScimSorting_eq_ok (.column (·.id)) hField hOrder
    unfold listUsers
    rw [parsePaginationParameters_page hStart hCount, hMatching,
      hProjection, hKey]
    simp only [Except.bind, bind, offset_page,
      Int.toNat_natCast]
    rfl
  · intro matching field hMatching hField
    rcases bind_eq_ok hMatching with
      ⟨groupFilter, hFilter, hRest⟩
    rcases bind_eq_ok hRest with ⟨condition, hCondition, hRows⟩
    cases hRows
    have hSeparates := separates_id s.groups
      (condition.getD fun _ => true)
    apply pagesPartition_of_key hSeparates
    intro sortOrder hOrder order k startIndex countText hStart
      hCount
    have hKey := applyGroupSorting_eq_ok hField hOrder
    unfold listGroups
    rw [parsePaginationParameters_page hStart hCount, hFilter,
      hProjection, hKey]
    simp only [Except.bind, bind, hCondition, offset_page,
      Int.toNat_natCast]
    rfl

end Scim

end AccessIQ

------------------------------------------------------------
-- Seeded Pages
------------------------------------------------------------

namespace AccessIQ

namespace Scim

open Foundations Python

section Seeded

attribute [local instance] asciiPlatform

/- The seeded users and groups, by name, two on a page. -/
theorem scim_pages_partition_seeded :
    PagesPartition
        (fun sortOrder =>
          listUsers (.column fun text => text)
            (seededStore .sqlite)
            ⟨none, none, none, some "userName", sortOrder⟩)
        (SortKey.on (.column fun text => text)
          fun user : User =>
            Dialect.sqlite.lower user.email)
        (seededStore .sqlite).users.rows 2 ∧
      PagesPartition
        (fun sortOrder =>
          listGroups (.column fun text => text)
            (seededStore .sqlite)
            ⟨none, none, none, some "displayName",
              sortOrder⟩)
        (SortKey.on (.column fun text => text)
          fun group : Group =>
            Dialect.sqlite.lower group.displayName)
        (seededStore .sqlite).groups.rows 2 := by
  have hUsers :=
    (scim_pages_partition (.column fun text => text)
      (seededStore .sqlite) 2 none none none
      (some "userName") _ rfl).1
      (seededStore .sqlite).users.rows
      (SortKey.on (.column fun text => text)
        fun user : User => Dialect.sqlite.lower user.email)
      rfl rfl
  have hGroups :=
    (scim_pages_partition (.column fun text => text)
      (seededStore .sqlite) 2 none none none
      (some "displayName") _ rfl).2
      (seededStore .sqlite).groups.rows
      (SortKey.on (.column fun text => text)
        fun group : Group =>
          Dialect.sqlite.lower group.displayName)
      rfl rfl
  exact ⟨hUsers, hGroups⟩

end Seeded

end Scim

end AccessIQ
