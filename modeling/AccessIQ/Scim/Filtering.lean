import AccessIQ.Scim.UserPayloads
import AccessIQ.Store

/-
  SCIM filters.

  A filter is an attribute, an operator and a value, which is
  a JSON string, or a boolean for `active`.  It becomes a
  condition on the rows of a table; `co` is a `LIKE` pattern
  whose wildcards are escaped.

  Key definitions include:
    * `matchFilterPattern`
    * `parseQuotedString`
    * `parseScimFilter`
    * `buildUserFilterExpression`
    * `buildGroupFilterExpression`
-/

------------------------------------------------------------
-- The Filter Pattern
------------------------------------------------------------

namespace AccessIQ

namespace Scim

open Python

/- `_raise_invalid_filter`. -/
def invalidFilter
    (detail : String) :
    PyException :=
  .scim ⟨400, detail, some "invalidFilter"⟩

/- `[A-Za-z0-9_.:-]`. -/
def isAttributeChar
    (c : Char) :
    Bool :=
  c.isAlphanum || c == '_' || c == '.' || c == ':' || c == '-'

/- What follows a token, at least one whitespace in front. -/
def afterToken : List Char → Option (List Char)
  | [] => none
  | c :: cs => if isSpace c then some (c :: cs) else none

/-
  `\s+(.+?)\s*$`: the value is the rest without whitespace
  around it, on one line; of nothing but whitespace, a single
  whitespace character.
-/
def matchFilterValue
    (cs : List Char) :
    Option String :=
  let rest := cs.dropWhile isSpace
  if rest.isEmpty then
    (((cs.drop 1).filter (· ≠ '\n')).getLast?).map
      fun c => String.ofList [c]
  else
    let value := rest.rdropWhile isSpace
    if value.contains '\n' then
      none
    else
      some (String.ofList value)

/- `FILTER_PATTERN`: the attribute, operator and value. -/
def matchFilterPattern
    (filter : String) :
    Option (String × String × String) := do
  let cs := filter.toList.dropWhile isSpace
  let attributeName := cs.takeWhile isAttributeChar
  let first ← attributeName.head?
  if !first.isAlpha then
    none
  else
    let rest ← afterToken (cs.dropWhile isAttributeChar)
    let cs := rest.dropWhile isSpace
    let operator := cs.takeWhile Char.isAlpha
    if operator.isEmpty then
      none
    else
      let rest ← afterToken (cs.dropWhile Char.isAlpha)
      let value ← matchFilterValue rest
      some
        (String.ofList attributeName, String.ofList operator,
          value)

end Scim

end AccessIQ

------------------------------------------------------------
-- Quoted Strings
------------------------------------------------------------

namespace AccessIQ

namespace Scim

open Python

/- The value of a hexadecimal digit. -/
def hexDigit
    (c : Char) :
    Option Nat :=
  if c.isDigit then
    some (c.toNat - '0'.toNat)
  else if 'a' ≤ c ∧ c ≤ 'f' then
    some (c.toNat - 'a'.toNat + 10)
  else if 'A' ≤ c ∧ c ≤ 'F' then
    some (c.toNat - 'A'.toNat + 10)
  else
    none

/- The character of a short escape. -/
def shortEscape : Char → Option Char
  | '"' => some '"'
  | '\\' => some '\\'
  | '/' => some '/'
  | 'b' => some (Char.ofNat 8)
  | 'f' => some (Char.ofNat 12)
  | 'n' => some '\n'
  | 'r' => some '\r'
  | 't' => some '\t'
  | _ => none

/-
  The code units of a JSON string after its opening quote,
  which must end at the closing one.
-/
def jsonStringUnits : List Char → Option (List Nat)
  | [] => none
  | ['"'] => some []
  | '"' :: _ => none
  | '\\' :: 'u' :: a :: b :: c :: d :: cs => do
      let a ← hexDigit a
      let b ← hexDigit b
      let c ← hexDigit c
      let d ← hexDigit d
      let rest ← jsonStringUnits cs
      some ((((a * 16 + b) * 16 + c) * 16 + d) :: rest)
  | '\\' :: c :: cs => do
      let escaped ← shortEscape c
      let rest ← jsonStringUnits cs
      some (escaped.toNat :: rest)
  | c :: cs =>
      if c.toNat < 32 then
        none
      else do
        let rest ← jsonStringUnits cs
        some (c.toNat :: rest)

def isHighSurrogate
    (n : Nat) :
    Bool :=
  0xD800 ≤ n && n < 0xDC00

def isLowSurrogate
    (n : Nat) :
    Bool :=
  0xDC00 ≤ n && n < 0xE000

/- The characters of code units; surrogates come in pairs. -/
def charsOfUnits : List Nat → Option (List Char)
  | [] => some []
  | [n] =>
      if isHighSurrogate n || isLowSurrogate n then
        none
      else
        some [Char.ofNat n]
  | n :: m :: rest =>
      if isHighSurrogate n && isLowSurrogate m then do
        let chars ← charsOfUnits rest
        some
          (Char.ofNat
              (0x10000 + (n - 0xD800) * 0x400 +
                (m - 0xDC00)) :: chars)
      else if isHighSurrogate n || isLowSurrogate n then
        none
      else do
        let chars ← charsOfUnits (m :: rest)
        some (Char.ofNat n :: chars)

/- `json.loads` of a text that is a string. -/
def readJsonString
    (text : String) :
    Option String :=
  match text.toList with
  | '"' :: cs => do
      let units ← jsonStringUnits cs
      let chars ← charsOfUnits units
      some (String.ofList chars)
  | _ => none

/- `_parse_quoted_string`. -/
def parseQuotedString
    (rawValue : String) :
    Except PyException String :=
  match readJsonString rawValue with
  | some value => .ok value
  | none =>
      .error
        (invalidFilter "String filter values must be quoted")

end Scim

end AccessIQ

------------------------------------------------------------
-- Filters
------------------------------------------------------------

namespace AccessIQ

namespace Scim

open Python

inductive FilterValue where
  | text (value : String)
  | flag (value : Bool)
  deriving DecidableEq, Repr

structure ScimFilter where
  attributeName : String
  operator : String
  value : FilterValue
  deriving DecidableEq, Repr

/- `str` of a filter value. -/
def FilterValue.str : FilterValue → String
  | .text value => value
  | .flag true => "True"
  | .flag false => "False"

def userFilterOperators : List (String × List String) :=
  [("userName", ["eq"]), ("id", ["eq"]),
    ("displayName", ["co"]), ("active", ["eq"])]

def groupFilterOperators : List (String × List String) :=
  [("displayName", ["eq", "co"]), ("id", ["eq"])]

variable [Platform]

/- The value of a filter on `active`. -/
def parseActiveValue
    (rawValue : String) :
    Except PyException FilterValue :=
  if Platform.lower rawValue = "true" then
    .ok (.flag true)
  else if Platform.lower rawValue = "false" then
    .ok (.flag false)
  else
    .error
      (invalidFilter
        "active filters must compare to true or false")

/- `parse_scim_filter`. -/
def parseScimFilter
    (supportedOperators : List (String × List String))
    (filterValue : Option String) :
    Except PyException (Option ScimFilter) :=
  match filterValue with
  | none => .ok none
  | some filterValue =>
      match matchFilterPattern filterValue with
      | none => .error (invalidFilter "Malformed SCIM filter")
      | some (attributeName, operator, rawValue) =>
          let operator := Platform.lower operator
          match supportedOperators.lookup attributeName with
          | none =>
              .error
                (invalidFilter
                  ("Unsupported filter attribute: " ++
                    attributeName))
          | some operators =>
              if operator ∉ operators then
                .error
                  (invalidFilter
                    (s!"{attributeName} does not support the " ++
                      s!"{operator} operator"))
              else if attributeName = "active" then do
                let value ← parseActiveValue rawValue
                return some ⟨attributeName, operator, value⟩
              else do
                let value ← parseQuotedString rawValue
                return some
                  ⟨attributeName, operator, .text value⟩

end Scim

end AccessIQ

------------------------------------------------------------
-- Conditions
------------------------------------------------------------

namespace AccessIQ

namespace Scim

open Python

inductive LikeToken where
  | anyText
  | anyChar
  | char (c : Char)
  deriving DecidableEq, Repr

/- A `LIKE` pattern whose escape character is a backslash. -/
def likeTokens : List Char → List LikeToken
  | [] => []
  | '\\' :: c :: cs => .char c :: likeTokens cs
  | '%' :: cs => .anyText :: likeTokens cs
  | '_' :: cs => .anyChar :: likeTokens cs
  | c :: cs => .char c :: likeTokens cs

/- Whether a text is like a pattern. -/
def isLike : List LikeToken → List Char → Bool
  | [], text => text.isEmpty
  | .char c :: pattern, x :: text =>
      x == c && isLike pattern text
  | .anyChar :: pattern, _ :: text => isLike pattern text
  | .anyText :: pattern, text =>
      text.tails.any fun rest => isLike pattern rest
  | _ :: _, [] => false

/- `_escape_like_pattern`. -/
def escapeLikePattern
    (value : String) :
    String :=
  String.ofList
    (value.toList.flatMap fun c =>
      if c = '\\' ∨ c = '%' ∨ c = '_' then ['\\', c] else [c])

variable [Platform]

/- `ilike`, which both databases evaluate on lowered text. -/
def ilike
    (dialect : Dialect)
    (text pattern : String) :
    Bool :=
  isLike (likeTokens (dialect.lower pattern).toList)
    (dialect.lower text).toList

/- `build_user_filter_expression`; `none` has no condition. -/
def buildUserFilterExpression
    (dialect : Dialect) :
    Option ScimFilter →
      Except PyException (Option (User → Bool))
  | none => .ok none
  | some filter =>
      match filter.attributeName with
      | "userName" =>
          .ok (some fun user =>
            dialect.lower user.email ==
              Platform.lower filter.value.str)
      | "id" =>
          .ok (some fun user =>
            parseInt filter.value.str == some user.id)
      | "displayName" =>
          .ok (some fun user =>
            ilike dialect user.name
              ("%" ++ escapeLikePattern filter.value.str ++
                "%"))
      | "active" =>
          .ok (some fun user =>
            filter.value == .flag user.active)
      | other =>
          .error
            (invalidFilter
              s!"Unsupported filter attribute: {other}")

/- `build_group_filter_expression`. -/
def buildGroupFilterExpression
    (dialect : Dialect) :
    Option ScimFilter →
      Except PyException (Option (Group → Bool))
  | none => .ok none
  | some filter =>
      match filter.attributeName with
      | "id" =>
          .ok (some fun group =>
            parseInt filter.value.str == some group.id)
      | "displayName" =>
          if filter.operator = "eq" then
            .ok (some fun group =>
              dialect.lower group.displayName ==
                Platform.lower filter.value.str)
          else
            .ok (some fun group =>
              ilike dialect group.displayName
                ("%" ++ escapeLikePattern filter.value.str ++
                  "%"))
      | other =>
          .error
            (invalidFilter
              s!"Unsupported filter attribute: {other}")

end Scim

end AccessIQ
