import AccessIQ.Scim.UserPayloads

/-
  The payloads of the SCIM group requests.

  A create or replace payload names a group and lists its
  members.  A PATCH payload is a list of operations, each of
  which becomes one operation of the group service.

  Key definitions include:
    * `GroupPatchOperation`
    * `parseGroupPayload`
    * `matchMemberFilter`
    * `parseGroupPatchOperation`
    * `parseGroupPatchPayload`
-/

------------------------------------------------------------
-- Attributes
------------------------------------------------------------

namespace AccessIQ

namespace Scim

open Python

structure ScimGroupPayload where
  displayName : String
  memberIds : List Int
  deriving DecidableEq, Repr

/- An operation of the group service on one attribute. -/
inductive GroupPatchOperation where
  | displayName (op : PatchOp) (value : String)
  | members (op : PatchOp) (value : List Int)
  deriving DecidableEq, Repr

/- `_parse_display_name`. -/
def parseGroupDisplayName :
    Json → Except PyException String
  | .string value =>
      if strip value = "" then
        .error (invalidPayload "displayName is required")
      else if 100 < (strip value).length then
        .error
          (invalidPayload
            "displayName must be 100 characters or fewer")
      else
        .ok (strip value)
  | _ => .error (invalidPayload "displayName is required")

variable [Platform]

/- `_parse_member_id`. -/
def parseMemberId : Json → Except PyException Int
  | .object member =>
      match getOrNull member "value" with
      | .string value =>
          if strip value = "" then
            .error
              (invalidPayload
                "Each group member requires a value")
          else
            match parseInt value with
            | none =>
                .error
                  (invalidPayload
                    "Group member value must be a user id")
            | some memberId =>
                if memberId < 1 then
                  .error
                    (invalidPayload
                      ("Group member value must be a " ++
                        "positive user id"))
                else
                  .ok memberId
      | _ =>
          .error
            (invalidPayload
              "Each group member requires a value")
  | _ =>
      .error
        (invalidPayload "Each group member must be an object")

/- `_parse_member_list`. -/
def parseMemberList : Json → Except PyException (List Int)
  | .array members => members.mapM parseMemberId
  | _ => .error (invalidPayload "members must be an array")

/- `_parse_member_patch_value`. -/
def parseMemberPatchValue :
    Json → Except PyException (List Int)
  | .array members => members.mapM parseMemberId
  | .object member =>
      (parseMemberId (.object member)).map fun memberId =>
        [memberId]
  | _ =>
      .error
        (invalidPayload
          "members value must be an object or array")

/- `_parse_group_payload`. -/
def parseGroupPayload :
    Json → Except PyException ScimGroupPayload
  | .object payload => do
      let displayName ←
        parseGroupDisplayName
          (getOrNull payload "displayName")
      let memberIds ←
        parseMemberList
          ((JsonObject.get? payload "members").getD
            (.array []))
      return ⟨displayName, memberIds⟩
  | _ =>
      .error
        (invalidPayload
          "SCIM Group payload must be a JSON object")

end Scim

end AccessIQ

------------------------------------------------------------
-- The Filtered Path
------------------------------------------------------------

namespace AccessIQ

namespace Scim

open Python

/-
  A letter of a pattern that ignores case; the long s is
  another lower case of the letter s.
-/
def isLetter
    (letter c : Char) :
    Bool :=
  c.toLower == letter ||
    (letter == 's' && c == Char.ofNat 0x17F)

/- The text after a word, if it begins with the word. -/
def afterWord :
    List Char → List Char → Option (List Char)
  | [], text => some text
  | _ :: _, [] => none
  | letter :: word, c :: text =>
      if isLetter letter c = true then
        afterWord word text
      else
        none

/- The text after whitespace, at least one character. -/
def afterSpaces : List Char → Option (List Char)
  | [] => none
  | c :: cs =>
      if isSpace c = true then
        some (cs.dropWhile isSpace)
      else
        none

/- The text after one character and the whitespace behind. -/
def afterMark
    (mark : Char) :
    List Char → Option (List Char)
  | [] => none
  | c :: cs =>
      if c = mark then
        some (cs.dropWhile isSpace)
      else
        none

/- `MEMBER_FILTER_PATH_PATTERN`: the quoted value. -/
def matchMemberFilter
    (path : String) :
    Option String := do
  let cs := path.toList.dropWhile isSpace
  let cs ← afterWord "members".toList cs
  let cs ← afterMark '[' (cs.dropWhile isSpace)
  let cs ← afterWord "value".toList cs
  let cs ← afterSpaces cs
  let cs ← afterWord "eq".toList cs
  let cs ← afterSpaces cs
  match cs with
  | '"' :: cs => do
      let value := cs.takeWhile (· ≠ '"')
      let rest ← afterMark '"' (cs.dropWhile (· ≠ '"'))
      let rest ← afterMark ']' rest
      if value.isEmpty || !rest.isEmpty then
        none
      else
        some (String.ofList value)
  | _ => none

end Scim

end AccessIQ

------------------------------------------------------------
-- Patch Operations
------------------------------------------------------------

namespace AccessIQ

namespace Scim

open Python

variable [Platform]

/-
  The message of `int` of a text that is not a number, or of
  a number of too many digits.
-/
def invalidLiteral
    (value : String) :
    String :=
  let numeral := stripIntSpace value
  if (readSigned numeral).isSome = true then
    s!"Exceeds the limit ({maxStrDigits} digits) " ++
      "for integer string conversion: value has " ++
      toString (digitCount numeral) ++
      " digits; use sys.set_int_max_str_digits() to " ++
      "increase the limit"
  else
    "invalid literal for int() with base 10: " ++
      String.ofList ((Platform.repr value).toList.take 200)

/-
  An operation without a path is about the first attribute
  the parser looks for.
-/
def parsePathlessGroupOperation
    (op : PatchOp) :
    Json → Except PyException GroupPatchOperation
  | .object value =>
      match JsonObject.get? value "displayName" with
      | some displayName =>
          (parseGroupDisplayName displayName).map
            (.displayName op)
      | none =>
          match JsonObject.get? value "members" with
          | some members =>
              (parseMemberPatchValue members).map
                (.members op)
          | none =>
              .error
                (invalidPath
                  ("PATCH value contains no supported " ++
                    "Group attributes"))
  | _ =>
      .error
        (invalidPayload
          "PATCH operation without path requires object value")

/- An operation on the member a filtered path names. -/
def parseFilteredGroupOperation
    (op : PatchOp)
    (value : String) :
    Except PyException GroupPatchOperation :=
  if op ≠ .remove then
    .error
      (invalidPath
        "Filtered members path is supported only for remove")
  else
    match parseInt value with
    | some memberId => .ok (.members op [memberId])
    | none => .error (.valueError (invalidLiteral value))

/- An operation on the attribute its path names. -/
def parsePathGroupOperation
    (op : PatchOp)
    (path : String)
    (value : Option Json) :
    Except PyException GroupPatchOperation :=
  if Platform.lower path = "displayname" then
    if op = .remove then
      .error
        (invalidPayload
          "displayName is required and cannot be removed")
    else
      match value with
      | none =>
          .error
            (invalidPayload
              "PATCH add and replace operations require value")
      | some value =>
          (parseGroupDisplayName value).map (.displayName op)
  else if Platform.lower path = "members" then
    if op ≠ .remove ∧ value.isNone = true then
      .error
        (invalidPayload
          "PATCH add and replace operations require value")
    else
      (parseMemberPatchValue (value.getD .null)).map
        (.members op)
  else
    .error (invalidPath s!"Unsupported PATCH path: {path}")

/- `_parse_patch_operation` of an operation with a name. -/
def parseNamedGroupOperation
    (op : PatchOp)
    (operation : JsonObject) :
    Except PyException GroupPatchOperation :=
  match getOrNull operation "path" with
  | .null =>
      if op = .remove then
        .error (invalidPayload "PATCH remove requires a path")
      else
        parsePathlessGroupOperation op
          (getOrNull operation "value")
  | .string path =>
      match matchMemberFilter path with
      | some value => parseFilteredGroupOperation op value
      | none =>
          parsePathGroupOperation op path
            (JsonObject.get? operation "value")
  | _ => .error (invalidPath "PATCH path must be a string")

/- `_parse_patch_operation`. -/
def parseGroupPatchOperation
    (operation : Json) :
    Except PyException GroupPatchOperation :=
  match operation with
  | .object operation =>
      match getOrNull operation "op" with
      | .string rawOp =>
          match PatchOp.named (Platform.lower rawOp) with
          | some op => parseNamedGroupOperation op operation
          | none =>
              .error
                (invalidPayload
                  s!"Unsupported PATCH operation: {rawOp}")
      | _ =>
          .error
            (invalidPayload
              "Each PATCH operation requires an op")
  | _ =>
      .error
        (invalidPayload
          "Each PATCH operation must be an object")

/- The payload of `PATCH /Groups/{id}`. -/
def parseGroupPatchPayload
    (payload : Json) :
    Except PyException (List GroupPatchOperation) :=
  match payload with
  | .object payload =>
      match getOrNull payload "Operations" with
      | .array (operation :: operations) =>
          (operation :: operations).mapM
            parseGroupPatchOperation
      | _ =>
          .error
            (invalidPayload
              ("SCIM PATCH requires a non-empty " ++
                "Operations array"))
  | _ =>
      .error
        (invalidPayload
          "SCIM PATCH payload must be a JSON object")

end Scim

end AccessIQ
