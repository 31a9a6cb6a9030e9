import AccessIQ.Scim.Filtering

/-
  JSON strings, and the reader that takes them apart.

  A character may be written as it is, by a short escape, by
  its code unit, or by a pair of surrogates; the reader gives
  every way of writing a text back as that text.

  Key definitions include:
    * `EncodesChar`
    * `JsonEncodes`
    * `jsonDumps`

  Key theorems include:
    * `readJsonString_of_encodes`
    * `jsonEncodes_jsonDumps`
-/

------------------------------------------------------------
-- Encodings
------------------------------------------------------------

namespace AccessIQ

namespace Scim

open Python

/- The code unit that four hexadecimal digits write. -/
def hexUnit
    (a b c d : Char) :
    Option Nat := do
  let a ← hexDigit a
  let b ← hexDigit b
  let c ← hexDigit c
  let d ← hexDigit d
  some (((a * 16 + b) * 16 + c) * 16 + d)

/- What a JSON string may write for a character. -/
inductive EncodesChar : Char → List Char → Prop
  | plain
      (c : Char)
      (hControl : 32 ≤ c.toNat)
      (hQuote : c ≠ '"')
      (hBackslash : c ≠ '\\') :
      EncodesChar c [c]
  | short
      (c e : Char)
      (hEscape : shortEscape e = some c) :
      EncodesChar c ['\\', e]
  | unit
      (c x₁ x₂ x₃ x₄ : Char)
      (hUnit : hexUnit x₁ x₂ x₃ x₄ = some c.toNat) :
      EncodesChar c ['\\', 'u', x₁, x₂, x₃, x₄]
  | pair
      (c x₁ x₂ x₃ x₄ y₁ y₂ y₃ y₄ : Char)
      (hLarge : 0x10000 ≤ c.toNat)
      (hHigh :
        hexUnit x₁ x₂ x₃ x₄ =
          some (0xD800 + (c.toNat - 0x10000) / 0x400))
      (hLow :
        hexUnit y₁ y₂ y₃ y₄ =
          some (0xDC00 + (c.toNat - 0x10000) % 0x400)) :
      EncodesChar c
        ['\\', 'u', x₁, x₂, x₃, x₄,
          '\\', 'u', y₁, y₂, y₃, y₄]

/- What a JSON string may have between its quotes. -/
inductive EncodesText : List Char → List Char → Prop
  | nil : EncodesText [] []
  | cons
      {c : Char}
      {cs code codes : List Char}
      (hChar : EncodesChar c code)
      (hText : EncodesText cs codes) :
      EncodesText (c :: cs) (code ++ codes)

/- A JSON encoding of a text. -/
def JsonEncodes
    (value encoded : String) : Prop :=
  ∃ body,
    EncodesText value.toList body ∧
      encoded.toList = '"' :: (body ++ ['"'])

end Scim

end AccessIQ

------------------------------------------------------------
-- Reading
------------------------------------------------------------

namespace AccessIQ

namespace Scim

open Python

/- The code units of a character in UTF-16, if it is escaped. -/
def CodeUnits
    (c : Char)
    (units : List Nat) : Prop :=
  units = [c.toNat] ∨
    (0x10000 ≤ c.toNat ∧
      units =
        [0xD800 + (c.toNat - 0x10000) / 0x400,
          0xDC00 + (c.toNat - 0x10000) % 0x400])

theorem jsonStringUnits_plain
    {c : Char}
    (hControl : 32 ≤ c.toNat)
    (hQuote : c ≠ '"')
    (hBackslash : c ≠ '\\')
    (cs : List Char) :
    jsonStringUnits (c :: cs) =
      (jsonStringUnits cs).map (c.toNat :: ·) := by
  have hNot : ¬c.toNat < 32 := by omega
  rw [jsonStringUnits]
  · rw [if_neg hNot]
    cases jsonStringUnits cs <;> rfl
  · intro h _
    exact hQuote h
  · intro h
    exact hQuote h
  · intro _ _ _ _ _ h _
    exact hBackslash h
  · intro _ _ h _
    exact hBackslash h

theorem jsonStringUnits_short
    {c e : Char}
    (hEscape : shortEscape e = some c)
    (cs : List Char) :
    jsonStringUnits ('\\' :: e :: cs) =
      (jsonStringUnits cs).map (c.toNat :: ·) := by
  have hNe : e ≠ 'u' := by
    intro hEq
    subst hEq
    cases hEscape
  rw [jsonStringUnits]
  · rw [hEscape]
    cases jsonStringUnits cs <;> rfl
  · intro _ _ _ _ _ h _
    exact hNe h

theorem jsonStringUnits_unit
    {x₁ x₂ x₃ x₄ : Char}
    {n : Nat}
    (hUnit : hexUnit x₁ x₂ x₃ x₄ = some n)
    (cs : List Char) :
    jsonStringUnits
        ('\\' :: 'u' :: x₁ :: x₂ :: x₃ :: x₄ :: cs) =
      (jsonStringUnits cs).map (n :: ·) := by
  unfold hexUnit at hUnit
  rw [jsonStringUnits]
  cases h₁ : hexDigit x₁ with
  | none => simp [h₁] at hUnit
  | some a =>
      cases h₂ : hexDigit x₂ with
      | none => simp [h₁, h₂] at hUnit
      | some b =>
          cases h₃ : hexDigit x₃ with
          | none => simp [h₁, h₂, h₃] at hUnit
          | some c =>
              cases h₄ : hexDigit x₄ with
              | none => simp [h₁, h₂, h₃, h₄] at hUnit
              | some d =>
                  simp [h₁, h₂, h₃, h₄] at hUnit
                  subst hUnit
                  cases jsonStringUnits cs <;> rfl

/- One encoded character gives its code units. -/
theorem jsonStringUnits_char
    {c : Char}
    {code : List Char}
    (hChar : EncodesChar c code)
    (cs : List Char) :
    ∃ units,
      CodeUnits c units ∧
        jsonStringUnits (code ++ cs) =
          (jsonStringUnits cs).map (units ++ ·) := by
  cases hChar with
  | plain hControl hQuote hBackslash =>
      exact ⟨[c.toNat], Or.inl rfl,
        jsonStringUnits_plain hControl hQuote hBackslash cs⟩
  | short e hEscape =>
      exact ⟨[c.toNat], Or.inl rfl,
        jsonStringUnits_short hEscape cs⟩
  | unit x₁ x₂ x₃ x₄ hUnit =>
      exact ⟨[c.toNat], Or.inl rfl,
        jsonStringUnits_unit hUnit cs⟩
  | pair x₁ x₂ x₃ x₄ y₁ y₂ y₃ y₄ hLarge hHigh hLow =>
      refine ⟨_, Or.inr ⟨hLarge, rfl⟩, ?_⟩
      have hRest := jsonStringUnits_unit hLow cs
      have hAll :=
        jsonStringUnits_unit hHigh
          ('\\' :: 'u' :: y₁ :: y₂ :: y₃ :: y₄ :: cs)
      rw [hRest, Option.map_map] at hAll
      exact hAll

/- A character is no surrogate. -/
theorem not_isSurrogate
    (c : Char) :
    isHighSurrogate c.toNat = false ∧
      isLowSurrogate c.toNat = false := by
  have hValid := c.valid
  have hVal : c.val.toNat = c.toNat := rfl
  unfold UInt32.isValidChar Nat.isValidChar at hValid
  rw [hVal] at hValid
  unfold isHighSurrogate isLowSurrogate
  constructor
  · simp
    omega
  · simp
    omega

theorem toNat_lt
    (c : Char) :
    c.toNat < 0x110000 := by
  have hValid := c.valid
  have hVal : c.val.toNat = c.toNat := rfl
  unfold UInt32.isValidChar Nat.isValidChar at hValid
  rw [hVal] at hValid
  omega

theorem charsOfUnits_char
    (c : Char)
    (units : List Nat) :
    charsOfUnits (c.toNat :: units) =
      (charsOfUnits units).map (c :: ·) := by
  rcases not_isSurrogate c with ⟨hHigh, hLow⟩
  cases units with
  | nil => simp [charsOfUnits, hHigh, hLow]
  | cons n units =>
      rw [charsOfUnits, hHigh, hLow]
      simp only [Bool.false_and, Bool.or_self,
        Bool.false_eq_true, if_false, Char.ofNat_toNat]
      cases charsOfUnits (n :: units) <;> rfl

theorem charsOfUnits_pair
    {c : Char}
    (hLarge : 0x10000 ≤ c.toNat)
    (units : List Nat) :
    charsOfUnits
        ((0xD800 + (c.toNat - 0x10000) / 0x400) ::
          (0xDC00 + (c.toNat - 0x10000) % 0x400) :: units) =
      (charsOfUnits units).map (c :: ·) := by
  have hBound := toNat_lt c
  have hHigh :
      isHighSurrogate
        (0xD800 + (c.toNat - 0x10000) / 0x400) = true := by
    unfold isHighSurrogate
    simp
    omega
  have hLow :
      isLowSurrogate
        (0xDC00 + (c.toNat - 0x10000) % 0x400) = true := by
    unfold isLowSurrogate
    simp
    omega
  have hChar :
      0x10000 +
          (0xD800 + (c.toNat - 0x10000) / 0x400 - 0xD800) *
            0x400 +
          (0xDC00 + (c.toNat - 0x10000) % 0x400 - 0xDC00) =
        c.toNat := by
    omega
  rw [charsOfUnits, hHigh, hLow, hChar, Char.ofNat_toNat]
  cases charsOfUnits units <;> rfl

theorem charsOfUnits_codeUnits
    {c : Char}
    {units : List Nat}
    (hUnits : CodeUnits c units)
    (rest : List Nat) :
    charsOfUnits (units ++ rest) =
      (charsOfUnits rest).map (c :: ·) := by
  rcases hUnits with rfl | ⟨hLarge, rfl⟩
  · exact charsOfUnits_char c rest
  · exact charsOfUnits_pair hLarge rest

theorem read_encodesText
    {cs body : List Char}
    (hText : EncodesText cs body) :
    ∃ units,
      jsonStringUnits (body ++ ['"']) = some units ∧
        charsOfUnits units = some cs := by
  induction hText with
  | nil => exact ⟨[], rfl, rfl⟩
  | @cons c cs code codes hChar hText ih =>
      rcases ih with ⟨units, hUnits, hChars⟩
      rcases jsonStringUnits_char hChar (codes ++ ['"']) with
        ⟨unitsOfChar, hCode, hRead⟩
      refine ⟨unitsOfChar ++ units, ?_, ?_⟩
      · rw [List.append_assoc, hRead, hUnits]
        rfl
      · rw [charsOfUnits_codeUnits hCode, hChars]
        rfl

/- Every encoding of a text is read as the text. -/
theorem readJsonString_of_encodes
    {value encoded : String}
    (hEncodes : JsonEncodes value encoded) :
    readJsonString encoded = some value := by
  rcases hEncodes with ⟨body, hText, hEncoded⟩
  rcases read_encodesText hText with ⟨units, hUnits, hChars⟩
  unfold readJsonString
  rw [hEncoded]
  simp [hUnits, hChars]

end Scim

end AccessIQ

------------------------------------------------------------
-- Writing
------------------------------------------------------------

namespace AccessIQ

namespace Scim

open Python

/- The four hexadecimal digits of a code unit. -/
def hexDigits
    (n : Nat) :
    List Char :=
  [Nat.digitChar (n / 4096 % 16), Nat.digitChar (n / 256 % 16),
    Nat.digitChar (n / 16 % 16), Nat.digitChar (n % 16)]

/- What `json.dumps` writes for a character. -/
def dumpChar
    (c : Char) :
    List Char :=
  let n := c.toNat
  if c = '"' then ['\\', '"']
  else if c = '\\' then ['\\', '\\']
  else if c = '\n' then ['\\', 'n']
  else if c = '\r' then ['\\', 'r']
  else if c = '\t' then ['\\', 't']
  else if n = 12 then ['\\', 'f']
  else if n = 8 then ['\\', 'b']
  else if 32 ≤ n ∧ n ≤ 126 then [c]
  else if n < 0x10000 then '\\' :: 'u' :: hexDigits n
  else
    '\\' :: 'u' ::
      (hexDigits (0xD800 + (n - 0x10000) / 0x400) ++
        '\\' :: 'u' ::
          hexDigits (0xDC00 + (n - 0x10000) % 0x400))

/- `json.dumps` of a string. -/
def jsonDumps
    (value : String) :
    String :=
  String.ofList
    ('"' :: (value.toList.flatMap dumpChar ++ ['"']))

theorem hexDigit_digitChar
    {n : Nat}
    (hBound : n < 16) :
    hexDigit (Nat.digitChar n) = some n := by
  have hAll :
      ∀ n < 16, hexDigit (Nat.digitChar n) = some n := by
    decide
  exact hAll n hBound

theorem hexUnit_hexDigits
    {n : Nat}
    (hBound : n < 0x10000) :
    hexUnit (Nat.digitChar (n / 4096 % 16))
        (Nat.digitChar (n / 256 % 16))
        (Nat.digitChar (n / 16 % 16))
        (Nat.digitChar (n % 16)) =
      some n := by
  have hMod : ∀ m : Nat, m % 16 < 16 :=
    fun m => Nat.mod_lt m (by decide)
  unfold hexUnit
  rw [hexDigit_digitChar (hMod _), hexDigit_digitChar (hMod _),
    hexDigit_digitChar (hMod _), hexDigit_digitChar (hMod _)]
  simp only [Option.bind_eq_bind, Option.bind_some,
    Option.some.injEq]
  omega

theorem encodesChar_dumpChar
    (c : Char) :
    EncodesChar c (dumpChar c) := by
  have hBound := toNat_lt c
  have hByCode :
      ∀ d : Char, c.toNat = d.toNat → c = d := by
    intro d hEq
    rw [← Char.ofNat_toNat c, hEq, Char.ofNat_toNat]
  unfold dumpChar
  simp only
  split_ifs with h₁ h₂ h₃ h₄ h₅ h₆ h₇ h₈ h₉
  · exact .short c '"' (by rw [h₁]; rfl)
  · exact .short c '\\' (by rw [h₂]; rfl)
  · exact .short c 'n' (by rw [h₃]; rfl)
  · exact .short c 'r' (by rw [h₄]; rfl)
  · exact .short c 't' (by rw [h₅]; rfl)
  · exact .short c 'f'
      (by rw [hByCode (Char.ofNat 12) h₆]; rfl)
  · exact .short c 'b'
      (by rw [hByCode (Char.ofNat 8) h₇]; rfl)
  · exact .plain c h₈.1 h₁ h₂
  · exact .unit c _ _ _ _ (hexUnit_hexDigits h₉)
  · apply EncodesChar.pair c _ _ _ _ _ _ _ _
    · omega
    · apply hexUnit_hexDigits
      omega
    · apply hexUnit_hexDigits
      omega

/- What `json.dumps` writes is an encoding. -/
theorem jsonEncodes_jsonDumps
    (value : String) :
    JsonEncodes value (jsonDumps value) := by
  have hText :
      ∀ cs : List Char,
        EncodesText cs (cs.flatMap dumpChar) := by
    intro cs
    induction cs with
    | nil => exact .nil
    | cons c cs ih =>
        rw [List.flatMap_cons]
        exact .cons (encodesChar_dumpChar c) ih
  refine ⟨_, hText value.toList, ?_⟩
  exact String.toList_ofList

end Scim

end AccessIQ
