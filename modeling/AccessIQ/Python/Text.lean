import Mathlib.Tactic
import Mathlib.Data.List.DropRight

/-
  The text operations the program takes from Python.

  Whitespace and stripping are defined here.  Case mapping
  and the decimal digits depend on the Unicode tables and the
  validation of email addresses on another package, so they
  come with a `Platform`, which is only assumed to be right
  on ASCII text and to have nothing left to lower in lowered
  text.

  Key definitions include:
    * `strip`
    * `replaceChar`
    * `asciiLower`
    * `Platform`

  Key theorems include:
    * `strip_strip`
-/

------------------------------------------------------------
-- Whitespace
------------------------------------------------------------

namespace AccessIQ

namespace Python

/- The characters for which `str.isspace` holds. -/
def isSpace
    (c : Char) :
    Bool :=
  let n := c.toNat
  (9 ≤ n && n ≤ 13) || (28 ≤ n && n ≤ 32) ||
    n == 0x85 || n == 0xA0 || n == 0x1680 ||
    (0x2000 ≤ n && n ≤ 0x200A) ||
    n == 0x2028 || n == 0x2029 || n == 0x202F ||
    n == 0x205F || n == 0x3000

/- `str.strip` without an argument. -/
def strip
    (s : String) :
    String :=
  String.ofList
    ((s.toList.dropWhile isSpace).reverse.dropWhile
      isSpace).reverse

/- Stripped text has nothing left to strip. -/
@[simp] theorem strip_strip
    (s : String) :
    strip (strip s) = strip s := by
  have hStripped :
      ∀ cs : List Char,
        (cs.dropWhile isSpace).rdropWhile isSpace =
          (((cs.dropWhile isSpace).rdropWhile
            isSpace).dropWhile isSpace).rdropWhile
              isSpace := by
    intro cs
    generalize hFront : cs.dropWhile isSpace = front
    have hKept :
        (front.rdropWhile isSpace).dropWhile isSpace =
          front.rdropWhile isSpace := by
      rw [List.dropWhile_eq_self_iff]
      intro hLength
      have hHead :=
        (front.rdropWhile_prefix isSpace).getElem hLength
      have hFixed : front.dropWhile isSpace = front := by
        rw [← hFront, List.dropWhile_idempotent]
      rw [hHead]
      exact List.dropWhile_eq_self_iff.mp hFixed _
    rw [hKept, List.rdropWhile_idempotent]
  unfold strip
  rw [String.toList_ofList]
  exact congrArg String.ofList (hStripped s.toList).symm

theorem not_isSpace_of_isDigit
    {c : Char}
    (hDigit : c.isDigit = true) :
    isSpace c = false := by
  rw [Char.isDigit, Bool.and_eq_true, decide_eq_true_iff,
    decide_eq_true_iff] at hDigit
  have hLow := UInt32.le_iff_toNat_le.mp hDigit.1
  have hHigh := UInt32.le_iff_toNat_le.mp hDigit.2
  have hVal : c.val.toNat = c.toNat := rfl
  simp at hLow hHigh
  simp [isSpace]
  omega

/- Text without whitespace is left alone. -/
theorem strip_of_not_isSpace
    {s : String}
    (hNone : ∀ c ∈ s.toList, isSpace c = false) :
    strip s = s := by
  have hFront :
      ∀ cs : List Char,
        (∀ c ∈ cs, isSpace c = false) →
          cs.dropWhile isSpace = cs := by
    intro cs hCs
    cases cs with
    | nil => rfl
    | cons c cs =>
        rw [List.dropWhile_cons_of_neg]
        rw [hCs c List.mem_cons_self]
        exact Bool.false_ne_true
  unfold strip
  rw [hFront s.toList hNone, hFront s.toList.reverse,
    List.reverse_reverse, String.ofList_toList]
  intro c hc
  exact hNone c (List.mem_reverse.mp hc)

/- `str.replace` of one character by another. -/
def replaceChar
    (s : String)
    (old new : Char) :
    String :=
  String.ofList
    (s.toList.map fun c => if c = old then new else c)

end Python

end AccessIQ

------------------------------------------------------------
-- Case
------------------------------------------------------------

namespace AccessIQ

namespace Python

/- Every character is ASCII. -/
def isAscii
    (s : String) :
    Bool :=
  s.toList.all (fun c => c.toNat < 128)

/- Lower case of the ASCII letters. -/
def asciiLower
    (s : String) :
    String :=
  String.ofList (s.toList.map Char.toLower)

/- Upper case of the ASCII letters. -/
def asciiUpper
    (s : String) :
    String :=
  String.ofList (s.toList.map Char.toUpper)

/- The value of an ASCII digit. -/
def asciiDigit
    (c : Char) :
    Option Nat :=
  if c.isDigit then some (c.toNat - '0'.toNat) else none

theorem toLower_toLower
    (c : Char) :
    c.toLower.toLower = c.toLower := by
  unfold Char.toLower
  split
  · rename_i hUpper
    split
    · rename_i hAgain
      exfalso
      have hLow := UInt32.le_iff_toNat_le.mp hUpper.1
      have hHigh := UInt32.le_iff_toNat_le.mp hUpper.2
      have hShifted := UInt32.le_iff_toNat_le.mp hAgain.2
      simp at hLow hHigh hShifted
      omega
    · rfl
  · rfl

/- Lowered text has nothing left to lower. -/
theorem asciiLower_asciiLower
    (s : String) :
    asciiLower (asciiLower s) = asciiLower s := by
  unfold asciiLower
  rw [String.toList_ofList, List.map_map]
  congr 2
  funext c
  exact toLower_toLower c

/-
  What the program takes from the platform it runs on:
  `str.lower`, `str.upper` and `repr` of a string, the
  value of a decimal digit, the `lower` function of the
  PostgreSQL server, and the email validator, which returns
  the normalized address or rejects it.
-/
class Platform where
  lower : String → String
  upper : String → String
  repr : String → String
  decimalDigit : Char → Option Nat
  postgresLower : String → String
  validateEmail : String → Option String
  lower_of_isAscii :
    ∀ s, isAscii s = true → lower s = asciiLower s
  upper_of_isAscii :
    ∀ s, isAscii s = true → upper s = asciiUpper s
  lower_lower : ∀ s, lower (lower s) = lower s
  decimalDigit_of_ascii :
    ∀ c, c.toNat < 128 →
      decimalDigit c = asciiDigit c

attribute [simp] Platform.lower_lower

/-
  A platform for text that stays within ASCII: an email
  address is a nonempty local part, an `@` and a domain with
  a dot, and is accepted as it stands.
-/
@[reducible] def asciiPlatform : Platform where
  lower := asciiLower
  upper := asciiUpper
  repr s := "'" ++ s ++ "'"
  decimalDigit := asciiDigit
  postgresLower := asciiLower
  validateEmail s :=
    match s.toList.span (· ≠ '@') with
    | (_ :: _, _ :: domain) =>
        if domain.contains '.' then some s else none
    | _ => none
  lower_of_isAscii _ _ := rfl
  upper_of_isAscii _ _ := rfl
  lower_lower := asciiLower_asciiLower
  decimalDigit_of_ascii _ _ := rfl

end Python

end AccessIQ
