import AccessIQ.Python.Json
import AccessIQ.Python.Text

/-
  Python's `int` on strings and on JSON values.

  A string of decimal digits may carry a sign, underscores
  between its digits and whitespace around them, but no more
  than 4300 digits.  Of the other JSON values, `int` takes
  numbers and booleans.  What `str` writes of an integer of
  so many digits, `int` reads back.

  Key definitions include:
    * `stripIntSpace`
    * `parseInt`
    * `IntError`
    * `toInt`

  Key theorems include:
    * `parseInt_natural`
-/

------------------------------------------------------------
-- Integers In Strings
------------------------------------------------------------

namespace AccessIQ

namespace Python

variable [Platform]

/- The digits after the first one, `value` being read. -/
def readDigits
    (value : Nat) :
    List Char → Option Nat
  | [] => some value
  | '_' :: c :: cs => do
      let digit ← Platform.decimalDigit c
      readDigits (10 * value + digit) cs
  | c :: cs => do
      let digit ← Platform.decimalDigit c
      readDigits (10 * value + digit) cs

/- At least one digit. -/
def readNumeral :
    List Char → Option Nat
  | [] => none
  | c :: cs => do
      let digit ← Platform.decimalDigit c
      readDigits digit cs

/- A numeral with or without a sign. -/
def readSigned :
    List Char → Option Int
  | '-' :: cs => (readNumeral cs).map fun n => -(n : Int)
  | '+' :: cs => (readNumeral cs).map Int.ofNat
  | cs => (readNumeral cs).map Int.ofNat

/-
  The whitespace `int` passes over.  Of the ASCII characters
  it is what C takes for space, so that the separators from
  U+001C to U+001F, which `str.strip` removes, are none.
-/
def isIntSpace
    (c : Char) :
    Bool :=
  isSpace c && !(28 ≤ c.toNat && c.toNat ≤ 31)

/- The characters between the whitespace. -/
def stripIntSpace
    (s : String) :
    List Char :=
  (s.toList.dropWhile isIntSpace).rdropWhile isIntSpace

/- `sys.int_info.default_max_str_digits`. -/
def maxStrDigits : Nat :=
  4300

/- The digits of a text, leading zeros among them. -/
def digitCount
    (cs : List Char) :
    Nat :=
  cs.countP fun c => (Platform.decimalDigit c).isSome

/- `int` of a string, which may raise a `ValueError`. -/
def parseInt
    (s : String) :
    Option Int :=
  if maxStrDigits < digitCount (stripIntSpace s) then
    none
  else
    readSigned (stripIntSpace s)

end Python

end AccessIQ

------------------------------------------------------------
-- Integers In JSON Values
------------------------------------------------------------

namespace AccessIQ

namespace Python

/- What `int` can raise. -/
inductive IntError where
  | typeError
  | valueError
  | overflowError
  deriving DecidableEq, Repr

variable [Platform]

/- `int` of a JSON value; a float loses its fraction. -/
def toInt : Json → Except IntError Int
  | .null => .error .typeError
  | .bool b => .ok (if b then 1 else 0)
  | .number (.int n) => .ok n
  | .number (.float q) => .ok (q.num.tdiv q.den)
  | .number (.infinity _) => .error .overflowError
  | .number .nan => .error .valueError
  | .string s =>
      match parseInt s with
      | some n => .ok n
      | none => .error .valueError
  | .array _ => .error .typeError
  | .object _ => .error .typeError

end Python

end AccessIQ

------------------------------------------------------------
-- Reading Back
------------------------------------------------------------

namespace AccessIQ

namespace Python

variable [Platform]

theorem decimalDigit_of_isDigit
    {c : Char}
    (hDigit : c.isDigit = true) :
    Platform.decimalDigit c =
      some (c.toNat - '0'.toNat) := by
  have hAscii : c.toNat < 128 := by
    rw [Char.isDigit, Bool.and_eq_true, decide_eq_true_iff,
      decide_eq_true_iff] at hDigit
    have hHigh := UInt32.le_iff_toNat_le.mp hDigit.2
    have hVal : c.val.toNat = c.toNat := rfl
    simp at hHigh
    omega
  rw [Platform.decimalDigit_of_ascii c hAscii, asciiDigit,
    if_pos hDigit]

theorem readDigits_cons
    {c : Char}
    (hDigit : c.isDigit = true)
    (value : Nat)
    (cs : List Char) :
    readDigits value (c :: cs) =
      readDigits (10 * value + (c.toNat - '0'.toNat)) cs := by
  have hNe : c ≠ '_' := by
    intro hEq
    rw [hEq] at hDigit
    cases hDigit
  conv_lhs => unfold readDigits
  split
  · rename_i hEq
    cases hEq
  · rename_i hEq
    cases hEq
    exact absurd rfl hNe
  · rename_i hEq
    cases hEq
    rw [decimalDigit_of_isDigit hDigit, Option.bind_eq_bind,
      Option.bind_some]

/- ASCII digits read as the number they write. -/
theorem readDigits_eq
    {cs : List Char}
    (hDigits : ∀ c ∈ cs, c.isDigit = true)
    (value : Nat) :
    readDigits value cs =
      some (Nat.ofDigitChars 10 cs value) := by
  induction cs generalizing value with
  | nil => simp [readDigits]
  | cons c cs ih =>
      have hHead := hDigits c List.mem_cons_self
      have hTail :
          ∀ d ∈ cs, d.isDigit = true :=
        fun d hd => hDigits d (List.mem_cons_of_mem c hd)
      rw [readDigits_cons hHead, ih hTail,
        Nat.ofDigitChars_cons]

theorem readSigned_natural
    (n : Nat) :
    readSigned (Nat.toDigits 10 n) = some (n : Int) := by
  have hDigits :
      ∀ c ∈ Nat.toDigits 10 n, c.isDigit = true :=
    fun c hc =>
      Nat.isDigit_of_mem_toDigits (by decide) (by decide) hc
  have hNumeral :
      readNumeral (Nat.toDigits 10 n) = some n := by
    have hValue := @Nat.ofDigitChars_ten_toDigits n
    cases hCs : Nat.toDigits 10 n with
    | nil => exact absurd hCs Nat.toDigits_ne_nil
    | cons c cs =>
        rw [hCs] at hDigits hValue
        rw [readNumeral,
          decimalDigit_of_isDigit
            (hDigits c List.mem_cons_self)]
        rw [Nat.ofDigitChars_cons] at hValue
        have hRead :=
          readDigits_eq
            (fun d hd =>
              hDigits d (List.mem_cons_of_mem c hd))
            (c.toNat - '0'.toNat)
        rw [Nat.mul_zero, Nat.zero_add] at hValue
        rw [hValue] at hRead
        exact hRead
  have hSigned :
      readSigned (Nat.toDigits 10 n) =
        (readNumeral (Nat.toDigits 10 n)).map Int.ofNat := by
    unfold readSigned
    split
    · rename_i hCs
      exact absurd (hDigits '-' (by simp [hCs])) (by decide)
    · rename_i hCs
      exact absurd (hDigits '+' (by simp [hCs])) (by decide)
    · rfl
  rw [hSigned, hNumeral]
  rfl

omit [Platform] in
/- Digits have no whitespace around them. -/
theorem stripIntSpace_of_isDigit
    {s : String}
    (hDigits : ∀ c ∈ s.toList, c.isDigit = true) :
    stripIntSpace s = s.toList := by
  have hNone :
      ∀ c ∈ s.toList, ¬ isIntSpace c = true := by
    intro c hc
    unfold isIntSpace
    rw [not_isSpace_of_isDigit (hDigits c hc)]
    exact Bool.false_ne_true
  unfold stripIntSpace
  rw [List.dropWhile_eq_self_iff.mpr,
    List.rdropWhile_eq_self_iff.mpr]
  · intro hNe
    exact hNone _ (List.getLast_mem hNe)
  · intro hPos
    exact hNone _ (List.getElem_mem hPos)

/- `int` reads back what `str` wrote, if it is not too long. -/
theorem parseInt_natural
    (n : Nat)
    (hShort : n.repr.length ≤ maxStrDigits) :
    parseInt (toString (n : Int)) = some (n : Int) := by
  have hText : toString (n : Int) = n.repr := rfl
  have hDigits :
      ∀ c ∈ n.repr.toList, c.isDigit = true := by
    intro c hc
    rw [Nat.toList_repr] at hc
    exact
      Nat.isDigit_of_mem_toDigits (by decide) (by decide) hc
  have hCount : ¬ maxStrDigits < digitCount n.repr.toList := by
    unfold digitCount
    have hLe :=
      List.countP_le_length
        (p := fun c => (Platform.decimalDigit c).isSome)
        (l := n.repr.toList)
    rw [String.length_toList] at hLe
    omega
  rw [hText, parseInt, stripIntSpace_of_isDigit hDigits,
    if_neg hCount, Nat.toList_repr]
  exact readSigned_natural n

end Python

end AccessIQ

namespace AccessIQ

namespace Python

section Reading

attribute [local instance] asciiPlatform

example :
    parseInt " +1_0\n" = some 10 ∧
      parseInt "\u001c5" = none := by
  decide

end Reading

end Python

end AccessIQ

------------------------------------------------------------
-- Integers As Text
------------------------------------------------------------

namespace AccessIQ

namespace Python

/- Different naturals are written differently. -/
theorem repr_injective
    {m n : Nat}
    (hRepr : m.repr = n.repr) :
    m = n := by
  let _ : Platform := asciiPlatform
  have hm := readSigned_natural m
  have hn := readSigned_natural n
  rw [← Nat.toList_repr] at hm hn
  rw [hRepr, hn] at hm
  exact (Int.ofNat.inj (Option.some.inj hm)).symm

theorem head_repr_ne_minus
    (n : Nat) :
    n.repr.toList.head? ≠ some '-' := by
  rw [Nat.toList_repr]
  intro hHead
  have hMem := List.mem_of_head? hHead
  have hDigit : '-'.isDigit = true :=
    Nat.isDigit_of_mem_toDigits (by decide) (by decide) hMem
  exact absurd hDigit (by decide)

/- An integer is written with digits and a minus sign. -/
theorem mem_toString
    {i : Int}
    {c : Char}
    (hc : c ∈ (toString i).toList) :
    c = '-' ∨ c.isDigit = true := by
  have hRepr :
      ∀ n : Nat, ∀ d ∈ n.repr.toList, d.isDigit = true := by
    intro n d hd
    rw [Nat.toList_repr] at hd
    exact Nat.isDigit_of_mem_toDigits (by decide) (by decide) hd
  cases i with
  | ofNat n => exact Or.inr (hRepr n c hc)
  | negSucc n =>
      have hText :
          (toString (Int.negSucc n)).toList =
            "-".toList ++ (n + 1).repr.toList :=
        String.toList_append
      rw [hText, List.mem_append] at hc
      rcases hc with hMinus | hDigit
      · exact Or.inl (List.mem_singleton.mp hMinus)
      · exact Or.inr (hRepr (n + 1) c hDigit)

/- An integer is written with some character. -/
theorem toString_ne_empty
    (i : Int) :
    (toString i).toList ≠ [] := by
  have hRepr : ∀ n : Nat, n.repr.toList ≠ [] := by
    intro n
    rw [Nat.toList_repr]
    exact Nat.toDigits_ne_nil
  cases i with
  | ofNat n => exact hRepr n
  | negSucc n =>
      have hText :
          (toString (Int.negSucc n)).toList =
            "-".toList ++ (n + 1).repr.toList :=
        String.toList_append
      rw [hText]
      exact List.append_ne_nil_of_right_ne_nil _
        (hRepr (n + 1))

/- Different integers are written differently. -/
theorem toString_injective
    {a b : Int}
    (hText : toString a = toString b) :
    a = b := by
  have hMinus :
      ∀ n : Nat,
        ("-" ++ n.repr).toList = '-' :: n.repr.toList := by
    intro n
    rw [String.toList_append]
    rfl
  cases a with
  | ofNat m =>
      cases b with
      | ofNat n => exact congrArg Int.ofNat (repr_injective hText)
      | negSucc n =>
          have hEq : m.repr = "-" ++ (n + 1).repr := hText
          have hHead := head_repr_ne_minus m
          rw [hEq, hMinus] at hHead
          exact absurd rfl hHead
  | negSucc m =>
      cases b with
      | ofNat n =>
          have hEq : "-" ++ (m + 1).repr = n.repr := hText
          have hHead := head_repr_ne_minus n
          rw [← hEq, hMinus] at hHead
          exact absurd rfl hHead
      | negSucc n =>
          have hEq :
              "-" ++ (m + 1).repr = "-" ++ (n + 1).repr :=
            hText
          have hList := congrArg String.toList hEq
          rw [hMinus, hMinus] at hList
          have hTail := String.toList_inj.mp
            (List.tail_eq_of_cons_eq hList)
          have hSucc := repr_injective hTail
          exact congrArg Int.negSucc (Nat.succ.inj hSucc)

end Python

end AccessIQ
