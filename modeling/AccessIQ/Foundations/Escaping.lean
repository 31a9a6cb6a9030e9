import Mathlib.Data.List.DropRight

/-
  Escapes with a mark.

  A character that has a code is written as the mark and its
  code, every other one as itself.  The mark has a code too,
  so what was written is read back, and a character with a
  code stands in the written text only behind a mark that
  belongs to it.

  Key definitions include:
    * `Escapes`
    * `Escapes.encode`
    * `Escapes.decode`
    * `Escapes.readUntil`
    * `Escapes.Unescaped`

  Key theorems include:
    * `Escapes.decode_encode`
    * `Escapes.readUntil_encode`
    * `Escapes.not_unescaped_encode`
    * `Escapes.not_mem_encode`
-/

------------------------------------------------------------
-- Writing and Reading
------------------------------------------------------------

namespace Foundations

variable {α : Type}

/- Which characters are escaped, and how they are read back. -/
structure Escapes (α : Type) where
  mark : α
  code : α → Option α
  value : α → Option α
  value_code :
    ∀ {a b : α}, code a = some b → value b = some a
  mark_coded : (code mark).isSome

namespace Escapes

variable (escapes : Escapes α)

/- One character as it is written. -/
def encodeOne
    (a : α) :
    List α :=
  match escapes.code a with
  | some b => [escapes.mark, b]
  | none => [a]

/- A text as it is written. -/
def encode
    (text : List α) :
    List α :=
  text.flatMap escapes.encodeOne

/- A character without a code is not the mark. -/
theorem ne_mark
    {a : α}
    (hCode : escapes.code a = none) :
    a ≠ escapes.mark := by
  intro hEq
  have hMark := escapes.mark_coded
  rw [← hEq, hCode] at hMark
  cases hMark

theorem encode_cons_coded
    {a b : α}
    (hCode : escapes.code a = some b)
    (text : List α) :
    escapes.encode (a :: text) =
      escapes.mark :: b :: escapes.encode text := by
  unfold encode encodeOne
  rw [List.flatMap_cons, hCode]
  rfl

theorem encode_cons_plain
    {a : α}
    (hCode : escapes.code a = none)
    (text : List α) :
    escapes.encode (a :: text) =
      a :: escapes.encode text := by
  unfold encode encodeOne
  rw [List.flatMap_cons, hCode]
  rfl

variable [DecidableEq α]

/-
  The text that is written so, if it is written well.
  Directly behind a mark a code is read.
-/
def decodeFrom :
    Bool → List α → Option (List α)
  | false, [] => some []
  | true, [] => none
  | false, a :: rest =>
      if a = escapes.mark then
        decodeFrom true rest
      else
        (a :: ·) <$> decodeFrom false rest
  | true, b :: rest =>
      match escapes.value b with
      | some a => (a :: ·) <$> decodeFrom false rest
      | none => none

def decode
    (text : List α) :
    Option (List α) :=
  escapes.decodeFrom false text

/-
  What stands before the first stop that is not behind a
  mark, and what stands after it.
-/
def readFrom
    (stop : α) :
    Bool → List α → Option (List α × List α)
  | _, [] => none
  | false, a :: rest =>
      if a = stop then
        some ([], rest)
      else
        (readFrom stop (a = escapes.mark) rest).map
          fun read => (a :: read.1, read.2)
  | true, b :: rest =>
      (readFrom stop false rest).map
        fun read => (b :: read.1, read.2)

def readUntil
    (stop : α)
    (text : List α) :
    Option (List α × List α) :=
  escapes.readFrom stop false text

/- What was written is read back. -/
theorem decode_encode
    (text : List α) :
    escapes.decode (escapes.encode text) = some text := by
  unfold decode
  induction text with
  | nil => rfl
  | cons a text ih =>
      cases hCode : escapes.code a with
      | some b =>
          rw [escapes.encode_cons_coded hCode, decodeFrom,
            if_pos rfl, decodeFrom,
            escapes.value_code hCode, ih]
          rfl
      | none =>
          rw [escapes.encode_cons_plain hCode, decodeFrom,
            if_neg (escapes.ne_mark hCode), ih]
          rfl

/- Different texts are written differently. -/
theorem encode_injective :
    Function.Injective escapes.encode := by
  intro text other hEq
  have hText := escapes.decode_encode text
  rw [hEq, escapes.decode_encode other] at hText
  injection hText with hSame
  exact hSame.symm

/- The stop behind a written text is where reading stops. -/
theorem readUntil_encode
    {stop : α}
    (hStop : (escapes.code stop).isSome)
    (hMark : stop ≠ escapes.mark)
    (text rest : List α) :
    escapes.readUntil stop
        (escapes.encode text ++ stop :: rest) =
      some (escapes.encode text, rest) := by
  unfold readUntil
  induction text with
  | nil =>
      unfold encode
      rw [List.flatMap_nil, List.nil_append, readFrom,
        if_pos rfl]
  | cons a text ih =>
      cases hCode : escapes.code a with
      | some b =>
          rw [escapes.encode_cons_coded hCode,
            List.cons_append, List.cons_append, readFrom,
            if_neg (Ne.symm hMark), decide_eq_true rfl,
            readFrom, ih]
          rfl
      | none =>
          have hNe : a ≠ stop := by
            intro hEq
            rw [← hEq, hCode] at hStop
            cases hStop
          rw [escapes.encode_cons_plain hCode,
            List.cons_append, readFrom, if_neg hNe,
            decide_eq_false (escapes.ne_mark hCode), ih]
          rfl

/- Less is left than there was. -/
theorem readFrom_length
    {stop : α}
    {behind : Bool}
    {text body rest : List α}
    (hRead :
      escapes.readFrom stop behind text =
        some (body, rest)) :
    rest.length < text.length := by
  induction text generalizing behind body with
  | nil => cases behind <;> cases hRead
  | cons a text ih =>
      have hLater :
          ∀ later,
            (escapes.readFrom stop later text).map
                (fun read => (a :: read.1, read.2)) =
              some (body, rest) →
            rest.length < (a :: text).length := by
        intro later hMap
        rcases Option.map_eq_some_iff.mp hMap with
          ⟨⟨inner, left⟩, hInner, hEq⟩
        cases hEq
        have hLess := ih hInner
        rw [List.length_cons]
        omega
      cases behind with
      | true => exact hLater false hRead
      | false =>
          rw [readFrom] at hRead
          by_cases hStop : a = stop
          · rw [if_pos hStop] at hRead
            cases hRead
            exact Nat.lt_succ_self _
          · rw [if_neg hStop] at hRead
            exact hLater _ hRead

end Escapes

end Foundations

------------------------------------------------------------
-- Unescaped Characters
------------------------------------------------------------

namespace Foundations

namespace Escapes

variable {α : Type}
variable [DecidableEq α]
variable (escapes : Escapes α)

/- How many marks stand at the end of a text. -/
def trailingMarks
    (text : List α) :
    Nat :=
  (text.rtakeWhile (· = escapes.mark)).length

/-
  The character stands in the text behind an even number of
  marks, which then belong to each other and not to it.
-/
def Unescaped
    (x : α)
    (text : List α) : Prop :=
  ∃ before after,
    text = before ++ x :: after ∧
      escapes.trailingMarks before % 2 = 0

theorem trailingMarks_cons
    (a : α)
    (text : List α) :
    escapes.trailingMarks (a :: text) =
      if a = escapes.mark ∧
          escapes.trailingMarks text = text.length then
        text.length + 1
      else
        escapes.trailingMarks text := by
  have hCons : (a :: text).reverse = text.reverse ++ [a] :=
    List.reverse_cons
  unfold trailingMarks List.rtakeWhile
  rw [hCons, List.takeWhile_append, List.length_reverse,
    List.length_reverse, List.length_reverse]
  by_cases hAll :
      (text.reverse.takeWhile (· = escapes.mark)).length =
        text.length
  · by_cases hMark : a = escapes.mark
    · simp [hAll, hMark]
    · simp [hAll, hMark]
  · simp [hAll]

/- A plain character does not count. -/
theorem trailingMarks_plain
    {a : α}
    (hMark : a ≠ escapes.mark)
    (text : List α) :
    escapes.trailingMarks (a :: text) =
      escapes.trailingMarks text := by
  rw [trailingMarks_cons, if_neg]
  intro hBoth
  exact hMark hBoth.1

/- A mark with its code counts evenly. -/
theorem trailingMarks_coded
    (b : α)
    (text : List α) :
    escapes.trailingMarks (escapes.mark :: b :: text) % 2 =
      escapes.trailingMarks text % 2 := by
  have hLength :
      escapes.trailingMarks text ≤ text.length := by
    unfold trailingMarks List.rtakeWhile
    rw [List.length_reverse]
    have hTaken :=
      (List.takeWhile_prefix (· = escapes.mark)
        (l := text.reverse)).length_le
    rwa [List.length_reverse] at hTaken
  rw [trailingMarks_cons, List.length_cons]
  simp only [true_and]
  by_cases hMark : b = escapes.mark
  · rw [trailingMarks_cons]
    simp only [hMark, true_and]
    split_ifs <;> omega
  · rw [escapes.trailingMarks_plain hMark, if_neg]
    omega

/- A character with a code is never written unescaped. -/
theorem not_unescaped_encode
    {x : α}
    (hCoded : (escapes.code x).isSome)
    (hMark : x ≠ escapes.mark)
    (text : List α) :
    ¬escapes.Unescaped x (escapes.encode text) := by
  induction text with
  | nil =>
      intro ⟨before, after, hEq, _⟩
      simp [encode] at hEq
  | cons a text ih =>
      intro ⟨before, after, hEq, hEven⟩
      cases hCode : escapes.code a with
      | none =>
          rw [escapes.encode_cons_plain hCode] at hEq
          cases before with
          | nil =>
              injection hEq with hHead _
              rw [← hHead, hCode] at hCoded
              cases hCoded
          | cons c before =>
              injection hEq with hHead hTail
              subst hHead
              rw [escapes.trailingMarks_plain
                (escapes.ne_mark hCode)] at hEven
              exact ih ⟨before, after, hTail, hEven⟩
      | some b =>
          rw [escapes.encode_cons_coded hCode] at hEq
          -- the split is at the mark, at the code or behind
          rcases before with _ | ⟨c, _ | ⟨d, before⟩⟩
          · injection hEq with hHead _
            exact hMark hHead.symm
          · injection hEq with hHead _
            subst hHead
            simp [trailingMarks, List.rtakeWhile] at hEven
          · injection hEq with hHead hTail
            injection hTail with _ hTail
            subst hHead
            rw [escapes.trailingMarks_coded] at hEven
            exact ih ⟨before, after, hTail, hEven⟩

omit [DecidableEq α] in
/- What is always escaped by another code is not written. -/
theorem not_mem_encode
    {x : α}
    (hCoded : (escapes.code x).isSome)
    (hMark : x ≠ escapes.mark)
    (hCode : ∀ a, escapes.code a ≠ some x)
    (text : List α) :
    x ∉ escapes.encode text := by
  intro hMem
  rcases List.mem_flatMap.mp hMem with ⟨a, _, hIn⟩
  unfold encodeOne at hIn
  cases hOne : escapes.code a with
  | none =>
      rw [hOne, List.mem_singleton] at hIn
      rw [hIn, hOne] at hCoded
      cases hCoded
  | some b =>
      rw [hOne] at hIn
      rcases List.mem_pair.mp hIn with hFirst | hSecond
      · exact hMark hFirst
      · rw [← hSecond] at hOne
        exact hCode a hOne

end Escapes

end Foundations
