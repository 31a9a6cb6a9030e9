import AccessIQ.Foundations.Program
import AccessIQ.Foundations.Runs
import Mathlib.Logic.Relation

/-
  Programs that run at the same time.

  The programs of a pool work on one store.  The first flush
  of a transaction takes the write lock, which is given back
  when the transaction ends, so that one working copy exists
  at a time.  A program reads whenever it likes, and what it
  reads may be out of date: only the changes it flushes are
  applied to what is stored.

  Whatever relates the stores before and after each change
  that the programs flush therefore relates the committed
  stores of every interleaving.  Serving the programs one
  after another is one of them.

  Key definitions include:
    * `Program.Writes`
    * `Pool`
    * `Pool.Step`
    * `Pool.Reaches`
    * `Pool.schedule`

  Key theorems include:
    * `Program.writes_bind`
    * `Pool.Follows.step`
    * `Pool.related_of_reaches`
    * `Pool.reaches_serve`
    * `Pool.reaches_serveAll`
    * `Pool.reaches_schedule`
-/

------------------------------------------------------------
-- What A Program Writes
------------------------------------------------------------

namespace Foundations

namespace Program

variable {σ ι : Type} {ρ : ι → Type} {ω ε α β : Type}
variable {rel : σ → σ → Prop}

/-
  Every change the program flushes is of a kind, whatever it
  read and was answered before.
-/
def Writes
    (rel : σ → σ → Prop) :
    Program σ ι ρ ω ε α → Prop
  | .done _ => True
  | .viewing k => ∀ r, (k r).Writes rel
  | .flushing change k =>
      (∀ s s' n, change s = .ok (s', n) → rel s s') ∧
        ∀ r, (k r).Writes rel
  | .committing k => ∀ r, (k r).Writes rel
  | .rollingBack k => k.Writes rel
  | .publishing _ k => k.Writes rel
  | .asking _ k => ∀ r, (k r).Writes rel

@[simp] theorem writes_pure
    (a : α) :
    (pure a : Program σ ι ρ ω ε α).Writes rel :=
  trivial

@[simp] theorem writes_throw
    (e : ε) :
    (throw e : Program σ ι ρ ω ε α).Writes rel :=
  trivial

theorem writes_bind
    {t : Program σ ι ρ ω ε α}
    {f : α → Program σ ι ρ ω ε β}
    (hFirst : t.Writes rel)
    (hSecond : ∀ a, (f a).Writes rel) :
    (t >>= f).Writes rel := by
  change (bind t f).Writes rel
  induction t with
  | done result =>
      cases result with
      | ok a => exact hSecond a
      | error e => exact trivial
  | viewing k ih => exact fun r => ih r (hFirst r)
  | flushing change k ih =>
      exact ⟨hFirst.1, fun r => ih r (hFirst.2 r)⟩
  | committing k ih => exact fun r => ih r (hFirst r)
  | rollingBack k ih => exact ih hFirst
  | publishing events k ih => exact ih hFirst
  | asking question k ih => exact fun r => ih r (hFirst r)

theorem writes_tryCatch
    {t : Program σ ι ρ ω ε α}
    {handler : ε → Program σ ι ρ ω ε α}
    (hFirst : t.Writes rel)
    (hHandler : ∀ e, (handler e).Writes rel) :
    (tryCatch t handler).Writes rel := by
  change (handle t handler).Writes rel
  induction t with
  | done result =>
      cases result with
      | ok a => exact trivial
      | error e => exact hHandler e
  | viewing k ih => exact fun r => ih r (hFirst r)
  | flushing change k ih =>
      exact ⟨hFirst.1, fun r => ih r (hFirst.2 r)⟩
  | committing k ih => exact fun r => ih r (hFirst r)
  | rollingBack k ih => exact ih hFirst
  | publishing events k ih => exact ih hFirst
  | asking question k ih => exact fun r => ih r (hFirst r)

theorem writes_mono
    {rel' : σ → σ → Prop}
    (hRel : ∀ s s', rel s s' → rel' s s')
    {t : Program σ ι ρ ω ε α}
    (hWrites : t.Writes rel) :
    t.Writes rel' := by
  induction t with
  | done result => exact trivial
  | viewing k ih => exact fun r => ih r (hWrites r)
  | flushing change k ih =>
      refine ⟨?_, fun r => ih r (hWrites.2 r)⟩
      intro s s' n hOk
      exact hRel s s' (hWrites.1 s s' n hOk)
  | committing k ih => exact fun r => ih r (hWrites r)
  | rollingBack k ih => exact ih hWrites
  | publishing events k ih => exact ih hWrites
  | asking question k ih => exact fun r => ih r (hWrites r)

@[simp] theorem writes_raiseIf
    (c : Prop)
    [Decidable c]
    (e : ε) :
    (raiseIf c e : Program σ ι ρ ω ε Unit).Writes rel := by
  unfold raiseIf
  split
  · exact trivial
  · exact trivial

@[simp] theorem writes_getOrRaise
    (v : Option α)
    (e : ε) :
    (getOrRaise v e : Program σ ι ρ ω ε α).Writes rel := by
  cases v with
  | none => exact trivial
  | some a => exact trivial

@[simp] theorem writes_rollback :
    (rollback : Program σ ι ρ ω ε Unit).Writes rel :=
  trivial

@[simp] theorem writes_publish
    (events : List ω) :
    (publish events : Program σ ι ρ ω ε Unit).Writes rel :=
  trivial

@[simp] theorem writes_ask
    (question : ι) :
    (ask question :
      Program σ ι ρ ω ε (ρ question)).Writes rel :=
  fun _ => trivial

variable [RaisesDatabaseError ε]

theorem writes_orRaise
    (r : Except DatabaseError α) :
    (orRaise r : Program σ ι ρ ω ε α).Writes rel := by
  cases r with
  | ok a => exact trivial
  | error e => exact trivial

@[simp] theorem writes_view :
    (view : Program σ ι ρ ω ε σ).Writes rel :=
  fun r => writes_orRaise r

theorem writes_flush
    {change : σ → Except DatabaseError (σ × Int)}
    (hChange :
      ∀ s s' n, change s = .ok (s', n) → rel s s') :
    (flush change : Program σ ι ρ ω ε Int).Writes rel :=
  ⟨hChange, fun r => writes_orRaise r⟩

theorem writes_flush_
    {change : σ → Except DatabaseError σ}
    (hChange : ∀ s s', change s = .ok s' → rel s s') :
    (flush_ change : Program σ ι ρ ω ε Unit).Writes rel := by
  refine ⟨?_, fun r => writes_orRaise (r.map fun _ => ())⟩
  intro s s' n hOk
  simp only at hOk
  cases hEq : change s with
  | error e =>
      rw [hEq] at hOk
      cases hOk
  | ok s₁ =>
      rw [hEq] at hOk
      cases hOk
      exact hChange s s' hEq

@[simp] theorem writes_commit :
    (commit : Program σ ι ρ ω ε Unit).Writes rel :=
  fun r => writes_orRaise r

end Program

end Foundations

------------------------------------------------------------
-- Pools
------------------------------------------------------------

namespace Foundations

variable {σ ι : Type} {ρ : ι → Type} {ω ε : Type}

/-
  What is left of a program, and whether its session waits
  for a rollback.
-/
structure Task (σ ι : Type) (ρ : ι → Type) (ω ε : Type) where
  program : Program σ ι ρ ω ε Unit
  broken : Bool := false

/-
  Programs at work: the committed store, who holds the write
  lock with which working copy, and the tasks.
-/
structure Pool (σ ι : Type) (ρ : ι → Type) (ω ε : Type) where
  committed : σ
  writer : Option (Nat × σ)
  tasks : List (Task σ ι ρ ω ε)

/- The copy a task may write, if it can have the lock. -/
def writable
    (i : Nat)
    (committed : σ) :
    Option (Nat × σ) → Option σ
  | none => some committed
  | some (j, working) => if j = i then some working else none

/- What is stored after a task commits. -/
def committedBy
    (i : Nat)
    (committed : σ) :
    Option (Nat × σ) → σ
  | none => committed
  | some (j, working) => if j = i then working else committed

/- The lock after the transaction of a task ended. -/
def released
    (i : Nat)
    (writer : Option (Nat × σ)) :
    Option (Nat × σ) :=
  writer.filter fun held => held.1 != i

theorem writable_eq_some
    {i : Nat}
    {c working : σ}
    {w : Option (Nat × σ)}
    (hSome : writable i c w = some working) :
    (w = none ∧ working = c) ∨ w = some (i, working) := by
  cases w with
  | none =>
      cases hSome
      exact Or.inl ⟨rfl, rfl⟩
  | some held =>
      rcases held with ⟨holder, copy⟩
      simp only [writable] at hSome
      by_cases hOwn : holder = i
      · rw [if_pos hOwn] at hSome
        cases hSome
        rw [hOwn]
        exact Or.inr rfl
      · rw [if_neg hOwn] at hSome
        cases hSome

theorem committedBy_cases
    (i : Nat)
    (c : σ)
    (w : Option (Nat × σ)) :
    committedBy i c w = c ∨
      w = some (i, committedBy i c w) := by
  cases w with
  | none => exact Or.inl rfl
  | some held =>
      rcases held with ⟨holder, copy⟩
      simp only [committedBy]
      by_cases hOwn : holder = i
      · rw [if_pos hOwn, hOwn]
        exact Or.inr rfl
      · rw [if_neg hOwn]
        exact Or.inl rfl

theorem released_eq_some_iff
    {i j : Nat}
    {w : Option (Nat × σ)}
    {working : σ} :
    released i w = some (j, working) ↔
      w = some (j, working) ∧ j ≠ i := by
  unfold released
  rw [Option.filter_eq_some_iff]
  simp

/-
  What a task can do next, with the committed store and the
  lock before and after.
-/
inductive Task.Move
    (i : Nat)
    (c : σ)
    (w : Option (Nat × σ)) :
    Task σ ι ρ ω ε → σ → Option (Nat × σ) →
      Task σ ι ρ ω ε → Prop
  | reads
      (k : Except DatabaseError σ → Program σ ι ρ ω ε Unit)
      (seen : σ) :
      Move i c w ⟨.viewing k, false⟩ c w
        ⟨k (.ok seen), false⟩
  | readsBroken
      (k : Except DatabaseError σ → Program σ ι ρ ω ε Unit) :
      Move i c w ⟨.viewing k, true⟩ c w
        ⟨k (.error .pendingRollback), true⟩
  | writes
      (change : σ → Except DatabaseError (σ × Int))
      (k : Except DatabaseError Int → Program σ ι ρ ω ε Unit)
      (working s' : σ)
      (n : Int)
      (hLock : writable i c w = some working)
      (hChange : change working = .ok (s', n)) :
      Move i c w ⟨.flushing change k, false⟩ c
        (some (i, s')) ⟨k (.ok n), false⟩
  | failsToWrite
      (change : σ → Except DatabaseError (σ × Int))
      (k : Except DatabaseError Int → Program σ ι ρ ω ε Unit)
      (e : DatabaseError) :
      Move i c w ⟨.flushing change k, false⟩ c
        (released i w) ⟨k (.error e), true⟩
  | writesBroken
      (change : σ → Except DatabaseError (σ × Int))
      (k :
        Except DatabaseError Int → Program σ ι ρ ω ε Unit) :
      Move i c w ⟨.flushing change k, true⟩ c w
        ⟨k (.error .pendingRollback), true⟩
  | commits
      (k :
        Except DatabaseError Unit → Program σ ι ρ ω ε Unit) :
      Move i c w ⟨.committing k, false⟩ (committedBy i c w)
        (released i w) ⟨k (.ok ()), false⟩
  | failsToCommit
      (k :
        Except DatabaseError Unit → Program σ ι ρ ω ε Unit)
      (e : DatabaseError) :
      Move i c w ⟨.committing k, false⟩ c (released i w)
        ⟨k (.error e), true⟩
  | commitsBroken
      (k :
        Except DatabaseError Unit → Program σ ι ρ ω ε Unit) :
      Move i c w ⟨.committing k, true⟩ c w
        ⟨k (.error .pendingRollback), true⟩
  | rollsBack
      (k : Program σ ι ρ ω ε Unit)
      (broken : Bool) :
      Move i c w ⟨.rollingBack k, broken⟩ c (released i w)
        ⟨k, false⟩
  | publishes
      (events : List ω)
      (k : Program σ ι ρ ω ε Unit)
      (broken : Bool) :
      Move i c w ⟨.publishing events k, broken⟩ c w
        ⟨k, broken⟩
  | asks
      (question : ι)
      (k : ρ question → Program σ ι ρ ω ε Unit)
      (reply : ρ question)
      (broken : Bool) :
      Move i c w ⟨.asking question k, broken⟩ c w
        ⟨k reply, broken⟩
  | closes
      (result : Except ε Unit)
      (broken : Bool) :
      Move i c w ⟨.done result, broken⟩ c (released i w)
        ⟨.done result, broken⟩

namespace Pool

/- A program arrives, or one of the tasks moves. -/
inductive Step
    (admitted : Program σ ι ρ ω ε Unit → Prop) :
    Pool σ ι ρ ω ε → Pool σ ι ρ ω ε → Prop
  | arrives
      (pool : Pool σ ι ρ ω ε)
      (program : Program σ ι ρ ω ε Unit)
      (hAdmitted : admitted program) :
      Step admitted pool
        { pool with tasks := pool.tasks ++ [⟨program, false⟩] }
  | moves
      (c c' : σ)
      (w w' : Option (Nat × σ))
      (before after : List (Task σ ι ρ ω ε))
      (task task' : Task σ ι ρ ω ε)
      (hMove : Task.Move before.length c w task c' w' task') :
      Step admitted ⟨c, w, before ++ task :: after⟩
        ⟨c', w', before ++ task' :: after⟩

/- A pool another one comes to in some order of steps. -/
def Reaches
    (admitted : Program σ ι ρ ω ε Unit → Prop) :
    Pool σ ι ρ ω ε → Pool σ ι ρ ω ε → Prop :=
  Relation.ReflTransGen (Step admitted)

/- Nobody works on the store. -/
def idle
    (s : σ) :
    Pool σ ι ρ ω ε where
  committed := s
  writer := none
  tasks := []

end Pool

end Foundations

------------------------------------------------------------
-- Related Stores
------------------------------------------------------------

namespace Foundations

namespace Pool

variable {σ ι : Type} {ρ : ι → Type} {ω ε : Type}
variable {admitted : Program σ ι ρ ω ε Unit → Prop}
variable {rel : σ → σ → Prop}

/-
  The committed store is related to the one at the start, the
  working copy to the committed store, and what is left of
  every task writes changes of this kind.
-/
structure Follows
    (rel : σ → σ → Prop)
    (start : σ)
    (pool : Pool σ ι ρ ω ε) : Prop where
  committed : rel start pool.committed
  working :
    ∀ i working, pool.writer = some (i, working) →
      rel pool.committed working
  tasks : ∀ task ∈ pool.tasks, task.program.Writes rel

/- What one move of a task keeps. -/
structure Moved
    (rel : σ → σ → Prop)
    (c : σ)
    (w : Option (Nat × σ))
    (task' : Task σ ι ρ ω ε)
    (c' : σ) : Prop where
  committed : rel c c'
  working :
    ∀ i working, w = some (i, working) → rel c' working
  task : task'.program.Writes rel

theorem moved_of_move
    (hRefl : ∀ s, rel s s)
    (hTrans : ∀ a b c, rel a b → rel b c → rel a c)
    {i : Nat}
    {c c' : σ}
    {w w' : Option (Nat × σ)}
    {task task' : Task σ ι ρ ω ε}
    (hMove : Task.Move i c w task c' w' task')
    (hWorking :
      ∀ j working, w = some (j, working) → rel c working)
    (hTask : task.program.Writes rel) :
    Moved rel c w' task' c' := by
  have hReleased :
      ∀ j working, released i w = some (j, working) →
        rel c working :=
    fun j working hSome =>
      hWorking j working (released_eq_some_iff.mp hSome).1
  cases hMove with
  | reads k seen => exact ⟨hRefl c, hWorking, hTask _⟩
  | readsBroken k => exact ⟨hRefl c, hWorking, hTask _⟩
  | writes change k working s' n hLock hChange =>
      refine ⟨hRefl c, ?_, hTask.2 _⟩
      intro j copy hSome
      cases hSome
      have hStep := hTask.1 working s' n hChange
      rcases writable_eq_some hLock with ⟨-, rfl⟩ | hHeld
      · exact hStep
      · exact hTrans _ _ _ (hWorking i working hHeld) hStep
  | failsToWrite change k e =>
      exact ⟨hRefl c, hReleased, hTask.2 _⟩
  | writesBroken change k =>
      exact ⟨hRefl c, hWorking, hTask.2 _⟩
  | commits k =>
      rcases committedBy_cases i c w with hSame | hHeld
      · rw [hSame]
        exact ⟨hRefl c, hReleased, hTask _⟩
      · refine ⟨hWorking i _ hHeld, ?_, hTask _⟩
        intro j working hSome
        rcases released_eq_some_iff.mp hSome with
          ⟨hOther, hNe⟩
        rw [hHeld] at hOther
        cases hOther
        exact absurd rfl hNe
  | failsToCommit k e =>
      exact ⟨hRefl c, hReleased, hTask _⟩
  | commitsBroken k => exact ⟨hRefl c, hWorking, hTask _⟩
  | rollsBack k broken => exact ⟨hRefl c, hReleased, hTask⟩
  | publishes events k broken =>
      exact ⟨hRefl c, hWorking, hTask⟩
  | asks question k reply broken =>
      exact ⟨hRefl c, hWorking, hTask _⟩
  | closes result broken =>
      exact ⟨hRefl c, hReleased, trivial⟩

theorem Follows.step
    (hRefl : ∀ s, rel s s)
    (hTrans : ∀ a b c, rel a b → rel b c → rel a c)
    (hAdmitted :
      ∀ program, admitted program → program.Writes rel)
    {start : σ}
    {pool pool' : Pool σ ι ρ ω ε}
    (hFollows : pool.Follows rel start)
    (hStep : Step admitted pool pool') :
    pool'.Follows rel start := by
  cases hStep with
  | arrives _ program hProgram =>
      refine ⟨hFollows.committed, hFollows.working, ?_⟩
      intro task hTask
      rcases List.mem_append.mp hTask with hOld | hNew
      · exact hFollows.tasks task hOld
      · rcases List.mem_singleton.mp hNew with rfl
        exact hAdmitted _ hProgram
  | moves c c' w w' before after task task' hMove =>
      have hOwn : task.program.Writes rel := by
        apply hFollows.tasks
        exact List.mem_append_right _ List.mem_cons_self
      have hMoved :=
        moved_of_move hRefl hTrans hMove hFollows.working
          hOwn
      refine ⟨?_, hMoved.working, ?_⟩
      · exact hTrans _ _ _ hFollows.committed
          hMoved.committed
      · intro other hOther
        rcases List.mem_append.mp hOther with hOld | hRest
        · exact hFollows.tasks other
            (List.mem_append_left _ hOld)
        · rcases List.mem_cons.mp hRest with rfl | hOld
          · exact hMoved.task
          · exact hFollows.tasks other
              (List.mem_append_right _
                (List.mem_cons_of_mem _ hOld))

/-
  A reflexive and transitive relation that every change keeps
  holds between the committed stores of every interleaving.
-/
theorem related_of_reaches
    (hRefl : ∀ s, rel s s)
    (hTrans : ∀ a b c, rel a b → rel b c → rel a c)
    (hAdmitted :
      ∀ program, admitted program → program.Writes rel)
    {s : σ}
    {reached later : Pool σ ι ρ ω ε}
    (hReached : Reaches admitted (idle s) reached)
    (hLater : Reaches admitted reached later) :
    rel reached.committed later.committed := by
  have hIdle : (idle s : Pool σ ι ρ ω ε).Follows rel s := by
    refine ⟨hRefl s, ?_, ?_⟩
    · intro i working hSome
      cases hSome
    · intro task hTask
      cases hTask
  have hFollows : reached.Follows rel s := by
    clear hLater
    induction hReached with
    | refl => exact hIdle
    | tail hSteps hStep ih =>
        exact ih.step hRefl hTrans hAdmitted hStep
  have hAgain : reached.Follows rel reached.committed :=
    ⟨hRefl _, hFollows.working, hFollows.tasks⟩
  have hEnd : later.Follows rel reached.committed := by
    clear hReached hFollows
    induction hLater with
    | refl => exact hAgain
    | tail hSteps hStep ih =>
        exact ih.step hRefl hTrans hAdmitted hStep
  exact hEnd.committed

end Pool

end Foundations

------------------------------------------------------------
-- One After Another
------------------------------------------------------------

namespace Foundations

namespace Pool

variable {σ ι : Type} {ρ : ι → Type} {ω ε : Type}
variable {admitted : Program σ ι ρ ω ε Unit → Prop}

/-
  The last task of a pool is at work, and stands where a
  session stands.
-/
structure Serving
    (before : List (Task σ ι ρ ω ε))
    (t : Program σ ι ρ ω ε Unit)
    (s : Session σ ω)
    (pool : Pool σ ι ρ ω ε) : Prop where
  committed : pool.committed = s.committed
  tasks : pool.tasks = before ++ [⟨t, s.broken⟩]
  working :
    s.broken = false →
      writable before.length s.committed pool.writer =
        some s.working
  writer :
    ∀ j working, pool.writer = some (j, working) →
      j = before.length

variable {before : List (Task σ ι ρ ω ε)}
variable {t t' : Program σ ι ρ ω ε Unit}
variable {s s' : Session σ ω}
variable {pool : Pool σ ι ρ ω ε}

/- One move of the last task. -/
theorem Serving.move
    (hServing : Serving before t s pool)
    {w' : Option (Nat × σ)}
    (hMove :
      Task.Move before.length s.committed pool.writer
        ⟨t, s.broken⟩ s'.committed w' ⟨t', s'.broken⟩)
    (hWorking :
      s'.broken = false →
        writable before.length s'.committed w' =
          some s'.working)
    (hWriter :
      ∀ j working, w' = some (j, working) →
        j = before.length) :
    ∃ pool',
      Step admitted pool pool' ∧
        Serving before t' s' pool' := by
  rcases pool with ⟨c, w, tasks⟩
  have hCommitted := hServing.committed
  have hTasks := hServing.tasks
  simp only at hCommitted hTasks
  subst hCommitted hTasks
  exact ⟨⟨s'.committed, w', before ++ [⟨t', s'.broken⟩]⟩,
    Step.moves _ _ _ _ before [] _ _ hMove,
    ⟨rfl, rfl, hWorking, hWriter⟩⟩

theorem writable_own
    (i : Nat)
    (c working : σ) :
    writable i c (some (i, working)) = some working :=
  if_pos rfl

/- Nobody else holds the lock. -/
theorem Serving.released_eq_none
    (hServing : Serving before t s pool) :
    released before.length pool.writer = none := by
  cases hWriter : pool.writer with
  | none => rfl
  | some held =>
      rcases held with ⟨j, working⟩
      have hOwn := hServing.writer j working hWriter
      subst hOwn
      exact Option.filter_some_neg (by simp)

theorem Serving.committedBy_eq
    (hServing : Serving before t s pool)
    (hUnbroken : s.broken = false) :
    committedBy before.length s.committed pool.writer =
      s.working := by
  have hWorking := hServing.working hUnbroken
  cases hWriter : pool.writer with
  | none =>
      rw [hWriter] at hWorking
      injection hWorking
  | some held =>
      rcases held with ⟨j, working⟩
      have hOwn := hServing.writer j working hWriter
      subst hOwn
      rw [hWriter, writable_own] at hWorking
      injection hWorking with hEq
      exact (if_pos rfl).trans hEq

/- The pool the task comes to, and where its session is. -/
def Ends
    (admitted : Program σ ι ρ ω ε Unit → Prop)
    (before : List (Task σ ι ρ ω ε))
    (pool : Pool σ ι ρ ω ε)
    (final : Except ε Unit × Session σ ω) : Prop :=
  ∃ pool',
    Reaches admitted pool pool' ∧
      Serving before (.done final.1) final.2 pool'

/- The rest of a run comes after a move. -/
theorem Serving.ends
    (hServing : Serving before t s pool)
    {final : Except ε Unit × Session σ ω}
    {v : Option (Nat × σ)}
    (hMove :
      Task.Move before.length s.committed pool.writer
        ⟨t, s.broken⟩ s'.committed v ⟨t', s'.broken⟩)
    (hWorking :
      s'.broken = false →
        writable before.length s'.committed v =
          some s'.working)
    (hWriter :
      ∀ j working, v = some (j, working) →
        j = before.length)
    (hRest :
      ∀ pool', Serving before t' s' pool' →
        Ends admitted before pool' final) :
    Ends admitted before pool final := by
  rcases hServing.move hMove hWorking hWriter with
    ⟨pool₁, hStep, hNext⟩
  rcases hRest pool₁ hNext with ⟨pool₂, hReaches, hEnd⟩
  exact ⟨pool₂, .head hStep hReaches, hEnd⟩

/- A move that leaves the stores and the lock as they are. -/
theorem Serving.ends_same
    (hServing : Serving before t s pool)
    (s' : Session σ ω)
    {final : Except ε Unit × Session σ ω}
    (hCommitted : s'.committed = s.committed)
    (hWorking : s'.working = s.working)
    (hBroken : s'.broken = s.broken)
    (hMove :
      Task.Move before.length s.committed pool.writer
        ⟨t, s.broken⟩ s.committed pool.writer
        ⟨t', s.broken⟩)
    (hRest :
      ∀ pool', Serving before t' s' pool' →
        Ends admitted before pool' final) :
    Ends admitted before pool final := by
  refine hServing.ends (v := pool.writer) ?_ ?_
    hServing.writer hRest
  · rw [hCommitted, hBroken]
    exact hMove
  · rw [hCommitted, hWorking, hBroken]
    exact hServing.working

/- A failed call breaks the session and frees the lock. -/
theorem Serving.ends_failed
    (hServing : Serving before t s pool)
    (s' : Session σ ω)
    {final : Except ε Unit × Session σ ω}
    (hCommitted : s'.committed = s.committed)
    (hBroken : s'.broken = true)
    (hMove :
      Task.Move before.length s.committed pool.writer
        ⟨t, s.broken⟩ s.committed
        (released before.length pool.writer) ⟨t', true⟩)
    (hRest :
      ∀ pool', Serving before t' s' pool' →
        Ends admitted before pool' final) :
    Ends admitted before pool final := by
  refine hServing.ends
    (v := released before.length pool.writer) ?_ ?_ ?_ hRest
  · rw [hCommitted, hBroken]
    exact hMove
  · intro hUnbroken
    rw [hBroken] at hUnbroken
    cases hUnbroken
  · intro j working hSome
    rw [hServing.released_eq_none] at hSome
    cases hSome

/- The transaction ends, and the session is in order. -/
theorem Serving.ends_released
    (hServing : Serving before t s pool)
    (s' : Session σ ω)
    {final : Except ε Unit × Session σ ω}
    (hWorking : s'.working = s'.committed)
    (hMove :
      Task.Move before.length s.committed pool.writer
        ⟨t, s.broken⟩ s'.committed
        (released before.length pool.writer)
        ⟨t', s'.broken⟩)
    (hRest :
      ∀ pool', Serving before t' s' pool' →
        Ends admitted before pool' final) :
    Ends admitted before pool final := by
  refine hServing.ends hMove ?_ ?_ hRest
  · intro _
    rw [hServing.released_eq_none, hWorking]
    rfl
  · intro j working hSome
    rw [hServing.released_eq_none] at hSome
    cases hSome

/- A task can do alone whatever its program does in a run. -/
theorem ends_run
    (o : Oracle ι ρ)
    (hServing : Serving before t s pool) :
    Ends admitted before pool (t.run o s) := by
  induction t generalizing s pool with
  | done result => exact ⟨pool, .refl, hServing⟩
  | viewing k ih =>
      simp only [Program.run]
      cases hBroken : s.broken with
      | true =>
          refine hServing.ends_same _ rfl rfl rfl ?_
            fun pool' hNext => ih _ hNext
          rw [hBroken]
          exact .readsBroken k
      | false =>
          refine hServing.ends_same _ rfl rfl rfl ?_
            fun pool' hNext => ih _ hNext
          rw [hBroken]
          exact .reads k s.working
  | flushing change k ih =>
      simp only [Program.run]
      cases hBroken : s.broken with
      | true =>
          refine hServing.ends_same _ rfl rfl rfl ?_
            fun pool' hNext => ih _ hNext
          rw [hBroken]
          exact .writesBroken change k
      | false =>
          have hFails :
              ∀ e,
                Ends admitted before pool
                  ((k (.error e)).run o
                    { s with
                      broken := true
                      tick := s.tick + 1 }) := by
            intro e
            refine hServing.ends_failed
              { s with broken := true, tick := s.tick + 1 }
              rfl rfl ?_ fun pool' hNext => ih _ hNext
            rw [hBroken]
            exact .failsToWrite change k e
          simp only [Bool.false_eq_true, if_false]
          split
          · exact hFails .operational
          · cases hChange : change s.working with
            | error e => exact hFails e
            | ok pair =>
                rcases pair with ⟨written, n⟩
                refine hServing.ends
                  (v := some (before.length, written)) ?_
                  ?_ ?_ fun pool' hNext => ih _ hNext
                · rw [hBroken]
                  exact .writes change k s.working written n
                    (hServing.working hBroken) hChange
                · exact fun _ => writable_own _ _ _
                · intro j working hSome
                  cases hSome
                  rfl
  | committing k ih =>
      simp only [Program.run]
      cases hBroken : s.broken with
      | true =>
          refine hServing.ends_same _ rfl rfl rfl ?_
            fun pool' hNext => ih _ hNext
          rw [hBroken]
          exact .commitsBroken k
      | false =>
          simp only [Bool.false_eq_true, if_false]
          split
          · refine hServing.ends_failed
              { s with broken := true, tick := s.tick + 1 }
              rfl rfl ?_ fun pool' hNext => ih _ hNext
            rw [hBroken]
            exact .failsToCommit k .operational
          · refine hServing.ends_released
              { s with
                committed := s.working
                broken := false
                tick := s.tick + 1 }
              rfl ?_ fun pool' hNext => ih _ hNext
            have hCommits :=
              Task.Move.commits (i := before.length)
                (c := s.committed) (w := pool.writer) k
            rw [hServing.committedBy_eq hBroken] at hCommits
            simp only [hBroken]
            exact hCommits
  | rollingBack k ih =>
      refine hServing.ends_released
        { s with working := s.committed, broken := false }
        rfl (.rollsBack k s.broken)
        fun pool' hNext => ih hNext
  | publishing events k ih =>
      refine hServing.ends_same
        { s with published := s.published ++ events }
        rfl rfl rfl (.publishes events k s.broken)
        fun pool' hNext => ih hNext
  | asking question k ih =>
      exact hServing.ends_same _ rfl rfl rfl
        (.asks question k (o.answer question) s.broken)
        fun pool' hNext => ih _ hNext

/- Serving a program is an interleaving without others. -/
theorem reaches_serve
    (o : Oracle ι ρ)
    (hAdmitted : admitted t)
    (c : σ)
    (tasks : List (Task σ ι ρ ω ε)) :
    ∃ tasks',
      Reaches admitted ⟨c, none, tasks⟩
        ⟨(t.serve o c).committed, none, tasks'⟩ := by
  have hArrives :
      Step admitted ⟨c, none, tasks⟩
        ⟨c, none, tasks ++ [⟨t, false⟩]⟩ :=
    .arrives ⟨c, none, tasks⟩ t hAdmitted
  have hServing :
      Serving tasks t ⟨Moment.start c, 0⟩
        ⟨c, none, tasks ++ [⟨t, false⟩]⟩ := by
    refine ⟨rfl, rfl, fun _ => rfl, ?_⟩
    intro j working hSome
    cases hSome
  rcases @ends_run σ ι ρ ω ε admitted _ _ _ _ o hServing with
    ⟨⟨c', w, after⟩, hReaches, hEnd⟩
  have hCommitted := hEnd.committed
  have hTasks := hEnd.tasks
  simp only at hCommitted hTasks
  subst hCommitted hTasks
  have hCloses :=
    Task.Move.closes (i := tasks.length)
      (c := (t.serve o c).committed) (w := w)
      (ρ := ρ) (ω := ω) (t.run o ⟨Moment.start c, 0⟩).1
      (t.run o ⟨Moment.start c, 0⟩).2.broken
  rw [hEnd.released_eq_none] at hCloses
  have hLast : Step admitted ⟨_, w, _⟩ ⟨_, none, _⟩ :=
    .moves _ _ _ _ tasks [] _ _ hCloses
  exact ⟨_, (Relation.ReflTransGen.head hArrives
    hReaches).tail hLast⟩

/- So is serving programs one after another. -/
theorem reaches_serveAll
    (requests : List (Program σ ι ρ ω ε Unit × Oracle ι ρ))
    (hAdmitted : ∀ r ∈ requests, admitted r.1)
    (c : σ) :
    ∃ tasks,
      Reaches admitted (idle c)
        ⟨serveAll
          (fun s r => (Program.serve r.2 r.1 s).committed) c
          requests, none, tasks⟩ := by
  induction requests using List.reverseRecOn with
  | nil => exact ⟨[], .refl⟩
  | append_singleton requests r ih =>
      rcases ih fun r' hMem =>
          hAdmitted r' (List.mem_append_left _ hMem) with
        ⟨tasks, hReaches⟩
      have hLast :=
        hAdmitted r
          (List.mem_append_right _ List.mem_cons_self)
      rcases reaches_serve (o := r.2) hLast _ tasks with
        ⟨tasks', hRest⟩
      rw [serveAll_append]
      exact ⟨tasks', hReaches.trans hRest⟩

end Pool

end Foundations

------------------------------------------------------------
-- Schedules
------------------------------------------------------------

namespace Foundations

variable {σ ι : Type} {ρ : ι → Type} {ω ε : Type}

/-
  The move of a task that reads what is stored now, and whose
  database does not fail by itself.  A task that cannot have
  the lock waits, and one that is done makes no move.
-/
def Task.next
    (o : Oracle ι ρ)
    (i : Nat)
    (c : σ)
    (w : Option (Nat × σ)) :
    Task σ ι ρ ω ε →
      Option (σ × Option (Nat × σ) × Task σ ι ρ ω ε)
  | ⟨.done _, _⟩ => none
  | ⟨.viewing k, true⟩ =>
      some (c, w, ⟨k (.error .pendingRollback), true⟩)
  | ⟨.viewing k, false⟩ =>
      some (c, w, ⟨k (.ok ((writable i c w).getD c)), false⟩)
  | ⟨.flushing _ k, true⟩ =>
      some (c, w, ⟨k (.error .pendingRollback), true⟩)
  | ⟨.flushing change k, false⟩ =>
      match writable i c w with
      | none => none
      | some working =>
          match change working with
          | .ok (s', n) =>
              some (c, some (i, s'), ⟨k (.ok n), false⟩)
          | .error e =>
              some (c, released i w, ⟨k (.error e), true⟩)
  | ⟨.committing k, true⟩ =>
      some (c, w, ⟨k (.error .pendingRollback), true⟩)
  | ⟨.committing k, false⟩ =>
      some (committedBy i c w, released i w,
        ⟨k (.ok ()), false⟩)
  | ⟨.rollingBack k, _⟩ =>
      some (c, released i w, ⟨k, false⟩)
  | ⟨.publishing _ k, broken⟩ => some (c, w, ⟨k, broken⟩)
  | ⟨.asking question k, broken⟩ =>
      some (c, w, ⟨k (o.answer question), broken⟩)

theorem Task.move_of_next
    {o : Oracle ι ρ}
    {i : Nat}
    {c c' : σ}
    {w w' : Option (Nat × σ)}
    {task task' : Task σ ι ρ ω ε}
    (hNext : task.next o i c w = some (c', w', task')) :
    Task.Move i c w task c' w' task' := by
  rcases task with ⟨program, broken⟩
  cases program with
  | done result => cases hNext
  | viewing k =>
      cases broken with
      | true =>
          cases hNext
          exact .readsBroken k
      | false =>
          cases hNext
          exact .reads k _
  | flushing change k =>
      cases broken with
      | true =>
          cases hNext
          exact .writesBroken change k
      | false =>
          simp only [Task.next] at hNext
          split at hNext
          · cases hNext
          · rename_i working hLock
            split at hNext
            · rename_i s' n hChange
              cases hNext
              exact .writes change k working s' n hLock
                hChange
            · cases hNext
              exact .failsToWrite change k _
  | committing k =>
      cases broken with
      | true =>
          cases hNext
          exact .commitsBroken k
      | false =>
          cases hNext
          exact .commits k
  | rollingBack k =>
      cases hNext
      exact .rollsBack k broken
  | publishing events k =>
      cases hNext
      exact .publishes events k broken
  | asking question k =>
      cases hNext
      exact .asks question k _ broken

namespace Pool

variable {admitted : Program σ ι ρ ω ε Unit → Prop}

/- Programs that arrive at the same time. -/
def together
    (s : σ)
    (programs : List (Program σ ι ρ ω ε Unit)) :
    Pool σ ι ρ ω ε where
  committed := s
  writer := none
  tasks := programs.map (⟨·, false⟩)

/- A task takes its turn, if it can move. -/
def turn
    (o : Oracle ι ρ)
    (pool : Pool σ ι ρ ω ε)
    (i : Nat) :
    Pool σ ι ρ ω ε :=
  match pool.tasks[i]? with
  | none => pool
  | some task =>
      match task.next o i pool.committed pool.writer with
      | none => pool
      | some (committed, writer, task') =>
          ⟨committed, writer, pool.tasks.set i task'⟩

/- The tasks take their turns in an order. -/
def schedule
    (o : Oracle ι ρ)
    (turns : List Nat)
    (pool : Pool σ ι ρ ω ε) :
    Pool σ ι ρ ω ε :=
  turns.foldl (turn o) pool

theorem reaches_together
    (s : σ)
    (programs : List (Program σ ι ρ ω ε Unit))
    (hAdmitted : ∀ program ∈ programs, admitted program) :
    Reaches admitted (idle s) (together s programs) := by
  induction programs using List.reverseRecOn with
  | nil => exact .refl
  | append_singleton programs program ih =>
      have hBefore :
          Reaches admitted (idle s) (together s programs) :=
        ih fun other hMem =>
          hAdmitted other (List.mem_append_left _ hMem)
      have hArrives :
          Step admitted (together s programs)
            (together s (programs ++ [program])) := by
        unfold together
        rw [List.map_append]
        exact .arrives _ program
          (hAdmitted program (by simp))
      exact hBefore.tail hArrives

theorem reaches_turn
    (o : Oracle ι ρ)
    (pool : Pool σ ι ρ ω ε)
    (i : Nat) :
    Reaches admitted pool (pool.turn o i) := by
  unfold turn
  split
  · exact .refl
  · rename_i task hTask
    split
    · exact .refl
    · rename_i c' w' task' hNext
      rcases List.getElem?_eq_some_iff.mp hTask with
        ⟨hLt, hEq⟩
      have hTasks :
          pool.tasks =
            pool.tasks.take i ++
              task :: pool.tasks.drop (i + 1) := by
        rw [← hEq, List.getElem_cons_drop,
          List.take_append_drop]
      have hLength : (pool.tasks.take i).length = i :=
        List.length_take_of_le (Nat.le_of_lt hLt)
      have hStep :
          Step admitted
            ⟨pool.committed, pool.writer,
              pool.tasks.take i ++
                task :: pool.tasks.drop (i + 1)⟩
            ⟨c', w',
              pool.tasks.take i ++
                task' :: pool.tasks.drop (i + 1)⟩ := by
        apply Step.moves
        rw [hLength]
        exact Task.move_of_next hNext
      rw [List.set_eq_take_append_cons_drop, if_pos hLt]
      rw [← hTasks] at hStep
      exact .single hStep

theorem reaches_schedule
    (o : Oracle ι ρ)
    (turns : List Nat)
    (pool : Pool σ ι ρ ω ε) :
    Reaches admitted pool (pool.schedule o turns) := by
  induction turns generalizing pool with
  | nil => exact .refl
  | cons i turns ih =>
      exact (reaches_turn o pool i).trans (ih _)

end Pool

end Foundations
