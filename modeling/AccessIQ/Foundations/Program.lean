import AccessIQ.Foundations.Table

/-
  Programs that work on a transactional store.

  A `Program` is the tree of the interactions a request
  handler performs: reading the store, flushing a change to
  it, committing, rolling back, publishing events and asking
  the outside world.  `Program.run` executes a tree against
  an oracle, which decides which database calls fail and what
  the outside world answers; `Program.wp` is the weakest
  precondition over every oracle a world allows.

  Key definitions include:
    * `Program`
    * `Session`
    * `Oracle`
    * `Program.run`
    * `Program.serve`
    * `World`
    * `Program.wp`

  Key theorems include:
    * `Program.run_bind`
    * `Program.wp_bind`
    * `Program.wp_tryCatch`
    * `Program.wp_mono`
    * `Program.run_of_wp`
    * `Program.serve_of_wp`
-/

------------------------------------------------------------
-- Program Trees
------------------------------------------------------------

namespace Foundations

/- Error types that can carry a database error. -/
class RaisesDatabaseError (ε : Type) where
  databaseError : DatabaseError → ε

/-
  Programs over a store `σ`, asking questions `ι` answered in
  `ρ`, publishing events `ω`, raising errors `ε` and returning
  `α`.  A flush carries the change it makes to the store and
  returns the key of the row it inserted.
-/
inductive Program (σ ι : Type) (ρ : ι → Type)
    (ω ε α : Type) : Type where
  | done (result : Except ε α)
  | viewing
      (k : Except DatabaseError σ → Program σ ι ρ ω ε α)
  | flushing
      (change : σ → Except DatabaseError (σ × Int))
      (k : Except DatabaseError Int → Program σ ι ρ ω ε α)
  | committing
      (k : Except DatabaseError Unit → Program σ ι ρ ω ε α)
  | rollingBack (k : Program σ ι ρ ω ε α)
  | publishing (events : List ω) (k : Program σ ι ρ ω ε α)
  | asking (question : ι)
      (k : ρ question → Program σ ι ρ ω ε α)

namespace Program

variable {σ ι : Type} {ρ : ι → Type} {ω ε α β : Type}

/- Continue with `f` where `t` returns. -/
def bind
    (t : Program σ ι ρ ω ε α)
    (f : α → Program σ ι ρ ω ε β) :
    Program σ ι ρ ω ε β :=
  match t with
  | .done (.ok a) => f a
  | .done (.error e) => .done (.error e)
  | .viewing k => .viewing fun r => (k r).bind f
  | .flushing change k =>
      .flushing change fun r => (k r).bind f
  | .committing k => .committing fun r => (k r).bind f
  | .rollingBack k => .rollingBack (k.bind f)
  | .publishing events k => .publishing events (k.bind f)
  | .asking question k =>
      .asking question fun r => (k r).bind f

/- Continue with `handler` where `t` raises. -/
def handle
    (t : Program σ ι ρ ω ε α)
    (handler : ε → Program σ ι ρ ω ε α) :
    Program σ ι ρ ω ε α :=
  match t with
  | .done (.ok a) => .done (.ok a)
  | .done (.error e) => handler e
  | .viewing k => .viewing fun r => (k r).handle handler
  | .flushing change k =>
      .flushing change fun r => (k r).handle handler
  | .committing k =>
      .committing fun r => (k r).handle handler
  | .rollingBack k => .rollingBack (k.handle handler)
  | .publishing events k =>
      .publishing events (k.handle handler)
  | .asking question k =>
      .asking question fun r => (k r).handle handler

instance : Monad (Program σ ι ρ ω ε) where
  pure a := .done (.ok a)
  bind := bind

instance : MonadExceptOf ε (Program σ ι ρ ω ε) where
  throw e := .done (.error e)
  tryCatch := handle

/- Raise `e` when `c` holds. -/
def raiseIf
    (c : Prop)
    [Decidable c]
    (e : ε) :
    Program σ ι ρ ω ε Unit :=
  if c then throw e else pure ()

/- The value of an option, or raise `e`. -/
def getOrRaise
    (o : Option α)
    (e : ε) :
    Program σ ι ρ ω ε α :=
  match o with
  | some a => pure a
  | none => throw e

variable [RaisesDatabaseError ε]

/- Return what a database call returned, or raise its error. -/
def orRaise :
    Except DatabaseError α → Program σ ι ρ ω ε α
  | .ok a => pure a
  | .error e => throw (RaisesDatabaseError.databaseError e)

/- Read the store as the transaction sees it. -/
def view : Program σ ι ρ ω ε σ :=
  .viewing orRaise

/- Flush one change and return the key it inserted. -/
def flush
    (change : σ → Except DatabaseError (σ × Int)) :
    Program σ ι ρ ω ε Int :=
  .flushing change orRaise

/- Flush one change that inserts no row of interest. -/
def flush_
    (change : σ → Except DatabaseError σ) :
    Program σ ι ρ ω ε Unit :=
  .flushing (fun s => (change s).map fun s' => (s', 0))
    fun r => orRaise (r.map fun _ => ())

/- Commit the transaction. -/
def commit : Program σ ι ρ ω ε Unit :=
  .committing orRaise

/- Give up the transaction's changes. -/
def rollback : Program σ ι ρ ω ε Unit :=
  .rollingBack (pure ())

/- Publish events, which no rollback takes back. -/
def publish
    (events : List ω) :
    Program σ ι ρ ω ε Unit :=
  .publishing events (pure ())

/- Ask the outside world. -/
def ask
    (question : ι) :
    Program σ ι ρ ω ε (ρ question) :=
  .asking question pure

end Program

end Foundations

------------------------------------------------------------
-- Execution
------------------------------------------------------------

namespace Foundations

/-
  What a request sees of the database between two of its
  interactions.  A broken session has failed and waits for a
  rollback.
-/
structure Moment (σ ω : Type) where
  committed : σ
  working : σ
  broken : Bool
  published : List ω

/- A session counts the database calls it has made. -/
structure Session (σ ω : Type) extends Moment σ ω where
  tick : Nat

/-
  The oracle decides which database calls of a session fail
  and what the outside world answers; questions that may get
  different answers are told apart by what they ask.
-/
structure Oracle (ι : Type) (ρ : ι → Type) where
  fails : Nat → Bool
  answer : (question : ι) → ρ question

/- A transaction that starts now on a committed store. -/
def Moment.start
    {σ ω : Type}
    (s : σ) :
    Moment σ ω where
  committed := s
  working := s
  broken := false
  published := []

namespace Program

variable {σ ι : Type} {ρ : ι → Type} {ω ε α β : Type}

/- Execute a program from a session. -/
def run
    (o : Oracle ι ρ) :
    Program σ ι ρ ω ε α →
      Session σ ω → Except ε α × Session σ ω
  | .done result, s => (result, s)
  | .viewing k, s =>
      if s.broken then
        run o (k (.error .pendingRollback)) s
      else
        run o (k (.ok s.working)) s
  | .flushing change k, s =>
      if s.broken then
        run o (k (.error .pendingRollback)) s
      else if o.fails s.tick then
        run o (k (.error .operational))
          { s with broken := true, tick := s.tick + 1 }
      else
        match change s.working with
        | .ok (s', n) =>
            run o (k (.ok n))
              { s with working := s', tick := s.tick + 1 }
        | .error e =>
            run o (k (.error e))
              { s with broken := true, tick := s.tick + 1 }
  | .committing k, s =>
      if s.broken then
        run o (k (.error .pendingRollback)) s
      else if o.fails s.tick then
        run o (k (.error .operational))
          { s with broken := true, tick := s.tick + 1 }
      else
        run o (k (.ok ()))
          { s with
            committed := s.working, tick := s.tick + 1 }
  | .rollingBack k, s =>
      run o k
        { s with working := s.committed, broken := false }
  | .publishing events k, s =>
      run o k { s with published := s.published ++ events }
  | .asking question k, s =>
      run o (k (o.answer question)) s

/- What a served request leaves behind. -/
structure Served (σ ω ε α : Type) where
  result : Except ε α
  committed : σ
  published : List ω

/-
  Serve one request: run it in a session of its own, which is
  closed afterwards, so uncommitted changes are lost.
-/
def serve
    (o : Oracle ι ρ)
    (t : Program σ ι ρ ω ε α)
    (s : σ) :
    Served σ ω ε α :=
  let final := t.run o ⟨Moment.start s, 0⟩
  { result := final.1
    committed := final.2.committed
    published := final.2.published }

theorem run_bind
    (o : Oracle ι ρ)
    (t : Program σ ι ρ ω ε α)
    (f : α → Program σ ι ρ ω ε β)
    (s : Session σ ω) :
    (t >>= f).run o s =
      match t.run o s with
      | (.ok a, s') => (f a).run o s'
      | (.error e, s') => (.error e, s') := by
  change (bind t f).run o s = _
  induction t generalizing s with
  | done result => cases result <;> rfl
  | viewing k ih =>
      simp only [bind, run]
      split <;> exact ih _ _
  | flushing change k ih =>
      simp only [bind, run]
      split
      · exact ih _ _
      · split
        · exact ih _ _
        · split <;> exact ih _ _
  | committing k ih =>
      simp only [bind, run]
      split
      · exact ih _ _
      · split <;> exact ih _ _
  | rollingBack k ih => exact ih _
  | publishing events k ih => exact ih _
  | asking question k ih => exact ih _ _

end Program

end Foundations

------------------------------------------------------------
-- Weakest Preconditions
------------------------------------------------------------

namespace Foundations

/-
  What a program must be prepared for: whether the database
  may fail by itself, and the answers it may get.
-/
structure World (ι : Type) (ρ : ι → Type) where
  mayFail : Prop
  allows : (question : ι) → ρ question → Prop

/- The oracle does nothing the world does not allow. -/
structure Oracle.Conforms
    {ι : Type} {ρ : ι → Type}
    (o : Oracle ι ρ)
    (w : World ι ρ) : Prop where
  fails : ∀ n, o.fails n = true → w.mayFail
  answer : ∀ q, w.allows q (o.answer q)

/- The world of exactly one oracle. -/
def Oracle.world
    {ι : Type} {ρ : ι → Type}
    (o : Oracle ι ρ) :
    World ι ρ where
  mayFail := ∃ n, o.fails n = true
  allows q r := r = o.answer q

theorem Oracle.conforms_world
    {ι : Type} {ρ : ι → Type}
    (o : Oracle ι ρ) :
    o.Conforms o.world where
  fails n hFails := ⟨n, hFails⟩
  answer _ := rfl

/- No database call fails by itself. -/
def Oracle.Steady
    {ι : Type} {ρ : ι → Type}
    (o : Oracle ι ρ) : Prop :=
  ∀ n, o.fails n = false

theorem Oracle.Steady.not_mayFail
    {ι : Type} {ρ : ι → Type}
    {o : Oracle ι ρ}
    (hSteady : o.Steady) :
    ¬ o.world.mayFail := by
  rintro ⟨n, hFails⟩
  rw [hSteady n] at hFails
  cases hFails

/-
  A postcondition speaks about the result and the moment at
  which the program ended.
-/
abbrev Post (σ ω ε α : Type) :=
  Except ε α → Moment σ ω → Prop

namespace Program

variable {σ ι : Type} {ρ : ι → Type} {ω ε α β : Type}
variable {w : World ι ρ}

/-
  The weakest precondition of `post` over every oracle the
  world allows.
-/
@[grind =] def wp
    (w : World ι ρ)
    (t : Program σ ι ρ ω ε α)
    (post : Post σ ω ε α)
    (m : Moment σ ω) : Prop :=
  match t with
  | .done result => post result m
  | .viewing k =>
      if m.broken then
        (k (.error .pendingRollback)).wp w post m
      else
        (k (.ok m.working)).wp w post m
  | .flushing change k =>
      if m.broken then
        (k (.error .pendingRollback)).wp w post m
      else
        (w.mayFail →
          (k (.error .operational)).wp w post
            { m with broken := true }) ∧
        match change m.working with
        | .ok (s', n) =>
            (k (.ok n)).wp w post { m with working := s' }
        | .error e =>
            (k (.error e)).wp w post
              { m with broken := true }
  | .committing k =>
      if m.broken then
        (k (.error .pendingRollback)).wp w post m
      else
        (w.mayFail →
          (k (.error .operational)).wp w post
            { m with broken := true }) ∧
        (k (.ok ())).wp w post
          { m with committed := m.working }
  | .rollingBack k =>
      k.wp w post
        { m with working := m.committed, broken := false }
  | .publishing events k =>
      k.wp w post
        { m with published := m.published ++ events }
  | .asking question k =>
      ∀ r, w.allows question r → (k r).wp w post m

/- What every allowed oracle guarantees holds of a run. -/
theorem run_of_wp
    {o : Oracle ι ρ}
    (hConforms : o.Conforms w)
    {t : Program σ ι ρ ω ε α}
    {post : Post σ ω ε α}
    {s : Session σ ω}
    (hWp : t.wp w post s.toMoment) :
    post (t.run o s).1 (t.run o s).2.toMoment := by
  induction t generalizing s with
  | done result => exact hWp
  | viewing k ih =>
      simp only [run, wp] at hWp ⊢
      split
      · rename_i hBroken
        rw [if_pos hBroken] at hWp
        exact ih _ hWp
      · rename_i hBroken
        rw [if_neg hBroken] at hWp
        exact ih _ hWp
  | flushing change k ih =>
      simp only [run, wp] at hWp ⊢
      split
      · rename_i hBroken
        rw [if_pos hBroken] at hWp
        exact ih _ hWp
      · rename_i hBroken
        rw [if_neg hBroken] at hWp
        split
        · rename_i hFails
          exact ih _ (hWp.1 (hConforms.fails _ hFails))
        · cases hChange : change s.working with
          | ok pair =>
              have hOk := hWp.2
              rw [hChange] at hOk
              exact ih _ hOk
          | error e =>
              have hError := hWp.2
              rw [hChange] at hError
              exact ih _ hError
  | committing k ih =>
      simp only [run, wp] at hWp ⊢
      split
      · rename_i hBroken
        rw [if_pos hBroken] at hWp
        exact ih _ hWp
      · rename_i hBroken
        rw [if_neg hBroken] at hWp
        split
        · rename_i hFails
          exact ih _ (hWp.1 (hConforms.fails _ hFails))
        · exact ih _ hWp.2
  | rollingBack k ih => exact ih hWp
  | publishing events k ih => exact ih hWp
  | asking question k ih =>
      exact ih _ (hWp _ (hConforms.answer _))

/- The rule for a served request. -/
theorem serve_of_wp
    {o : Oracle ι ρ}
    (hConforms : o.Conforms w)
    {t : Program σ ι ρ ω ε α}
    {s : σ}
    {post : Except ε α → σ → List ω → Prop}
    (hWp :
      t.wp w
        (fun r m => post r m.committed m.published)
        (Moment.start s)) :
    post (t.serve o s).result (t.serve o s).committed
      (t.serve o s).published :=
  @run_of_wp _ _ _ _ _ _ _ _ hConforms t _
    ⟨Moment.start s, 0⟩ hWp

end Program

end Foundations

------------------------------------------------------------
-- Rules
------------------------------------------------------------

namespace Foundations

namespace Program

variable {σ ι : Type} {ρ : ι → Type} {ω ε α β : Type}
variable {w : World ι ρ}

theorem wp_mono
    {t : Program σ ι ρ ω ε α}
    {post post' : Post σ ω ε α}
    {m : Moment σ ω}
    (hWp : t.wp w post m)
    (hPost : ∀ r m', post r m' → post' r m') :
    t.wp w post' m := by
  induction t generalizing m with
  | done result => exact hPost _ _ hWp
  | viewing k ih =>
      simp only [wp] at hWp ⊢
      by_cases hBroken : m.broken = true
      · rw [if_pos hBroken] at hWp ⊢
        exact ih _ hWp
      · rw [if_neg hBroken] at hWp ⊢
        exact ih _ hWp
  | flushing change k ih =>
      simp only [wp] at hWp ⊢
      by_cases hBroken : m.broken = true
      · rw [if_pos hBroken] at hWp ⊢
        exact ih _ hWp
      · rw [if_neg hBroken] at hWp ⊢
        refine ⟨fun hFail => ih _ (hWp.1 hFail), ?_⟩
        have hRest := hWp.2
        cases hChange : change m.working with
        | ok pair =>
            rw [hChange] at hRest
            exact ih _ hRest
        | error e =>
            rw [hChange] at hRest
            exact ih _ hRest
  | committing k ih =>
      simp only [wp] at hWp ⊢
      by_cases hBroken : m.broken = true
      · rw [if_pos hBroken] at hWp ⊢
        exact ih _ hWp
      · rw [if_neg hBroken] at hWp ⊢
        exact ⟨fun hFail => ih _ (hWp.1 hFail),
          ih _ hWp.2⟩
  | rollingBack k ih => exact ih hWp
  | publishing events k ih => exact ih hWp
  | asking question k ih =>
      intro r hAllows
      exact ih _ (hWp r hAllows)

@[simp] theorem wp_pure
    (a : α)
    (post : Post σ ω ε α)
    (m : Moment σ ω) :
    (pure a : Program σ ι ρ ω ε α).wp w post m ↔
      post (.ok a) m :=
  Iff.rfl

@[simp] theorem wp_throw
    (e : ε)
    (post : Post σ ω ε α)
    (m : Moment σ ω) :
    (throw e : Program σ ι ρ ω ε α).wp w post m ↔
      post (.error e) m :=
  Iff.rfl

/- The postcondition a bind passes to its first program. -/
@[grind =] def bindPost
    (w : World ι ρ)
    (f : α → Program σ ι ρ ω ε β)
    (post : Post σ ω ε β) :
    Post σ ω ε α
  | .ok a, m => (f a).wp w post m
  | .error e, m => post (.error e) m

@[simp] theorem bindPost_ok
    (f : α → Program σ ι ρ ω ε β)
    (post : Post σ ω ε β)
    (a : α)
    (m : Moment σ ω) :
    bindPost w f post (.ok a) m ↔ (f a).wp w post m :=
  Iff.rfl

@[simp] theorem bindPost_error
    (f : α → Program σ ι ρ ω ε β)
    (post : Post σ ω ε β)
    (e : ε)
    (m : Moment σ ω) :
    bindPost w f post (.error e) m ↔ post (.error e) m :=
  Iff.rfl

@[simp] theorem wp_bind
    (t : Program σ ι ρ ω ε α)
    (f : α → Program σ ι ρ ω ε β)
    (post : Post σ ω ε β)
    (m : Moment σ ω) :
    (t >>= f).wp w post m ↔
      t.wp w (bindPost w f post) m := by
  change (bind t f).wp w post m ↔ _
  induction t generalizing m with
  | done result => cases result <;> rfl
  | viewing k ih =>
      simp only [bind, wp]
      split <;> exact ih _ _
  | flushing change k ih =>
      simp only [bind, wp]
      split
      · exact ih _ _
      · refine and_congr
          (imp_congr_right fun _ => ih _ _) ?_
        split <;> exact ih _ _
  | committing k ih =>
      simp only [bind, wp]
      split
      · exact ih _ _
      · exact and_congr
          (imp_congr_right fun _ => ih _ _) (ih _ _)
  | rollingBack k ih => exact ih _
  | publishing events k ih => exact ih _
  | asking question k ih =>
      exact forall_congr' fun r =>
        imp_congr_right fun _ => ih r m

/- The postcondition a handler passes to its program. -/
@[grind =] def catchPost
    (w : World ι ρ)
    (handler : ε → Program σ ι ρ ω ε α)
    (post : Post σ ω ε α) :
    Post σ ω ε α
  | .ok a, m => post (.ok a) m
  | .error e, m => (handler e).wp w post m

@[simp] theorem catchPost_ok
    (handler : ε → Program σ ι ρ ω ε α)
    (post : Post σ ω ε α)
    (a : α)
    (m : Moment σ ω) :
    catchPost w handler post (.ok a) m ↔ post (.ok a) m :=
  Iff.rfl

@[simp] theorem catchPost_error
    (handler : ε → Program σ ι ρ ω ε α)
    (post : Post σ ω ε α)
    (e : ε)
    (m : Moment σ ω) :
    catchPost w handler post (.error e) m ↔
      (handler e).wp w post m :=
  Iff.rfl

@[simp] theorem wp_tryCatch
    (t : Program σ ι ρ ω ε α)
    (handler : ε → Program σ ι ρ ω ε α)
    (post : Post σ ω ε α)
    (m : Moment σ ω) :
    (tryCatch t handler).wp w post m ↔
      t.wp w (catchPost w handler post) m := by
  change (handle t handler).wp w post m ↔ _
  induction t generalizing m with
  | done result => cases result <;> rfl
  | viewing k ih =>
      simp only [handle, wp]
      split <;> exact ih _ _
  | flushing change k ih =>
      simp only [handle, wp]
      split
      · exact ih _ _
      · refine and_congr
          (imp_congr_right fun _ => ih _ _) ?_
        split <;> exact ih _ _
  | committing k ih =>
      simp only [handle, wp]
      split
      · exact ih _ _
      · exact and_congr
          (imp_congr_right fun _ => ih _ _) (ih _ _)
  | rollingBack k ih => exact ih _
  | publishing events k ih => exact ih _
  | asking question k ih =>
      exact forall_congr' fun r =>
        imp_congr_right fun _ => ih r m

@[simp] theorem wp_raiseIf
    (c : Prop)
    [Decidable c]
    (e : ε)
    (post : Post σ ω ε Unit)
    (m : Moment σ ω) :
    (raiseIf c e : Program σ ι ρ ω ε Unit).wp w post m ↔
      (c → post (.error e) m) ∧
        (¬ c → post (.ok ()) m) := by
  unfold raiseIf
  split
  · rename_i hc
    simp [hc]
  · rename_i hc
    simp [hc]

@[simp] theorem wp_getOrRaise
    (v : Option α)
    (e : ε)
    (post : Post σ ω ε α)
    (m : Moment σ ω) :
    (getOrRaise v e : Program σ ι ρ ω ε α).wp w post m ↔
      (v = none → post (.error e) m) ∧
        (∀ a, v = some a → post (.ok a) m) := by
  cases v <;> simp [getOrRaise]

@[simp] theorem wp_rollback
    (post : Post σ ω ε Unit)
    (m : Moment σ ω) :
    (rollback : Program σ ι ρ ω ε Unit).wp w post m ↔
      post (.ok ())
        { m with
          working := m.committed, broken := false } :=
  Iff.rfl

@[simp] theorem wp_publish
    (events : List ω)
    (post : Post σ ω ε Unit)
    (m : Moment σ ω) :
    (publish events : Program σ ι ρ ω ε Unit).wp w post m ↔
      post (.ok ())
        { m with published := m.published ++ events } :=
  Iff.rfl

@[simp] theorem wp_ask
    (question : ι)
    (post : Post σ ω ε (ρ question))
    (m : Moment σ ω) :
    (ask question : Program σ ι ρ ω ε _).wp w post m ↔
      ∀ r, w.allows question r → post (.ok r) m :=
  Iff.rfl

variable [RaisesDatabaseError ε]

@[simp] theorem wp_view
    (post : Post σ ω ε σ)
    (c s : σ)
    (p : List ω) :
    (view : Program σ ι ρ ω ε σ).wp w post
        ⟨c, s, false, p⟩ ↔
      post (.ok s) ⟨c, s, false, p⟩ := by
  simp [view, wp, orRaise]

@[simp] theorem wp_view_broken
    (post : Post σ ω ε σ)
    (c s : σ)
    (p : List ω) :
    (view : Program σ ι ρ ω ε σ).wp w post
        ⟨c, s, true, p⟩ ↔
      post
        (.error
          (RaisesDatabaseError.databaseError
            .pendingRollback))
        ⟨c, s, true, p⟩ := by
  simp [view, wp, orRaise]

@[simp] theorem wp_flush
    (change : σ → Except DatabaseError (σ × Int))
    (post : Post σ ω ε Int)
    (c s : σ)
    (p : List ω) :
    (flush change : Program σ ι ρ ω ε Int).wp w post
        ⟨c, s, false, p⟩ ↔
      (w.mayFail →
        post
          (.error
            (RaisesDatabaseError.databaseError
              .operational))
          ⟨c, s, true, p⟩) ∧
      (∀ s' n, change s = .ok (s', n) →
        post (.ok n) ⟨c, s', false, p⟩) ∧
      (∀ e, change s = .error e →
        post
          (.error (RaisesDatabaseError.databaseError e))
          ⟨c, s, true, p⟩) := by
  rcases hChange : change s with e | ⟨s', n⟩
  · simp [flush, wp, orRaise, hChange]
  · simp [flush, wp, orRaise, hChange]

@[simp] theorem wp_flush_
    (change : σ → Except DatabaseError σ)
    (post : Post σ ω ε Unit)
    (c s : σ)
    (p : List ω) :
    (flush_ change : Program σ ι ρ ω ε Unit).wp w post
        ⟨c, s, false, p⟩ ↔
      (w.mayFail →
        post
          (.error
            (RaisesDatabaseError.databaseError
              .operational))
          ⟨c, s, true, p⟩) ∧
      (∀ s', change s = .ok s' →
        post (.ok ()) ⟨c, s', false, p⟩) ∧
      (∀ e, change s = .error e →
        post
          (.error (RaisesDatabaseError.databaseError e))
          ⟨c, s, true, p⟩) := by
  cases hChange : change s <;>
    simp [flush_, wp, orRaise, hChange, Except.map]

@[simp] theorem wp_commit
    (post : Post σ ω ε Unit)
    (c s : σ)
    (p : List ω) :
    (commit : Program σ ι ρ ω ε Unit).wp w post
        ⟨c, s, false, p⟩ ↔
      (w.mayFail →
        post
          (.error
            (RaisesDatabaseError.databaseError
              .operational))
          ⟨c, s, true, p⟩) ∧
      post (.ok ()) ⟨s, s, false, p⟩ := by
  simp [commit, wp, orRaise]

end Program

end Foundations
