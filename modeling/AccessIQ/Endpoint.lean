import AccessIQ.Auth

/-
  Endpoints that run one service call in a transaction.

  The delegation, governance and remediation routes share one
  shape: admit the caller, call the service, commit, and only
  then publish the events the service appended.  A service
  error or a database error rolls the transaction back.

  Key definitions include:
    * `transactional`
    * `translated`
    * `BodyPost`
    * `EndpointOutcome`

  Key theorems include:
    * `wp_transactional_of_body`
    * `serve_endpoint`
-/

------------------------------------------------------------
-- Transactions
------------------------------------------------------------

namespace AccessIQ

open Foundations

variable {α : Type}

/-
  `try: body; commit` with the two `except` clauses of a
  route, and the events published after the commit.  `respond`
  is the HTTP response of a service error.
-/
def transactional
    (respond : PyException → Option HttpException)
    (body : Handler (α × List DomainEvent)) :
    Handler α := do
  let (result, events) ←
    tryCatch
      (do
        let done ← body
        Program.commit
        return done)
      fun exc =>
        match respond exc with
        | some response => do
            Program.rollback
            throw (.http response)
        | none =>
            match exc with
            | .database _ => do
                Program.rollback
                throw databaseFailure
            | other => throw other
  Program.publish events
  return result

/- The exception that leaves a route where `exc` was raised. -/
def translated
    (respond : PyException → Option HttpException)
    (exc : PyException) :
    PyException :=
  match respond exc with
  | some response => .http response
  | none =>
      match exc with
      | .database _ => databaseFailure
      | other => other

/-
  The body of a transaction ends without a commit and without
  a published event: it returns in a session that still works,
  or raises.
-/
def BodyPost
    (c : Store)
    (p : List DomainEvent)
    (ok : α → List DomainEvent → Store → Prop)
    (err : PyException → Prop) :
    Post Store DomainEvent PyException
      (α × List DomainEvent)
  | .ok (a, events), m =>
      m.committed = c ∧ m.published = p ∧
        m.broken = false ∧ ok a events m.working
  | .error e, m =>
      m.committed = c ∧ m.published = p ∧ err e

@[simp] theorem bodyPost_ok
    (c c' s : Store)
    (p p' : List DomainEvent)
    (b : Bool)
    (ok : α → List DomainEvent → Store → Prop)
    (err : PyException → Prop)
    (a : α)
    (events : List DomainEvent) :
    BodyPost c p ok err (.ok (a, events)) ⟨c', s, b, p'⟩ ↔
      c' = c ∧ p' = p ∧ b = false ∧ ok a events s :=
  Iff.rfl

@[simp] theorem bodyPost_error
    (c c' s : Store)
    (p p' : List DomainEvent)
    (b : Bool)
    (ok : α → List DomainEvent → Store → Prop)
    (err : PyException → Prop)
    (e : PyException) :
    BodyPost c p ok err (.error e) ⟨c', s, b, p'⟩ ↔
      c' = c ∧ p' = p ∧ err e :=
  Iff.rfl

/-
  The body of a transaction ends without a commit, whatever it
  published by then.
-/
def PublishingPost
    (c : Store)
    (ok :
      α → List DomainEvent → Store →
        List DomainEvent → Prop)
    (err : PyException → List DomainEvent → Prop) :
    Post Store DomainEvent PyException
      (α × List DomainEvent)
  | .ok (a, events), m =>
      m.committed = c ∧ m.broken = false ∧
        ok a events m.working m.published
  | .error e, m => m.committed = c ∧ err e m.published

/-
  A transaction commits what its body leaves and publishes
  its events after those the body published, or it commits
  nothing.
-/
theorem wp_transactional
    {w : World Question Reply}
    {respond : PyException → Option HttpException}
    {body : Handler (α × List DomainEvent)}
    {ok :
      α → List DomainEvent → Store →
        List DomainEvent → Prop}
    {err : PyException → List DomainEvent → Prop}
    {post : Post Store DomainEvent PyException α}
    {c s : Store}
    {p : List DomainEvent}
    (hBody :
      body.wp w (PublishingPost c ok err) ⟨c, s, false, p⟩)
    (hCommit :
      ∀ a events s' p', w.mayFail → ok a events s' p' →
        err (.database .operational) p')
    (hOk :
      ∀ a events s' p', ok a events s' p' →
        post (.ok a) ⟨s', s', false, p' ++ events⟩)
    (hErr :
      ∀ e s' b p', err e p' →
        post (.error (translated respond e))
          ⟨c, s', b, p'⟩) :
    (transactional respond body).wp w post
      ⟨c, s, false, p⟩ := by
  unfold transactional
  rw [Program.wp_bind, Program.wp_tryCatch,
    Program.wp_bind]
  refine Program.wp_mono hBody ?_
  have hRaise :
      ∀ e s' b p', err e p' →
        (match respond e with
          | some response => do
              Program.rollback
              throw (.http response)
          | none =>
              match e with
              | .database _ => do
                  Program.rollback
                  throw databaseFailure
              | other => throw other :
          Handler (α × List DomainEvent)).wp w
          (Program.bindPost w
            (fun done => do
              Program.publish done.2
              return done.1)
            post)
          ⟨c, s', b, p'⟩ := by
    intro e s' b p' hE
    have hPost := hErr e
    unfold translated at hPost
    cases hRespond : respond e with
    | some response =>
        rw [hRespond] at hPost
        simpa using hPost c false p' hE
    | none =>
        rw [hRespond] at hPost
        cases e with
        | database error =>
            simpa using hPost c false p' hE
        | _ => exact hPost s' b p' hE
  rintro (e | ⟨a, events⟩) ⟨c', s', b, p'⟩ hPost
  · rcases hPost with ⟨rfl, hE⟩
    exact hRaise e s' b p' hE
  · rcases hPost with ⟨rfl, hBroken, hDone⟩
    simp only at hBroken hDone
    subst hBroken
    rw [Program.bindPost_ok, Program.wp_bind,
      Program.wp_commit]
    constructor
    · intro hFail
      exact hRaise _ s' true p'
        (hCommit a events s' p' hFail hDone)
    · simpa using hOk a events s' p' hDone

/-
  A transaction commits what its body leaves and publishes
  its events, or commits nothing and publishes nothing.
-/
theorem wp_transactional_of_body
    {w : World Question Reply}
    {respond : PyException → Option HttpException}
    {body : Handler (α × List DomainEvent)}
    {ok : α → List DomainEvent → Store → Prop}
    {err : PyException → Prop}
    {post : Post Store DomainEvent PyException α}
    {c s : Store}
    {p : List DomainEvent}
    (hBody :
      body.wp w (BodyPost c p ok err) ⟨c, s, false, p⟩)
    (hCommit :
      w.mayFail → err (.database .operational))
    (hOk :
      ∀ a events s', ok a events s' →
        post (.ok a) ⟨s', s', false, p ++ events⟩)
    (hErr :
      ∀ e s' b, err e →
        post (.error (translated respond e))
          ⟨c, s', b, p⟩) :
    (transactional respond body).wp w post
      ⟨c, s, false, p⟩ := by
  have hPublishing :
      body.wp w
        (PublishingPost c
          (fun a events s' p' => p' = p ∧ ok a events s')
          (fun e p' => p' = p ∧ err e))
        ⟨c, s, false, p⟩ := by
    refine Program.wp_mono hBody ?_
    rintro (e | ⟨a, events⟩) m hPost
    · exact ⟨hPost.1, hPost.2.1, hPost.2.2⟩
    · exact ⟨hPost.1, hPost.2.2.1, hPost.2.1,
        hPost.2.2.2⟩
  refine wp_transactional hPublishing ?_ ?_ ?_
  · rintro a events s' p' hFail ⟨rfl, -⟩
    exact ⟨rfl, hCommit hFail⟩
  · rintro a events s' p' ⟨rfl, hDone⟩
    exact hOk a events s' hDone
  · rintro e s' b p' ⟨rfl, hE⟩
    exact hErr e s' b hE

end AccessIQ

------------------------------------------------------------
-- Endpoints
------------------------------------------------------------

namespace AccessIQ

open Foundations Python

variable [Platform]
variable {α : Type}

/-
  What an endpoint leaves behind: the caller was refused, the
  service call went through, or it failed.
-/
inductive EndpointOutcome
    (s : Store)
    (ctx : RequestContext)
    (roles : List String)
    (respond : PyException → Option HttpException)
    (ok :
      User → α → List DomainEvent → Store → Prop)
    (err : User → PyException → Prop) :
    Except PyException α → Store → List DomainEvent → Prop
  | refused
      (response : HttpException)
      (hRefused : ∀ user, ¬ s.Admits ctx roles user) :
      EndpointOutcome s ctx roles respond ok err
        (.error (.http response)) s []
  | succeeded
      (user : User)
      (a : α)
      (events : List DomainEvent)
      (s' : Store)
      (hAdmits : s.Admits ctx roles user)
      (hOk : ok user a events s') :
      EndpointOutcome s ctx roles respond ok err
        (.ok a) s' events
  | failed
      (user : User)
      (e : PyException)
      (hAdmits : s.Admits ctx roles user)
      (hErr : err user e) :
      EndpointOutcome s ctx roles respond ok err
        (.error (translated respond e)) s []

/-
  The rule for an endpoint: it is enough to know how the
  service call ends for every caller it admits.
-/
theorem serve_endpoint
    {w : World Question Reply}
    {env : Environment}
    (hConforms : env.Conforms w)
    {s : Store}
    {ctx : RequestContext}
    {roles : List String}
    {respond : PyException → Option HttpException}
    {body : User → Handler (α × List DomainEvent)}
    {ok :
      User → α → List DomainEvent → Store → Prop}
    {err : User → PyException → Prop}
    (hBody :
      ∀ user, s.Admits ctx roles user →
        (body user).wp w
          (BodyPost s [] (ok user) (err user))
          (Moment.start s))
    (hCommit :
      ∀ user, w.mayFail →
        err user (.database .operational)) :
    let served :=
      Program.serve env
        (do
          let user ← authenticated ctx roles
          transactional respond (body user))
        s
    EndpointOutcome s ctx roles respond ok err
      served.result served.committed served.published := by
  refine Program.serve_of_wp hConforms ?_
  simp only [Moment.start, Program.wp_bind,
    wp_authenticated, Program.bindPost_error,
    Program.bindPost_ok]
  refine ⟨?_, ?_, ?_⟩
  · intro hNone
    refine .refused _ fun user hAdmits => ?_
    exact Option.some_ne_none user
      (hAdmits.1.symm.trans hNone)
  · intro user hSome hRole
    refine .refused _ fun other hAdmits => ?_
    have hEq : user = other :=
      Option.some.inj (hSome.symm.trans hAdmits.1)
    subst hEq
    exact Bool.false_ne_true
      (hRole.symm.trans hAdmits.2)
  · intro user hAdmits
    refine wp_transactional_of_body
      (hBody user hAdmits) (hCommit user) ?_ ?_
    · intro a events s' hOk
      exact .succeeded user a events s' hAdmits hOk
    · intro e s' b hErr
      exact .failed user e hAdmits hErr

end AccessIQ
