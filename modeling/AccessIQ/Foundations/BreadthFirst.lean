import Mathlib.Tactic
import Mathlib.Logic.Function.Basic
import Mathlib.Data.List.Nodup
import Mathlib.Logic.Relation

/-
  Breadth-first search for a shortest walk.

  The queue carries whole walks, and a node is marked as
  visited when a walk to it is queued.  The queue is ordered
  by the lengths of its walks, which differ by at most one,
  and the walk a node was first queued with is as short as
  any: an unvisited node is further from the source than the
  first walk of the queue is long.

  Key definitions include:
    * `Walk`
    * `Route`
    * `enqueueSteps`
    * `breadthFirst`
    * `Searching`

  Key theorems include:
    * `Searching.enqueueSteps`
    * `Searching.pop`
    * `breadthFirst_found`
    * `breadthFirst_not_found`
    * `breadthFirst_isSome`
    * `breadthFirst_mono`
-/

------------------------------------------------------------
-- Walks
------------------------------------------------------------

namespace Foundations

variable {ν ε : Type}

/-
  The walks from a source: the nodes they pass, the edges
  they take, and the node they end at.
-/
inductive Walk
    (steps : ν → List (ε × ν))
    (source : ν) :
    List ν → List ε → ν → Prop where
  | start : Walk steps source [source] [] source
  | step
      {nodes : List ν}
      {edges : List ε}
      {u v : ν}
      {edge : ε} :
      Walk steps source nodes edges u →
      (edge, v) ∈ steps u →
      Walk steps source (nodes ++ [v]) (edges ++ [edge]) v

namespace Walk

variable {steps : ν → List (ε × ν)}
variable {source u : ν}
variable {nodes : List ν}
variable {edges : List ε}

theorem length_nodes
    (hWalk : Walk steps source nodes edges u) :
    nodes.length = edges.length + 1 := by
  induction hWalk with
  | start => rfl
  | step _ _ ih => simp [ih]

theorem head?_nodes
    (hWalk : Walk steps source nodes edges u) :
    nodes.head? = some source := by
  induction hWalk with
  | start => rfl
  | step _ _ ih =>
      rw [List.head?_append, ih]
      rfl

theorem getLast?_nodes
    (hWalk : Walk steps source nodes edges u) :
    nodes.getLast? = some u := by
  cases hWalk with
  | start => rfl
  | step _ _ => exact List.getLast?_concat

/- The i-th edge of a walk leads from its i-th node. -/
theorem getElem?_edges
    (hWalk : Walk steps source nodes edges u)
    {i : Nat}
    {edge : ε}
    (hEdge : edges[i]? = some edge) :
    ∃ a b, nodes[i]? = some a ∧ nodes[i + 1]? = some b ∧
      (edge, b) ∈ steps a := by
  induction hWalk with
  | start => simp at hEdge
  | @step nodes edges u v last hWalk hStep ih =>
      have hLength := hWalk.length_nodes
      by_cases hLt : i < edges.length
      · rw [List.getElem?_append_left hLt] at hEdge
        rcases ih hEdge with ⟨a, b, ha, hb, hMem⟩
        refine ⟨a, b, ?_, ?_, hMem⟩
        · rw [List.getElem?_append_left (by omega)]
          exact ha
        · rw [List.getElem?_append_left (by omega)]
          exact hb
      · have hBound := (List.getElem?_eq_some_iff.mp hEdge).1
        rw [List.length_append, List.length_singleton]
          at hBound
        obtain rfl : i = edges.length := by omega
        rw [List.getElem?_concat_length] at hEdge
        cases hEdge
        refine ⟨u, v, ?_, ?_, hStep⟩
        · have hLast := hWalk.getLast?_nodes
          rw [List.getLast?_eq_getElem?, hLength] at hLast
          rw [List.getElem?_append_left (by omega)]
          exact hLast
        · rw [← hLength]
          exact List.getElem?_concat_length

/- Nodes and edges that fit together are a walk. -/
theorem of_getElem?_edges
    (hHead : nodes.head? = some source)
    (hLast : nodes.getLast? = some u)
    (hLength : nodes.length = edges.length + 1)
    (hEdges :
      ∀ (i : Nat) (edge : ε), edges[i]? = some edge →
        ∃ a b, nodes[i]? = some a ∧
          nodes[i + 1]? = some b ∧ (edge, b) ∈ steps a) :
    Walk steps source nodes edges u := by
  induction edges using List.reverseRecOn
    generalizing nodes u with
  | nil =>
      obtain ⟨v, rfl⟩ := List.length_eq_one_iff.mp hLength
      cases hHead
      cases hLast
      exact Walk.start
  | append_singleton edges edge ih =>
      obtain ⟨front, rfl⟩ :=
        List.getLast?_eq_some_iff.mp hLast
      rw [List.length_append, List.length_singleton,
        List.length_append, List.length_singleton] at hLength
      have hFront : front.length = edges.length + 1 := by
        omega
      rcases hEdges edges.length edge
          List.getElem?_concat_length with
        ⟨a, b, ha, hb, hStep⟩
      rw [List.getElem?_append_left (by omega)] at ha
      rw [← hFront, List.getElem?_concat_length] at hb
      cases hb
      apply Walk.step _ hStep
      apply ih
      · rw [List.head?_append] at hHead
        cases front with
        | nil => simp at hFront
        | cons v rest => exact hHead
      · rw [List.getLast?_eq_getElem?, hFront]
        exact ha
      · exact hFront
      · intro i other hOther
        have hLt := (List.getElem?_eq_some_iff.mp hOther).1
        have hOuter :
            (edges ++ [edge])[i]? = some other := by
          rw [List.getElem?_append_left hLt]
          exact hOther
        rcases hEdges i other hOuter with
          ⟨c, d, hc, hd, hMem⟩
        rw [List.getElem?_append_left (by omega)] at hc hd
        exact ⟨c, d, hc, hd, hMem⟩

/- A node is reached by a walk if the steps lead to it. -/
theorem exists_iff :
    (∃ nodes edges, Walk steps source nodes edges u) ↔
      Relation.ReflTransGen
        (fun a b => ∃ edge, (edge, b) ∈ steps a)
        source u := by
  constructor
  · rintro ⟨nodes, edges, hWalk⟩
    induction hWalk with
    | start => exact Relation.ReflTransGen.refl
    | step _ hStep ih => exact ih.tail ⟨_, hStep⟩
  · intro hReaches
    induction hReaches with
    | refl => exact ⟨[source], [], Walk.start⟩
    | tail _ hStep ih =>
        rcases ih with ⟨nodes, edges, hWalk⟩
        rcases hStep with ⟨edge, hMem⟩
        exact ⟨_, _, hWalk.step hMem⟩

end Walk

end Foundations

------------------------------------------------------------
-- The Search
------------------------------------------------------------

namespace Foundations

variable {ν ε : Type}

/- An entry of the queue: a node and a walk to it. -/
structure Route (ν ε : Type) where
  current : ν
  nodes : List ν
  edges : List ε

namespace Route

/- The route that stays at the source. -/
def start
    (source : ν) :
    Route ν ε where
  current := source
  nodes := [source]
  edges := []

/- The route prolonged by an edge. -/
def extend
    (route : Route ν ε)
    (edge : ε)
    (v : ν) :
    Route ν ε where
  current := v
  nodes := route.nodes ++ [v]
  edges := route.edges ++ [edge]

/- How many edges a route takes. -/
def length
    (route : Route ν ε) :
    Nat :=
  route.edges.length

@[simp] theorem current_extend
    (route : Route ν ε)
    (edge : ε)
    (v : ν) :
    (route.extend edge v).current = v :=
  rfl

@[simp] theorem length_extend
    (route : Route ν ε)
    (edge : ε)
    (v : ν) :
    (route.extend edge v).length = route.length + 1 :=
  List.length_append

end Route

variable [DecidableEq ν]

/-
  Mark every neighbor that was not visited yet and queue the
  route prolonged to it.
-/
def enqueueSteps
    (route : Route ν ε) :
    List (ε × ν) →
      List ν →
      List (Route ν ε) →
      List ν × List (Route ν ε)
  | [], visited, queue => (visited, queue)
  | (edge, v) :: rest, visited, queue =>
      if v ∈ visited then
        enqueueSteps route rest visited queue
      else
        enqueueSteps route rest (v :: visited)
          (queue ++ [route.extend edge v])

/-
  Take routes from the front of the queue until one ends at
  the target.  The outer option tells whether the fuel was
  enough, the inner one whether there is such a route.
-/
def breadthFirst
    (steps : ν → List (ε × ν))
    (target : ν) :
    Nat →
      List ν →
      List (Route ν ε) →
      Option (Option (Route ν ε))
  | 0, _, _ => none
  | _ + 1, _, [] => some none
  | fuel + 1, visited, route :: queue =>
      if route.current = target then
        some (some route)
      else
        let next :=
          enqueueSteps route (steps route.current) visited
            queue
        breadthFirst steps target fuel next.1 next.2

/- More fuel does not change the outcome. -/
theorem breadthFirst_mono
    {steps : ν → List (ε × ν)}
    {target : ν}
    {fuel more : Nat}
    {visited : List ν}
    {queue : List (Route ν ε)}
    {outcome : Option (Route ν ε)}
    (hLe : fuel ≤ more)
    (hOutcome :
      breadthFirst steps target fuel visited queue =
        some outcome) :
    breadthFirst steps target more visited queue =
      some outcome := by
  induction fuel generalizing more visited queue with
  | zero => cases hOutcome
  | succ fuel ih =>
      obtain ⟨more, rfl⟩ : ∃ n, more = n + 1 :=
        ⟨more - 1, by omega⟩
      cases queue with
      | nil => exact hOutcome
      | cons route queue =>
          unfold breadthFirst at hOutcome ⊢
          by_cases hTarget : route.current = target
          · rw [if_pos hTarget] at hOutcome ⊢
            exact hOutcome
          · rw [if_neg hTarget] at hOutcome ⊢
            apply ih
            · omega
            · exact hOutcome

end Foundations

------------------------------------------------------------
-- The Invariant
------------------------------------------------------------

namespace Foundations

variable {ν ε : Type}

/-
  What holds whenever a route is taken from the queue.  The
  level of a visited node is the length of the route it was
  queued with.  A visited node that is no longer queued has
  been passed: it is not the target, it is no further than
  the first route of the queue, and its neighbors have been
  visited at most one level below it.
-/
structure Searching
    (steps : ν → List (ε × ν))
    (source target : ν)
    (level : ν → Nat)
    (visited : List ν)
    (queue : List (Route ν ε)) :
    Prop where
  source_mem : source ∈ visited
  source_level : level source = 0
  walk :
    ∀ route ∈ queue,
      Walk steps source route.nodes route.edges
        route.current
  nodup : ∀ route ∈ queue, route.nodes.Nodup
  marked :
    ∀ route ∈ queue, ∀ v ∈ route.nodes, v ∈ visited
  level_eq :
    ∀ route ∈ queue, level route.current = route.length
  ordered : queue.Pairwise fun a b => a.length ≤ b.length
  span :
    ∀ first ∈ queue.head?,
      ∀ route ∈ queue, route.length ≤ first.length + 1
  passed :
    ∀ u ∈ visited, (∀ route ∈ queue, route.current ≠ u) →
      u ≠ target ∧
        (∀ first ∈ queue.head?, level u ≤ first.length) ∧
        ∀ edge v, (edge, v) ∈ steps u →
          v ∈ visited ∧ level v ≤ level u + 1

theorem searching_start
    (steps : ν → List (ε × ν))
    (source target : ν) :
    Searching steps source target (fun _ => 0) [source]
      [Route.start source] where
  source_mem := List.mem_singleton_self source
  source_level := rfl
  walk := by
    intro route hRoute
    rw [List.mem_singleton.mp hRoute]
    exact Walk.start
  nodup := by
    intro route hRoute
    rw [List.mem_singleton.mp hRoute]
    exact List.nodup_singleton source
  marked := by
    intro route hRoute v hv
    rw [List.mem_singleton.mp hRoute] at hv
    exact hv
  level_eq := by
    intro route hRoute
    rw [List.mem_singleton.mp hRoute]
    rfl
  ordered := List.pairwise_singleton _ _
  span := by
    intro first _ route hRoute
    rw [List.mem_singleton.mp hRoute]
    exact Nat.zero_le _
  passed := by
    intro u hu hQueue
    have hStart := hQueue (Route.start source)
      (List.mem_singleton_self _)
    exact absurd (List.mem_singleton.mp hu).symm hStart

namespace Searching

variable {steps : ν → List (ε × ν)}
variable {source target : ν}
variable {level : ν → Nat}
variable {visited : List ν}
variable {route : Route ν ε}
variable {queue : List (Route ν ε)}

/- No visited node is two levels below the first route. -/
theorem level_le
    (h :
      Searching steps source target level visited
        (route :: queue))
    {v : ν}
    (hv : v ∈ visited) :
    level v ≤ route.length + 1 := by
  by_cases hQueued :
      ∀ r ∈ route :: queue, r.current ≠ v
  · have hPassed := h.passed v hv hQueued
    exact Nat.le_succ_of_le (hPassed.2.1 route rfl)
  · push Not at hQueued
    rcases hQueued with ⟨r, hr, rfl⟩
    rw [h.level_eq r hr]
    exact h.span route rfl r hr

/- The first route may go once its neighbors are visited. -/
theorem pop
    (h :
      Searching steps source target level visited
        (route :: queue))
    (hTarget : route.current ≠ target)
    (hSteps :
      ∀ edge v, (edge, v) ∈ steps route.current →
        v ∈ visited) :
    Searching steps source target level visited queue := by
  have hOrdered := List.pairwise_cons.mp h.ordered
  have hFirst :
      ∀ first ∈ queue.head?, route.length ≤ first.length :=
    fun first hHead =>
      hOrdered.1 first (List.mem_of_mem_head? hHead)
  refine
    { source_mem := h.source_mem
      source_level := h.source_level
      walk := fun r hr => h.walk r (List.mem_cons_of_mem _ hr)
      nodup := fun r hr =>
        h.nodup r (List.mem_cons_of_mem _ hr)
      marked := fun r hr =>
        h.marked r (List.mem_cons_of_mem _ hr)
      level_eq := fun r hr =>
        h.level_eq r (List.mem_cons_of_mem _ hr)
      ordered := hOrdered.2
      span := ?_
      passed := ?_ }
  · intro first hHead r hr
    have hSpan :=
      h.span route rfl r (List.mem_cons_of_mem _ hr)
    have hLe := hFirst first hHead
    omega
  · intro u hu hQueued
    by_cases hRoute : route.current = u
    · subst hRoute
      have hLevel :=
        h.level_eq route List.mem_cons_self
      refine ⟨hTarget, ?_, ?_⟩
      · intro first hHead
        rw [hLevel]
        exact hFirst first hHead
      · intro edge v hStep
        have hv := hSteps edge v hStep
        rw [hLevel]
        exact ⟨hv, h.level_le hv⟩
    · have hPassed := h.passed u hu fun r hr => by
        rcases List.mem_cons.mp hr with rfl | hr
        · exact hRoute
        · exact hQueued r hr
      refine ⟨hPassed.1, ?_, hPassed.2.2⟩
      intro first hHead
      have hLevel := hPassed.2.1 route rfl
      have hLe := hFirst first hHead
      omega

variable [DecidableEq ν]

/- A new neighbor of the first route is queued at the end. -/
theorem enqueue
    (h :
      Searching steps source target level visited
        (route :: queue))
    {edge : ε}
    {v : ν}
    (hStep : (edge, v) ∈ steps route.current)
    (hv : v ∉ visited) :
    Searching steps source target
      (Function.update level v (route.length + 1))
      (v :: visited)
      (route :: (queue ++ [route.extend edge v])) := by
  have hOld :
      ∀ u ∈ visited,
        Function.update level v (route.length + 1) u =
          level u := by
    intro u hu
    apply Function.update_of_ne
    intro hEq
    exact hv (hEq ▸ hu)
  have hCurrent :
      ∀ r ∈ route :: queue, r.current ∈ visited := by
    intro r hr
    apply h.marked r hr
    exact List.mem_of_getLast? (h.walk r hr).getLast?_nodes
  have hSplit :
      ∀ r ∈ route :: (queue ++ [route.extend edge v]),
        r ∈ route :: queue ∨ r = route.extend edge v := by
    intro r hr
    rw [← List.cons_append] at hr
    rcases List.mem_append.mp hr with hr | hr
    · exact Or.inl hr
    · exact Or.inr (List.mem_singleton.mp hr)
  have hRoute := h.marked route List.mem_cons_self
  refine
    { source_mem := List.mem_cons_of_mem _ h.source_mem
      source_level := by
        rw [hOld source h.source_mem]
        exact h.source_level
      walk := ?_
      nodup := ?_
      marked := ?_
      level_eq := ?_
      ordered := ?_
      span := ?_
      passed := ?_ }
  · intro r hr
    rcases hSplit r hr with hr | rfl
    · exact h.walk r hr
    · exact Walk.step (h.walk route List.mem_cons_self) hStep
  · intro r hr
    rcases hSplit r hr with hr | rfl
    · exact h.nodup r hr
    · have hNodes :
          (route.extend edge v).nodes =
            route.nodes.concat v :=
        (List.concat_eq_append (a := v)).symm
      rw [hNodes]
      apply List.Nodup.concat
      · intro hMem
        exact hv (hRoute v hMem)
      · exact h.nodup route List.mem_cons_self
  · intro r hr u hu
    rcases hSplit r hr with hr | rfl
    · exact List.mem_cons_of_mem _ (h.marked r hr u hu)
    · rcases List.mem_append.mp hu with hu | hu
      · exact List.mem_cons_of_mem _ (hRoute u hu)
      · rw [List.mem_singleton.mp hu]
        exact List.mem_cons_self
  · intro r hr
    rcases hSplit r hr with hr | rfl
    · rw [hOld r.current (hCurrent r hr)]
      exact h.level_eq r hr
    · rw [Route.length_extend]
      exact Function.update_self v _ _
  · rw [← List.cons_append]
    apply List.pairwise_append.mpr
    refine ⟨h.ordered, List.pairwise_singleton _ _, ?_⟩
    intro a ha b hb
    rw [List.mem_singleton.mp hb, Route.length_extend]
    exact h.span route rfl a ha
  · intro first hHead r hr
    cases Option.some.inj hHead
    rcases hSplit r hr with hr | rfl
    · exact h.span route rfl r hr
    · rw [Route.length_extend]
  · intro u hu hQueued
    rcases List.mem_cons.mp hu with rfl | hu
    · have hNew := hQueued (route.extend edge u) (by simp)
      exact absurd rfl hNew
    · have hPassed := h.passed u hu fun r hr => by
        apply hQueued r
        rw [← List.cons_append]
        exact List.mem_append_left _ hr
      rw [hOld u hu]
      refine ⟨hPassed.1, ?_, ?_⟩
      · intro first hHead
        cases Option.some.inj hHead
        exact hPassed.2.1 route rfl
      · intro edge' v' hStep'
        rcases hPassed.2.2 edge' v' hStep' with ⟨hv', hLe⟩
        rw [hOld v' hv']
        exact ⟨List.mem_cons_of_mem _ hv', hLe⟩

/-
  After the neighbors of the first route have been queued,
  all of them are visited.
-/
theorem enqueueSteps
    {remaining : List (ε × ν)}
    (h :
      Searching steps source target level visited
        (route :: queue))
    (hRemaining :
      ∀ step ∈ remaining, step ∈ steps route.current) :
    let next :=
      Foundations.enqueueSteps route remaining visited queue
    (∃ level',
      Searching steps source target level' next.1
        (route :: next.2)) ∧
      (∀ u ∈ visited, u ∈ next.1) ∧
      ∀ step ∈ remaining, step.2 ∈ next.1 := by
  induction remaining generalizing level visited queue with
  | nil =>
      exact ⟨⟨level, h⟩, fun _ hu => hu, by simp⟩
  | cons step rest ih =>
      rcases step with ⟨edge, v⟩
      have hRest :
          ∀ step ∈ rest, step ∈ steps route.current :=
        fun s hs => hRemaining s (List.mem_cons_of_mem _ hs)
      unfold Foundations.enqueueSteps
      by_cases hv : v ∈ visited
      · rw [if_pos hv]
        rcases ih h hRest with ⟨hNext, hMono, hAll⟩
        refine ⟨hNext, hMono, ?_⟩
        intro s hs
        rcases List.mem_cons.mp hs with rfl | hs
        · exact hMono v hv
        · exact hAll s hs
      · rw [if_neg hv]
        have hStep := hRemaining (edge, v) List.mem_cons_self
        rcases ih (h.enqueue hStep hv) hRest with
          ⟨hNext, hMono, hAll⟩
        refine ⟨hNext, ?_, ?_⟩
        · intro u hu
          exact hMono u (List.mem_cons_of_mem _ hu)
        · intro s hs
          rcases List.mem_cons.mp hs with rfl | hs
          · exact hMono v List.mem_cons_self
          · exact hAll s hs

/- One turn of the search keeps the invariant. -/
theorem turn
    (h :
      Searching steps source target level visited
        (route :: queue))
    (hTarget : route.current ≠ target) :
    let next :=
      Foundations.enqueueSteps route (steps route.current)
        visited queue
    ∃ level',
      Searching steps source target level' next.1
        next.2 := by
  intro next
  rcases h.enqueueSteps fun _ hs => hs with
    ⟨⟨level', hNext⟩, _, hAll⟩
  refine ⟨level', hNext.pop hTarget ?_⟩
  intro edge v hStep
  exact hAll (edge, v) hStep

end Searching

end Foundations

------------------------------------------------------------
-- What The Search Finds
------------------------------------------------------------

namespace Foundations

variable {ν ε : Type}
variable {steps : ν → List (ε × ν)}
variable {source target : ν}
variable {level : ν → Nat}
variable {visited : List ν}
variable {route : Route ν ε}
variable {queue : List (Route ν ε)}

/-
  A walk from the source has either passed only nodes that
  are no longer queued, at most as far down as the walk is
  long, or is at least as long as the first route.
-/
theorem Searching.passed_or_long
    (h :
      Searching steps source target level visited
        (route :: queue))
    {nodes : List ν}
    {edges : List ε}
    {u : ν}
    (hWalk : Walk steps source nodes edges u) :
    (u ∈ visited ∧
        (∀ r ∈ route :: queue, r.current ≠ u) ∧
        level u ≤ edges.length) ∨
      route.length ≤ edges.length := by
  have hOrdered := List.pairwise_cons.mp h.ordered
  have hShortest :
      ∀ r ∈ route :: queue, route.length ≤ r.length := by
    intro r hr
    rcases List.mem_cons.mp hr with rfl | hr
    · exact Nat.le_refl _
    · exact hOrdered.1 r hr
  -- A visited node is still queued or has been passed.
  have hVisited :
      ∀ v ∈ visited, ∀ n, level v ≤ n →
        (v ∈ visited ∧
            (∀ r ∈ route :: queue, r.current ≠ v) ∧
            level v ≤ n) ∨
          route.length ≤ n := by
    intro v hv n hLevel
    by_cases hQueued :
        ∀ r ∈ route :: queue, r.current ≠ v
    · exact Or.inl ⟨hv, hQueued, hLevel⟩
    · push Not at hQueued
      rcases hQueued with ⟨r, hr, rfl⟩
      have hEq := h.level_eq r hr
      have hLe := hShortest r hr
      right
      omega
  induction hWalk with
  | start =>
      apply hVisited source h.source_mem
      rw [h.source_level]
      exact Nat.zero_le _
  | @step nodes edges u v edge hWalk hStep ih =>
      rw [List.length_append, List.length_singleton]
      rcases ih with ⟨hu, hQueued, hLevel⟩ | hLong
      · have hPassed := h.passed u hu hQueued
        rcases hPassed.2.2 edge v hStep with ⟨hv, hNext⟩
        apply hVisited v hv
        omega
      · right
        omega

/- With an empty queue every walk has been passed. -/
theorem Searching.passed_of_walk
    (h : Searching steps source target level visited [])
    {nodes : List ν}
    {edges : List ε}
    {u : ν}
    (hWalk : Walk steps source nodes edges u) :
    u ∈ visited := by
  induction hWalk with
  | start => exact h.source_mem
  | step _ hStep ih =>
      have hPassed := h.passed _ ih (by simp)
      exact (hPassed.2.2 _ _ hStep).1

variable [DecidableEq ν]

/-
  A route that the search finds is a walk to the target
  without repetition, and no walk is shorter.
-/
theorem breadthFirst_found
    {fuel : Nat}
    (h :
      Searching steps source target level visited queue)
    (hFound :
      breadthFirst steps target fuel visited queue =
        some (some route)) :
    Walk steps source route.nodes route.edges target ∧
      route.nodes.Nodup ∧
      ∀ nodes edges, Walk steps source nodes edges target →
        route.edges.length ≤ edges.length := by
  induction fuel generalizing level visited queue with
  | zero => cases hFound
  | succ fuel ih =>
      cases queue with
      | nil => cases hFound
      | cons first queue =>
          unfold breadthFirst at hFound
          by_cases hTarget : first.current = target
          · rw [if_pos hTarget] at hFound
            cases hFound
            subst hTarget
            refine
              ⟨h.walk route List.mem_cons_self,
                h.nodup route List.mem_cons_self, ?_⟩
            intro nodes edges hWalk
            rcases h.passed_or_long hWalk with
              ⟨_, hQueued, _⟩ | hLong
            · have hSelf :=
                hQueued route List.mem_cons_self
              exact absurd rfl hSelf
            · exact hLong
          · rw [if_neg hTarget] at hFound
            rcases h.turn hTarget with ⟨level', hNext⟩
            exact ih hNext hFound

/- If the search ends without a route, there is no walk. -/
theorem breadthFirst_not_found
    {fuel : Nat}
    (h :
      Searching steps source target level visited queue)
    (hNone :
      breadthFirst steps target fuel visited queue =
        some none) :
    ∀ nodes edges,
      ¬ Walk steps source nodes edges target := by
  induction fuel generalizing level visited queue with
  | zero => cases hNone
  | succ fuel ih =>
      cases queue with
      | nil =>
          intro nodes edges hWalk
          have hMem := h.passed_of_walk hWalk
          have hPassed := h.passed target hMem (by simp)
          exact hPassed.1 rfl
      | cons first queue =>
          unfold breadthFirst at hNone
          by_cases hTarget : first.current = target
          · rw [if_pos hTarget] at hNone
            cases hNone
          · rw [if_neg hTarget] at hNone
            rcases h.turn hTarget with ⟨level', hNext⟩
            exact ih hNext hNone

end Foundations

------------------------------------------------------------
-- Termination
------------------------------------------------------------

namespace Foundations

variable {ν ε : Type} [DecidableEq ν]

/-
  Each node is marked once, when it is queued: the marks and
  the queue grow together.
-/
theorem enqueueSteps_nodup
    (route : Route ν ε)
    {remaining : List (ε × ν)}
    {ground : List ν}
    {visited : List ν}
    {queue : List (Route ν ε)}
    (hNodup : visited.Nodup)
    (hSubset : ∀ v ∈ visited, v ∈ ground)
    (hRemaining :
      ∀ step ∈ remaining, step.2 ∈ ground)
    (hQueue : ∀ r ∈ queue, r.current ∈ ground) :
    let next := enqueueSteps route remaining visited queue
    next.1.Nodup ∧
      (∀ v ∈ next.1, v ∈ ground) ∧
      (∀ r ∈ next.2, r.current ∈ ground) ∧
      next.1.length + queue.length =
        visited.length + next.2.length := by
  induction remaining generalizing visited queue with
  | nil => exact ⟨hNodup, hSubset, hQueue, rfl⟩
  | cons step rest ih =>
      rcases step with ⟨edge, v⟩
      have hRest : ∀ step ∈ rest, step.2 ∈ ground :=
        fun s hs => hRemaining s (List.mem_cons_of_mem _ hs)
      unfold enqueueSteps
      by_cases hv : v ∈ visited
      · rw [if_pos hv]
        exact ih hNodup hSubset hRest hQueue
      · rw [if_neg hv]
        have hvUniverse : v ∈ ground :=
          hRemaining (edge, v) List.mem_cons_self
        have hVisited :
            ∀ u ∈ v :: visited, u ∈ ground := by
          intro u hu
          rcases List.mem_cons.mp hu with rfl | hu
          · exact hvUniverse
          · exact hSubset u hu
        have hNext := @ih (v :: visited)
          (queue ++ [route.extend edge v])
          (List.nodup_cons.mpr ⟨hv, hNodup⟩) hVisited
          hRest
          (by
            intro r hr
            rcases List.mem_append.mp hr with hr | hr
            · exact hQueue r hr
            · rw [List.mem_singleton.mp hr]
              exact hvUniverse)
        rcases hNext with ⟨hN, hS, hQ, hLength⟩
        refine ⟨hN, hS, hQ, ?_⟩
        rw [List.length_cons, List.length_append,
          List.length_singleton] at hLength
        omega

/-
  The search ends: every turn takes a route off the queue,
  and only as many are put on it as there are nodes left.
-/
theorem breadthFirst_isSome
    {steps : ν → List (ε × ν)}
    {target : ν}
    (ground : List ν)
    (hClosed :
      ∀ u ∈ ground, ∀ step ∈ steps u, step.2 ∈ ground)
    {fuel : Nat}
    {visited : List ν}
    {queue : List (Route ν ε)}
    (hNodup : visited.Nodup)
    (hSubset : ∀ v ∈ visited, v ∈ ground)
    (hQueue : ∀ r ∈ queue, r.current ∈ ground)
    (hFuel :
      ground.length + queue.length <
        fuel + visited.length) :
    (breadthFirst steps target fuel visited
      queue).isSome = true := by
  induction fuel generalizing visited queue with
  | zero =>
      have hLength : visited.length ≤ ground.length :=
        (hNodup.subperm hSubset).length_le
      omega
  | succ fuel ih =>
      cases queue with
      | nil => rfl
      | cons route queue =>
          unfold breadthFirst
          by_cases hTarget : route.current = target
          · rw [if_pos hTarget]
            rfl
          · rw [if_neg hTarget]
            have hRoute : route.current ∈ ground :=
              hQueue route List.mem_cons_self
            rcases enqueueSteps_nodup route
                hNodup hSubset
                (hClosed route.current hRoute)
                (fun r hr =>
                  hQueue r (List.mem_cons_of_mem _ hr)) with
              ⟨hN, hS, hQ, hLength⟩
            rw [List.length_cons] at hFuel
            apply ih hN hS hQ
            omega

end Foundations
