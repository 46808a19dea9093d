/-
This file is a library about the shortest way into a vertex, searched with a priority
queue that keeps outdated entries. Passing through a vertex costs its weight and
following an arc costs the arc. The search does not begin at a vertex but part of the
way through one: its arcs are relaxed first, from a cost at most its weight, and the
vertex may be entered again later like any other.

The search is shown to end, to find a way in whenever there is one, and to return the
cost of a cheapest one; walking the back pointers until the first pointer at the start
vertex recovers its arcs. The outgoing arcs of a vertex may raise; `unfinished` is
returned when the bound on the rounds is used up.
-/

import Mathlib.Algebra.BigOperators.Group.Finset.Basic
import Mathlib.Algebra.Order.BigOperators.Group.Finset
import Mathlib.Algebra.Order.Field.Basic
import Mathlib.Data.Finset.Card
import Mathlib.Tactic.Linarith

namespace RcTaxi

namespace ShortestPath

/-- An arc out of a vertex. -/
structure Arc (Vertex Label α : Type) where
  target : Vertex
  label : Label
  cost : α

/-! ### Ways in -/

section Ways

variable {Vertex Label α Error : Type} [Field α]

variable (weight : Vertex → α) (arcs : Vertex → List (Arc Vertex Label α))

/-- The ways from the end of `source`, reached at cost `base`, into a vertex: the vertices and
arcs passed, the vertex entered and the cost of entering it. -/
inductive Way : Vertex → α → List (Vertex × Label) → Vertex → α → Prop
  | leave {source : Vertex} {base : α} {arc : Arc Vertex Label α} (member : arc ∈ arcs source) :
    Way source base [(arc.target, arc.label)] arc.target (base + arc.cost)
  | pass {source : Vertex} {base : α} {arc : Arc Vertex Label α} {legs : List (Vertex × Label)}
    {vertex : Vertex} {cost : α} (member : arc ∈ arcs source)
    (ahead : Way arc.target (base + arc.cost + weight arc.target) legs vertex cost) :
    Way source base ((arc.target, arc.label) :: legs) vertex cost

variable {weight arcs}

/-- A way is extended at its end by passing through the vertex it enters. -/
theorem Way.extend {source vertex : Vertex} {base cost : α} {legs : List (Vertex × Label)}
    (way : Way weight arcs source base legs vertex cost) {arc : Arc Vertex Label α}
    (member : arc ∈ arcs vertex) :
    Way weight arcs source base (legs ++ [(arc.target, arc.label)]) arc.target
      (cost + weight vertex + arc.cost) := by
  induction way with
  | leave first => exact Way.pass first (Way.leave member)
  | pass first _ inductionHypothesis => exact Way.pass first (inductionHypothesis member)

theorem Way.legs_ne_nil {source vertex : Vertex} {base cost : α} {legs : List (Vertex × Label)}
    (way : Way weight arcs source base legs vertex cost) : legs ≠ [] := by
  cases way <;> exact List.cons_ne_nil _ _

variable (weight arcs) [LinearOrder α]

/-- The arcs out of a finite set of vertices: they stay in it, their costs are not negative, and
passing through a vertex has a positive cost. -/
structure Network (outgoing : Vertex → Except Error (α × List (Arc Vertex Label α)))
    (universe' : Finset Vertex) : Prop where
  answers : ∀ vertex ∈ universe', outgoing vertex = .ok (weight vertex, arcs vertex)
  stays : ∀ vertex ∈ universe', ∀ arc ∈ arcs vertex, arc.target ∈ universe'
  weight_pos : ∀ vertex ∈ universe', 0 < weight vertex
  cost_nonneg : ∀ vertex ∈ universe', ∀ arc ∈ arcs vertex, 0 ≤ arc.cost

variable {weight arcs} {outgoing : Vertex → Except Error (α × List (Arc Vertex Label α))}
  {universe' : Finset Vertex}

theorem Way.base_le [IsStrictOrderedRing α] {source vertex : Vertex} {base cost : α}
    {legs : List (Vertex × Label)}
    (network : Network weight arcs outgoing universe')
    (way : Way weight arcs source base legs vertex cost) (inside : source ∈ universe') :
    base ≤ cost := by
  induction way with
  | leave member =>
    have positive := network.cost_nonneg _ inside _ member
    linarith
  | pass member _ inductionHypothesis =>
    have target := network.stays _ inside _ member
    have ahead := inductionHypothesis target
    have positive := network.cost_nonneg _ inside _ member
    have through := network.weight_pos _ target
    linarith

end Ways

/-- The state of the search: the cost of the best entry found for each vertex, the vertex and
arc it came from, the queue, and the vertices whose arcs have been relaxed. -/
structure State (Vertex Label α : Type) where
  dist : Vertex → Option α
  prev : Vertex → Option (Vertex × Label)
  heap : List (α × Vertex)
  settled : Finset Vertex

variable {Vertex Label α Error : Type} [LinearOrder Vertex] [LinearOrder α]

/-- The state before anything is relaxed. -/
def State.initial : State Vertex Label α := ⟨fun _ => none, fun _ => none, [], ∅⟩

/-! ### The queue -/

/-- Entries are compared as pairs. -/
def entryBefore (first second : α × Vertex) : Bool :=
  first.1 < second.1 ∨ (first.1 = second.1 ∧ first.2 ≤ second.2)

/-- Take a least entry out of the queue. -/
def popMin : List (α × Vertex) → Option ((α × Vertex) × List (α × Vertex))
  | [] => none
  | entry :: rest =>
    match popMin rest with
    | none => some (entry, [])
    | some (best, others) =>
      if entryBefore entry best then some (entry, rest) else some (best, entry :: others)

theorem popMin_eq_none {heap : List (α × Vertex)} (popped : popMin heap = none) : heap = [] := by
  cases heap with
  | nil => rfl
  | cons entry rest =>
    unfold popMin at popped
    split at popped
    · cases popped
    · split at popped <;> cases popped

theorem le_of_entryBefore {first second : α × Vertex} (before : entryBefore first second = true) :
    first.1 ≤ second.1 := by
  rcases of_decide_eq_true before with less | ⟨same, _⟩
  · exact less.le
  · exact same.le

theorem le_of_not_entryBefore {first second : α × Vertex}
    (notBefore : ¬ entryBefore first second = true) : second.1 ≤ first.1 := by
  by_contra greater
  exact notBefore (decide_eq_true (Or.inl (lt_of_not_ge greater)))

/-- The popped entry is least, and the others stay in the queue. -/
theorem popMin_spec {heap others : List (α × Vertex)} {best : α × Vertex}
    (popped : popMin heap = some (best, others)) :
    heap.Perm (best :: others) ∧ ∀ entry ∈ heap, best.1 ≤ entry.1 := by
  induction heap generalizing best others with
  | nil => cases popped
  | cons entry rest inductionHypothesis =>
    unfold popMin at popped
    split at popped
    next empty =>
      cases popped
      have nothing := popMin_eq_none empty
      subst nothing
      exact ⟨List.Perm.refl _, fun other member => (List.mem_singleton.mp member) ▸ le_refl _⟩
    next best' others' popped' =>
      obtain ⟨perm, least⟩ := inductionHypothesis popped'
      split at popped
      next before =>
        cases popped
        refine ⟨List.Perm.refl _, fun other member => ?_⟩
        rcases List.mem_cons.mp member with rfl | inRest
        · exact le_refl _
        · exact (le_of_entryBefore before).trans (least other inRest)
      next notBefore =>
        cases popped
        refine ⟨(perm.cons entry).trans (List.Perm.swap best entry others'), fun other member => ?_⟩
        rcases List.mem_cons.mp member with rfl | inRest
        · exact le_of_not_entryBefore notBefore
        · exact least other inRest

/-! ### The search -/

variable [Field α]

/-- `candidate < dist.get(vertex, inf)`. -/
def improves (old : Option α) (candidate : α) : Bool :=
  match old with
  | none => true
  | some cost => candidate < cost

/-- Record and queue the arc's target if the arc is a better entry than the known one. -/
def relax (source : Vertex) (base : α) (state : State Vertex Label α)
    (arc : Arc Vertex Label α) : State Vertex Label α :=
  if arc.target ∉ state.settled ∧ improves (state.dist arc.target) (base + arc.cost) = true then
    { dist := Function.update state.dist arc.target (some (base + arc.cost))
      prev := Function.update state.prev arc.target (some (source, arc.label))
      heap := (base + arc.cost, arc.target) :: state.heap
      settled := state.settled }
  else state

/-- The search loop: the cost of the popped goal with the state it is popped in, or `none` when
the queue is empty. -/
def search (unfinished : Error)
    (outgoing : Vertex → Except Error (α × List (Arc Vertex Label α))) (goal : Vertex) :
    ℕ → State Vertex Label α → Except Error (Option (α × State Vertex Label α))
  | 0, state => if state.heap.isEmpty then .ok none else .error unfinished
  | rounds + 1, state =>
    match popMin state.heap with
    | none => .ok none
    | some ((cost, vertex), heap) =>
      if vertex ∈ state.settled ∨ (∃ best ∈ state.dist vertex, best < cost) then
        search unfinished outgoing goal rounds { state with heap := heap }
      else if vertex = goal then .ok (some (cost, state))
      else
        match outgoing vertex with
        | .error error => .error error
        | .ok (weight, arcs) =>
          search unfinished outgoing goal rounds
            (arcs.foldl (relax vertex (cost + weight))
              { state with heap := heap, settled := insert vertex state.settled })

/-- Walk the back pointers until one points at the start vertex, collecting vertices and arcs. -/
def walkBack (unfinished : Error) (missing : Vertex → Error)
    (prev : Vertex → Option (Vertex × Label)) (start : Vertex) :
    ℕ → Vertex → List (Vertex × Label) → Except Error (List (Vertex × Label))
  | 0, _, _ => .error unfinished
  | rounds + 1, vertex, chain =>
    match prev vertex with
    | none => .error (missing vertex)
    | some (source, label) =>
      if source = start then .ok ((vertex, label) :: chain)
      else walkBack unfinished missing prev start rounds source ((vertex, label) :: chain)

/-! ### One relaxation -/

theorem relax_settled (source : Vertex) (base : α) (state : State Vertex Label α)
    (arc : Arc Vertex Label α) : (relax source base state arc).settled = state.settled := by
  unfold relax
  split <;> rfl

theorem foldl_relax_settled (source : Vertex) (base : α) (arcs : List (Arc Vertex Label α))
    (state : State Vertex Label α) :
    (arcs.foldl (relax source base) state).settled = state.settled := by
  induction arcs generalizing state with
  | nil => rfl
  | cons head rest inductionHypothesis =>
    rw [List.foldl_cons, inductionHypothesis, relax_settled]

theorem relax_heap_length (source : Vertex) (base : α) (state : State Vertex Label α)
    (arc : Arc Vertex Label α) :
    (relax source base state arc).heap.length ≤ state.heap.length + 1 := by
  unfold relax
  split
  · exact le_of_eq (List.length_cons ..)
  · exact Nat.le_succ _

theorem foldl_relax_heap_length (source : Vertex) (base : α) (arcs : List (Arc Vertex Label α))
    (state : State Vertex Label α) :
    (arcs.foldl (relax source base) state).heap.length ≤ state.heap.length + arcs.length := by
  induction arcs generalizing state with
  | nil => exact Nat.le_refl _
  | cons head rest inductionHypothesis =>
    have tail := inductionHypothesis (relax source base state head)
    have first := relax_heap_length source base state head
    rw [List.foldl_cons, List.length_cons]
    omega

/-- A known cost never rises. -/
theorem relax_dist_le (source : Vertex) (base : α) (state : State Vertex Label α)
    (arc : Arc Vertex Label α) {vertex : Vertex} {cost : α}
    (known : state.dist vertex = some cost) :
    ∃ cost' ≤ cost, (relax source base state arc).dist vertex = some cost' := by
  unfold relax
  split
  next improved =>
    by_cases same : vertex = arc.target
    · subst same
      rw [known] at improved
      exact ⟨_, (of_decide_eq_true improved.2).le, Function.update_self ..⟩
    · exact ⟨cost, le_refl _, by rw [← known]; exact Function.update_of_ne same ..⟩
  · exact ⟨cost, le_refl _, known⟩

theorem foldl_relax_dist_le (source : Vertex) (base : α) (arcs : List (Arc Vertex Label α))
    (state : State Vertex Label α) {vertex : Vertex} {cost : α}
    (known : state.dist vertex = some cost) :
    ∃ cost' ≤ cost, (arcs.foldl (relax source base) state).dist vertex = some cost' := by
  induction arcs generalizing state cost with
  | nil => exact ⟨cost, le_refl _, known⟩
  | cons head rest inductionHypothesis =>
    obtain ⟨middle, below, found⟩ := relax_dist_le source base state head known
    obtain ⟨final, below', found'⟩ := inductionHypothesis (relax source base state head) found
    exact ⟨final, below'.trans below, found'⟩

/-- A relaxation leaves the settled vertices alone. -/
theorem relax_dist_of_settled (source : Vertex) (base : α) (state : State Vertex Label α)
    (arc : Arc Vertex Label α) {vertex : Vertex} (settled : vertex ∈ state.settled) :
    (relax source base state arc).dist vertex = state.dist vertex := by
  unfold relax
  split
  next improved =>
    refine Function.update_of_ne (fun same => ?_) ..
    exact improved.1 (same ▸ settled)
  · rfl

theorem foldl_relax_dist_of_settled (source : Vertex) (base : α)
    (arcs : List (Arc Vertex Label α)) (state : State Vertex Label α) {vertex : Vertex}
    (settled : vertex ∈ state.settled) :
    (arcs.foldl (relax source base) state).dist vertex = state.dist vertex := by
  induction arcs generalizing state with
  | nil => rfl
  | cons head rest inductionHypothesis =>
    rw [List.foldl_cons, inductionHypothesis _ (by rw [relax_settled]; exact settled),
      relax_dist_of_settled source base state head settled]

/-- After a relaxation the arc's target is known at a cost not above the arc's, if the settled
vertices were. -/
theorem relax_reaches (source : Vertex) (base : α) (state : State Vertex Label α)
    (arc : Arc Vertex Label α)
    (settledBelow : arc.target ∈ state.settled →
      ∃ cost ≤ base + arc.cost, state.dist arc.target = some cost) :
    ∃ cost ≤ base + arc.cost, (relax source base state arc).dist arc.target = some cost := by
  unfold relax
  split
  · exact ⟨_, le_refl _, Function.update_self ..⟩
  next notImproved =>
    by_cases settled : arc.target ∈ state.settled
    · exact settledBelow settled
    · rcases known : state.dist arc.target with _ | cost
      · exact absurd ⟨settled, by rw [known]; rfl⟩ notImproved
      · refine ⟨cost, ?_, rfl⟩
        by_contra above
        exact notImproved ⟨settled, by
          rw [known]
          exact decide_eq_true (lt_of_not_ge above)⟩

theorem foldl_relax_reaches (source : Vertex) (base : α) (arcs : List (Arc Vertex Label α))
    (state : State Vertex Label α)
    (settledBelow : ∀ arc ∈ arcs, arc.target ∈ state.settled →
      ∃ cost ≤ base + arc.cost, state.dist arc.target = some cost) :
    ∀ arc ∈ arcs, ∃ cost ≤ base + arc.cost,
      (arcs.foldl (relax source base) state).dist arc.target = some cost := by
  induction arcs generalizing state with
  | nil => exact fun arc member => absurd member List.not_mem_nil
  | cons head rest inductionHypothesis =>
    intro arc member
    rw [List.foldl_cons]
    rcases List.mem_cons.mp member with rfl | inRest
    · obtain ⟨cost, below, found⟩ :=
        relax_reaches source base state arc (settledBelow arc List.mem_cons_self)
      obtain ⟨cost', below', found'⟩ := foldl_relax_dist_le source base rest _ found
      exact ⟨cost', below'.trans below, found'⟩
    · refine inductionHypothesis _ (fun other memberOther settled => ?_) arc inRest
      rw [relax_settled] at settled
      obtain ⟨cost, below, found⟩ :=
        settledBelow other (List.mem_cons_of_mem _ memberOther) settled
      exact ⟨cost, below, by
        rw [relax_dist_of_settled source base state head settled]; exact found⟩

/-- Arcs whose targets are known at least as cheaply change nothing. -/
theorem foldl_relax_eq_self (source : Vertex) (base : α) (arcs : List (Arc Vertex Label α))
    (state : State Vertex Label α)
    (known : ∀ arc ∈ arcs, ∃ cost ≤ base + arc.cost, state.dist arc.target = some cost) :
    arcs.foldl (relax source base) state = state := by
  induction arcs with
  | nil => rfl
  | cons head rest inductionHypothesis =>
    obtain ⟨cost, below, found⟩ := known head List.mem_cons_self
    have unchanged : relax source base state head = state := by
      unfold relax
      rw [found]
      exact if_neg fun improved => absurd (of_decide_eq_true improved.2) (not_lt.mpr below)
    rw [List.foldl_cons, unchanged]
    exact inductionHypothesis fun arc member => known arc (List.mem_cons_of_mem _ member)

/-! ### What the search keeps -/

section Invariant

variable (weight : Vertex → α) (arcs : Vertex → List (Arc Vertex Label α))
  (universe' : Finset Vertex) (start goal : Vertex) (remain : α)

/-- The back pointer of a vertex accounts for its cost. -/
inductive Explained (state : State Vertex Label α) (vertex : Vertex) (cost : α) : Prop
  | fromStart (arc : Arc Vertex Label α) (member : arc ∈ arcs start) (target : arc.target = vertex)
    (pointer : state.prev vertex = some (start, arc.label)) (total : cost = remain + arc.cost)
  | fromSettled (source : Vertex) (other : source ≠ start) (settled : source ∈ state.settled)
    (before : α) (known : state.dist source = some before) (arc : Arc Vertex Label α)
    (member : arc ∈ arcs source) (target : arc.target = vertex)
    (pointer : state.prev vertex = some (source, arc.label))
    (total : cost = before + weight source + arc.cost)

/-- The invariant of the search. -/
structure Invariant (state : State Vertex Label α) : Prop where
  inside : ∀ vertex cost, state.dist vertex = some cost → vertex ∈ universe'
  nonneg : ∀ vertex cost, state.dist vertex = some cost → 0 ≤ cost
  explained : ∀ vertex cost, state.dist vertex = some cost →
    Explained weight arcs start remain state vertex cost
  queued : ∀ vertex cost, state.dist vertex = some cost → vertex ∉ state.settled →
    (cost, vertex) ∈ state.heap
  bounded : ∀ cost vertex, (cost, vertex) ∈ state.heap →
    ∃ best ≤ cost, state.dist vertex = some best
  known : ∀ vertex ∈ state.settled, ∃ cost, state.dist vertex = some cost
  ordered : ∀ first ∈ state.settled, ∀ second ∉ state.settled, ∀ cost cost',
    state.dist first = some cost → state.dist second = some cost' → cost ≤ cost'
  goalOpen : goal ∉ state.settled

/-- The arcs of a vertex left at cost `base` are relaxed. -/
def Relaxed (source : Vertex) (base : α) (state : State Vertex Label α) : Prop :=
  ∀ arc ∈ arcs source, ∃ cost ≤ base + arc.cost, state.dist arc.target = some cost

/-- All arcs of the settled vertices are relaxed. -/
def SettledRelaxed (state : State Vertex Label α) : Prop :=
  ∀ vertex ∈ state.settled, ∀ cost, state.dist vertex = some cost →
    Relaxed arcs vertex (cost + weight vertex) state

/-- Where the base of a relaxation comes from: the start vertex is left at `remain`, and a settled
vertex other than the start at its cost and weight. -/
inductive Leaving (state : State Vertex Label α) : Vertex → α → Prop
  | start : Leaving state start remain
  | settled {source : Vertex} {cost : α} (other : source ≠ start)
    (member : source ∈ state.settled) (known : state.dist source = some cost) :
    Leaving state source (cost + weight source)

variable {weight arcs universe' start goal remain}
  {outgoing : Vertex → Except Error (α × List (Arc Vertex Label α))}
  {state : State Vertex Label α}

omit [LinearOrder Vertex] [LinearOrder α] in
/-- An explanation stays one while the settled vertices keep their costs and the vertex its back
pointer. -/
theorem Explained.mono {state' : State Vertex Label α} {vertex : Vertex} {cost : α}
    (explained : Explained weight arcs start remain state vertex cost)
    (same : ∀ source ∈ state.settled, state'.dist source = state.dist source)
    (subset : state.settled ⊆ state'.settled) (pointer' : state'.prev vertex = state.prev vertex) :
    Explained weight arcs start remain state' vertex cost := by
  cases explained with
  | fromStart arc member target pointer total =>
    exact Explained.fromStart arc member target (pointer'.trans pointer) total
  | fromSettled source other settled before known arc member target pointer total =>
    exact Explained.fromSettled source other (subset settled) before
      ((same source settled).trans known) arc member target (pointer'.trans pointer) total

omit [LinearOrder Vertex] [LinearOrder α] in
/-- An arc that is relaxed explains the cost of its target. -/
theorem Leaving.explained {source : Vertex} {base : α}
    (leaving : Leaving weight start remain state source base) {state' : State Vertex Label α}
    (same : ∀ vertex ∈ state.settled, state'.dist vertex = state.dist vertex)
    (subset : state.settled ⊆ state'.settled) {arc : Arc Vertex Label α}
    (member : arc ∈ arcs source) (pointer : state'.prev arc.target = some (source, arc.label)) :
    Explained weight arcs start remain state' arc.target (base + arc.cost) := by
  cases leaving with
  | start => exact Explained.fromStart arc member rfl pointer rfl
  | settled other settled known =>
    exact Explained.fromSettled source other (subset settled) _ ((same source settled).trans known)
      arc member rfl pointer rfl

theorem Leaving.relax {source : Vertex} {base : α} {other : Vertex} {base' : α}
    (leaving : Leaving weight start remain state source base) (arc : Arc Vertex Label α) :
    Leaving weight start remain (relax other base' state arc) source base := by
  cases leaving with
  | start => exact Leaving.start
  | settled different member known =>
    refine Leaving.settled different (by rw [relax_settled]; exact member) ?_
    rw [relax_dist_of_settled other base' state arc member]
    exact known

/-! ### Dropping and settling -/

/-- An entry that is settled or outdated may be dropped. -/
theorem Invariant.skip (invariant : Invariant weight arcs universe' start goal remain state)
    {cost : α} {vertex : Vertex} {heap : List (α × Vertex)}
    (popped : popMin state.heap = some ((cost, vertex), heap))
    (outdated : vertex ∈ state.settled ∨ ∃ best ∈ state.dist vertex, best < cost) :
    Invariant weight arcs universe' start goal remain { state with heap := heap } := by
  have perm := (popMin_spec popped).1
  refine ⟨invariant.inside, invariant.nonneg, ?_, ?_, ?_, invariant.known, invariant.ordered,
    invariant.goalOpen⟩
  · intro other best found
    exact (invariant.explained other best found).mono (fun _ _ => rfl) (Finset.Subset.refl _) rfl
  · intro other best found unsettled
    rcases List.mem_cons.mp (perm.subset (invariant.queued other best found unsettled)) with
      same | kept
    · cases same
      rcases outdated with settled | ⟨better, known, below⟩
      · exact absurd settled unsettled
      · rw [found] at known
        cases known
        exact absurd below (lt_irrefl _)
    · exact kept
  · intro best other queued
    exact invariant.bounded best other (perm.symm.subset (List.mem_cons_of_mem _ queued))

/-- The cost of a popped entry that is not outdated is the recorded one. -/
theorem Invariant.dist_popped
    (invariant : Invariant weight arcs universe' start goal remain state)
    {cost : α} {vertex : Vertex} {heap : List (α × Vertex)}
    (popped : popMin state.heap = some ((cost, vertex), heap))
    (current : ¬ ∃ best ∈ state.dist vertex, best < cost) : state.dist vertex = some cost := by
  obtain ⟨best, below, found⟩ := invariant.bounded cost vertex
    ((popMin_spec popped).1.symm.subset List.mem_cons_self)
  have same : best = cost := le_antisymm below (not_lt.mp fun less => current ⟨best, found, less⟩)
  exact same ▸ found

/-- A popped entry is not above any recorded cost of an open vertex. -/
theorem Invariant.popped_le
    (invariant : Invariant weight arcs universe' start goal remain state)
    {cost : α} {vertex : Vertex} {heap : List (α × Vertex)}
    (popped : popMin state.heap = some ((cost, vertex), heap)) {other : Vertex} {best : α}
    (unsettled : other ∉ state.settled) (found : state.dist other = some best) : cost ≤ best :=
  (popMin_spec popped).2 _ (invariant.queued other best found unsettled)

/-- Settling the popped vertex keeps the invariant. -/
theorem Invariant.settle (invariant : Invariant weight arcs universe' start goal remain state)
    {cost : α} {vertex : Vertex} {heap : List (α × Vertex)}
    (popped : popMin state.heap = some ((cost, vertex), heap))
    (open' : vertex ∉ state.settled) (found : state.dist vertex = some cost)
    (notGoal : vertex ≠ goal) :
    Invariant weight arcs universe' start goal remain
      { state with heap := heap, settled := insert vertex state.settled } := by
  have perm := (popMin_spec popped).1
  have openBefore : ∀ {other}, other ∉ insert vertex state.settled → other ∉ state.settled :=
    fun unsettled settled => unsettled (Finset.mem_insert_of_mem settled)
  refine ⟨invariant.inside, invariant.nonneg, ?_, ?_, ?_, ?_, ?_, ?_⟩
  · intro other best known
    exact (invariant.explained other best known).mono (fun _ _ => rfl)
      (Finset.subset_insert _ _) rfl
  · intro other best known unsettled
    rcases List.mem_cons.mp (perm.subset (invariant.queued other best known
      (openBefore unsettled))) with same | kept
    · cases same
      exact absurd (Finset.mem_insert_self _ _) unsettled
    · exact kept
  · intro best other queued
    exact invariant.bounded best other (perm.symm.subset (List.mem_cons_of_mem _ queued))
  · intro other settled
    rcases Finset.mem_insert.mp settled with rfl | old
    · exact ⟨cost, found⟩
    · exact invariant.known other old
  · intro first settled second unsettled best best' known known'
    rcases Finset.mem_insert.mp settled with rfl | old
    · rw [found] at known
      cases known
      exact invariant.popped_le popped (openBefore unsettled) known'
    · exact invariant.ordered first old second (openBefore unsettled) best best' known known'
  · intro settled
    rcases Finset.mem_insert.mp settled with same | old
    · exact notGoal same.symm
    · exact invariant.goalOpen old

/-- After settling a vertex no settled cost is above the vertex's. -/
theorem Invariant.settled_le (invariant : Invariant weight arcs universe' start goal remain state)
    {cost : α} {vertex : Vertex} (open' : vertex ∉ state.settled)
    (found : state.dist vertex = some cost) {other : Vertex}
    (settled : other ∈ insert vertex state.settled) {best : α}
    (known : state.dist other = some best) : best ≤ cost := by
  rcases Finset.mem_insert.mp settled with rfl | old
  · rw [found] at known
    cases known
    exact le_refl _
  · exact invariant.ordered other old vertex open' best cost known found

/-! ### Relaxing -/

variable [IsStrictOrderedRing α]

/-- Relaxing an arc of the start vertex or of a settled vertex keeps the invariant. -/
theorem Invariant.relax (network : Network weight arcs outgoing universe')
    (invariant : Invariant weight arcs universe' start goal remain state)
    {source : Vertex} {base : α} (leaving : Leaving weight start remain state source base)
    (inside : source ∈ universe') (nonneg : 0 ≤ base)
    (above : ∀ vertex ∈ state.settled, ∀ cost, state.dist vertex = some cost → cost ≤ base)
    {arc : Arc Vertex Label α} (member : arc ∈ arcs source) :
    Invariant weight arcs universe' start goal remain (relax source base state arc) := by
  have arcNonneg := network.cost_nonneg source inside arc member
  have settledSame : ∀ vertex ∈ state.settled,
      (ShortestPath.relax source base state arc).dist vertex = state.dist vertex :=
    fun vertex settled => relax_dist_of_settled source base state arc settled
  unfold ShortestPath.relax at settledSame ⊢
  split_ifs at settledSame ⊢ with improved
  swap
  · exact invariant
  have atTarget : ∀ {cost}, Function.update state.dist arc.target (some (base + arc.cost))
      arc.target = some cost → cost = base + arc.cost := by
    intro cost found
    rw [Function.update_self] at found
    exact (Option.some.inj found).symm
  have offTarget : ∀ {vertex cost}, vertex ≠ arc.target →
      Function.update state.dist arc.target (some (base + arc.cost)) vertex = some cost →
      state.dist vertex = some cost := by
    intro vertex cost different found
    rwa [Function.update_of_ne different] at found
  constructor
  · intro vertex cost found
    by_cases same : vertex = arc.target
    · exact same ▸ network.stays source inside arc member
    · exact invariant.inside vertex cost (offTarget same found)
  · intro vertex cost found
    by_cases same : vertex = arc.target
    · subst same
      rw [atTarget found]
      linarith
    · exact invariant.nonneg vertex cost (offTarget same found)
  · intro vertex cost found
    by_cases same : vertex = arc.target
    · subst same
      rw [atTarget found]
      exact leaving.explained settledSame (Finset.Subset.refl _) member (Function.update_self ..)
    · exact (invariant.explained vertex cost (offTarget same found)).mono settledSame
        (Finset.Subset.refl _) (Function.update_of_ne same ..)
  · intro vertex cost found unsettled
    by_cases same : vertex = arc.target
    · subst same
      rw [atTarget found]
      exact List.mem_cons_self
    · exact List.mem_cons_of_mem _ (invariant.queued vertex cost (offTarget same found) unsettled)
  · intro cost vertex queued
    rcases List.mem_cons.mp queued with fresh | old
    · cases fresh
      exact ⟨_, le_refl _, Function.update_self ..⟩
    · obtain ⟨best, below, found⟩ := invariant.bounded cost vertex old
      by_cases same : vertex = arc.target
      · subst same
        rw [found] at improved
        exact ⟨_, (of_decide_eq_true improved.2).le.trans below, Function.update_self ..⟩
      · exact ⟨best, below, (Function.update_of_ne same ..).trans found⟩
  · intro vertex settled
    obtain ⟨cost, found⟩ := invariant.known vertex settled
    exact ⟨cost, (settledSame vertex settled).trans found⟩
  · intro first settled second unsettled cost cost' found found'
    have foundBefore := (settledSame first settled).symm.trans found
    by_cases same : second = arc.target
    · subst same
      rw [atTarget found']
      have below := above first settled cost foundBefore
      linarith
    · exact invariant.ordered first settled second unsettled cost cost' foundBefore
        (offTarget same found')
  · exact invariant.goalOpen

theorem Invariant.foldl_relax (network : Network weight arcs outgoing universe')
    {source : Vertex} {base : α} (inside : source ∈ universe') (nonneg : 0 ≤ base)
    (list : List (Arc Vertex Label α)) (members : ∀ arc ∈ list, arc ∈ arcs source)
    (invariant : Invariant weight arcs universe' start goal remain state)
    (leaving : Leaving weight start remain state source base)
    (above : ∀ vertex ∈ state.settled, ∀ cost, state.dist vertex = some cost → cost ≤ base) :
    Invariant weight arcs universe' start goal remain
      (list.foldl (ShortestPath.relax source base) state) := by
  induction list generalizing state with
  | nil => exact invariant
  | cons head rest inductionHypothesis =>
    refine inductionHypothesis (fun arc inRest => members arc (List.mem_cons_of_mem _ inRest))
      (invariant.relax network leaving inside nonneg above (members head List.mem_cons_self))
      (leaving.relax head) fun vertex settled cost found => ?_
    rw [relax_settled] at settled
    rw [relax_dist_of_settled source base state head settled] at found
    exact above vertex settled cost found

/-! ### One round -/

/-- What a search keeps from round to round: the invariant, with the arcs of the start vertex and
of all settled vertices relaxed. -/
structure Searching (weight : Vertex → α) (arcs : Vertex → List (Arc Vertex Label α))
    (universe' : Finset Vertex) (start goal : Vertex) (remain : α)
    (state : State Vertex Label α) : Prop where
  invariant : Invariant weight arcs universe' start goal remain state
  seeded : Relaxed arcs start remain state
  relaxed : SettledRelaxed weight arcs state

/-- Settling the popped vertex and relaxing its arcs keeps the search going. -/
theorem Searching.settle (network : Network weight arcs outgoing universe')
    (searching : Searching weight arcs universe' start goal remain state)
    (partial' : remain ≤ weight start)
    {cost : α} {vertex : Vertex} {heap : List (α × Vertex)}
    (popped : popMin state.heap = some ((cost, vertex), heap))
    (open' : vertex ∉ state.settled) (found : state.dist vertex = some cost)
    (notGoal : vertex ≠ goal) :
    Searching weight arcs universe' start goal remain
      ((arcs vertex).foldl (relax vertex (cost + weight vertex))
        { state with heap := heap, settled := insert vertex state.settled }) := by
  have invariant := searching.invariant
  have inside := invariant.inside vertex cost found
  have costNonneg := invariant.nonneg vertex cost found
  have through := network.weight_pos vertex inside
  have settled := invariant.settle popped open' found notGoal
  have lower : ∀ {other best}, state.dist other = some best → ∃ best' ≤ best,
      ((arcs vertex).foldl (relax vertex (cost + weight vertex))
        { state with heap := heap, settled := insert vertex state.settled }).dist other =
          some best' :=
    fun known => foldl_relax_dist_le _ _ _ _ known
  have same : ∀ {other}, other ∈ insert vertex state.settled →
      ((arcs vertex).foldl (relax vertex (cost + weight vertex))
        { state with heap := heap, settled := insert vertex state.settled }).dist other =
          state.dist other :=
    fun member => foldl_relax_dist_of_settled _ _ _ _ member
  constructor
  · by_cases atStart : vertex = start
    · subst atStart
      rw [foldl_relax_eq_self]
      · exact settled
      · intro arc member
        obtain ⟨best, below, known⟩ := searching.seeded arc member
        exact ⟨best, by linarith, known⟩
    · refine settled.foldl_relax network inside (by linarith) (arcs vertex) (fun _ => id)
        (Leaving.settled atStart (Finset.mem_insert_self _ _) found) fun other member best known => ?_
      have below := invariant.settled_le open' found member known
      linarith
  · intro arc member
    obtain ⟨best, below, known⟩ := searching.seeded arc member
    obtain ⟨best', below', known'⟩ := lower known
    exact ⟨best', below'.trans below, known'⟩
  · intro other member best known arc arcMember
    rw [foldl_relax_settled] at member
    rw [same member] at known
    rcases Finset.mem_insert.mp member with rfl | old
    · rw [found] at known
      cases known
      refine foldl_relax_reaches other _ _ _ (fun arc' member' settled' => ?_) arc arcMember
      obtain ⟨best, known⟩ := settled.known _ settled'
      have below := invariant.settled_le open' found settled' known
      have nonneg := network.cost_nonneg other inside arc' member'
      exact ⟨best, by linarith, known⟩
    · obtain ⟨reach, below, known'⟩ := searching.relaxed other old best known arc arcMember
      obtain ⟨reach', below', known''⟩ := lower known'
      exact ⟨reach', below'.trans below, known''⟩

/-- Relaxing the arcs of the start vertex before the first round starts a search. -/
theorem Searching.seed (goal : Vertex) (network : Network weight arcs outgoing universe')
    (inside : start ∈ universe') (nonneg : 0 ≤ remain) :
    Searching weight arcs universe' start goal remain
      ((arcs start).foldl (relax start remain) State.initial) := by
  have initial : Invariant weight arcs universe' start goal remain
      (State.initial : State Vertex Label α) := by
    refine ⟨?_, ?_, ?_, ?_, ?_, ?_, ?_, Finset.notMem_empty goal⟩
    · exact fun vertex cost found => nomatch found
    · exact fun vertex cost found => nomatch found
    · exact fun vertex cost found => nomatch found
    · exact fun vertex cost found => nomatch found
    · exact fun cost vertex queued => absurd queued List.not_mem_nil
    · exact fun vertex settled => absurd settled (Finset.notMem_empty vertex)
    · exact fun first settled => absurd settled (Finset.notMem_empty first)
  refine ⟨initial.foldl_relax network inside nonneg (arcs start) (fun _ => id) Leaving.start
    fun vertex settled => absurd settled (Finset.notMem_empty vertex), ?_, ?_⟩
  · exact foldl_relax_reaches start remain (arcs start) State.initial
      fun arc _ settled => absurd settled (Finset.notMem_empty _)
  · intro vertex settled
    rw [foldl_relax_settled] at settled
    exact absurd settled (Finset.notMem_empty vertex)

/-! ### The whole search -/

/-- Every way leads through an open vertex recorded at no more than its cost, or to a settled
vertex. -/
theorem Searching.frontier (network : Network weight arcs outgoing universe')
    (searching : Searching weight arcs universe' start goal remain state)
    {source vertex : Vertex} {base cost : α} {legs : List (Vertex × Label)}
    (way : Way weight arcs source base legs vertex cost) (inside : source ∈ universe')
    (relaxed : Relaxed arcs source base state) :
    (∃ other ∉ state.settled, ∃ best ≤ cost, state.dist other = some best) ∨
      vertex ∈ state.settled := by
  induction way with
  | @leave source base arc member =>
    by_cases settled : arc.target ∈ state.settled
    · exact Or.inr settled
    · exact Or.inl ⟨arc.target, settled, relaxed arc member⟩
  | @pass source base arc legs vertex cost member ahead inductionHypothesis =>
    have target := network.stays _ inside arc member
    obtain ⟨best, below, known⟩ := relaxed arc member
    have through := network.weight_pos _ target
    have longer := ahead.base_le network target
    by_cases settled : arc.target ∈ state.settled
    · refine inductionHypothesis target fun next nextMember => ?_
      obtain ⟨reach, below', known'⟩ :=
        searching.relaxed arc.target settled best known next nextMember
      exact ⟨reach, by linarith, known'⟩
    · exact Or.inl ⟨arc.target, settled, best, by linarith, known⟩

/-- A bound on the rounds that are left: every round takes one entry out of the queue, and a round
that settles a vertex adds at most as many as the vertex has arcs. -/
def roundsLeft (arcs : Vertex → List (Arc Vertex Label α)) (universe' : Finset Vertex)
    (state : State Vertex Label α) : ℕ :=
  state.heap.length + ∑ vertex ∈ universe' \ state.settled, (arcs vertex).length

omit [Field α] [IsStrictOrderedRing α] in
theorem roundsLeft_skip (arcs : Vertex → List (Arc Vertex Label α)) (universe' : Finset Vertex)
    {popped : α × Vertex} {heap : List (α × Vertex)}
    (pop : popMin state.heap = some (popped, heap)) :
    roundsLeft arcs universe' { state with heap := heap } + 1 =
      roundsLeft arcs universe' state := by
  have size := (popMin_spec pop).1.length_eq
  simp only [roundsLeft, size, List.length_cons]
  omega

omit [IsStrictOrderedRing α] in
theorem roundsLeft_settle (arcs : Vertex → List (Arc Vertex Label α)) {cost : α} (base : α)
    {vertex : Vertex} {heap : List (α × Vertex)}
    (pop : popMin state.heap = some ((cost, vertex), heap)) (open' : vertex ∉ state.settled)
    (inside : vertex ∈ universe') :
    roundsLeft arcs universe' ((arcs vertex).foldl (relax vertex base)
      { state with heap := heap, settled := insert vertex state.settled }) + 1 ≤
        roundsLeft arcs universe' state := by
  have size := (popMin_spec pop).1.length_eq
  have pushed := foldl_relax_heap_length vertex base (arcs vertex)
    { state with heap := heap, settled := insert vertex state.settled }
  have member : vertex ∈ universe' \ state.settled := Finset.mem_sdiff.mpr ⟨inside, open'⟩
  have taken := Finset.add_sum_erase _ (fun vertex => (arcs vertex).length) member
  rw [← Finset.sdiff_insert] at taken
  simp only [roundsLeft, foldl_relax_settled]
  simp only [List.length_cons] at size
  dsimp only at pushed
  omega

/-- With enough rounds the search finds the goal whenever there is a way to it, at the cost of a
cheapest way. -/
theorem search_spec (unfinished : Error) (network : Network weight arcs outgoing universe')
    (inside : start ∈ universe') (partial' : remain ≤ weight start)
    (reachable : ∃ legs cost, Way weight arcs start remain legs goal cost) (rounds : ℕ)
    (searching : Searching weight arcs universe' start goal remain state)
    (enough : roundsLeft arcs universe' state ≤ rounds) :
    ∃ cost final, search unfinished outgoing goal rounds state = .ok (some (cost, final)) ∧
      Invariant weight arcs universe' start goal remain final ∧ final.dist goal = some cost ∧
      ∀ legs cost', Way weight arcs start remain legs goal cost' → cost ≤ cost' := by
  have nonempty : ∀ {state : State Vertex Label α},
      Searching weight arcs universe' start goal remain state → state.heap ≠ [] := by
    intro state searching empty
    obtain ⟨legs, cost, way⟩ := reachable
    rcases searching.frontier network way inside searching.seeded with
      ⟨other, unsettled, best, _, known⟩ | settled
    · have queued := searching.invariant.queued other best known unsettled
      rw [empty] at queued
      exact List.not_mem_nil queued
    · exact searching.invariant.goalOpen settled
  induction rounds generalizing state with
  | zero =>
    have size : state.heap.length = 0 := by
      simp only [roundsLeft] at enough
      omega
    exact absurd (List.length_eq_zero_iff.mp size) (nonempty searching)
  | succ rounds inductionHypothesis =>
    have invariant := searching.invariant
    rw [search]
    rcases pop : popMin state.heap with _ | ⟨⟨cost, vertex⟩, heap⟩
    · exact absurd (popMin_eq_none pop) (nonempty searching)
    dsimp only
    split_ifs with outdated atGoal
    · refine inductionHypothesis
        ⟨invariant.skip pop outdated, searching.seeded, searching.relaxed⟩ ?_
      have left := roundsLeft_skip arcs universe' pop
      omega
    · subst atGoal
      rw [not_or] at outdated
      refine ⟨cost, state, rfl, invariant, invariant.dist_popped pop outdated.2,
        fun legs cost' way => ?_⟩
      rcases searching.frontier network way inside searching.seeded with
        ⟨other, unsettled, best, below, known⟩ | settled
      · exact (invariant.popped_le pop unsettled known).trans below
      · exact absurd settled outdated.1
    · rw [not_or] at outdated
      have found := invariant.dist_popped pop outdated.2
      have insideVertex := invariant.inside vertex cost found
      rw [network.answers vertex insideVertex]
      refine inductionHypothesis
        (searching.settle network partial' pop outdated.1 found atGoal) ?_
      have left := roundsLeft_settle arcs (cost + weight vertex) pop outdated.1 insideVertex
      omega

/-! ### The way back -/

/-- The settled vertices that are cheaper to enter than `cost`. -/
def cheaper (state : State Vertex Label α) (cost : α) : Finset Vertex :=
  state.settled.filter fun vertex => ∃ best ∈ state.dist vertex, best < cost

omit [LinearOrder Vertex] [Field α] [IsStrictOrderedRing α] in
theorem cheaper_ssubset {vertex : Vertex} {best cost : α} (settled : vertex ∈ state.settled)
    (known : state.dist vertex = some best) (below : best < cost) :
    cheaper state best ⊂ cheaper state cost := by
  refine Finset.ssubset_iff_subset_ne.mpr ⟨fun other member => ?_, fun same => ?_⟩
  · obtain ⟨otherSettled, best', known', below'⟩ := Finset.mem_filter.mp member
    exact Finset.mem_filter.mpr ⟨otherSettled, best', known', below'.trans below⟩
  · have member : vertex ∈ cheaper state cost :=
      Finset.mem_filter.mpr ⟨settled, best, known, below⟩
    rw [← same] at member
    obtain ⟨_, best', known', below'⟩ := Finset.mem_filter.mp member
    rw [known] at known'
    cases known'
    exact lt_irrefl _ below'

/-- The back pointers lead along a way that costs what is recorded and enters the vertex once. -/
theorem walkBack_spec (unfinished : Error) (missing : Vertex → Error)
    (network : Network weight arcs outgoing universe')
    (invariant : Invariant weight arcs universe' start goal remain state) (rounds : ℕ)
    {vertex : Vertex} {cost : α} (found : state.dist vertex = some cost)
    (enough : (cheaper state cost).card < rounds) (chain : List (Vertex × Label)) :
    ∃ inner label, walkBack unfinished missing state.prev start rounds vertex chain =
        .ok (inner ++ (vertex, label) :: chain) ∧
      Way weight arcs start remain (inner ++ [(vertex, label)]) vertex cost ∧
      ∀ leg ∈ inner, ∃ best < cost, state.dist leg.1 = some best := by
  induction rounds generalizing vertex cost chain with
  | zero => exact absurd enough (Nat.not_lt_zero _)
  | succ rounds inductionHypothesis =>
    cases invariant.explained vertex cost found with
    | fromStart arc member target pointer total =>
      refine ⟨[], arc.label, ?_, ?_, fun leg inNil => absurd inNil List.not_mem_nil⟩
      · rw [walkBack, pointer]
        exact if_pos rfl
      · subst target total
        exact Way.leave member
    | fromSettled source different settled before known arc member target pointer total =>
      have insideSource := invariant.inside source before known
      have through := network.weight_pos source insideSource
      have nonneg := network.cost_nonneg source insideSource arc member
      have below : before < cost := by linarith
      have fewer := Finset.card_lt_card (cheaper_ssubset settled known below)
      obtain ⟨inner, label, run, way, least⟩ :=
        inductionHypothesis known (by omega) ((vertex, arc.label) :: chain)
      refine ⟨inner ++ [(source, label)], arc.label, ?_, ?_, fun leg member' => ?_⟩
      · rw [walkBack, pointer]
        dsimp only
        rw [if_neg different, run, List.append_assoc]
        rfl
      · subst target total
        exact way.extend member
      · rcases List.mem_append.mp member' with inInner | last
        · obtain ⟨best, below', known'⟩ := least leg inInner
          exact ⟨best, below'.trans below, known'⟩
        · rw [List.mem_singleton.mp last]
          exact ⟨before, below, known⟩

end Invariant

/-! ### Shifted costs -/

/-- An entry of the queue at a shifted cost. -/
def shiftEntry (offset : α) (entry : α × Vertex) : α × Vertex := (entry.1 + offset, entry.2)

/-- The state with all costs shifted. -/
def State.shift (offset : α) (state : State Vertex Label α) : State Vertex Label α where
  dist vertex := (state.dist vertex).map (· + offset)
  prev := state.prev
  heap := state.heap.map (shiftEntry offset)
  settled := state.settled

section Shift

variable [IsStrictOrderedRing α] (offset : α)

omit [LinearOrder Vertex] in
theorem improves_shift (old : Option α) (candidate : α) :
    improves (old.map (· + offset)) (candidate + offset) = improves old candidate := by
  cases old with
  | none => rfl
  | some cost => exact decide_eq_decide.mpr (add_lt_add_iff_right offset)

theorem entryBefore_shift (first second : α × Vertex) :
    entryBefore (shiftEntry offset first) (shiftEntry offset second) =
      entryBefore first second := by
  refine decide_eq_decide.mpr (or_congr (add_lt_add_iff_right offset) (and_congr ?_ Iff.rfl))
  exact add_left_inj offset

theorem popMin_shift (heap : List (α × Vertex)) :
    popMin (heap.map (shiftEntry offset)) =
      (popMin heap).map fun popped =>
        (shiftEntry offset popped.1, popped.2.map (shiftEntry offset)) := by
  induction heap with
  | nil => rfl
  | cons entry rest inductionHypothesis =>
    rw [List.map_cons, popMin, popMin, inductionHypothesis]
    cases popMin rest with
    | none => rfl
    | some popped =>
      dsimp only [Option.map_some]
      rw [entryBefore_shift]
      split <;> rfl

theorem relax_shift (source : Vertex) (base : α) (state : State Vertex Label α)
    (arc : Arc Vertex Label α) :
    relax source (base + offset) (state.shift offset) arc =
      (relax source base state arc).shift offset := by
  have moved : base + offset + arc.cost = base + arc.cost + offset := add_right_comm ..
  have improved : improves ((state.shift offset).dist arc.target) (base + offset + arc.cost) =
      improves (state.dist arc.target) (base + arc.cost) := by
    rw [moved]
    exact improves_shift offset _ _
  unfold relax
  rw [improved, moved]
  by_cases better : arc.target ∉ state.settled ∧
      improves (state.dist arc.target) (base + arc.cost) = true
  · rw [if_pos better]
    refine (if_pos better).trans ?_
    unfold State.shift
    congr 1
    funext vertex
    dsimp only
    by_cases same : vertex = arc.target
    · subst same
      rw [Function.update_self, Function.update_self]
      rfl
    · rw [Function.update_of_ne same, Function.update_of_ne same]
  · rw [if_neg better]
    exact if_neg better

theorem foldl_relax_shift (source : Vertex) (base : α) (arcs : List (Arc Vertex Label α))
    (state : State Vertex Label α) :
    arcs.foldl (relax source (base + offset)) (state.shift offset) =
      (arcs.foldl (relax source base) state).shift offset := by
  induction arcs generalizing state with
  | nil => rfl
  | cons head rest inductionHypothesis =>
    rw [List.foldl_cons, relax_shift, inductionHypothesis, List.foldl_cons]

omit [IsStrictOrderedRing α] [LinearOrder α] [LinearOrder Vertex] in
theorem State.initial_shift : (State.initial : State Vertex Label α).shift offset = .initial := rfl

/-- A search from shifted costs makes the same decisions: only the cost it returns is shifted. -/
theorem search_shift (unfinished : Error)
    (outgoing : Vertex → Except Error (α × List (Arc Vertex Label α))) (goal : Vertex) (rounds : ℕ)
    (state : State Vertex Label α) :
    search unfinished outgoing goal rounds (state.shift offset) =
      (search unfinished outgoing goal rounds state).map
        (Option.map fun found => (found.1 + offset, found.2.shift offset)) := by
  induction rounds generalizing state with
  | zero =>
    rw [search, search]
    have same : (state.shift offset).heap.isEmpty = state.heap.isEmpty := List.isEmpty_map
    rw [same]
    split <;> rfl
  | succ rounds inductionHypothesis =>
    rw [search, search]
    have popped : popMin (state.shift offset).heap = _ := popMin_shift offset state.heap
    rw [popped]
    cases popMin state.heap with
    | none => rfl
    | some popped =>
      obtain ⟨⟨cost, vertex⟩, heap⟩ := popped
      dsimp only [Option.map_some, shiftEntry]
      have outdated : (∃ best ∈ (state.shift offset).dist vertex, best < cost + offset) ↔
          ∃ best ∈ state.dist vertex, best < cost := by
        unfold State.shift
        dsimp only
        cases state.dist vertex with
        | none => simp
        | some best => simp
      have sameSettled : (state.shift offset).settled = state.settled := rfl
      rw [sameSettled]
      simp only [outdated]
      split
      · exact inductionHypothesis { state with heap := heap }
      · split
        · rfl
        · cases outgoing vertex with
          | error error => rfl
          | ok answer =>
            dsimp only
            rw [add_right_comm]
            have onward := foldl_relax_shift offset vertex (cost + answer.1) answer.2
              { state with heap := heap, settled := insert vertex state.settled }
            refine (congrArg (search unfinished outgoing goal rounds) onward).trans ?_
            exact inductionHypothesis _

omit [LinearOrder Vertex] [LinearOrder α] [IsStrictOrderedRing α] in
/-- A way from a shifted base costs as much more. -/
theorem Way.shift {weight : Vertex → α} {arcs : Vertex → List (Arc Vertex Label α)}
    {source vertex : Vertex} {base cost : α} {legs : List (Vertex × Label)}
    (way : Way weight arcs source base legs vertex cost) :
    Way weight arcs source (base + offset) legs vertex (cost + offset) := by
  induction way with
  | leave member =>
    rw [add_right_comm]
    exact Way.leave member
  | pass member _ inductionHypothesis =>
    refine Way.pass member ?_
    rw [add_right_comm _ offset, add_right_comm _ offset]
    exact inductionHypothesis

end Shift

end ShortestPath

end RcTaxi
