/-
This file is a library about deterministic runs: a step function is applied to a list of labels, a
property kept by every step holds at the end of every run, and a property kept by the steps that
meet a condition holds at the end of every run all of whose steps meet it. What is observed of a run
is observed at moments of it, one after the other. A second part is about the logs of runs, which
grow at the end. A third part gives sequential programs whose calls are the
atomic steps of a thread: run as a whole a program threads a state through its calls, stepped it
makes one call at a time, and a call that raises ends it. Among other threads a program is judged by
a contract about what these may change between two of its calls.
-/

import Mathlib.Data.List.Forall2
import Mathlib.Logic.Relation
import Mathlib.Order.Basic

namespace RcTaxi

namespace Transition

variable {State Label : Type}

/-- The state after a list of labels. -/
def run (step : State → Label → State) (start : State) (labels : List Label) : State :=
  labels.foldl step start

@[simp] theorem run_nil (step : State → Label → State) (start : State) : run step start [] = start :=
  rfl

@[simp] theorem run_cons (step : State → Label → State) (start : State) (label : Label)
    (labels : List Label) :
    run step start (label :: labels) = run step (step start label) labels := rfl

theorem run_append (step : State → Label → State) (start : State) (first second : List Label) :
    run step start (first ++ second) = run step (run step start first) second :=
  List.foldl_append

theorem run_concat (step : State → Label → State) (start : State) (labels : List Label)
    (label : Label) :
    run step start (labels ++ [label]) = step (run step start labels) label := by
  rw [run_append]
  rfl

/-- A state some run leads to. -/
def Reachable (step : State → Label → State) (start state : State) : Prop :=
  ∃ labels, run step start labels = state

/-- The condition holds before every step of the run. -/
def Along (step : State → Label → State) (condition : State → Label → Prop) :
    State → List Label → Prop
  | _, [] => True
  | state, label :: labels => condition state label ∧ Along step condition (step state label) labels

/-- Whether a condition holds along a run can be decided where the condition can. -/
instance decidableAlong (step : State → Label → State) (condition : State → Label → Prop)
    [decidable : ∀ state label, Decidable (condition state label)] :
    ∀ state labels, Decidable (Along step condition state labels)
  | _, [] => isTrue trivial
  | state, label :: labels =>
    have := decidableAlong step condition (step state label) labels
    inferInstanceAs (Decidable (condition state label ∧ Along step condition (step state label) labels))

variable {step : State → Label → State}

/-- What every step keeps, every run keeps. -/
theorem run_invariant {holds : State → Prop}
    (kept : ∀ state label, holds state → holds (step state label)) {start : State}
    (initially : holds start) (labels : List Label) : holds (run step start labels) := by
  induction labels generalizing start with
  | nil => exact initially
  | cons label labels inductionHypothesis => exact inductionHypothesis (kept start label initially)

/-- What every step under the condition keeps, every run under the condition keeps. -/
theorem run_invariant_along {condition : State → Label → Prop} {holds : State → Prop}
    (kept : ∀ state label, condition state label → holds state → holds (step state label))
    {start : State} (initially : holds start) {labels : List Label}
    (along : Along step condition start labels) : holds (run step start labels) := by
  induction labels generalizing start with
  | nil => exact initially
  | cons label labels inductionHypothesis =>
    exact inductionHypothesis (kept start label along.1 initially) along.2

/-- A condition that always holds, holds along every run. -/
theorem along_of_forall {condition : State → Label → Prop}
    (always : ∀ state label, condition state label) (start : State) (labels : List Label) :
    Along step condition start labels := by
  induction labels generalizing start with
  | nil => exact trivial
  | cons label labels inductionHypothesis => exact ⟨always start label, inductionHypothesis _⟩

/-- Conditions that agree on every step from the states that runs keep to agree along every run. -/
theorem along_congr_of_kept {condition other : State → Label → Prop} {holds : State → Prop}
    (kept : ∀ state label, holds state → holds (step state label))
    (same : ∀ state label, holds state → (condition state label ↔ other state label))
    {start : State} (initially : holds start) (labels : List Label) :
    Along step condition start labels ↔ Along step other start labels := by
  induction labels generalizing start with
  | nil => exact Iff.rfl
  | cons label labels inductionHypothesis =>
    exact and_congr (same start label initially) (inductionHypothesis (kept start label initially))

/-- Conditions that agree on every step agree along every run. -/
theorem along_congr {condition other : State → Label → Prop}
    (same : ∀ state label, condition state label ↔ other state label) (start : State)
    (labels : List Label) :
    Along step condition start labels ↔ Along step other start labels :=
  @along_congr_of_kept _ _ step condition other (fun _ => True) (fun _ _ kept => kept)
    (fun state label _ => same state label) start True.intro labels

/-- If a step keeps a property exactly under a condition, as long as something else is kept beside it,
then the property holds in every state of a run exactly if the condition holds along it. -/
theorem always_iff_along_of_kept {condition : State → Label → Prop} {holds beside : State → Prop}
    (kept : ∀ state label, beside state → holds state → beside (step state label))
    (exact : ∀ state label, beside state → holds state →
      (holds (step state label) ↔ condition state label))
    {start : State} (first : beside start) (initially : holds start) (labels : List Label) :
    (∀ earlier later, labels = earlier ++ later → holds (run step start earlier)) ↔
      Along step condition start labels := by
  induction labels generalizing start with
  | nil =>
    refine ⟨fun _ => trivial, fun _ earlier later split => ?_⟩
    rw [(List.append_eq_nil_iff.mp split.symm).1]
    exact initially
  | cons label labels inductionHypothesis =>
    have onward := kept start label first initially
    constructor
    · intro always
      have next : holds (step start label) := always [label] labels rfl
      refine ⟨(exact start label first initially).mp next,
        (inductionHypothesis onward next).mp ?_⟩
      intro earlier later split
      exact always (label :: earlier) later (by rw [split, List.cons_append])
    · intro along earlier later split
      have next := (exact start label first initially).mpr along.1
      cases earlier with
      | nil => exact initially
      | cons head rest =>
        rw [List.cons_append, List.cons.injEq] at split
        obtain ⟨rfl, split⟩ := split
        exact (inductionHypothesis onward next).mpr along.2 rest later split

/-- If a step keeps a property exactly under a condition, then the property holds in every state of
a run exactly if the condition holds along it. -/
theorem always_iff_along {condition : State → Label → Prop} {holds : State → Prop}
    (exact : ∀ state label, holds state → (holds (step state label) ↔ condition state label))
    {start : State} (initially : holds start) (labels : List Label) :
    (∀ earlier later, labels = earlier ++ later → holds (run step start earlier)) ↔
      Along step condition start labels :=
  @always_iff_along_of_kept _ _ step condition holds (fun _ => True) (fun _ _ kept _ => kept)
    (fun state label _ => exact state label) start trivial initially labels

/-- Two step functions that agree exactly under a condition, on the states that one of them keeps
to, have the same run exactly if the condition holds along it. -/
theorem same_run_iff_along {other : State → Label → State} {condition : State → Label → Prop}
    {holds : State → Prop} (kept : ∀ state label, holds state → holds (other state label))
    (exact : ∀ state label, holds state → (step state label = other state label ↔
      condition state label))
    {start : State} (initially : holds start) (labels : List Label) :
    (∀ earlier later, labels = earlier ++ later → run step start earlier = run other start earlier) ↔
      Along step condition start labels := by
  induction labels generalizing start with
  | nil =>
    refine ⟨fun _ => trivial, fun _ earlier later split => ?_⟩
    rw [(List.append_eq_nil_iff.mp split.symm).1]
    rfl
  | cons label labels inductionHypothesis =>
    constructor
    · intro always
      have first : step start label = other start label := always [label] labels rfl
      have next : holds (step start label) := first ▸ kept start label initially
      refine ⟨(exact start label initially).mp first, (inductionHypothesis next).mp ?_⟩
      intro earlier later split
      have same := always (label :: earlier) later (by rw [split, List.cons_append])
      rw [run_cons, run_cons, ← first] at same
      exact same
    · intro along earlier later split
      have first := (exact start label initially).mpr along.1
      have next : holds (step start label) := first ▸ kept start label initially
      cases earlier with
      | nil => rfl
      | cons found rest =>
        rw [List.cons_append, List.cons.injEq] at split
        obtain ⟨rfl, split⟩ := split
        rw [run_cons, run_cons, ← first]
        exact (inductionHypothesis next).mpr along.2 rest later split

/-- A condition along a run is one on every step of it. -/
theorem along_iff_forall {condition : State → Label → Prop} {start : State} {labels : List Label} :
    Along step condition start labels ↔ ∀ earlier label later,
      labels = earlier ++ label :: later → condition (run step start earlier) label := by
  induction labels generalizing start with
  | nil =>
    refine iff_of_true trivial fun earlier label later split => ?_
    exact absurd split.symm (List.append_ne_nil_of_right_ne_nil _ (List.cons_ne_nil _ _))
  | cons head rest inductionHypothesis =>
    refine (and_congr_right fun _ => inductionHypothesis).trans ⟨?_, fun every => ⟨?_, ?_⟩⟩
    · rintro ⟨first, others⟩ earlier label later split
      cases earlier with
      | nil =>
        obtain ⟨rfl, -⟩ := List.cons.inj split
        exact first
      | cons found earlier =>
        rw [List.cons_append, List.cons.injEq] at split
        obtain ⟨rfl, split⟩ := split
        exact others earlier label later split
    · exact every [] head rest rfl
    · intro earlier label later split
      exact every (head :: earlier) label later (congrArg (head :: ·) split)

/-- A condition along a run is one along its beginning and one along its rest. -/
theorem along_append {condition : State → Label → Prop} {start : State}
    {first second : List Label} :
    Along step condition start (first ++ second) ↔
      Along step condition start first ∧ Along step condition (run step start first) second := by
  induction first generalizing start with
  | nil => exact (iff_of_eq (true_and _)).symm
  | cons label rest inductionHypothesis =>
    exact (and_congr_right fun _ => inductionHypothesis).trans and_assoc.symm

/-- A condition along a run and one step more. -/
theorem along_concat {condition : State → Label → Prop} {start : State} {labels : List Label}
    {label : Label} (along : Along step condition start (labels ++ [label])) :
    Along step condition start labels ∧ condition (run step start labels) label :=
  (along_append.mp along).imp_right And.left

/-! ### Timed runs -/

/-- In a run of timed steps, the property holds in every state the run is in at a moment later than
the given one: a state lasts from its step to the next. -/
def HoldsSince {Time : Type} [LT Time] (step : State → Label → State) (time : Label → Time)
    (holds : State → Prop) (start : State) (labels : List Label) (since : Time) : Prop :=
  ∀ earlier later, labels = earlier ++ later → (∀ label ∈ later, since < time label) →
    holds (run step start earlier)

section HoldsSince

variable {Time : Type} [Preorder Time] {time : Label → Time} {holds : State → Prop} {start : State}
  {labels : List Label} {label : Label} {since : Time}

/-- Since a later moment there are fewer states. -/
theorem HoldsSince.mono {later : Time} (held : HoldsSince step time holds start labels since)
    (after : since ≤ later) : HoldsSince step time holds start labels later :=
  fun earlier rest split beyond =>
    held earlier rest split fun label member => after.trans_lt (beyond label member)

/-- A run with one more step is cut behind that step, or before it. -/
theorem cut_concat {earlier later : List Label} (split : labels ++ [label] = earlier ++ later) :
    later = [] ∧ earlier = labels ++ [label] ∨
      ∃ rest, later = rest ++ [label] ∧ labels = earlier ++ rest := by
  rcases List.eq_nil_or_concat' later with rfl | ⟨rest, final, rfl⟩
  · rw [List.append_nil] at split
    exact .inl ⟨rfl, split.symm⟩
  · rw [← List.append_assoc] at split
    obtain ⟨before, same⟩ := List.append_inj' split rfl
    exact .inr ⟨rest, congrArg (rest ++ ·) same.symm, before⟩

/-- The state behind a step is a further one. -/
theorem HoldsSince.concat (held : HoldsSince step time holds start labels since)
    (last : holds (run step start (labels ++ [label]))) :
    HoldsSince step time holds start (labels ++ [label]) since := by
  intro earlier later split beyond
  rcases cut_concat split with ⟨-, rfl⟩ | ⟨rest, rfl, before⟩
  · exact last
  · exact held earlier rest before fun label member =>
      beyond label (List.mem_append_left _ member)

/-- Since the time of the last step there is the last state only. -/
theorem HoldsSince.begin (last : holds (run step start (labels ++ [label]))) :
    HoldsSince step time holds start (labels ++ [label]) (time label) := by
  intro earlier later split beyond
  rcases cut_concat split with ⟨-, rfl⟩ | ⟨rest, rfl, -⟩
  · exact last
  · exact absurd (beyond label (List.mem_append_right _ List.mem_cons_self)) (lt_irrefl _)

end HoldsSince

/-! ### Reachable states -/

theorem Reachable.refl (start : State) : Reachable step start start := ⟨[], rfl⟩

theorem Reachable.after {start state : State} (reachable : Reachable step start state)
    (label : Label) : Reachable step start (step state label) := by
  obtain ⟨labels, rfl⟩ := reachable
  exact ⟨labels ++ [label], run_concat step start labels label⟩

/-- An invariant holds in every reachable state. -/
theorem Reachable.invariant {holds : State → Prop}
    (kept : ∀ state label, holds state → holds (step state label)) {start state : State}
    (initially : holds start) (reachable : Reachable step start state) : holds state := by
  obtain ⟨labels, rfl⟩ := reachable
  exact run_invariant kept initially labels

/-! ### Observations -/

/-- The observations were made at moments of a run, one after the other; `saw` says what is observed
at a moment, which is the part of the run up to it. -/
def Sampled {Seen : Type} (saw : List Label → Seen → Prop) (labels : List Label)
    (seen : List Seen) : Prop :=
  ∃ moments : List (List Label), moments.Pairwise (· <+: ·) ∧
    (∀ moment ∈ moments, moment <+: labels) ∧ List.Forall₂ saw moments seen

section Sampled

variable {Seen : Type} {saw : List Label → Seen → Prop} {labels : List Label} {seen : List Seen}

theorem Sampled.nil (labels : List Label) : Sampled saw labels [] :=
  ⟨[], .nil, fun _ absent => absurd absent List.not_mem_nil, .nil⟩

/-- The run goes on. -/
theorem Sampled.onward (sampled : Sampled saw labels seen) (label : Label) :
    Sampled saw (labels ++ [label]) seen := by
  obtain ⟨moments, ordered, earlier, observed⟩ := sampled
  exact ⟨moments, ordered, fun moment member =>
    (earlier moment member).trans (List.prefix_append _ _), observed⟩

/-- An observation is made now. -/
theorem Sampled.observe (sampled : Sampled saw labels seen) {observation : Seen}
    (present : saw labels observation) : Sampled saw labels (seen ++ [observation]) := by
  obtain ⟨moments, ordered, earlier, observed⟩ := sampled
  refine ⟨moments ++ [labels], ?_, fun moment member => ?_, ?_⟩
  · refine List.pairwise_append.mpr ⟨ordered, List.pairwise_singleton _ _, ?_⟩
    intro moment member last isLast
    rw [List.mem_singleton.mp isLast]
    exact earlier moment member
  · rcases List.mem_append.mp member with before | last
    · exact earlier moment before
    · obtain rfl := List.mem_singleton.mp last
      exact List.prefix_refl _
  · exact List.rel_append observed (.cons present .nil)

/-- Observations may be lost. -/
theorem Sampled.sublist (sampled : Sampled saw labels seen) {fewer : List Seen}
    (among : fewer.Sublist seen) : Sampled saw labels fewer := by
  obtain ⟨moments, ordered, earlier, observed⟩ := sampled
  obtain ⟨left, part, kept⟩ : ∃ left, List.Sublist left moments ∧ List.Forall₂ saw left fewer := by
    clear ordered earlier
    induction among generalizing moments with
    | slnil => exact ⟨[], List.nil_sublist _, .nil⟩
    | cons observation among inductionHypothesis =>
      cases observed with
      | cons first rest =>
        obtain ⟨left, part, kept⟩ := inductionHypothesis _ rest
        exact ⟨left, part.cons _, kept⟩
    | cons_cons observation among inductionHypothesis =>
      cases observed with
      | cons first rest =>
        obtain ⟨left, part, kept⟩ := inductionHypothesis _ rest
        exact ⟨_ :: left, part.cons_cons _, .cons first kept⟩
  exact ⟨left, ordered.sublist part, fun moment member => earlier moment (part.subset member), kept⟩

end Sampled

end Transition

/-! ### Logs -/

/-- Every event of a log stands behind what it should stand behind. -/
def EveryEvent {Event : Type} (holds : List Event → Event → Prop) (log : List Event) : Prop :=
  ∀ before event after, log = before ++ event :: after → holds before event

section EveryEvent

variable {Event : Type} {holds : List Event → Event → Prop} {log : List Event}

theorem everyEvent_nil : EveryEvent holds [] := fun _ _ _ split =>
  absurd split.symm (List.append_ne_nil_of_right_ne_nil _ (List.cons_ne_nil _ _))

theorem EveryEvent.append (every : EveryEvent holds log) {event : Event}
    (last : holds log event) : EveryEvent holds (log ++ [event]) := by
  intro before found after split
  rcases List.eq_nil_or_concat after with rfl | ⟨rest, final, rfl⟩
  · obtain ⟨rfl, same⟩ := List.append_inj' split rfl
    cases same
    exact last
  · rw [List.concat_eq_append, ← List.cons_append, ← List.append_assoc] at split
    obtain ⟨rfl, -⟩ := List.append_inj' split rfl
    exact every _ _ _ rfl

end EveryEvent

/-! ### Programs -/

/-- A sequential program: its result, or a call and what follows on the answer. -/
inductive Program (Op : Type) (Answer : Op → Type) (Result : Type) : Type
  | done (result : Result)
  | call (op : Op) (next : Answer op → Program Op Answer Result)

namespace Program

variable {Op : Type} {Answer : Op → Type} {Result Next State : Type}

/-- Continue with the result of a program. -/
def bind (program : Program Op Answer Result) (continuation : Result → Program Op Answer Next) :
    Program Op Answer Next :=
  match program with
  | .done result => continuation result
  | .call op next => .call op fun answer => (next answer).bind continuation

/-- One call, for its answer. -/
def ask (op : Op) : Program Op Answer (Answer op) := .call op .done

/-- The whole program: every call is answered by the handler, which may change the state. -/
def run (handle : (op : Op) → State → Answer op × State) :
    Program Op Answer Result → State → Result × State
  | .done result, state => (result, state)
  | .call op next, state => (next (handle op state).1).run handle (handle op state).2

/-- The next call of a program; a finished program stays as it is. -/
def step (handle : (op : Op) → State → Answer op × State) :
    Program Op Answer Result → State → Program Op Answer Result × State
  | .done result, state => (.done result, state)
  | .call op next, state => (next (handle op state).1, (handle op state).2)

/-- The program if some calls raise: `none` from the first of them on. -/
def attempt (raises : Op → Bool) (handle : (op : Op) → State → Answer op × State) :
    Program Op Answer Result → State → Option Result × State
  | .done result, state => (some result, state)
  | .call op next, state =>
    if raises op then (none, state)
    else (next (handle op state).1).attempt raises handle (handle op state).2

/-- The program among answers given from outside: its result, and the calls it makes. -/
def observe (answer : (op : Op) → Answer op) : Program Op Answer Result → Result × List Op
  | .done result => (result, [])
  | .call op next =>
    (((next (answer op)).observe answer).1, op :: ((next (answer op)).observe answer).2)

@[simp] theorem observe_done (answer : (op : Op) → Answer op) (result : Result) :
    (done result : Program Op Answer Result).observe answer = (result, []) := rfl

@[simp] theorem observe_call (answer : (op : Op) → Answer op) (op : Op)
    (next : Answer op → Program Op Answer Result) :
    (call op next).observe answer =
      (((next (answer op)).observe answer).1, op :: ((next (answer op)).observe answer).2) := rfl

/-- Among the answers of two worlds, the programs make related calls and have related results. -/
structure Similar {Result' : Type} (answer answer' : (op : Op) → Answer op) (alike : Op → Op → Prop)
    (result : Result → Result' → Prop) (first : Program Op Answer Result)
    (second : Program Op Answer Result') : Prop where
  result : result (first.observe answer).1 (second.observe answer').1
  calls : List.Forall₂ alike (first.observe answer).2 (second.observe answer').2

variable {handle : (op : Op) → State → Answer op × State}

@[simp] theorem run_done (result : Result) (state : State) :
    (done result : Program Op Answer Result).run handle state = (result, state) := rfl

@[simp] theorem run_call (op : Op) (next : Answer op → Program Op Answer Result) (state : State) :
    (call op next).run handle state = (next (handle op state).1).run handle (handle op state).2 :=
  rfl

@[simp] theorem bind_done (result : Result) (continuation : Result → Program Op Answer Next) :
    (done result : Program Op Answer Result).bind continuation = continuation result := rfl

@[simp] theorem bind_call (op : Op) (next : Answer op → Program Op Answer Result)
    (continuation : Result → Program Op Answer Next) :
    (call op next).bind continuation = call op fun answer => (next answer).bind continuation := rfl

@[simp] theorem observe_bind (answer : (op : Op) → Answer op) (program : Program Op Answer Result)
    (continuation : Result → Program Op Answer Next) :
    (program.bind continuation).observe answer =
      (((continuation (program.observe answer).1).observe answer).1,
        (program.observe answer).2 ++ ((continuation (program.observe answer).1).observe answer).2) := by
  induction program with
  | done result => rfl
  | call op next inductionHypothesis =>
    rw [bind_call, observe_call, inductionHypothesis, observe_call]
    rfl

section Similar

variable {Result' Next' : Type} {answer answer' : (op : Op) → Answer op} {alike : Op → Op → Prop}
  {result : Result → Result' → Prop} {next : Next → Next' → Prop}

theorem Similar.done {first : Result} {second : Result'} (related : result first second) :
    Similar answer answer' alike result (.done first) (.done second) :=
  ⟨related, .nil⟩

theorem Similar.call {op op' : Op} {first : Answer op → Program Op Answer Result}
    {second : Answer op' → Program Op Answer Result'} (related : alike op op')
    (continued : Similar answer answer' alike result (first (answer op)) (second (answer' op'))) :
    Similar answer answer' alike result (.call op first) (.call op' second) :=
  ⟨continued.result, .cons related continued.calls⟩

/-- A program is similar to itself. -/
theorem Similar.refl (program : Program Op Answer Result) :
    Similar answer answer Eq Eq program program :=
  ⟨rfl, List.forall₂_refl _⟩

/-- Programs in sequence are similar if their parts are. -/
theorem Similar.bind {first : Program Op Answer Result} {second : Program Op Answer Result'}
    {continued : Result → Program Op Answer Next} {continued' : Result' → Program Op Answer Next'}
    (similar : Similar answer answer' alike result first second)
    (onward : ∀ value value', result value value' →
      Similar answer answer' alike next (continued value) (continued' value')) :
    Similar answer answer' alike next (first.bind continued) (second.bind continued') := by
  have after := onward _ _ similar.result
  constructor
  · rw [observe_bind, observe_bind]
    exact after.result
  · rw [observe_bind, observe_bind]
    exact List.rel_append similar.calls after.calls

end Similar

/-- Running two programs in sequence. -/
@[simp] theorem run_bind (program : Program Op Answer Result)
    (continuation : Result → Program Op Answer Next) (state : State) :
    (program.bind continuation).run handle state =
      (continuation (program.run handle state).1).run handle (program.run handle state).2 := by
  induction program generalizing state with
  | done result => rfl
  | call op next inductionHypothesis => exact inductionHypothesis _ _

/-- What every call keeps, the whole program keeps. -/
theorem run_invariant {holds : State → Prop}
    (kept : ∀ op state, holds state → holds (handle op state).2)
    (program : Program Op Answer Result) (state : State) (initially : holds state) :
    holds (program.run handle state).2 := by
  induction program generalizing state with
  | done result => exact initially
  | call op next inductionHypothesis => exact inductionHypothesis _ _ (kept op state initially)

/-- What every call keeps, the program keeps also if it does not return. -/
theorem attempt_invariant {raises : Op → Bool} {holds : State → Prop}
    (kept : ∀ op state, holds state → holds (handle op state).2)
    (program : Program Op Answer Result) (state : State) (initially : holds state) :
    holds (program.attempt raises handle state).2 := by
  induction program generalizing state with
  | done result => exact initially
  | call op next inductionHypothesis =>
    rw [attempt]
    split
    · exact initially
    · exact inductionHypothesis _ _ (kept op state initially)

/-- The program keeps a property, though some of its calls may not. -/
def Keeps (handle : (op : Op) → State → Answer op × State) (holds : State → Prop)
    (program : Program Op Answer Result) : Prop :=
  ∀ state, holds state → holds (program.run handle state).2

theorem Keeps.done {holds : State → Prop} (result : Result) :
    Keeps handle holds (.done result : Program Op Answer Result) :=
  fun _ initially => initially

theorem Keeps.call {holds : State → Prop} {op : Op} {next : Answer op → Program Op Answer Result}
    (kept : ∀ state, holds state → holds (handle op state).2)
    (onward : ∀ answer, Keeps handle holds (next answer)) : Keeps handle holds (.call op next) :=
  fun state initially => onward _ _ (kept state initially)

theorem Keeps.bind {holds : State → Prop} {program : Program Op Answer Result}
    {continuation : Result → Program Op Answer Next} (first : Keeps handle holds program)
    (onward : ∀ result, Keeps handle holds (continuation result)) :
    Keeps handle holds (program.bind continuation) := by
  intro state initially
  rw [run_bind]
  exact onward _ _ (first state initially)

end Program

/-! ### Contracts -/

/-- What a sequential program may rely on while others run beside it, and what it has to keep to, in
terms of a view of the shared state: how others change the view, which calls are allowed in it, and
how a call is answered and changes it. -/
structure Contract (Op : Type) (Answer : Op → Type) (View : Type) where
  rely : View → View → Prop
  allowed : Op → View → Prop
  answers : (op : Op) → View → Answer op → View → Prop

namespace Program

variable {Op : Type} {Answer : Op → Type} {Result Next View : Type}
  {contract : Contract Op Answer View} {post : Result → View → Prop} {next : Next → View → Prop}

/-- From a view on, whatever others do before each call, every call is allowed and the result is as
stated. -/
def Meets (contract : Contract Op Answer View) (post : Result → View → Prop) :
    Program Op Answer Result → View → Prop
  | .done result, view => post result view
  | .call op next, view => ∀ view', contract.rely view view' → contract.allowed op view' ∧
    ∀ answer after, contract.answers op view' answer after → (next answer).Meets contract post after

/-- Programs in sequence. -/
theorem Meets.bind {program : Program Op Answer Result}
    {continuation : Result → Program Op Answer Next} {view : View}
    (first : program.Meets contract post view)
    (onward : ∀ result view, post result view → (continuation result).Meets contract next view) :
    (program.bind continuation).Meets contract next view := by
  induction program generalizing view with
  | done result => exact onward result view first
  | call op rest inductionHypothesis =>
    intro view' relied
    obtain ⟨allowed, answered⟩ := first view' relied
    exact ⟨allowed, fun answer after step => inductionHypothesis answer (answered answer after step)⟩

/-- What others do between two calls does not matter. -/
theorem Meets.relied
    (trans : ∀ {first second third}, contract.rely first second → contract.rely second third →
      contract.rely first third)
    (closed : ∀ result {view view'}, contract.rely view view' → post result view →
      post result view')
    {program : Program Op Answer Result} {view view' : View}
    (meets : program.Meets contract post view) (relied : contract.rely view view') :
    program.Meets contract post view' := by
  cases program with
  | done result => exact closed result relied meets
  | call op rest => exact fun view'' later => meets view'' (trans relied later)

end Program

end RcTaxi
