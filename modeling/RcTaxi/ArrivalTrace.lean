/-
This file describes the decision of the arrival checker by the whole history of its calls. An update
decides the arrival if its gate is open and the car is slow or the gate has been open long enough,
counted from the first update of the unbroken run of open gates it belongs to. The answer is true
from the first such update of a mission to the end of the mission, and false outside missions.
-/

import RcTaxi.Matching

namespace RcTaxi

variable {α : Type} [Scalar α]

namespace ArrivalChecker

/-! ### Histories -/

/-- A call of the checker. -/
inductive Call (α : Type)
  | startMission (stop : StopPose α)
  | clear
  | update (update : Update α)

variable (checker : ArrivalChecker α)

def call (state : ArrivalState α) : Call α → ArrivalState α
  | .startMission stop => ArrivalChecker.startMission stop
  | .clear => ArrivalChecker.clear
  | .update update => (checker.update update state).2

/-- The state of a new checker behind some calls. -/
def after (calls : List (Call α)) : ArrivalState α := calls.foldl checker.call clear

/-- What an update returns behind some calls. -/
def answer (calls : List (Call α)) (update : Update α) : Bool :=
  (checker.update update (checker.after calls)).1

/-- An update that follows others of its mission decides the arrival: its gate is open, and the car
is slow or the settling time has passed since the first update of the run of open gates that ends
here. -/
def Decides (stop : StopPose α) (earlier : List (Update α)) (update : Update α) : Prop :=
  checker.gate stop update = true ∧
    (update.speedMps ≤ checker.maxSpeedMps ∨
      ∃ first, ((earlier ++ [update]).rtakeWhile (checker.gate stop)).head? = some first ∧
        checker.settleS ≤ update.now - first.now)

/-- Some update of the mission has decided the arrival. -/
def Decided (stop : StopPose α) (updates : List (Update α)) : Prop :=
  ∃ earlier update later, updates = earlier ++ update :: later ∧
    checker.Decides stop earlier update

theorem after_concat (calls : List (Call α)) (last : Call α) :
    checker.after (calls ++ [last]) = checker.call (checker.after calls) last := by
  unfold after
  rw [List.foldl_append, List.foldl_cons, List.foldl_nil]

theorem not_decided_nil (stop : StopPose α) : ¬ checker.Decided stop [] :=
  fun ⟨_, _, _, cut, _⟩ =>
    absurd cut.symm (List.append_ne_nil_of_right_ne_nil _ (List.cons_ne_nil _ _))

/-- A decision stays made. -/
theorem Decided.append {checker : ArrivalChecker α} {stop : StopPose α}
    {updates : List (Update α)} (decided : checker.Decided stop updates)
    (more : List (Update α)) : checker.Decided stop (updates ++ more) := by
  obtain ⟨earlier, update, later, rfl, decides⟩ := decided
  exact ⟨earlier, update, later ++ more, by rw [List.append_assoc]; rfl, decides⟩

/-- One more update: the decision was made before, or this update makes it. -/
theorem decided_concat (stop : StopPose α) (updates : List (Update α)) (update : Update α) :
    checker.Decided stop (updates ++ [update]) ↔
      checker.Decided stop updates ∨ checker.Decides stop updates update := by
  constructor
  · rintro ⟨earlier, decider, later, cut, decides⟩
    rcases List.eq_nil_or_concat' later with rfl | ⟨between, last, rfl⟩
    · obtain ⟨rfl, same⟩ := List.append_inj' cut rfl
      cases same
      exact Or.inr decides
    · rw [← List.cons_append, ← List.append_assoc] at cut
      obtain ⟨rfl, _⟩ := List.append_inj' cut rfl
      exact Or.inl ⟨earlier, decider, between, rfl, decides⟩
  · rintro (decided | decides)
    · exact decided.append [update]
    · exact ⟨updates, update, [], rfl, decides⟩

/-! ### The state follows the history -/

/-- The state of a mission behind its updates: the arrival is latched iff it is decided, and until
then the clock runs since the first update of the unbroken run of open gates. -/
structure Follows (stop : StopPose α) (updates : List (Update α)) (state : ArrivalState α) :
    Prop where
  stop_eq : state.stop = some stop
  arrived_iff : state.arrived = true ↔ checker.Decided stop updates
  held_eq : state.arrived = false →
    state.heldSince = ((updates.rtakeWhile (checker.gate stop)).head?).map Update.now

theorem follows_startMission (stop : StopPose α) :
    checker.Follows stop [] (ArrivalChecker.startMission stop) where
  stop_eq := rfl
  arrived_iff := ⟨(nomatch ·), fun decided => absurd decided (checker.not_decided_nil stop)⟩
  held_eq _ := by
    rw [List.rtakeWhile_nil]
    rfl

/-- The clock behind one more update with an open gate. -/
theorem head?_rtakeWhile_concat {stop : StopPose α} {update : Update α}
    (isOpen : checker.gate stop update = true) (updates : List (Update α)) :
    (((updates ++ [update]).rtakeWhile (checker.gate stop)).head?).map Update.now =
      some ((((updates.rtakeWhile (checker.gate stop)).head?).map Update.now).getD
        update.now) := by
  rw [List.rtakeWhile_concat_pos _ _ _ isOpen]
  cases updates.rtakeWhile (checker.gate stop) <;> rfl

/-- The update keeps following the history, and returns whether the arrival is decided with it. -/
theorem Follows.update {checker : ArrivalChecker α} {stop : StopPose α}
    {updates : List (Update α)} {state : ArrivalState α}
    (follows : checker.Follows stop updates state) (update : Update α) :
    checker.Follows stop (updates ++ [update]) (checker.update update state).2 ∧
      ((checker.update update state).1 = true ↔ checker.Decided stop (updates ++ [update])) := by
  obtain ⟨target, since, arrived⟩ := state
  obtain ⟨rfl, latched, held⟩ := follows
  unfold ArrivalChecker.update
  dsimp only at latched held ⊢
  cases arrived with
  | true =>
    have decided := (latched.mp rfl).append [update]
    rw [if_pos rfl]
    exact ⟨⟨rfl, iff_of_true rfl decided, (nomatch ·)⟩, iff_of_true rfl decided⟩
  | false =>
    have undecided : ¬ checker.Decided stop updates := fun decided => nomatch latched.mpr decided
    rw [if_neg Bool.false_ne_true]
    cases isOpen : checker.gate stop update with
    | false =>
      have closed : ¬ checker.gate stop update = true := by
        rw [isOpen]
        exact Bool.false_ne_true
      have stays : ¬ checker.Decided stop (updates ++ [update]) := by
        rw [decided_concat, or_iff_right undecided]
        exact fun decides => closed decides.1
      rw [Bool.not_false, if_pos rfl]
      refine ⟨⟨rfl, iff_of_false Bool.false_ne_true stays, fun _ => ?_⟩,
        iff_of_false Bool.false_ne_true stays⟩
      rw [List.rtakeWhile_concat_neg _ _ _ closed]
      rfl
    | true =>
      have clock := checker.head?_rtakeWhile_concat isOpen updates
      rw [← held rfl] at clock
      have decides : checker.Decided stop (updates ++ [update]) ↔
          (update.speedMps ≤ checker.maxSpeedMps ∨
            checker.settleS ≤ update.now - since.getD update.now) := by
        rw [decided_concat, or_iff_right undecided]
        refine (and_iff_right isOpen).trans (or_congr_right ?_)
        obtain ⟨first, head, begun⟩ := Option.map_eq_some_iff.mp clock
        rw [head, ← begun]
        exact ⟨fun ⟨_, same, settled⟩ => Option.some.inj same ▸ settled,
          fun settled => ⟨first, rfl, settled⟩⟩
      rw [Bool.not_true, if_neg Bool.false_ne_true]
      exact ⟨⟨rfl, decide_eq_true_iff.trans decides.symm, fun _ => clock.symm⟩,
        decide_eq_true_iff.trans decides.symm⟩

/-! ### Whole histories -/

/-- The calls end in a mission: the last one that is no update starts it. -/
def EndsIn (calls : List (Call α)) (stop : StopPose α) (updates : List (Update α)) : Prop :=
  ∃ earlier, calls = earlier ++ .startMission stop :: updates.map Call.update

/-- Whatever happened before it, the checker follows the mission the calls end in. -/
theorem follows_of_endsIn {calls : List (Call α)} {stop : StopPose α}
    {updates : List (Update α)} (ends : EndsIn calls stop updates) :
    checker.Follows stop updates (checker.after calls) := by
  obtain ⟨earlier, rfl⟩ := ends
  induction updates using List.reverseRecOn with
  | nil =>
    rw [List.map_nil, after_concat]
    exact checker.follows_startMission stop
  | append_singleton updates last inductionHypothesis =>
    rw [List.map_append, List.map_singleton, ← List.cons_append, ← List.append_assoc, after_concat]
    exact (inductionHypothesis.update last).1

/-- Calls that end in no mission leave the checker without a stop. -/
theorem endsIn_or_stop_eq_none (calls : List (Call α)) :
    (∃ stop updates, EndsIn calls stop updates) ∨ (checker.after calls).stop = none := by
  induction calls using List.reverseRecOn with
  | nil => exact Or.inr rfl
  | append_singleton calls last inductionHypothesis =>
    cases last with
    | startMission stop => exact Or.inl ⟨stop, [], calls, rfl⟩
    | clear =>
      rw [after_concat]
      exact Or.inr rfl
    | update update =>
      rcases inductionHypothesis with ⟨stop, updates, earlier, rfl⟩ | noStop
      · refine Or.inl ⟨stop, updates ++ [update], earlier, ?_⟩
        rw [List.map_append, List.map_singleton, List.append_assoc]
        rfl
      · rw [after_concat, call, ArrivalChecker.update, noStop]
        exact Or.inr noStop

/-- An update returns `true` iff the calls before it end in a mission whose arrival is decided by
then, and so does every later update of the mission. -/
theorem answer_iff_decided (calls : List (Call α)) (update : Update α) :
    (checker.answer calls update = true ↔ ∃ stop updates, EndsIn calls stop updates ∧
      checker.Decided stop (updates ++ [update])) ∧
    (checker.answer calls update = true → ∀ (between : List (Update α)) (later : Update α),
      checker.answer (calls ++ .update update :: between.map .update) later = true) := by
  have decided : ∀ (calls : List (Call α)) (update : Update α),
      checker.answer calls update = true ↔ ∃ stop updates, EndsIn calls stop updates ∧
        checker.Decided stop (updates ++ [update]) := by
    intro calls update
    constructor
    · intro answered
      rcases checker.endsIn_or_stop_eq_none calls with ⟨stop, updates, ends⟩ | noStop
      · exact ⟨stop, updates, ends,
          ((checker.follows_of_endsIn ends).update update).2.mp answered⟩
      · unfold answer ArrivalChecker.update at answered
        rw [noStop] at answered
        cases answered
    · rintro ⟨stop, updates, ends, decided⟩
      exact ((checker.follows_of_endsIn ends).update update).2.mpr decided
  refine ⟨decided calls update, fun answered between later => ?_⟩
  obtain ⟨stop, updates, ⟨earlier, rfl⟩, made⟩ := (decided calls update).mp answered
  refine (decided _ later).mpr ⟨stop, updates ++ update :: between, ⟨earlier, ?_⟩, ?_⟩
  · rw [List.map_append, List.map_cons, List.append_assoc, List.cons_append]
  · have longer := made.append (between ++ [later])
    rwa [List.append_assoc, List.singleton_append, ← List.cons_append, ← List.append_assoc] at longer

end ArrivalChecker

end RcTaxi
