/-
This file is a library about calls that write several registers one after the other, made by threads
that do not wait for one another. A log keeps when the calls began and returned, and each register
remembers the call that wrote it last.

While calls are under way the registers may hold values of different calls. Once none is under way,
what a register holds was written by a call that no other call followed: none began after that one
had returned.
-/

import RcTaxi.Transition

namespace RcTaxi

namespace RegisterWrites

variable {Thread Register Value : Type}

/-! ### Calls -/

/-- A call began, with the values it is to write, or it returned. -/
inductive CallEvent (Register Value : Type)
  | began (call : ℕ) (values : Register → Value)
  | returned (call : ℕ)

/-- The call an event is about. -/
def CallEvent.call : CallEvent Register Value → ℕ
  | .began call _ => call
  | .returned call => call

/-- A call under way: its values, and the registers it has not written yet. -/
structure ActiveCall (Register Value : Type) where
  call : ℕ
  values : Register → Value
  rest : List Register

/-- The registers with the call that wrote each last, the call every thread is in, the number of
calls so far, and the log. -/
structure RegisterFile (Thread Register Value : Type) where
  registers : Register → Value
  writer : Register → ℕ
  active : Thread → Option (ActiveCall Register Value)
  calls : ℕ
  log : List (CallEvent Register Value)

/-- What a thread does next. -/
inductive CallStep (Thread Register Value : Type)
  | begins (thread : Thread) (values : Register → Value)
  | writes (thread : Thread)
  | returns (thread : Thread)

/-- A first call has written all registers. -/
def start (values : Register → Value) : RegisterFile Thread Register Value where
  registers := values
  writer _ := 0
  active _ := none
  calls := 1
  log := [.began 0 values, .returned 0]

/-- Some call began after this one had returned. -/
def Overtaken (log : List (CallEvent Register Value)) (call : ℕ) : Prop :=
  ∃ later values, [.returned call, .began later values].Sublist log

/-- No call is under way. -/
def Quiet (file : RegisterFile Thread Register Value) : Prop := ∀ thread, file.active thread = none

/-! ### Overtaking -/

theorem Overtaken.returned {log : List (CallEvent Register Value)} {call : ℕ}
    (overtaken : Overtaken log call) : .returned call ∈ log := by
  obtain ⟨later, values, sublist⟩ := overtaken
  exact sublist.subset List.mem_cons_self

theorem overtaken_returns {log : List (CallEvent Register Value)} {call returning : ℕ} :
    Overtaken (log ++ [.returned returning]) call ↔ Overtaken log call := by
  constructor
  · rintro ⟨later, values, sublist⟩
    refine ⟨later, values, ?_⟩
    obtain ⟨first, last, split, before, single⟩ := List.sublist_append_iff.mp sublist
    rcases List.sublist_singleton.mp single with rfl | rfl
    · rw [List.append_nil] at split
      exact split ▸ before
    · have same := congrArg List.getLast? split
      rw [List.getLast?_concat] at same
      cases same
  · rintro ⟨later, values, sublist⟩
    exact ⟨later, values, sublist.trans (List.sublist_append_left _ _)⟩

/-! ### The invariant -/

/-- How the registers and the log belong together. -/
structure Consistent (order : List Register) (file : RegisterFile Thread Register Value) : Prop where
  fresh : ∀ event ∈ file.log, event.call < file.calls
  begun : ∀ thread active, file.active thread = some active →
    .began active.call active.values ∈ file.log ∧ .returned active.call ∉ file.log
  distinct : ∀ thread other active active', file.active thread = some active →
    file.active other = some active' → active.call = active'.call → thread = other
  written : ∀ register, ∃ values, .began (file.writer register) values ∈ file.log ∧
    file.registers register = values register
  current : ∀ register ∈ order, Overtaken file.log (file.writer register) →
    ∃ thread active, file.active thread = some active ∧ register ∈ active.rest

theorem consistent_start (order : List Register) (values : Register → Value) :
    Consistent order (start values : RegisterFile Thread Register Value) where
  fresh event member := by
    rcases List.mem_pair.mp member with rfl | rfl
    · exact Nat.one_pos
    · exact Nat.one_pos
  begun thread active isActive := nomatch isActive
  distinct thread other active active' isActive := nomatch isActive
  written register := ⟨values, List.mem_cons_self, rfl⟩
  current register _ overtaken := by
    obtain ⟨later, values', sublist⟩ := overtaken
    have same := sublist.eq_of_length rfl
    cases same

namespace Consistent

variable {order : List Register} {file : RegisterFile Thread Register Value}

/-- At any time a register holds what some call writes to it. -/
theorem holds_begun (consistent : Consistent order file) (register : Register) :
    ∃ call values, .began call values ∈ file.log ∧ file.registers register = values register := by
  obtain ⟨values, began, holds⟩ := consistent.written register
  exact ⟨_, values, began, holds⟩

/-- Once no call is under way, a register holds what a call wrote that none followed. -/
theorem holds_last (consistent : Consistent order file) (quiet : Quiet file) {register : Register}
    (member : register ∈ order) :
    ∃ call values, .began call values ∈ file.log ∧ ¬Overtaken file.log call ∧
      file.registers register = values register := by
  obtain ⟨values, began, holds⟩ := consistent.written register
  refine ⟨_, values, began, fun overtaken => ?_, holds⟩
  obtain ⟨thread, active, isActive, -⟩ := consistent.current register member overtaken
  rw [quiet thread] at isActive
  cases isActive

end Consistent

/-! ### The steps -/

variable [DecidableEq Thread] [DecidableEq Register]

/-- Every call writes the registers in the same order. A thread that is elsewhere does not take the
step. -/
def step (order : List Register) (file : RegisterFile Thread Register Value) :
    CallStep Thread Register Value → RegisterFile Thread Register Value
  | .begins thread values => match file.active thread with
    | some _ => file
    | none => { file with
        active := Function.update file.active thread (some ⟨file.calls, values, order⟩)
        calls := file.calls + 1
        log := file.log ++ [.began file.calls values] }
  | .writes thread => match file.active thread with
    | some ⟨call, values, register :: rest⟩ => { file with
        registers := Function.update file.registers register (values register)
        writer := Function.update file.writer register call
        active := Function.update file.active thread (some ⟨call, values, rest⟩) }
    | _ => file
  | .returns thread => match file.active thread with
    | some ⟨call, _, []⟩ => { file with
        active := Function.update file.active thread none
        log := file.log ++ [.returned call] }
    | _ => file

omit [DecidableEq Register] in
/-- What the threads are in after one of them moves on. -/
theorem update_active {active : Thread → Option (ActiveCall Register Value)} {thread other : Thread}
    {next : Option (ActiveCall Register Value)} {found : ActiveCall Register Value}
    (isActive : Function.update active thread next other = some found) :
    other = thread ∧ next = some found ∨ other ≠ thread ∧ active other = some found := by
  rw [Function.update_apply] at isActive
  split at isActive
  next same => exact .inl ⟨same, isActive⟩
  next different => exact .inr ⟨different, isActive⟩

namespace Consistent

variable {order : List Register} {file : RegisterFile Thread Register Value}

omit [DecidableEq Register] in
theorem begins (consistent : Consistent order file) (thread : Thread) (values : Register → Value)
    (idle : file.active thread = none) :
    Consistent order { file with
      active := Function.update file.active thread (some ⟨file.calls, values, order⟩)
      calls := file.calls + 1
      log := file.log ++ [.began file.calls values] } where
  fresh event member := by
    rcases List.mem_append.mp member with before | single
    · exact Nat.lt_succ_of_lt (consistent.fresh event before)
    · cases List.mem_singleton.mp single
      exact Nat.lt_succ_self _
  begun other found isActive := by
    rcases update_active isActive with ⟨-, same⟩ | ⟨-, before⟩
    · cases same
      refine ⟨List.mem_append_right _ (List.mem_singleton_self _), fun member => ?_⟩
      rcases List.mem_append.mp member with before | single
      · exact Nat.lt_irrefl _ (consistent.fresh _ before)
      · cases List.mem_singleton.mp single
    · obtain ⟨began, running⟩ := consistent.begun other found before
      refine ⟨List.mem_append_left _ began, fun member => ?_⟩
      rcases List.mem_append.mp member with before | single
      · exact running before
      · cases List.mem_singleton.mp single
  distinct first second active active' isActive isActive' same := by
    have older (other : Thread) (found : ActiveCall Register Value)
        (before : file.active other = some found) : found.call < file.calls :=
      consistent.fresh _ (consistent.begun other found before).1
    rcases update_active isActive with ⟨rfl, new⟩ | ⟨-, before⟩
    · rcases update_active isActive' with ⟨rfl, -⟩ | ⟨-, before'⟩
      · rfl
      · cases new
        exact absurd same (Nat.ne_of_gt (older _ _ before'))
    · rcases update_active isActive' with ⟨rfl, new⟩ | ⟨-, before'⟩
      · cases new
        exact absurd same (Nat.ne_of_lt (older _ _ before))
      · exact consistent.distinct _ _ _ _ before before' same
  written register := by
    obtain ⟨written, began, holds⟩ := consistent.written register
    exact ⟨written, List.mem_append_left _ began, holds⟩
  current register member _ :=
    ⟨thread, _, Function.update_self .., member⟩

theorem writes (consistent : Consistent order file) {thread : Thread} {call : ℕ}
    {values : Register → Value} {register : Register} {rest : List Register}
    (isActive : file.active thread = some ⟨call, values, register :: rest⟩) :
    Consistent order { file with
      registers := Function.update file.registers register (values register)
      writer := Function.update file.writer register call
      active := Function.update file.active thread (some ⟨call, values, rest⟩) } where
  fresh := consistent.fresh
  begun other found isFound := by
    rcases update_active isFound with ⟨-, same⟩ | ⟨-, before⟩
    · cases same
      exact consistent.begun thread ⟨call, values, register :: rest⟩ isActive
    · exact consistent.begun other found before
  distinct first second active active' isFirst isSecond same := by
    rcases update_active isFirst with ⟨rfl, new⟩ | ⟨-, before⟩
    · rcases update_active isSecond with ⟨rfl, -⟩ | ⟨-, before'⟩
      · rfl
      · cases new
        exact consistent.distinct _ _ _ _ isActive before' same
    · rcases update_active isSecond with ⟨rfl, new⟩ | ⟨-, before'⟩
      · cases new
        exact consistent.distinct _ _ _ _ before isActive same
      · exact consistent.distinct _ _ _ _ before before' same
  written other := by
    rcases eq_or_ne other register with rfl | different
    · dsimp only
      rw [Function.update_self, Function.update_self]
      exact ⟨values, (consistent.begun thread _ isActive).1, rfl⟩
    · dsimp only
      rw [Function.update_of_ne different, Function.update_of_ne different]
      exact consistent.written other
  current other member overtaken := by
    dsimp only at overtaken
    rcases eq_or_ne other register with rfl | different
    · rw [Function.update_self] at overtaken
      exact absurd overtaken.returned (consistent.begun thread _ isActive).2
    · rw [Function.update_of_ne different] at overtaken
      obtain ⟨holder, found, isFound, waiting⟩ := consistent.current other member overtaken
      rcases eq_or_ne holder thread with rfl | elsewhere
      · cases isActive.symm.trans isFound
        refine ⟨holder, _, Function.update_self .., ?_⟩
        exact (List.mem_cons.mp waiting).resolve_left different
      · exact ⟨holder, found, (Function.update_of_ne elsewhere ..).trans isFound, waiting⟩

omit [DecidableEq Register] in
theorem returns (consistent : Consistent order file) {thread : Thread} {call : ℕ}
    {values : Register → Value} (isActive : file.active thread = some ⟨call, values, []⟩) :
    Consistent order { file with
      active := Function.update file.active thread none
      log := file.log ++ [.returned call] } where
  fresh event member := by
    rcases List.mem_append.mp member with before | single
    · exact consistent.fresh event before
    · cases List.mem_singleton.mp single
      exact consistent.fresh (.began call values) (consistent.begun thread _ isActive).1
  begun other found isFound := by
    rcases update_active isFound with ⟨-, gone⟩ | ⟨elsewhere, before⟩
    · cases gone
    · obtain ⟨began, running⟩ := consistent.begun other found before
      refine ⟨List.mem_append_left _ began, fun member => ?_⟩
      rcases List.mem_append.mp member with already | single
      · exact running already
      · have same := List.mem_singleton.mp single
        injection same with same
        exact elsewhere (consistent.distinct _ _ _ _ before isActive same)
  distinct first second active active' isFirst isSecond same := by
    rcases update_active isFirst with ⟨-, gone⟩ | ⟨-, before⟩
    · cases gone
    · rcases update_active isSecond with ⟨-, gone⟩ | ⟨-, before'⟩
      · cases gone
      · exact consistent.distinct _ _ _ _ before before' same
  written register := by
    obtain ⟨written, began, holds⟩ := consistent.written register
    exact ⟨written, List.mem_append_left _ began, holds⟩
  current register member overtaken := by
    obtain ⟨holder, found, isFound, waiting⟩ :=
      consistent.current register member (overtaken_returns.mp overtaken)
    rcases eq_or_ne holder thread with rfl | elsewhere
    · cases isActive.symm.trans isFound
      exact absurd waiting List.not_mem_nil
    · exact ⟨holder, found, (Function.update_of_ne elsewhere ..).trans isFound, waiting⟩

/-- Every step keeps the registers and the log together. -/
theorem step (consistent : Consistent order file) (next : CallStep Thread Register Value) :
    Consistent order (step order file next) := by
  cases next with
  | begins thread values =>
    rw [RegisterWrites.step]
    split
    · exact consistent
    next idle => exact consistent.begins thread values idle
  | writes thread =>
    rw [RegisterWrites.step]
    split
    next isActive => exact consistent.writes isActive
    · exact consistent
  | returns thread =>
    rw [RegisterWrites.step]
    split
    next isActive => exact consistent.returns isActive
    · exact consistent

end Consistent

/-- The calls of the log are those that threads began. -/
theorem began_step {order : List Register} {file : RegisterFile Thread Register Value}
    {next : CallStep Thread Register Value} {call : ℕ} {values : Register → Value}
    (began : .began call values ∈ (step order file next).log) :
    .began call values ∈ file.log ∨ ∃ thread, next = .begins thread values := by
  cases next with
  | begins thread values' =>
    rw [step] at began
    split at began
    · exact .inl began
    · rcases List.mem_append.mp began with before | single
      · exact .inl before
      · cases List.mem_singleton.mp single
        exact .inr ⟨thread, rfl⟩
  | writes thread =>
    rw [step] at began
    split at began
    · exact .inl began
    · exact .inl began
  | returns thread =>
    rw [step] at began
    split at began
    · rcases List.mem_append.mp began with before | single
      · exact .inl before
      · cases List.mem_singleton.mp single
    · exact .inl began

end RegisterWrites

end RcTaxi
