/-
This file models the queue of `core/safe_logging.py`. The threads that log put their records into a
bounded queue, or drop them when it is full, and one listener takes them out and hands them to the
handlers that the root logger had before.

The puts of the threads and the steps of the listener come in any order.
-/

import RcTaxi.Transition
import Mathlib.Data.List.Basic
import Mathlib.Data.Int.Basic

namespace RcTaxi

/-- The handlers the listener writes to, the records they accept, the size of the queue, and the
records that `prepare` can format. -/
structure LogSetup (Handler Record : Type) where
  handlers : List Handler
  accepts : Handler → Record → Bool
  maxsize : ℤ
  formats : Record → Bool

/-- When `put_nowait` raises `queue.Full`. A queue with a `maxsize` of 0 or below has no bound. -/
def LogSetup.full {Handler Record : Type} (setup : LogSetup Handler Record) (length : ℕ) : Bool :=
  0 < setup.maxsize ∧ setup.maxsize ≤ length

/-- The queue and the listener. What was put so far, each record with the length of the queue it
found, and what the listener has taken are kept for the statements only. -/
structure LogBooks (Handler Record : Type) where
  queue : List Record
  dropped : ℕ
  inHand : Option (Record × List Handler)
  written : List (Handler × Record)
  puts : List (Record × ℕ)
  taken : List Record

/-- A thread puts a record, or the listener takes one or offers it to its next handler. -/
inductive LogStep (Record : Type)
  | put (record : Record)
  | take
  | write

namespace LogBooks

variable {Handler Record : Type} (setup : LogSetup Handler Record)

def start : LogBooks Handler Record := ⟨[], 0, none, [], [], []⟩

/-- `enqueue`. -/
def enqueue (books : LogBooks Handler Record) (record : Record) : LogBooks Handler Record :=
  if setup.full books.queue.length then { books with dropped := books.dropped + 1 }
  else { books with queue := books.queue ++ [record] }

/-- The loop of the listener: it takes a record, and offers it to its handlers one by one. -/
def step (books : LogBooks Handler Record) : LogStep Record → LogBooks Handler Record
  | .put record =>
    { books.enqueue setup record with puts := books.puts ++ [(record, books.queue.length)] }
  | .take =>
    match books.inHand, books.queue with
    | none, record :: rest =>
      { books with
        queue := rest
        inHand := some (record, setup.handlers)
        taken := books.taken ++ [record] }
    | _, _ => books
  | .write =>
    match books.inHand with
    | none => books
    | some (_, []) => { books with inHand := none }
    | some (record, handler :: rest) =>
      { books with
        inHand := some (record, rest)
        written := books.written ++ if setup.accepts handler record then [(handler, record)] else [] }

/-- What is written of a record to some handlers. -/
def outputs (handlers : List Handler) (record : Record) : List (Handler × Record) :=
  (handlers.filter (setup.accepts · record)).map (·, record)

/-- What is still to be written of the record in hand. -/
def pending (books : LogBooks Handler Record) : List (Handler × Record) :=
  books.inHand.elim [] fun hand => outputs setup hand.2 hand.1

/-- The records whose puts found room. -/
def admitted (puts : List (Record × ℕ)) : List Record :=
  (puts.filter fun put => !setup.full put.2).map Prod.fst

/-- The books balance. -/
structure Balanced (books : LogBooks Handler Record) : Prop where
  bounded : 0 < setup.maxsize → (books.queue.length : ℤ) ≤ setup.maxsize
  admitted : books.taken ++ books.queue = admitted setup books.puts
  dropped : books.dropped = books.puts.countP fun put => setup.full put.2
  written : books.written ++ pending setup books =
    books.taken.flatMap (outputs setup setup.handlers)

variable {setup} {books : LogBooks Handler Record}

theorem Balanced.start : Balanced setup (start : LogBooks Handler Record) :=
  ⟨Int.le_of_lt, rfl, rfl, rfl⟩

theorem admitted_concat (puts : List (Record × ℕ)) (record : Record) (length : ℕ) :
    LogBooks.admitted setup (puts ++ [(record, length)]) =
      LogBooks.admitted setup puts ++ if setup.full length then [] else [record] := by
  unfold LogBooks.admitted
  rw [List.filter_append, List.map_append, List.filter_singleton]
  cases setup.full length <;> rfl

/-- A put is dropped exactly where it finds the queue full. -/
theorem Balanced.put (balanced : Balanced setup books) (record : Record) :
    Balanced setup (books.step setup (.put record)) := by
  have counted : ∀ found : Bool, setup.full books.queue.length = found →
      (books.puts ++ [(record, books.queue.length)]).countP (fun put => setup.full put.2) =
        books.dropped + found.toNat := by
    intro found same
    rw [List.countP_append, List.countP_singleton, ← balanced.dropped, same]
    cases found <;> rfl
  unfold LogBooks.step enqueue
  dsimp only
  split
  next full =>
    refine ⟨balanced.bounded, ?_, (counted true full).symm, balanced.written⟩
    rw [admitted_concat, if_pos full, List.append_nil]
    exact balanced.admitted
  next room =>
    refine ⟨fun bound => ?_, ?_, (counted false (Bool.eq_false_iff.mpr room)).symm,
      balanced.written⟩
    · have below : ¬ setup.maxsize ≤ (books.queue.length : ℤ) :=
        fun above => room (decide_eq_true ⟨bound, above⟩)
      rw [List.length_append]
      push_cast
      exact Int.add_one_le_of_lt (Int.lt_of_not_ge below)
    · rw [admitted_concat, if_neg room, ← balanced.admitted]
      exact (List.append_assoc ..).symm

theorem Balanced.take (balanced : Balanced setup books) :
    Balanced setup (books.step setup .take) := by
  obtain ⟨queue, dropped, inHand, written, puts, taken⟩ := books
  cases inHand with
  | some _ => exact balanced
  | none =>
    cases queue with
    | nil => exact balanced
    | cons record rest =>
      refine ⟨fun bound => ?_, ?_, balanced.dropped, ?_⟩
      · have before : ((record :: rest).length : ℤ) ≤ setup.maxsize := balanced.bounded bound
        exact Int.le_trans (Int.ofNat_le.mpr (Nat.le_succ _)) before
      · exact (List.append_assoc ..).trans balanced.admitted
      · have before : written ++ [] = taken.flatMap (outputs setup setup.handlers) :=
          balanced.written
        show written ++ outputs setup setup.handlers record =
          (taken ++ [record]).flatMap (outputs setup setup.handlers)
        rw [List.append_nil] at before
        rw [List.flatMap_append, before, List.flatMap_singleton]

theorem Balanced.write (balanced : Balanced setup books) :
    Balanced setup (books.step setup .write) := by
  obtain ⟨queue, dropped, inHand, written, puts, taken⟩ := books
  cases inHand with
  | none => exact balanced
  | some hand =>
    obtain ⟨record, handlers⟩ := hand
    have before : written ++ outputs setup handlers record =
      taken.flatMap (outputs setup setup.handlers) := balanced.written
    cases handlers with
    | nil => exact ⟨balanced.bounded, balanced.admitted, balanced.dropped, before⟩
    | cons handler rest =>
      refine ⟨balanced.bounded, balanced.admitted, balanced.dropped, ?_⟩
      refine Eq.trans ?_ before
      show written ++ (if _ then _ else _) ++ outputs setup rest record = _
      rw [List.append_assoc, outputs, outputs, List.filter_cons]
      split <;> rfl

/-- In every run a queue with a bound keeps it. The records whose puts found room are taken or
queued, each once and in their order, and every put that found the queue full is counted as dropped.
Each handler is written what it accepts of the records taken, but for what the listener still has in
hand. -/
theorem log_records_are_accounted_for (setup : LogSetup Handler Record)
    (labels : List (LogStep Record)) :
    Balanced setup (Transition.run (step setup) start labels) := by
  have kept (books : LogBooks Handler Record) (label : LogStep Record)
      (balanced : Balanced setup books) : Balanced setup (books.step setup label) := by
    cases label with
    | put record => exact balanced.put record
    | take => exact balanced.take
    | write => exact balanced.write
  exact Transition.run_invariant kept Balanced.start labels

end LogBooks

end RcTaxi
