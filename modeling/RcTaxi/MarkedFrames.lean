/-
This file is a library about streams that carry frames between two markers of two symbols each. It
says which frames a stream has, for any symbols and markers: a frame begins at the first opening
marker and ends at the first closing marker behind it, and the next is looked for behind that. Every
stream has its frames in one way only. What lies in front of a stream and has no opening marker
together with its first symbols adds no frame.
-/

import Mathlib.Data.List.Chain

namespace RcTaxi

/-- Two different symbols, one behind the other. -/
structure Marker (Symbol : Type) where
  first : Symbol
  second : Symbol
  distinct : first ≠ second

variable {Symbol : Type}

namespace Marker

variable (marker : Marker Symbol)

/-- The marker stands nowhere in a list. -/
def Free (symbols : List Symbol) : Prop :=
  symbols.IsChain fun symbol next => ¬ (symbol = marker.first ∧ next = marker.second)

/-- The position of the first marker of a list. -/
def find [DecidableEq Symbol] : List Symbol → Option ℕ
  | symbol :: next :: rest =>
    if symbol = marker.first ∧ next = marker.second then some 0
    else (find (next :: rest)).map (· + 1)
  | _ => none

variable {marker}

/-- The first symbol of a marker behind a list does not make up a marker with it. -/
theorem Free.concat {before : List Symbol} (free : marker.Free before) :
    marker.Free (before ++ [marker.first]) := by
  refine List.isChain_append.mpr ⟨free, List.isChain_singleton _, ?_⟩
  rintro last _ symbol found ⟨_, same⟩
  rw [List.head?_cons, Option.mem_some_iff] at found
  exact marker.distinct (found.trans same)

variable [DecidableEq Symbol]

theorem find_cons_cons (symbol next : Symbol) (rest : List Symbol) :
    marker.find (symbol :: next :: rest) =
      if symbol = marker.first ∧ next = marker.second then some 0
      else (marker.find (next :: rest)).map (· + 1) := rfl

/-- No position is found exactly in a list without the marker. -/
theorem find_eq_none {symbols : List Symbol} : marker.find symbols = none ↔ marker.Free symbols := by
  induction symbols with
  | nil => exact ⟨fun _ => List.isChain_nil, fun _ => rfl⟩
  | cons symbol rest inductionHypothesis =>
    cases rest with
    | nil => exact ⟨fun _ => List.isChain_singleton _, fun _ => rfl⟩
    | cons next rest =>
      rw [find_cons_cons, Free, List.isChain_cons_cons]
      by_cases here : symbol = marker.first ∧ next = marker.second
      · rw [if_pos here]
        exact ⟨fun same => (nomatch same), fun free => absurd here free.1⟩
      · rw [if_neg here, Option.map_eq_none_iff, inductionHypothesis]
        exact (and_iff_right here).symm

/-- In front of the position that is found there is no marker. -/
theorem exists_of_find {symbols : List Symbol} {position : ℕ}
    (found : marker.find symbols = some position) : ∃ before after,
      symbols = before ++ marker.first :: marker.second :: after ∧ before.length = position ∧
        marker.Free before := by
  induction symbols generalizing position with
  | nil => cases found
  | cons symbol rest inductionHypothesis =>
    cases rest with
    | nil => cases found
    | cons next rest =>
      rw [find_cons_cons] at found
      by_cases here : symbol = marker.first ∧ next = marker.second
      · rw [if_pos here] at found
        cases found
        rw [here.1, here.2]
        exact ⟨[], rest, rfl, rfl, List.isChain_nil⟩
      · rw [if_neg here] at found
        obtain ⟨behind, foundBehind, rfl⟩ := Option.map_eq_some_iff.mp found
        obtain ⟨before, after, same, rfl, free⟩ := inductionHypothesis foundBehind
        refine ⟨symbol :: before, after, congrArg (symbol :: ·) same, rfl, ?_⟩
        cases before with
        | nil => exact List.isChain_singleton _
        | cons head before =>
          cases same
          exact List.isChain_cons_cons.mpr ⟨here, free⟩

/-- The marker behind a list without it is the first one. -/
theorem find_append {before : List Symbol} (free : marker.Free before) (after : List Symbol) :
    marker.find (before ++ marker.first :: marker.second :: after) = some before.length := by
  induction before with
  | nil => exact if_pos ⟨rfl, rfl⟩
  | cons symbol before inductionHypothesis =>
    have behind := inductionHypothesis (List.IsChain.tail free)
    cases before with
    | nil =>
      have other : ¬ (symbol = marker.first ∧ marker.first = marker.second) :=
        fun same => marker.distinct same.2
      exact (if_neg other).trans (congrArg (Option.map (· + 1)) behind)
    | cons next before =>
      have other := (List.isChain_cons_cons.mp free).1
      exact (if_neg other).trans (congrArg (Option.map (· + 1)) behind)

/-- A list is divided at its first marker in one way. -/
theorem append_inj {before before' after after' : List Symbol} (free : marker.Free before)
    (free' : marker.Free before')
    (same : before ++ marker.first :: marker.second :: after =
      before' ++ marker.first :: marker.second :: after') : before = before' ∧ after = after' := by
  have lengths : some before.length = some before'.length := by
    rw [← find_append free after, same, find_append free']
  obtain ⟨sameBefore, sameBehind⟩ := List.append_inj same (Option.some.inj lengths)
  cases sameBehind
  exact ⟨sameBefore, rfl⟩

omit [DecidableEq Symbol] in
theorem not_free_append {before after : List Symbol} :
    ¬ marker.Free (before ++ marker.first :: marker.second :: after) := by
  intro free
  exact (List.isChain_append_cons_cons.mp free).2.1 ⟨rfl, rfl⟩

end Marker

/-! ### The frames of a stream -/

variable (opening closing : Marker Symbol)

/-- A frame with its markers around its body. -/
def frameOf (body : List Symbol) : List Symbol :=
  opening.first :: opening.second :: (body ++ [closing.first, closing.second])

/-- The frames of a stream: in the gaps between them there is no opening marker, and in their bodies
no closing one. -/
inductive Splits : List Symbol → List (List Symbol) → Prop
  | gap {gap} (free : opening.Free gap) : Splits gap []
  | unfinished {gap body} (free : opening.Free gap) (unclosed : closing.Free body) :
    Splits (gap ++ opening.first :: opening.second :: body) []
  | frame {gap body rest frames} (free : opening.Free gap) (unclosed : closing.Free body)
    (behind : Splits rest frames) :
    Splits (gap ++ (frameOf opening closing body ++ rest)) (frameOf opening closing body :: frames)

variable {opening closing}

theorem frameOf_append (body rest : List Symbol) : frameOf opening closing body ++ rest =
    opening.first :: opening.second :: (body ++ closing.first :: closing.second :: rest) := by
  show _ :: _ :: (body ++ [closing.first, closing.second] ++ rest) = _
  rw [List.append_assoc]
  rfl

namespace Splits

/-- A stream has its frames in one way only. -/
theorem unique [DecidableEq Symbol] {stream : List Symbol} {frames frames' : List (List Symbol)}
    (splits : Splits opening closing stream frames)
    (splits' : Splits opening closing stream frames') : frames = frames' := by
  induction splits generalizing frames' with
  | gap free =>
    cases splits' with
    | gap _ | unfinished _ _ => rfl
    | frame _ _ _ => exact absurd free Marker.not_free_append
  | @unfinished gap body free unclosed =>
    generalize same : gap ++ opening.first :: opening.second :: body = stream at splits'
    cases splits' with
    | gap _ | unfinished _ _ => rfl
    | frame free' _ _ =>
      rw [frameOf_append] at same
      obtain ⟨-, rfl⟩ := Marker.append_inj free free' same
      exact absurd unclosed Marker.not_free_append
  | @frame gap body rest frames free unclosed behind inductionHypothesis =>
    generalize same : gap ++ (frameOf opening closing body ++ rest) = stream at splits'
    rw [frameOf_append] at same
    cases splits' with
    | gap free' =>
      rw [← same] at free'
      exact absurd free' Marker.not_free_append
    | unfinished free' unclosed' =>
      obtain ⟨-, rfl⟩ := Marker.append_inj free free' same
      exact absurd unclosed' Marker.not_free_append
    | frame free' unclosed' behind' =>
      rw [frameOf_append] at same
      obtain ⟨-, sameBodies⟩ := Marker.append_inj free free' same
      obtain ⟨rfl, rfl⟩ := Marker.append_inj unclosed unclosed' sameBodies
      rw [inductionHypothesis behind']

/-- What has no opening marker together with the symbols behind it, and is put in front of these,
is a part of the first gap. -/
theorem prepend {cut kept more : List Symbol} {frames : List (List Symbol)}
    (free : opening.Free (cut ++ kept)) (nonempty : kept ≠ [])
    (splits : Splits opening closing (kept ++ more) frames) :
    Splits opening closing (cut ++ (kept ++ more)) frames := by
  -- The gap ends within the kept symbols, or it goes on behind them.
  have longer : ∀ {gap behind}, kept ++ more = gap ++ behind → opening.Free gap →
      opening.Free (cut ++ gap) := by
    intro gap behind same freeGap
    rcases List.append_eq_append_iff.mp same with ⟨onward, rfl, _⟩ | ⟨onward, rfl, _⟩
    · rw [← List.append_assoc]
      exact List.IsChain.append_overlap free freeGap nonempty
    · rw [← List.append_assoc] at free
      exact List.IsChain.left_of_append free
  generalize same : kept ++ more = stream at splits
  cases splits with
  | gap freeGap => exact .gap (longer (same.trans (List.append_nil _).symm) freeGap)
  | unfinished freeGap unclosed =>
    rw [← List.append_assoc]
    exact .unfinished (longer same freeGap) unclosed
  | frame freeGap unclosed behind =>
    rw [← List.append_assoc]
    exact .frame (longer same freeGap) unclosed behind

/-- Further symbols in front of an opening marker are a gap. -/
theorem prepend_gap {gap behind : List Symbol} {frames : List (List Symbol)}
    (free : opening.Free gap)
    (splits : Splits opening closing (opening.first :: opening.second :: behind) frames) :
    Splits opening closing (gap ++ opening.first :: opening.second :: behind) frames :=
  prepend free.concat (List.cons_ne_nil _ _) splits

end Splits

end RcTaxi
