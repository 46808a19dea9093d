/-
This file is a library about logs of stamped messages. A message may open an episode under
its stamp, repeat the stamp of the open episode, or close the episode. A log is in order when
a reader who remembers the open stamp, and nothing else, can follow it: an open episode is
opened again under its own stamp only, and what is repeated is the open stamp.

In such a log the stamps between two closings agree, and nothing is repeated before the
first opening or between a closing and the next opening.
-/

import Mathlib.Data.List.Basic
import Mathlib.Data.Option.Basic

namespace RcTaxi

namespace Stamps

/-- What a message does to the open episode. -/
inductive Role (Stamp : Type)
  | opens (stamp : Stamp)
  | repeats (stamp : Stamp)
  | closes
  | other

variable {Stamp : Type}

/-- The stamp a message carries. -/
def Role.stamp? : Role Stamp → Option Stamp
  | .opens stamp | .repeats stamp => some stamp
  | .closes | .other => none

/-- The log can be followed from one open stamp to another. -/
inductive Follows : Option Stamp → List (Role Stamp) → Option Stamp → Prop
  | nil {current : Option Stamp} : Follows current [] current
  | opens {current final : Option Stamp} {stamp : Stamp} {log : List (Role Stamp)}
    (same : ∀ openStamp, current = some openStamp → openStamp = stamp)
    (rest : Follows (some stamp) log final) : Follows current (.opens stamp :: log) final
  | repeats {final : Option Stamp} {stamp : Stamp} {log : List (Role Stamp)}
    (rest : Follows (some stamp) log final) : Follows (some stamp) (.repeats stamp :: log) final
  | closes {current final : Option Stamp} {log : List (Role Stamp)} (rest : Follows none log final) :
    Follows current (.closes :: log) final
  | other {current final : Option Stamp} {log : List (Role Stamp)}
    (rest : Follows current log final) : Follows current (.other :: log) final

/-- Two logs are followed one after the other. -/
theorem Follows.append {current middle final : Option Stamp} {first second : List (Role Stamp)}
    (before : Follows current first middle) (after : Follows middle second final) :
    Follows current (first ++ second) final := by
  induction before with
  | nil => exact after
  | opens same _ inductionHypothesis => exact Follows.opens same (inductionHypothesis after)
  | repeats _ inductionHypothesis => exact Follows.repeats (inductionHypothesis after)
  | closes _ inductionHypothesis => exact Follows.closes (inductionHypothesis after)
  | other _ inductionHypothesis => exact Follows.other (inductionHypothesis after)

/-- A log that is followed is followed in its parts. -/
theorem Follows.split {current final : Option Stamp} {first second : List (Role Stamp)}
    (whole : Follows current (first ++ second) final) :
    ∃ middle, Follows current first middle ∧ Follows middle second final := by
  induction first generalizing current with
  | nil => exact ⟨current, Follows.nil, whole⟩
  | cons role rest inductionHypothesis =>
    cases whole with
    | opens same whole =>
      obtain ⟨middle, before, after⟩ := inductionHypothesis whole
      exact ⟨middle, Follows.opens same before, after⟩
    | repeats whole =>
      obtain ⟨middle, before, after⟩ := inductionHypothesis whole
      exact ⟨middle, Follows.repeats before, after⟩
    | closes whole =>
      obtain ⟨middle, before, after⟩ := inductionHypothesis whole
      exact ⟨middle, Follows.closes before, after⟩
    | other whole =>
      obtain ⟨middle, before, after⟩ := inductionHypothesis whole
      exact ⟨middle, Follows.other before, after⟩

/-- Until a closing, every stamp is the open one. -/
theorem Follows.stamp_eq {openStamp : Stamp} {log : List (Role Stamp)} {final : Option Stamp}
    (follows : Follows (some openStamp) log final) (unclosed : Role.closes ∉ log)
    {role : Role Stamp} (member : role ∈ log) {stamp : Stamp} (stamped : role.stamp? = some stamp) :
    stamp = openStamp := by
  induction log with
  | nil => exact absurd member List.not_mem_nil
  | cons head rest inductionHypothesis =>
    have later : Follows (some openStamp) rest final → role ∈ rest → stamp = openStamp :=
      fun follows inRest => inductionHypothesis follows
        (fun closed => unclosed (List.mem_cons_of_mem _ closed)) inRest
    cases follows with
    | opens same follows =>
      have equal := same openStamp rfl
      subst equal
      rcases List.mem_cons.mp member with rfl | inRest
      · exact (Option.some.inj stamped).symm
      · exact later follows inRest
    | repeats follows =>
      rcases List.mem_cons.mp member with rfl | inRest
      · exact (Option.some.inj stamped).symm
      · exact later follows inRest
    | closes follows => exact absurd List.mem_cons_self unclosed
    | other follows =>
      rcases List.mem_cons.mp member with rfl | inRest
      · cases stamped
      · exact later follows inRest

/-- Without a closing all stamps agree. -/
theorem Follows.stamps_agree {current final : Option Stamp} {log : List (Role Stamp)}
    (follows : Follows current log final) (unclosed : Role.closes ∉ log)
    {first second : Role Stamp} (firstMember : first ∈ log) (secondMember : second ∈ log)
    {stamp stamp' : Stamp} (firstStamped : first.stamp? = some stamp)
    (secondStamped : second.stamp? = some stamp') : stamp = stamp' := by
  induction log generalizing current with
  | nil => exact absurd firstMember List.not_mem_nil
  | cons head rest inductionHypothesis =>
    cases follows with
    | opens same follows =>
      have opened : Follows (some _) (.opens _ :: rest) final :=
        Follows.opens (fun _ equal => (Option.some.inj equal).symm) follows
      exact (opened.stamp_eq unclosed firstMember firstStamped).trans
        (opened.stamp_eq unclosed secondMember secondStamped).symm
    | repeats follows =>
      have opened := Follows.repeats follows
      exact (opened.stamp_eq unclosed firstMember firstStamped).trans
        (opened.stamp_eq unclosed secondMember secondStamped).symm
    | closes follows => exact absurd List.mem_cons_self unclosed
    | other follows =>
      rcases List.mem_cons.mp firstMember with rfl | firstInRest
      · cases firstStamped
      rcases List.mem_cons.mp secondMember with rfl | secondInRest
      · cases secondStamped
      exact inductionHypothesis follows
        (fun closed => unclosed (List.mem_cons_of_mem _ closed)) firstInRest secondInRest

/-- Where nothing is open, something is opened before anything is repeated. -/
theorem Follows.exists_opens {log : List (Role Stamp)} {stamp : Stamp} {final : Option Stamp}
    (follows : Follows none (log ++ [.repeats stamp]) final) : ∃ opened, Role.opens opened ∈ log := by
  induction log with
  | nil => cases follows
  | cons head rest inductionHypothesis =>
    cases follows with
    | opens _ _ => exact ⟨_, List.mem_cons_self⟩
    | closes follows | other follows =>
      obtain ⟨opened, member⟩ := inductionHypothesis follows
      exact ⟨opened, List.mem_cons_of_mem _ member⟩

/-! ### Logs in order -/

/-- A log of messages with roles is in order: the stamps of a stretch without a closing agree, and
before a repetition something was opened, since the last closing or since the beginning. -/
structure InOrder {Message : Type} (role : Message → Role Stamp) (log : List Message) : Prop where
  oneStamp : ∀ before middle after, log = before ++ middle ++ after →
    (∀ message ∈ middle, role message ≠ .closes) → ∀ first ∈ middle, ∀ second ∈ middle,
      ∀ stamp stamp', (role first).stamp? = some stamp → (role second).stamp? = some stamp' →
        stamp = stamp'
  openedAfterClosing : ∀ before closing middle repeating after stamp,
    log = before ++ closing :: (middle ++ repeating :: after) → role closing = .closes →
      role repeating = .repeats stamp → ∃ message ∈ middle, ∃ opened, role message = .opens opened
  openedFirst : ∀ middle repeating after stamp, log = middle ++ repeating :: after →
    role repeating = .repeats stamp → ∃ message ∈ middle, ∃ opened, role message = .opens opened

/-- A log that can be followed is in order. -/
theorem Follows.inOrder {Message : Type} {role : Message → Role Stamp} {log : List Message}
    {final : Option Stamp} (follows : Follows none (log.map role) final) : InOrder role log := by
  constructor
  · intro before middle after parts unclosed first firstMember second secondMember stamp stamp'
      firstStamped secondStamped
    rw [parts, List.map_append, List.map_append, List.append_assoc] at follows
    obtain ⟨_, _, follows⟩ := follows.split
    obtain ⟨_, follows, _⟩ := follows.split
    refine follows.stamps_agree (fun closed => ?_) (List.mem_map_of_mem firstMember)
      (List.mem_map_of_mem secondMember) firstStamped secondStamped
    obtain ⟨message, member, closes⟩ := List.mem_map.mp closed
    exact unclosed message member closes
  · intro before closing middle repeating after stamp parts closes repeats
    rw [parts, List.map_append, List.map_cons, closes] at follows
    obtain ⟨_, _, follows⟩ := follows.split
    cases follows with
    | closes follows =>
      rw [List.map_append, List.map_cons, repeats, List.append_cons] at follows
      obtain ⟨_, follows, _⟩ := follows.split
      obtain ⟨opened, member⟩ := follows.exists_opens
      obtain ⟨message, inMiddle, opens⟩ := List.mem_map.mp member
      exact ⟨message, inMiddle, opened, opens⟩
  · intro middle repeating after stamp parts repeats
    rw [parts, List.map_append, List.map_cons, repeats, List.append_cons] at follows
    obtain ⟨_, follows, _⟩ := follows.split
    obtain ⟨opened, member⟩ := follows.exists_opens
    obtain ⟨message, inMiddle, opens⟩ := List.mem_map.mp member
    exact ⟨message, inMiddle, opened, opens⟩

end Stamps

end RcTaxi
