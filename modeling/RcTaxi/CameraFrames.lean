/-
This file models `camera_frames` of `run_csi_direct.py`: the loop that reads the bytes of the camera
as they arrive and cuts the pictures out of them, which `vision_runner.py` publishes from. Between
two reads it keeps what may still become a picture, and throws away what is too much. The pictures
are those of the stream of bytes, however it was divided into reads, and each is yielded with the
read that completes it.

Decoding a picture is left open; a picture that cannot be decoded is skipped. How the process of the
camera is ended is not modelled.
-/

import RcTaxi.MarkedFrames
import RcTaxi.Transition

namespace RcTaxi

/-- `b"\xff\xd8"`. -/
def startOfImage : Marker UInt8 := ⟨0xFF, 0xD8, by decide⟩

/-- `b"\xff\xd9"`. -/
def endOfImage : Marker UInt8 := ⟨0xFF, 0xD9, by decide⟩

/-- What comes of a round of the outer loop before the buffer is looked at. -/
inductive CameraRead
  | exited
  | silent
  | chunk (bytes : List UInt8)

/-- How the generator ends: it returns, or it raises `TimeoutError`. -/
inductive CameraEnd
  | returned
  | timeoutError
  deriving DecidableEq

structure CameraReader (Frame : Type) where
  buffer : List UInt8
  yielded : List Frame
  ending : Option CameraEnd

namespace CameraReader

/-! ### The buffer -/

/-- `2 * 1024 * 1024`. -/
def junkLimit : ℕ := 2 * 1024 * 1024

/-- A round of `while True`: the next picture, if the buffer has one, and what is left. -/
def cut (buffer : List UInt8) : Option (List UInt8) × List UInt8 :=
  match startOfImage.find buffer with
  | none => (none, if junkLimit < buffer.length then buffer.drop (buffer.length - 2) else buffer)
  | some start =>
    match (endOfImage.find (buffer.drop (start + 2))).map (· + (start + 2)) with
    | none => (none, if 0 < start then buffer.drop start else buffer)
    | some stop => (some ((buffer.take (stop + 2)).drop start), buffer.drop (stop + 2))

/-- `while True`: the pictures of the buffer in order, and what is left. -/
def cutLoop : ℕ → List UInt8 → List (List UInt8) × List UInt8
  | 0, buffer => ([], buffer)
  | rounds + 1, buffer =>
    match cut buffer with
    | (none, rest) => ([], rest)
    | (some jpeg, rest) => (jpeg :: (cutLoop rounds rest).1, (cutLoop rounds rest).2)

/-- A round that cuts a picture out shortens the buffer, so there are no more rounds than bytes. -/
def cutAll (buffer : List UInt8) : List (List UInt8) × List UInt8 :=
  cutLoop (buffer.length + 1) buffer

/-! ### The reader -/

variable {Frame : Type} (decode : List UInt8 → Option Frame)

def start : CameraReader Frame := ⟨[], [], none⟩

/-- A round of `camera_frames`. -/
def step (reader : CameraReader Frame) (read : CameraRead) : CameraReader Frame :=
  if reader.ending.isSome then reader
  else
    match read with
    | .exited => { reader with ending := some .returned }
    | .silent => { reader with ending := some .timeoutError }
    | .chunk bytes =>
      if bytes.isEmpty then { reader with ending := some .returned }
      else
        let (jpegs, rest) := cutAll (reader.buffer ++ bytes)
        { reader with buffer := rest, yielded := reader.yielded ++ jpegs.filterMap decode }

/-- The bytes that are read before the reader ends. -/
def received : List CameraRead → List UInt8
  | [] => []
  | .chunk bytes :: reads => if bytes.isEmpty then [] else bytes ++ received reads
  | _ :: _ => []

/-! ### A round of the inner loop -/

/-- What a round can do to the buffer. -/
inductive Cut : List UInt8 → Option (List UInt8) × List UInt8 → Prop
  | keep {buffer} (free : startOfImage.Free buffer) (short : buffer.length ≤ junkLimit) :
    Cut buffer (none, buffer)
  | drop {before kept} (free : startOfImage.Free (before ++ kept)) (two : kept.length = 2) :
    Cut (before ++ kept) (none, kept)
  | await {gap body} (free : startOfImage.Free gap) (unclosed : endOfImage.Free body) :
    Cut (gap ++ startOfImage.first :: startOfImage.second :: body)
      (none, startOfImage.first :: startOfImage.second :: body)
  | frame {gap body rest} (free : startOfImage.Free gap) (unclosed : endOfImage.Free body) :
    Cut (gap ++ (frameOf startOfImage endOfImage body ++ rest))
      (some (frameOf startOfImage endOfImage body), rest)

theorem cut_cases (buffer : List UInt8) : Cut buffer (cut buffer) := by
  unfold cut
  split
  next missing =>
    have free := Marker.find_eq_none.mp missing
    split
    next long =>
      have divided := List.take_append_drop (buffer.length - 2) buffer
      have two : (buffer.drop (buffer.length - 2)).length = 2 := by
        have atLeast : 2 ≤ buffer.length := le_trans (by decide : 2 ≤ junkLimit) long.le
        rw [List.length_drop]
        omega
      rw [← divided] at free
      have dropped := Cut.drop free two
      rwa [divided] at dropped
    next short => exact .keep free (not_lt.mp short)
  next start found =>
    obtain ⟨gap, after, rfl, rfl, free⟩ := Marker.exists_of_find found
    have behind : (gap ++ startOfImage.first :: startOfImage.second :: after).drop
        (gap.length + 2) = after := List.drop_length_add_append 2
    rw [behind]
    cases closed : endOfImage.find after with
    | none =>
      have unclosed := Marker.find_eq_none.mp closed
      have kept : (if 0 < gap.length then
          (gap ++ startOfImage.first :: startOfImage.second :: after).drop gap.length
        else gap ++ startOfImage.first :: startOfImage.second :: after) =
          startOfImage.first :: startOfImage.second :: after := by
        split
        next => exact List.drop_left
        next empty =>
          rw [List.length_eq_zero_iff.mp (Nat.eq_zero_of_not_pos empty)]
          rfl
      rw [Option.map_none]
      show Cut _ (none, if 0 < gap.length then _ else _)
      rw [kept]
      exact .await free unclosed
    | some stop =>
      obtain ⟨body, rest, rfl, rfl, unclosed⟩ := Marker.exists_of_find closed
      have whole : gap ++ startOfImage.first :: startOfImage.second ::
          (body ++ endOfImage.first :: endOfImage.second :: rest) =
            (gap ++ frameOf startOfImage endOfImage body) ++ rest := by
        rw [List.append_assoc, frameOf_append]
      have length : (gap ++ frameOf startOfImage endOfImage body).length =
          body.length + (gap.length + 2) + 2 := by
        simp only [frameOf, List.length_append, List.length_cons, List.length_nil]
        omega
      rw [Option.map_some, whole]
      show Cut _ (some _, _)
      rw [List.take_left' length, List.drop_left' length, List.drop_left, List.append_assoc]
      exact .frame free unclosed

/-- The frames of what is left, behind the picture of the round, are those of the buffer. -/
theorem Cut.splits {buffer rest more : List UInt8} {jpeg : Option (List UInt8)}
    {jpegs : List (List UInt8)} (round : Cut buffer (jpeg, rest))
    (splits : Splits startOfImage endOfImage (rest ++ more) jpegs) :
    Splits startOfImage endOfImage (buffer ++ more) (jpeg.toList ++ jpegs) := by
  cases round with
  | keep free short => exact splits
  | drop free two =>
    rw [List.append_assoc]
    exact Splits.prepend free (List.ne_nil_of_length_pos (two ▸ Nat.two_pos)) splits
  | await free unclosed =>
    rw [List.append_assoc]
    exact Splits.prepend_gap free splits
  | frame free unclosed =>
    rw [List.append_assoc, List.append_assoc]
    exact .frame free unclosed splits

/-- What is kept between two reads: too little to throw away, or a picture that is not complete. -/
def Settled (buffer : List UInt8) : Prop :=
  startOfImage.Free buffer ∧ buffer.length ≤ junkLimit ∨
    ∃ body, buffer = startOfImage.first :: startOfImage.second :: body ∧ endOfImage.Free body

theorem Settled.splits {buffer : List UInt8} (settled : Settled buffer) :
    Splits startOfImage endOfImage buffer [] := by
  rcases settled with ⟨free, _⟩ | ⟨body, rfl, unclosed⟩
  · exact .gap free
  · exact .unfinished List.isChain_nil unclosed

theorem Cut.settled {buffer rest : List UInt8} (round : Cut buffer (none, rest)) : Settled rest := by
  cases round with
  | keep free short => exact .inl ⟨free, short⟩
  | drop free two => exact .inl ⟨List.IsChain.right_of_append free, two.le.trans (by decide)⟩
  | await free unclosed => exact .inr ⟨_, rfl, unclosed⟩

theorem Cut.suffix {buffer rest : List UInt8} {jpeg : Option (List UInt8)}
    (round : Cut buffer (jpeg, rest)) : rest <:+ buffer := by
  cases round with
  | keep free short => exact List.suffix_rfl
  | drop free two => exact List.suffix_append _ _
  | await free unclosed => exact List.suffix_append _ _
  | frame free unclosed => exact (List.suffix_append _ _).trans (List.suffix_append _ _)

theorem Cut.shorter {buffer rest jpeg : List UInt8} (round : Cut buffer (some jpeg, rest)) :
    rest.length < buffer.length := by
  cases round with
  | frame free unclosed =>
    simp only [frameOf, List.length_append, List.length_cons]
    omega

/-! ### The loop -/

theorem cutLoop_none {buffer rest : List UInt8} (found : cut buffer = (none, rest)) (rounds : ℕ) :
    cutLoop (rounds + 1) buffer = ([], rest) := by
  rw [cutLoop, found]

theorem cutLoop_some {buffer rest jpeg : List UInt8} (found : cut buffer = (some jpeg, rest))
    (rounds : ℕ) : cutLoop (rounds + 1) buffer =
      (jpeg :: (cutLoop rounds rest).1, (cutLoop rounds rest).2) := by
  rw [cutLoop, found]

/-- The frames of what the loop leaves, behind those it has cut out, are those of the buffer. -/
theorem splits_cutLoop (rounds : ℕ) {buffer more : List UInt8} {jpegs : List (List UInt8)}
    (splits : Splits startOfImage endOfImage ((cutLoop rounds buffer).2 ++ more) jpegs) :
    Splits startOfImage endOfImage (buffer ++ more) ((cutLoop rounds buffer).1 ++ jpegs) := by
  induction rounds generalizing buffer with
  | zero => exact splits
  | succ rounds inductionHypothesis =>
    have round := cut_cases buffer
    rcases found : cut buffer with ⟨_ | jpeg, rest⟩
    · rw [found] at round
      rw [cutLoop_none found] at splits ⊢
      exact round.splits splits
    · rw [found] at round
      rw [cutLoop_some found] at splits ⊢
      exact round.splits (inductionHypothesis splits)

/-- With more rounds than bytes the loop ends by itself, and leaves a part of the end. -/
theorem cutLoop_settled {rounds : ℕ} {buffer : List UInt8} (enough : buffer.length < rounds) :
    Settled (cutLoop rounds buffer).2 ∧ (cutLoop rounds buffer).2 <:+ buffer := by
  induction rounds generalizing buffer with
  | zero => exact absurd enough (Nat.not_lt_zero _)
  | succ rounds inductionHypothesis =>
    have round := cut_cases buffer
    rcases found : cut buffer with ⟨_ | jpeg, rest⟩
    · rw [found] at round
      rw [cutLoop_none found]
      exact ⟨round.settled, round.suffix⟩
    · rw [found] at round
      rw [cutLoop_some found]
      have fewer : rest.length < rounds :=
        Nat.lt_of_lt_of_le round.shorter (Nat.lt_succ_iff.mp enough)
      obtain ⟨settled, suffix⟩ := inductionHypothesis fewer
      exact ⟨settled, suffix.trans round.suffix⟩

theorem cutAll_settled (buffer : List UInt8) :
    Settled (cutAll buffer).2 ∧ (cutAll buffer).2 <:+ buffer :=
  cutLoop_settled (Nat.lt_succ_self _)

/-- Every stream of bytes has its frames. -/
theorem exists_splits (stream : List UInt8) :
    ∃ jpegs, Splits startOfImage endOfImage stream jpegs := by
  have last := (cutAll_settled stream).1.splits
  rw [← List.append_nil (cutAll stream).2] at last
  have splits := splits_cutLoop _ last
  rw [List.append_nil] at splits
  exact ⟨_, splits⟩

/-! ### The run of the reader -/

variable {decode} {reader : CameraReader Frame}

theorem step_ended (ended : reader.ending.isSome = true) (read : CameraRead) :
    step decode reader read = reader := if_pos ended

/-- A reader that has ended stays as it is. -/
theorem run_ended (ended : reader.ending.isSome = true) (reads : List CameraRead) :
    Transition.run (step decode) reader reads = reader := by
  induction reads with
  | nil => rfl
  | cons read reads inductionHypothesis =>
    rw [Transition.run_cons, step_ended ended, inductionHypothesis]

/-- A read of some bytes cuts the buffer with them. -/
theorem step_chunk (running : reader.ending = none) {bytes : List UInt8} (some_ : bytes ≠ []) :
    step decode reader (.chunk bytes) =
      ⟨(cutAll (reader.buffer ++ bytes)).2,
        reader.yielded ++ (cutAll (reader.buffer ++ bytes)).1.filterMap decode, none⟩ := by
  obtain ⟨buffer, yielded, ending⟩ := reader
  cases running
  cases bytes with
  | nil => exact absurd rfl some_
  | cons byte bytes => rfl

/-- A read of nothing ends the reader, and nothing is received behind it. -/
theorem step_end (running : reader.ending = none) {read : CameraRead}
    (nothing : ∀ byte bytes, read ≠ .chunk (byte :: bytes)) (reads : List CameraRead) :
    ∃ ending, step decode reader read = { reader with ending := some ending } ∧
      received (read :: reads) = [] := by
  obtain ⟨buffer, yielded, ending⟩ := reader
  cases running
  cases read with
  | exited => exact ⟨.returned, rfl, rfl⟩
  | silent => exact ⟨.timeoutError, rfl, rfl⟩
  | chunk bytes =>
    cases bytes with
    | nil => exact ⟨.returned, rfl, rfl⟩
    | cons byte bytes => exact absurd rfl (nothing byte bytes)

/-- From any buffer on, the pictures that are yielded are the frames of the buffer and of what is
received behind it, and what is kept is a part of their end. -/
theorem run_spec (running : reader.ending = none) (settled : Settled reader.buffer)
    (reads : List CameraRead) {jpegs : List (List UInt8)}
    (splits : Splits startOfImage endOfImage (reader.buffer ++ received reads) jpegs) :
    (Transition.run (step decode) reader reads).yielded =
        reader.yielded ++ jpegs.filterMap decode ∧
      Settled (Transition.run (step decode) reader reads).buffer ∧
      (Transition.run (step decode) reader reads).buffer <:+ reader.buffer ++ received reads := by
  induction reads generalizing reader jpegs with
  | nil =>
    rw [received, List.append_nil] at splits ⊢
    cases splits.unique settled.splits
    exact ⟨(List.append_nil _).symm, settled, List.suffix_rfl⟩
  | cons read reads inductionHypothesis =>
    by_cases arrives : ∃ byte bytes, read = .chunk (byte :: bytes)
    · obtain ⟨byte, bytes, rfl⟩ := arrives
      rw [Transition.run_cons, step_chunk running (List.cons_ne_nil byte bytes)]
      have all : reader.buffer ++ received (.chunk (byte :: bytes) :: reads) =
          (reader.buffer ++ (byte :: bytes)) ++ received reads := (List.append_assoc ..).symm
      rw [all] at splits ⊢
      obtain ⟨later, splitsLater⟩ :=
        exists_splits ((cutAll (reader.buffer ++ (byte :: bytes))).2 ++ received reads)
      cases splits.unique (splits_cutLoop _ splitsLater)
      obtain ⟨settledNext, suffixNext⟩ := cutAll_settled (reader.buffer ++ (byte :: bytes))
      let next : CameraReader Frame := ⟨(cutAll (reader.buffer ++ (byte :: bytes))).2,
        reader.yielded ++ (cutAll (reader.buffer ++ (byte :: bytes))).1.filterMap decode, none⟩
      have runningNext : next.ending = none := rfl
      obtain ⟨yielded, settledLast, suffix⟩ :=
        inductionHypothesis runningNext settledNext splitsLater
      refine ⟨?_, settledLast, suffix.trans ?_⟩
      · rw [yielded, List.append_assoc, ← List.filterMap_append]
        rfl
      · obtain ⟨front, same⟩ := suffixNext
        exact ⟨front, by rw [← List.append_assoc, same]⟩
    · have nothing : ∀ byte bytes, read ≠ .chunk (byte :: bytes) :=
        fun byte bytes same => arrives ⟨byte, bytes, same⟩
      obtain ⟨ending, ends, empty⟩ : ∃ ending, step decode reader read =
          { reader with ending := some ending } ∧ received (read :: reads) = [] :=
        step_end running nothing reads
      rw [empty, List.append_nil] at splits ⊢
      rw [Transition.run_cons, ends, run_ended rfl]
      cases splits.unique settled.splits
      exact ⟨(List.append_nil _).symm, settled, List.suffix_rfl⟩

/-- The bytes that are read have their frames in one way only, and whatever the reads they came in,
the pictures that were yielded after any number of reads are those frames, as far as they can be
decoded. So a picture is yielded with the read that completes it, and pictures with anything between
them but an opening marker are yielded as they are. -/
theorem camera_frames_are_those_of_the_stream (decode : List UInt8 → Option Frame)
    (reads : List CameraRead) :
    (∃! jpegs, Splits startOfImage endOfImage (received reads) jpegs) ∧
    ∀ jpegs, Splits startOfImage endOfImage (received reads) jpegs →
      ∀ reads', received reads' = received reads →
        (Transition.run (step decode) start reads').yielded = jpegs.filterMap decode := by
  obtain ⟨jpegs, splits⟩ := exists_splits (received reads)
  refine ⟨⟨jpegs, splits, fun other splits' => splits'.unique splits⟩, ?_⟩
  intro jpegs splits reads' same
  have empty : Settled (start : CameraReader Frame).buffer :=
    .inl ⟨List.isChain_nil, Nat.zero_le _⟩
  rw [← same] at splits
  exact (run_spec rfl empty reads' splits).1

/-- Between two reads the buffer is a part of the end of what was read, and more than two mebibytes
only while a picture is open, and then it begins with that picture. -/
theorem camera_buffer_is_bounded (decode : List UInt8 → Option Frame) (reads : List CameraRead) :
    let reader := Transition.run (step decode) start reads
    reader.buffer <:+ received reads ∧
      (junkLimit < reader.buffer.length → ∃ body,
        reader.buffer = startOfImage.first :: startOfImage.second :: body ∧
          endOfImage.Free body) := by
  intro reader
  obtain ⟨jpegs, splits⟩ := exists_splits (received reads)
  have empty : Settled (start : CameraReader Frame).buffer :=
    .inl ⟨List.isChain_nil, Nat.zero_le _⟩
  obtain ⟨-, settled, suffix⟩ :
      reader.yielded = [] ++ jpegs.filterMap decode ∧ Settled reader.buffer ∧
        reader.buffer <:+ [] ++ received reads := run_spec rfl empty reads splits
  refine ⟨suffix, fun long => ?_⟩
  rcases settled with ⟨_, short⟩ | isOpen
  · exact absurd long (not_lt.mpr short)
  · exact isOpen

/-- Two reads that part a marker. -/
example : (Transition.run (step some) start
    [.chunk [0x2D, 0xFF], .chunk [0xD8, 0x01, 0xFF], .chunk [0xD9, 0x0D], .silent]).yielded =
      [[0xFF, 0xD8, 0x01, 0xFF, 0xD9]] := by
  decide +kernel

end CameraReader

end RcTaxi
