/-
This file models how the vision hands its results to the car: `publish_atomic` of
`vision_runner/vision_runner.py` writes a text to a file beside the published one and renames it,
and `RealSegModel.latest` and `FileMarkSource.latest_payload` open the published file and read it.
Text is written and read in parts of any size, and the vision may die at any moment and be started
again.

A read that ends has the whole of one published text, the one that was published when the file was
opened. So a read may be taken for a single step, as the model of the observations takes it.
-/

import RcTaxi.FileSystem
import RcTaxi.VisionFreshness

namespace RcTaxi

/-! ### The vision and its readers -/

/-- The published file, and the one beside it. -/
inductive VisionFile
  | path
  | tmp
  deriving DecidableEq

/-- The vision inside `publish_atomic`: the open file, what is still to be written, and the whole
text. -/
structure Publishing (Byte : Type) where
  file : ℕ
  rest : List Byte
  text : List Byte

/-- A reader inside `read_text`: the open file and what it has read. The program does not keep how
many texts were published when the file was opened. -/
structure Reading (Byte : Type) where
  file : ℕ
  got : List Byte
  opened : ℕ

/-- A read that has ended, or that found no file. -/
structure ReadResult (Byte : Type) where
  reader : ℕ
  text : Option (List Byte)
  opened : ℕ

/-- The files, the vision, the readers, the texts that were published, and the reads that ended. -/
structure VisionFiles (Byte : Type) where
  files : FileSystem VisionFile Byte
  publishing : Option (Publishing Byte)
  readers : ℕ → Option (Reading Byte)
  published : List (List Byte)
  results : List (ReadResult Byte)

/-- The steps of the vision: those of `publish_atomic`, and its end. -/
inductive PublishStep (Byte : Type)
  | openTmp (text : List Byte)
  | write (count : ℕ)
  | replace
  | crash

/-- What happens next. -/
inductive FileLabel (Byte : Type)
  | vision (next : PublishStep Byte)
  | openPath (reader : ℕ)
  | read (reader count : ℕ)

namespace VisionFiles

variable {Byte : Type}

/-- No file is there. -/
def start : VisionFiles Byte := ⟨.empty, none, fun _ => none, [], []⟩

/-- A step of the vision. A vision that is started again writes over what it left behind. -/
def publish (system : VisionFiles Byte) : PublishStep Byte → VisionFiles Byte
  | .openTmp text => match system.publishing with
    | none => { system with
        files := (system.files.openWrite .tmp).2
        publishing := some ⟨(system.files.openWrite .tmp).1, text, text⟩ }
    | some _ => system
  | .write count => match system.publishing with
    | some ⟨file, rest, text⟩ => { system with
        files := system.files.append file (rest.take count)
        publishing := some ⟨file, rest.drop count, text⟩ }
    | none => system
  | .replace => match system.publishing with
    | some ⟨_, [], text⟩ => { system with
        files := system.files.replace .tmp .path
        publishing := none
        published := system.published ++ [text] }
    | _ => system
  | .crash => { system with publishing := none }

/-- A part of a read; the read ends where nothing more is found. -/
def readPart (reader count : ℕ) (system : VisionFiles Byte) (reading : Reading Byte) :
    VisionFiles Byte :=
  let rest := (system.files.contents reading.file).drop reading.got.length
  if rest.isEmpty then { system with
    readers := Function.update system.readers reader none
    results := system.results ++ [⟨reader, some reading.got, reading.opened⟩] }
  else { system with
    readers := Function.update system.readers reader
      (some { reading with got := reading.got ++ rest.take count }) }

/-- A step of the vision or of a reader. -/
def step (system : VisionFiles Byte) : FileLabel Byte → VisionFiles Byte
  | .vision next => system.publish next
  | .openPath reader => match system.readers reader, system.files.names .path with
    | none, some file => { system with
        readers := Function.update system.readers reader
          (some ⟨file, [], system.published.length⟩) }
    | none, none => { system with
        results := system.results ++ [⟨reader, none, system.published.length⟩] }
    | some _, _ => system
  | .read reader count => match system.readers reader with
    | some reading => readPart reader count system reading
    | none => system

/-! ### What is published -/

/-- A file the vision will not write to again. -/
def Sealed (system : VisionFiles Byte) (file : ℕ) : Prop :=
  system.files.Sealed .tmp (system.publishing.map Publishing.file) file

/-- What the vision is writing: the file is under its name, and with the rest it is the text. -/
structure Writing (system : VisionFiles Byte) (publishing : Publishing Byte) : Prop where
  name : system.files.names .tmp = some publishing.file
  there : publishing.file < system.files.next
  text : system.files.contents publishing.file ++ publishing.rest = publishing.text

/-- What is published: nothing, or a sealed file with the last of the texts. -/
structure Shown (system : VisionFiles Byte) : Prop where
  proper : system.files.Proper
  writing : ∀ publishing, system.publishing = some publishing → system.Writing publishing
  path : ∀ file, system.files.names .path = some file →
    system.Sealed file ∧ system.published.getLast? = some (system.files.contents file)
  absent : system.files.names .path = none → system.published = []

/-- A step of the vision keeps the sealed files, and publishes further. -/
structure Kept (before after : VisionFiles Byte) : Prop where
  files : ∀ file, before.Sealed file →
    after.Sealed file ∧ after.files.contents file = before.files.contents file
  published : before.published <+: after.published
  readers : after.readers = before.readers
  results : after.results = before.results

theorem shown_start : (start : VisionFiles Byte).Shown where
  proper _ _ leads := nomatch leads
  writing _ isWriting := nomatch isWriting
  path _ leads := nomatch leads
  absent _ := rfl

theorem Kept.refl (system : VisionFiles Byte) : Kept system system :=
  ⟨fun _ isSealed => ⟨isSealed, rfl⟩, List.prefix_refl _, rfl, rfl⟩

/-- Where the published name and the texts stay, a file that is sealed stays published. -/
theorem Shown.path_of_kept {before after : VisionFiles Byte} (shown : before.Shown)
    (kept : Kept before after) (names : after.files.names .path = before.files.names .path)
    (published : after.published = before.published) (file : ℕ)
    (leads : after.files.names .path = some file) :
    after.Sealed file ∧ after.published.getLast? = some (after.files.contents file) := by
  obtain ⟨isSealed, last⟩ := shown.path file (names.symm.trans leads)
  obtain ⟨isSealed, contents⟩ := kept.files file isSealed
  exact ⟨isSealed, by rw [published, last, contents]⟩

theorem Shown.openTmp {system : VisionFiles Byte} (shown : system.Shown) (text : List Byte) :
    let after : VisionFiles Byte := { system with
      files := (system.files.openWrite .tmp).2
      publishing := some ⟨(system.files.openWrite .tmp).1, text, text⟩ }
    after.Shown ∧ Kept system after := by
  intro after
  have opened := FileSystem.opened_openWrite shown.proper .tmp
  have names : after.files.names .path = system.files.names .path := by
    rw [show after.files.names = _ from opened.names]
    exact Function.update_of_ne (by decide) ..
  have kept : Kept system after :=
    { files := fun file isSealed => FileSystem.Sealed.openWrite isSealed shown.proper
      published := List.prefix_refl _
      readers := rfl
      results := rfl }
  refine ⟨⟨opened.proper shown.proper, fun publishing same => ?_, ?_, fun none => ?_⟩, kept⟩
  · cases same
    refine ⟨?_, opened.next.2, ?_⟩
    · rw [show after.files.names = _ from opened.names, Function.update_self]
    · rw [show after.files.contents _ = [] from opened.empty, List.nil_append]
  · exact shown.path_of_kept kept names rfl
  · exact shown.absent (names.symm.trans none)

theorem Shown.write {system : VisionFiles Byte} (shown : system.Shown) {file : ℕ}
    {rest text : List Byte} (isWriting : system.publishing = some ⟨file, rest, text⟩) (count : ℕ) :
    let after : VisionFiles Byte := { system with
      files := system.files.append file (rest.take count)
      publishing := some ⟨file, rest.drop count, text⟩ }
    after.Shown ∧ Kept system after := by
  intro after
  have writing := shown.writing _ isWriting
  have kept : Kept system after :=
    { files := fun file isSealed => by
        rw [Sealed, isWriting] at isSealed
        exact FileSystem.Sealed.append isSealed
      published := List.prefix_refl _
      readers := rfl
      results := rfl }
  refine ⟨⟨shown.proper, fun publishing same => ?_, ?_, shown.absent⟩, kept⟩
  · cases same
    refine ⟨writing.name, writing.there, ?_⟩
    rw [show after.files.contents file = _ from Function.update_self .., List.append_assoc,
      List.take_append_drop]
    exact writing.text
  · exact shown.path_of_kept kept rfl rfl

theorem Shown.replace {system : VisionFiles Byte} (shown : system.Shown) {file : ℕ}
    {text : List Byte} (isWriting : system.publishing = some ⟨file, [], text⟩) :
    let after : VisionFiles Byte := { system with
      files := system.files.replace .tmp .path
      publishing := none
      published := system.published ++ [text] }
    after.Shown ∧ Kept system after := by
  intro after
  have writing := shown.writing _ isWriting
  have contents : system.files.contents file = text := (List.append_nil _).symm.trans writing.text
  have names : after.files.names .path = some file := by
    show Function.update (Function.update system.files.names .path (system.files.names .tmp)) .tmp
      none .path = some file
    rw [Function.update_of_ne (by decide), Function.update_self]
    exact writing.name
  have kept : Kept system after :=
    { files := fun file isSealed => ⟨FileSystem.sealed_replace isSealed.there, rfl⟩
      published := List.prefix_append _ _
      readers := rfl
      results := rfl }
  refine ⟨⟨FileSystem.proper_replace shown.proper _ _, nofun, fun found leads => ?_, fun none => ?_⟩,
    kept⟩
  · cases names.symm.trans leads
    refine ⟨FileSystem.sealed_replace writing.there, ?_⟩
    rw [show after.published = _ from rfl, List.getLast?_concat]
    exact congrArg some contents.symm
  · cases names.symm.trans none

/-- Every step of the vision shows the last text whole, and keeps what is sealed. -/
theorem shown_publish {system : VisionFiles Byte} (shown : system.Shown) (next : PublishStep Byte) :
    (system.publish next).Shown ∧ Kept system (system.publish next) := by
  cases next with
  | openTmp text =>
    rw [publish]
    split
    · exact shown.openTmp text
    · exact ⟨shown, .refl system⟩
  | write count =>
    rw [publish]
    split
    next isWriting => exact shown.write isWriting count
    · exact ⟨shown, .refl system⟩
  | replace =>
    rw [publish]
    split
    next isWriting => exact shown.replace isWriting
    · exact ⟨shown, .refl system⟩
  | crash =>
    have kept : Kept system (system.publish .crash) :=
      { files := fun file isSealed => ⟨FileSystem.Sealed.close isSealed, rfl⟩
        published := List.prefix_refl _
        readers := rfl
        results := rfl }
    exact ⟨⟨shown.proper, nofun, shown.path_of_kept kept rfl rfl, shown.absent⟩, kept⟩

/-! ### What is read -/

/-- The text that was published when so many had been. -/
def shownAt (system : VisionFiles Byte) (count : ℕ) : Option (List Byte) :=
  (system.published.take count).getLast?

/-- A reader has a sealed file open, with the text that was published then, and a first part
of it. -/
structure ReadsOn (system : VisionFiles Byte) (reading : Reading Byte) : Prop where
  isSealed : system.Sealed reading.file
  before : reading.opened ≤ system.published.length
  text : system.shownAt reading.opened = some (system.files.contents reading.file)
  got : reading.got <+: system.files.contents reading.file

/-- What holds in every run of the vision and its readers. -/
structure Coherent (system : VisionFiles Byte) : Prop where
  shown : system.Shown
  readers : ∀ reader reading, system.readers reader = some reading → system.ReadsOn reading
  results : ∀ result ∈ system.results,
    result.opened ≤ system.published.length ∧ result.text = system.shownAt result.opened
  later : ∀ reader reading, system.readers reader = some reading → ∀ result ∈ system.results,
    result.reader = reader → result.opened ≤ reading.opened
  order : system.results.Pairwise fun first second =>
    first.reader = second.reader → first.opened ≤ second.opened

theorem coherent_start : (start : VisionFiles Byte).Coherent where
  shown := shown_start
  readers _ _ isReading := nomatch isReading
  results _ member := nomatch member
  later _ _ isReading := nomatch isReading
  order := List.Pairwise.nil

theorem Kept.shownAt {before after : VisionFiles Byte} (kept : Kept before after) {count : ℕ}
    (within : count ≤ before.published.length) : after.shownAt count = before.shownAt count := by
  obtain ⟨more, published⟩ := kept.published
  rw [VisionFiles.shownAt, ← published, List.take_append_of_le_length within]
  rfl

/-- A step of the vision changes nothing for the readers. -/
theorem Coherent.publish {system : VisionFiles Byte} (coherent : system.Coherent)
    (next : PublishStep Byte) : (system.publish next).Coherent := by
  obtain ⟨shown, kept⟩ := shown_publish coherent.shown next
  have longer := kept.published.length_le
  refine ⟨shown, fun reader reading isReading => ?_, fun result member => ?_, ?_, ?_⟩
  · rw [kept.readers] at isReading
    have readsOn := coherent.readers reader reading isReading
    obtain ⟨isSealed, contents⟩ := kept.files _ readsOn.isSealed
    refine ⟨isSealed, readsOn.before.trans longer, ?_, ?_⟩
    · rw [kept.shownAt readsOn.before, contents]
      exact readsOn.text
    · rw [contents]
      exact readsOn.got
  · rw [kept.results] at member
    obtain ⟨within, text⟩ := coherent.results result member
    exact ⟨within.trans longer, text.trans (kept.shownAt within).symm⟩
  · rw [kept.readers, kept.results]
    exact coherent.later
  · rw [kept.results]
    exact coherent.order

/-- What the readers are doing after one of them moves on. -/
theorem update_readers {readers : ℕ → Option (Reading Byte)} {reader other : ℕ}
    {next : Option (Reading Byte)} {reading : Reading Byte}
    (isReading : Function.update readers reader next other = some reading) :
    other = reader ∧ next = some reading ∨ other ≠ reader ∧ readers other = some reading := by
  rw [Function.update_apply] at isReading
  split at isReading
  next same => exact .inl ⟨same, isReading⟩
  next different => exact .inr ⟨different, isReading⟩

theorem shownAt_length (system : VisionFiles Byte) :
    system.shownAt system.published.length = system.published.getLast? := by
  rw [shownAt, List.take_length]

/-- Reading changes nothing that is shown. -/
theorem Shown.read {system : VisionFiles Byte} (shown : system.Shown)
    (readers : ℕ → Option (Reading Byte)) (results : List (ReadResult Byte)) :
    Shown { system with readers := readers, results := results } where
  proper := shown.proper
  writing publishing same := { shown.writing publishing same with }
  path := shown.path
  absent := shown.absent

/-- A read begins with a sealed file, and nothing of it. -/
theorem Coherent.opens {system : VisionFiles Byte} (coherent : system.Coherent) {reader file : ℕ}
    (leads : system.files.names .path = some file) :
    Coherent { system with
      readers := Function.update system.readers reader
        (some ⟨file, [], system.published.length⟩) } := by
  obtain ⟨isSealed, last⟩ := coherent.shown.path file leads
  refine ⟨coherent.shown.read _ _, fun other reading isReading => ?_, coherent.results,
    fun other reading isReading result member same => ?_, coherent.order⟩
  · rcases update_readers isReading with ⟨-, new⟩ | ⟨-, old⟩
    · cases new
      exact ⟨isSealed, le_refl _, system.shownAt_length.trans last, List.nil_prefix⟩
    · exact { coherent.readers other reading old with }
  · rcases update_readers isReading with ⟨-, new⟩ | ⟨-, old⟩
    · cases new
      exact (coherent.results result member).1
    · exact coherent.later other reading old result member same

/-- A read ends, with the text of the moment it was opened. -/
theorem Coherent.ends {system : VisionFiles Byte} (coherent : system.Coherent) (reader : ℕ)
    {text : Option (List Byte)} {opened : ℕ} (within : opened ≤ system.published.length)
    (whole : text = system.shownAt opened)
    (later : ∀ result ∈ system.results, result.reader = reader → result.opened ≤ opened) :
    Coherent { system with
      readers := Function.update system.readers reader none
      results := system.results ++ [⟨reader, text, opened⟩] } := by
  refine ⟨coherent.shown.read _ _, fun other reading isReading => ?_, fun result member => ?_,
    fun other reading isReading result member same => ?_, ?_⟩
  · rcases update_readers isReading with ⟨-, gone⟩ | ⟨-, old⟩
    · cases gone
    · exact { coherent.readers other reading old with }
  · rcases List.mem_append.mp member with old | new
    · exact coherent.results result old
    · cases List.mem_singleton.mp new
      exact ⟨within, whole⟩
  · rcases update_readers isReading with ⟨-, gone⟩ | ⟨different, active⟩
    · cases gone
    · rcases List.mem_append.mp member with old | new
      · exact coherent.later other reading active result old same
      · cases List.mem_singleton.mp new
        exact absurd same.symm different
  · refine List.pairwise_append.mpr ⟨coherent.order, List.pairwise_singleton _ _, ?_⟩
    intro first old second new same
    cases List.mem_singleton.mp new
    exact later first old same

/-- A part of a read is a further part of the same text, or the end of it. -/
theorem Coherent.readPart {system : VisionFiles Byte} (coherent : system.Coherent) {reader : ℕ}
    {reading : Reading Byte} (isReading : system.readers reader = some reading) (count : ℕ) :
    (system.readPart reader count reading).Coherent := by
  have readsOn := coherent.readers reader reading isReading
  obtain ⟨rest, contents⟩ := readsOn.got
  have remaining : (system.files.contents reading.file).drop reading.got.length = rest := by
    rw [← contents, List.drop_left]
  unfold VisionFiles.readPart
  dsimp only
  rw [remaining]
  split
  next finished =>
    rw [List.isEmpty_iff] at finished
    rw [finished, List.append_nil] at contents
    refine coherent.ends reader readsOn.before ?_ (coherent.later reader reading isReading)
    rw [readsOn.text, contents]
  next =>
    refine ⟨coherent.shown.read _ _, fun other found isFound => ?_, coherent.results,
      fun other found isFound result member same => ?_, coherent.order⟩
    · rcases update_readers isFound with ⟨-, new⟩ | ⟨-, old⟩
      · cases new
        refine { readsOn with got := ⟨rest.drop count, ?_⟩ }
        rw [List.append_assoc, List.take_append_drop]
        exact contents
      · exact { coherent.readers other found old with }
    · rcases update_readers isFound with ⟨rfl, new⟩ | ⟨-, old⟩
      · cases new
        exact coherent.later other reading isReading result member same
      · exact coherent.later other found old result member same

theorem coherent_step (system : VisionFiles Byte) (label : FileLabel Byte)
    (coherent : system.Coherent) : (system.step label).Coherent := by
  cases label with
  | vision next => exact coherent.publish next
  | openPath reader =>
    rw [step]
    split
    next leads => exact coherent.opens leads
    next idle absent =>
      have nothing : none = system.shownAt system.published.length := by
        rw [shownAt_length, coherent.shown.absent absent, List.getLast?_nil]
      have ends := coherent.ends reader (le_refl _) nothing
        fun result member _ => (coherent.results result member).1
      have same : Function.update system.readers reader none = system.readers := by
        rw [← idle, Function.update_eq_self]
      rwa [same] at ends
    · exact coherent
  | read reader count =>
    rw [step]
    split
    next reading isReading => exact coherent.readPart isReading count
    · exact coherent

theorem coherent_run (labels : List (FileLabel Byte)) :
    (Transition.run step start labels).Coherent :=
  Transition.run_invariant coherent_step coherent_start labels

/-- Whatever parts the texts are written and read in, and wherever the vision dies, a read that ended
has the whole of the text that was published last when it was opened, or found no file where none had
been published; and a reader never goes back to an earlier text. -/
theorem reads_are_whole (labels : List (FileLabel Byte)) :
    let system := Transition.run step start labels
    (∀ result ∈ system.results, result.opened ≤ system.published.length ∧
        result.text = (system.published.take result.opened).getLast?) ∧
      system.results.Pairwise fun first second =>
        first.reader = second.reader → first.opened ≤ second.opened :=
  ⟨(coherent_run labels).results, (coherent_run labels).order⟩

/-! ### A read as a single step -/

variable {α : Type} [Scalar α]

/-- The payloads published one after the other, in the model where a read is one step. -/
theorem published_run (adapters : VisionAdapters α) (now : α) (payloads : List (PyValue α))
    (vision : Vision α) :
    (Transition.run adapters.step vision
      (payloads.map fun payload => .publish (some payload) now)).published =
        payloads.getLast?.or vision.published := by
  induction payloads generalizing vision with
  | nil => rfl
  | cons payload payloads inductionHypothesis =>
    rw [List.map_cons, Transition.run_cons, inductionHypothesis, List.getLast?_cons]
    cases payloads.getLast? with
    | none => rfl
    | some last => rfl

/-- What a read is decoded to is what is published in the model where a read is one step, taken where
the read was opened. -/
theorem read_as_step {dumps : PyValue α → List Byte} {loads : List Byte → Option (PyValue α)}
    (inverse : ∀ payload, loads (dumps payload) = some payload) (adapters : VisionAdapters α)
    (now : α) (labels : List (FileLabel Byte)) (payloads : List (PyValue α)) :
    let system := Transition.run step start labels
    system.published = payloads.map dumps →
      ∀ result ∈ system.results, result.text.bind loads =
        (Transition.run adapters.step .start
          ((payloads.take result.opened).map fun payload => .publish (some payload) now)).published := by
  intro system same result member
  rw [((coherent_run labels).results result member).2, shownAt, same, published_run, ← List.map_take,
    List.getLast?_map]
  cases (payloads.take result.opened).getLast? with
  | none => rfl
  | some last => exact inverse last

end VisionFiles

end RcTaxi
