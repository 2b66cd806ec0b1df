import VmLauncher.Proofs.Memory.Notes
import VmLauncher.Session.Sizes
-- What compiled code is answered when it asks for a size, and what is said about it.
namespace VmLauncher.Session

open Host (Console Files)
open Memory (Measure SizeError SizeSpec)
open Options.Usage (programName)

-- What a request with all of its strings is about.
def sizeSpec (s : Session) (name flag : List UInt8) (roundTo : Nat) : SizeSpec :=
  ⟨stringAt name, stringAt flag, max roundTo 1, s.surroundings.pageSize⟩

-- The launcher's own reading of the strings, on a console that takes everything.
def sizeReading (spec : SizeSpec) (token subtoken : List UInt8) (files : Files) :
    Except SizeError Nat × Host.Scene :=
  spec.parse (stringAt token) (stringAt subtoken) programName ⟨.unlimited, files, []⟩

-- How an answer and what is told beside it follow from a reading that shows a note.
inductive SizeAnswered (spec : SizeSpec) (note : List UInt8) :
    Except SizeError Nat → Int → List UInt8 → Prop
  | kept {bytes : Nat} (h : bytes ≤ greatestLong) : SizeAnswered spec note (.ok bytes) bytes note
  -- A size beyond the integers looks like a failure, and no word is said about one.
  | dropped {bytes : Nat} (h : greatestLong < bytes) :
      SizeAnswered spec note (.ok bytes) (-1) note
  | refused (e : SizeError) :
      SizeAnswered spec note (.error e) (-1) (Text.utf8 (complaint spec e))

-- What compiled code is promised: every size that is read comes back, with at most the note
-- about its rounding, and a refusal comes with a complaint that ends in the hint.
structure SizePromised (spec : SizeSpec) (reading : Except SizeError Nat) (answer : Int)
    (told : List UInt8) : Prop where
  kept : ∀ bytes : Nat, reading = .ok bytes → answer = bytes ∧
    (told = [] ∨
      ∃ m : Measure, m.rounded = bytes ∧ told = Text.utf8 (spec.roundingNote programName m))
  told : answer = -1 → ∃ e, told = Text.utf8 (complaint spec e)

section Writing

variable {s : Session} (hs : s.errors.room = none)

include hs

theorem errors_writeBytes (bytes : List UInt8) :
    (s.errors.writeBytes bytes).2 = ⟨s.errors.accepted ++ bytes, none⟩ := by
  simp only [Console.writeBytes, hs]

theorem printErrors_errors (text : String) :
    (s.printErrors text).errors = ⟨s.errors.accepted ++ Text.utf8 text, none⟩ :=
  errors_writeBytes hs _

theorem printErrors_room (text : String) : (s.printErrors text).errors.room = none := by
  rw [printErrors_errors hs]

theorem note_errors_room (thread : String) (e : Journal.Event) :
    (s.note thread e).errors.room = none := by
  unfold note
  split
  · exact hs
  · dsimp only
    split
    · split
      · exact hs
      · exact printErrors_room hs _
    · exact printErrors_room hs _

theorem noteAll_errors_room (thread : String) (events : List Journal.Event) :
    (s.noteAll thread events).errors.room = none := by
  induction events generalizing s with
  | nil => exact hs
  | cons e events ih => exact ih (note_errors_room hs thread e)

theorem pageSize_errors_room : s.pageSize.2.errors.room = none := by
  unfold pageSize
  split
  · exact hs
  · have hasked : ({ s with pageSizeKnown := true } : Session).errors.room = none := hs
    exact note_errors_room hasked firstThread pageSizeEvent

end Writing

-- Without a journal, standard error is left to what is told.
theorem noteAll_of_no_recorder {s : Session} (h : s.recorder = none) (thread : String)
    (events : List Journal.Event) : s.noteAll thread events = s := by
  have hnote (e : Journal.Event) : s.note thread e = s := by simp [note, h]
  induction events with
  | nil => rfl
  | cons e events ih => rw [noteAll, List.foldl_cons, hnote, ← noteAll, ih]

theorem pageSize_of_no_recorder {s : Session} (h : s.recorder = none) :
    s.pageSize.2.errors = s.errors ∧ s.pageSize.2.recorder = none := by
  unfold pageSize
  split
  · exact ⟨rfl, h⟩
  · have hnote : ({ s with pageSizeKnown := true }).note firstThread pageSizeEvent =
        { s with pageSizeKnown := true } := by simp [note, h]
    rw [askPageSize, hnote]
    exact ⟨rfl, h⟩

theorem pageSize_fst (s : Session) : s.pageSize.1 = s.surroundings.pageSize := by
  unfold pageSize
  split <;> rfl

section Reading

variable (spec : SizeSpec) (token subtoken : List UInt8)

-- A reading is an error and shows nothing, or it is a size and shows at most its note.
theorem sizeReading_cases (files : Files) :
    (∃ e, sizeReading spec token subtoken files = (.error e, ⟨.unlimited, files, []⟩)) ∨
      ∃ m : Measure, (sizeReading spec token subtoken files).1 = .ok m.rounded ∧
        ((sizeReading spec token subtoken files).2.console.accepted = [] ∨
          (sizeReading spec token subtoken files).2.console.accepted =
            Text.utf8 (spec.roundingNote programName m)) := by
  rcases hmeasure : spec.measure (stringAt token) (stringAt subtoken) with e | m
  · exact .inl ⟨e, SizeSpec.parse_of_error hmeasure _ _⟩
  · refine .inr ⟨m, SizeSpec.parse_of_endless hmeasure programName rfl, ?_⟩
    by_cases hwhole : m.rounded = m.total
    · rw [sizeReading, SizeSpec.parse_of_whole hmeasure hwhole]
      exact .inl rfl
    · rw [sizeReading, (SizeSpec.parse_of_rounded hmeasure hwhole programName _).1]
      exact .inr rfl

-- Files take no part in a reading.
theorem sizeReading_files (files other : Files) :
    sizeReading spec token subtoken other =
      ((sizeReading spec token subtoken files).1,
        { (sizeReading spec token subtoken files).2 with files := other }) := by
  rcases hmeasure : spec.measure (stringAt token) (stringAt subtoken) with e | m
  · simp only [sizeReading, SizeSpec.parse_of_error hmeasure]
  · simp only [sizeReading, SizeSpec.parse, hmeasure]
    split
    · rfl
    · rfl

end Reading

-- The answer, and the session behind it, by the reading that they follow from.
theorem readSize_of_strings (s : Session) (name flag token subtoken : List UInt8) (roundTo : Nat) :
    let spec := s.sizeSpec name flag roundTo
    let reading := sizeReading spec token subtoken s.pageSize.2.files
    let noted := s.pageSize.2.noteAll firstThread reading.2.journal
    let shown : Session :=
      { noted with errors := (noted.errors.writeBytes reading.2.console.accepted).2 }
    s.readSize ⟨some name, some flag, roundTo, some token, some subtoken⟩ =
      match reading.1 with
      | .ok bytes => (if bytes ≤ greatestLong then bytes else -1, shown)
      | .error e => (-1, shown.printErrors (complaint spec e)) := by
  have hpage := s.pageSize_fst
  simp only [readSize, readSizeOf]
  rcases hasked : s.pageSize with ⟨pageSize, s'⟩
  rw [hasked] at hpage
  obtain rfl : pageSize = s.surroundings.pageSize := hpage
  rfl

-- Standard error gets what the journal writes there, and behind it the note or the complaint.
theorem readSize_answered {s : Session} (hs : s.errors.room = none)
    (name flag token subtoken : List UInt8) (roundTo : Nat) (files : Files) :
    let spec := s.sizeSpec name flag roundTo
    let reading := sizeReading spec token subtoken files
    let noted := s.pageSize.2.noteAll firstThread reading.2.journal
    let answer := s.readSize ⟨some name, some flag, roundTo, some token, some subtoken⟩
    ∃ told, answer.2.errors.accepted = noted.errors.accepted ++ told ∧
      SizeAnswered spec reading.2.console.accepted reading.1 answer.1 told := by
  intro spec reading noted answer
  have hroom : noted.errors.room = none := noteAll_errors_room (pageSize_errors_room hs) _ _
  let shown : Session :=
    { noted with errors := (noted.errors.writeBytes reading.2.console.accepted).2 }
  have hshown : shown.errors =
      ⟨noted.errors.accepted ++ reading.2.console.accepted, none⟩ := errors_writeBytes hroom _
  have hanswer : answer = match reading.1 with
      | .ok bytes => (if bytes ≤ greatestLong then (bytes : Int) else -1, shown)
      | .error e => (-1, shown.printErrors (complaint spec e)) := by
    have hstrings := readSize_of_strings s name flag token subtoken roundTo
    dsimp only at hstrings
    rw [sizeReading_files _ _ _ files] at hstrings
    exact hstrings
  rcases sizeReading_cases spec token subtoken files with ⟨e, he⟩ | ⟨m, hm, -⟩
  · have hread : reading = (.error e, ⟨.unlimited, files, []⟩) := he
    have hquiet : noted.errors.accepted ++ reading.2.console.accepted = noted.errors.accepted := by
      rw [hread]
      exact List.append_nil _
    rw [hquiet] at hshown
    rw [hanswer, hread]
    refine ⟨Text.utf8 (complaint spec e), ?_, .refused e⟩
    rw [printErrors_errors (by rw [hshown]), hshown]
  · have hread : reading.1 = .ok m.rounded := hm
    rw [hanswer, hread]
    refine ⟨reading.2.console.accepted, by rw [hshown], ?_⟩
    by_cases hfits : m.rounded ≤ greatestLong
    · simp only [hfits, if_true]
      exact .kept hfits
    · simp only [hfits, if_false]
      exact .dropped (Nat.lt_of_not_le hfits)

-- The promise is kept wherever the size is one of the integers that compiled code knows.
theorem sizePromised_iff {spec : SizeSpec} {token subtoken : List UInt8} {files : Files}
    {answer : Int} {told : List UInt8}
    (h : SizeAnswered spec (sizeReading spec token subtoken files).2.console.accepted
      (sizeReading spec token subtoken files).1 answer told) :
    SizePromised spec (sizeReading spec token subtoken files).1 answer told ↔
      ∀ bytes, (sizeReading spec token subtoken files).1 = .ok bytes → bytes ≤ greatestLong := by
  have hcases := sizeReading_cases spec token subtoken files
  generalize sizeReading spec token subtoken files = reading at h hcases ⊢
  rcases reading with ⟨answered, scene⟩
  dsimp only at h hcases ⊢
  cases h with
  | @kept bytes hfits =>
      refine iff_of_true ⟨?_, ?_⟩ ?_
      · intro bytes' hbytes
        obtain rfl := Except.ok.inj hbytes
        rcases hcases with ⟨e, he⟩ | ⟨m, hm, hnote⟩
        · exact absurd (Prod.mk.inj he).1 (by simp)
        · exact ⟨rfl, hnote.imp_right fun hnote => ⟨m, (Except.ok.inj hm).symm, hnote⟩⟩
      · intro hfailed
        omega
      · rintro bytes' hbytes
        obtain rfl := Except.ok.inj hbytes
        exact hfits
  | @dropped bytes hbeyond =>
      refine iff_of_false ?_ ?_
      · intro hpromised
        have hkept := (hpromised.kept bytes rfl).1
        omega
      · intro hfits
        have := hfits bytes rfl
        omega
  | refused e =>
      refine iff_of_true ⟨?_, fun _ => ⟨e, rfl⟩⟩ ?_
      · rintro bytes hbytes
        cases hbytes
      · rintro bytes hbytes
        cases hbytes

-- For any strings: what is read comes back with its note, and what is no size is refused with
-- a complaint. The promise is broken for just those sizes that are read and do not come back.
theorem size_request_told {s : Session} (hs : s.errors.room = none)
    (name flag token subtoken : List UInt8) (roundTo : Nat) (files : Files) :
    let spec := s.sizeSpec name flag roundTo
    let reading := sizeReading spec token subtoken files
    let noted := s.pageSize.2.noteAll firstThread reading.2.journal
    let answer := s.readSize ⟨some name, some flag, roundTo, some token, some subtoken⟩
    (s.recorder = none → noted.errors = s.errors) ∧
      ∃ told, answer.2.errors.accepted = noted.errors.accepted ++ told ∧
        SizeAnswered spec reading.2.console.accepted reading.1 answer.1 told ∧
        (SizePromised spec reading.1 answer.1 told ↔
          ∀ bytes, reading.1 = .ok bytes → bytes ≤ greatestLong) := by
  intro spec reading noted answer
  obtain ⟨told, htold, hanswered⟩ := readSize_answered hs name flag token subtoken roundTo files
  refine ⟨fun hnone => ?_, told, htold, hanswered, sizePromised_iff hanswered⟩
  obtain ⟨herrors, hrecorder⟩ := pageSize_of_no_recorder hnone
  have hnoted : noted = s.pageSize.2 := noteAll_of_no_recorder hrecorder firstThread _
  rw [hnoted, herrors]

-- A hundred bytes come back as a page, and the note says so.
theorem size_request_told_of_rounded :
    let s : Session := { files := ⟨[], []⟩ }
    let name := Text.utf8 "initial heap size"
    let flag := Text.utf8 "ms"
    let answer := s.readSize
      ⟨some name, some flag, 4096, some (Text.utf8 "-Xms100"), some (Text.utf8 "100")⟩
    (s.errors.room = none ∧ s.recorder = none) ∧ answer.1 = 4096 ∧
      SizePromised (s.sizeSpec name flag 4096) (.ok 4096) 4096 answer.2.errors.accepted := by
  intro s name flag answer
  have hread : (sizeReading (s.sizeSpec name flag 4096) (Text.utf8 "-Xms100") (Text.utf8 "100")
      ⟨[], []⟩).1 = .ok 4096 := by decide +kernel
  have hanswer : answer.1 = 4096 := by decide +kernel
  have hroom : s.errors.room = none := rfl
  obtain ⟨hquiet, told, htold, -, hpromised⟩ := size_request_told hroom name flag
    (Text.utf8 "-Xms100") (Text.utf8 "100") 4096 ⟨[], []⟩
  rw [hquiet rfl] at htold
  obtain rfl : answer.2.errors.accepted = told := htold
  rw [hread] at hpromised
  refine ⟨⟨hroom, rfl⟩, hanswer, ?_⟩
  have hfits : ∀ bytes, (Except.ok 4096 : Except SizeError Nat) = .ok bytes →
      bytes ≤ greatestLong := by
    intro bytes hbytes
    obtain rfl := Except.ok.inj hbytes
    decide
  exact hanswer ▸ hpromised.mpr hfits

-- The first size that is no integer of compiled code is refused without a word.
theorem size_request_not_always_told :
    let s : Session := { files := ⟨[], []⟩ }
    let name := Text.utf8 "initial heap size"
    let flag := Text.utf8 "ms"
    let token := Text.utf8 "-Xms9223372036854775808"
    let subtoken := Text.utf8 "9223372036854775808"
    let reading := sizeReading (s.sizeSpec name flag 4096) token subtoken ⟨[], []⟩
    let answer := s.readSize ⟨some name, some flag, 4096, some token, some subtoken⟩
    reading.1 = .ok 9223372036854775808 ∧ answer.1 = -1 ∧ answer.2.errors.accepted = [] ∧
      ¬SizePromised (s.sizeSpec name flag 4096) reading.1 answer.1 answer.2.errors.accepted := by
  intro s name flag token subtoken reading answer
  have hread : reading.1 = .ok 9223372036854775808 := by decide +kernel
  have hanswer : answer.1 = -1 := by decide +kernel
  have hsilent : answer.2.errors.accepted = [] := by decide +kernel
  refine ⟨hread, hanswer, hsilent, ?_⟩
  intro hpromised
  have hkept := (hpromised.kept _ hread).1
  rw [hanswer] at hkept
  exact absurd hkept (by decide)

end VmLauncher.Session
