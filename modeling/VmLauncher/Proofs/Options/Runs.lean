import VmLauncher.Proofs.Options.Shortage
-- One parser that reads command line after command line.
namespace VmLauncher.Options

open Host

-- A command line, and what others did to the files since the one before it.
structure Turn where
  args : List String
  host : Files → Files

-- One reading: where it began, how it ended and what it left.
structure Run where
  args : List String
  before : Scene
  answer : Except BootError Outcome
  after : Scene

namespace Parser

def run (p : Parser) (turn : Turn) (scene : Scene) : Run :=
  let before := { scene with files := turn.host scene.files }
  let found := p.parse turn.args before
  ⟨turn.args, before, found.1, found.2⟩

-- The console and the journal go from one reading to the next.
def runs (p : Parser) : List Turn → Scene → List Run
  | [], _ => []
  | turn :: turns, scene => p.run turn scene :: p.runs turns (p.run turn scene).after

-- A reading by itself, by a parser that has read nothing and has an endless console.
def fresh (p : Parser) (args : List String) (files : Files) : Except BootError Outcome × Scene :=
  p.parse args ⟨.unlimited, files, []⟩

def freshText (p : Parser) (run : Run) : List UInt8 := (p.fresh run.args run.before.files).2.shown

theorem mem_runs {p : Parser} {turns : List Turn} {start : Scene} {run : Run}
    (h : run ∈ p.runs turns start) : ∃ turn scene, run = p.run turn scene := by
  induction turns generalizing start with
  | nil => simp [runs] at h
  | cons turn turns ih =>
      rcases List.mem_cons.mp h with rfl | h
      · exact ⟨turn, start, rfl⟩
      · exact ih h

-- A scene with room for so many bytes lies that far behind a fresh one.
theorem within_unlimited (scene : Scene) (room : Nat) (h : scene.console.room = some room) :
    (⟨.unlimited, scene.files, []⟩ : Scene).within scene room = scene := by
  obtain ⟨⟨accepted, _⟩, files, journal⟩ := scene
  obtain rfl := h
  simp [Scene.within, Scene.shown, Console.unlimited]

theorem fresh_tellsShortage (p : Parser) (args : List String) (files : Files) :
    TellsShortage (.console .consoleClosed) BootError.BlamesConsole (p.parse args)
      ⟨.unlimited, files, []⟩ :=
  p.parse_reports args _ rfl

theorem parse_of_fits (p : Parser) (args : List String) (scene : Scene) (room : Nat)
    (hroom : scene.console.room = some room)
    (hfits : (p.fresh args scene.files).2.shown.length ≤ room) :
    p.parse args scene =
      ((p.fresh args scene.files).1, (p.fresh args scene.files).2.within scene room) := by
  have h := (p.fresh_tellsShortage args scene.files).fits scene room hfits
  rwa [within_unlimited scene room hroom] at h

theorem parse_of_cut (p : Parser) (args : List String) (scene : Scene) (room : Nat)
    (hroom : scene.console.room = some room)
    (hcut : room < (p.fresh args scene.files).2.shown.length) :
    (p.parse args scene).1 = .error (.console .consoleClosed) ∧
      (p.parse args scene).2.console =
        ⟨scene.shown ++ (p.fresh args scene.files).2.shown.take room, some 0⟩ := by
  have h := (p.fresh_tellsShortage args scene.files).cut scene room (Nat.zero_le room) hcut
  rwa [within_unlimited scene room hroom] at h

-- One reading takes from the room what it would show by itself, as far as the room goes.
theorem run_console (p : Parser) (turn : Turn) (scene : Scene) (room : Nat)
    (hroom : scene.console.room = some room) :
    (p.run turn scene).after.console =
      ⟨scene.shown ++ (p.freshText (p.run turn scene)).take room,
        some (room - (p.freshText (p.run turn scene)).length)⟩ := by
  let before := { scene with files := turn.host scene.files }
  change (p.parse turn.args before).2.console =
    ⟨scene.shown ++ (p.fresh turn.args before.files).2.shown.take room,
      some (room - (p.fresh turn.args before.files).2.shown.length)⟩
  by_cases hfits : (p.fresh turn.args before.files).2.shown.length ≤ room
  · rw [p.parse_of_fits turn.args before room hroom hfits, List.take_of_length_le hfits]
    rfl
  · have hlt := Nat.not_le.mp hfits
    have hzero := Nat.sub_eq_zero_of_le (Nat.le_of_lt hlt)
    rw [(p.parse_of_cut turn.args before room hroom hlt).2, hzero]
    rfl

def sceneAfter (p : Parser) : List Turn → Scene → Scene
  | [], scene => scene
  | turn :: turns, scene => p.sceneAfter turns (p.run turn scene).after

-- All readings together fill the console with what each would show by itself.
theorem sceneAfter_console (p : Parser) (turns : List Turn) (start : Scene) (room : Nat)
    (hroom : start.console.room = some room) :
    (p.sceneAfter turns start).console =
      ⟨start.shown ++ ((p.runs turns start).flatMap p.freshText).take room,
        some (room - ((p.runs turns start).flatMap p.freshText).length)⟩ := by
  induction turns generalizing start room with
  | nil =>
      simp only [sceneAfter, runs, List.flatMap_nil, List.take_nil, List.append_nil,
        List.length_nil, Nat.sub_zero, ← hroom]
      rfl
  | cons turn turns ih =>
      have hrun := p.run_console turn start room hroom
      rw [sceneAfter, ih (p.run turn start).after _ (congrArg Console.room hrun), Scene.shown, hrun,
        runs, List.flatMap_cons, List.take_append, List.append_assoc, List.length_append,
        Nat.sub_sub]

end Parser

-- A reading does what it would do by itself, unless the room ends first; then it stops
-- there and says so. Nothing else of the readings before it counts.
theorem run_refines_fresh (p : Parser) (turns : List Turn) (start : Scene) (run : Run)
    (hrun : run ∈ p.runs turns start) (room : Nat) (hroom : run.before.console.room = some room) :
    let alone := p.fresh run.args run.before.files
    let text := alone.2.shown
    (text.length ≤ room → run.answer = alone.1 ∧
      run.after.console = ⟨run.before.shown ++ text, some (room - text.length)⟩) ∧
    (room < text.length → run.answer = .error (.console .consoleClosed) ∧
      run.after.console = ⟨run.before.shown ++ text.take room, some 0⟩) ∧
    ∀ e, alone.1 = .error e → ¬e.BlamesConsole := by
  obtain ⟨turn, scene, rfl⟩ := Parser.mem_runs hrun
  have htells := p.fresh_tellsShortage turn.args (turn.host scene.files)
  refine ⟨fun hfits => ?_, p.parse_of_cut turn.args _ room hroom, htells.blameless⟩
  have h := p.parse_of_fits turn.args _ room hroom hfits
  have hanswer := congrArg Prod.fst h
  have hconsole := congrArg (fun found => found.2.console) h
  exact ⟨hanswer, hconsole⟩

theorem run_refines_fresh_of_two :
    let p : Parser := ⟨"bootvm", 4096, {}⟩
    let first : Turn := ⟨["-showversion", "-X:ic=a", "-X:id=b", "-X:ir=c"], id⟩
    let second : Turn := ⟨["-Xms100", "-X:ic=a", "-X:id=b", "-X:ir=c"], id⟩
    let start : Scene := ⟨.limited 40, ⟨[], []⟩, []⟩
    let run := p.run second (p.run first start).after
    let alone := p.fresh run.args run.before.files
    let text := alone.2.shown
    run ∈ p.runs [first, second] start ∧ run.before.console.room = some 27 ∧
    ((text.length ≤ 27 → run.answer = alone.1 ∧
      run.after.console = ⟨run.before.shown ++ text, some (27 - text.length)⟩) ∧
    (27 < text.length → run.answer = .error (.console .consoleClosed) ∧
      run.after.console = ⟨run.before.shown ++ text.take 27, some 0⟩) ∧
    ∀ e, alone.1 = .error e → ¬e.BlamesConsole) := by
  intro p first second start run alone text
  have hrun : run ∈ p.runs [first, second] start := .tail _ (.head _)
  have hroom : run.before.console.room = some 27 := by decide +kernel
  exact ⟨hrun, hroom, run_refines_fresh p [first, second] start run hrun 27 hroom⟩

end VmLauncher.Options
