import VmLauncher.Memory.Size
import VmLauncher.Proofs.Host.Shortage
import Mathlib.Tactic.SplitIfs
-- What the user is told about a size, and what becomes of the size if that fails.
namespace VmLauncher.Memory.SizeSpec

open Host

variable {spec : SizeSpec} {token subtoken : String} {m : Measure}

theorem parse_of_error {e : SizeError} (h : spec.measure token subtoken = .error e)
    (program : String) (scene : Scene) :
    spec.parse token subtoken program scene = (.error e, scene) := by
  simp only [parse, h]

theorem parse_of_whole (h : spec.measure token subtoken = .ok m) (hwhole : m.rounded = m.total)
    (program : String) (scene : Scene) :
    spec.parse token subtoken program scene = (.ok m.rounded, scene) := by
  simp only [parse, h, hwhole, if_true]

-- The answer of the console decides, and what it took of the note stays.
theorem parse_of_rounded (h : spec.measure token subtoken = .ok m) (hrounded : m.rounded ≠ m.total)
    (program : String) (scene : Scene) :
    let written := scene.console.write (spec.roundingNote program m)
    (spec.parse token subtoken program scene).2.console = written.2 ∧
      (spec.parse token subtoken program scene).1 =
        match written.1 with
        | .ok () => .ok m.rounded
        | .error e => .error (.console e) := by
  simp only [parse, h, hrounded, if_false, Scene.say, Scene.note]
  rcases scene.console.write (spec.roundingNote program m) with ⟨_ | _, console⟩
  · exact ⟨rfl, rfl⟩
  · exact ⟨rfl, rfl⟩

theorem parse_cases (h : spec.measure token subtoken = .ok m) (program : String) (scene : Scene) :
    (spec.parse token subtoken program scene).1 = .ok m.rounded ∨
      ∃ e, (spec.parse token subtoken program scene).1 = .error (.console e) := by
  by_cases hwhole : m.rounded = m.total
  · rw [parse_of_whole h hwhole]
    exact .inl rfl
  · rw [(parse_of_rounded h hwhole program scene).2]
    rcases (scene.console.write (spec.roundingNote program m)).1 with e | _
    · exact .inr ⟨e, rfl⟩
    · exact .inl rfl

theorem parse_of_endless (h : spec.measure token subtoken = .ok m) (program : String)
    {scene : Scene} (hscene : scene.Endless) :
    (spec.parse token subtoken program scene).1 = .ok m.rounded := by
  have hroom : scene.console.room = none := hscene
  by_cases hwhole : m.rounded = m.total
  · rw [parse_of_whole h hwhole]
  · rw [(parse_of_rounded h hwhole program scene).2]
    simp only [Console.write, Console.writeBytes, hroom]

end VmLauncher.Memory.SizeSpec
