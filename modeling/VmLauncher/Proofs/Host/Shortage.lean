import VmLauncher.Host.Scene
import Mathlib.Data.List.TakeDrop
-- What becomes of an action when the console does not take all that the action shows.
namespace VmLauncher.Host

abbrev Act (ε α : Type) := Scene → Except ε α × Scene

def andThen {ε α β : Type} (f : Act ε α) (g : α → Act ε β) : Act ε β := fun scene =>
  match f scene with
  | (.ok a, scene) => g a scene
  | (.error e, scene) => (.error e, scene)

section AndThen

variable {ε α β : Type} {f : Act ε α} {g : α → Act ε β} {scene : Scene}

theorem andThen_of_error {e : ε} (h : (f scene).1 = .error e) :
    andThen f g scene = (.error e, (f scene).2) := by
  rcases hf : f scene with ⟨answer, after⟩
  obtain rfl : answer = .error e := by simpa [hf] using h
  simp [andThen, hf]

theorem andThen_of_ok {a : α} (h : (f scene).1 = .ok a) :
    andThen f g scene = g a (f scene).2 := by
  rcases hf : f scene with ⟨answer, after⟩
  obtain rfl : answer = .ok a := by simpa [hf] using h
  simp [andThen, hf]

end AndThen

namespace Scene

def shown (scene : Scene) : List UInt8 := scene.console.accepted

-- A console that takes everything.
def Endless (scene : Scene) : Prop := scene.console.room = none

-- A scene as it would be behind an earlier one, had the console taken only so many
-- bytes since then.
def within (scene past : Scene) (room : Nat) : Scene :=
  ⟨⟨past.shown ++ scene.shown, some (room - scene.shown.length)⟩, scene.files,
    past.journal ++ scene.journal⟩

theorem endless_accepted {scene : Scene} (h : scene.Endless) :
    scene.console = ⟨scene.shown, none⟩ := by
  rw [← h]
  rfl

end Scene

-- An action at one scene tells a shortage of room from all else: with room for what it
-- shows it does what it does on an endless console; otherwise it shows what there is
-- room for and fails with `closed`. An endless console is never blamed.
structure TellsShortage {ε α : Type} (closed : ε) (blames : ε → Prop) (f : Act ε α)
    (scene : Scene) : Prop where
  endless : (f scene).2.Endless
  grows : scene.shown <+: (f scene).2.shown
  blameless : ∀ e, (f scene).1 = .error e → ¬blames e
  fits : ∀ past room, (f scene).2.shown.length ≤ room →
    f (scene.within past room) = ((f scene).1, (f scene).2.within past room)
  cut : ∀ past room, scene.shown.length ≤ room → room < (f scene).2.shown.length →
    (f (scene.within past room)).1 = .error closed ∧
      (f (scene.within past room)).2.console = ⟨past.shown ++ (f scene).2.shown.take room, some 0⟩

def ReportsShortage {ε α : Type} (closed : ε) (blames : ε → Prop) (f : Act ε α) : Prop :=
  ∀ scene : Scene, scene.Endless → TellsShortage closed blames f scene

namespace ReportsShortage

variable {ε α β : Type} {closed : ε} {blames : ε → Prop}

-- Files and journal may change; only the files take part in the answer.
theorem quiet (answer : Files → Except ε α) (change : Files → Files) (events : List Journal.Event)
    (hb : ∀ files e, answer files = .error e → ¬blames e) :
    ReportsShortage closed blames fun scene =>
      (answer scene.files,
        { scene with files := change scene.files, journal := scene.journal ++ events }) := by
  intro scene h
  refine ⟨h, List.prefix_refl _, hb scene.files, ?_, ?_⟩
  · intro past room _
    simp [Scene.within, Scene.shown]
  · intro past room hle hlt
    exact absurd hlt (Nat.not_lt.mpr hle)

theorem pure (answer : Except ε α) (hb : ∀ e, answer = .error e → ¬blames e) :
    ReportsShortage closed blames fun scene => (answer, scene) := by
  simpa using (quiet (fun _ => answer) id [] fun _ => hb : ReportsShortage closed blames _)

theorem of_answer {f : Act ε α} (answer : Except ε α) (hf : ∀ scene, f scene = (answer, scene))
    (hb : ∀ e, answer = .error e → ¬blames e) : ReportsShortage closed blames f :=
  (funext hf : f = fun scene => (answer, scene)) ▸ pure answer hb

-- What decides is whether the room ends before the second action begins.
theorem bind {f : Act ε α} {g : α → Act ε β} (hf : ReportsShortage closed blames f)
    (hg : ∀ a, ReportsShortage closed blames (g a)) :
    ReportsShortage closed blames (andThen f g) := by
  intro scene h
  have hfs := hf scene h
  cases ha : (f scene).1 with
  | error e =>
      have hrun := andThen_of_error (g := g) ha
      constructor
      · rw [hrun]
        exact hfs.endless
      · rw [hrun]
        exact hfs.grows
      · intro e' he
        rw [hrun] at he
        obtain rfl := Except.error.inj he
        exact hfs.blameless e ha
      · intro past room hle
        rw [hrun] at hle ⊢
        have hw := hfs.fits past room hle
        rw [andThen_of_error (by rw [hw, ha]), hw]
      · intro past room hle hlt
        rw [hrun] at hlt ⊢
        obtain ⟨herr, hcons⟩ := hfs.cut past room hle hlt
        rw [andThen_of_error herr]
        exact ⟨rfl, hcons⟩
  | ok a =>
      have hrun := andThen_of_ok (g := g) ha
      have hgs := hg a _ hfs.endless
      constructor
      · rw [hrun]
        exact hgs.endless
      · rw [hrun]
        exact hfs.grows.trans hgs.grows
      · rw [hrun]
        exact hgs.blameless
      · intro past room hle
        rw [hrun] at hle ⊢
        have hw := hfs.fits past room (Nat.le_trans hgs.grows.length_le hle)
        rw [andThen_of_ok (by rw [hw, ha]), hw]
        exact hgs.fits past room hle
      · intro past room hle hlt
        rw [hrun] at hlt ⊢
        by_cases hmid : (f scene).2.shown.length ≤ room
        · have hw := hfs.fits past room hmid
          rw [andThen_of_ok (by rw [hw, ha]), hw]
          exact hgs.cut past room hmid hlt
        · obtain ⟨herr, hcons⟩ := hfs.cut past room hle (Nat.not_le.mp hmid)
          rw [andThen_of_error herr]
          -- What the second action would add lies beyond the room already.
          obtain ⟨more, hmore⟩ := hgs.grows
          rw [hcons, ← hmore, List.take_append_of_le_length (Nat.le_of_lt (Nat.not_le.mp hmid))]
          exact ⟨rfl, rfl⟩

theorem after_note (event : Journal.Event) {f : Act ε α} (hf : ReportsShortage closed blames f) :
    ReportsShortage closed blames fun scene => f (scene.note event) :=
  (quiet (fun _ => .ok ()) id [event] (by simp)).bind fun _ => hf

-- The answer alone may be put in other words, as long as the failure stays one.
theorem map {ε' : Type} {closed' : ε'} {blames' : ε' → Prop} {f : Act ε α}
    (hf : ReportsShortage closed blames f) (k : Except ε α → Except ε' β)
    (hk : k (.error closed) = .error closed')
    (hb : ∀ answer e, k answer = .error e → blames' e → ∃ e', answer = .error e' ∧ blames e') :
    ReportsShortage closed' blames' fun scene => (k (f scene).1, (f scene).2) := by
  intro scene h
  have hfs := hf scene h
  refine ⟨hfs.endless, hfs.grows, ?_, ?_, ?_⟩
  · intro e he hbl
    obtain ⟨e', he', hbl'⟩ := hb _ e he hbl
    exact hfs.blameless e' he' hbl'
  · intro past room hle
    simp only [hfs.fits past room hle]
  · intro past room hle hlt
    obtain ⟨herr, hcons⟩ := hfs.cut past room hle hlt
    exact ⟨by simp only [herr, hk], hcons⟩

-- Where shortage is the only failure that is blamed, putting it in other words is all
-- that is to be shown.
theorem reword {ε' : Type} {closed' : ε'} {blames' : ε' → Prop} {f : Act ε α}
    (hf : ReportsShortage closed (fun _ => True) f) (k : Except ε α → Except ε' β)
    (hk : k (.error closed) = .error closed') (hok : ∀ a e, k (.ok a) ≠ .error e) :
    ReportsShortage closed' blames' fun scene => (k (f scene).1, (f scene).2) := by
  refine hf.map k hk fun answer e he _ => ?_
  cases answer with
  | ok a => exact absurd he (hok a e)
  | error e' => exact ⟨e', rfl, trivial⟩

theorem say (text : String) :
    ReportsShortage Error.consoleClosed (fun _ => True) fun scene => scene.say text := by
  intro scene h
  have hsay : scene.say text =
      (.ok (), { scene with console := ⟨scene.shown ++ Text.utf8 text, none⟩ }) := by
    simp [Scene.say, Console.write, Console.writeBytes, Scene.endless_accepted h]
  constructor
  · rw [hsay]
    exact rfl
  · rw [hsay]
    exact List.prefix_append _ _
  · simp [hsay]
  · intro past room hle
    rw [hsay] at hle ⊢
    simp only [Scene.shown, List.length_append] at hle
    have hfit : (Text.utf8 text).length ≤ room - scene.console.accepted.length := by omega
    simp [Scene.say, Scene.within, Console.write, Console.writeBytes, Scene.shown, hfit,
      Nat.sub_sub]
  · intro past room hle hlt
    rw [hsay] at hlt ⊢
    simp only [Scene.shown, List.length_append] at hle hlt
    have hfull : ¬(Text.utf8 text).length ≤ room - scene.console.accepted.length := by omega
    simp [Scene.say, Scene.within, Console.write, Console.writeBytes, Scene.shown, hfull,
      List.take_append, List.take_of_length_le hle]

theorem sayLines (lines : List String) :
    ReportsShortage Error.consoleClosed (fun _ => True) (Scene.sayLines lines) := by
  induction lines with
  | nil => exact pure (.ok ()) (by simp)
  | cons line lines ih =>
      have hrun : Scene.sayLines (line :: lines) =
          andThen (fun scene => scene.say (line ++ "\n")) fun _ => Scene.sayLines lines := by
        funext scene
        simp only [Scene.sayLines, andThen]
        rcases scene.say (line ++ "\n") with ⟨_ | _, _⟩ <;> rfl
      rw [hrun]
      exact bind (say (line ++ "\n")) fun _ => ih

end ReportsShortage

end VmLauncher.Host
