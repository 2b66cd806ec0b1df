import VmLauncher.Proofs.Host.Shortage
import VmLauncher.Proofs.Options.Configuration
import VmLauncher.Proofs.Options.LogFiles
-- Reading command lines while the console takes only so many bytes.
namespace VmLauncher

open Host

section Sizes

open Memory

def Memory.SizeError.BlamesConsole : SizeError → Prop
  | .console _ => True
  | _ => False

namespace Memory.SizeSpec

theorem measure_blames_no_console {spec : SizeSpec} {token size : String} {e : SizeError}
    (h : spec.measure token size = .error e) : ¬e.BlamesConsole := by
  unfold measure at h
  split at h
  · obtain rfl := Except.error.inj h
    exact id
  · split at h
    · obtain rfl := Except.error.inj h
      exact id
    · split_ifs at h
      · obtain rfl := Except.error.inj h
        exact id
      · obtain rfl := Except.error.inj h
        exact id
      · split at h
        · obtain rfl := Except.error.inj h
          exact id
        · simp at h

-- What the answer is once the note about rounding went out, or did not.
def noted (bytes : Nat) : Except Error Unit → Except SizeError Nat
  | .ok () => .ok bytes
  | .error e => .error (.console e)

theorem parse_reports (spec : SizeSpec) (token size program : String) :
    ReportsShortage (.console .consoleClosed) SizeError.BlamesConsole
      (spec.parse token size program) := by
  unfold parse
  split
  · rename_i e he
    exact .pure _ fun _ h => Except.error.inj h ▸ measure_blames_no_console he
  · rename_i m _
    split_ifs
    · exact .pure _ (by simp)
    · have hsay := (ReportsShortage.say (spec.roundingNote program m)).after_note
        (spec.roundingEvent m)
      convert hsay.reword (noted m.rounded) rfl (by simp [noted]) using 1
      funext scene
      let shown := scene.note (spec.roundingEvent m)
      rcases shown.say (spec.roundingNote program m) with ⟨_ | _, _⟩ <;> rfl

end Memory.SizeSpec

end Sizes

namespace Options

def BootError.BlamesConsole : BootError → Prop
  | .console _ | .memorySize (.console _) _ => True
  | _ => False

abbrev Reports {α : Type} (f : Act BootError α) : Prop :=
  ReportsShortage (.console .consoleClosed) BootError.BlamesConsole f

-- What the answer is once lines went out, or did not.
def displayed : Except Error Unit → Except BootError Unit
  | .ok () => .ok ()
  | .error e => .error (.console e)

theorem display_reports (lines : List String) : Reports (display lines) := by
  convert (ReportsShortage.sayLines lines).reword displayed rfl (by simp [displayed]) using 1
  funext scene
  unfold display
  rcases scene.sayLines lines with ⟨_ | _, _⟩ <;> rfl

theorem displayThen_reports (lines : List String) (next : Next) :
    Reports (displayThen lines next) := by
  convert (display_reports lines).bind fun _ => .pure (.ok next) (by simp) using 1
  funext scene
  unfold displayThen andThen
  rcases display lines scene with ⟨_ | _, _⟩ <;> rfl

namespace Parser

-- What the answer is once a size was read, or was not.
def sized (s : Settings) (bound : HeapBound) (hint : String) :
    Except Memory.SizeError Nat → Except BootError Next
  | .ok bytes => .ok (.proceed (s.setHeap bytes bound))
  | .error (.console e) => .error (.console e)
  | .error e => .error (.memorySize e hint)

theorem setHeapSize_reports (p : Parser) (bound : HeapBound) (token size : String) (s : Settings) :
    Reports (p.setHeapSize bound token size s) := by
  have hsized : ∀ answer e, sized s bound (p.sizeSpec bound).hint answer = .error e →
      e.BlamesConsole → ∃ e', answer = .error e' ∧ e'.BlamesConsole := by
    intro answer e he hb
    unfold sized at he
    split at he
    · simp at he
    · exact ⟨_, rfl, trivial⟩
    · rename_i e' hne
      obtain rfl := Except.error.inj he
      cases e' with
      | console source => exact absurd rfl (hne source)
      | _ => exact hb.elim
  convert ((p.sizeSpec bound).parse_reports token size p.program).map
    (sized s bound (p.sizeSpec bound).hint) rfl hsized using 1
  funext scene
  unfold setHeapSize
  rcases (p.sizeSpec bound).parse token size p.program scene with ⟨e | _, _⟩
  · cases e <;> rfl
  · rfl

def logPlace (path : String) (files : Files) : Except BootError Location :=
  match files.openAppend path with
  | .ok (place, _) => .ok place
  | .error e => .error (.logFile path e)

def openLog (path : String) : Act BootError Location := fun scene =>
  (logPlace path scene.files, { scene with files := scene.files.afterOpening path })

theorem openLog_reports (path : String) : Reports (openLog path) := by
  have hplace : ∀ files e, logPlace path files = .error e → ¬e.BlamesConsole := by
    intro files e he
    unfold logPlace at he
    split at he
    · simp at he
    · obtain rfl := Except.error.inj he
      exact id
  unfold openLog
  simpa using (ReportsShortage.quiet (logPlace path) (·.afterOpening path) [] hplace : Reports _)

-- The file is opened first, and stays open even if its line does not go out.
theorem setLogFile_reports (p : Parser) (path : String) (s : Settings) :
    Reports (p.setLogFile path s) := by
  convert (openLog_reports path).bind fun place =>
    displayThen_reports [p.redirectionNote path] (.proceed { s with log := some ⟨path, place⟩ })
    using 1
  funext scene
  simp only [setLogFile, openLog, logPlace, andThen, Files.afterOpening]
  rcases scene.files.openAppend path with _ | ⟨place, files⟩ <;> rfl

theorem obey_reports (p : Parser) (token : String) (d : Directive) (s : Settings) :
    Reports (p.obey token d s) := by
  cases d with
  | help | nonstandardHelp | version | fullVersion | showVersion | showFullVersion =>
      exact displayThen_reports _ _
  | verbose | compilerChoice | image | forwarded => exact .pure _ (by simp)
  | verboseBoot value =>
      rcases h : Number.readLevel value with kind | level
      · exact .of_answer (.error (.verboseBoot token kind)) (fun _ => by simp only [obey, h])
          fun _ he => Except.error.inj he ▸ id
      · exact .of_answer (.ok (.proceed { s with verboseBoot := level }))
          (fun _ => by simp only [obey, h]) (by simp)
  | verboseGc rest =>
      rcases h : gcLevel rest with kind | level
      · exact .of_answer (.error (.verboseGc token kind)) (fun _ => by simp only [obey, h])
          fun _ he => Except.error.inj he ▸ id
      · exact .of_answer (.ok (.proceed (s.forward [gcToken level])))
          (fun _ => by simp only [obey, h]) (by simp)
  | heapSize bound size => exact setHeapSize_reports p bound token size s
  | logFile path => exact setLogFile_reports p path s

theorem obeyItem_reports (p : Parser) (item : Item) (s : Settings) :
    Reports (p.obeyItem item s) := by
  cases item with
  | directive token d _ => exact obey_reports p token d s
  | classpath flag path _ => exact .pure _ (by simp)

-- What is done once an item was obeyed.
def following {α : Type} (g : Settings → Act BootError α) (stop : α) : Next → Act BootError α
  | .proceed s => g s
  | .exit => fun scene => (.ok stop, scene)

theorem following_reports {α : Type} {g : Settings → Act BootError α}
    (hg : ∀ s, Reports (g s)) (stop : α) (next : Next) : Reports (following g stop next) := by
  cases next with
  | proceed s => exact hg s
  | exit => exact .pure _ (by simp)

theorem obeyAll_reports (p : Parser) (items : List Item) (s : Settings) :
    Reports (p.obeyAll items s) := by
  induction items generalizing s with
  | nil => exact .pure _ (by simp)
  | cons item items ih =>
      convert (obeyItem_reports p item s).bind (following_reports ih .exit) using 1
      funext scene
      simp only [obeyAll, andThen]
      rcases p.obeyItem item s scene with ⟨_ | _ | _, after⟩ <;> rfl

theorem resume_reports {f : Act BootError Next} {g : Settings → Act BootError Outcome}
    (hf : Reports f) (hg : ∀ s, Reports (g s)) : Reports fun scene => resume (f scene) g := by
  convert hf.bind (following_reports hg .exit) using 1
  funext scene
  unfold resume andThen
  rcases f scene with ⟨_ | _ | _, after⟩ <;> rfl

theorem finish_reports (p : Parser) (s : Settings) (tail : List String) :
    Reports (p.finish s tail) := by
  unfold finish
  rcases h : p.configure s tail with e | c
  · refine .pure _ fun _ he => Except.error.inj he ▸ ?_
    rcases configure_eq_error h with ⟨-, rfl⟩ | ⟨-, kind, -, rfl⟩ <;> exact id
  · exact ReportsShortage.after_note (configurationEvent c)
      (.pure (.ok (Outcome.launch c)) (by simp))

theorem readTail_reports (p : Parser) {tail : List String} (ht : IsTail tail) (s : Settings) :
    Reports (p.readFrom tail s) := by
  have hrun : p.readFrom tail s = fun scene => p.finish s tail (atTail tail scene) :=
    funext (readFrom_tail p ht s)
  rw [hrun]
  cases tail with
  | nil => exact finish_reports p s []
  | cons token rest =>
      by_cases hd : startsWithDash token = true
      · simp only [atTail, hd, if_true]
        exact (finish_reports p s (token :: rest)).after_note (unknownEvent token)
      · simp only [atTail, hd]
        exact finish_reports p s (token :: rest)

theorem parse_reports (p : Parser) (args : List String) : Reports (p.parse args) := by
  obtain ⟨items, rest, rfl, hrest⟩ := exists_items args
  have hend : ∀ s, Reports (p.readFrom rest s) := by
    intro s
    rcases hrest with ht | ⟨flag, hf, rfl⟩
    · exact readTail_reports p ht s
    · exact .of_answer (.error (.missingClasspath flag)) (readFrom_lone_flag p hf s)
        fun _ he => Except.error.inj he ▸ id
  have hrun : p.parse (tokensOf items ++ rest) =
      fun scene => resume (p.obeyAll items {} scene) (p.readFrom rest) :=
    funext (readFrom_items p items rest {})
  rw [hrun]
  exact resume_reports (obeyAll_reports p items {}) hend

end Parser

end Options

end VmLauncher
