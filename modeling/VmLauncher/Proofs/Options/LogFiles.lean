import VmLauncher.Proofs.Options.Items
-- The log files that reading a command line opens.
namespace VmLauncher

open Host

-- The files once a path was opened to write at its end, if it can be.
def Host.Files.afterOpening (fs : Files) (path : String) : Files :=
  match fs.openAppend path with
  | .ok (_, fs) => fs
  | .error _ => fs

namespace Options

theorem sayLines_files (lines : List String) (scene : Scene) :
    (scene.sayLines lines).2.files = scene.files := by
  induction lines generalizing scene with
  | nil => rfl
  | cons line lines ih =>
      have hsay : (scene.say (line ++ "\n")).2.files = scene.files := rfl
      unfold Scene.sayLines
      split
      · rename_i after heq
        rw [heq] at hsay
        exact (ih after).trans hsay
      · rename_i e after heq
        rwa [heq] at hsay

theorem displayThen_files (lines : List String) (next : Next) (scene : Scene) :
    (displayThen lines next scene).2.files = scene.files := by
  have hlines := sayLines_files lines scene
  unfold displayThen display
  rcases h : scene.sayLines lines with ⟨_ | _, after⟩
  all_goals
    rw [h] at hlines
    exact hlines

theorem parseSize_files (spec : Memory.SizeSpec) (token size program : String) (scene : Scene) :
    (spec.parse token size program scene).2.files = scene.files := by
  unfold Memory.SizeSpec.parse
  split
  · rfl
  · split_ifs
    · rfl
    · rename_i m _ _
      have hsay : ((scene.note (spec.roundingEvent m)).say (spec.roundingNote program m)).2.files =
          scene.files := rfl
      split <;> rename_i heq <;> rwa [heq] at hsay

namespace Parser

theorem setHeapSize_files (p : Parser) (bound : HeapBound) (token size : String) (s : Settings)
    (scene : Scene) : (p.setHeapSize bound token size s scene).2.files = scene.files := by
  have hparse := parseSize_files (p.sizeSpec bound) token size p.program scene
  unfold setHeapSize
  split <;> rename_i heq <;> rwa [heq] at hparse

theorem setLogFile_files (p : Parser) (path : String) (s : Settings) (scene : Scene) :
    (p.setLogFile path s scene).2.files = scene.files.afterOpening path := by
  unfold setLogFile Files.afterOpening
  rcases scene.files.openAppend path with e | ⟨place, files⟩
  · rfl
  · exact displayThen_files _ _ _

end Parser

-- The paths that a directive opens to log to.
def Directive.logPaths : Directive → List String
  | .logFile path => [path]
  | _ => []

def Item.logPaths : Item → List String
  | .directive _ d _ => d.logPaths
  | .classpath .. => []

namespace Parser

-- The paths that reading a command line opens to log to, in order. One that cannot be
-- opened is the last.
def logPaths (p : Parser) : List String → Settings → Scene → List String
  | [], _, _ => []
  | token :: rest, s, scene =>
      if !startsWithDash token then []
      else if takesClasspath token then
        match rest with
        | [] => []
        | path :: rest => p.logPaths rest (s.forward [token, path]) scene
      else
        match Directive.ofToken? token with
        | none => []
        | some d =>
            match p.obey token d s scene with
            | (.ok (.proceed s), scene) => d.logPaths ++ p.logPaths rest s scene
            | _ => d.logPaths

-- The paths of what comes after an item, if anything does.
def logPathsAfter (found : Except BootError Next × Scene)
    (next : Settings → Scene → List String) : List String :=
  match found with
  | (.ok (.proceed s), scene) => next s scene
  | _ => []

theorem logPaths_item (p : Parser) (item : Item) (rest : List String) (s : Settings)
    (scene : Scene) :
    p.logPaths (item.tokens ++ rest) s scene =
      item.logPaths ++ logPathsAfter (p.obeyItem item s scene) (p.logPaths rest) := by
  cases item with
  | directive token d reads =>
      have hd := reads.startsWithDash
      have hc := reads.not_takesClasspath
      have hr := (Directive.ofToken?_eq_some_iff token d).mpr reads
      change p.logPaths (token :: rest) s scene =
        d.logPaths ++ logPathsAfter (p.obey token d s scene) (p.logPaths rest)
      rw [logPaths.eq_def]
      simp only [hd, hc, hr, Bool.not_true, Bool.false_eq_true, if_false]
      rcases p.obey token d s scene with ⟨_ | _ | _, after⟩ <;> simp [logPathsAfter]
  | classpath flag path takes =>
      have hd := startsWithDash_of_takesClasspath takes
      simp [Item.tokens, Item.logPaths, logPaths, hd, takes, obeyItem, logPathsAfter]

theorem logPaths_tail (p : Parser) {tail : List String} (ht : IsTail tail) (s : Settings)
    (scene : Scene) : p.logPaths tail s scene = [] := by
  cases tail with
  | nil => rfl
  | cons token rest =>
      rw [logPaths.eq_def]
      by_cases hd : startsWithDash token = true
      · obtain ⟨hc, hr⟩ := BeginsApplication.unread ht hd
        simp [hc, hr]
      · simp [hd]

theorem logPaths_lone_flag (p : Parser) {flag : String} (hf : takesClasspath flag = true)
    (s : Settings) (scene : Scene) : p.logPaths [flag] s scene = [] := by
  simp [logPaths, hf]

theorem obey_files (p : Parser) (token : String) (d : Directive) (s : Settings) (scene : Scene) :
    (p.obey token d s scene).2.files = d.logPaths.foldl Files.afterOpening scene.files := by
  cases d with
  | help | nonstandardHelp | version | fullVersion | showVersion | showFullVersion =>
      exact displayThen_files _ _ scene
  | verbose | compilerChoice | image | forwarded => rfl
  | verboseBoot value =>
      simp only [obey]
      split <;> rfl
  | verboseGc rest =>
      simp only [obey]
      split <;> rfl
  | heapSize bound size => exact p.setHeapSize_files bound token size s scene
  | logFile path => exact p.setLogFile_files path s scene

theorem obeyItem_files (p : Parser) (item : Item) (s : Settings) (scene : Scene) :
    (p.obeyItem item s scene).2.files = item.logPaths.foldl Files.afterOpening scene.files := by
  cases item with
  | directive token d reads => exact p.obey_files token d s scene
  | classpath flag path takes => rfl

theorem finish_files (p : Parser) (s : Settings) (tail : List String) (scene : Scene) :
    (p.finish s tail scene).2.files = scene.files := by
  unfold finish
  split <;> rfl

-- Reading a command line changes files only by opening these paths, one after the other.
theorem readFrom_files (p : Parser) (args : List String) (s : Settings) (scene : Scene) :
    (p.readFrom args s scene).2.files =
      (p.logPaths args s scene).foldl Files.afterOpening scene.files := by
  obtain ⟨items, rest, rfl, hrest⟩ := exists_items args
  induction items generalizing s scene with
  | nil =>
      rcases hrest with ht | ⟨flag, hf, rfl⟩
      · change (p.readFrom rest s scene).2.files =
          (p.logPaths rest s scene).foldl Files.afterOpening scene.files
        rw [readFrom_tail p ht, logPaths_tail p ht, finish_files, atTail_files, List.foldl_nil]
      · change (p.readFrom [flag] s scene).2.files =
          (p.logPaths [flag] s scene).foldl Files.afterOpening scene.files
        rw [readFrom_lone_flag p hf, logPaths_lone_flag p hf, List.foldl_nil]
  | cons item items ih =>
      rw [tokensOf_cons, List.append_assoc, readFrom_item, logPaths_item, List.foldl_append,
        ← obeyItem_files p item s scene]
      rcases p.obeyItem item s scene with ⟨e | found | _, after⟩
      · rfl
      · exact ih found after
      · rfl

end Parser

end Options

end VmLauncher
