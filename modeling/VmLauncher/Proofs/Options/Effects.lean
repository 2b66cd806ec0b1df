import VmLauncher.Proofs.Options.Items
-- What one item leaves in the settings when the reading goes on after it.
namespace VmLauncher.Options

open Host

-- The outside takes part only in where a log file turns out to be.
inductive Sets (p : Parser) (token : String) : Directive → Settings → Settings → Prop
  | verbose (s : Settings) : Sets p token .verbose s { s with verbose := s.verbose + 1 }
  | compilerChoice (s : Settings) : Sets p token .compilerChoice s s
  | showVersion (s : Settings) : Sets p token .showVersion s s
  | showFullVersion (s : Settings) : Sets p token .showFullVersion s s
  | verboseBoot {value : String} {level : Nat} (h : Number.readLevel value = .ok level)
      (s : Settings) : Sets p token (.verboseBoot value) s { s with verboseBoot := level }
  | verboseGc {rest : String} {level : Nat} (h : gcLevel rest = .ok level) (s : Settings) :
      Sets p token (.verboseGc rest) s (s.forward [gcToken level])
  | heapSize {bound : HeapBound} {size : String} {m : Memory.Measure}
      (h : (p.sizeSpec bound).measure token size = .ok m) (s : Settings) :
      Sets p token (.heapSize bound size) s (s.setHeap m.rounded bound)
  | logFile (path : String) (place : Location) (s : Settings) :
      Sets p token (.logFile path) s { s with log := some ⟨path, place⟩ }
  | image (kind : ImageKind) (path : String) (s : Settings) :
      Sets p token (.image kind path) s (s.setImage path kind)
  | forwarded (s : Settings) : Sets p token .forwarded s (s.forward [token])

theorem displayThen_ok {lines : List String} {next found : Next} {scene after : Scene}
    (h : displayThen lines next scene = (.ok found, after)) : found = next := by
  unfold displayThen at h
  split at h
  · simpa [eq_comm] using congrArg Prod.fst h
  · simp at h

theorem measure_of_parse_ok {spec : Memory.SizeSpec} {token size program : String}
    {scene after : Scene} {bytes : Nat}
    (h : spec.parse token size program scene = (.ok bytes, after)) :
    ∃ m, spec.measure token size = .ok m ∧ bytes = m.rounded := by
  unfold Memory.SizeSpec.parse at h
  split at h
  · simp at h
  · rename_i m hm
    refine ⟨m, hm, ?_⟩
    split_ifs at h with heq
    · simp only [Prod.mk.injEq, Except.ok.injEq] at h
      rw [← h.1, heq]
    · split at h
      · simpa [eq_comm] using congrArg Prod.fst h
      · simp at h

namespace Parser

theorem setLogFile_proceed {p : Parser} {path : String} {s found : Settings} {scene after : Scene}
    (h : p.setLogFile path s scene = (.ok (.proceed found), after)) :
    ∃ place, found = { s with log := some ⟨path, place⟩ } := by
  unfold setLogFile at h
  split at h
  · simp at h
  · rename_i place files _
    exact ⟨place, Next.proceed.inj (displayThen_ok h)⟩

theorem setHeapSize_proceed {p : Parser} {bound : HeapBound} {token size : String}
    {s found : Settings} {scene after : Scene}
    (h : p.setHeapSize bound token size s scene = (.ok (.proceed found), after)) :
    ∃ m, (p.sizeSpec bound).measure token size = .ok m ∧ found = s.setHeap m.rounded bound := by
  unfold setHeapSize at h
  split at h
  · rename_i bytes _ hp
    obtain ⟨m, hm, rfl⟩ := measure_of_parse_ok hp
    exact ⟨m, hm, by simpa [eq_comm] using congrArg Prod.fst h⟩
  · simp at h
  · simp at h

theorem obey_proceed {p : Parser} {token : String} {d : Directive} {s found : Settings}
    {scene after : Scene} (h : p.obey token d s scene = (.ok (.proceed found), after)) :
    Sets p token d s found := by
  cases d with
  | help | nonstandardHelp | version | fullVersion => exact absurd (displayThen_ok h) (by simp)
  | verbose =>
      obtain rfl := Next.proceed.inj (Except.ok.inj (congrArg Prod.fst h))
      exact .verbose s
  | compilerChoice =>
      obtain rfl := Next.proceed.inj (Except.ok.inj (congrArg Prod.fst h))
      exact .compilerChoice s
  | showVersion =>
      obtain rfl := Next.proceed.inj (displayThen_ok h)
      exact .showVersion _
  | showFullVersion =>
      obtain rfl := Next.proceed.inj (displayThen_ok h)
      exact .showFullVersion _
  | verboseBoot value =>
      simp only [obey] at h
      split at h
      · rename_i level hl
        obtain rfl := Next.proceed.inj (Except.ok.inj (congrArg Prod.fst h))
        exact .verboseBoot hl s
      · simp at h
  | verboseGc rest =>
      simp only [obey] at h
      split at h
      · rename_i level hl
        obtain rfl := Next.proceed.inj (Except.ok.inj (congrArg Prod.fst h))
        exact .verboseGc hl s
      · simp at h
  | heapSize bound size =>
      obtain ⟨m, hm, rfl⟩ := setHeapSize_proceed h
      exact .heapSize hm s
  | logFile path =>
      obtain ⟨place, rfl⟩ := setLogFile_proceed h
      exact .logFile path place s
  | image kind path =>
      obtain rfl := Next.proceed.inj (Except.ok.inj (congrArg Prod.fst h))
      exact .image kind path s
  | forwarded =>
      obtain rfl := Next.proceed.inj (Except.ok.inj (congrArg Prod.fst h))
      exact .forwarded s

end Parser

end VmLauncher.Options
