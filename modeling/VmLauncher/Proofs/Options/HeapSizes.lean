import VmLauncher.Proofs.Memory.Sizes
import VmLauncher.Proofs.Options.Forwarding
import Mathlib.Tactic.SplitIfs
-- The heap sizes of a launch, whichever way they were set.
namespace VmLauncher.Options

open Host

-- A size of whole pages, and not of none.
def WholePages (p : Parser) (size : Nat) : Prop := 0 < size ∧ p.pageSize ∣ size

-- Every heap size that was set is one of whole pages.
structure Settings.Sized (p : Parser) (s : Settings) : Prop where
  initial : ∀ size, s.initialHeap = some size → WholePages p size
  maximum : ∀ size, s.maximumHeap = some size → WholePages p size

theorem Settings.sized_empty (p : Parser) : Settings.Sized p {} := ⟨by simp, by simp⟩

theorem Settings.Sized.of_heaps_eq {p : Parser} {s found : Settings} (h : s.Sized p)
    (hinitial : found.initialHeap = s.initialHeap) (hmaximum : found.maximumHeap = s.maximumHeap) :
    found.Sized p :=
  ⟨hinitial ▸ h.initial, hmaximum ▸ h.maximum⟩

theorem Settings.Sized.setHeap {p : Parser} {s : Settings} (h : s.Sized p) {size : Nat}
    (hsize : WholePages p size) (bound : HeapBound) : (s.setHeap size bound).Sized p := by
  have hset (found : Nat) (he : some size = some found) : WholePages p found := by
    obtain rfl := Option.some.inj he
    exact hsize
  cases bound with
  | initial => exact ⟨hset, h.maximum⟩
  | maximum => exact ⟨h.initial, hset⟩

theorem wholePages_of_measure {p : Parser} (hp : 1 ≤ p.pageSize) {bound : HeapBound}
    {token size : String} {m : Memory.Measure}
    (h : (p.sizeSpec bound).measure token size = .ok m) : WholePages p m.rounded := by
  have hmultiple : (p.sizeSpec bound).multiple = p.pageSize := Nat.max_eq_left hp
  have hsound := Memory.SizeSpec.measure_sound hp h
  rw [hmultiple] at hsound
  exact hsound

theorem Sets.sized {p : Parser} (hp : 1 ≤ p.pageSize) {token : String} {d : Directive}
    {s found : Settings} (h : Sets p token d s found) (hs : s.Sized p) : found.Sized p := by
  cases h with
  | heapSize hm => exact hs.setHeap (wholePages_of_measure hp hm) _
  | image kind => cases kind <;> exact hs.of_heaps_eq rfl rfl
  | verbose | compilerChoice | showVersion | showFullVersion | verboseBoot | verboseGc | logFile |
    forwarded => exact hs.of_heaps_eq rfl rfl

namespace Parser

theorem obeyItem_sized {p : Parser} (hp : 1 ≤ p.pageSize) {item : Item} {s found : Settings}
    {scene after : Scene} (h : p.obeyItem item s scene = (.ok (.proceed found), after))
    (hs : s.Sized p) : found.Sized p := by
  cases item with
  | directive token d reads => exact (obey_proceed h).sized hp hs
  | classpath flag path takes =>
      obtain rfl := Next.proceed.inj (Except.ok.inj (congrArg Prod.fst h))
      exact hs.of_heaps_eq rfl rfl

theorem obeyAll_sized {p : Parser} (hp : 1 ≤ p.pageSize) {items : List Item} {s found : Settings}
    {scene after : Scene} (h : p.obeyAll items s scene = (.ok (.proceed found), after))
    (hs : s.Sized p) : found.Sized p := by
  induction items generalizing s scene with
  | nil =>
      obtain rfl := Next.proceed.inj (Except.ok.inj (congrArg Prod.fst h))
      exact hs
  | cons item items ih =>
      obtain ⟨mid, there, hi, hrest⟩ := obeyAll_cons_proceed h
      exact ih hrest (obeyItem_sized hp hi hs)

-- A bound that was not given is the default or meets the other bound.
theorem heapSizes_wholePages {p : Parser} (hinitial : WholePages p p.defaults.initial)
    (hmaximum : WholePages p p.defaults.maximum) {s : Settings} (hs : s.Sized p) :
    WholePages p (p.heapSizes s).1 ∧ WholePages p (p.heapSizes s).2 := by
  have hmin {a b : Nat} (ha : WholePages p a) (hb : WholePages p b) : WholePages p (min a b) := by
    rcases Nat.le_total a b with h | h
    · rwa [Nat.min_eq_left h]
    · rwa [Nat.min_eq_right h]
  have hmax {a b : Nat} (ha : WholePages p a) (hb : WholePages p b) : WholePages p (max a b) := by
    rcases Nat.le_total a b with h | h
    · rwa [Nat.max_eq_right h]
    · rwa [Nat.max_eq_left h]
  rcases hi : s.initialHeap with _ | initial <;> rcases hm : s.maximumHeap with _ | maximum
  · simpa [heapSizes, hi, hm] using ⟨hinitial, hmaximum⟩
  · have hgiven := hs.maximum maximum hm
    simpa [heapSizes, hi, hm] using ⟨hmin hinitial hgiven, hgiven⟩
  · have hgiven := hs.initial initial hi
    simpa [heapSizes, hi, hm] using ⟨hgiven, hmax hgiven hmaximum⟩
  · simpa [heapSizes, hi, hm] using ⟨hs.initial initial hi, hs.maximum maximum hm⟩

end Parser

-- The defaults may be in either order; a launch keeps its two sizes in order all the same.
theorem launch_heap_sizes (p : Parser) (hp : 1 ≤ p.pageSize)
    (hinitial : 0 < p.defaults.initial ∧ p.pageSize ∣ p.defaults.initial)
    (hmaximum : 0 < p.defaults.maximum ∧ p.pageSize ∣ p.defaults.maximum)
    (args : List String) (scene : Scene) (c : Configuration)
    (h : (p.parse args scene).1 = .ok (.launch c)) :
    0 < c.initialHeap ∧ c.initialHeap ≤ c.maximumHeap ∧ p.pageSize ∣ c.initialHeap ∧
      p.pageSize ∣ c.maximumHeap := by
  obtain ⟨items, tail, s, after, -, hobey, hconf⟩ := Parser.parse_launch h
  have hsized := Parser.obeyAll_sized hp hobey (Settings.sized_empty p)
  obtain ⟨hfirst, hsecond⟩ := Parser.heapSizes_wholePages hinitial hmaximum hsized
  obtain ⟨hle, -, -, -, hc⟩ := (p.configure_eq_ok_iff s tail c).mp hconf
  have hinit : c.initialHeap = (p.heapSizes s).1 := by rw [hc]
  have hmax : c.maximumHeap = (p.heapSizes s).2 := by rw [hc]
  rw [hinit, hmax]
  exact ⟨hfirst.1, hle, hfirst.2, hsecond.2⟩

-- Defaults in the wrong order, a first size that is overridden, and a part of a byte.
theorem launch_heap_sizes_of_fraction :
    let p : Parser := ⟨"bootvm", 4096, ⟨8192, 4096⟩⟩
    let args := ["-X:ic=a", "-Xms0x10pages", "-X:id=b", "-Xms.5", "-X:ir=c", "Main", "-Xmx1"]
    let c : Configuration := ⟨4096, 4096, "a", "b", "c", 0, 0, none, [], ["Main", "-Xmx1"]⟩
    1 ≤ p.pageSize ∧ (0 < p.defaults.initial ∧ p.pageSize ∣ p.defaults.initial) ∧
      (0 < p.defaults.maximum ∧ p.pageSize ∣ p.defaults.maximum) ∧
      (p.parse args ⟨.unlimited, ⟨[], []⟩, []⟩).1 = .ok (.launch c) ∧
      0 < c.initialHeap ∧ c.initialHeap ≤ c.maximumHeap ∧ p.pageSize ∣ c.initialHeap ∧
      p.pageSize ∣ c.maximumHeap := by
  intro p args c
  have hp : 1 ≤ p.pageSize := by decide
  have hinitial : 0 < p.defaults.initial ∧ p.pageSize ∣ p.defaults.initial := by decide
  have hmaximum : 0 < p.defaults.maximum ∧ p.pageSize ∣ p.defaults.maximum := by decide
  have h : (p.parse args ⟨.unlimited, ⟨[], []⟩, []⟩).1 = .ok (.launch c) := by decide +kernel
  exact ⟨hp, hinitial, hmaximum, h, launch_heap_sizes p hp hinitial hmaximum args _ c h⟩

end VmLauncher.Options
