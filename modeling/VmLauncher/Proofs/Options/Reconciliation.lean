import VmLauncher.Proofs.Options.Rearrangement
-- What becomes of a command line that was read to its tail: which heap sizes it asks for, and
-- what is still wrong with it.
namespace VmLauncher.Options

open Host

-- All items were obeyed and the reading went on after the last of them.
structure Parser.ReadsThrough (p : Parser) (args : List String) (scene : Scene)
    (items : List Item) (tail : List String) : Prop where
  cut : Cut args items tail
  goes : ∃ s after, p.obeyAll items {} scene = (.ok (.proceed s), after)

def heapGiven (p : Parser) (items : List Item) (bound : HeapBound) : Option Nat :=
  lastOf (Item.heap? p bound) items

def imageGiven (items : List Item) (kind : ImageKind) : Option String :=
  lastOf (Item.image? kind) items

-- Two sizes in place of those that were given. A default gives way to a size that was given, and
-- two defaults are left as they are.
inductive Reconciled (d : HeapDefaults) (given : HeapBound → Option Nat) : Nat → Nat → Prop
  | both {i m : Nat} (hi : given .initial = some i) (hm : given .maximum = some m) :
      Reconciled d given i m
  | maximum {m : Nat} (hi : given .initial = none) (hm : given .maximum = some m) :
      Reconciled d given (min d.initial m) m
  | initial {i : Nat} (hi : given .initial = some i) (hm : given .maximum = none) :
      Reconciled d given i (max i d.maximum)
  | neither (hi : given .initial = none) (hm : given .maximum = none) :
      Reconciled d given d.initial d.maximum

-- How a reading ends that comes to two sizes and to some of the images.
inductive Concludes (first second : Nat) (images : ImageKind → Option String) :
    Except BootError Outcome → Prop
  | mismatch (h : second < first) :
      Concludes first second images (.error (.heapSizeMismatch first second))
  | missing (h : first ≤ second) {kind : ImageKind} (hkind : FirstMissing images kind) :
      Concludes first second images (.error (.missingBootImage kind))
  | launch (h : first ≤ second) {c : Configuration} (hinitial : c.initialHeap = first)
      (hmaximum : c.maximumHeap = second) (himages : ∀ kind, images kind = some (c.image kind)) :
      Concludes first second images (.ok (.launch c))

section Reconciled

variable {d : HeapDefaults} {given : HeapBound → Option Nat} {first second : Nat}

theorem Reconciled.eq_initial (h : Reconciled d given first second) {size : Nat}
    (hsize : given .initial = some size) : first = size := by
  cases h with
  | both hi | initial hi => exact Option.some.inj (hi.symm.trans hsize)
  | maximum hi | neither hi => simp [hi] at hsize

theorem Reconciled.eq_maximum (h : Reconciled d given first second) {size : Nat}
    (hsize : given .maximum = some size) : second = size := by
  cases h with
  | both _ hm | maximum _ hm => exact Option.some.inj (hm.symm.trans hsize)
  | initial _ hm | neither _ hm => simp [hm] at hsize

theorem Reconciled.le_of_lone (h : Reconciled d given first second)
    (hlone : (given .initial).isSome ≠ (given .maximum).isSome) : first ≤ second := by
  cases h with
  | both hi hm | neither hi hm => simp [hi, hm] at hlone
  | maximum => exact Nat.min_le_right ..
  | initial => exact Nat.le_max_left ..

theorem Parser.heapSizes_reconciled (p : Parser) (s : Settings) :
    Reconciled p.defaults s.heap? (p.heapSizes s).1 (p.heapSizes s).2 := by
  unfold heapSizes
  rcases hi : s.initialHeap with _ | i <;> rcases hm : s.maximumHeap with _ | m
  · exact .neither hi hm
  · exact .maximum hi hm
  · exact .initial hi hm
  · exact .both hi hm

end Reconciled

section Concludes

variable {first second : Nat} {images : ImageKind → Option String}
  {answer : Except BootError Outcome}

theorem FirstMissing.unique {kind other : ImageKind} (h : FirstMissing images kind)
    (ho : FirstMissing images other) : kind = other := by
  have hmem : kind ∈ ImageKind.all := by cases kind <;> decide
  rcases Nat.lt_trichotomy (ImageKind.all.idxOf kind) (ImageKind.all.idxOf other) with hlt | heq | hlt
  · exact absurd h.missing (ho.earlier kind hlt)
  · exact (List.idxOf_inj hmem).mp heq
  · exact absurd ho.missing (h.earlier other hlt)

theorem Concludes.mismatch_iff (h : Concludes first second images answer) (a b : Nat) :
    answer = .error (.heapSizeMismatch a b) ↔ second < first ∧ a = first ∧ b = second := by
  cases h with
  | mismatch hlt => simp [hlt, eq_comm]
  | missing hle | launch hle => simp [Nat.not_lt.mpr hle]

theorem Concludes.missing_iff (h : Concludes first second images answer) (kind : ImageKind) :
    answer = .error (.missingBootImage kind) ↔ first ≤ second ∧ FirstMissing images kind := by
  cases h with
  | mismatch hlt => simp [Nat.not_le.mpr hlt]
  | @missing hle found hfound =>
      constructor
      · intro heq
        obtain rfl := BootError.missingBootImage.inj (Except.error.inj heq)
        exact ⟨hle, hfound⟩
      · rintro ⟨-, hkind⟩
        rw [hfound.unique hkind]
  | launch hle _ _ himages =>
      constructor
      · intro heq
        cases heq
      · rintro ⟨-, hkind⟩
        have hnone := hkind.missing
        simp [himages kind] at hnone

theorem Concludes.launch_iff (h : Concludes first second images answer) :
    (∃ c, answer = .ok (.launch c)) ↔ first ≤ second ∧ ∀ kind, images kind ≠ none := by
  cases h with
  | mismatch hlt => simp [Nat.not_le.mpr hlt]
  | missing hle hkind =>
      constructor
      · rintro ⟨c, heq⟩
        cases heq
      · rintro ⟨-, hall⟩
        exact absurd hkind.missing (hall _)
  | @launch hle c _ _ himages => simp [hle, himages]

theorem Concludes.of_launch {c : Configuration}
    (h : Concludes first second images (.ok (.launch c))) :
    c.initialHeap = first ∧ c.maximumHeap = second ∧
      ∀ kind, images kind = some (c.image kind) := by
  cases h with
  | launch _ hinitial hmaximum himages => exact ⟨hinitial, hmaximum, himages⟩

end Concludes

section Tracks

variable {α : Type} {p : Parser} {look : Settings → Option α} {f : Item → Option α}

-- A part of the settings that an item leaves as it is unless `f` finds something in the item,
-- which then takes its place.
def Tracks (p : Parser) (look : Settings → Option α) (f : Item → Option α) : Prop :=
  ∀ (item : Item) (s found : Settings) (scene after : Scene),
    p.obeyItem item s scene = (.ok (.proceed found), after) → look found = (f item).or (look s)

-- Then a whole run leaves what is found last.
theorem Tracks.obeyAll (h : Tracks p look f) {items : List Item} {s found : Settings}
    {scene after : Scene} (hrun : p.obeyAll items s scene = (.ok (.proceed found), after)) :
    look found = (lastOf f items).or (look s) := by
  induction items generalizing s scene with
  | nil =>
      obtain rfl := Next.proceed.inj (Except.ok.inj (congrArg Prod.fst hrun))
      rfl
  | cons item items ih =>
      obtain ⟨mid, there, hitem, hrest⟩ := Parser.obeyAll_cons_proceed hrun
      rw [ih hrest, h item s mid scene there hitem, lastOf_cons, Option.or_assoc]

theorem heap?_tracks (p : Parser) (bound : HeapBound) :
    Tracks p (·.heap? bound) (Item.heap? p bound) := by
  intro item s found scene after h
  cases item with
  | directive token d reads =>
      cases Parser.obey_proceed h with
      | heapSize hm =>
          simp only [Item.heap?, hm, Settings.setHeap_heap?]
          split_ifs <;> rfl
      | image => simp [Item.heap?]
      | verbose | compilerChoice | showVersion | showFullVersion | verboseBoot | verboseGc |
        logFile | forwarded => cases bound <;> rfl
  | classpath flag path =>
      obtain rfl := Next.proceed.inj (Except.ok.inj (congrArg Prod.fst h))
      cases bound <;> rfl

theorem image?_tracks (p : Parser) (kind : ImageKind) :
    Tracks p (·.image? kind) (Item.image? kind) := by
  intro item s found scene after h
  cases item with
  | directive token d reads =>
      cases Parser.obey_proceed h with
      | image =>
          simp only [Item.image?, Settings.setImage_image?]
          split_ifs <;> rfl
      | heapSize => simp [Item.image?]
      | verbose | compilerChoice | showVersion | showFullVersion | verboseBoot | verboseGc |
        logFile | forwarded => cases kind <;> rfl
  | classpath flag path =>
      obtain rfl := Next.proceed.inj (Except.ok.inj (congrArg Prod.fst h))
      cases kind <;> rfl

end Tracks

namespace Parser

variable {p : Parser} {args tail : List String} {items : List Item} {scene : Scene}

theorem finish_concludes (p : Parser) (s : Settings) (tail : List String) (scene : Scene) :
    Concludes (p.heapSizes s).1 (p.heapSizes s).2 s.image? (p.finish s tail scene).1 := by
  unfold finish
  rcases hconf : p.configure s tail with e | c
  · rcases configure_eq_error hconf with ⟨hlt, rfl⟩ | ⟨hle, kind, hkind, rfl⟩
    · exact .mismatch hlt
    · exact .missing hle hkind
  · obtain ⟨hle, hcode, hdata, hrefMap, hc⟩ := (p.configure_eq_ok_iff s tail c).mp hconf
    refine .launch hle ?_ ?_ fun kind => ?_
    · rw [hc]
    · rw [hc]
    · cases kind with
      | code => exact hcode
      | data => exact hdata
      | refMap => exact hrefMap

theorem ReadsThrough.concludes (h : p.ReadsThrough args scene items tail) :
    ∃ first second, Reconciled p.defaults (heapGiven p items) first second ∧
      Concludes first second (imageGiven items) (p.parse args scene).1 := by
  obtain ⟨s, after, hrun⟩ := h.goes
  have hheap : s.heap? = heapGiven p items := by
    funext bound
    have hlast := (heap?_tracks p bound).obeyAll hrun
    cases bound <;> simpa [Settings.heap?, heapGiven] using hlast
  have himage : s.image? = imageGiven items := by
    funext kind
    have hlast := (image?_tracks p kind).obeyAll hrun
    cases kind <;> simpa [Settings.image?, imageGiven] using hlast
  have hparse : p.parse args scene = p.finish s tail (atTail tail after) := by
    rw [h.cut.joined, parse, readFrom_items, hrun]
    exact readFrom_tail p h.cut.stops s after
  have hreconciled := p.heapSizes_reconciled s
  have hconcludes := p.finish_concludes s tail (atTail tail after)
  rw [hheap] at hreconciled
  rw [himage, ← hparse] at hconcludes
  exact ⟨_, _, hreconciled, hconcludes⟩

end Parser

-- The errors that no single token is to blame for.
def BootError.OfSettings : BootError → Prop
  | heapSizeMismatch .. | missingBootImage _ => True
  | _ => False

section Refusals

variable {p : Parser} {scene after : Scene} {e : BootError}

theorem displayThen_error {lines : List String} {next : Next}
    (h : displayThen lines next scene = (.error e, after)) : ¬e.OfSettings := by
  rcases hsay : scene.sayLines lines with ⟨source | _, there⟩
  all_goals simp only [displayThen, display, hsay] at h
  · obtain rfl := Except.error.inj (congrArg Prod.fst h)
    exact id
  · simp at h

namespace Parser

theorem setHeapSize_error {bound : HeapBound} {token size : String} {s : Settings}
    (h : p.setHeapSize bound token size s scene = (.error e, after)) : ¬e.OfSettings := by
  unfold setHeapSize at h
  split at h
  · simp at h
  · obtain rfl := Except.error.inj (congrArg Prod.fst h)
    exact id
  · obtain rfl := Except.error.inj (congrArg Prod.fst h)
    exact id

theorem setLogFile_error {path : String} {s : Settings}
    (h : p.setLogFile path s scene = (.error e, after)) : ¬e.OfSettings := by
  unfold setLogFile at h
  split at h
  · obtain rfl := Except.error.inj (congrArg Prod.fst h)
    exact id
  · exact displayThen_error h

theorem obeyItem_error {item : Item} {s : Settings}
    (h : p.obeyItem item s scene = (.error e, after)) : ¬e.OfSettings := by
  cases item with
  | classpath => simp [obeyItem] at h
  | directive token d reads =>
      cases d with
      | help | nonstandardHelp | version | fullVersion | showVersion | showFullVersion =>
          exact displayThen_error h
      | verbose | compilerChoice | image | forwarded => simp [obeyItem, obey] at h
      | verboseBoot | verboseGc =>
          simp only [obeyItem, obey] at h
          split at h
          · simp at h
          · obtain rfl := Except.error.inj (congrArg Prod.fst h)
            exact id
      | heapSize => exact setHeapSize_error h
      | logFile => exact setLogFile_error h

theorem obeyAll_error {items : List Item} {s : Settings}
    (h : p.obeyAll items s scene = (.error e, after)) : ¬e.OfSettings := by
  induction items generalizing s scene with
  | nil => simp [obeyAll] at h
  | cons item items ih =>
      rw [obeyAll] at h
      rcases hitem : p.obeyItem item s scene with ⟨_ | mid | _, there⟩
      all_goals simp only [hitem] at h
      · obtain rfl := Except.error.inj (congrArg Prod.fst h)
        exact obeyItem_error hitem
      · exact ih h
      · simp at h

-- The command lines that are read to their tail are those that end in one of the three ways.
theorem readsThrough_iff (p : Parser) (args : List String) (scene : Scene) :
    (∃ items tail, p.ReadsThrough args scene items tail) ↔
      ∃ first second images, Concludes first second images (p.parse args scene).1 := by
  constructor
  · rintro ⟨items, tail, h⟩
    obtain ⟨first, second, -, hconcludes⟩ := h.concludes
    exact ⟨first, second, _, hconcludes⟩
  · rintro ⟨first, second, images, h⟩
    obtain ⟨items, rest, rfl, hrest⟩ := exists_items args
    rw [parse, readFrom_items] at h
    rcases hrun : p.obeyAll items {} scene with ⟨e | s | _, after⟩
    all_goals simp only [hrun, resume] at h
    · have hblamed := obeyAll_error hrun
      cases h with
      | mismatch | missing => exact absurd trivial hblamed
    · rcases hrest with htail | ⟨flag, hflag, rfl⟩
      · exact ⟨items, rest, ⟨rfl, htail⟩, s, after, hrun⟩
      · rw [readFrom_lone_flag p hflag] at h
        cases h
    · cases h

end Parser

end Refusals

-- A command line on which nothing is refused for itself. The sizes that were given stand as they
-- are, whatever the defaults, and only then it is asked whether they fit and what is missing.
theorem parse_reconciles {p : Parser} {args tail : List String} {items : List Item} {scene : Scene}
    (h : p.ReadsThrough args scene items tail) :
    ∃ first second,
      Reconciled p.defaults (heapGiven p items) first second ∧
      (∀ size, heapGiven p items .initial = some size → first = size) ∧
      (∀ size, heapGiven p items .maximum = some size → second = size) ∧
      ((heapGiven p items .initial).isSome ≠ (heapGiven p items .maximum).isSome →
        first ≤ second) ∧
      (∀ a b, (p.parse args scene).1 = .error (.heapSizeMismatch a b) ↔
        second < first ∧ a = first ∧ b = second) ∧
      (∀ kind, (p.parse args scene).1 = .error (.missingBootImage kind) ↔
        first ≤ second ∧ FirstMissing (imageGiven items) kind) ∧
      ((∃ c, (p.parse args scene).1 = .ok (.launch c)) ↔
        first ≤ second ∧ ∀ kind, imageGiven items kind ≠ none) ∧
      ∀ c, (p.parse args scene).1 = .ok (.launch c) →
        c.initialHeap = first ∧ c.maximumHeap = second ∧
          ∀ kind, imageGiven items kind = some (c.image kind) := by
  obtain ⟨first, second, hsizes, hends⟩ := h.concludes
  refine ⟨first, second, hsizes, fun _ => hsizes.eq_initial, fun _ => hsizes.eq_maximum,
    hsizes.le_of_lone, hends.mismatch_iff, hends.missing_iff, hends.launch_iff, ?_⟩
  intro c hlaunch
  rw [hlaunch] at hends
  exact hends.of_launch

-- Defaults in the wrong order, and a maximum that is the default of the other bound.
theorem parse_reconciles_of_lone_maximum :
    let p : Parser := ⟨"bootvm", 4096, ⟨8192, 4096⟩⟩
    let scene : Scene := ⟨.unlimited, ⟨[], []⟩, []⟩
    let args := ["-Xmx4096", "-X:ic=a", "-Xmx2pages", "-X:ir=c", "Main", "-Xms1"]
    ∃ items, p.ReadsThrough args scene items ["Main", "-Xms1"] ∧
      (p.parse args scene).1 = .error (.missingBootImage .data) := by
  intro p scene args
  let items : List Item :=
    [.directive "-Xmx4096" (.heapSize .maximum "4096") (Directive.ofToken?_reads (by decide)),
     .directive "-X:ic=a" (.image .code "a") (Directive.ofToken?_reads (by decide)),
     .directive "-Xmx2pages" (.heapSize .maximum "2pages") (Directive.ofToken?_reads (by decide)),
     .directive "-X:ir=c" (.image .refMap "c") (Directive.ofToken?_reads (by decide))]
  have hcut : Cut args items ["Main", "-Xms1"] := ⟨rfl, .inl (by decide)⟩
  have hrun : (p.obeyAll items {} scene).1 =
      .ok (.proceed { maximumHeap := some 8192, code := some "a", refMap := some "c" }) := by
    decide +kernel
  have hreads : p.ReadsThrough args scene items ["Main", "-Xms1"] :=
    ⟨hcut, _, _, Prod.ext hrun rfl⟩
  have hmissing : FirstMissing (imageGiven items) .data := by
    refine ⟨by decide, fun other hlt => ?_⟩
    cases other with
    | code => decide
    | data | refMap => exact absurd hlt (by decide)
  obtain ⟨first, second, -, -, -, hle, -, hmissing_iff, -, -⟩ := parse_reconciles hreads
  exact ⟨items, hreads, (hmissing_iff .data).mpr ⟨hle (by decide +kernel), hmissing⟩⟩

end VmLauncher.Options
