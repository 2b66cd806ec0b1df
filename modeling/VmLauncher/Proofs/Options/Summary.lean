import VmLauncher.Proofs.Memory.Notes
import VmLauncher.Proofs.Options.Configuration
import VmLauncher.Proofs.Options.Effects
import VmLauncher.Proofs.Options.Forwarding
import VmLauncher.Proofs.Options.Shortage
-- The settings of a command line as a whole: each is read off the items that set it, and the
-- items are refused or not one by one.
namespace VmLauncher.Options

open Host
open Directive (Reads)

-- The directives after which the reading goes on, and which change no file.
def Directive.IsOption : Directive → Prop
  | help | nonstandardHelp | version | fullVersion | logFile _ => False
  | _ => True

theorem Directive.opener_ne_verbose {start rest : String} {make : String → Directive}
    (h : (start, make) ∈ openers) : make rest ≠ verbose := by
  rcases mem_openers_iff.mp h with ⟨-, rfl⟩ | ⟨-, rfl⟩ | ⟨bound, -, rfl⟩ | ⟨-, rfl⟩ |
    ⟨kind, -, rfl⟩ <;> simp

theorem Directive.Reads.eq_verbose_iff {token : String} {d : Directive} (h : Reads token d) :
    token = "-X:verbose" ↔ d = verbose := by
  constructor
  · rintro rfl
    exact h.unique (.word (by decide))
  · intro hd
    cases h with
    | word hw =>
        rw [hd] at hw
        simpa [words] using hw
    | opener ho rest => exact absurd hd (opener_ne_verbose ho)
    | forwardedToken | forwardedStart => contradiction

namespace Item

def IsOption : Item → Prop
  | directive _ d _ => d.IsOption
  | classpath .. => True

-- What a token has behind its name can be read.
def Accepted (p : Parser) : Item → Prop
  | directive _ (.verboseBoot value) _ => ∃ level, Number.readLevel value = .ok level
  | directive _ (.verboseGc rest) _ => ∃ level, gcLevel rest = .ok level
  | directive token (.heapSize bound size) _ =>
      ∃ m, (p.sizeSpec bound).measure token size = .ok m
  | _ => True

def bootLevel? : Item → Option Nat
  | directive _ (.verboseBoot value) _ => (Number.readLevel value).toOption
  | _ => none

def heap? (p : Parser) (bound : HeapBound) : Item → Option Nat
  | directive token (.heapSize b size) _ =>
      if b = bound then ((p.sizeSpec b).measure token size).toOption.map (·.rounded) else none
  | _ => none

def image? (kind : ImageKind) : Item → Option String
  | directive _ (.image k path) _ => if k = kind then some path else none
  | _ => none

-- What the runtime gets.
def handed : Item → List String
  | directive token .forwarded _ => [token]
  | directive _ (.verboseGc rest) _ => ((gcLevel rest).toOption.map gcToken).toList
  | directive .. => []
  | classpath flag path _ => [flag, path]

end Item

-- What the last of the items sets that set anything.
def lastOf {α : Type} (f : Item → Option α) (items : List Item) : Option α :=
  (items.filterMap f).getLast?

theorem lastOf_cons {α : Type} (f : Item → Option α) (item : Item) (items : List Item) :
    lastOf f (item :: items) = (lastOf f items).or (f item) := by
  cases hf : f item <;> simp [lastOf, hf, List.getLast?_cons]

theorem lastOf_concat {α : Type} (f : Item → Option α) (items : List Item) (item : Item) :
    lastOf f (items ++ [item]) = (f item).or (lastOf f items) := by
  rw [lastOf, lastOf, List.filterMap_append]
  cases hf : f item <;> simp [hf]

def settingsOf (p : Parser) (items : List Item) : Settings where
  initialHeap := lastOf (Item.heap? p .initial) items
  maximumHeap := lastOf (Item.heap? p .maximum) items
  code := lastOf (Item.image? .code) items
  data := lastOf (Item.image? .data) items
  refMap := lastOf (Item.image? .refMap) items
  verbose := .ofNat (items.countP (·.tokens = ["-X:verbose"]))
  verboseBoot := (lastOf Item.bootLevel? items).getD 0
  runtimeArgs := items.flatMap Item.handed

theorem settingsOf_concat (p : Parser) (items : List Item) (item : Item) :
    settingsOf p (items ++ [item]) =
      { initialHeap := (item.heap? p .initial).or (settingsOf p items).initialHeap
        maximumHeap := (item.heap? p .maximum).or (settingsOf p items).maximumHeap
        code := (item.image? .code).or (settingsOf p items).code
        data := (item.image? .data).or (settingsOf p items).data
        refMap := (item.image? .refMap).or (settingsOf p items).refMap
        verbose := (settingsOf p items).verbose + if item.tokens = ["-X:verbose"] then 1 else 0
        verboseBoot := item.bootLevel?.getD (settingsOf p items).verboseBoot
        runtimeArgs := (settingsOf p items).runtimeArgs ++ item.handed } := by
  have hlevel : (item.bootLevel?.or (lastOf Item.bootLevel? items)).getD 0 =
      item.bootLevel?.getD ((lastOf Item.bootLevel? items).getD 0) := by
    cases item.bootLevel? <;> rfl
  have hone : UInt32.ofNat (if item.tokens = ["-X:verbose"] then 1 else 0) =
      if item.tokens = ["-X:verbose"] then 1 else 0 := by split <;> rfl
  simp [settingsOf, lastOf_concat, List.countP_append, hlevel, hone]

theorem settingsOf_log (p : Parser) (items : List Item) : (settingsOf p items).log = none := rfl

-- One option more changes the settings as if it had been the last all along.
theorem Sets.eq_settingsOf {p : Parser} {token : String} {d : Directive} {items : List Item}
    {found : Settings} (h : Sets p token d (settingsOf p items) found) (reads : Reads token d)
    (hd : d.IsOption) : found = settingsOf p (items ++ [.directive token d reads]) := by
  have htokens : (Item.directive token d reads).tokens = ["-X:verbose"] ↔ d = .verbose := by
    simp [Item.tokens, reads.eq_verbose_iff]
  have hlog := settingsOf_log p items
  rw [settingsOf_concat]
  generalize settingsOf p items = s at h hlog
  obtain ⟨initial, maximum, code, data, refMap, verbose, verboseBoot, log, runtimeArgs⟩ := s
  obtain rfl : log = none := hlog
  cases h with
  | logFile => exact hd.elim
  | verboseBoot hl | verboseGc hl =>
      simp [htokens, Item.heap?, Item.image?, Item.bootLevel?, Item.handed, hl, Except.toOption,
        Settings.forward]
  | @heapSize bound _ _ hm =>
      cases bound <;>
        simp [htokens, Item.heap?, Item.image?, Item.bootLevel?, Item.handed, hm, Except.toOption,
          Settings.setHeap]
  | image kind =>
      cases kind <;>
        simp [htokens, Item.heap?, Item.image?, Item.bootLevel?, Item.handed, Settings.setImage]
  | verbose | compilerChoice | showVersion | showFullVersion | forwarded =>
      simp [htokens, Item.heap?, Item.image?, Item.bootLevel?, Item.handed, Settings.forward]

theorem Sets.accepted {p : Parser} {token : String} {d : Directive} {s found : Settings}
    (h : Sets p token d s found) (reads : Reads token d) :
    (Item.directive token d reads).Accepted p := by
  cases h with
  | verboseBoot hl | verboseGc hl | heapSize hl => exact ⟨_, hl⟩
  | verbose | compilerChoice | showVersion | showFullVersion | logFile | image | forwarded =>
      trivial

theorem displayThen_of_endless {scene : Scene} (h : scene.Endless) (lines : List String)
    (next : Next) : ∃ after, displayThen lines next scene = (.ok next, after) := by
  have hblameless := (displayThen_reports lines next scene h).blameless
  rcases hsay : scene.sayLines lines with ⟨e | _, after⟩
  · have hfails : displayThen lines next scene = (.error (.console e), after) := by
      simp only [displayThen, display, hsay]
    exact absurd trivial (hblameless (.console e) (congrArg Prod.fst hfails))
  · exact ⟨after, by simp only [displayThen, display, hsay]⟩

namespace Parser

variable {p : Parser} {scene after : Scene}

theorem setHeapSize_of_endless (h : scene.Endless) {bound : HeapBound} {token size : String}
    {m : Memory.Measure} (hm : (p.sizeSpec bound).measure token size = .ok m) (s : Settings) :
    ∃ found after, p.setHeapSize bound token size s scene = (.ok (.proceed found), after) := by
  have hparse := Memory.SizeSpec.parse_of_endless hm p.program h
  rcases hrun : (p.sizeSpec bound).parse token size p.program scene with ⟨answer, after⟩
  rw [hrun] at hparse
  obtain rfl : answer = .ok m.rounded := hparse
  exact ⟨s.setHeap m.rounded bound, after, by simp only [setHeapSize, hrun]⟩

-- On a console that takes everything, nothing but its own text can refuse an option.
theorem obeyItem_of_accepted (hscene : scene.Endless) {item : Item} (hoption : item.IsOption)
    (h : item.Accepted p) (s : Settings) :
    ∃ found after, p.obeyItem item s scene = (.ok (.proceed found), after) ∧ after.Endless := by
  have hends := (obeyItem_reports p item s scene hscene).endless
  suffices hgoes : ∃ found after, p.obeyItem item s scene = (.ok (.proceed found), after) by
    obtain ⟨found, after, hrun⟩ := hgoes
    rw [hrun] at hends
    exact ⟨found, after, hrun, hends⟩
  cases item with
  | classpath flag path => exact ⟨_, _, rfl⟩
  | directive token d reads =>
      cases d with
      | help | nonstandardHelp | version | fullVersion | logFile => exact hoption.elim
      | verbose | compilerChoice | image | forwarded => exact ⟨_, _, rfl⟩
      | showVersion =>
          obtain ⟨after, hshown⟩ := displayThen_of_endless hscene [Usage.shortVersionLine]
            (.proceed s)
          exact ⟨s, after, hshown⟩
      | showFullVersion =>
          obtain ⟨after, hshown⟩ := displayThen_of_endless hscene (Usage.fullVersionLines p.defaults)
            (.proceed s)
          exact ⟨s, after, hshown⟩
      | verboseBoot value =>
          obtain ⟨level, hl⟩ := h
          exact ⟨{ s with verboseBoot := level }, scene, by simp only [obeyItem, obey, hl]⟩
      | verboseGc rest =>
          obtain ⟨level, hl⟩ := h
          exact ⟨s.forward [gcToken level], scene, by simp only [obeyItem, obey, hl]⟩
      | heapSize bound size =>
          obtain ⟨m, hm⟩ := h
          exact setHeapSize_of_endless hscene hm s

theorem obeyItem_eq_settingsOf {item : Item} {items : List Item} {found : Settings}
    (hoption : item.IsOption)
    (h : p.obeyItem item (settingsOf p items) scene = (.ok (.proceed found), after)) :
    item.Accepted p ∧ found = settingsOf p (items ++ [item]) := by
  cases item with
  | directive token d reads =>
      have hsets := obey_proceed h
      exact ⟨hsets.accepted reads, hsets.eq_settingsOf reads hoption⟩
  | classpath flag path =>
      obtain rfl := Next.proceed.inj (Except.ok.inj (congrArg Prod.fst h))
      refine ⟨trivial, ?_⟩
      simp [settingsOf, lastOf_concat, List.countP_append, Item.tokens, Item.heap?, Item.image?,
        Item.bootLevel?, Item.handed, Settings.forward]

theorem obeyAll_of_accepted (hscene : scene.Endless) {items : List Item}
    (hoptions : ∀ item ∈ items, item.IsOption) (h : ∀ item ∈ items, item.Accepted p)
    (s : Settings) :
    ∃ found after, p.obeyAll items s scene = (.ok (.proceed found), after) := by
  induction items generalizing s scene with
  | nil => exact ⟨s, scene, rfl⟩
  | cons item items ih =>
      obtain ⟨mid, there, hitem, hthere⟩ :=
        obeyItem_of_accepted hscene (hoptions item (by simp)) (h item (by simp)) s
      obtain ⟨found, after, hrest⟩ := ih hthere (fun i hi => hoptions i (List.mem_cons_of_mem _ hi))
        (fun i hi => h i (List.mem_cons_of_mem _ hi)) mid
      exact ⟨found, after, by simp only [obeyAll, hitem, hrest]⟩

theorem obeyAll_eq_settingsOf {items done : List Item} {found : Settings}
    (hoptions : ∀ item ∈ items, item.IsOption)
    (h : p.obeyAll items (settingsOf p done) scene = (.ok (.proceed found), after)) :
    (∀ item ∈ items, item.Accepted p) ∧ found = settingsOf p (done ++ items) := by
  induction items generalizing done scene with
  | nil =>
      obtain rfl := Next.proceed.inj (Except.ok.inj (congrArg Prod.fst h))
      simp
  | cons item items ih =>
      obtain ⟨mid, there, hitem, hrest⟩ := obeyAll_cons_proceed h
      obtain ⟨hfirst, rfl⟩ := obeyItem_eq_settingsOf (hoptions item (by simp)) hitem
      obtain ⟨hothers, hfound⟩ := ih (fun i hi => hoptions i (List.mem_cons_of_mem _ hi)) hrest
      refine ⟨List.forall_mem_cons.mpr ⟨hfirst, hothers⟩, ?_⟩
      rw [hfound, List.append_assoc, List.singleton_append]

-- Options alone lead to a launch exactly if each is accepted for itself and what they set
-- together makes a configuration.
theorem parse_launch_iff (hscene : scene.Endless) {items : List Item}
    (hoptions : ∀ item ∈ items, item.IsOption) (c : Configuration) :
    (p.parse (tokensOf items) scene).1 = .ok (.launch c) ↔
      (∀ item ∈ items, item.Accepted p) ∧ p.configure (settingsOf p items) [] = .ok c := by
  have hread : p.parse (tokensOf items) scene =
      resume (p.obeyAll items (settingsOf p []) scene) (p.readFrom []) := by
    have h := p.readFrom_items items [] {} scene
    rwa [List.append_nil] at h
  rw [hread]
  constructor
  · intro h
    rcases hrun : p.obeyAll items (settingsOf p []) scene with ⟨_ | found | _, after⟩
    all_goals rw [hrun] at h
    · simp [resume] at h
    · obtain ⟨haccepted, rfl⟩ := obeyAll_eq_settingsOf hoptions hrun
      exact ⟨haccepted, finish_eq_launch h⟩
    · simp [resume] at h
  · rintro ⟨haccepted, hconf⟩
    obtain ⟨found, after, hrun⟩ :=
      obeyAll_of_accepted hscene hoptions haccepted (settingsOf p [])
    obtain ⟨-, rfl⟩ := obeyAll_eq_settingsOf hoptions hrun
    have hfinish := finish_of_configure hconf after
    rw [hrun]
    exact congrArg Prod.fst hfinish

end Parser

end VmLauncher.Options
