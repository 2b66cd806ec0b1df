import VmLauncher.Proofs.Options.Summary
-- Options in another order: which moves change nothing, and which occurrence counts.
namespace VmLauncher.Options

open Host
open Directive (Reads)

-- What items have in common whose order among each other may matter: the directive that
-- they are, or that the runtime gets something of them.
inductive Lane where
  | word (token : String)
  | verboseBoot
  | heapSize (bound : HeapBound)
  | image (kind : ImageKind)
  | logFile
  | forwards
deriving DecidableEq, Repr

def Item.lane : Item → Lane
  | directive _ (.verboseBoot _) _ => .verboseBoot
  | directive _ (.heapSize bound _) _ => .heapSize bound
  | directive _ (.image kind _) _ => .image kind
  | directive _ (.logFile _) _ => .logFile
  | directive _ (.verboseGc _) _ => .forwards
  | directive _ .forwarded _ => .forwards
  | directive token _ _ => .word token
  | classpath .. => .forwards

structure Rearranged (items others : List Item) : Prop where
  perm : items.Perm others
  order : ∀ lane, items.filter (·.lane = lane) = others.filter (·.lane = lane)

-- An occurrence behind which the directive does not occur again.
def IsLast (items : List Item) (item : Item) : Prop :=
  ∃ before after, items = before ++ item :: after ∧ ∀ later ∈ after, later.lane ≠ item.lane

def Settings.heap? (s : Settings) : HeapBound → Option Nat
  | .initial => s.initialHeap
  | .maximum => s.maximumHeap

@[simp] theorem Settings.setHeap_heap? (s : Settings) (size : Nat) (bound other : HeapBound) :
    (s.setHeap size bound).heap? other = if bound = other then some size else s.heap? other := by
  cases bound <;> cases other <;> rfl

@[simp] theorem Settings.setHeap_image? (s : Settings) (size : Nat) (bound : HeapBound)
    (kind : ImageKind) : (s.setHeap size bound).image? kind = s.image? kind := by
  cases bound <;> cases kind <;> rfl

@[simp] theorem Settings.setImage_image? (s : Settings) (path : String)
    (kind other : ImageKind) :
    (s.setImage path kind).image? other = if kind = other then some path else s.image? other := by
  cases kind <;> cases other <;> rfl

@[simp] theorem Settings.setImage_heap? (s : Settings) (path : String) (kind : ImageKind)
    (bound : HeapBound) : (s.setImage path kind).heap? bound = s.heap? bound := by
  cases kind <;> cases bound <;> rfl

def Configuration.heap (c : Configuration) : HeapBound → Nat
  | .initial => c.initialHeap
  | .maximum => c.maximumHeap

-- A configuration that holds what the last occurrence of each option says. None of the others
-- was malformed.
structure LastOnesWin (p : Parser) (items : List Item) (c : Configuration) : Prop where
  accepted : ∀ item ∈ items, item.Accepted p
  verbose : c.verbose.toNat = items.countP (·.tokens = ["-X:verbose"])
  verboseBoot : ∀ token value reads,
    IsLast items (.directive token (.verboseBoot value) reads) →
    Number.readLevel value = .ok c.verboseBoot
  heapSize : ∀ token bound size reads,
    IsLast items (.directive token (.heapSize bound size) reads) →
    ∃ m, (p.sizeSpec bound).measure token size = .ok m ∧ c.heap bound = m.rounded
  image : ∀ token kind path reads, IsLast items (.directive token (.image kind path) reads) →
    c.image kind = path

section Lanes

variable {α : Type} {lane : Lane} {items others : List Item}

theorem filterMap_lane {f : Item → Option α} (hf : ∀ item, item.lane ≠ lane → f item = none)
    (items : List Item) : (items.filter (·.lane = lane)).filterMap f = items.filterMap f := by
  rw [List.filterMap_filter]
  congr 1
  funext item
  by_cases hl : item.lane = lane
  · simp [hl]
  · simp [hl, hf item hl]

theorem flatMap_lane {f : Item → List α} (hf : ∀ item, item.lane ≠ lane → f item = [])
    (items : List Item) : (items.filter (·.lane = lane)).flatMap f = items.flatMap f := by
  induction items with
  | nil => rfl
  | cons item items ih =>
      by_cases hl : item.lane = lane
      · simp [hl, ih]
      · simp [hl, hf item hl, ih]

theorem Rearranged.trans {further : List Item} (h : Rearranged items others)
    (hf : Rearranged others further) : Rearranged items further :=
  ⟨h.perm.trans hf.perm, fun lane => (h.order lane).trans (hf.order lane)⟩

-- Neighbours of which neither says what the other does may change places.
theorem Rearranged.swap (before after : List Item) {first second : Item}
    (h : first.lane ≠ second.lane) :
    Rearranged (before ++ first :: second :: after) (before ++ second :: first :: after) := by
  refine ⟨(List.Perm.swap second first after).append_left before, fun lane => ?_⟩
  rw [List.filter_append, List.filter_append]
  congr 1
  by_cases hfirst : first.lane = lane
  · have hsecond : second.lane ≠ lane := fun hs => h (hfirst.trans hs.symm)
    simp [hfirst, hsecond]
  · simp [hfirst, List.filter_cons]

-- So any order will do for items of which no two say the same.
theorem Rearranged.of_perm (h : items.Perm others) (hlanes : (items.map Item.lane).Nodup) :
    Rearranged items others := by
  refine ⟨h, fun lane => ?_⟩
  have hfiltered := h.filter (·.lane = lane)
  have hsingle : (items.filter (·.lane = lane)).length ≤ 1 := by
    have hcount := List.nodup_iff_count_le_one.mp hlanes lane
    rwa [List.count, List.countP_map, List.countP_eq_length_filter] at hcount
  rcases hitems : items.filter (·.lane = lane) with _ | ⟨item, _ | ⟨next, rest⟩⟩
  · rw [hitems] at hfiltered ⊢
    exact (List.nil_perm.mp hfiltered).symm
  · rw [hitems] at hfiltered ⊢
    exact List.singleton_perm.mp hfiltered
  · simp [hitems] at hsingle

theorem Rearranged.lastOf_eq (h : Rearranged items others) {f : Item → Option α}
    (hf : ∀ item, item.lane ≠ lane → f item = none) : lastOf f items = lastOf f others := by
  rw [lastOf, lastOf, ← filterMap_lane hf items, ← filterMap_lane hf others, h.order lane]

theorem IsLast.mem {item : Item} (h : IsLast items item) : item ∈ items := by
  obtain ⟨before, after, rfl, -⟩ := h
  exact List.mem_append_right before (List.mem_cons_self ..)

theorem lastOf_of_isLast {item : Item} (h : IsLast items item) {f : Item → Option α}
    (hf : ∀ other : Item, other.lane ≠ item.lane → f other = none) {a : α}
    (ha : f item = some a) : lastOf f items = some a := by
  obtain ⟨before, after, rfl, hafter⟩ := h
  have hnone : after.filterMap f = [] :=
    List.filterMap_eq_nil_iff.mpr fun later hlater => hf later (hafter later hlater)
  rw [lastOf, List.filterMap_append, List.filterMap_cons_some ha, hnone, List.getLast?_append]
  rfl

end Lanes

namespace Item

theorem bootLevel?_off_lane (item : Item) (h : item.lane ≠ .verboseBoot) :
    item.bootLevel? = none := by
  cases item with
  | classpath => rfl
  | directive token d => cases d <;> first | rfl | exact absurd rfl h

theorem heap?_off_lane (p : Parser) (bound : HeapBound) (item : Item)
    (h : item.lane ≠ .heapSize bound) : item.heap? p bound = none := by
  cases item with
  | classpath => rfl
  | directive token d =>
      cases d with
      | heapSize b size =>
          have hb : b ≠ bound := fun hb => h (congrArg Lane.heapSize hb)
          simp [heap?, hb]
      | _ => rfl

theorem image?_off_lane (kind : ImageKind) (item : Item) (h : item.lane ≠ .image kind) :
    item.image? kind = none := by
  cases item with
  | classpath => rfl
  | directive token d =>
      cases d with
      | image k path =>
          have hk : k ≠ kind := fun hk => h (congrArg Lane.image hk)
          simp [image?, hk]
      | _ => rfl

theorem handed_off_lane (item : Item) (h : item.lane ≠ .forwards) : item.handed = [] := by
  cases item with
  | classpath => exact absurd rfl h
  | directive token d => cases d <;> first | rfl | exact absurd rfl h

theorem one_le_length_tokens (item : Item) : 1 ≤ item.tokens.length := by
  cases item <;> simp [tokens]

end Item

-- Each setting comes from one lane, or from a count.
theorem Rearranged.settingsOf_eq {items others : List Item} (h : Rearranged items others)
    (p : Parser) : settingsOf p items = settingsOf p others := by
  have hboot := h.lastOf_eq Item.bootLevel?_off_lane
  have hheap (bound : HeapBound) := h.lastOf_eq (Item.heap?_off_lane p bound)
  have himage (kind : ImageKind) := h.lastOf_eq (Item.image?_off_lane kind)
  have hcount := h.perm.countP_eq (·.tokens = ["-X:verbose"])
  have hhanded : items.flatMap Item.handed = others.flatMap Item.handed := by
    rw [← flatMap_lane Item.handed_off_lane items, ← flatMap_lane Item.handed_off_lane others,
      h.order]
  simp only [settingsOf, hboot, hheap, himage, hcount, hhanded]

theorem length_le_tokensOf (items : List Item) : items.length ≤ (tokensOf items).length := by
  induction items with
  | nil => exact Nat.le_refl _
  | cons item items ih =>
      have hone := item.one_le_length_tokens
      rw [tokensOf_cons, List.length_cons, List.length_append]
      omega

namespace Parser

variable {p : Parser}

-- A size that was given is not moved to meet the other one.
theorem configure_heap {s : Settings} {tail : List String} {c : Configuration}
    (h : p.configure s tail = .ok c) {bound : HeapBound} {size : Nat}
    (hs : s.heap? bound = some size) : c.heap bound = size := by
  obtain ⟨-, -, -, -, hc⟩ := (p.configure_eq_ok_iff s tail c).mp h
  cases bound with
  | initial =>
      have hi : s.initialHeap = some size := hs
      have hsize : c.initialHeap = (p.heapSizes s).1 := by rw [hc]
      rw [Configuration.heap, hsize, heapSizes, hi]
      cases s.maximumHeap <;> rfl
  | maximum =>
      have hm : s.maximumHeap = some size := hs
      have hsize : c.maximumHeap = (p.heapSizes s).2 := by rw [hc]
      rw [Configuration.heap, hsize, heapSizes, hm]
      cases s.initialHeap <;> rfl

theorem configure_image {s : Settings} {tail : List String} {c : Configuration}
    (h : p.configure s tail = .ok c) {kind : ImageKind} {path : String}
    (hs : s.image? kind = some path) : c.image kind = path := by
  obtain ⟨-, hcode, hdata, hrefMap, -⟩ := (p.configure_eq_ok_iff s tail c).mp h
  cases kind with
  | code => exact Option.some.inj (hcode.symm.trans hs)
  | data => exact Option.some.inj (hdata.symm.trans hs)
  | refMap => exact Option.some.inj (hrefMap.symm.trans hs)

section Last

variable {items : List Item}

theorem settingsOf_heap (haccepted : ∀ item ∈ items, item.Accepted p) {token size : String}
    {bound : HeapBound} {reads : Reads token (.heapSize bound size)}
    (h : IsLast items (.directive token (.heapSize bound size) reads)) :
    ∃ m, (p.sizeSpec bound).measure token size = .ok m ∧
      (settingsOf p items).heap? bound = some m.rounded := by
  obtain ⟨m, hm⟩ := haccepted _ h.mem
  have hset : (Item.directive token (.heapSize bound size) reads).heap? p bound =
      some m.rounded := by
    simp [Item.heap?, hm, Except.toOption]
  have hfound := lastOf_of_isLast h (Item.heap?_off_lane p bound) hset
  cases bound <;> exact ⟨m, hm, hfound⟩

theorem settingsOf_image {token path : String} {kind : ImageKind}
    {reads : Reads token (.image kind path)}
    (h : IsLast items (.directive token (.image kind path) reads)) :
    (settingsOf p items).image? kind = some path := by
  have hset : (Item.directive token (.image kind path) reads).image? kind = some path := by
    simp [Item.image?]
  have hfound := lastOf_of_isLast h (Item.image?_off_lane kind) hset
  cases kind <;> exact hfound

theorem settingsOf_verboseBoot (haccepted : ∀ item ∈ items, item.Accepted p) {token value : String}
    {reads : Reads token (.verboseBoot value)}
    (h : IsLast items (.directive token (.verboseBoot value) reads)) :
    Number.readLevel value = .ok (settingsOf p items).verboseBoot := by
  obtain ⟨level, hl⟩ := haccepted _ h.mem
  have hset : (Item.directive token (.verboseBoot value) reads).bootLevel? = some level := by
    simp [Item.bootLevel?, hl, Except.toOption]
  have hfound := lastOf_of_isLast h Item.bootLevel?_off_lane hset
  rw [hl, settingsOf, hfound]
  rfl

theorem configure_lastOnesWin (hcount : (tokensOf items).length < UInt32.size)
    (haccepted : ∀ item ∈ items, item.Accepted p) {tail : List String} {c : Configuration}
    (h : p.configure (settingsOf p items) tail = .ok c) : LastOnesWin p items c := by
  obtain ⟨-, -, -, -, hc⟩ := (p.configure_eq_ok_iff _ tail c).mp h
  have hverbose : c.verbose = .ofNat (items.countP (·.tokens = ["-X:verbose"])) := by
    rw [hc]
    rfl
  have hboot : c.verboseBoot = (settingsOf p items).verboseBoot := by rw [hc]
  refine ⟨haccepted, ?_, ?_, ?_, ?_⟩
  · have hfits : items.countP (·.tokens = ["-X:verbose"]) < UInt32.size :=
      calc items.countP (·.tokens = ["-X:verbose"]) ≤ items.length := List.countP_le_length
        _ ≤ (tokensOf items).length := length_le_tokensOf items
        _ < UInt32.size := hcount
    rw [hverbose]
    exact UInt32.toNat_ofNat_of_lt' hfits
  · intro token value reads hlast
    rw [hboot]
    exact settingsOf_verboseBoot haccepted hlast
  · intro token bound size reads hlast
    obtain ⟨m, hm, hset⟩ := settingsOf_heap haccepted hlast
    exact ⟨m, hm, configure_heap h hset⟩
  · intro token kind path reads hlast
    exact configure_image h (settingsOf_image hlast)

end Last

end Parser

-- The order of options among each other is free but for repetitions, of which the last one
-- counts, and for what the runtime gets.
theorem launch_order_free {p : Parser} {items others : List Item} (h : Rearranged items others)
    (hoptions : ∀ item ∈ items, item.IsOption) (hcount : (tokensOf items).length < UInt32.size)
    {scene other : Scene} (hscene : scene.Endless) (hother : other.Endless) :
    (∀ c, (p.parse (tokensOf items) scene).1 = .ok (.launch c) ↔
      (p.parse (tokensOf others) other).1 = .ok (.launch c)) ∧
    ∀ c, (p.parse (tokensOf items) scene).1 = .ok (.launch c) → LastOnesWin p items c := by
  have hoptions' : ∀ item ∈ others, item.IsOption := fun item hi =>
    hoptions item (h.perm.mem_iff.mpr hi)
  have haccepted : (∀ item ∈ items, item.Accepted p) ↔ ∀ item ∈ others, item.Accepted p :=
    forall_congr' fun item => by rw [h.perm.mem_iff]
  refine ⟨fun c => ?_, fun c hlaunch => ?_⟩
  · rw [Parser.parse_launch_iff hscene hoptions, Parser.parse_launch_iff hother hoptions',
      haccepted, h.settingsOf_eq]
  · obtain ⟨hall, hconf⟩ := (Parser.parse_launch_iff hscene hoptions c).mp hlaunch
    exact Parser.configure_lastOnesWin hcount hall hconf

-- A class path that looks like an option moves past a size that does not count, and a level
-- for the runtime to the front of an image.
theorem launch_order_free_of_two_moves :
    let p : Parser := ⟨"bootvm", 4096, {}⟩
    let scene : Scene := ⟨.unlimited, ⟨[], []⟩, []⟩
    let option (token : String) (d : Directive) (h : Directive.ofToken? token = some d) : Item :=
      .directive token d (Directive.ofToken?_reads h)
    let first := option "-Xms8K" (.heapSize .initial "8K") (by decide +kernel)
    let path : Item := .classpath "-cp" "-X:verbose" (by decide)
    let last := option "-Xms16K" (.heapSize .initial "16K") (by decide +kernel)
    let verbose := option "-X:verbose" .verbose (by decide +kernel)
    let code := option "-X:ic=a" (.image .code "a") (by decide +kernel)
    let data := option "-X:id=b" (.image .data "b") (by decide +kernel)
    let refMap := option "-X:ir=c" (.image .refMap "c") (by decide +kernel)
    let level := option "-verbose:gc=3" (.verboseGc "=3") (by decide +kernel)
    let items := [first, path, last, verbose, code, data, refMap, level]
    let others := [path, first, last, verbose, code, data, level, refMap]
    let c : Configuration := ⟨16384, 100 * mebibyte, "a", "b", "c", 1, 0, none,
      ["-cp", "-X:verbose", "-X:gc:verbose=3"], []⟩
    (Rearranged items others ∧ (∀ item ∈ items, item.IsOption) ∧
      (tokensOf items).length < UInt32.size ∧ scene.Endless) ∧
      (p.parse (tokensOf others) scene).1 = .ok (.launch c) ∧ LastOnesWin p items c := by
  intro p scene option first path last verbose code data refMap level items others c
  have hmoved : Rearranged items others :=
    (Rearranged.swap [] [last, verbose, code, data, refMap, level] (by decide)).trans
      (Rearranged.swap [path, first, last, verbose, code, data] [] (by decide))
  have hoptions : ∀ item ∈ items, item.IsOption := by
    simp [items, first, path, last, verbose, code, data, refMap, level, option, Item.IsOption,
      Directive.IsOption]
  have hcount : (tokensOf items).length < UInt32.size := by decide
  have hlaunch : (p.parse (tokensOf items) scene).1 = .ok (.launch c) := by decide +kernel
  have hscene : scene.Endless := rfl
  obtain ⟨hsame, hlast⟩ := launch_order_free (p := p) hmoved hoptions hcount hscene hscene
  exact ⟨⟨hmoved, hoptions, hcount, hscene⟩, (hsame c).mp hlaunch, hlast c hlaunch⟩

end VmLauncher.Options
