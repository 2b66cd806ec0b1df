import VmLauncher.Proofs.Memory.Rounding
import VmLauncher.Proofs.Memory.Units
import VmLauncher.Proofs.Number.Decimals
import VmLauncher.Proofs.Options.Rearrangement
import VmLauncher.Proofs.Options.Residual
import Mathlib.Data.List.Perm.Basic
-- The two heap sizes of a command line, given as numbers that are in order.
namespace VmLauncher

namespace Memory.SizeSpec

open Number (Base Spells)

theorem round?_congr {spec other : SizeSpec} (hround : other.roundTo = spec.roundTo)
    (hpage : other.pageSize = spec.pageSize) (amount : Binary64) (unit : SizeUnit) :
    other.round? amount unit = spec.round? amount unit := by
  cases spec
  cases other
  obtain rfl := hround
  obtain rfl := hpage
  rfl

-- Each step from the digits to the multiple keeps the order, so no check that the greater
-- number passes can stop the less one.
theorem measure_mono (spec other : SizeSpec) (hround : other.roundTo = spec.roundTo)
    (hpage : other.pageSize = spec.pageSize) (hp : 1 ≤ spec.pageSize) {a b : Nat} (ha : 1 ≤ a)
    (hab : a ≤ b) {first second firstUnit secondUnit : String} {unit : SizeUnit}
    (hfirst : Spells first a) (hsecond : Spells second b)
    (hfirstUnit : SizeUnit.ofText? firstUnit = some unit)
    (hsecondUnit : SizeUnit.ofText? secondUnit = some unit) {token : String} {most : Measure}
    (h : spec.measure token (second ++ secondUnit) = .ok most) (otherToken : String) :
    ∃ m, other.measure otherToken (first ++ firstUnit) = .ok m ∧ m.rounded ≤ most.rounded := by
  have hend {text : String} (htext : SizeUnit.ofText? text = some unit) :
      Base.decimal.EndsAt text.toList := SizeUnit.endsAt htext fun _ => rfl
  obtain ⟨amount, rest, found, hsplit, hfound, -, -, hmost⟩ := measure_eq_ok h
  rw [Number.split?_spells_append hsecond (hend hsecondUnit), Option.some.injEq,
    Prod.mk.injEq] at hsplit
  obtain ⟨rfl, rfl⟩ := hsplit
  obtain rfl : unit = found := Option.some.inj (hsecondUnit.symm.trans hfound)
  obtain ⟨y, hy⟩ : ∃ y, (Binary64.ofNat b).Holds y := by
    rcases (Binary64.ofNat_rounds b).eq_infinity_or_holds with hinfinite | hfinite
    · rw [hinfinite] at hmost
      simp [round?, Binary64.isFinite] at hmost
    · exact hfinite
  obtain ⟨x, hx, hxy⟩ := (Binary64.ofNat_rounds a).mono (Binary64.ofNat_rounds b)
    (by exact_mod_cast hab) hy
  obtain ⟨m, hm, hle⟩ := round?_mono hp hx hy hxy hmost
  rw [← round?_congr hround hpage] at hm
  refine ⟨m, ?_, hle⟩
  rw [measure_of_holds (Number.split?_spells_append hfirst (hend hfirstUnit)) hfirstUnit hx
    (Binary64.ofNat_holds_pos ha hx), hm]

end Memory.SizeSpec

namespace Options

open Directive (Reads)
open Host
open Number (Spells)

def heapItem (bound : HeapBound) (size : String) : Item :=
  .directive (bound.directive ++ size) (.heapSize bound size) (reads_heapSize bound size)

theorem tokensOf_of_forall₂ {tokens : List String} {items : List Item}
    (h : List.Forall₂ (fun token item => Item.tokens item = [token]) tokens items) :
    tokensOf items = tokens := by
  induction h with
  | nil => rfl
  | cons hitem _ ih => rw [tokensOf_cons, hitem, ih, List.singleton_append]

section Pair

variable {p : Parser} {scene : Scene} {first second code data refMap : String}
  {least most : Memory.Measure}

def pairItems (first second code data refMap : String) : List Item :=
  heapItem .initial first :: heapItem .maximum second :: imageItems code data refMap

theorem pairItems_lanes_nodup (first second code data refMap : String) :
    ((pairItems first second code data refMap).map Item.lane).Nodup := by
  have hlanes : (pairItems first second code data refMap).map Item.lane =
      [.heapSize .initial, .heapSize .maximum, .image .code, .image .data, .image .refMap] := rfl
  rw [hlanes]
  decide

theorem pairItems_isOption (first second code data refMap : String) :
    ∀ item ∈ pairItems first second code data refMap, item.IsOption := by
  simp [pairItems, heapItem, imageItems, Item.IsOption, Directive.IsOption]

theorem countP_verbose_pairItems (first second code data refMap : String) :
    (pairItems first second code data refMap).countP (·.tokens = ["-X:verbose"]) = 0 := by
  have hother {token : String} {d : Directive} (reads : Reads token d) (hd : d ≠ .verbose) :
      token ≠ "-X:verbose" := reads.eq_verbose_iff.not.mpr hd
  have hheap (bound : HeapBound) (size : String) := hother (reads_heapSize bound size) (by simp)
  have himage (kind : ImageKind) (path : String) := hother (reads_image kind path) (by simp)
  simp [pairItems, heapItem, imageItems, Item.tokens, hheap, himage]

theorem settingsOf_pairItems
    (hleast : (p.sizeSpec .initial).measure (HeapBound.initial.directive ++ first) first = .ok least)
    (hmost : (p.sizeSpec .maximum).measure (HeapBound.maximum.directive ++ second) second =
      .ok most) :
    settingsOf p (pairItems first second code data refMap) =
      { initialHeap := some least.rounded, maximumHeap := some most.rounded, code := some code,
        data := some data, refMap := some refMap } := by
  have hset {bound : HeapBound} {size : String} {m : Memory.Measure}
      (h : (p.sizeSpec bound).measure (bound.directive ++ size) size = .ok m) :
      (heapItem bound size).heap? p bound = some m.rounded := by
    simp [heapItem, Item.heap?, h, Except.toOption]
  have hinitial : lastOf (Item.heap? p .initial) (pairItems first second code data refMap) =
      some least.rounded := by
    rw [lastOf, pairItems, List.filterMap_cons_some (hset hleast)]
    rfl
  have hmaximum : lastOf (Item.heap? p .maximum) (pairItems first second code data refMap) =
      some most.rounded := by
    rw [lastOf, pairItems, List.filterMap_cons_none rfl, List.filterMap_cons_some (hset hmost)]
    rfl
  simp only [settingsOf, hinitial, hmaximum, countP_verbose_pairItems]
  rfl

end Pair

-- A maximum that is accepted is enough for every initial size up to it, wherever the two stand
-- among the images.
theorem ordered_pair_launches {p : Parser} (hp : 1 ≤ p.pageSize) {a b : Nat} (ha : 1 ≤ a)
    (hab : a ≤ b) {first second firstUnit secondUnit : String} {unit : Memory.SizeUnit}
    (hfirst : Spells first a) (hsecond : Spells second b)
    (hfirstUnit : Memory.SizeUnit.ofText? firstUnit = some unit)
    (hsecondUnit : Memory.SizeUnit.ofText? secondUnit = some unit) {scene : Scene}
    (hscene : scene.Endless) {bytes : Nat}
    (haccepted : ((p.sizeSpec .maximum).parse ("-Xmx" ++ (second ++ secondUnit))
      (second ++ secondUnit) p.program scene).1 = .ok bytes)
    {code data refMap : String} {args : List String}
    (hargs : args.Perm ["-Xms" ++ (first ++ firstUnit), "-Xmx" ++ (second ++ secondUnit),
      "-X:ic=" ++ code, "-X:id=" ++ data, "-X:ir=" ++ refMap]) :
    ∃ initial ≤ bytes,
      ((p.sizeSpec .initial).parse ("-Xms" ++ (first ++ firstUnit)) (first ++ firstUnit) p.program
        scene).1 = .ok initial ∧
      (p.parse args scene).1 =
        .ok (.launch ⟨initial, bytes, code, data, refMap, 0, 0, none, [], []⟩) := by
  obtain ⟨most, hmost, rfl⟩ := measure_of_parse_ok (Prod.ext haccepted rfl)
  obtain ⟨least, hleast, hle⟩ := Memory.SizeSpec.measure_mono (p.sizeSpec .maximum)
    (p.sizeSpec .initial) rfl rfl hp ha hab hfirst hsecond hfirstUnit hsecondUnit hmost
    ("-Xms" ++ (first ++ firstUnit))
  refine ⟨least.rounded, hle, Memory.SizeSpec.parse_of_endless hleast p.program hscene, ?_⟩
  set items := pairItems (first ++ firstUnit) (second ++ secondUnit) code data refMap with hitems
  obtain ⟨others, rfl, hperm⟩ : ∃ others, args = tokensOf others ∧ others.Perm items := by
    obtain ⟨others, hothers, hperm⟩ := List.perm_comp_forall₂ hargs
      (r := fun token item => Item.tokens item = [token]) (v := items)
      (.cons rfl (.cons rfl (.cons rfl (.cons rfl (.cons rfl .nil)))))
    exact ⟨others, (tokensOf_of_forall₂ hothers).symm, hperm⟩
  have hoptions : ∀ item ∈ others, item.IsOption := fun item hi =>
    pairItems_isOption _ _ _ _ _ item (hperm.subset hi)
  have hsettings := (Rearranged.of_perm hperm.symm (pairItems_lanes_nodup ..)).settingsOf_eq p
  rw [hitems, settingsOf_pairItems hleast hmost] at hsettings
  have hall : ∀ item ∈ items, item.Accepted p := by
    simp only [hitems, pairItems, List.forall_mem_cons]
    exact ⟨⟨least, hleast⟩, ⟨most, hmost⟩, by simp [imageItems, Item.Accepted]⟩
  rw [Parser.parse_launch_iff hscene hoptions, ← hsettings, Parser.configure_eq_ok_iff]
  exact ⟨fun item hi => hall item (hperm.subset hi), hle, rfl, rfl, rfl, rfl⟩

-- Neighbours of which the greater one is no double, so that both come to the same size.
theorem ordered_pair_launches_of_neighbours :
    let p : Parser := ⟨"bootvm", 4096, {}⟩
    let scene : Scene := ⟨.unlimited, ⟨[], []⟩, []⟩
    let least := toString 9007199254740992
    let most := toString 9007199254740993
    let args := ["-X:ir=" ++ "c", "-Xmx" ++ (most ++ "k"), "-X:ic=" ++ "a", "-Xms" ++ (least ++ "K"),
      "-X:id=" ++ "b"]
    ((1 ≤ p.pageSize ∧ 1 ≤ 9007199254740992 ∧ 9007199254740992 ≤ 9007199254740993) ∧
      (Spells least 9007199254740992 ∧ Spells most 9007199254740993) ∧
      (Memory.SizeUnit.ofText? "K" = some .kilobytes ∧
        Memory.SizeUnit.ofText? "k" = some .kilobytes) ∧
      scene.Endless ∧
      ((p.sizeSpec .maximum).parse ("-Xmx" ++ (most ++ "k")) (most ++ "k") p.program scene).1 =
        .ok 9223372036854775808 ∧
      args.Perm ["-Xms" ++ (least ++ "K"), "-Xmx" ++ (most ++ "k"), "-X:ic=" ++ "a", "-X:id=" ++ "b",
        "-X:ir=" ++ "c"]) ∧
      ∃ initial ≤ 9223372036854775808,
        ((p.sizeSpec .initial).parse ("-Xms" ++ (least ++ "K")) (least ++ "K") p.program scene).1 =
          .ok initial ∧
        (p.parse args scene).1 = .ok (.launch
          ⟨initial, 9223372036854775808, "a", "b", "c", 0, 0, none, [], []⟩) := by
  intro p scene least most args
  have hp : 1 ≤ p.pageSize := by decide
  have hleast : Spells least 9007199254740992 := Number.spells_toString _
  have hmost : Spells most 9007199254740993 := Number.spells_toString _
  have hupper : Memory.SizeUnit.ofText? "K" = some .kilobytes := by decide
  have hlower : Memory.SizeUnit.ofText? "k" = some .kilobytes := by decide
  have hscene : scene.Endless := rfl
  have haccepted : ((p.sizeSpec .maximum).parse ("-Xmx" ++ (most ++ "k")) (most ++ "k") p.program
      scene).1 = .ok 9223372036854775808 := by decide +kernel
  have hargs : args.Perm ["-Xms" ++ (least ++ "K"), "-Xmx" ++ (most ++ "k"), "-X:ic=" ++ "a",
      "-X:id=" ++ "b", "-X:ir=" ++ "c"] := by decide +kernel
  exact ⟨⟨⟨hp, by decide, by decide⟩, ⟨hleast, hmost⟩, ⟨hupper, hlower⟩, hscene, haccepted, hargs⟩,
    ordered_pair_launches hp (by decide) (by decide) hleast hmost hupper hlower hscene haccepted hargs⟩

end Options

end VmLauncher
