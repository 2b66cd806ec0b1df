import VmLauncher.Proofs.Options.Configuration
import VmLauncher.Proofs.Options.Effects
import Mathlib.Control.Monad.Basic
-- What becomes of every token of a command line that is accepted.
namespace VmLauncher.Options

open Host
open Directive (Reads)

-- The directives that the launcher keeps to itself.
def Directive.IsKept : Directive → Prop
  | .forwarded | .verboseGc _ => False
  | _ => True

-- The tokens that the runtime gets for an item.
inductive HandsOn : Item → List String → Prop
  | classpath (flag path : String) (takes : takesClasspath flag = true) :
      HandsOn (.classpath flag path takes) [flag, path]
  | forwarded (token : String) (reads : Reads token .forwarded) :
      HandsOn (.directive token .forwarded reads) [token]
  | verboseGc {token rest : String} {level : Nat} (reads : Reads token (.verboseGc rest))
      (h : gcLevel rest = .ok level) :
      HandsOn (.directive token (.verboseGc rest) reads) [gcToken level]
  | kept {token : String} {d : Directive} (reads : Reads token d) (hd : d.IsKept) :
      HandsOn (.directive token d reads) []

@[simp] theorem Settings.setImage_runtimeArgs (s : Settings) (path : String) (kind : ImageKind) :
    (s.setImage path kind).runtimeArgs = s.runtimeArgs := by
  cases kind <;> rfl

@[simp] theorem Settings.setHeap_runtimeArgs (s : Settings) (size : Nat) (bound : HeapBound) :
    (s.setHeap size bound).runtimeArgs = s.runtimeArgs := by
  cases bound <;> rfl

theorem Sets.handsOn {p : Parser} {token : String} {d : Directive} {s found : Settings}
    (h : Sets p token d s found) (reads : Reads token d) :
    ∃ handed, HandsOn (.directive token d reads) handed ∧
      found.runtimeArgs = s.runtimeArgs ++ handed := by
  cases h with
  | verboseGc hl => exact ⟨_, .verboseGc reads hl, rfl⟩
  | forwarded => exact ⟨_, .forwarded token reads, rfl⟩
  | verbose | compilerChoice | showVersion | showFullVersion | verboseBoot | heapSize | logFile |
    image => exact ⟨[], .kept reads trivial, by simp⟩

namespace Parser

theorem obeyItem_handsOn {p : Parser} {item : Item} {s found : Settings} {scene after : Scene}
    (h : p.obeyItem item s scene = (.ok (.proceed found), after)) :
    ∃ handed, HandsOn item handed ∧ found.runtimeArgs = s.runtimeArgs ++ handed := by
  cases item with
  | directive token d reads => exact (obey_proceed h).handsOn reads
  | classpath flag path takes =>
      obtain rfl := Next.proceed.inj (Except.ok.inj (congrArg Prod.fst h))
      exact ⟨_, .classpath flag path takes, rfl⟩

theorem obeyAll_cons_proceed {p : Parser} {item : Item} {items : List Item} {s found : Settings}
    {scene after : Scene}
    (h : p.obeyAll (item :: items) s scene = (.ok (.proceed found), after)) :
    ∃ mid there, p.obeyItem item s scene = (.ok (.proceed mid), there) ∧
      p.obeyAll items mid there = (.ok (.proceed found), after) := by
  rw [obeyAll] at h
  rcases hi : p.obeyItem item s scene with ⟨_ | mid | _, there⟩
  all_goals simp only [hi] at h
  · simp at h
  · exact ⟨mid, there, rfl, h⟩
  · simp at h

-- The runtime gets the tokens of the items in the order in which these stand.
theorem obeyAll_handsOn {p : Parser} {items : List Item} {s found : Settings}
    {scene after : Scene} (h : p.obeyAll items s scene = (.ok (.proceed found), after)) :
    ∃ handed, List.Forall₂ HandsOn items handed ∧
      found.runtimeArgs = s.runtimeArgs ++ handed.flatten := by
  induction items generalizing s scene with
  | nil =>
      obtain rfl := Next.proceed.inj (Except.ok.inj (congrArg Prod.fst h))
      exact ⟨[], .nil, by simp⟩
  | cons item items ih =>
      obtain ⟨mid, there, hi, hrest⟩ := obeyAll_cons_proceed h
      obtain ⟨first, hfirst, hmid⟩ := obeyItem_handsOn hi
      obtain ⟨handed, hhanded, hfound⟩ := ih hrest
      refine ⟨first :: handed, .cons hfirst hhanded, ?_⟩
      rw [hfound, hmid, List.append_assoc, List.flatten_cons]

-- A command line that is accepted has been read up to its tail.
theorem parse_launch {p : Parser} {args : List String} {scene : Scene} {c : Configuration}
    (h : (p.parse args scene).1 = .ok (.launch c)) :
    ∃ items tail s after, Cut args items tail ∧
      p.obeyAll items {} scene = (.ok (.proceed s), after) ∧ p.configure s tail = .ok c := by
  obtain ⟨items, rest, rfl, hrest⟩ := exists_items args
  rw [parse, readFrom_items] at h
  rcases ho : p.obeyAll items {} scene with ⟨_ | s | _, after⟩
  all_goals simp only [ho, resume] at h
  · simp at h
  · rcases hrest with ht | ⟨flag, hf, rfl⟩
    · rw [readFrom_tail p ht] at h
      exact ⟨items, rest, s, after, ⟨rfl, ht⟩, ho, finish_eq_launch h⟩
    · simp [readFrom_lone_flag p hf] at h
  · simp at h

-- Each token ends up in one place: with the launcher, with the runtime or with the
-- application.
theorem launch_handsOn {p : Parser} {args : List String} {scene : Scene} {c : Configuration}
    (h : (p.parse args scene).1 = .ok (.launch c)) :
    ∃ items handed, Cut args items c.applicationArgs ∧ List.Forall₂ HandsOn items handed ∧
      c.runtimeArgs = handed.flatten := by
  obtain ⟨items, tail, s, after, hcut, ho, hc⟩ := parse_launch h
  obtain ⟨handed, hhanded, hs⟩ := obeyAll_handsOn ho
  obtain ⟨-, -, -, -, hconf⟩ := (p.configure_eq_ok_iff s tail c).mp hc
  have happ : c.applicationArgs = tail := by rw [hconf]
  have hruntime : c.runtimeArgs = handed.flatten := by rw [hconf, hs, List.nil_append]
  exact ⟨items, handed, happ ▸ hcut, hhanded, hruntime⟩

end Parser

-- The cut is determined by the command line alone; nothing is lost, doubled or moved.
theorem launch_cut (p : Parser) (args : List String) (scene : Scene) (c : Configuration)
    (h : (p.parse args scene).1 = .ok (.launch c)) :
    ∃ items tail handed, Cut args items tail ∧
      (∀ others rest, Cut args others rest → others = items ∧ rest = tail) ∧
      List.Forall₂ HandsOn items handed ∧ c.runtimeArgs = handed.flatten ∧
      c.applicationArgs = tail ∧ c.residualArgs = handed.flatten ++ tail := by
  obtain ⟨items, handed, hcut, hhanded, hruntime⟩ := Parser.launch_handsOn h
  refine ⟨items, c.applicationArgs, handed, hcut, fun _ _ => hcut.unique, hhanded, hruntime, rfl,
    ?_⟩
  rw [Configuration.residualArgs, hruntime]

theorem launch_cut_of_path_like_directive :
    let p : Parser := ⟨"bootvm", 4096, {}⟩
    let args := ["-X:ic=a", "-cp", "-help", "-X:id=b", "-verbose:gc=3", "-X:ir=c", "-Dx", "-odd",
      "-cp"]
    let c : Configuration := ⟨50 * mebibyte, 100 * mebibyte, "a", "b", "c", 0, 0, none,
      ["-cp", "-help", "-X:gc:verbose=3", "-Dx"], ["-odd", "-cp"]⟩
    (p.parse args ⟨.unlimited, ⟨[], []⟩, []⟩).1 = .ok (.launch c) ∧
      ∃ items tail handed, Cut args items tail ∧
        (∀ others rest, Cut args others rest → others = items ∧ rest = tail) ∧
        List.Forall₂ HandsOn items handed ∧ c.runtimeArgs = handed.flatten ∧
        c.applicationArgs = tail ∧ c.residualArgs = handed.flatten ++ tail := by
  intro p args c
  have h : (p.parse args ⟨.unlimited, ⟨[], []⟩, []⟩).1 = .ok (.launch c) := by decide +kernel
  exact ⟨h, launch_cut p args _ c h⟩

end VmLauncher.Options
