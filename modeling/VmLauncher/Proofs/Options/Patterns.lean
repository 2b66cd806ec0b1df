import VmLauncher.Options.Directive
import Mathlib.Data.List.Nodup
-- Which token is which directive, said without the order in which patterns are tried.
namespace VmLauncher.Options

theorem after?_eq_some_iff (start cs rest : List Char) :
    after? start cs = some rest ↔ cs = start ++ rest := by
  induction start generalizing cs with
  | nil => simp [after?, eq_comm]
  | cons s start ih =>
      cases cs with
      | nil => simp [after?]
      | cons c cs =>
          by_cases h : s = c
          · simp [after?, h, ih]
          · simp [after?, h, Ne.symm h]

theorem behind?_eq_some_iff (start token rest : String) :
    behind? start token = some rest ↔ token = start ++ rest := by
  simp only [behind?, Option.map_eq_some_iff, after?_eq_some_iff]
  constructor
  · rintro ⟨cs, h, rfl⟩
    apply String.toList_inj.mp
    simpa using h
  · rintro rfl
    exact ⟨rest.toList, by simp, by simp⟩

theorem startsWith_iff (start token : String) :
    startsWith start token = true ↔ ∃ rest, token = start ++ rest := by
  have h : startsWith start token = (behind? start token).isSome := by
    simp [startsWith, behind?]
  simp only [h, Option.isSome_iff_exists, behind?_eq_some_iff]

@[simp] theorem startsWith_append (start rest : String) : startsWith start (start ++ rest) = true :=
  (startsWith_iff _ _).mpr ⟨rest, rfl⟩

-- Two starts of one text are starts of each other, one way or the other.
theorem startsWith_or_startsWith {a b r s : String} (h : a ++ r = b ++ s) :
    startsWith a b = true ∨ startsWith b a = true := by
  have hl : a.toList ++ r.toList = b.toList ++ s.toList := by
    simpa using congrArg String.toList h
  rcases List.append_eq_append_iff.mp hl with ⟨cs, hb, _⟩ | ⟨cs, ha, _⟩
  · have hrest : b = a ++ String.ofList cs := String.toList_inj.mp (by simpa using hb)
    exact .inl ((startsWith_iff a b).mpr ⟨_, hrest⟩)
  · have hrest : a = b ++ String.ofList cs := String.toList_inj.mp (by simpa using ha)
    exact .inr ((startsWith_iff b a).mpr ⟨_, hrest⟩)

namespace Directive

-- The directives that are a whole token, as a table.
def words : List (String × Directive) :=
  [("-help", help), ("-?", help), ("-X", nonstandardHelp), ("-X:verbose", verbose),
   ("-server", compilerChoice), ("-client", compilerChoice), ("-version", version),
   ("-fullversion", fullVersion), ("-showversion", showVersion),
   ("-showfullversion", showFullVersion)]

theorem ofWord?_eq_some_iff (token : String) (d : Directive) :
    ofWord? token = some d ↔ (token, d) ∈ words := by
  unfold ofWord? words
  split_ifs with help nonstandard verbose choice
  · rcases help with rfl | rfl <;> simp [eq_comm]
  · simp [nonstandard, eq_comm]
  · simp [verbose, eq_comm]
  · rcases choice with rfl | rfl <;> simp [eq_comm]
  all_goals simp_all [eq_comm]

-- A token and the directive that one of the patterns makes of it, whichever pattern
-- that is.
inductive Reads : String → Directive → Prop
  | word {token : String} {d : Directive} (h : (token, d) ∈ words) : Reads token d
  | opener {start : String} {make : String → Directive} (h : (start, make) ∈ openers)
      (rest : String) : Reads (start ++ rest) (make rest)
  | forwardedToken {token : String} (h : token ∈ forwardedTokens) : Reads token forwarded
  | forwardedStart {start : String} (h : start ∈ forwardedStarts) (rest : String) :
      Reads (start ++ rest) forwarded

theorem mem_openers_iff {start : String} {make : String → Directive} :
    (start, make) ∈ openers ↔
      start = "-X:verboseBoot=" ∧ make = verboseBoot ∨ start = "-verbose:gc" ∧ make = verboseGc ∨
      (∃ bound : HeapBound, start = bound.directive ∧ make = heapSize bound) ∨
      start = "-X:sysLogfile=" ∧ make = logFile ∨
      ∃ kind : ImageKind, start = kind.directive ∧ make = image kind := by
  have hbounds (f : HeapBound → Prop) : (∃ bound, f bound) ↔ f .initial ∨ f .maximum :=
    ⟨fun ⟨bound, h⟩ => by cases bound <;> simp [h],
      fun h => h.elim (fun h => ⟨_, h⟩) fun h => ⟨_, h⟩⟩
  have hkinds (kind : ImageKind) : kind ∈ ImageKind.all := by cases kind <;> decide
  simp only [openers, hbounds, List.mem_append, List.mem_map, List.mem_cons, List.not_mem_nil,
    Prod.mk.injEq, hkinds, true_and, or_false, or_assoc, eq_comm]

theorem ofOpener?_eq_some {token : String} {d : Directive} (h : ofOpener? token = some d) :
    Reads token d := by
  obtain ⟨⟨start, make⟩, hm, hd⟩ := List.exists_of_findSome?_eq_some h
  obtain ⟨rest, hrest, rfl⟩ := Option.map_eq_some_iff.mp hd
  rw [(behind?_eq_some_iff _ _ _).mp hrest]
  exact .opener hm rest

theorem ofOpener?_append_ne_none {start : String} {make : String → Directive}
    (h : (start, make) ∈ openers) (rest : String) : ofOpener? (start ++ rest) ≠ none := by
  intro hn
  have hm := List.findSome?_eq_none_iff.mp hn _ h
  simp [(behind?_eq_some_iff start _ rest).mpr rfl] at hm

theorem isForwarded_iff (token : String) :
    isForwarded token = true ↔
      token ∈ forwardedTokens ∨ ∃ start ∈ forwardedStarts, ∃ rest, token = start ++ rest := by
  simp [isForwarded, startsWith_iff]

theorem ofToken?_reads {token : String} {d : Directive} (h : ofToken? token = some d) :
    Reads token d := by
  unfold ofToken? at h
  split at h
  · rename_i hw
    obtain rfl := Option.some.inj h
    exact .word ((ofWord?_eq_some_iff _ _).mp hw)
  · split at h
    · rename_i ho
      obtain rfl := Option.some.inj h
      exact ofOpener?_eq_some ho
    · split_ifs at h with hf
      obtain rfl := Option.some.inj h
      rcases (isForwarded_iff token).mp hf with ht | ⟨start, hs, rest, rfl⟩
      · exact .forwardedToken ht
      · exact .forwardedStart hs rest

theorem Reads.ofToken?_ne_none {token : String} {d : Directive} (h : Reads token d) :
    ofToken? token ≠ none := by
  intro hn
  unfold ofToken? at hn
  split at hn
  · exact Option.some_ne_none _ hn
  · rename_i hw
    split at hn
    · exact Option.some_ne_none _ hn
    · rename_i ho
      have hf : isForwarded token = false := by simpa using hn
      cases h with
      | word h => simp [(ofWord?_eq_some_iff _ _).mpr h] at hw
      | opener h rest => exact ofOpener?_append_ne_none h rest ho
      | forwardedToken h => simp [(isForwarded_iff token).mpr (.inl h)] at hf
      | forwardedStart h rest =>
          simp [(isForwarded_iff _).mpr (.inr ⟨_, h, rest, rfl⟩)] at hf

end Directive

-- Every text behind the name of one of these is read with that name.
section Openers

open Directive (Reads mem_openers_iff)

theorem reads_verboseBoot (value : String) :
    Reads ("-X:verboseBoot=" ++ value) (.verboseBoot value) :=
  .opener (mem_openers_iff.mpr (.inl ⟨rfl, rfl⟩)) value

theorem reads_verboseGc (rest : String) : Reads ("-verbose:gc" ++ rest) (.verboseGc rest) :=
  .opener (mem_openers_iff.mpr (.inr (.inl ⟨rfl, rfl⟩))) rest

theorem reads_heapSize (bound : HeapBound) (size : String) :
    Reads (bound.directive ++ size) (.heapSize bound size) :=
  .opener (mem_openers_iff.mpr (.inr (.inr (.inl ⟨bound, rfl, rfl⟩)))) size

theorem reads_logFile (path : String) : Reads ("-X:sysLogfile=" ++ path) (.logFile path) :=
  .opener (mem_openers_iff.mpr (.inr (.inr (.inr (.inl ⟨rfl, rfl⟩))))) path

theorem reads_image (kind : ImageKind) (path : String) :
    Reads (kind.directive ++ path) (.image kind path) :=
  .opener (mem_openers_iff.mpr (.inr (.inr (.inr (.inr ⟨kind, rfl, rfl⟩))))) path

end Openers

-- The patterns do not overlap, except where two of them hand the token on. Each fact
-- is one about the tables: a text that both patterns take would make the one a start
-- of the other.
section Apart

open Directive

theorem words_apart_openers :
    ∀ w ∈ words, ∀ o ∈ openers, startsWith o.1 w.1 = false := by
  decide

theorem words_apart_forwarded : ∀ w ∈ words, isForwarded w.1 = false := by
  decide

theorem words_unique : ∀ v ∈ words, ∀ w ∈ words, v.1 = w.1 → v.2 = w.2 := by
  decide

theorem openers_apart :
    ∀ a ∈ openers, ∀ b ∈ openers, startsWith a.1 b.1 = true → a.1 = b.1 := by
  decide

theorem openers_nodup : (openers.map Prod.fst).Nodup := by
  decide

theorem openers_apart_forwarded :
    ∀ o ∈ openers, (∀ token ∈ forwardedTokens, startsWith o.1 token = false) ∧
      ∀ start ∈ forwardedStarts, startsWith o.1 start = false ∧ startsWith start o.1 = false := by
  decide

theorem opener_unique {a b : String} {f g : String → Directive} (ha : (a, f) ∈ openers)
    (hb : (b, g) ∈ openers) {r s : String} (h : a ++ r = b ++ s) : f r = g s := by
  have hstart : a = b := by
    rcases startsWith_or_startsWith h with hab | hba
    · exact openers_apart _ ha _ hb hab
    · exact (openers_apart _ hb _ ha hba).symm
  obtain ⟨rfl, rfl⟩ := Prod.mk.inj (List.inj_on_of_nodup_map openers_nodup ha hb hstart)
  obtain rfl : r = s := by simpa using h
  rfl

theorem word_ne_opener {w : String} {d : Directive} (hw : (w, d) ∈ words) {a : String}
    {f : String → Directive} (ha : (a, f) ∈ openers) (rest : String) : w ≠ a ++ rest := by
  rintro rfl
  simpa using words_apart_openers _ hw _ ha

theorem opener_not_forwarded {a : String} {f : String → Directive} (ha : (a, f) ∈ openers)
    (rest : String) : isForwarded (a ++ rest) = false := by
  obtain ⟨htokens, hstarts⟩ := openers_apart_forwarded _ ha
  rw [← Bool.not_eq_true, isForwarded_iff]
  rintro (ht | ⟨start, hs, r, h⟩)
  · simpa using htokens _ ht
  · obtain ⟨hab, hba⟩ := hstarts start hs
    rcases startsWith_or_startsWith h with h | h
    · simp [hab] at h
    · simp [hba] at h

end Apart

namespace Directive

-- A token that is handed on is read in no other way.
theorem Reads.eq_forwarded {token : String} {d : Directive} (h : Reads token d)
    (hf : isForwarded token = true) : d = forwarded := by
  cases h with
  | word hw => simp [words_apart_forwarded _ hw] at hf
  | opener ho rest => simp [opener_not_forwarded ho rest] at hf
  | forwardedToken _ => rfl
  | forwardedStart _ _ => rfl

theorem Reads.word_or_opener {token : String} {d : Directive} (h : Reads token d)
    (hf : isForwarded token ≠ true) :
    (token, d) ∈ words ∨
      ∃ start make rest, (start, make) ∈ openers ∧ token = start ++ rest ∧ d = make rest := by
  cases h with
  | word hw => exact .inl hw
  | opener ho rest => exact .inr ⟨_, _, rest, ho, rfl, rfl⟩
  | forwardedToken ht => exact absurd ((isForwarded_iff _).mpr (.inl ht)) hf
  | forwardedStart hs rest => exact absurd ((isForwarded_iff _).mpr (.inr ⟨_, hs, rest, rfl⟩)) hf

-- So the order in which the patterns are tried decides nothing.
theorem Reads.unique {token : String} {d e : Directive} (hd : Reads token d)
    (he : Reads token e) : d = e := by
  by_cases hf : isForwarded token = true
  · rw [hd.eq_forwarded hf, he.eq_forwarded hf]
  · rcases hd.word_or_opener hf with hw | ⟨a, f, r, ha, rfl, rfl⟩
    · rcases he.word_or_opener hf with hv | ⟨b, g, s, hb, rfl, rfl⟩
      · exact words_unique _ hw _ hv rfl
      · exact absurd rfl (word_ne_opener hw hb s)
    · rcases he.word_or_opener hf with hv | ⟨b, g, s, hb, hs, rfl⟩
      · exact absurd rfl (word_ne_opener hv ha r)
      · exact opener_unique ha hb hs

theorem ofToken?_eq_some_iff (token : String) (d : Directive) :
    ofToken? token = some d ↔ Reads token d := by
  constructor
  · exact ofToken?_reads
  · intro h
    obtain ⟨e, he⟩ := Option.ne_none_iff_exists'.mp h.ofToken?_ne_none
    rw [he, (ofToken?_reads he).unique h]

theorem ofToken?_eq_none_iff (token : String) : ofToken? token = none ↔ ¬∃ d, Reads token d := by
  simp [← ofToken?_eq_some_iff, Option.eq_none_iff_forall_ne_some]

theorem startsWith_append_of_startsWith {a b : String} (h : startsWith a b = true) (rest : String) :
    startsWith a (b ++ rest) = true := by
  obtain ⟨r, rfl⟩ := (startsWith_iff _ _).mp h
  rw [String.append_assoc]
  exact startsWith_append a _

theorem Reads.startsWithDash {token : String} {d : Directive} (h : Reads token d) :
    startsWithDash token = true := by
  have hw : ∀ w ∈ words, Options.startsWithDash w.1 = true := by decide
  have ho : ∀ o ∈ openers, Options.startsWithDash o.1 = true := by decide
  have ht : ∀ t ∈ forwardedTokens, Options.startsWithDash t = true := by decide
  have hs : ∀ s ∈ forwardedStarts, Options.startsWithDash s = true := by decide
  cases h with
  | word h => exact hw _ h
  | opener h rest => exact startsWith_append_of_startsWith (ho _ h) rest
  | forwardedToken h => exact ht _ h
  | forwardedStart h rest => exact startsWith_append_of_startsWith (hs _ h) rest

theorem ofToken?_of_takesClasspath {token : String} (h : takesClasspath token = true) :
    ofToken? token = none := by
  simp only [takesClasspath, Bool.or_eq_true, decide_eq_true_eq] at h
  rcases h with rfl | rfl <;> decide

theorem Reads.not_takesClasspath {token : String} {d : Directive} (h : Reads token d) :
    takesClasspath token = false := by
  by_contra hc
  rw [Bool.not_eq_false] at hc
  exact h.ofToken?_ne_none (ofToken?_of_takesClasspath hc)

end Directive

theorem startsWithDash_of_takesClasspath {token : String} (h : takesClasspath token = true) :
    startsWithDash token = true := by
  simp only [takesClasspath, Bool.or_eq_true, decide_eq_true_eq] at h
  rcases h with rfl | rfl <;> decide

end VmLauncher.Options
