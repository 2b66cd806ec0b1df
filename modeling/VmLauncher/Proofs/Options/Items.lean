import VmLauncher.Options.Parser
import VmLauncher.Proofs.Options.Patterns
-- A command line as the items that the launcher takes from its front, and the tail
-- that it leaves to the application.
namespace VmLauncher.Options

open Host
open Directive (Reads)

-- What is taken as a whole: a directive of one token, or the token that announces a
-- class path with the path, whatever that looks like.
inductive Item where
  | directive (token : String) (d : Directive) (reads : Reads token d)
  | classpath (flag path : String) (takes : takesClasspath flag = true)

def Item.tokens : Item → List String
  | directive token _ _ => [token]
  | classpath flag path _ => [flag, path]

def tokensOf (items : List Item) : List String := items.flatMap Item.tokens

@[simp] theorem tokensOf_nil : tokensOf [] = [] := rfl

@[simp] theorem tokensOf_cons (item : Item) (items : List Item) :
    tokensOf (item :: items) = item.tokens ++ tokensOf items := rfl

def Recognized (token : String) : Prop := takesClasspath token = true ∨ ∃ d, Reads token d

def BeginsApplication (token : String) : Prop :=
  startsWithDash token = false ∨ ¬Recognized token

-- What the launcher does not look into: nothing, or all from a token on that is none
-- of its own.
def IsTail : List String → Prop
  | [] => True
  | token :: _ => BeginsApplication token

-- One way to part a command line between the launcher and the application.
structure Cut (args : List String) (items : List Item) (tail : List String) : Prop where
  joined : args = tokensOf items ++ tail
  stops : IsTail tail

theorem Recognized.startsWithDash {token : String} (h : Recognized token) :
    startsWithDash token = true := by
  rcases h with hc | ⟨d, hd⟩
  · exact startsWithDash_of_takesClasspath hc
  · exact hd.startsWithDash

theorem not_beginsApplication_iff (token : String) :
    ¬BeginsApplication token ↔ Recognized token := by
  constructor
  · intro h
    by_contra hr
    exact h (.inr hr)
  · rintro hr (hd | hn)
    · simp [hr.startsWithDash] at hd
    · exact hn hr

-- What begins the application's arguments with a dash is read as nothing.
theorem BeginsApplication.unread {token : String} (h : BeginsApplication token)
    (hd : startsWithDash token = true) :
    takesClasspath token = false ∧ Directive.ofToken? token = none := by
  have hn : ¬Recognized token := h.resolve_left (by simp [hd])
  constructor
  · by_contra hc
    rw [Bool.not_eq_false] at hc
    exact hn (.inl hc)
  · exact (Directive.ofToken?_eq_none_iff token).mpr fun hr => hn (.inr hr)

theorem Item.not_isTail (item : Item) (rest : List String) : ¬IsTail (item.tokens ++ rest) := by
  cases item with
  | directive token d reads => exact (not_beginsApplication_iff token).mpr (.inr ⟨d, reads⟩)
  | classpath flag path takes => exact (not_beginsApplication_iff flag).mpr (.inl takes)

-- The first token alone says which item there is and how long it is.
theorem Item.append_inj {item other : Item} {rest more : List String}
    (h : item.tokens ++ rest = other.tokens ++ more) : item = other ∧ rest = more := by
  cases item with
  | directive token d reads =>
      cases other with
      | directive token' d' reads' =>
          obtain ⟨rfl, rfl⟩ := List.cons.inj h
          obtain rfl := reads.unique reads'
          exact ⟨rfl, rfl⟩
      | classpath flag path takes =>
          obtain ⟨rfl, -⟩ := List.cons.inj h
          simp [reads.not_takesClasspath] at takes
  | classpath flag path takes =>
      cases other with
      | directive token' d' reads' =>
          obtain ⟨rfl, -⟩ := List.cons.inj h
          simp [reads'.not_takesClasspath] at takes
      | classpath flag' path' takes' =>
          obtain ⟨rfl, hrest⟩ := List.cons.inj h
          obtain ⟨rfl, rfl⟩ := List.cons.inj hrest
          exact ⟨rfl, rfl⟩

theorem tokensOf_append_inj {items others : List Item} {tail rest : List String}
    (ht : IsTail tail) (hr : IsTail rest)
    (h : tokensOf items ++ tail = tokensOf others ++ rest) : items = others ∧ tail = rest := by
  induction items generalizing others with
  | nil =>
      cases others with
      | nil => exact ⟨rfl, h⟩
      | cons other others =>
          rw [tokensOf_nil, List.nil_append, tokensOf_cons, List.append_assoc] at h
          exact absurd (h ▸ ht) (other.not_isTail _)
  | cons item items ih =>
      cases others with
      | nil =>
          rw [tokensOf_nil, List.nil_append, tokensOf_cons, List.append_assoc] at h
          exact absurd (h ▸ hr) (item.not_isTail _)
      | cons other others =>
          rw [tokensOf_cons, tokensOf_cons, List.append_assoc, List.append_assoc] at h
          obtain ⟨rfl, hrest⟩ := Item.append_inj h
          obtain ⟨rfl, rfl⟩ := ih hrest
          exact ⟨rfl, rfl⟩

theorem Cut.unique {args tail rest : List String} {items others : List Item}
    (h : Cut args items tail) (ho : Cut args others rest) : others = items ∧ rest = tail :=
  tokensOf_append_inj ho.stops h.stops (ho.joined.symm.trans h.joined)

-- Every command line is items and then a tail, unless its last token announces a class
-- path that is not there.
theorem exists_items : (args : List String) → ∃ items rest, args = tokensOf items ++ rest ∧
    (IsTail rest ∨ ∃ flag, takesClasspath flag = true ∧ rest = [flag])
  | [] => ⟨[], [], rfl, .inl trivial⟩
  | [token] => by
      by_cases hb : BeginsApplication token
      · exact ⟨[], [token], rfl, .inl hb⟩
      · rcases (not_beginsApplication_iff token).mp hb with hc | ⟨d, hd⟩
        · exact ⟨[], [token], rfl, .inr ⟨token, hc, rfl⟩⟩
        · exact ⟨[.directive token d hd], [], rfl, .inl trivial⟩
  | token :: next :: rest => by
      by_cases hb : BeginsApplication token
      · exact ⟨[], token :: next :: rest, rfl, .inl hb⟩
      · rcases (not_beginsApplication_iff token).mp hb with hc | ⟨d, hd⟩
        · -- The path is not looked at, so the rest begins behind it.
          obtain ⟨items, tail, h, ht⟩ := exists_items rest
          exact ⟨.classpath token next hc :: items, tail, by simp [Item.tokens, h], ht⟩
        · obtain ⟨items, tail, h, ht⟩ := exists_items (next :: rest)
          exact ⟨.directive token d hd :: items, tail, by simp [Item.tokens, h], ht⟩

namespace Parser

def obeyItem (p : Parser) (item : Item) (s : Settings) (scene : Scene) :
    Except BootError Next × Scene :=
  match item with
  | .directive token d _ => p.obey token d s scene
  | .classpath flag path _ => (.ok (.proceed (s.forward [flag, path])), scene)

-- Goes on with the settings found so far, unless the reading has ended.
def resume (found : Except BootError Next × Scene)
    (next : Settings → Scene → Except BootError Outcome × Scene) :
    Except BootError Outcome × Scene :=
  match found with
  | (.ok (.proceed s), scene) => next s scene
  | (.ok .exit, scene) => (.ok .exit, scene)
  | (.error e, scene) => (.error e, scene)

-- Obeys items in turn, up to the first after which the reading does not go on.
def obeyAll (p : Parser) : List Item → Settings → Scene → Except BootError Next × Scene
  | [], s, scene => (.ok (.proceed s), scene)
  | item :: items, s, scene =>
      match p.obeyItem item s scene with
      | (.ok (.proceed s), scene) => p.obeyAll items s scene
      | stop => stop

theorem readFrom_item (p : Parser) (item : Item) (rest : List String) (s : Settings)
    (scene : Scene) :
    p.readFrom (item.tokens ++ rest) s scene =
      resume (p.obeyItem item s scene) (p.readFrom rest) := by
  cases item with
  | directive token d reads =>
      have hd := reads.startsWithDash
      have hc := reads.not_takesClasspath
      have hr := (Directive.ofToken?_eq_some_iff token d).mpr reads
      change p.readFrom (token :: rest) s scene = resume (p.obey token d s scene) (p.readFrom rest)
      rw [readFrom.eq_def]
      simp only [hd, hc, hr, Bool.not_true, Bool.false_eq_true, if_false]
      rfl
  | classpath flag path takes =>
      have hd := startsWithDash_of_takesClasspath takes
      simp [Item.tokens, readFrom, hd, takes, obeyItem, resume]

-- Reading items is obeying them; only then is the rest looked at.
theorem readFrom_items (p : Parser) (items : List Item) (rest : List String) (s : Settings)
    (scene : Scene) :
    p.readFrom (tokensOf items ++ rest) s scene =
      resume (p.obeyAll items s scene) (p.readFrom rest) := by
  induction items generalizing s scene with
  | nil => rfl
  | cons item items ih =>
      rw [tokensOf_cons, List.append_assoc, readFrom_item, obeyAll]
      rcases p.obeyItem item s scene with ⟨_ | found | _, after⟩
      · rfl
      · exact ih found after
      · rfl

-- Behind items that the reading got past, a directive is obeyed before the rest is looked at.
theorem parse_directive {p : Parser} {items : List Item} {start scene : Scene} {s : Settings}
    (h : p.obeyAll items {} start = (.ok (.proceed s), scene)) {token : String} {d : Directive}
    (reads : Reads token d) (rest : List String) :
    p.parse (tokensOf items ++ token :: rest) start =
      resume (p.obey token d s scene) (p.readFrom rest) := by
  rw [parse, readFrom_items, h]
  exact p.readFrom_item (.directive token d reads) rest s scene

-- A directive that is none is noted before the rest is left to the application.
def atTail (tail : List String) (scene : Scene) : Scene :=
  match tail with
  | [] => scene
  | token :: _ => if startsWithDash token then scene.note (unknownEvent token) else scene

theorem readFrom_tail (p : Parser) {tail : List String} (ht : IsTail tail) (s : Settings)
    (scene : Scene) : p.readFrom tail s scene = p.finish s tail (atTail tail scene) := by
  cases tail with
  | nil => rfl
  | cons token rest =>
      rw [readFrom.eq_def]
      by_cases hd : startsWithDash token = true
      · obtain ⟨hc, hr⟩ := BeginsApplication.unread ht hd
        simp [hd, hc, hr, atTail]
      · simp [hd, atTail]

@[simp] theorem atTail_console (tail : List String) (scene : Scene) :
    (atTail tail scene).console = scene.console := by
  unfold atTail
  split
  · rfl
  · split_ifs <;> rfl

@[simp] theorem atTail_files (tail : List String) (scene : Scene) :
    (atTail tail scene).files = scene.files := by
  unfold atTail
  split
  · rfl
  · split_ifs <;> rfl

theorem readFrom_lone_flag (p : Parser) {flag : String} (hf : takesClasspath flag = true)
    (s : Settings) (scene : Scene) :
    p.readFrom [flag] s scene = (.error (.missingClasspath flag), scene) := by
  simp [readFrom, startsWithDash_of_takesClasspath hf, hf]

end Parser

end VmLauncher.Options
