import VmLauncher.Proofs.Options.Configuration
import VmLauncher.Proofs.Options.Effects
import VmLauncher.Proofs.Options.LogFiles
import Mathlib.Control.Monad.Basic
-- Nothing behind the token at which the reading ends can make a difference to it.
namespace VmLauncher.Options

open Host
open Directive (Reads)

-- The token ends the reading: it begins the application's arguments, or it is a directive
-- after which the reading does not go on.
def Parser.StopsAt (p : Parser) (token : String) (s : Settings) (scene : Scene) : Prop :=
  BeginsApplication token ∨
    ∃ d, Reads token d ∧ ∀ found, (p.obey token d s scene).1 ≠ .ok (.proceed found)

-- The token ends the reading if all items before it let it go on that far.
def Parser.EndsBy (p : Parser) (items : List Item) (token : String) (scene : Scene) : Prop :=
  ∀ s after, p.obeyAll items {} scene = (.ok (.proceed s), after) → p.StopsAt token s after

-- Two readings end in one way, up to what stands behind the token that ended them.
structure EndAlike (token : String) (post more : List String)
    (one other : Except BootError Outcome × Scene) : Prop where
  scene : one.2 = other.2
  answer : (one.1 = .ok .exit ∧ other.1 = .ok .exit) ∨
    (∃ e, one.1 = .error e ∧ other.1 = .error e) ∨
    BeginsApplication token ∧ ∃ c : Configuration,
      one.1 = .ok (.launch { c with applicationArgs := token :: post }) ∧
      other.1 = .ok (.launch { c with applicationArgs := token :: more })

namespace Parser

theorem resume_endAlike {token : String} {post more : List String}
    {found : Except BootError Next × Scene}
    {next other : Settings → Scene → Except BootError Outcome × Scene}
    (h : ∀ s after, found = (.ok (.proceed s), after) →
      EndAlike token post more (next s after) (other s after)) :
    EndAlike token post more (resume found next) (resume found other) := by
  rcases found with ⟨e | s | _, after⟩
  · exact ⟨rfl, .inr (.inl ⟨e, rfl, rfl⟩)⟩
  · exact h s after rfl
  · exact ⟨rfl, .inl ⟨rfl, rfl⟩⟩

theorem finish_endAlike (p : Parser) {token : String} (hb : BeginsApplication token)
    (post more : List String) (s : Settings) (scene : Scene) :
    EndAlike token post more (p.finish s (token :: post) scene)
      (p.finish s (token :: more) scene) := by
  have hmore := p.configure_tail s (token :: post) (token :: more)
  rcases hc : p.configure s (token :: post) with e | c
  · rw [hc] at hmore
    simp only [finish, hc, hmore]
    exact ⟨rfl, .inr (.inl ⟨e, rfl, rfl⟩)⟩
  · rw [hc] at hmore
    obtain ⟨-, -, -, -, hform⟩ := (p.configure_eq_ok_iff s (token :: post) c).mp hc
    have happ : c.applicationArgs = token :: post := by rw [hform]
    rw [finish_of_configure hc, finish_of_configure hmore]
    exact ⟨rfl, .inr (.inr ⟨hb, c, by rw [← happ], rfl⟩)⟩

-- The token alone decides that the reading ends there.
theorem readFrom_endAlike {p : Parser} {token : String} {s : Settings} {scene : Scene}
    (h : p.StopsAt token s scene) (post more : List String) :
    EndAlike token post more (p.readFrom (token :: post) s scene)
      (p.readFrom (token :: more) s scene) := by
  rcases h with hb | ⟨d, reads, hstop⟩
  · have htail (rest : List String) : IsTail (token :: rest) := hb
    rw [readFrom_tail p (htail post), readFrom_tail p (htail more)]
    exact p.finish_endAlike hb post more s (atTail (token :: post) scene)
  · have hpost := p.readFrom_item (.directive token d reads) post s scene
    have hmore := p.readFrom_item (.directive token d reads) more s scene
    change p.readFrom (token :: post) s scene = _ at hpost
    change p.readFrom (token :: more) s scene = _ at hmore
    rw [hpost, hmore]
    exact resume_endAlike fun found _ heq => absurd (congrArg Prod.fst heq) (hstop found)

-- Log files are opened by the items and, at the most, by the token that ends the reading.
theorem logPaths_stop {p : Parser} {token : String} {s : Settings} {scene : Scene}
    (h : p.StopsAt token s scene) (post more : List String) :
    p.logPaths (token :: post) s scene = p.logPaths (token :: more) s scene := by
  rcases h with hb | ⟨d, reads, hstop⟩
  · have htail (rest : List String) : IsTail (token :: rest) := hb
    rw [logPaths_tail p (htail post), logPaths_tail p (htail more)]
  · have hpaths (rest : List String) : p.logPaths (token :: rest) s scene = d.logPaths := by
      have hitem := p.logPaths_item (.directive token d reads) rest s scene
      change p.logPaths (token :: rest) s scene =
        d.logPaths ++ logPathsAfter (p.obey token d s scene) (p.logPaths rest) at hitem
      have hnone : logPathsAfter (p.obey token d s scene) (p.logPaths rest) = [] := by
        unfold logPathsAfter
        split
        · rename_i found after heq
          exact absurd (congrArg Prod.fst heq) (hstop found)
        · rfl
      rw [hitem, hnone, List.append_nil]
    rw [hpaths post, hpaths more]

theorem logPaths_items_congr (p : Parser) (items : List Item) (rest other : List String)
    (s : Settings) (scene : Scene)
    (h : ∀ found after, p.obeyAll items s scene = (.ok (.proceed found), after) →
      p.logPaths rest found after = p.logPaths other found after) :
    p.logPaths (tokensOf items ++ rest) s scene = p.logPaths (tokensOf items ++ other) s scene := by
  induction items generalizing s scene with
  | nil => exact h s scene rfl
  | cons item items ih =>
      rw [tokensOf_cons, List.append_assoc, List.append_assoc, logPaths_item, logPaths_item]
      congr 1
      rcases hi : p.obeyItem item s scene with ⟨e | mid | _, there⟩
      · rfl
      · refine ih mid there fun found after hrest => h found after ?_
        rw [obeyAll, hi]
        exact hrest
      · rfl

end Parser

-- Two command lines with the same items and the same token that ends the reading: what
-- stands behind it is handed to the application, if there is one, and has no other effect.
theorem parse_blind_behind_end (p : Parser) (items : List Item) (token : String) (scene : Scene)
    (h : p.EndsBy items token scene) (post more : List String) :
    EndAlike token post more (p.parse (tokensOf items ++ token :: post) scene)
        (p.parse (tokensOf items ++ token :: more) scene) ∧
      p.logPaths (tokensOf items ++ token :: post) {} scene =
        p.logPaths (tokensOf items ++ token :: more) {} scene := by
  constructor
  · rw [Parser.parse, Parser.parse, Parser.readFrom_items, Parser.readFrom_items]
    exact Parser.resume_endAlike fun s after ho =>
      Parser.readFrom_endAlike (h s after ho) post more
  · exact p.logPaths_items_congr items _ _ {} scene fun s after ho =>
      Parser.logPaths_stop (h s after ho) post more

theorem parse_blind_behind_help :
    let p : Parser := ⟨"bootvm", 4096, {}⟩
    let items : List Item := [.classpath "-cp" "-version" (by decide +kernel)]
    let scene : Scene := ⟨.unlimited, ⟨[], []⟩, []⟩
    let post := ["-X:sysLogfile=log", "-Xms0"]
    p.EndsBy items "-help" scene ∧
      EndAlike "-help" post [] (p.parse (tokensOf items ++ "-help" :: post) scene)
        (p.parse (tokensOf items ++ "-help" :: []) scene) ∧
      p.logPaths (tokensOf items ++ "-help" :: post) {} scene =
        p.logPaths (tokensOf items ++ "-help" :: []) {} scene := by
  intro p items scene post
  have reads : Reads "-help" .help := (Directive.ofToken?_eq_some_iff _ _).mp (by decide +kernel)
  have hends : p.EndsBy items "-help" scene := fun _ _ _ =>
    .inr ⟨.help, reads, fun _ hanswer => nomatch displayThen_ok (Prod.ext hanswer rfl)⟩
  exact ⟨hends, parse_blind_behind_end p items "-help" scene hends post []⟩

end VmLauncher.Options
