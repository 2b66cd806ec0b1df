import VmLauncher.Proofs.Host.Appending
import VmLauncher.Proofs.Options.Forwarding
import VmLauncher.Proofs.Options.LogFiles
-- Reading a command line touches no file but the log files that it comes to: it makes those that
-- are not there, and the last one is what a launch logs to.
namespace VmLauncher

open Host

namespace Host.Files

variable {fs : Files} {path : String} {place : Location}

theorem afterOpening_cases (fs : Files) (path : String) :
    (fs.afterOpening path = fs ∧ ∀ place, ¬fs.OpensAt path place) ∨
      ∃ spot, fs.openAppend path = .ok (spot, fs.afterOpening path) := by
  simp only [afterOpening, opensAt_iff]
  rcases fs.openAppend path with e | ⟨spot, opened⟩
  · exact .inl ⟨rfl, by simp⟩
  · exact .inr ⟨spot, rfl⟩

theorem afterOpening_grown (fs : Files) (path : String) : fs.Grown (fs.afterOpening path) := by
  rcases fs.afterOpening_cases path with ⟨hsame, -⟩ | ⟨spot, h⟩
  · rw [hsame]
    exact .refl fs
  · exact (openAppend_grown h).1

theorem foldl_afterOpening_grown (fs : Files) (paths : List String) :
    fs.Grown (paths.foldl afterOpening fs) := by
  induction paths generalizing fs with
  | nil => exact .refl fs
  | cons path paths ih => exact (fs.afterOpening_grown path).trans (ih _)

-- What was not there is there afterwards exactly if one of the paths leads to it.
theorem foldl_afterOpening_iff (hplace : fs.node? place = none) (paths : List String) :
    (paths.foldl afterOpening fs).node? place ≠ none ↔ ∃ path ∈ paths, fs.OpensAt path place := by
  induction paths generalizing fs with
  | nil => simp [hplace]
  | cons path paths ih =>
      have hgrown := fs.afterOpening_grown path
      rw [List.foldl_cons]
      by_cases hopens : fs.OpensAt path place
      · refine iff_of_true ?_ ⟨path, List.mem_cons_self .., hopens⟩
        obtain ⟨opened, h⟩ := opensAt_iff.mp hopens
        have hafter : fs.afterOpening path = opened := by simp only [afterOpening, h]
        obtain ⟨node, hnode⟩ := Option.ne_none_iff_exists'.mp (openAppend_grown h).2.1
        rw [hafter, ((opened.foldl_afterOpening_grown paths).kept place node hnode)]
        simp
      · have hstill : (fs.afterOpening path).node? place = none := by
          rcases fs.afterOpening_cases path with ⟨hsame, -⟩ | ⟨spot, h⟩
          · rw [hsame, hplace]
          · have hother : place ≠ spot := by
              rintro rfl
              exact hopens (opensAt_iff.mpr ⟨_, h⟩)
            rw [(openAppend_grown h).2.2 place hother, hplace]
        rw [ih hstill]
        simp [hgrown.opensAt_iff, hopens]

end Host.Files

namespace Options

open Directive (Reads)

theorem Directive.Reads.eq_of_logFile {token path : String} (h : Reads token (.logFile path)) :
    token = "-X:sysLogfile=" ++ path := by
  generalize hd : Directive.logFile path = d at h
  cases h with
  | word hw => simp [Directive.words, ← hd] at hw
  | opener ho rest =>
      rcases Directive.mem_openers_iff.mp ho with ⟨rfl, rfl⟩ | ⟨rfl, rfl⟩ | ⟨bound, rfl, rfl⟩ |
        ⟨rfl, rfl⟩ | ⟨kind, rfl, rfl⟩ <;> simp at hd
      rw [hd]
  | forwardedToken | forwardedStart => contradiction

namespace Item

def log (path : String) : Item :=
  .directive ("-X:sysLogfile=" ++ path) (.logFile path) (reads_logFile path)

theorem mem_logPaths_iff {item : Item} {path : String} :
    path ∈ item.logPaths ↔ item = log path := by
  constructor
  · intro h
    cases item with
    | classpath => simp [logPaths] at h
    | directive token d reads =>
        cases d with
        | logFile other =>
            obtain rfl : path = other := by simpa [logPaths, Directive.logPaths] using h
            obtain rfl := reads.eq_of_logFile
            rfl
        | _ => simp [logPaths, Directive.logPaths] at h
  · rintro rfl
    exact List.mem_singleton_self path

end Item

-- What stands behind an item is reached only through it.
theorem append_tokens_cases {first item : Item} {front : List Item} {more rest : List String}
    (h : first.tokens ++ more = tokensOf front ++ (item.tokens ++ rest)) :
    front = [] ∧ item = first ∨
      ∃ others, front = first :: others ∧ more = tokensOf others ++ (item.tokens ++ rest) := by
  cases front with
  | nil =>
      obtain ⟨rfl, -⟩ := Item.append_inj h
      exact .inl ⟨rfl, rfl⟩
  | cons other others =>
      rw [tokensOf_cons, List.append_assoc] at h
      obtain ⟨rfl, hmore⟩ := Item.append_inj h
      exact .inr ⟨others, rfl, hmore⟩

theorem not_isTail_tokensOf (front : List Item) (item : Item) (rest : List String) :
    ¬IsTail (tokensOf front ++ (item.tokens ++ rest)) := by
  cases front with
  | nil => exact item.not_isTail rest
  | cons other others =>
      rw [tokensOf_cons, List.append_assoc]
      exact other.not_isTail _

theorem lone_flag_ne_tokensOf {flag : String} (hf : takesClasspath flag = true)
    (front : List Item) (path : String) (rest : List String) :
    [flag] ≠ tokensOf front ++ ((Item.log path).tokens ++ rest) := by
  intro h
  cases front with
  | nil =>
      obtain ⟨rfl, -⟩ := List.cons.inj h
      simp [(reads_logFile path).not_takesClasspath] at hf
  | cons other others =>
      have hlength := congrArg List.length h
      cases other <;> simp [Item.tokens, Item.log] at hlength

-- Items before a tail are the ones in front of any item of a cut, that item and others.
theorem exists_split {items front : List Item} {item : Item} {tail rest : List String}
    (ht : IsTail tail) (h : tokensOf items ++ tail = tokensOf front ++ (item.tokens ++ rest)) :
    ∃ back, items = front ++ item :: back := by
  induction items generalizing front with
  | nil => exact absurd (h ▸ ht) (not_isTail_tokensOf front item rest)
  | cons first items ih =>
      rw [tokensOf_cons, List.append_assoc] at h
      rcases append_tokens_cases h with ⟨rfl, rfl⟩ | ⟨others, rfl, hmore⟩
      · exact ⟨items, rfl⟩
      · obtain ⟨back, rfl⟩ := ih hmore
        exact ⟨back, rfl⟩

namespace Parser

-- The reading comes to a log file: all that stands in front of it has been obeyed.
def ReachesLog (p : Parser) (args : List String) (s : Settings) (scene : Scene)
    (front : List Item) (path : String) (before : Scene) : Prop :=
  ∃ found rest, args = tokensOf front ++ ("-X:sysLogfile=" ++ path) :: rest ∧
    p.obeyAll front s scene = (.ok (.proceed found), before)

section Reached

variable {p : Parser} {s : Settings} {scene before : Scene} {front : List Item} {path : String}
  {rest : List String}

theorem reachesLog_item_iff {item : Item} :
    p.ReachesLog (item.tokens ++ rest) s scene front path before ↔
    front = [] ∧ item = .log path ∧ before = scene ∨
      ∃ mid there others, p.obeyItem item s scene = (.ok (.proceed mid), there) ∧
        front = item :: others ∧ p.ReachesLog rest mid there others path before := by
  constructor
  · rintro ⟨found, behind, hargs, hobeyed⟩
    have hfront : item.tokens ++ rest = tokensOf front ++ ((Item.log path).tokens ++ behind) := hargs
    rcases append_tokens_cases hfront with ⟨rfl, rfl⟩ | ⟨others, rfl, hrest⟩
    · obtain ⟨-, rfl⟩ := Prod.mk.inj hobeyed
      exact .inl ⟨rfl, rfl, rfl⟩
    · obtain ⟨mid, there, hitem, hothers⟩ := obeyAll_cons_proceed hobeyed
      exact .inr ⟨mid, there, others, hitem, rfl, found, behind, hrest, hothers⟩
  · rintro (⟨rfl, rfl, rfl⟩ | ⟨mid, there, others, hitem, rfl, found, behind, rfl, hothers⟩)
    · exact ⟨s, rest, rfl, rfl⟩
    · exact ⟨found, behind, by rw [tokensOf_cons, List.append_assoc],
        by simp only [obeyAll, hitem, hothers]⟩

-- The paths that are opened are the ones that the reading comes to.
theorem mem_logPaths_iff (p : Parser) (args : List String) (s : Settings) (scene : Scene)
    (path : String) :
    path ∈ p.logPaths args s scene ↔
      ∃ front before, p.ReachesLog args s scene front path before := by
  obtain ⟨items, rest, rfl, hrest⟩ := exists_items args
  induction items generalizing s scene with
  | nil =>
      rw [tokensOf_nil, List.nil_append]
      rcases hrest with ht | ⟨flag, hf, rfl⟩
      · rw [logPaths_tail p ht]
        refine iff_of_false List.not_mem_nil ?_
        rintro ⟨front, before, found, behind, rfl, -⟩
        exact not_isTail_tokensOf front (.log path) behind ht
      · rw [logPaths_lone_flag p hf]
        refine iff_of_false List.not_mem_nil ?_
        rintro ⟨front, before, found, behind, hargs, -⟩
        exact lone_flag_ne_tokensOf hf front path behind hargs
  | cons item items ih =>
      rw [tokensOf_cons, List.append_assoc, logPaths_item, List.mem_append, Item.mem_logPaths_iff]
      simp only [reachesLog_item_iff]
      rcases hitem : p.obeyItem item s scene with ⟨e | mid | _, there⟩
      · simp [logPathsAfter]
      · simp only [logPathsAfter, ih mid there]
        constructor
        · rintro (rfl | ⟨others, before, hothers⟩)
          · exact ⟨[], scene, .inl ⟨rfl, rfl, rfl⟩⟩
          · exact ⟨item :: others, before, .inr ⟨mid, there, others, rfl, rfl, hothers⟩⟩
        · rintro ⟨front, before, ⟨-, hfirst, -⟩ | ⟨mid', there', others, hsame, -, hothers⟩⟩
          · exact .inl hfirst
          · simp only [Prod.mk.injEq, Except.ok.injEq, Next.proceed.injEq] at hsame
            obtain ⟨rfl, rfl⟩ := hsame
            exact .inr ⟨others, before, hothers⟩
      · simp [logPathsAfter]

theorem obeyItem_grown (p : Parser) (item : Item) (s : Settings) (scene : Scene) :
    scene.files.Grown (p.obeyItem item s scene).2.files := by
  rw [obeyItem_files]
  exact scene.files.foldl_afterOpening_grown _

theorem obeyAll_grown {items : List Item} {found : Settings} {after : Scene}
    (h : p.obeyAll items s scene = (.ok (.proceed found), after)) :
    scene.files.Grown after.files := by
  induction items generalizing s scene with
  | nil =>
      obtain ⟨-, rfl⟩ := Prod.mk.inj h
      exact .refl _
  | cons item items ih =>
      obtain ⟨mid, there, hitem, hrest⟩ := obeyAll_cons_proceed h
      have hgrown := p.obeyItem_grown item s scene
      rw [hitem] at hgrown
      exact hgrown.trans (ih hrest)

theorem displayThen_line (line : String) (next : Next) (scene : Scene) :
    displayThen [line] next scene =
      match scene.say (line ++ "\n") with
      | (.error e, after) => (.error (.console e), after)
      | (.ok (), after) => (.ok next, after) := by
  rcases hsaid : scene.say (line ++ "\n") with ⟨e | _, after⟩ <;>
    simp [displayThen, display, Scene.sayLines, hsaid]

-- What becomes of a log file that the reading comes to.
structure LogOpened (p : Parser) (args : List String) (scene : Scene) (path : String)
    (before : Scene) : Prop where
  sameTarget : ∀ place, before.files.OpensAt path place ↔ scene.files.OpensAt path place
  refused : ∀ e, before.files.openAppend path = .error e →
    p.parse args scene = (.error (.logFile path e), before)
  opened : ∀ place files, before.files.openAppend path = .ok (place, files) →
    ∃ (s : Settings) (rest : List String), p.parse args scene =
      match ({ before with files } : Scene).say (p.redirectionNote path ++ "\n") with
      | (.error e, after) => (.error (.console e), after)
      | (.ok (), after) => p.readFrom rest { s with log := some ⟨path, place⟩ } after

theorem ReachesLog.opened {args : List String} (h : p.ReachesLog args {} scene front path before) :
    p.LogOpened args scene path before := by
  obtain ⟨found, rest, rfl, hobeyed⟩ := h
  have hread := parse_directive hobeyed (reads_logFile path) rest
  refine ⟨fun place => (obeyAll_grown hobeyed).opensAt_iff, fun e he => ?_,
    fun place files hopen => ?_⟩
  · rw [hread]
    simp only [obey, setLogFile, he, resume]
  · refine ⟨found, rest, ?_⟩
    rw [hread]
    simp only [obey, setLogFile, hopen, displayThen_line]
    rcases ({ before with files } : Scene).say (p.redirectionNote path ++ "\n") with ⟨e | _, after⟩
    · rfl
    · rfl

theorem setLogFile_opensAt {mid : Settings} {there : Scene}
    (h : p.setLogFile path s scene = (.ok (.proceed mid), there)) :
    ∃ place, scene.files.OpensAt path place ∧ mid.log = some ⟨path, place⟩ := by
  unfold setLogFile at h
  rcases hopen : scene.files.openAppend path with e | ⟨place, files⟩
  · simp [hopen] at h
  · simp only [hopen] at h
    obtain rfl := Next.proceed.inj (displayThen_ok h)
    exact ⟨place, Files.opensAt_iff.mpr ⟨files, hopen⟩, rfl⟩

theorem obeyItem_log {item : Item} {mid : Settings} {there : Scene}
    (h : p.obeyItem item s scene = (.ok (.proceed mid), there)) :
    item.logPaths = [] ∧ mid.log = s.log ∨
      ∃ path place, item = .log path ∧ scene.files.OpensAt path place ∧
        mid.log = some ⟨path, place⟩ := by
  cases item with
  | classpath flag path =>
      obtain rfl := Next.proceed.inj (Except.ok.inj (congrArg Prod.fst h))
      exact .inl ⟨rfl, rfl⟩
  | directive token d reads =>
      have hsets := obey_proceed h
      cases hsets with
      | logFile path =>
          obtain rfl := reads.eq_of_logFile
          obtain ⟨place, hopens, hlog⟩ := setLogFile_opensAt h
          exact .inr ⟨path, place, rfl, hopens, hlog⟩
      | @heapSize bound => exact .inl ⟨rfl, by cases bound <;> rfl⟩
      | image kind => exact .inl ⟨rfl, by cases kind <;> rfl⟩
      | verbose | compilerChoice | showVersion | showFullVersion | verboseBoot | verboseGc |
        forwarded => exact .inl ⟨rfl, rfl⟩

-- The last log file among the items is the one that is kept.
theorem obeyAll_log {items : List Item} {found : Settings} {after : Scene}
    (h : p.obeyAll items s scene = (.ok (.proceed found), after)) :
    (∀ item ∈ items, item.logPaths = []) ∧ found.log = s.log ∨
      ∃ front path back mid before place, items = front ++ .log path :: back ∧
        (∀ item ∈ back, item.logPaths = []) ∧
        p.obeyAll front s scene = (.ok (.proceed mid), before) ∧
        before.files.OpensAt path place ∧ found.log = some ⟨path, place⟩ := by
  induction items generalizing s scene with
  | nil =>
      obtain rfl := Next.proceed.inj (Except.ok.inj (congrArg Prod.fst h))
      exact .inl ⟨by simp, rfl⟩
  | cons item items ih =>
      obtain ⟨mid, there, hitem, hrest⟩ := obeyAll_cons_proceed h
      rcases ih hrest with ⟨hnone, hsame⟩ |
        ⟨front, path, back, last, before, place, rfl, hback, hfront, hlog⟩
      · rcases obeyItem_log hitem with ⟨hplain, hkept⟩ | ⟨path, place, rfl, hopens, hlog⟩
        · exact .inl ⟨List.forall_mem_cons.mpr ⟨hplain, hnone⟩, hsame.trans hkept⟩
        · exact .inr ⟨[], path, items, s, scene, place, rfl, hnone, rfl, hopens, hsame.trans hlog⟩
      · exact .inr ⟨item :: front, path, back, last, before, place, rfl, hback,
          by simp only [obeyAll, hitem, hfront], hlog⟩

end Reached

end Parser

-- No log file is behind the last one.
theorem front_length_le {front others back rest : List Item} {path other : String}
    (hback : ∀ item ∈ back, item.logPaths = [])
    (h : front ++ Item.log path :: back = others ++ Item.log other :: rest) :
    others.length ≤ front.length := by
  rcases List.append_eq_append_iff.mp h with ⟨between, rfl, hbetween⟩ | ⟨between, rfl, -⟩
  · cases between with
    | nil => simp
    | cons first between =>
        obtain ⟨rfl, rfl⟩ := List.cons.inj hbetween
        have hnone := hback (.log other) (by simp)
        contradiction
  · simp

theorem launch_log {p : Parser} {args : List String} {scene : Scene} {c : Configuration}
    (h : (p.parse args scene).1 = .ok (.launch c)) :
    c.log = none ∧ (∀ front path before, ¬p.ReachesLog args {} scene front path before) ∨
      ∃ front path before place, p.ReachesLog args {} scene front path before ∧
        scene.files.OpensAt path place ∧ c.log = some ⟨path, place⟩ ∧
        ∀ front' path' before', p.ReachesLog args {} scene front' path' before' →
          front'.length ≤ front.length := by
  obtain ⟨items, tail, s, after, hcut, hobeyed, hconf⟩ := Parser.parse_launch h
  have hlog : c.log = s.log := by
    obtain ⟨-, -, -, -, hc⟩ := (p.configure_eq_ok_iff s tail c).mp hconf
    rw [hc]
  have hitems {front : List Item} {path : String} {before : Scene}
      (hreached : p.ReachesLog args {} scene front path before) :
      ∃ back, items = front ++ Item.log path :: back := by
    obtain ⟨found, rest, hargs, -⟩ := hreached
    exact exists_split hcut.stops (hcut.joined.symm.trans hargs)
  rcases Parser.obeyAll_log hobeyed with ⟨hnone, hkept⟩ |
    ⟨front, path, back, mid, before, place, rfl, hback, hfront, hopens, hlast⟩
  · refine .inl ⟨hlog.trans hkept, fun front path before hreached => ?_⟩
    obtain ⟨back, rfl⟩ := hitems hreached
    have hplain := hnone (.log path) (by simp)
    contradiction
  · refine .inr ⟨front, path, before, place, ⟨mid, tokensOf back ++ tail, ?_, hfront⟩,
      (Parser.obeyAll_grown hfront).opensAt_iff.mp hopens, hlog.trans hlast, ?_⟩
    · rw [hcut.joined]
      simp [tokensOf, Item.tokens, Item.log]
    · intro front' path' before' hreached
      obtain ⟨back', hsame⟩ := hitems hreached
      exact front_length_le hback hsame

-- A file that is there keeps its content. A file that is made is empty, and is where one of the log
-- files leads that the reading came to; each is opened before anything is said about it, and one
-- that cannot be ends the reading. A launch logs to the last of them.
theorem log_files_only (p : Parser) (args : List String) (scene : Scene) :
    let run := p.parse args scene
    scene.files.Grown run.2.files ∧
    (∀ place, scene.files.node? place = none →
      (run.2.files.node? place = some (.file "") ↔ ∃ front path before,
        p.ReachesLog args {} scene front path before ∧ scene.files.OpensAt path place)) ∧
    (∀ front path before, p.ReachesLog args {} scene front path before →
      p.LogOpened args scene path before) ∧
    ∀ c, run.1 = .ok (.launch c) →
      c.log = none ∧ (∀ front path before, ¬p.ReachesLog args {} scene front path before) ∨
      ∃ front path before place, p.ReachesLog args {} scene front path before ∧
        scene.files.OpensAt path place ∧ c.log = some ⟨path, place⟩ ∧
        ∀ front' path' before', p.ReachesLog args {} scene front' path' before' →
          front'.length ≤ front.length := by
  intro run
  have hfiles : run.2.files = (p.logPaths args {} scene).foldl Files.afterOpening scene.files :=
    p.readFrom_files args {} scene
  have hgrown : scene.files.Grown run.2.files := hfiles ▸ scene.files.foldl_afterOpening_grown _
  refine ⟨hgrown, fun place hplace => ?_, fun front path before h => h.opened, fun c => launch_log⟩
  have hmade : run.2.files.node? place = some (.file "") ↔ run.2.files.node? place ≠ none := by
    rcases hgrown.fresh place hplace with hnone | hfile
    · simp [hnone]
    · simp [hfile]
  rw [hmade, hfiles, Files.foldl_afterOpening_iff hplace]
  simp only [Parser.mem_logPaths_iff]
  constructor
  · rintro ⟨path, ⟨front, before, hreached⟩, hopens⟩
    exact ⟨front, path, before, hreached, hopens⟩
  · rintro ⟨front, path, before, hreached, hopens⟩
    exact ⟨path, ⟨front, before, hreached⟩, hopens⟩

-- The log file is made although the console takes nothing; a class path names none.
example :
    let p : Parser := ⟨"bootvm", 4096, {}⟩
    let files : Files := ⟨[(["w"], .folder), (["w", "old"], .file "kept")], ["w"]⟩
    let run := p.parse ["-cp", "-X:sysLogfile=no", "-X:sysLogfile=new"] ⟨.limited 0, files, []⟩
    run.1 = .error (.console .consoleClosed) ∧
      run.2.files.listing = [("old", some "kept"), ("new", some "")] := by
  decide +kernel

end Options

end VmLauncher
