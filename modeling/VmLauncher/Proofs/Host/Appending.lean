import VmLauncher.Host.Files
import Mathlib.Data.List.Basic
import Mathlib.Tactic.SplitIfs
-- Opening files to append to them: what was there stays, what is new is an empty file, and no path
-- leads to another place for it.
namespace VmLauncher.Host.Files

-- The path leads to this place, and what is there, if anything is, is no folder.
def OpensAt (fs : Files) (path : String) (place : Location) : Prop :=
  fs.target path = .ok place ∧ fs.node? place ≠ some .folder

structure Grown (fs fs' : Files) : Prop where
  here : fs'.here = fs.here
  kept : ∀ place node, fs.node? place = some node → fs'.node? place = some node
  fresh : ∀ place, fs.node? place = none →
    fs'.node? place = none ∨ fs'.node? place = some (.file "")

namespace Grown

variable {fs fs' fs'' : Files}

theorem refl (fs : Files) : fs.Grown fs := ⟨rfl, fun _ _ h => h, fun _ h => .inl h⟩

theorem trans (h : fs.Grown fs') (h' : fs'.Grown fs'') : fs.Grown fs'' where
  here := h'.here.trans h.here
  kept place node hplace := h'.kept place node (h.kept place node hplace)
  fresh place hplace := by
    rcases h.fresh place hplace with hnone | hfile
    · exact h'.fresh place hnone
    · exact .inr (h'.kept place _ hfile)

-- No folder is new.
theorem folder_iff (h : fs.Grown fs') (place : Location) :
    fs'.node? place = some .folder ↔ fs.node? place = some .folder := by
  refine ⟨fun hfolder => ?_, h.kept place _⟩
  rcases hnode : fs.node? place with _ | node
  · rcases h.fresh place hnode with hnone | hfile
    · rw [hnone] at hfolder
      contradiction
    · rw [hfile] at hfolder
      contradiction
  · rwa [h.kept place node hnode] at hfolder

end Grown

section Paths

variable {fs fs' : Files} {path name : String} {place found : Location} {names : List String}

theorem folder_of_child (h : fs.child place name = .ok found) : fs.node? place = some .folder := by
  unfold child at h
  split at h
  · assumption
  · contradiction
  · contradiction

theorem child_congr (hfs : fs.node? place = some .folder) (hfs' : fs'.node? place = some .folder)
    (name : String) : fs'.child place name = fs.child place name := by
  simp only [child, hfs, hfs']

theorem walk_cons_eq_ok : fs.walk place (name :: names) = .ok found ↔
    ∃ next, fs.child place name = .ok next ∧ fs.node? next ≠ none ∧
      fs.walk next names = .ok found := by
  rw [walk]
  rcases fs.child place name with e | next
  · simp [bind, Except.bind]
  · rcases hnode : fs.node? next with _ | node <;> simp [bind, Except.bind, hnode]

-- A way through the tree that ends in a folder, so that there is nothing but folders on it.
def Reaches (fs : Files) (place : Location) (names : List String) (found : Location) : Prop :=
  fs.walk place names = .ok found ∧ fs.node? found = some .folder

theorem Reaches.start (h : fs.Reaches place names found) : fs.node? place = some .folder := by
  cases names with
  | nil =>
      obtain ⟨hwalk, hfolder⟩ := h
      obtain rfl := Except.ok.inj hwalk
      exact hfolder
  | cons name names =>
      obtain ⟨next, hchild, -⟩ := walk_cons_eq_ok.mp h.1
      exact folder_of_child hchild

theorem Reaches.of_folders
    (hfolders : ∀ spot, fs.node? spot = some .folder → fs'.node? spot = some .folder)
    (h : fs.Reaches place names found) : fs'.Reaches place names found := by
  induction names generalizing place with
  | nil => exact ⟨h.1, hfolders found h.2⟩
  | cons name names ih =>
      obtain ⟨next, hchild, -, hwalk⟩ := walk_cons_eq_ok.mp h.1
      have hstart := h.start
      have hnext : fs.Reaches next names found := ⟨hwalk, h.2⟩
      have hsame := child_congr hstart (hfolders place hstart) name
      refine ⟨walk_cons_eq_ok.mpr ⟨next, hsame.trans hchild, ?_, (ih hnext).1⟩, hfolders found h.2⟩
      rw [hfolders next hnext.start]
      simp

theorem Grown.reaches_iff (h : fs.Grown fs') :
    fs'.Reaches place names found ↔ fs.Reaches place names found :=
  ⟨.of_folders fun spot => (h.folder_iff spot).mp, .of_folders fun spot => (h.folder_iff spot).mpr⟩

theorem target_eq_ok_iff : fs.target path = .ok place ↔
    checkPath path = .ok () ∧ ∃ last folder, (steps path).getLast? = some last ∧
      fs.Reaches (fs.start path) (steps path).dropLast folder ∧
      (last = "." || last = ".." || endsInSlash path) = false ∧
      fs.child folder last = .ok place := by
  unfold target Reaches
  rcases checkPath path with e | _
  · simp [bind, Except.bind]
  rcases hlast : (steps path).getLast? with _ | last
  · simp [bind, Except.bind, hlast]
  rcases hwalk : fs.walk (fs.start path) (steps path).dropLast with e | folder
  · simp [bind, Except.bind, hlast, hwalk]
  by_cases hfolder : fs.node? folder = some .folder
  · rcases hnamed : (last = "." || last = ".." || endsInSlash path) with _ | _
    · simp only [bind, Except.bind, hlast, hwalk, hfolder, hnamed]
      simpa [hfolder] using fun _ => hnamed
    · simp only [bind, Except.bind, hlast, hwalk, hfolder, hnamed]
      refine iff_of_false (by simp) ?_
      rintro ⟨-, other, folder, hother, -, hplain, -⟩
      obtain rfl := Option.some.inj hother
      exact absurd (hnamed.symm.trans hplain) (by decide)
  · simp [bind, Except.bind, hlast, hwalk, hfolder]

theorem openAppend_cases (h : fs.openAppend path = .ok (place, fs')) :
    fs.target path = .ok place ∧
      ((∃ node, fs.node? place = some node ∧ node ≠ .folder ∧ fs' = fs) ∨
        fs.node? place = none ∧
          fs' = { fs with entries := fs.entries ++ [(place, .file "")] }) := by
  unfold openAppend at h
  rcases htarget : fs.target path with e | spot
  · simp [htarget, bind, Except.bind] at h
  simp only [htarget, bind, Except.bind] at h
  split at h
  · contradiction
  · next node hne hnode =>
      obtain ⟨rfl, rfl⟩ := Prod.mk.inj (Except.ok.inj h)
      exact ⟨rfl, .inl ⟨_, hnode, hne, rfl⟩⟩
  · next hnode =>
      obtain ⟨rfl, rfl⟩ := Prod.mk.inj (Except.ok.inj h)
      exact ⟨rfl, .inr ⟨hnode, rfl⟩⟩

theorem opensAt_iff : fs.OpensAt path place ↔
    ∃ opened, fs.openAppend path = .ok (place, opened) := by
  constructor
  · rintro ⟨htarget, hfolder⟩
    unfold openAppend
    simp only [htarget, bind, Except.bind]
    split
    · contradiction
    · exact ⟨_, rfl⟩
    · exact ⟨_, rfl⟩
  · rintro ⟨opened, h⟩
    obtain ⟨htarget, ⟨node, hnode, hne, -⟩ | ⟨hnode, -⟩⟩ := openAppend_cases h
    · exact ⟨htarget, by simpa [hnode] using hne⟩
    · exact ⟨htarget, by simp [hnode]⟩

theorem Grown.opensAt_iff (h : fs.Grown fs') : fs'.OpensAt path place ↔ fs.OpensAt path place := by
  have hstart : fs'.start path = fs.start path := by rw [start, start, h.here]
  have hchild {folder : Location} {last : String}
      (hreaches : fs.Reaches (fs.start path) (steps path).dropLast folder) :
      fs'.child folder last = fs.child folder last :=
    child_congr hreaches.2 ((h.folder_iff folder).mpr hreaches.2) last
  rw [OpensAt, OpensAt, target_eq_ok_iff, target_eq_ok_iff, hstart, ne_eq, h.folder_iff]
  refine and_congr_left fun _ => and_congr_right fun _ => exists_congr fun last =>
    exists_congr fun folder => and_congr_right fun _ => ?_
  rw [h.reaches_iff]
  exact and_congr_right fun hreaches => by rw [hchild hreaches]

-- Only the place that the path leads to can change, and is there then.
theorem openAppend_grown (h : fs.openAppend path = .ok (place, fs')) : fs.Grown fs' ∧
    fs'.node? place ≠ none ∧ ∀ other, other ≠ place → fs'.node? other = fs.node? other := by
  obtain ⟨-, ⟨node, hnode, -, rfl⟩ | ⟨hnode, rfl⟩⟩ := openAppend_cases h
  · exact ⟨.refl _, by simp [hnode], fun _ _ => rfl⟩
  · have hroot : place ≠ [] := by
      rintro rfl
      simp [node?] at hnode
    have hadded (other : Location) :
        node? { fs with entries := fs.entries ++ [(place, .file "")] } other =
          (fs.node? other).or (if other = place then some (.file "") else none) := by
      have hsingle : List.lookup other [(place, Node.file "")] =
          if other = place then some (.file "") else none := by
        rw [List.lookup_cons, List.lookup_nil]
        by_cases hplace : other = place
        · simp [hplace]
        · rw [beq_eq_false_iff_ne.mpr hplace, if_neg hplace]
      by_cases hother : other = []
      · simp [node?, hother]
      · simp only [node?, hother, if_false, List.lookup_append, hsingle]
    refine ⟨⟨rfl, fun other node hother => ?_, fun other hother => ?_⟩, ?_, fun other hother => ?_⟩
    · rw [hadded, hother, Option.some_or]
    · rw [hadded, hother, Option.none_or]
      split_ifs
      · exact .inr rfl
      · exact .inl rfl
    · rw [hadded, hnode, if_pos rfl]
      simp
    · rw [hadded, if_neg hother, Option.or_none]

end Paths

end VmLauncher.Host.Files
