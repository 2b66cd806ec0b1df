import VmLauncher.Proofs.Options.Items
-- When settings amount to a configuration, and to which.
namespace VmLauncher.Options

open Host

-- The image that is missing first, in the order in which they are asked for.
structure FirstMissing (images : ImageKind → Option String) (kind : ImageKind) : Prop where
  missing : images kind = none
  earlier : ∀ other, ImageKind.all.idxOf other < ImageKind.all.idxOf kind → images other ≠ none

namespace Parser

-- Only the two sizes and the three images can keep a configuration from being made.
theorem configure_eq_ok_iff (p : Parser) (s : Settings) (tail : List String) (c : Configuration) :
    p.configure s tail = .ok c ↔
      (p.heapSizes s).1 ≤ (p.heapSizes s).2 ∧ s.code = some c.code ∧ s.data = some c.data ∧
      s.refMap = some c.refMap ∧
      c = ⟨(p.heapSizes s).1, (p.heapSizes s).2, c.code, c.data, c.refMap, s.verbose,
        s.verboseBoot, s.log, s.runtimeArgs, tail⟩ := by
  unfold configure
  by_cases hs : (p.heapSizes s).2 < (p.heapSizes s).1
  · simp [hs, bind, Except.bind, Nat.not_le.mpr hs]
  · have hle := Nat.not_lt.mp hs
    rcases hc : s.code with _ | code
    · simp [requireImage, Settings.image?, hc, hs, bind, Except.bind]
    · rcases hd : s.data with _ | data
      · simp [requireImage, Settings.image?, hc, hd, hs, bind, Except.bind]
      · rcases hr : s.refMap with _ | refMap
        · simp [requireImage, Settings.image?, hc, hd, hr, hs, bind, Except.bind]
        · simp only [requireImage, Settings.image?, hc, hd, hr, hs, hle, bind, Except.bind, pure,
            Except.pure, if_false, Except.ok.injEq, Option.some.injEq, true_and]
          constructor
          · rintro rfl
            exact ⟨rfl, rfl, rfl, rfl⟩
          · rintro ⟨rfl, rfl, rfl, h⟩
            exact h.symm

theorem configure_eq_error {p : Parser} {s : Settings} {tail : List String} {e : BootError}
    (h : p.configure s tail = .error e) :
    (p.heapSizes s).2 < (p.heapSizes s).1 ∧
        e = .heapSizeMismatch (p.heapSizes s).1 (p.heapSizes s).2 ∨
      (p.heapSizes s).1 ≤ (p.heapSizes s).2 ∧
        ∃ kind, FirstMissing s.image? kind ∧ e = .missingBootImage kind := by
  unfold configure at h
  by_cases hs : (p.heapSizes s).2 < (p.heapSizes s).1
  · simp only [hs, if_true, bind, Except.bind] at h
    exact .inl ⟨hs, (Except.error.inj h).symm⟩
  · refine .inr ⟨Nat.not_lt.mp hs, ?_⟩
    rcases hc : s.code with _ | code
    · refine ⟨.code, ⟨hc, fun other hlt => absurd hlt (Nat.not_lt_zero _)⟩, ?_⟩
      simpa [requireImage, Settings.image?, hc, hs, bind, Except.bind, eq_comm] using h
    · rcases hd : s.data with _ | data
      · refine ⟨.data, ⟨hd, fun other hlt => ?_⟩, ?_⟩
        · cases other with
          | code => simp [Settings.image?, hc]
          | data | refMap => exact absurd hlt (by decide)
        · simpa [requireImage, Settings.image?, hc, hd, hs, bind, Except.bind, eq_comm] using h
      · rcases hr : s.refMap with _ | refMap
        · refine ⟨.refMap, ⟨hr, fun other hlt => ?_⟩, ?_⟩
          · cases other with
            | code => simp [Settings.image?, hc]
            | data => simp [Settings.image?, hd]
            | refMap => exact absurd hlt (by decide)
          · simpa [requireImage, Settings.image?, hc, hd, hr, hs, bind, Except.bind, eq_comm]
              using h
        · simp [requireImage, Settings.image?, hc, hd, hr, hs, bind, Except.bind, pure,
            Except.pure] at h

-- The application's arguments are only passed on.
theorem configure_tail (p : Parser) (s : Settings) (tail other : List String) :
    p.configure s other = (p.configure s tail).map ({ · with applicationArgs := other }) := by
  unfold configure
  rcases requireImage s .code with _ | code <;> rcases requireImage s .data with _ | data <;>
    rcases requireImage s .refMap with _ | refMap <;>
    by_cases hs : (p.heapSizes s).2 < (p.heapSizes s).1 <;>
    simp [hs, bind, Except.bind, pure, Except.pure, Except.map]

theorem finish_eq_launch {p : Parser} {s : Settings} {tail : List String} {scene : Scene}
    {c : Configuration} (h : (p.finish s tail scene).1 = .ok (.launch c)) :
    p.configure s tail = .ok c := by
  unfold finish at h
  split at h
  · simp at h
  · rename_i found hf
    rw [hf, Outcome.launch.inj (Except.ok.inj h)]

theorem finish_of_configure {p : Parser} {s : Settings} {tail : List String} {c : Configuration}
    (h : p.configure s tail = .ok c) (scene : Scene) :
    p.finish s tail scene = (.ok (.launch c), scene.note (configurationEvent c)) := by
  simp [finish, h]

end Parser

end VmLauncher.Options
