import Mathlib.Data.List.TakeWhile
import VmLauncher.Proofs.Session.Arguments
import VmLauncher.Session.Exit
-- The first instance stays, and so do the arguments that it is given first: whatever is
-- asked later is answered from them.
namespace VmLauncher.Session

-- What a run does with its instance and its boot arguments, and what compiled code asks.
inductive Step where
  | ensureInstalled (verbose : UInt32)
  | install (substrate : Monitor.Substrate) (verbose : UInt32)
  | publish (arguments : Options.BootArguments)
  | countArguments
  | readArgument (index : Int) (b : Buffer)
  | initialHeap
  | maximumHeap
deriving DecidableEq, Repr

inductive Answer where
  | done
  -- Whether the instance is the one that all threads share.
  | installed (first : Bool)
  -- Whether the arguments were taken, if there was an instance to give them to.
  | published (taken : Option Bool)
  | count (arguments : Int)
  | argument (read : Int × Buffer)
  | heap (bytes : Nat)
deriving DecidableEq, Repr

def perform (s : Session) : Step → Answer × Session
  | .ensureInstalled verbose => (.done, s.ensureInstalled verbose)
  | .install substrate verbose =>
      let (first, s) := s.install substrate verbose
      (.installed first, s)
  | .publish arguments =>
      match s.publish? arguments with
      | none => (.published none, s)
      | some (taken, s) => (.published (some taken), s)
  | .countArguments => (.count s.argumentCount, s)
  | .readArgument index b => (.argument (s.readArgument index b), s)
  | .initialHeap => (.heap s.initialHeap, s)
  | .maximumHeap => (.heap s.maximumHeap, s)

def performAll (s : Session) (steps : List Step) : Session :=
  steps.foldl (fun s step => (s.perform step).2) s

namespace Step

-- The instance that a step would put in place.
def instance? : Step → Option (Monitor.Substrate × UInt32)
  | ensureInstalled verbose => some (.pthread, verbose)
  | install substrate verbose => some (substrate, verbose)
  | _ => none

def arguments? : Step → Option Options.BootArguments
  | publish arguments => some arguments
  | _ => none

-- Compiled code counts arguments with 32 bits and hands over the memory that it claims.
def Valid : Step → Prop
  | publish arguments => arguments.residual.length ≤ greatestInteger
  | readArgument _ b => b.Valid
  | _ => True

end Step

def firstInstance? (steps : List Step) : Option (Monitor.Substrate × UInt32) :=
  steps.findSome? Step.instance?

-- Arguments that come before there is an instance are lost.
def firstArguments? (steps : List Step) : Option Options.BootArguments :=
  (steps.dropWhile (·.instance?.isNone)).findSome? Step.arguments?

def firstResidual (steps : List Step) : List String :=
  ((firstArguments? steps).map (·.residual)).getD []

-- A new instance as a substrate, a verbosity and what it was given.
def instanceOf (arguments : Option Options.BootArguments) (made : Monitor.Substrate × UInt32) :
    Instance :=
  { substrate := made.1, verbose := made.2, arguments }

-- The answer to a step, from the steps before it alone.
inductive Answers (past : List Step) : Step → Answer → Prop
  | ensureInstalled {verbose : UInt32} : Answers past (.ensureInstalled verbose) .done
  | install {substrate : Monitor.Substrate} {verbose : UInt32} :
      Answers past (.install substrate verbose) (.installed (firstInstance? past).isNone)
  | publish {arguments : Options.BootArguments} :
      Answers past (.publish arguments)
        (.published ((firstInstance? past).map fun _ => (firstArguments? past).isNone))
  | countArguments : Answers past .countArguments (.count (firstResidual past).length)
  | countByIndex {b : Buffer} :
      Answers past (.readArgument (-1) b) (.argument ((firstResidual past).length, b))
  | readArgument {index : Int} {b : Buffer} {read : Int × Buffer} :
      index ≠ -1 → ReadsBack (firstResidual past) index b read →
      Answers past (.readArgument index b) (.argument read)
  | initialHeap :
      Answers past .initialHeap (.heap (((firstArguments? past).map (·.initial)).getD 0))
  | maximumHeap :
      Answers past .maximumHeap (.heap (((firstArguments? past).map (·.maximum)).getD 0))

-- All that can be seen of what came first, whatever came after it.
structure KeepsFirst (past : List Step) (now : Session) : Prop where
  kept : now.installed = (firstInstance? past).map (instanceOf (firstArguments? past))
  answers : ∀ step : Step, step.Valid → Answers past step (now.perform step).1
  texts : ∀ buffers : Nat → Buffer, (∀ i, (buffers i).Valid ∧ (buffers i).bytes.isSome) →
    (∀ i argument, (firstResidual past)[i]? = some argument →
      (buffers i).HasRoom (Text.utf8 argument).length) →
    now.readTexts buffers = (firstResidual past).map some

@[simp] theorem note_installed (thread : String) (s : Session) (e : Journal.Event) :
    (s.note thread e).installed = s.installed := by
  rw [note]
  split
  · rfl
  · next recorder _ =>
      cases recorder.sink with
      | standardError => rfl
      | file place => dsimp only; split <;> rfl

theorem perform_of_some {s : Session} {i : Instance} (h : s.installed = some i) (step : Step) :
    (s.perform step).2.installed = some { i with arguments := i.arguments.or step.arguments? } := by
  cases step with
  | install substrate verbose => simp [perform, install, Step.arguments?, h]
  | publish arguments =>
      cases i with
      | mk substrate verbose ledger nextSerial given =>
          cases given <;> simp [perform, publish?, Instance.publish, Step.arguments?, h]
  | ensureInstalled | countArguments | readArgument | initialHeap | maximumHeap =>
      simp [perform, ensureInstalled, Step.arguments?, h]

theorem perform_of_none {s : Session} (h : s.installed = none) (step : Step) :
    (s.perform step).2.installed = step.instance?.map (instanceOf none) := by
  cases step <;>
    simp [perform, ensureInstalled, install, publish?, Step.instance?, instanceOf, h]

theorem performAll_cons (s : Session) (step : Step) (steps : List Step) :
    s.performAll (step :: steps) = (s.perform step).2.performAll steps := rfl

-- Once there is an instance, only its arguments may change, from none to the first given.
theorem performAll_of_some {s : Session} {i : Instance} (h : s.installed = some i)
    (steps : List Step) :
    (s.performAll steps).installed =
      some { i with arguments := i.arguments.or (steps.findSome? Step.arguments?) } := by
  induction steps generalizing s i with
  | nil => simpa [performAll] using h
  | cons step steps ih =>
      have hor : i.arguments.or ((step :: steps).findSome? Step.arguments?) =
          (i.arguments.or step.arguments?).or (steps.findSome? Step.arguments?) := by
        rw [Option.or_assoc, List.findSome?_cons]
        cases step.arguments? <;> rfl
      rw [performAll_cons, hor]
      exact ih (perform_of_some h step)

theorem performAll_of_none {s : Session} (h : s.installed = none) (steps : List Step) :
    (s.performAll steps).installed =
      (firstInstance? steps).map (instanceOf (firstArguments? steps)) := by
  induction steps generalizing s with
  | nil => simpa [performAll, firstInstance?] using h
  | cons step steps ih =>
      have hstep := perform_of_none h step
      rw [performAll_cons]
      cases hmade : step.instance? with
      | none =>
          rw [hmade] at hstep
          have hfirst : firstInstance? (step :: steps) = firstInstance? steps :=
            List.findSome?_cons_of_isNone (by simp [hmade])
          have hgiven : firstArguments? (step :: steps) = firstArguments? steps := by
            rw [firstArguments?, List.dropWhile_cons_of_pos (by simp [hmade]), firstArguments?]
          rw [ih hstep, hfirst, hgiven]
      | some made =>
          rw [hmade] at hstep
          have hfirst : firstInstance? (step :: steps) = some made := by
            rw [firstInstance?, List.findSome?_cons, hmade]
          have hsilent : step.arguments? = none := by
            cases step with
            | publish => contradiction
            | _ => rfl
          have hgiven : firstArguments? (step :: steps) = steps.findSome? Step.arguments? := by
            rw [firstArguments?, List.dropWhile_cons_of_neg (by simp [hmade]), List.findSome?_cons,
              hsilent]
          rw [performAll_of_some hstep, hfirst, hgiven]
          rfl

section Run

variable {s : Session} (h : s.installed = none) (past : List Step)
include h

theorem arguments?_performAll : (s.performAll past).arguments? = firstArguments? past := by
  rw [arguments?, performAll_of_none h]
  cases hmade : firstInstance? past with
  | some made => rfl
  | none =>
      have hnone : ∀ step ∈ past, step.instance?.isNone := by
        simpa [firstInstance?] using hmade
      rw [firstArguments?, List.dropWhile_eq_nil_iff.mpr hnone]
      rfl

theorem residual_performAll : (s.performAll past).residual = firstResidual past := by
  rw [residual, arguments?_performAll h, firstResidual]
  cases firstArguments? past <;> rfl

theorem install_performAll (substrate : Monitor.Substrate) (verbose : UInt32) :
    ((s.performAll past).install substrate verbose).1 = (firstInstance? past).isNone := by
  have hnow := performAll_of_none h past
  cases hmade : firstInstance? past with
  | none =>
      rw [hmade] at hnow
      simp [install, hnow]
  | some made =>
      rw [hmade] at hnow
      simp [install, hnow]

theorem publish?_performAll (arguments : Options.BootArguments) :
    ((s.performAll past).publish? arguments).map (·.1) =
      (firstInstance? past).map fun _ => (firstArguments? past).isNone := by
  rw [publish?, performAll_of_none h past, Option.map_map, Option.map_map]
  congr 1
  funext made
  cases hgiven : firstArguments? past <;> simp [instanceOf, Instance.publish]

omit h in
theorem firstResidual_length_le (hvalid : ∀ step ∈ past, step.Valid) :
    (firstResidual past).length ≤ greatestInteger := by
  rw [firstResidual]
  cases hgiven : firstArguments? past with
  | none => exact Nat.zero_le _
  | some given =>
      obtain ⟨step, hstep, hargs⟩ := List.exists_of_findSome?_eq_some hgiven
      have hmem : step ∈ past := (List.dropWhile_sublist _).subset hstep
      cases step with
      | publish arguments =>
          obtain rfl : arguments = given := Option.some.inj hargs
          exact hvalid _ hmem
      | _ => contradiction

theorem argumentCount_performAll (hvalid : ∀ step ∈ past, step.Valid) :
    (s.performAll past).argumentCount = (firstResidual past).length := by
  have hresidual := residual_performAll h past
  have hbound := firstResidual_length_le past hvalid
  rw [argumentCount_eq (by rwa [hresidual]), hresidual]

theorem perform_performAll (hvalid : ∀ step ∈ past, step.Valid) {step : Step} (hv : step.Valid) :
    Answers past step ((s.performAll past).perform step).1 := by
  have hresidual := residual_performAll h past
  have hcount := argumentCount_performAll h past hvalid
  have hgiven := arguments?_performAll h past
  cases step with
  | ensureInstalled verbose => exact .ensureInstalled
  | install substrate verbose =>
      have hfirst := install_performAll h past substrate verbose
      simp only [perform, hfirst]
      exact .install
  | publish arguments =>
      have htaken := publish?_performAll h past arguments
      have hanswer : ((s.performAll past).perform (.publish arguments)).1 =
          .published (((s.performAll past).publish? arguments).map (·.1)) := by
        rw [perform]
        cases (s.performAll past).publish? arguments <;> rfl
      rw [hanswer, htaken]
      exact .publish
  | countArguments =>
      simp only [perform, hcount]
      exact .countArguments
  | readArgument index b =>
      by_cases hindex : index = -1
      · subst hindex
        simp only [perform, readArgument, if_pos, hcount]
        exact .countByIndex
      · have hreads := (s.performAll past).readArgument_readsBack hindex hv
        rw [hresidual] at hreads
        exact .readArgument hindex hreads
  | initialHeap =>
      simp only [perform, initialHeap, hgiven]
      exact .initialHeap
  | maximumHeap =>
      simp only [perform, maximumHeap, hgiven]
      exact .maximumHeap

-- Whatever a run did before: later instances and later arguments do not show.
theorem first_publication_kept (hvalid : ∀ step ∈ past, step.Valid) :
    KeepsFirst past (s.performAll past) := by
  have hresidual := residual_performAll h past
  refine ⟨performAll_of_none h past, fun step hv => perform_performAll h past hvalid hv, ?_⟩
  intro buffers hbuffers hroom
  rw [← hresidual] at hroom ⊢
  apply readTexts_eq ?_ (fun i => (hbuffers i).1) (fun i => (hbuffers i).2) hroom
  rw [hresidual]
  exact firstResidual_length_le past hvalid

end Run

-- Arguments before there is an instance are lost, and so are the second ones and the second
-- instance.
theorem first_publication_kept_of_rivals :
    let s : Session := { files := ⟨[], []⟩ }
    let past : List Step :=
      [.publish ⟨1, 2, ["early"]⟩, .ensureInstalled 3, .install .portable 7,
        .publish ⟨64, 256, ["-Dfoo=bar", "MyApp"]⟩, .publish ⟨5, 6, ["late"]⟩, .countArguments]
    (s.installed = none ∧ ∀ step ∈ past, step.Valid) ∧ KeepsFirst past (s.performAll past) ∧
      firstInstance? past = some (.pthread, 3) ∧
      firstArguments? past = some ⟨64, 256, ["-Dfoo=bar", "MyApp"]⟩ ∧
      (s.performAll past).readTexts (fun _ => ⟨some (List.replicate 9 0), 9⟩) =
        [some "-Dfoo=bar", some "MyApp"] := by
  intro s past
  have hvalid : ∀ step ∈ past, step.Valid := by simp [past, Step.Valid, greatestInteger]
  have hkept := first_publication_kept (s := s) rfl past hvalid
  refine ⟨⟨rfl, hvalid⟩, hkept, rfl, rfl, hkept.texts _ (fun i => ⟨?_, rfl⟩) ?_⟩
  · rintro memory hmemory
    cases hmemory
    decide
  · intro i argument hget
    have hmem : argument ∈ ["-Dfoo=bar", "MyApp"] := List.mem_of_getElem? hget
    have hsmall : ∀ text ∈ ["-Dfoo=bar", "MyApp"], ((Text.utf8 text).length : Int) ≤ 9 := by
      decide +kernel
    exact ⟨hsmall argument hmem, by simp⟩

end VmLauncher.Session
