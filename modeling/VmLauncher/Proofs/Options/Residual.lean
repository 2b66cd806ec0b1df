import VmLauncher.Proofs.Options.Forwarding
-- Reading again what is handed on to the runtime and the application.
namespace VmLauncher.Options

open Host
open Directive (Reads)

-- Tokens that are handed on, all of them and as they are, whenever they are read.
def Replays (tokens : List String) : Prop :=
  ∃ items, tokensOf items = tokens ∧ ∀ (p : Parser) (s : Settings) (scene : Scene),
    p.obeyAll items s scene = (.ok (.proceed (s.forward tokens)), scene)

theorem replays_nil : Replays [] := by
  refine ⟨[], rfl, fun p s scene => ?_⟩
  simp [Parser.obeyAll, Settings.forward]

theorem Settings.forward_forward (s : Settings) (tokens more : List String) :
    (s.forward tokens).forward more = s.forward (tokens ++ more) := by
  simp [forward]

theorem Parser.obeyAll_append_of_proceed {p : Parser} {items : List Item} {s found : Settings}
    {scene after : Scene} (h : p.obeyAll items s scene = (.ok (.proceed found), after))
    (others : List Item) :
    p.obeyAll (items ++ others) s scene = p.obeyAll others found after := by
  induction items generalizing s scene with
  | nil =>
      obtain ⟨hs, rfl⟩ := Prod.mk.inj h
      obtain rfl := Next.proceed.inj (Except.ok.inj hs)
      rfl
  | cons item items ih =>
      obtain ⟨mid, there, hi, hrest⟩ := obeyAll_cons_proceed h
      rw [List.cons_append, obeyAll, hi]
      exact ih hrest

theorem Replays.append {tokens more : List String} (h : Replays tokens) (hm : Replays more) :
    Replays (tokens ++ more) := by
  obtain ⟨items, rfl, hi⟩ := h
  obtain ⟨others, rfl, ho⟩ := hm
  refine ⟨items ++ others, by simp [tokensOf], fun p s scene => ?_⟩
  rw [Parser.obeyAll_append_of_proceed (hi p s scene), ho, Settings.forward_forward]

theorem Reads.replays {token : String} (h : Reads token .forwarded) : Replays [token] :=
  ⟨[.directive token .forwarded h], rfl, fun _ _ _ => rfl⟩

-- A level written the runtime's way is one of the directives that are handed on.
theorem gcToken_reads (level : Nat) : Reads (gcToken level) .forwarded := by
  have h : gcToken level = "-X:gc" ++ (":verbose=" ++ toString level) := by
    rw [← String.append_assoc]
    rfl
  rw [h]
  exact .forwardedStart (by decide) _

theorem HandsOn.replays {item : Item} {handed : List String} (h : HandsOn item handed) :
    Replays handed := by
  cases h with
  | classpath flag path takes => exact ⟨[.classpath flag path takes], rfl, fun _ _ _ => rfl⟩
  | forwarded token reads => exact Reads.replays reads
  | verboseGc reads h => exact Reads.replays (gcToken_reads _)
  | kept reads hd => exact replays_nil

theorem replays_flatten {items : List Item} {handed : List (List String)}
    (h : List.Forall₂ HandsOn items handed) : Replays handed.flatten := by
  induction h with
  | nil => exact replays_nil
  | cons hitem _ ih => exact hitem.replays.append ih

-- The three image directives, which every command line needs.
def imageItems (code data refMap : String) : List Item :=
  [.directive (ImageKind.code.directive ++ code) _ (reads_image .code code),
   .directive (ImageKind.data.directive ++ data) _ (reads_image .data data),
   .directive (ImageKind.refMap.directive ++ refMap) _ (reads_image .refMap refMap)]

theorem obeyAll_imageItems (p : Parser) (code data refMap : String) (s : Settings)
    (scene : Scene) :
    p.obeyAll (imageItems code data refMap) s scene =
      (.ok (.proceed { s with code := some code, data := some data, refMap := some refMap }),
        scene) :=
  rfl

-- What a launch hands on, as a command line of its own.
def relaunchLine (code data refMap : String) (c : Configuration) : List String :=
  ["-X:ic=" ++ code, "-X:id=" ++ data, "-X:ir=" ++ refMap] ++ c.residualArgs

-- Behind image directives, what a launch hands on is cut into runtime and application
-- arguments where it was before. Reading it shows nothing, whatever the console takes.
theorem residual_launch (p : Parser) (hd : p.defaults.initial ≤ p.defaults.maximum)
    (args : List String) (scene : Scene) (c : Configuration)
    (h : (p.parse args scene).1 = .ok (.launch c)) (code data refMap : String) (again : Scene) :
    (p.parse (relaunchLine code data refMap c) again).1 = .ok (.launch
      { initialHeap := p.defaults.initial, maximumHeap := p.defaults.maximum, code, data, refMap,
        verbose := 0, verboseBoot := 0, log := none, runtimeArgs := c.runtimeArgs,
        applicationArgs := c.applicationArgs }) ∧
      (p.parse (relaunchLine code data refMap c) again).2.console = again.console ∧
      (p.parse (relaunchLine code data refMap c) again).2.files = again.files := by
  obtain ⟨_, handed, hcut, hhanded, hruntime⟩ := Parser.launch_handsOn h
  obtain ⟨items, htokens, hobey⟩ := replays_flatten hhanded
  have hline : relaunchLine code data refMap c =
      tokensOf (imageItems code data refMap ++ items) ++ c.applicationArgs := by
    simp only [relaunchLine, Configuration.residualArgs, hruntime, ← htokens]
    simp [tokensOf, imageItems, Item.tokens, ImageKind.directive]
  let s : Settings := { code := some code, data := some data, refMap := some refMap }
  have hread : p.obeyAll (imageItems code data refMap ++ items) {} again =
      (.ok (.proceed (s.forward c.runtimeArgs)), again) := by
    rw [Parser.obeyAll_append_of_proceed (obeyAll_imageItems p code data refMap {} again),
      hobey, hruntime]
  have hconf := (p.configure_eq_ok_iff (s.forward c.runtimeArgs) c.applicationArgs
    ⟨p.defaults.initial, p.defaults.maximum, code, data, refMap, 0, 0, none, c.runtimeArgs,
      c.applicationArgs⟩).mpr ⟨hd, rfl, rfl, rfl, rfl⟩
  have hparse : p.parse (relaunchLine code data refMap c) again =
      p.finish (s.forward c.runtimeArgs) c.applicationArgs
        (Parser.atTail c.applicationArgs again) := by
    rw [hline, Parser.parse, Parser.readFrom_items, hread, Parser.resume,
      Parser.readFrom_tail p hcut.stops]
  rw [hparse, Parser.finish_of_configure hconf]
  exact ⟨rfl, Parser.atTail_console _ _, Parser.atTail_files _ _⟩

theorem residual_launch_of_rewritten_level :
    let p : Parser := ⟨"bootvm", 4096, {}⟩
    let args := ["-X:ic=x", "-X:id=y", "-X:ir=z", "-verbose:gc=0x10", "-cp", "-Xms1", "-Xms64M",
      "-X:verbose", "Main", "-verbose:gc"]
    let c : Configuration := ⟨64 * mebibyte, 100 * mebibyte, "x", "y", "z", 1, 0, none,
      ["-X:gc:verbose=16", "-cp", "-Xms1"], ["Main", "-verbose:gc"]⟩
    let scene : Scene := ⟨.limited 0, ⟨[], []⟩, []⟩
    p.defaults.initial ≤ p.defaults.maximum ∧ (p.parse args scene).1 = .ok (.launch c) ∧
      (p.parse (relaunchLine "a" "b" "c" c) scene).1 = .ok (.launch
        { initialHeap := p.defaults.initial, maximumHeap := p.defaults.maximum, code := "a",
          data := "b", refMap := "c", verbose := 0, verboseBoot := 0, log := none,
          runtimeArgs := c.runtimeArgs, applicationArgs := c.applicationArgs }) ∧
      (p.parse (relaunchLine "a" "b" "c" c) scene).2.console = scene.console ∧
      (p.parse (relaunchLine "a" "b" "c" c) scene).2.files = scene.files := by
  intro p args c scene
  have hd : p.defaults.initial ≤ p.defaults.maximum := by decide
  have h : (p.parse args scene).1 = .ok (.launch c) := by decide +kernel
  exact ⟨hd, h, residual_launch p hd args scene c h "a" "b" "c" scene⟩

end VmLauncher.Options
