import VmLauncher.Proofs.Number.Levels
import VmLauncher.Proofs.Options.Items
-- The two directives that have a level behind their name: which spellings are accepted wherever
-- such a directive stands, and which levels they stand for.
namespace VmLauncher.Options

open Host
open Number (Blank LevelError LevelTaken LevelVerdict)

-- What `-verbose:gc` may be followed by, and what it says.
inductive GcDocumented : String → Except LevelError Nat → Prop
  | bare : GcDocumented "" (.ok 1)
  | level {value : String} {verdict : Except LevelError Nat} (h : LevelTaken value verdict) :
      GcDocumented ("=" ++ value) verdict

-- What it is followed by as it is read. Any character of one byte will do in front of the level,
-- and no level is looked for behind a longer one.
inductive GcTaken : String → Except LevelError Nat → Prop
  | bare : GcTaken "" (.ok 1)
  | narrow {c : Char} (hc : c.toNat < 128) {value : String} {verdict : Except LevelError Nat}
      (h : LevelTaken value verdict) : GcTaken (String.singleton c ++ value) verdict
  | wide {c : Char} (hc : 128 ≤ c.toNat) (value : String) :
      GcTaken (String.singleton c ++ value) (.ok 0)

section Separator

variable {rest : String} {verdict : Except LevelError Nat}

theorem utf8Size_eq_one_iff (c : Char) : c.utf8Size = 1 ↔ c.toNat < 128 := by
  rw [Char.utf8Size_eq_one_iff, UInt32.le_iff_toNat_le]
  exact Nat.lt_succ_iff.symm

theorem gcLevel_cons (c : Char) (value : String) :
    gcLevel (String.singleton c ++ value) =
      Number.readLevel (if c.toNat < 128 then value else "") := by
  simp [gcLevel, utf8Size_eq_one_iff]

theorem eq_empty_or_cons (rest : String) :
    rest = "" ∨ ∃ c value, rest = String.singleton c ++ value := by
  rcases hcs : rest.toList with _ | ⟨c, cs⟩
  · exact .inl (String.toList_eq_nil_iff.mp hcs)
  · exact .inr ⟨c, String.ofList cs, String.toList_inj.mp (by simp [hcs])⟩

theorem gcLevel_of_taken (h : GcTaken rest verdict) : gcLevel rest = verdict := by
  cases h with
  | bare => rfl
  | narrow hc h => rw [gcLevel_cons, if_pos hc, Number.readLevel_eq_iff]; exact h
  | wide hc value => rw [gcLevel_cons, if_neg hc.not_gt]; rfl

theorem gcTaken_gcLevel (rest : String) : GcTaken rest (gcLevel rest) := by
  rcases eq_empty_or_cons rest with rfl | ⟨c, value, rfl⟩
  · exact .bare
  · rw [gcLevel_cons]
    by_cases hc : c.toNat < 128
    · rw [if_pos hc]
      exact .narrow hc ((Number.readLevel_eq_iff value _).mp rfl)
    · rw [if_neg hc]
      exact .wide (Nat.not_lt.mp hc) value

theorem gcLevel_eq_iff (rest : String) (verdict : Except LevelError Nat) :
    gcLevel rest = verdict ↔ GcTaken rest verdict := by
  constructor
  · rintro rfl
    exact gcTaken_gcLevel rest
  · exact gcLevel_of_taken

-- What is documented is read as documented. The rest is in the separator alone.
theorem gcDocumented_iff (rest : String) (verdict : Except LevelError Nat) :
    GcDocumented rest verdict ↔
      GcTaken rest verdict ∧ (rest = "" ∨ ∃ value, rest = "=" ++ value) := by
  have hequals : "=" = String.singleton '=' := rfl
  constructor
  · intro h
    cases h with
    | bare => exact ⟨.bare, .inl rfl⟩
    | @level value _ h =>
        have hnarrow : GcTaken (String.singleton '=' ++ value) verdict := .narrow (by decide) h
        exact ⟨hnarrow, .inr ⟨value, rfl⟩⟩
  · rintro ⟨htaken, rfl | ⟨value, rfl⟩⟩
    · obtain rfl : Except.ok 1 = verdict := gcLevel_of_taken htaken
      exact .bare
    · refine .level ((Number.readLevel_eq_iff value verdict).mp ?_)
      rw [← gcLevel_of_taken htaken, hequals, gcLevel_cons, if_pos (by decide)]

end Separator

section Reading

variable {p : Parser} {items : List Item} {start scene : Scene} {s : Settings}

-- Wherever the directive stands, its level is the number behind it or it is refused, but for a
-- value with nothing in it. That is no number, and yet it sets the level to zero.
theorem boot_level_read (h : p.obeyAll items {} start = (.ok (.proceed s), scene))
    (value : String) :
    (∃! verdict, LevelVerdict value verdict) ∧
    (¬Blank value →
      (∀ level, LevelVerdict value (.ok level) → ∀ more,
        p.parse (tokensOf items ++ ("-X:verboseBoot=" ++ value) :: more) start =
          p.readFrom more { s with verboseBoot := level } scene) ∧
      ∀ kind, LevelVerdict value (.error kind) → ∀ more,
        p.parse (tokensOf items ++ ("-X:verboseBoot=" ++ value) :: more) start =
          (.error (.verboseBoot ("-X:verboseBoot=" ++ value) kind), scene)) ∧
    (Blank value →
      LevelVerdict value (.error (.notANumber value)) ∧
      ∀ more, p.parse (tokensOf items ++ ("-X:verboseBoot=" ++ value) :: more) start =
        p.readFrom more { s with verboseBoot := 0 } scene) := by
  have hobey (more : List String) := Parser.parse_directive h (reads_verboseBoot value) more
  have haccepts {level : Nat} (hl : LevelTaken value (.ok level)) (more : List String) :
      p.parse (tokensOf items ++ ("-X:verboseBoot=" ++ value) :: more) start =
        p.readFrom more { s with verboseBoot := level } scene := by
    rw [hobey, Parser.obey, (Number.readLevel_eq_iff value _).mpr hl]
    rfl
  have hrefuses {kind : LevelError} (hk : LevelTaken value (.error kind)) (more : List String) :
      p.parse (tokensOf items ++ ("-X:verboseBoot=" ++ value) :: more) start =
        (.error (.verboseBoot ("-X:verboseBoot=" ++ value) kind), scene) := by
    rw [hobey, Parser.obey, (Number.readLevel_eq_iff value _).mpr hk]
    rfl
  refine ⟨Number.existsUnique_levelVerdict value, fun hsome => ⟨?_, ?_⟩, fun hblank => ⟨?_, ?_⟩⟩
  · exact fun level hv => haccepts (.judged hsome hv)
  · exact fun kind hv => hrefuses (.judged hsome hv)
  · exact (Number.levelVerdict_of_blank hblank).mpr rfl
  · exact haccepts (.blank hblank)

theorem boot_level_read_of_hexadecimal :
    let p : Parser := ⟨"bootvm", 4096, {}⟩
    let scene : Scene := ⟨.unlimited, ⟨[], []⟩, []⟩
    let items : List Item := [.classpath "-cp" "-X" rfl]
    p.obeyAll items {} scene = (.ok (.proceed { runtimeArgs := ["-cp", "-X"] }), scene) ∧
      LevelVerdict " +0x1F\n" (.ok 31) ∧
      ∀ more, p.parse (["-cp", "-X", "-X:verboseBoot= +0x1F\n"] ++ more) scene =
        p.readFrom more { verboseBoot := 31, runtimeArgs := ["-cp", "-X"] } scene := by
  intro p scene items
  have hrun : p.obeyAll items {} scene =
      (.ok (.proceed { runtimeArgs := ["-cp", "-X"] }), scene) := rfl
  have htaken : LevelTaken " +0x1F\n" (.ok 31) :=
    (Number.readLevel_eq_iff _ _).mp (by decide)
  cases htaken with
  | judged hsome hv =>
      exact ⟨hrun, hv, ((boot_level_read hrun " +0x1F\n").2.1 hsome).1 31 hv⟩

theorem empty_level_not_always_refused :
    ¬ ∀ (p : Parser) (value : String) (kind : LevelError) (more : List String) (scene : Scene),
      LevelVerdict value (.error kind) →
      (p.parse (("-X:verboseBoot=" ++ value) :: more) scene).1 =
        .error (.verboseBoot ("-X:verboseBoot=" ++ value) kind) := by
  intro hrefused
  have hempty : LevelVerdict "" (.error (.notANumber "")) :=
    (Number.levelVerdict_of_blank (by simp [Blank])).mpr rfl
  have hparse := hrefused ⟨"bootvm", 4096, {}⟩ "" (.notANumber "")
    ["-X:ic=a", "-X:id=b", "-X:ir=c"] ⟨.unlimited, ⟨[], []⟩, []⟩ hempty
  exact absurd hparse (by decide +kernel)

-- Wherever the directive stands, what is forwarded for it is the level as it is taken. Of this the
-- documented spellings are a part, and a stray character in front of the level is forwarded too.
theorem gc_level_read (h : p.obeyAll items {} start = (.ok (.proceed s), scene))
    (rest : String) :
    (∃! verdict, GcTaken rest verdict) ∧
    (∀ verdict, GcDocumented rest verdict ↔
      GcTaken rest verdict ∧ (rest = "" ∨ ∃ value, rest = "=" ++ value)) ∧
    (∀ level, GcTaken rest (.ok level) → ∀ more,
      p.parse (tokensOf items ++ ("-verbose:gc" ++ rest) :: more) start =
        p.readFrom more (s.forward [gcToken level]) scene) ∧
    ∀ kind, GcTaken rest (.error kind) → ∀ more,
      p.parse (tokensOf items ++ ("-verbose:gc" ++ rest) :: more) start =
        (.error (.verboseGc ("-verbose:gc" ++ rest) kind), scene) := by
  have hobey (more : List String) := Parser.parse_directive h (reads_verboseGc rest) more
  refine ⟨⟨_, gcTaken_gcLevel rest, fun _ ht => (gcLevel_of_taken ht).symm⟩, gcDocumented_iff rest,
    fun level ht more => ?_, fun kind ht more => ?_⟩
  · rw [hobey, Parser.obey, gcLevel_of_taken ht]
    rfl
  · rw [hobey, Parser.obey, gcLevel_of_taken ht]
    rfl

theorem gc_level_read_of_documented :
    let p : Parser := ⟨"bootvm", 4096, {}⟩
    let scene : Scene := ⟨.unlimited, ⟨[], []⟩, []⟩
    let items : List Item := [.classpath "-cp" "-X" rfl]
    p.obeyAll items {} scene = (.ok (.proceed { runtimeArgs := ["-cp", "-X"] }), scene) ∧
      GcDocumented "=017" (.ok 15) ∧
      ∀ more, p.parse (["-cp", "-X", "-verbose:gc=017"] ++ more) scene =
        p.readFrom more { runtimeArgs := ["-cp", "-X", "-X:gc:verbose=15"] } scene := by
  intro p scene items
  have hrun : p.obeyAll items {} scene =
      (.ok (.proceed { runtimeArgs := ["-cp", "-X"] }), scene) := rfl
  have htaken : GcTaken "=017" (.ok 15) := (gcLevel_eq_iff _ _).mp (by decide)
  obtain ⟨-, hdocumented, haccepts, -⟩ := gc_level_read hrun "=017"
  exact ⟨hrun, (hdocumented _).mpr ⟨htaken, .inr ⟨"017", rfl⟩⟩, haccepts 15 htaken⟩

theorem stray_separator_not_always_refused :
    ¬ ∀ (p : Parser) (rest : String) (level : Nat) (more : List String) (scene : Scene)
        (c : Configuration),
      (p.parse (("-verbose:gc" ++ rest) :: more) scene).1 = .ok (.launch c) →
      c.runtimeArgs = [gcToken level] → GcDocumented rest (.ok level) := by
  intro hdocumented
  have hstray : GcDocumented "x" (.ok 0) :=
    hdocumented ⟨"bootvm", 4096, ⟨1, 2⟩⟩ "x" 0 ["-X:ic=a", "-X:id=b", "-X:ir=c"]
      ⟨.unlimited, ⟨[], []⟩, []⟩
      ⟨1, 2, "a", "b", "c", 0, 0, none, ["-X:gc:verbose=0"], []⟩ (by decide +kernel) rfl
  obtain ⟨-, h | ⟨value, h⟩⟩ := (gcDocumented_iff _ _).mp hstray
  · simp at h
  · have hlist := congrArg String.toList h
    simp at hlist

end Reading

end VmLauncher.Options
