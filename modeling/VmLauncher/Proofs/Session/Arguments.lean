import VmLauncher.Proofs.Text.Utf8
import VmLauncher.Session.Arguments
-- What compiled code finds in its buffer after it asked for an argument.
namespace VmLauncher.Session

-- A caller claims no more memory than there is.
def Buffer.Valid (b : Buffer) : Prop := ∀ memory, b.bytes = some memory → b.size ≤ memory.length

-- Whether so many bytes fit. Where there is no memory at all, none may be claimed.
def Buffer.HasRoom (b : Buffer) (count : Nat) : Prop :=
  count ≤ b.size ∧ (b.bytes = none → b.size = 0)

-- The data is at the start of the memory, and everything behind it is as it was.
structure Buffer.Stored (b : Buffer) (data : List UInt8) (after : Buffer) : Prop where
  size : after.size = b.size
  missing : b.bytes = none → after.bytes = none
  memory : ∀ old, b.bytes = some old → ∃ new, after.bytes = some new ∧
    new.length = old.length ∧ new.take data.length = data ∧
    new.drop data.length = old.drop data.length

theorem Buffer.store?_of_hasRoom {b : Buffer} {data : List UInt8} (hv : b.Valid)
    (h : b.HasRoom data.length) : ∃ after, b.store? data = some after ∧ b.Stored data after := by
  obtain ⟨hfits, hmissing⟩ := h
  have hsize : ¬ b.size < 0 := by omega
  have hclaim : ¬ (b.bytes.isNone && decide (0 < b.size)) = true := by
    rintro hc
    simp only [Bool.and_eq_true, Option.isNone_iff_eq_none, decide_eq_true_eq] at hc
    have hzero : b.size = 0 := hmissing hc.1
    omega
  have hlong : ¬ b.size < data.length := by omega
  refine ⟨{ b with bytes := b.bytes.map fun old => data ++ old.drop data.length }, ?_, ?_⟩
  · rw [store?, if_neg hsize, if_neg hclaim, if_neg hlong]
  · refine ⟨rfl, fun hnone => by simp [hnone], fun old hold => ?_⟩
    have hlength : data.length ≤ old.length := by
      have hclaimed : b.size ≤ old.length := hv old hold
      omega
    refine ⟨data ++ old.drop data.length, by simp [hold], ?_, List.take_left' rfl,
      List.drop_left' rfl⟩
    rw [List.length_append, List.length_drop]
    omega

theorem Buffer.store?_eq_none {b : Buffer} {data : List UInt8} (h : ¬ b.HasRoom data.length) :
    b.store? data = none := by
  rw [store?]
  split
  · rfl
  · split
    · rfl
    · next hclaim =>
        split
        · rfl
        · next hsize hlong =>
            refine absurd ⟨by omega, fun hnone => ?_⟩ h
            simp only [hnone, Option.isNone_none, Bool.true_and, decide_eq_true_eq] at hclaim
            omega

-- The answer to a request for an argument: the argument, if it is one of the list and
-- fits, and otherwise a refusal that touches nothing.
inductive ReadsBack (residual : List String) (index : Int) (b : Buffer) : Int × Buffer → Prop
  | copied {argument : String} {after : Buffer} :
      0 ≤ index → residual[index.toNat]? = some argument →
      b.HasRoom (Text.utf8 argument).length → b.Stored (Text.utf8 argument) after →
      ReadsBack residual index b ((Text.utf8 argument).length, after)
  | refused :
      (∀ argument, 0 ≤ index → residual[index.toNat]? = some argument →
        ¬ b.HasRoom (Text.utf8 argument).length) →
      ReadsBack residual index b (-1, b)

theorem readArgument_readsBack (s : Session) {index : Int} {b : Buffer} (hindex : index ≠ -1)
    (hv : b.Valid) : ReadsBack s.residual index b (s.readArgument index b) := by
  rw [readArgument, if_neg hindex]
  split
  · next hnegative => exact .refused fun argument hi _ => absurd hi (by omega)
  · next hpositive =>
      cases hget : s.residual[index.toNat]? with
      | none => exact .refused fun argument _ hsome => absurd (hget.symm.trans hsome) (by simp)
      | some argument =>
          by_cases hroom : b.HasRoom (Text.utf8 argument).length
          · obtain ⟨after, hstore, hafter⟩ := Buffer.store?_of_hasRoom hv hroom
            simp only [hstore]
            exact .copied (by omega) hget hroom hafter
          · have hstore := Buffer.store?_eq_none hroom
            simp only [hstore]
            refine .refused fun other _ hother => ?_
            rw [hget, Option.some.injEq] at hother
            rwa [← hother]

-- The text of one argument, as a caller with memory puts it together.
def readText? (s : Session) (index : Nat) (b : Buffer) : Option String :=
  let (length, after) := s.readArgument index b
  if length < 0 then none
  else after.bytes.bind fun memory => Text.ofUtf8? (memory.take length.toNat)

-- All of them, from the first to the last that is counted, each into a buffer of its own.
def readTexts (s : Session) (buffers : Nat → Buffer) : List (Option String) :=
  (List.range s.argumentCount.toNat).map fun i => s.readText? i (buffers i)

theorem readText?_eq {s : Session} {i : Nat} {argument : String}
    (hget : s.residual[i]? = some argument) {b : Buffer} (hv : b.Valid) (hmemory : b.bytes.isSome)
    (hroom : b.HasRoom (Text.utf8 argument).length) : s.readText? i b = some argument := by
  obtain ⟨old, hold⟩ := Option.isSome_iff_exists.mp hmemory
  have hindex : (i : Int) ≠ -1 := by omega
  have hreads := s.readArgument_readsBack hindex hv
  rw [readText?]
  cases hanswer : s.readArgument i b with
  | mk length after =>
      rw [hanswer] at hreads
      cases hreads with
      | refused hnot => exact absurd hroom (hnot argument (by omega) hget)
      | @copied other _ _ hother _ hstored =>
          obtain rfl : argument = other := by
            rw [Int.toNat_natCast] at hother
            exact Option.some.inj (hget.symm.trans hother)
          obtain ⟨new, hnew, -, htake, -⟩ := hstored.memory old hold
          simp only [hnew, Option.bind_some, Int.toNat_natCast, htake, Text.ofUtf8?_utf8]
          exact if_neg (by omega)

theorem argumentCount_eq {s : Session} (h : s.residual.length ≤ greatestInteger) :
    s.argumentCount = s.residual.length := by
  rw [argumentCount]
  omega

-- Reading one argument after the other gives the whole command line back.
theorem readTexts_eq {s : Session} (h : s.residual.length ≤ greatestInteger)
    {buffers : Nat → Buffer} (hv : ∀ i, (buffers i).Valid)
    (hmemory : ∀ i, (buffers i).bytes.isSome)
    (hroom : ∀ i argument, s.residual[i]? = some argument →
      (buffers i).HasRoom (Text.utf8 argument).length) :
    s.readTexts buffers = s.residual.map some := by
  rw [readTexts, argumentCount_eq h, Int.toNat_natCast]
  apply List.ext_getElem (by simp)
  intro i hi _
  have hlt : i < s.residual.length := by simpa using hi
  rw [List.getElem_map, List.getElem_map, List.getElem_range]
  have hget : s.residual[i]? = some s.residual[i] := List.getElem?_eq_getElem hlt
  exact readText?_eq hget (hv i) (hmemory i) (hroom i _ hget)

end VmLauncher.Session
