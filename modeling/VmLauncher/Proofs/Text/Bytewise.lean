import VmLauncher.Proofs.Text.Utf8
import Mathlib.Tactic.ByContra
import Mathlib.Tactic.SplitIfs
-- What a reader sees that takes each byte of a text for a character.
namespace VmLauncher.Text

-- Each byte taken for the character of that number.
def byteChars (bytes : List UInt8) : List Char := bytes.map fun b => Char.ofNat b.toNat

def bytewise (cs : List Char) : List Char := byteChars (utf8 (String.ofList cs))

theorem bytewise_eq_flatMap (cs : List Char) :
    bytewise cs = cs.flatMap fun c => byteChars (String.utf8EncodeChar c) := by
  rw [bytewise, utf8_ofList, byteChars, List.map_flatMap]
  rfl

theorem bytewise_cons (c : Char) (cs : List Char) :
    bytewise (c :: cs) = byteChars (String.utf8EncodeChar c) ++ bytewise cs := by
  simp only [bytewise_eq_flatMap, List.flatMap_cons]

theorem bytewise_cons_ascii {c : Char} (h : c.toNat < 128) (cs : List Char) :
    bytewise (c :: cs) = c :: bytewise cs := by
  have hsmall : c.val.toNat ≤ 127 := Nat.le_of_lt_succ h
  have hbyte : String.utf8EncodeChar c = [UInt8.ofNat c.toNat] := by
    simp only [String.utf8EncodeChar, hsmall, if_true, Char.toNat]
  have hnumber : (UInt8.ofNat c.toNat).toNat = c.toNat :=
    UInt8.toNat_ofNat_of_lt (Nat.lt_trans h (by decide))
  rw [bytewise_cons, hbyte, byteChars, List.map_singleton, hnumber, Char.ofNat_toNat]
  rfl

theorem bytewise_append_ascii {taken : List Char} (h : ∀ c ∈ taken, c.toNat < 128)
    (rest : List Char) : bytewise (taken ++ rest) = taken ++ bytewise rest := by
  induction taken with
  | nil => rfl
  | cons c taken ih =>
      have hrest := ih fun d hd => h d (List.mem_cons_of_mem _ hd)
      rw [List.cons_append, bytewise_cons_ascii (h c (by simp)), hrest, List.cons_append]

theorem le_of_mem_utf8EncodeChar {c : Char} (h : 128 ≤ c.toNat) {b : UInt8}
    (hb : b ∈ String.utf8EncodeChar c) : 128 ≤ b.toNat := by
  have hwide : ¬c.val.toNat ≤ 127 := Nat.not_le.mpr h
  have hbyte {n : Nat} (hlow : 128 ≤ n) (hhigh : n < 256) : 128 ≤ (UInt8.ofNat n).toNat := by
    have hnumber : (UInt8.ofNat n).toNat = n := UInt8.toNat_ofNat_of_lt hhigh
    rwa [hnumber]
  simp only [String.utf8EncodeChar, hwide, if_false] at hb
  -- Every byte is a few bits of the character above a fixed lead of 128 at least.
  split_ifs at hb
  all_goals
    simp only [List.mem_cons, List.not_mem_nil, or_false] at hb
    rcases hb with rfl | rfl | rfl | rfl
    all_goals exact hbyte (by omega) (by omega)

theorem byteChar_toNat (b : UInt8) : (Char.ofNat b.toNat).toNat = b.toNat := by
  have hvalid : b.toNat.isValidChar := .inl (Nat.lt_trans b.toNat_lt (by decide))
  rw [Char.ofNat, dif_pos hvalid]
  rfl

-- No byte of a longer character is a character by itself.
theorem bytewise_eq_cons {cs rest : List Char} {c : Char} (hc : c.toNat < 128)
    (h : bytewise cs = c :: rest) : ∃ after, cs = c :: after ∧ rest = bytewise after := by
  cases cs with
  | nil => exact absurd h (by simp [bytewise_eq_flatMap])
  | cons d cs =>
      by_cases hd : d.toNat < 128
      · rw [bytewise_cons_ascii hd] at h
        obtain ⟨rfl, rfl⟩ := List.cons.inj h
        exact ⟨cs, rfl, rfl⟩
      · obtain ⟨b, bytes, hbytes⟩ :=
          List.exists_cons_of_ne_nil (String.utf8EncodeChar_ne_nil (c := d))
        have hb : 128 ≤ b.toNat := le_of_mem_utf8EncodeChar (Nat.not_lt.mp hd) (by simp [hbytes])
        rw [bytewise_cons, hbytes, byteChars, List.map_cons, List.cons_append] at h
        obtain ⟨rfl, -⟩ := List.cons.inj h
        rw [byteChar_toNat] at hc
        omega

-- What rules out only single bytes at the front of a text rules out nothing more of its bytes.
theorem head_bytewise {P : Char → Prop} (hP : ∀ c, ¬P c → c.toNat < 128) {cs : List Char}
    (h : ∀ c ∈ cs.head?, P c) : ∀ c ∈ (bytewise cs).head?, P c := by
  intro c hc
  by_contra hno
  obtain ⟨rest, hrest⟩ := List.head?_eq_some_iff.mp hc
  obtain ⟨after, rfl, -⟩ := bytewise_eq_cons (hP c hno) hrest
  exact hno (h c rfl)

theorem prefix_bytewise_iff {text cs : List Char} (h : ∀ c ∈ text, c.toNat < 128) :
    text <+: bytewise cs ↔ text <+: cs := by
  constructor
  · rintro ⟨rest, hrest⟩
    induction text generalizing cs with
    | nil => exact List.nil_prefix
    | cons c text ih =>
        obtain ⟨hc, htext⟩ := List.forall_mem_cons.mp h
        obtain ⟨after, rfl, hafter⟩ := bytewise_eq_cons hc hrest.symm
        obtain ⟨more, rfl⟩ := ih htext hafter
        exact ⟨more, rfl⟩
  · rintro ⟨rest, rfl⟩
    exact ⟨bytewise rest, (bytewise_append_ascii h rest).symm⟩

end VmLauncher.Text
