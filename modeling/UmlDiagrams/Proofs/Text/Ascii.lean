import Mathlib.Data.List.Basic

namespace UmlDiagrams.Text

def hexDigits : List Char :=
  "0123456789abcdefABCDEF".toList

def letters : List Char :=
  "abcdefghijklmnopqrstuvwxyzABCDEFGHIJKLMNOPQRSTUVWXYZ".toList

theorem forall_mem_of_all {P : Char → Prop} [DecidablePred P] {cs : List Char}
    (h : cs.all (P ·)) : ∀ c ∈ cs, P c := by
  simpa using h

/-- A test that only ASCII characters pass is settled by trying those. -/
theorem iff_mem_of_ascii {p : Char → Bool} {cs : List Char} (hp : ∀ c, p c → c.toNat < 128)
    (hcs : ∀ c ∈ cs, c.toNat < 128)
    (htried : ∀ n < 128, (p (Char.ofNat n) ↔ Char.ofNat n ∈ cs)) (c : Char) : p c ↔ c ∈ cs := by
  have hascii : c.toNat < 128 → (p c ↔ c ∈ cs) := by
    intro hlt
    have hn := htried c.toNat hlt
    rwa [Char.ofNat_toNat] at hn
  constructor
  · intro h
    exact (hascii (hp c h)).mp h
  · intro h
    exact (hascii (hcs c h)).mpr h

private theorem isAlpha_ascii (c : Char) (h : c.isAlpha) : c.toNat < 128 := by
  change ((65 ≤ c.val ∧ c.val ≤ 90 : Bool) || (97 ≤ c.val && c.val ≤ 122)) = true at h
  simp only [Bool.or_eq_true, Bool.and_eq_true, decide_eq_true_eq, UInt32.le_iff_toNat_le] at h
  change (65 ≤ c.toNat ∧ c.toNat ≤ 90) ∨ (97 ≤ c.toNat ∧ c.toNat ≤ 122) at h
  omega

theorem isAlpha_iff (c : Char) : c.isAlpha ↔ c ∈ letters :=
  iff_mem_of_ascii isAlpha_ascii (forall_mem_of_all (by decide)) (by decide +kernel) c

theorem utf8Size_of_ascii {c : Char} (h : c.toNat < 128) : c.utf8Size = 1 := by
  rw [Char.utf8Size_eq_one_iff, UInt32.le_iff_toNat_le]
  exact Nat.le_of_lt_succ h

theorem utf8ByteSize_ofList {cs : List Char} (h : ∀ c ∈ cs, c.toNat < 128) :
    (String.ofList cs).utf8ByteSize = cs.length := by
  induction cs with
  | nil => rfl
  | cons c cs ih =>
    rw [List.forall_mem_cons] at h
    have hsplit : String.ofList (c :: cs) = String.singleton c ++ String.ofList cs := by
      rw [← String.toList_inj]
      simp
    rw [hsplit, String.utf8ByteSize_append, String.utf8ByteSize_singleton, utf8Size_of_ascii h.1,
      ih h.2, List.length_cons, Nat.add_comm]

end UmlDiagrams.Text
