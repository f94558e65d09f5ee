import Mathlib.Order.Basic
import Mathlib.Order.Compare
import WikiPress.Text.Basic

/-!
# Proofs/Text/Order — texts are totally ordered

Comparing texts is the lexicographic comparison by the numbers of their characters
(`compare_eq_compareLex`): a strict total order, in which only a text itself is equal to it.
Comparing texts by their characters is comparing them by their bytes (`compare_eq_lt_iff_bytes`).
-/

namespace WikiPress.Text

theorem compare_eq_compareLex (s t : Text) :
    compare s t = List.compareLex (compareOn Char.toNat) s t := by
  induction s generalizing t with
  | nil => cases t <;> rfl
  | cons a s ih =>
    cases t with
    | nil => rfl
    | cons b t =>
      rw [compare, List.compareLex_cons_cons, ← ih, compareOn, Nat.compare_eq_ite_lt]
      split
      · rfl
      · split <;> rfl

instance : Std.TransCmp compare := by
  have h : compare = List.compareLex (compareOn Char.toNat) :=
    funext fun s => funext fun t => compare_eq_compareLex s t
  rw [h]
  infer_instance

instance : Std.LawfulEqCmp compare where
  eq_of_compare {s t} h := by
    induction s generalizing t with
    | nil =>
      cases t with
      | nil => rfl
      | cons => exact absurd h (by simp [compare])
    | cons a s ih =>
      cases t with
      | nil => exact absurd h (by simp [compare])
      | cons b t =>
        rw [compare] at h
        split_ifs at h with hab hba
        have hchar : a = b := Char.toNat_inj.1 (by omega)
        rw [hchar, ih h]

theorem compare_self (t : Text) : compare t t = .eq := Std.ReflCmp.compare_self

theorem ne_of_compare_eq_lt {s t : Text} (h : compare s t = .lt) : s ≠ t := by
  rintro rfl
  rw [compare_self] at h
  exact absurd h (by decide)

theorem compare_eq_lt_trans {s t u : Text} (h : compare s t = .lt) (h' : compare t u = .lt) :
    compare s u = .lt := Std.TransCmp.lt_trans h h'

/-!
## Texts as bytes

    z          7A                 one byte    00 … 7F
    é          C3 A9              two         C2 … DF   80 … BF
    €          E2 82 AC           three       E0 … EF   80 … BF   80 … BF
    𝄞          F0 9D 84 9E        four        F0 … F4   80 … BF   80 … BF   80 … BF

In UTF-8 a greater character begins with a greater byte, or with the same byte and has a greater one
behind it, where neither ends before the other does (`encoded_append_lt`).
-/

/-- **The bytes of a text** in UTF-8. -/
def bytes (t : Text) : List UInt8 := t.flatMap String.utf8EncodeChar

theorem bytes_cons (c : Char) (t : Text) : bytes (c :: t) = String.utf8EncodeChar c ++ bytes t := rfl

/-- **A lesser character has lesser bytes**, whatever comes behind. -/
theorem encoded_append_lt {a b : Char} (h : a.toNat < b.toNat) (s t : List UInt8) :
    String.utf8EncodeChar a ++ s < String.utf8EncodeChar b ++ t := by
  have hdigits (v : Nat) : v / 4096 = v / 64 / 64 ∧ v / 262144 = v / 64 / 64 / 64 := by
    rw [Nat.div_div_eq_div_mul, Nat.div_div_eq_div_mul]
    exact ⟨rfl, rfl⟩
  have hb : b.val.toNat < 0x110000 := by
    have := b.valid
    rcases this with h | h <;> omega
  change a.val.toNat < b.val.toNat at h
  fun_cases String.utf8EncodeChar a <;> fun_cases String.utf8EncodeChar b <;>
    simp only [List.cons_append, List.nil_append, List.cons_lt_cons_iff, UInt8.lt_iff_toNat_lt,
      ← UInt8.toNat_inj, UInt8.toNat_ofNat', hdigits] <;>
    simp (disch := omega) only [Nat.mod_eq_of_lt] <;> omega

theorem bytes_lt_of_compare_eq_lt {s t : Text} (h : compare s t = .lt) : bytes s < bytes t := by
  induction s generalizing t with
  | nil =>
    cases t with
    | nil => exact absurd h (by decide)
    | cons c t =>
      have hne : String.utf8EncodeChar c ≠ [] := by
        rw [← List.length_pos_iff, String.length_utf8EncodeChar]
        exact c.utf8Size_pos
      obtain ⟨b, bs, hbs⟩ := List.exists_cons_of_ne_nil hne
      rw [bytes_cons, hbs]
      exact List.nil_lt_cons _ _
  | cons a s ih =>
    cases t with
    | nil => exact absurd h (by simp [compare])
    | cons b t =>
      rw [compare] at h
      split_ifs at h with hab hba
      · exact encoded_append_lt hab _ _
      · obtain rfl : a = b := Char.toNat_inj.1 (by omega)
        rw [bytes_cons, bytes_cons]
        exact List.append_left_lt (ih h)

/-- **The order of texts is that of their bytes.** -/
theorem compare_eq_lt_iff_bytes {s t : Text} : compare s t = .lt ↔ bytes s < bytes t := by
  refine ⟨bytes_lt_of_compare_eq_lt, fun hlt => ?_⟩
  cases hcompare : compare s t with
  | lt => rfl
  | eq =>
    rw [Std.LawfulEqCmp.eq_of_compare hcompare] at hlt
    exact absurd hlt (List.lt_irrefl _)
  | gt =>
    exact absurd hlt (List.lt_asymm (bytes_lt_of_compare_eq_lt (Std.OrientedCmp.lt_of_gt hcompare)))

end WikiPress.Text
