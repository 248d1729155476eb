import Mathlib.Data.List.Induction
import Mathlib.Data.Nat.Digits.Defs
import Mathlib.Tactic.Lemma
import SealedChat.Decimal.Natural

/-!
# Numbers from figures

Figures stand for the number that they are the decimal digits of (`Decimal.value_eq_ofDigits`), and exactly the texts of
one or more figures are read (`Decimal.parse?_eq_some_iff`). A number has as many figures as its size asks for
(`Decimal.length_figures_le_iff`).
-/

namespace SealedChat.Decimal

lemma isFigure_iff {c : Char} : isFigure c = true ↔ '0' ≤ c ∧ c ≤ '9' := by
  unfold isFigure
  rw [Bool.and_eq_true_iff, decide_eq_true_iff, decide_eq_true_iff, Char.le_def, Char.le_def, UInt32.le_iff_toNat_le,
    UInt32.le_iff_toNat_le]
  rfl

/-! ### Values -/

lemma le_valueFrom (high : Nat) (text : List Char) : high ≤ valueFrom high text := by
  induction text generalizing high with
  | nil => exact Nat.le_refl high
  | cons c text ih =>
    calc
      high ≤ 10 * high + (c.toNat - 48) := by omega
      _ ≤ valueFrom (10 * high + (c.toNat - 48)) text := ih _

lemma value_concat (text : List Char) (c : Char) : value (text ++ [c]) = 10 * value text + (c.toNat - 48) := by
  unfold value valueFrom
  rw [List.foldl_append]
  rfl

/-- The induction is on the figures from their end, where the least of them stands. -/
lemma value_eq_ofDigits (text : List Char) :
    value text = Nat.ofDigits 10 (text.reverse.map fun c => c.toNat - '0'.toNat) := by
  induction text using List.reverseRecOn with
  | nil => rfl
  | append_singleton text c ih =>
    rw [value_concat, ih, List.reverse_concat, List.map_cons, Nat.ofDigits_cons, Nat.add_comm]
    rfl

lemma parse?_eq_some_iff {text : List Char} {n : Nat} :
    parse? text = some n ↔ text ≠ [] ∧ (∀ c ∈ text, '0' ≤ c ∧ c ≤ '9') ∧ value text = n := by
  have hfigures : text.all isFigure = true ↔ ∀ c ∈ text, '0' ≤ c ∧ c ≤ '9' := by
    simp only [List.all_eq_true, isFigure_iff]
  rw [← hfigures]
  unfold parse?
  rw [Option.ite_none_right_eq_some, Bool.and_eq_true_iff, Bool.not_eq_true', List.isEmpty_eq_false_iff,
    Option.some_inj, and_assoc]

/-! ### Figures of a number -/

/-- A number above zero is written without a zero at the front. -/
lemma figures_eq_cons {n : Nat} (h : 0 < n) : ∃ c text, figures n = c :: text ∧ c ≠ '0' := by
  fun_induction figures n with
  | case1 n hn =>
    refine ⟨figure n, [], rfl, ?_⟩
    intro hzero
    have hchar := toNat_figure hn
    rw [hzero, show '0'.toNat = 48 from rfl] at hchar
    omega
  | case2 n hn ih =>
    obtain ⟨c, text, htext, hc⟩ := ih (by omega)
    exact ⟨c, text ++ [figure (n % 10)], by rw [htext, List.cons_append], hc⟩

lemma length_figures_le_iff {n k : Nat} (hk : 0 < k) : (figures n).length ≤ k ↔ n < 10 ^ k := by
  fun_induction figures n generalizing k with
  | case1 n hn =>
    refine iff_of_true hk (Nat.lt_of_lt_of_le hn ?_)
    exact Nat.le_self_pow (Nat.ne_of_gt hk) 10
  | case2 n hn ih =>
    obtain ⟨k, rfl⟩ := Nat.exists_eq_succ_of_ne_zero (Nat.ne_of_gt hk)
    rw [List.length_append, List.length_singleton, Nat.succ_eq_add_one, Nat.add_le_add_iff_right, Nat.pow_succ]
    rcases Nat.eq_zero_or_pos k with rfl | hpos
    · have hlength := List.length_pos_iff.2 (figures_ne_nil (n / 10))
      refine iff_of_false (by omega) (by omega)
    · rw [ih hpos, Nat.div_lt_iff_lt_mul (by decide)]

lemma toList_ofNat (n : Nat) : (ofNat n).toList = figures n := String.toList_ofList

end SealedChat.Decimal
