import Mathlib.Data.List.Forall2
import Mathlib.Tactic.Lemma

/-!
# Lists

Facts on lists: what holds of their entries when one is put in, set or erased.
-/

namespace SealedChat

variable {α β : Type} {entries : List α}

/-- An entry that every other entry of a list stands to as they stand to each other can be put behind them. -/
lemma pairwise_concat {R : α → α → Prop} {last : α} (h : entries.Pairwise R) (hlast : ∀ a ∈ entries, R a last) :
    (entries ++ [last]).Pairwise R := by
  refine List.pairwise_append.2 ⟨h, List.pairwise_singleton _ _, ?_⟩
  intro a ha b hb
  rw [List.mem_singleton.1 hb]
  exact hlast a ha

lemma forall_mem_set {P : α → Prop} {a : α} (h : ∀ b ∈ entries, P b) (ha : P a) (place : Nat) :
    ∀ b ∈ entries.set place a, P b := by
  intro b hb
  rcases List.mem_or_eq_of_mem_set hb with hb | rfl
  · exact h b hb
  · exact ha

lemma exists_mem_of_forall₂ {R : α → β → Prop} {others : List β} (h : List.Forall₂ R entries others) :
    ∀ b ∈ others, ∃ a ∈ entries, R a b := by
  induction h with
  | nil => exact fun b hb => absurd hb List.not_mem_nil
  | @cons a b entries others hab _ ih =>
    rw [List.forall_mem_cons]
    refine ⟨⟨a, List.mem_cons_self, hab⟩, ?_⟩
    intro b hb
    obtain ⟨a, ha, h⟩ := ih b hb
    exact ⟨a, List.mem_cons_of_mem _ ha, h⟩

lemma filter_eraseP {p q : α → Bool} (h : ∀ a, p a = true → q a = false) (entries : List α) :
    (entries.eraseP p).filter q = entries.filter q := by
  induction entries with
  | nil => rfl
  | cons a entries ih =>
    by_cases hp : p a = true
    · rw [List.eraseP_cons_of_pos hp, List.filter_cons_of_neg (by rw [h a hp]; exact Bool.false_ne_true)]
    · rw [List.eraseP_cons_of_neg hp, List.filter_cons, List.filter_cons, ih]

lemma filter_eraseP_self (p : α → Bool) (entries : List α) :
    (entries.eraseP p).filter p = (entries.filter p).tail := by
  induction entries with
  | nil => rfl
  | cons a entries ih =>
    by_cases hp : p a = true
    · rw [List.eraseP_cons_of_pos hp, List.filter_cons_of_pos hp, List.tail_cons]
    · rw [List.eraseP_cons_of_neg hp, List.filter_cons_of_neg hp, List.filter_cons_of_neg hp, ih]

end SealedChat
