import Mathlib.Tactic.Lemma
import SealedChat.Bytes.Base64Url

/-!
# Which texts are spellings

A byte string has four digits for three bytes, and two or three for one or two left over (`length_digits`). Where one
byte is left over, a text is a spelling exactly if all its characters are digits and the last of them has none of its
four spare bits set (`exists_digits_iff`).
-/

namespace SealedChat.Base64Url

/-! ### The alphabet -/

/-- The letters, figures and signs that are digits. -/
def IsDigit (c : Char) : Prop :=
  ('A' ≤ c ∧ c ≤ 'Z') ∨ ('a' ≤ c ∧ c ≤ 'z') ∨ ('0' ≤ c ∧ c ≤ '9') ∨ c = '-' ∨ c = '_'

instance : DecidablePred IsDigit := by
  intro c
  unfold IsDigit
  infer_instance

/-- The digits whose last four bits are zero. -/
def lastDigits : List Char := ['A', 'Q', 'g', 'w']

lemma isDigit_iff {c : Char} : IsDigit c ↔ (65 ≤ c.toNat ∧ c.toNat ≤ 90) ∨ (97 ≤ c.toNat ∧ c.toNat ≤ 122) ∨
    (48 ≤ c.toNat ∧ c.toNat ≤ 57) ∨ c = '-' ∨ c = '_' := by
  unfold IsDigit
  simp only [Char.le_def, UInt32.le_iff_toNat_le]
  rfl

lemma isDigit_digit {n : Nat} (h : n < 64) : IsDigit (digit n) := by
  have : ∀ n < 64, IsDigit (digit n) := by decide
  exact this n h

lemma digit_mem_lastDigits {n : Nat} (h : n < 4) : digit (16 * n) ∈ lastDigits := by
  have : ∀ n < 4, digit (16 * n) ∈ lastDigits := by decide
  exact this n h

lemma exists_value? {c : Char} (h : IsDigit c) : ∃ n, value? c = some n := by
  unfold value?
  rcases isDigit_iff.1 h with h | h | h | rfl | rfl
  · exact ⟨_, if_pos h⟩
  · exact ⟨_, by rw [if_neg (by omega), if_pos h]⟩
  · exact ⟨_, by rw [if_neg (by omega), if_neg (by omega), if_pos h]⟩
  · exact ⟨62, rfl⟩
  · exact ⟨63, rfl⟩

lemma exists_value?_of_mem {c : Char} (h : c ∈ lastDigits) : ∃ n, value? c = some n ∧ n % 16 = 0 := by
  simp only [lastDigits, List.mem_cons, List.not_mem_nil, or_false] at h
  rcases h with rfl | rfl | rfl | rfl
  · exact ⟨0, rfl, rfl⟩
  · exact ⟨16, rfl, rfl⟩
  · exact ⟨32, rfl, rfl⟩
  · exact ⟨48, rfl, rfl⟩

/-! ### Digits of byte strings -/

theorem length_digits (bytes : Bytes) : (digits bytes).length = (4 * bytes.length + 2) / 3 := by
  fun_induction digits bytes with
  | case1 | case2 | case3 => simp
  | case4 a b c rest n ih =>
    simp only [List.length_cons, ih]
    omega

lemma isDigit_of_mem_digits {bytes : Bytes} {c : Char} (h : c ∈ digits bytes) : IsDigit c := by
  fun_induction digits bytes with
  | case1 => cases h
  | case2 a n =>
    have ha := a.toNat_lt
    simp only [List.mem_cons, List.not_mem_nil, or_false] at h
    rcases h with rfl | rfl <;> exact isDigit_digit (by omega)
  | case3 a b n =>
    have ha := a.toNat_lt
    have hb := b.toNat_lt
    simp only [List.mem_cons, List.not_mem_nil, or_false] at h
    rcases h with rfl | rfl | rfl <;> exact isDigit_digit (by omega)
  | case4 a b c rest n ih =>
    have ha := a.toNat_lt
    have hb := b.toNat_lt
    have hc := c.toNat_lt
    simp only [List.mem_cons] at h
    rcases h with rfl | rfl | rfl | rfl | h
    iterate 4 exact isDigit_digit (by omega)
    exact ih h

/-- One byte left over takes the two low bits of its last digit, and the other four are zero. -/
lemma getLast?_digits {bytes : Bytes} (h : bytes.length % 3 = 1) : ∃ c ∈ lastDigits, (digits bytes).getLast? = some c := by
  fun_induction digits bytes with
  | case1 | case3 => cases h
  | case2 a n =>
    refine ⟨digit (n % 64), ?_, rfl⟩
    have hn : n % 64 = 16 * (a.toNat % 4) := by omega
    rw [hn]
    exact digit_mem_lastDigits (Nat.mod_lt _ (by decide))
  | case4 a b c rest n ih =>
    simp only [List.length_cons] at h
    obtain ⟨last, hlast, hrest⟩ := ih (by omega)
    refine ⟨last, hlast, ?_⟩
    simp only [List.getLast?_cons, hrest, Option.getD_some]

/-! ### Texts that are spellings -/

lemma exists_decode? {text : List Char} (hdigits : ∀ c ∈ text, IsDigit c) (hlength : text.length % 4 = 2) {last : Char}
    (hmem : last ∈ lastDigits) (hlast : text.getLast? = some last) : ∃ bytes, decode? text = some bytes := by
  fun_induction decode? text with
  | case1 | case2 | case4 => cases hlength
  | case3 p q =>
    obtain ⟨m, hm⟩ := exists_value? (hdigits p List.mem_cons_self)
    obtain rfl : q = last := Option.some.inj hlast
    obtain ⟨n, hn, hspare⟩ := exists_value?_of_mem hmem
    simp only [hm, hn, Option.bind_eq_bind, Option.bind_some]
    exact ⟨_, if_pos (by omega)⟩
  | case5 p q r s rest ih =>
    simp only [List.forall_mem_cons] at hdigits
    obtain ⟨hp, hq, hr, hs, hrest⟩ := hdigits
    obtain ⟨k, hk⟩ := exists_value? hp
    obtain ⟨l, hl⟩ := exists_value? hq
    obtain ⟨m, hm⟩ := exists_value? hr
    obtain ⟨n, hn⟩ := exists_value? hs
    simp only [List.length_cons] at hlength
    have hbehind : rest.length % 4 = 2 := by omega
    have hend : rest.getLast? = some last := by
      cases rest with
      | nil => cases hbehind
      | cons t rest => simpa only [List.getLast?_cons_cons] using hlast
    obtain ⟨tail, htail⟩ := ih hrest hbehind hend
    simp only [hk, hl, hm, hn, htail, Option.bind_eq_bind, Option.bind_some]
    exact ⟨_, rfl⟩

/-- **A text spells a byte string that leaves one byte over** exactly if it has digits only, as many as the byte string
needs, and the last one has no spare bit set. -/
theorem exists_digits_iff {text : List Char} {count : Nat} :
    (∃ bytes : Bytes, bytes.length = 3 * count + 1 ∧ text = digits bytes) ↔
    text.length = 4 * count + 2 ∧ (∀ c ∈ text, IsDigit c) ∧ ∃ c ∈ lastDigits, text.getLast? = some c := by
  constructor
  · rintro ⟨bytes, hbytes, rfl⟩
    refine ⟨?_, fun c => isDigit_of_mem_digits, getLast?_digits (by omega)⟩
    rw [length_digits]
    omega
  · rintro ⟨hlength, hdigits, last, hmem, hlast⟩
    obtain ⟨bytes, hbytes⟩ := exists_decode? hdigits (by omega) hmem hlast
    obtain rfl := eq_digits_of_decode? hbytes
    rw [length_digits] at hlength
    exact ⟨bytes, by omega, rfl⟩

end SealedChat.Base64Url
