import Mathlib.Data.Set.Card
import Mathlib.Order.Interval.Finset.Nat
import SealedChat.Code
import SealedChat.Proofs.Codes

/-!
# Numeric codes are spread evenly

A numeric code comes from the first word of the random stream that is not refused, whatever was refused before it
(`Code.generateNumeric_eq_some_iff`). The products of the words lie 900000 apart, and of each stretch of `2 ^ 32` among
them the first 4096 times 900000 are accepted, so every code has the same number of words (`Code.ncard_picks`).
-/

namespace SealedChat

/-- The word that a stream of random bytes gives behind `i` others. -/
def Entropy.word (entropy : Entropy) (i : Nat) : UInt32 := LittleEndian.toUInt32 ((entropy.skip (4 * i)).peek 4)

lemma Entropy.word_skip (entropy : Entropy) (i : Nat) : (entropy.skip 4).word i = entropy.word (i + 1) := by
  unfold word
  rw [skip_skip, Nat.mul_succ, Nat.add_comm]

namespace Code

/-! ### Words and codes -/

/-- The word is accepted and picks the number: of its product with 900000, the low half is small enough, and the high half
is how far the number is from the least one. -/
def Picks (word : UInt32) (n : Nat) : Prop :=
  word.toNat * 900000 % 2 ^ 32 ≤ 3686399999 ∧ n = 100000 + word.toNat * 900000 / 2 ^ 32

section Picks

variable {word : UInt32} {m n : Nat}

lemma numericOfWord?_eq_some_iff : numericOfWord? word = some n ↔ Picks word n := by
  unfold numericOfWord? Picks numericCount numericLeast
  rw [Option.ite_none_right_eq_some, Option.some_inj, @eq_comm _ n]

lemma numericOfWord?_eq_none_iff : numericOfWord? word = none ↔ ∀ n, ¬ Picks word n := by
  rw [Option.eq_none_iff_forall_ne_some]
  exact forall_congr' fun n => not_congr numericOfWord?_eq_some_iff

lemma Picks.unique (hm : Picks word m) (hn : Picks word n) : m = n := hm.2.trans hn.2.symm

lemma Picks.bounds (h : Picks word n) : 100000 ≤ n ∧ n ≤ 999999 := by
  have hword := word.toNat_lt
  obtain ⟨-, hn⟩ := h
  omega

/-- The words for the code that is `k` from the least one follow one another, 4096 of them from the first whose product
is at least `k * 2 ^ 32`. -/
lemma picks_add_iff {k : Nat} : Picks word (100000 + k) ↔
    (k * 2 ^ 32 + 899999) / 900000 ≤ word.toNat ∧ word.toNat < (k * 2 ^ 32 + 899999) / 900000 + 4096 := by
  have hstretch : Picks word (100000 + k) ↔
      k * 2 ^ 32 ≤ word.toNat * 900000 ∧ word.toNat * 900000 < k * 2 ^ 32 + 4096 * 900000 := by
    unfold Picks
    constructor
    · omega
    · intro h
      have hk : word.toNat * 900000 / 2 ^ 32 = k := Nat.div_eq_of_lt_le h.1 (by omega)
      omega
  rw [hstretch]
  omega

/-- Every code has 4096 words. -/
lemma ncard_picks (n : Nat) :
    {word : UInt32 | Picks word n}.ncard = if 100000 ≤ n ∧ n ≤ 999999 then 4096 else 0 := by
  split
  · next hn =>
    obtain ⟨k, rfl⟩ := Nat.exists_eq_add_of_le hn.1
    -- counted as natural numbers, of which all up to the last one are words
    have hwords : UInt32.toNat '' {word | Picks word (100000 + k)} =
        ↑(Finset.Ico ((k * 2 ^ 32 + 899999) / 900000) ((k * 2 ^ 32 + 899999) / 900000 + 4096)) := by
      ext v
      rw [Finset.coe_Ico, Set.mem_Ico, Set.mem_image]
      constructor
      · rintro ⟨word, hword, rfl⟩
        exact picks_add_iff.1 hword
      · intro hv
        have hsize : v < 2 ^ 32 := by omega
        have hnat : (UInt32.ofNat v).toNat = v := UInt32.toNat_ofNat_of_lt' hsize
        refine ⟨UInt32.ofNat v, picks_add_iff.2 ?_, hnat⟩
        rwa [hnat]
    rw [← Set.ncard_image_of_injective _ fun word word' => UInt32.toNat_inj.1, hwords, Set.ncard_coe_finset,
      Nat.card_Ico, Nat.add_sub_cancel_left]
  · next hn =>
    have hempty : {word : UInt32 | Picks word n} = ∅ := by
      rw [Set.eq_empty_iff_forall_notMem]
      intro word hword
      exact hn (Picks.bounds hword)
    rw [hempty, Set.ncard_empty]

end Picks

/-! ### Drawing -/

section Drawing

variable {entropy rest : Entropy} {tries n : Nat} {code : String}

/-- The first word of the stream that is accepted is the one behind `rejected` others, and it picks the number. -/
def FirstPicks (entropy : Entropy) (rejected n : Nat) : Prop :=
  (∀ i < rejected, ∀ m, ¬ Picks (entropy.word i) m) ∧ Picks (entropy.word rejected) n

lemma firstPicks_succ_iff {rejected : Nat} :
    FirstPicks entropy (rejected + 1) n ↔ (∀ m, ¬ Picks (entropy.word 0) m) ∧ FirstPicks (entropy.skip 4) rejected n := by
  unfold FirstPicks
  simp only [Entropy.word_skip, Nat.forall_lt_succ_left, and_assoc]

lemma generateNumeric_succ (tries : Nat) (entropy : Entropy) : generateNumeric (tries + 1) entropy =
    ((numericOfWord? (entropy.word 0)).map fun n => (Decimal.ofNat n, entropy.skip 4)).or
      (generateNumeric tries (entropy.skip 4)) := by
  rw [generateNumeric, Option.orElse_eq_orElse, Option.orElse_eq_or]
  rfl

/-- The induction is on the tries, each of which either ends the draw or takes a word off the stream. -/
lemma generateNumeric_eq_some_iff : generateNumeric tries entropy = some (code, rest) ↔
    ∃ rejected n, rejected < tries ∧ FirstPicks entropy rejected n ∧ code = Decimal.ofNat n ∧
      rest = entropy.skip (4 * (rejected + 1)) := by
  induction tries generalizing entropy with
  | zero => simp [generateNumeric]
  | succ tries ih =>
    rw [generateNumeric_succ]
    cases hword : numericOfWord? (entropy.word 0) with
    | some m =>
      have hm := numericOfWord?_eq_some_iff.1 hword
      simp only [Option.map_some, Option.some_or, Option.some.injEq, Prod.mk.injEq]
      constructor
      · rintro ⟨rfl, rfl⟩
        exact ⟨0, m, Nat.succ_pos tries, ⟨fun i hi => absurd hi (Nat.not_lt_zero i), hm⟩, rfl, rfl⟩
      · rintro ⟨rejected, n, -, hfirst, rfl, rfl⟩
        cases rejected with
        | zero => exact ⟨by rw [hm.unique hfirst.2], rfl⟩
        | succ rejected => exact absurd hm ((firstPicks_succ_iff.1 hfirst).1 m)
    | none =>
      have hnone := numericOfWord?_eq_none_iff.1 hword
      rw [Option.map_none, Option.none_or, ih]
      constructor
      · rintro ⟨rejected, n, hlt, hfirst, rfl, rfl⟩
        refine ⟨rejected + 1, n, Nat.succ_lt_succ hlt, firstPicks_succ_iff.2 ⟨hnone, hfirst⟩, rfl, ?_⟩
        rw [Entropy.skip_skip, Nat.mul_succ 4 (rejected + 1), Nat.add_comm]
      · rintro ⟨rejected, n, hlt, hfirst, rfl, rfl⟩
        cases rejected with
        | zero => exact absurd hfirst.2 (hnone n)
        | succ rejected =>
          refine ⟨rejected, n, Nat.lt_of_succ_lt_succ hlt, (firstPicks_succ_iff.1 hfirst).2, rfl, ?_⟩
          rw [Entropy.skip_skip, Nat.mul_succ 4 (rejected + 1), Nat.add_comm]

end Drawing

/-- A number between the bounds is written with six figures. -/
lemma length_figures_of_bounds {n : Nat} (hleast : 100000 ≤ n) (hgreatest : n ≤ 999999) :
    (Decimal.figures n).length = 6 := by
  have hfive : ¬ (Decimal.figures n).length ≤ 5 := by
    rw [Decimal.length_figures_le_iff (by decide)]
    omega
  have hsix : (Decimal.figures n).length ≤ 6 := by
    rw [Decimal.length_figures_le_iff (by decide)]
    omega
  omega

/-- **Numeric codes are well formed and uniform.** A draw ends exactly with the first word of the stream that is accepted,
if there is one among as many words as are tried: this word alone makes the code, whatever was refused before it. The
code is six figures for a number from 100000 to 999999, and it is taken for a numeric one. Every one of these numbers is
picked by 4096 of the words, and no other number by any. -/
theorem numeric_codes_uniform :
    (∀ tries entropy code rest, generateNumeric tries entropy = some (code, rest) ↔
      ∃ rejected n, rejected < tries ∧ FirstPicks entropy rejected n ∧ code = Decimal.ofNat n ∧
        rest = entropy.skip (4 * (rejected + 1))) ∧
    (∀ tries entropy code rest, generateNumeric tries entropy = some (code, rest) →
      code.toList.length = 6 ∧ (∀ c ∈ code.toList, '0' ≤ c ∧ c ≤ '9') ∧
        100000 ≤ Decimal.value code.toList ∧ Decimal.value code.toList ≤ 999999 ∧ isNumeric code = true) ∧
    ∀ n, {word : UInt32 | Picks word n}.ncard = if 100000 ≤ n ∧ n ≤ 999999 then 4096 else 0 := by
  refine ⟨fun tries entropy code rest => generateNumeric_eq_some_iff, ?_, ncard_picks⟩
  intro tries entropy code rest h
  obtain ⟨rejected, n, -, hfirst, rfl, -⟩ := generateNumeric_eq_some_iff.1 h
  obtain ⟨hleast, hgreatest⟩ := hfirst.2.bounds
  have hlength := length_figures_of_bounds hleast hgreatest
  obtain ⟨-, hall, hvalue⟩ := Decimal.parse?_eq_some_iff.1 (Decimal.parse?_figures n)
  rw [isNumeric_iff, Decimal.toList_ofNat, hvalue]
  exact ⟨hlength, hall, hleast, hgreatest, hlength, hall⟩

/-- A stream that gives the greatest word first, which is refused, and then the least one. -/
theorem numeric_codes_uniform_second :
    let entropy : Entropy := ⟨fun i => if i < 4 then 255 else 0, 0⟩
    generateNumeric 2 entropy = some ("100000", entropy.skip 8) ∧ isNumeric "100000" = true := by
  intro entropy
  obtain ⟨drawn, formed, -⟩ := numeric_codes_uniform
  have hfirst : entropy.word 0 = 4294967295 := by decide
  have hsecond : entropy.word 1 = 0 := by decide
  have hcode : generateNumeric 2 entropy = some ("100000", entropy.skip 8) := by
    refine (drawn 2 entropy _ _).2 ⟨1, 100000, by decide, ⟨?_, ?_⟩, by decide +kernel, rfl⟩
    · intro i hi m
      rw [Nat.lt_one_iff.1 hi, hfirst]
      exact fun h => absurd h.1 (by decide)
    · rw [hsecond]
      exact ⟨by decide, by decide⟩
  exact ⟨hcode, (formed 2 entropy _ _ hcode).2.2.2.2⟩

end Code

end SealedChat
