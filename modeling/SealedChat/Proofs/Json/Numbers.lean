import SealedChat.Json.Number
import SealedChat.Proofs.Decimal

/-!
# Numbers

A number is made of the figures before its point, a fraction and an exponent (`IsNumber`). It ends in front of what does
not go on with one of these (`EndsNumber`): it is skipped up to there (`IsNumber.skipNumber`), and what is read of it
does not hang on what follows (`IsNumber.readNumber`).
-/

namespace SealedChat.Json

/-! ### Grammar -/

/-- One or more figures. -/
def IsFigures (text : List Char) : Prop := text ≠ [] ∧ ∀ c ∈ text, '0' ≤ c ∧ c ≤ '9'

/-- The figures before the point of a number. A zero at the front stands alone. -/
def IsWhole (text : List Char) : Prop := IsFigures text ∧ (text.head? = some '0' → text = ['0'])

/-- A point and the figures behind it, or nothing. -/
def IsFraction (text : List Char) : Prop := text = [] ∨ ∃ figures, IsFigures figures ∧ text = '.' :: figures

/-- The figures of an exponent behind its letter and its sign, or nothing. -/
def IsExponent (text : List Char) : Prop :=
  text = [] ∨ ∃ letter sign figures, (letter = 'e' ∨ letter = 'E') ∧ (sign = [] ∨ sign = ['+'] ∨ sign = ['-']) ∧
    IsFigures figures ∧ text = letter :: (sign ++ figures)

/-- A number behind its sign. -/
def IsNumber (text : List Char) : Prop :=
  ∃ whole fraction exponent, IsWhole whole ∧ IsFraction fraction ∧ IsExponent exponent ∧
    text = whole ++ (fraction ++ exponent)

/-! ### Ends -/

/-- A number ends in front of the text. -/
def EndsNumber : List Char → Prop
  | [] => True
  | c :: _ => Decimal.isFigure c = false ∧ c ≠ '.' ∧ c ≠ 'e' ∧ c ≠ 'E'

lemma EndsNumber.startsWithFigure {rest : List Char} (h : EndsNumber rest) : startsWithFigure rest = false := by
  cases rest with
  | nil => rfl
  | cons c rest => exact h.1

lemma EndsNumber.endInteger {rest : List Char} (h : EndsNumber rest) (n : Nat) :
    endInteger true n rest = .ok (.natural (UInt64.ofNat n), rest) := by
  unfold Json.endInteger
  split
  · exact absurd rfl h.2.1
  · exact absurd rfl h.2.2.1
  · exact absurd rfl h.2.2.2
  · rfl

lemma IsFigures.isFigure {text : List Char} (h : IsFigures text) : ∀ c ∈ text, Decimal.isFigure c = true :=
  fun c hc => Decimal.isFigure_iff.2 (h.2 c hc)

lemma isFigures_figures (n : Nat) : IsFigures (Decimal.figures n) := by
  refine ⟨Decimal.figures_ne_nil n, ?_⟩
  intro c hc
  exact Decimal.isFigure_iff.1 (List.all_eq_true.1 (Decimal.all_isFigure_figures n) c hc)

lemma IsFigures.exists_cons {text : List Char} (h : IsFigures text) :
    ∃ c rest, text = c :: rest ∧ Decimal.isFigure c = true := by
  obtain ⟨c, rest, rfl⟩ := List.exists_cons_of_ne_nil h.1
  exact ⟨c, rest, rfl, h.isFigure c List.mem_cons_self⟩

lemma IsExponent.startsWithFigure {text rest : List Char} (h : IsExponent text) (hrest : EndsNumber rest) :
    startsWithFigure (text ++ rest) = false := by
  rcases h with rfl | ⟨letter, sign, figures, hletter, -, -, rfl⟩
  · exact hrest.startsWithFigure
  · rcases hletter with rfl | rfl <;> rfl

lemma IsExponent.ne_point {text rest : List Char} (h : IsExponent text) (hrest : EndsNumber rest)
    (behind : List Char) : text ++ rest ≠ '.' :: behind := by
  rcases h with rfl | ⟨letter, sign, figures, hletter, -, -, rfl⟩
  · rintro rfl
    exact hrest.2.1 rfl
  · rcases hletter with rfl | rfl <;> exact fun heq => absurd (List.head_eq_of_cons_eq heq) (by decide)

lemma IsFraction.startsWithFigure {text exponent rest : List Char} (h : IsFraction text)
    (hexponent : IsExponent exponent) (hrest : EndsNumber rest) :
    startsWithFigure (text ++ (exponent ++ rest)) = false := by
  rcases h with rfl | ⟨figures, -, rfl⟩
  · exact hexponent.startsWithFigure hrest
  · rfl

section Figures

variable {text rest : List Char}

lemma dropWhile_isFigure (hrest : startsWithFigure rest = false) : rest.dropWhile Decimal.isFigure = rest := by
  cases rest with
  | nil => rfl
  | cons c rest => exact List.dropWhile_cons_of_neg (Bool.eq_false_iff.1 hrest)

lemma takeWhile_isFigure (hrest : startsWithFigure rest = false) : rest.takeWhile Decimal.isFigure = [] := by
  cases rest with
  | nil => rfl
  | cons c rest => exact List.takeWhile_cons_of_neg (Bool.eq_false_iff.1 hrest)

lemma skipFigures_append (htext : ∀ c ∈ text, Decimal.isFigure c = true) (hrest : startsWithFigure rest = false) :
    skipFigures (text ++ rest) = rest := by
  unfold skipFigures
  rw [List.dropWhile_append_of_pos htext, dropWhile_isFigure hrest]

lemma takeWhile_append_isFigure (htext : ∀ c ∈ text, Decimal.isFigure c = true)
    (hrest : startsWithFigure rest = false) : (text ++ rest).takeWhile Decimal.isFigure = text := by
  rw [List.takeWhile_append_of_pos htext, takeWhile_isFigure hrest, List.append_nil]

end Figures

/-! ### Skipping -/

lemma IsFigures.skipExponentFigures {text rest : List Char} (h : IsFigures text)
    (hrest : startsWithFigure rest = false) : skipExponentFigures (text ++ rest) = .ok rest := by
  unfold Json.skipExponentFigures
  rw [skipFigures_append h.isFigure hrest]
  obtain ⟨c, text, rfl, hc⟩ := h.exists_cons
  exact if_pos hc

/-- A figure is no sign. -/
lemma ne_sign_of_isFigure {c : Char} (h : Decimal.isFigure c = true) : c ≠ '+' ∧ c ≠ '-' := by
  constructor
  · rintro rfl
    exact absurd h (by decide)
  · rintro rfl
    exact absurd h (by decide)

lemma IsExponent.skipExponent {text rest : List Char} (h : IsExponent text) (hrest : EndsNumber rest) :
    skipExponent (text ++ rest) = .ok rest := by
  rcases h with rfl | ⟨letter, sign, figures, hletter, hsign, hfigures, rfl⟩
  · rw [List.nil_append]
    unfold Json.skipExponent
    split <;> first | rfl | exact absurd rfl hrest.2.2.1 | exact absurd rfl hrest.2.2.2
  · have hskip := hfigures.skipExponentFigures hrest.startsWithFigure
    obtain ⟨c, figures, rfl, hc⟩ := hfigures.exists_cons
    have hsigned := ne_sign_of_isFigure hc
    rcases hsign with rfl | rfl | rfl
    · -- without a sign the figures stand right behind the letter
      rw [← hskip]
      rcases hletter with rfl | rfl
      · exact Json.skipExponent.eq_5 _ (fun _ h => hsigned.1 (List.head_eq_of_cons_eq h))
          (fun _ h => hsigned.2 (List.head_eq_of_cons_eq h))
      · exact Json.skipExponent.eq_6 _ (fun _ h => hsigned.1 (List.head_eq_of_cons_eq h))
          (fun _ h => hsigned.2 (List.head_eq_of_cons_eq h))
    · rcases hletter with rfl | rfl <;> exact hskip
    · rcases hletter with rfl | rfl <;> exact hskip

lemma IsFraction.skipFraction {text exponent rest : List Char} (h : IsFraction text) (hexponent : IsExponent exponent)
    (hrest : EndsNumber rest) : skipFraction (text ++ (exponent ++ rest)) = .ok rest := by
  have hskip := hexponent.skipExponent hrest
  rcases h with rfl | ⟨figures, hfigures, rfl⟩
  · rw [List.nil_append]
    unfold Json.skipFraction
    split
    · next heq => exact absurd heq (hexponent.ne_point hrest _)
    · exact hskip
  · have hfollow := hexponent.startsWithFigure hrest
    rw [List.cons_append, Json.skipFraction, skipFigures_append hfigures.isFigure hfollow]
    obtain ⟨c, figures, rfl, hc⟩ := hfigures.exists_cons
    exact (if_pos hc).trans hskip

/-- **A number is skipped up to its end.** -/
theorem IsNumber.skipNumber {text rest : List Char} (h : IsNumber text) (hrest : EndsNumber rest) :
    skipNumber (text ++ rest) = .ok rest := by
  obtain ⟨whole, fraction, exponent, hwhole, hfraction, hexponent, rfl⟩ := h
  have hfollow := hfraction.startsWithFigure hexponent hrest
  have hskip := hfraction.skipFraction hexponent hrest
  have hfigures := hwhole.1.isFigure
  obtain ⟨c, figures, rfl, hc⟩ := hwhole.1.exists_cons
  rw [List.append_assoc, List.append_assoc]
  by_cases hzero : c = '0'
  · subst hzero
    obtain rfl : figures = [] := List.tail_eq_of_cons_eq (hwhole.2 rfl)
    rw [List.singleton_append, Json.skipNumber, if_neg (Bool.eq_false_iff.1 hfollow)]
    exact hskip
  · rw [List.cons_append, Json.skipNumber, if_pos hc]
    · rw [skipFigures_append (List.forall_mem_cons.1 hfigures).2 hfollow]
      exact hskip
    · exact hzero

/-! ### Reading -/

/-- What is read of a text does not hang on what follows it, as long as no number goes on there. -/
def Reader.Resumes {α : Type} (reader : Reader α) (text : List Char) : Prop :=
  ∃ result : Except Fault α, ∀ rest, EndsNumber rest → reader (text ++ rest) = result.map (·, rest)

section Reading

variable (positive : Bool) (significand : Nat) (exponent : Int)

lemma IsFigures.readExponentFigures {text : List Char} (h : IsFigures text) (up : Bool) :
    (readExponentFigures positive significand exponent up).Resumes text := by
  obtain ⟨c, figures, hcons, hc⟩ := h.exists_cons
  refine ⟨if greatestExponent < Decimal.value text then
      if significand ≠ 0 ∧ up then .error .numberOutOfRange else .ok (.real (if positive then 0 else -0))
    else realOfParts positive significand (max (-(greatestExponent : Int) - 1) (min greatestExponent
      (if up then exponent + Decimal.value text else exponent - Decimal.value text))), ?_⟩
  intro rest hrest
  unfold Json.readExponentFigures
  rw [takeWhile_append_isFigure h.isFigure hrest.startsWithFigure, skipFigures_append h.isFigure hrest.startsWithFigure,
    hcons, List.cons_append]
  dsimp only
  rw [hc, apply_ite (Except.map _), apply_ite (Except.map _)]
  rfl

lemma IsFigures.readExponent {sign figures : List Char} (hfigures : IsFigures figures)
    (hsign : sign = [] ∨ sign = ['+'] ∨ sign = ['-']) :
    (readExponent positive significand exponent).Resumes (sign ++ figures) := by
  rcases hsign with rfl | rfl | rfl
  · obtain ⟨result, hresult⟩ := hfigures.readExponentFigures positive significand exponent true
    refine ⟨result, ?_⟩
    intro rest hrest
    rw [← hresult rest hrest]
    -- without a sign the figures stand right behind the letter
    obtain ⟨c, figures, rfl, hc⟩ := hfigures.exists_cons
    have hsigned := ne_sign_of_isFigure hc
    exact Json.readExponent.eq_3 _ _ _ _ (fun _ h => hsigned.1 (List.head_eq_of_cons_eq h))
      (fun _ h => hsigned.2 (List.head_eq_of_cons_eq h))
  · exact hfigures.readExponentFigures positive significand exponent true
  · exact hfigures.readExponentFigures positive significand exponent false

lemma IsExponent.endReal {text : List Char} (h : IsExponent text) :
    (endReal positive significand exponent).Resumes text := by
  rcases h with rfl | ⟨letter, sign, figures, hletter, hsign, hfigures, rfl⟩
  · refine ⟨realOfParts positive significand exponent, ?_⟩
    intro rest hrest
    rw [List.nil_append]
    unfold Json.endReal
    split
    · exact absurd rfl hrest.2.2.1
    · exact absurd rfl hrest.2.2.2
    · rfl
  · have hresumes := hfigures.readExponent positive significand exponent hsign
    rcases hletter with rfl | rfl <;> exact hresumes

end Reading

/-- Figures are collected as far as they fit, whatever follows them. -/
lemma collect_isFigure {text : List Char} (htext : ∀ c ∈ text, Decimal.isFigure c = true) (high taken : Nat) :
    ∃ significand count left, (∀ c ∈ left, Decimal.isFigure c = true) ∧ count + left.length = text.length ∧
      ∀ rest, startsWithFigure rest = false →
        collect high taken (text ++ rest) = (significand, taken + count, left ++ rest) := by
  induction text generalizing high taken with
  | nil =>
    refine ⟨high, 0, [], htext, rfl, ?_⟩
    intro rest hrest
    cases rest with
    | nil => rfl
    | cons c rest => exact if_neg (Bool.eq_false_iff.1 hrest)
  | cons c text ih =>
    have hc := List.forall_mem_cons.1 htext
    by_cases hfits : 10 * high + (c.toNat - 48) ≤ greatestNatural
    · obtain ⟨significand, count, left, hleft, hcount, hcollect⟩ :=
        ih hc.2 (10 * high + (c.toNat - 48)) (taken + 1)
      refine ⟨significand, count + 1, left, hleft, by rw [List.length_cons]; omega, ?_⟩
      intro rest hrest
      rw [List.cons_append, collect, if_pos hc.1]
      dsimp only
      rw [if_pos hfits, hcollect rest hrest, Nat.add_right_comm, Nat.add_assoc]
    · refine ⟨high, 0, c :: text, htext, Nat.zero_add _, ?_⟩
      intro rest _
      rw [List.cons_append, collect, if_pos hc.1]
      dsimp only
      rw [if_neg hfits, Nat.add_zero]

section Reading

variable (positive : Bool) (significand : Nat) (exponent : Int)

lemma IsFigures.readFraction {figures text : List Char} (hfigures : IsFigures figures) (htext : IsExponent text) :
    (readFraction positive significand exponent).Resumes (figures ++ text) := by
  obtain ⟨significand', count, left, hleft, hcount, hcollect⟩ := collect_isFigure hfigures.isFigure significand 0
  obtain ⟨result, hresult⟩ := htext.endReal positive significand' (exponent - count)
  refine ⟨result, ?_⟩
  intro rest hrest
  have hfollow := htext.startsWithFigure hrest
  unfold Json.readFraction
  rw [List.append_assoc, hcollect _ hfollow]
  dsimp only
  rw [Nat.zero_add, ← hresult rest hrest]
  cases left with
  | nil =>
    have hlength := List.length_pos_iff.2 hfigures.1
    rw [List.length_nil] at hcount
    rw [List.nil_append, if_neg (Bool.eq_false_iff.1 hfollow), if_neg (by omega)]
  | cons c left =>
    have hc : startsWithFigure (c :: left ++ (text ++ rest)) = true := hleft c List.mem_cons_self
    rw [skipFigures_append hleft hfollow, if_pos hc]

lemma IsExponent.endInteger {text : List Char} (h : IsExponent text) :
    (endInteger positive significand).Resumes text := by
  rcases h with rfl | ⟨letter, sign, figures, hletter, hsign, hfigures, rfl⟩
  · refine ⟨if positive then .ok (.natural (UInt64.ofNat significand))
      else if 0 < significand ∧ significand ≤ 2 ^ 63 then .ok (.negative (Int64.ofInt (-(significand : Int))))
      else .ok (.real (-(UInt64.ofNat significand).toFloat)), ?_⟩
    intro rest hrest
    rw [List.nil_append, apply_ite (Except.map _), apply_ite (Except.map _)]
    unfold Json.endInteger
    split
    · exact absurd rfl hrest.2.1
    · exact absurd rfl hrest.2.2.1
    · exact absurd rfl hrest.2.2.2
    · rfl
  · have hresumes := hfigures.readExponent positive significand 0 hsign
    rcases hletter with rfl | rfl <;> exact hresumes

variable {text text' : List Char}

lemma IsFraction.endInteger (h : IsFraction text) (h' : IsExponent text') :
    (endInteger positive significand).Resumes (text ++ text') := by
  rcases h with rfl | ⟨figures, hfigures, rfl⟩
  · exact h'.endInteger positive significand
  · exact hfigures.readFraction positive significand 0 h'

lemma IsFraction.endLongInteger {figures : List Char} (hfigures : ∀ c ∈ figures, Decimal.isFigure c = true)
    (h : IsFraction text) (h' : IsExponent text') :
    (endLongInteger positive significand).Resumes (figures ++ (text ++ text')) := by
  rcases h with rfl | ⟨figures', hfigures', rfl⟩
  · obtain ⟨result, hresult⟩ := h'.endReal positive significand figures.length
    refine ⟨result, ?_⟩
    intro rest hrest
    have hfollow := h'.startsWithFigure hrest
    unfold Json.endLongInteger
    rw [List.nil_append, List.append_assoc, takeWhile_append_isFigure hfigures hfollow,
      skipFigures_append hfigures hfollow]
    dsimp only
    split
    · next heq => exact absurd heq (h'.ne_point hrest _)
    · exact hresult rest hrest
  · obtain ⟨result, hresult⟩ := hfigures'.readFraction positive significand figures.length h'
    refine ⟨result, ?_⟩
    intro rest hrest
    have hfollow : Json.startsWithFigure ('.' :: (figures' ++ text') ++ rest) = false := rfl
    unfold Json.endLongInteger
    rw [List.append_assoc, List.cons_append, takeWhile_append_isFigure hfigures hfollow,
      skipFigures_append hfigures hfollow]
    exact hresult rest hrest

end Reading

/-- **What is read of a number does not hang on what follows it.** -/
theorem IsNumber.readNumber {text : List Char} (h : IsNumber text) (positive : Bool) :
    (readNumber positive).Resumes text := by
  obtain ⟨whole, fraction, exponent, hwhole, hfraction, hexponent, rfl⟩ := h
  have hfigures := hwhole.1.isFigure
  obtain ⟨c, figures, rfl, hc⟩ := hwhole.1.exists_cons
  by_cases hzero : c = '0'
  · subst hzero
    obtain rfl : figures = [] := List.tail_eq_of_cons_eq (hwhole.2 rfl)
    obtain ⟨result, hresult⟩ := hfraction.endInteger positive 0 hexponent
    refine ⟨result, ?_⟩
    intro rest hrest
    have hfollow := hfraction.startsWithFigure hexponent hrest
    rw [List.singleton_append, List.cons_append, Json.readNumber, List.append_assoc,
      if_neg (Bool.eq_false_iff.1 hfollow), ← List.append_assoc]
    exact hresult rest hrest
  · obtain ⟨significand, count, left, hleft, -, hcollect⟩ :=
      collect_isFigure (List.forall_mem_cons.1 hfigures).2 (c.toNat - 48) 0
    cases left with
    | nil =>
      obtain ⟨result, hresult⟩ := hfraction.endInteger positive significand hexponent
      refine ⟨result, ?_⟩
      intro rest hrest
      have hfollow := hfraction.startsWithFigure hexponent hrest
      rw [List.append_assoc, List.append_assoc, List.cons_append, Json.readNumber, hcollect _ hfollow]
      · have hend := hresult rest hrest
        rw [List.append_assoc] at hend
        rw [hc]
        exact (if_neg (Bool.eq_false_iff.1 hfollow)).trans hend
      · exact hzero
    | cons d left =>
      -- these figures do not fit
      obtain ⟨result, hresult⟩ := hfraction.endLongInteger positive significand hleft hexponent
      refine ⟨result, ?_⟩
      intro rest hrest
      have hfollow := hfraction.startsWithFigure hexponent hrest
      have hd : startsWithFigure (d :: left ++ (fraction ++ (exponent ++ rest))) = true := hleft d List.mem_cons_self
      rw [List.append_assoc, List.append_assoc, List.cons_append, Json.readNumber, hcollect _ hfollow]
      · have hend := hresult rest hrest
        rw [List.append_assoc, List.append_assoc] at hend
        rw [hc]
        exact (if_pos hd).trans hend
      · exact hzero

end SealedChat.Json
