import SealedChat.Proofs.Json.Readers
import SealedChat.Settings.Format

/-!
# Values that are read back

Texts, truth values and natural numbers are read from what is written of them.
-/

namespace SealedChat.Json

/-! ### Texts and truth values -/

lemma Quoted.isValue {text : String} {written : List Char} (h : Quoted text written) : IsValue written :=
  .scalar (.text h.isText)

theorem Quoted.readString {text : String} {written : List Char} (h : Quoted text written) :
    readString.result written = .ok text := by
  obtain ⟨body, hbody, rfl⟩ := h
  show (readText (body ++ ['"'])).map Prod.fst = .ok text
  rw [hbody.readText []]
  rfl

lemma isValue_writeBool (b : Bool) : IsValue (writeBool b) := by
  cases b with
  | true => exact .scalar .isTrue
  | false => exact .scalar .isFalse

theorem readBool_writeBool (b : Bool) : readBool.result (writeBool b) = .ok b := by
  cases b <;> rfl

/-! ### Numbers -/

lemma isNumber_figures (n : Nat) : IsNumber (Decimal.figures n) := by
  refine ⟨Decimal.figures n, [], [], ⟨isFigures_figures n, ?_⟩, .inl rfl, .inl rfl, (List.append_nil _).symm⟩
  intro hhead
  rcases Nat.eq_zero_or_pos n with rfl | hpos
  · rw [Decimal.figures]
    rfl
  · obtain ⟨c, text, htext, hc⟩ := Decimal.figures_eq_cons hpos
    rw [htext] at hhead
    exact absurd (Option.some.inj hhead) hc

lemma isValue_figures (n : Nat) : IsValue (Decimal.figures n) := .scalar (.number (isNumber_figures n))

/-- Figures are collected up to their end if the number that they stand for fits. -/
lemma collect_append {text rest : List Char} (htext : text.all Decimal.isFigure) (hrest : startsWithFigure rest = false)
    {high : Nat} (hfits : Decimal.valueFrom high text ≤ greatestNatural) (taken : Nat) :
    collect high taken (text ++ rest) = (Decimal.valueFrom high text, taken + text.length, rest) := by
  induction text generalizing high taken with
  | nil =>
    cases rest with
    | nil => rfl
    | cons c rest =>
      have hc : ¬ Decimal.isFigure c = true := Bool.eq_false_iff.1 hrest
      rw [List.nil_append, collect, if_neg hc]
      rfl
  | cons c text ih =>
    rw [List.all_cons, Bool.and_eq_true] at htext
    have hnext : 10 * high + (c.toNat - 48) ≤ greatestNatural := Nat.le_trans (Decimal.le_valueFrom _ text) hfits
    rw [List.cons_append, collect, if_pos htext.1]
    dsimp only
    rw [if_pos hnext, ih htext.2 hfits, List.length_cons, Nat.add_assoc, Nat.add_comm 1]
    rfl

/-- A number that fits 64 bits is read from its figures. -/
lemma readNumber_figures {n : Nat} (hfits : n ≤ greatestNatural) {rest : List Char} (hrest : EndsNumber rest) :
    readNumber true (Decimal.figures n ++ rest) = .ok (.natural (UInt64.ofNat n), rest) := by
  rcases Nat.eq_zero_or_pos n with rfl | hpos
  · -- a zero stands alone
    have hzero : Decimal.figures 0 = ['0'] := by
      rw [Decimal.figures]
      rfl
    rw [hzero, List.singleton_append, readNumber, if_neg (Bool.eq_false_iff.1 hrest.startsWithFigure),
      hrest.endInteger]
  · obtain ⟨c, text, htext, hc⟩ := Decimal.figures_eq_cons hpos
    have hall := Decimal.all_isFigure_figures n
    have hvalue := Decimal.value_figures n
    rw [htext, List.all_cons, Bool.and_eq_true] at hall
    rw [htext, Decimal.value, Decimal.valueFrom, List.foldl_cons, Nat.mul_zero, Nat.zero_add] at hvalue
    rw [htext, List.cons_append, readNumber]
    · rw [collect_append hall.2 hrest.startsWithFigure (by unfold Decimal.valueFrom; rwa [hvalue])]
      dsimp only
      rw [hall.1, hrest.startsWithFigure, Decimal.valueFrom, hvalue]
      exact hrest.endInteger n
    · exact hc

theorem readNatural_figures {limit n : Nat} (hlimit : limit ≤ greatestNatural) (hn : n ≤ limit) (kind : String) :
    (readNatural limit kind).result (Decimal.figures n) = .ok n := by
  have hnumber := @readNumber_figures n (Nat.le_trans hn hlimit) [] trivial
  have hword : (UInt64.ofNat n).toNat = n :=
    UInt64.toNat_ofNat_of_lt' (Nat.lt_of_le_of_lt (Nat.le_trans hn hlimit) (by decide))
  have hskip := (isValue_figures n).opens.skipBlanks_append []
  obtain ⟨c, text, htext, hc⟩ := (isNumber_figures n).exists_cons
  rw [List.append_nil, htext] at hnumber hskip
  show (readNatural limit kind (Decimal.figures n)).map Prod.fst = .ok n
  rw [htext, readNatural_of_isFigure limit kind hskip hc, hnumber]
  simp only [bind, Except.bind, Number.toNatural, hword, if_pos hn, pure, Except.pure]
  rfl

end SealedChat.Json
