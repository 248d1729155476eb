import SealedChat.Proofs.Decimal
import SealedChat.Proofs.Settings.Layers

/-!
# What the environment overrides

A variable overrides a number if its text spells one that fits, with any number of leading zeros and perhaps a plus
(`Settings.Spells`); no text stands for two numbers, and none that is too great for another one. Overrides that have
taken place once take place again without effect (`overrides_exact`).
-/

namespace SealedChat

/-! ### Numbers in texts -/

/-- A text spells a number: behind a plus or nothing there are one or more figures, which it is the decimal value of. -/
def Settings.Spells (text : String) (n : Nat) : Prop :=
  ∃ figures : List Char, (text.toList = figures ∨ text.toList = '+' :: figures) ∧ figures ≠ [] ∧
    (∀ c ∈ figures, '0' ≤ c ∧ c ≤ '9') ∧ Nat.ofDigits 10 (figures.reverse.map fun c => c.toNat - '0'.toNat) = n

namespace Settings

variable {limit m n : Nat} {text : String}

/-- The two ways to spell a number do not meet, since a plus is no figure. -/
lemma parseNumber?_eq_some_iff : parseNumber? limit text = some n ↔ Spells text n ∧ n ≤ limit := by
  unfold parseNumber? Spells
  simp only [← Decimal.value_eq_ofDigits, Option.filter_eq_some_iff, decide_eq_true_iff, Decimal.parse?_eq_some_iff,
    and_congr_left_iff]
  intro _
  split
  · next rest htext =>
    rw [htext]
    constructor
    · intro h
      exact ⟨rest, .inr rfl, h⟩
    · rintro ⟨figures, hfigures | hfigures, hne, hall, hvalue⟩
      · subst hfigures
        exact absurd (hall '+' List.mem_cons_self) (by decide)
      · cases hfigures
        exact ⟨hne, hall, hvalue⟩
  · next figures hplus =>
    constructor
    · intro h
      exact ⟨text.toList, .inl rfl, h⟩
    · rintro ⟨figures, hfigures | hfigures, h⟩
      · rwa [hfigures]
      · exact absurd hfigures (hplus figures)

lemma Spells.unique (hm : Spells text m) (hn : Spells text n) : m = n := by
  have hm := parseNumber?_eq_some_iff.2 ⟨hm, Nat.le_max_left m n⟩
  have hn := parseNumber?_eq_some_iff.2 ⟨hn, Nat.le_max_right m n⟩
  exact Option.some.inj (hm.symm.trans hn)

/-- A number is spelled by its figures. -/
lemma spells_ofNat (n : Nat) : Spells (Decimal.ofNat n) n := by
  obtain ⟨hne, hall, hvalue⟩ := Decimal.parse?_eq_some_iff.1 (Decimal.parse?_figures n)
  exact ⟨Decimal.figures n, .inl (Decimal.toList_ofNat n), hne, hall, by rw [← Decimal.value_eq_ofDigits, hvalue]⟩

end Settings

/-! ### Numbers that are overridden -/

/-- The numbers among the settings that variables override. -/
inductive OverriddenNumber where
  | retryTimeout
  | maxRetries
  | searchAhead

namespace OverriddenNumber

/-- The variable that overrides the number. -/
def name : OverriddenNumber → String
  | .retryTimeout => "RCHAT_RETRY_TIMEOUT_SECS"
  | .maxRetries => "RCHAT_MAX_RETRIES"
  | .searchAhead => "RCHAT_SEARCH_AHEAD"

/-- How many numbers there are for the setting. -/
def size : OverriddenNumber → Nat
  | .maxRetries => 2 ^ 32
  | .retryTimeout | .searchAhead => 2 ^ 64

/-- The number as it is set. -/
def value : OverriddenNumber → Settings → Nat
  | .retryTimeout, settings => settings.session.retryTimeout.toNat
  | .maxRetries, settings => settings.session.maxRetries.toNat
  | .searchAhead, settings => settings.session.searchAhead.toNat

variable (number : OverriddenNumber) (settings : Settings) (env : Environment)

/-- A word is made of a number that fits, so it is this number. -/
lemma toNat_override {α : Type} {limit : Nat} {ofNat : Nat → α} {toNat : α → Nat} (h : ∀ n ≤ limit, toNat (ofNat n) = n)
    (env : Environment) (name : String) (old : α) :
    toNat (Settings.override env name (fun text => (Settings.parseNumber? limit text).map ofNat) old) =
      ((env name).bind (Settings.parseNumber? limit)).getD (toNat old) := by
  unfold Settings.override
  cases env name with
  | none => rfl
  | some text =>
    cases hnumber : Settings.parseNumber? limit text with
    | none => simp [hnumber]
    | some n => simp [hnumber, h n (Settings.parseNumber?_eq_some_iff.1 hnumber).2]

lemma value_overridden : number.value (settings.overridden env) =
    ((env number.name).bind (Settings.parseNumber? (number.size - 1))).getD (number.value settings) := by
  have hword : ∀ n ≤ 2 ^ 64 - 1, (UInt64.ofNat n).toNat = n := by
    intro n hn
    exact UInt64.toNat_ofNat_of_lt' (Nat.lt_of_le_sub_one (by decide) hn)
  have hhalfWord : ∀ n ≤ 2 ^ 32 - 1, (UInt32.ofNat n).toNat = n := by
    intro n hn
    exact UInt32.toNat_ofNat_of_lt' (Nat.lt_of_le_sub_one (by decide) hn)
  cases number with
  | retryTimeout => exact toNat_override hword env _ _
  | maxRetries => exact toNat_override hhalfWord env _ _
  | searchAhead => exact toNat_override hword env _ _

lemma size_pos : 0 < number.size := by
  cases number <;> decide

variable {number settings env} {text : String} {n : Nat}

/-- A number that is spelled takes effect if it fits. -/
lemma value_overridden_of_spells (htext : env number.name = some text) (hn : Settings.Spells text n) :
    number.value (settings.overridden env) = if n < number.size then n else number.value settings := by
  have hsize := number.size_pos
  rw [value_overridden, htext, Option.bind_some]
  split
  · next hlt => rw [Settings.parseNumber?_eq_some_iff.2 ⟨hn, Nat.le_sub_one_of_lt hlt⟩, Option.getD_some]
  · next hle =>
    cases hparse : Settings.parseNumber? (number.size - 1) text with
    | none => rfl
    | some m =>
      obtain ⟨hm, hfits⟩ := Settings.parseNumber?_eq_some_iff.1 hparse
      have hmn := hm.unique hn
      omega

/-- A text that spells no number has no effect. -/
lemma value_overridden_of_not_spells (h : ∀ text n, env number.name = some text → ¬ Settings.Spells text n) :
    number.value (settings.overridden env) = number.value settings := by
  rw [value_overridden]
  cases htext : env number.name with
  | none => rfl
  | some text =>
    cases hparse : Settings.parseNumber? (number.size - 1) text with
    | none => rw [Option.bind_some, hparse, Option.getD_none]
    | some m => exact absurd (Settings.parseNumber?_eq_some_iff.1 hparse).1 (h text m htext)

end OverriddenNumber

/-- A layer that is laid over settings twice is there once. -/
lemma Layer.fill_fill (layer : Layer) (below : Settings) : layer.fill (layer.fill below) = layer.fill below := by
  have getD_getD {α : Type} (upper : Option α) (lower : α) : upper.getD (upper.getD lower) = upper.getD lower := by
    cases upper <;> rfl
  simp only [fill, ClientLayer.fill, SessionLayer.fill, getD_getD]

/-- **The environment overrides exactly what its variables spell.** Overriding twice is overriding once. The two texts
are those of their variables, if these are set. A number is that of its variable if this spells one that fits, and it
stays as it was otherwise, also where the variable spells one that is too great; so every number that fits is had from
its figures. The four settings without a variable stay as they were. -/
theorem overrides_exact (settings : Settings) (env : Environment) :
    let overridden := settings.overridden env
    overridden.overridden env = overridden ∧
    overridden.client.logJson = settings.client.logJson ∧
    overridden.client.numericCodes = settings.client.numericCodes ∧
    overridden.session.searchBehind = settings.session.searchBehind ∧
    overridden.session.maxInbound = settings.session.maxInbound ∧
    overridden.client.username = (env "RCHAT_USERNAME").getD settings.client.username ∧
    overridden.client.logLevel = (env "RCHAT_LOG_LEVEL").getD settings.client.logLevel ∧
    ∀ number : OverriddenNumber,
      (∀ text n, env number.name = some text → Settings.Spells text n →
        number.value overridden = if n < number.size then n else number.value settings) ∧
      ((∀ text n, env number.name = some text → ¬ Settings.Spells text n) →
        number.value overridden = number.value settings) ∧
      ∀ n < number.size, env number.name = some (Decimal.ofNat n) → number.value overridden = n := by
  intro overridden
  have htwice : (settings.overridden env).overridden env = settings.overridden env := by
    simp only [Settings.overridden_eq, Layer.fill_fill]
  have htext (name old : String) : Settings.override env name some old = (env name).getD old := by
    unfold Settings.override
    rw [Option.bind_fun_some]
  refine ⟨htwice, rfl, rfl, rfl, rfl, htext _ _, htext _ _, ?_⟩
  intro number
  refine ⟨?_, OverriddenNumber.value_overridden_of_not_spells, ?_⟩
  · intro text n hname hn
    exact OverriddenNumber.value_overridden_of_spells hname hn
  · intro n hn hname
    rw [OverriddenNumber.value_overridden_of_spells hname (Settings.spells_ofNat n), if_pos hn]

/-- An environment with a number behind a plus and zeros, one that is a single step too great, and a sign alone. -/
def threeNumbers (name : String) : Option String :=
  if name = "RCHAT_MAX_RETRIES" then some "+007"
  else if name = "RCHAT_SEARCH_AHEAD" then some "18446744073709551616"
  else if name = "RCHAT_RETRY_TIMEOUT_SECS" then some "+"
  else none

/-- The first number takes effect, and the two others stay as they were. -/
theorem overrides_exact_three :
    OverriddenNumber.maxRetries.value (Settings.overridden {} threeNumbers) = 7 ∧
    OverriddenNumber.searchAhead.value (Settings.overridden {} threeNumbers) = 20 ∧
    OverriddenNumber.retryTimeout.value (Settings.overridden {} threeNumbers) = 2 := by
  obtain ⟨-, -, -, -, -, -, -, hnumbers⟩ := overrides_exact {} threeNumbers
  have hseven : Settings.parseNumber? 7 "+007" = some 7 := rfl
  have hgreat : Settings.parseNumber? (2 ^ 64) "18446744073709551616" = some (2 ^ 64) := rfl
  have hsign (n : Nat) : ¬ Settings.Spells "+" n := by
    rintro ⟨figures, hfigures | hfigures, hne, hall, -⟩
    · rw [← hfigures] at hall
      exact absurd (hall '+' (by decide)) (by decide)
    · cases hfigures
      exact hne rfl
  refine ⟨(hnumbers .maxRetries).1 _ 7 rfl (Settings.parseNumber?_eq_some_iff.1 hseven).1,
    (hnumbers .searchAhead).1 _ _ rfl (Settings.parseNumber?_eq_some_iff.1 hgreat).1, (hnumbers .retryTimeout).2.1 ?_⟩
  intro text n htext
  cases htext
  exact hsign n

end SealedChat
