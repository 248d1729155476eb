import SealedChat.Json.Record
import SealedChat.Proofs.Json.Grammar

/-!
# Readers of one value

Readers of texts, truth values and numbers take one value of any kind from the front of a text, or refuse it. What they
find does not hang on what stands around the value (`Reader.TakesValue`), so it can be told from the value alone
(`Reader.result`).
-/

namespace SealedChat.Json

/-! ### Kinds of values -/

/-- The first character of a value tells its kind. -/
structure ValueKind (c : Char) (rest : List Char) : Prop where
  isTrue : c = 't' → rest = ['r', 'u', 'e']
  isFalse : c = 'f' → rest = ['a', 'l', 's', 'e']
  number : Decimal.isFigure c = true → IsNumber (c :: rest)
  negative : c = '-' → IsNumber rest
  text : c = '"' → IsText (c :: rest)
  list : c = '[' → ∃ values, IsList values (c :: rest) ∧ ∀ value ∈ values, IsValue value
  map : c = '\x7b' → ∃ entries, IsMap entries (c :: rest) ∧ ∀ entry ∈ entries, IsValue entry.2

lemma IsValue.kind {c : Char} {rest : List Char} (h : IsValue (c :: rest)) : ValueKind c rest := by
  cases h with
  | scalar h =>
    cases h with
    | null =>
      constructor
      all_goals exact fun h => absurd h (by decide)
    | isTrue =>
      constructor
      case isTrue => exact fun _ => rfl
      all_goals exact fun h => absurd h (by decide)
    | isFalse =>
      constructor
      case isFalse => exact fun _ => rfl
      all_goals exact fun h => absurd h (by decide)
    | number h =>
      obtain ⟨d, _, heq, hd⟩ := h.exists_cons
      obtain rfl := List.head_eq_of_cons_eq heq
      constructor
      case number => exact fun _ => h
      all_goals
        rintro rfl
        exact absurd hd (by decide)
    | negative h =>
      constructor
      case negative => exact fun _ => h
      all_goals exact fun h => absurd h (by decide)
    | text h =>
      obtain ⟨_, _, heq⟩ := id h
      obtain rfl := List.head_eq_of_cons_eq heq
      constructor
      case text => exact fun _ => h
      all_goals exact fun h => absurd h (by decide)
  | @list values _ h hvalues =>
    obtain ⟨_, _, heq⟩ := id h
    obtain rfl := List.head_eq_of_cons_eq heq
    constructor
    case list => exact fun _ => ⟨values, h, hvalues⟩
    all_goals exact fun h => absurd h (by decide)
  | @map entries _ h hentries =>
    obtain ⟨_, _, _, _, heq⟩ := id h
    obtain rfl := List.head_eq_of_cons_eq heq
    constructor
    case map => exact fun _ => ⟨entries, h, hentries⟩
    all_goals exact fun h => absurd h (by decide)

/-! ### Readers that take one value -/

section Reader

variable {α β : Type}

/-- What a reader finds where a text holds one value and nothing else. -/
def Reader.result (reader : Reader α) (text : List Char) : Except Fault α := (reader text).map Prod.fst

/-- The reader takes one value from the front of a text, or refuses it. What it finds does not hang on what stands
around the value. -/
def Reader.TakesValue (reader : Reader α) : Prop :=
  ∀ text, IsValue text → ∃ result : Except Fault α, ∀ blank rest, IsBlank blank → EndsNumber rest →
    reader (blank ++ (text ++ rest)) = result.map (·, rest)

lemma map_fst_map (result : Except Fault α) (rest : List Char) : (result.map (·, rest)).map Prod.fst = result := by
  cases result <;> rfl

lemma Reader.TakesValue.eq {reader : Reader α} (h : reader.TakesValue) {blank text rest : List Char}
    (htext : IsValue text) (hblank : IsBlank blank) (hrest : EndsNumber rest) :
    reader (blank ++ (text ++ rest)) = (reader.result text).map (·, rest) := by
  obtain ⟨result, hresult⟩ := h text htext
  have halone := hresult [] [] isBlank_nil trivial
  rw [List.nil_append, List.append_nil] at halone
  unfold Reader.result
  rw [hresult blank rest hblank hrest, halone, map_fst_map]

end Reader

/-- The fault of a value of a wrong kind does not hang on what follows the value. -/
lemma IsValue.wrongKind {text rest : List Char} (h : IsValue text) (expected : String) (hrest : EndsNumber rest) :
    wrongKind expected (text ++ rest) = wrongKind expected text := by
  cases h with
  | scalar h =>
    cases h with
    | null | isTrue | isFalse => rfl
    | number h =>
      obtain ⟨result, hresult⟩ := h.readNumber true
      have halone := hresult [] trivial
      rw [List.append_nil] at halone
      obtain ⟨c, text, rfl, hc⟩ := h.exists_cons
      rw [List.cons_append, Json.wrongKind, Json.wrongKind, if_pos hc, if_pos hc, ← List.cons_append,
        hresult rest hrest, halone]
      · cases result <;> rfl
      all_goals
        rintro rfl
        exact absurd hc (by decide)
    | negative h =>
      obtain ⟨result, hresult⟩ := h.readNumber false
      have halone := hresult [] trivial
      rw [List.append_nil] at halone
      rw [List.cons_append, Json.wrongKind, Json.wrongKind, hresult rest hrest, halone]
      cases result <;> rfl
    | text h =>
      obtain ⟨body, hbody, rfl⟩ := h
      obtain ⟨result, hresult⟩ := hbody.readText
      rw [List.cons_append, List.append_assoc, Json.wrongKind, Json.wrongKind, List.singleton_append, hresult rest,
        hresult []]
      cases result <;> rfl
  | list h _ =>
    obtain ⟨inner, _, rfl⟩ := h
    rfl
  | map h _ =>
    obtain ⟨parts, inner, _, _, rfl⟩ := h
    rfl

lemma IsValue.skipBlanks_append {blank text : List Char} (h : IsValue text) (hblank : IsBlank blank)
    (rest : List Char) : skipBlanks (blank ++ (text ++ rest)) = text ++ rest := by
  rw [hblank.skipBlanks_append, h.opens.skipBlanks_append]

theorem readString_takesValue : readString.TakesValue := by
  intro text h
  obtain ⟨c, text, rfl, -⟩ := h.opens
  by_cases hc : c = '"'
  · obtain ⟨body, hbody, heq⟩ := h.kind.text hc
    obtain ⟨result, hresult⟩ := hbody.readText
    refine ⟨result, ?_⟩
    intro blank rest hblank _
    unfold readString
    rw [h.skipBlanks_append hblank, heq, List.cons_append, List.append_assoc]
    exact hresult rest
  · refine ⟨.error (wrongKind "a string" (c :: text)), ?_⟩
    intro blank rest hblank hrest
    unfold readString
    rw [h.skipBlanks_append hblank, List.cons_append]
    split
    · next heq => cases heq
    · next heq => exact absurd (List.head_eq_of_cons_eq heq) hc
    · rw [← List.cons_append, h.wrongKind "a string" hrest]
      rfl

theorem readBool_takesValue : readBool.TakesValue := by
  intro text h
  obtain ⟨c, text, rfl, -⟩ := h.opens
  by_cases htrue : c = 't'
  · obtain rfl := h.kind.isTrue htrue
    refine ⟨.ok true, ?_⟩
    intro blank rest hblank _
    unfold readBool
    rw [h.skipBlanks_append hblank, htrue]
    rfl
  · by_cases hfalse : c = 'f'
    · obtain rfl := h.kind.isFalse hfalse
      refine ⟨.ok false, ?_⟩
      intro blank rest hblank _
      unfold readBool
      rw [h.skipBlanks_append hblank, hfalse]
      rfl
    · refine ⟨.error (wrongKind "a boolean" (c :: text)), ?_⟩
      intro blank rest hblank hrest
      unfold readBool
      rw [h.skipBlanks_append hblank, List.cons_append]
      split
      · next heq => cases heq
      · next heq => exact absurd (List.head_eq_of_cons_eq heq) htrue
      · next heq => exact absurd (List.head_eq_of_cons_eq heq) hfalse
      · rw [← List.cons_append, h.wrongKind "a boolean" hrest]
        rfl

section Natural

variable (limit : Nat) (expected : String)

lemma toNatural_map (result : Except Fault Number) (rest : List Char) :
    (result.map (·, rest) >>= fun (number, rest) => do return (← number.toNatural limit expected, rest)) =
      (result.bind (·.toNatural limit expected)).map (·, rest) := by
  cases result with
  | error fault => rfl
  | ok number =>
    show (number.toNatural limit expected >>= fun n => pure (n, rest)) = (number.toNatural limit expected).map (·, rest)
    cases number.toNatural limit expected <;> rfl

/-- A number without a sign is read as it is. -/
lemma readNatural_of_isFigure {text rest : List Char} {c : Char} (h : skipBlanks text = c :: rest)
    (hc : Decimal.isFigure c = true) :
    readNatural limit expected text =
      readNumber true (c :: rest) >>= fun (number, rest) => do return (← number.toNatural limit expected, rest) := by
  unfold readNatural
  rw [h]
  split
  · next heq => cases heq
  · next heq =>
    obtain rfl := List.head_eq_of_cons_eq heq
    exact absurd hc (by decide)
  · next heq =>
    cases heq
    rw [if_pos hc]

theorem readNatural_takesValue : (readNatural limit expected).TakesValue := by
  intro text h
  obtain ⟨c, text, rfl, -⟩ := h.opens
  by_cases hsign : c = '-'
  · obtain ⟨result, hresult⟩ := (h.kind.negative hsign).readNumber false
    refine ⟨result.bind (·.toNatural limit expected), ?_⟩
    intro blank rest hblank hrest
    unfold readNatural
    rw [h.skipBlanks_append hblank, hsign, List.cons_append, ← toNatural_map, ← hresult rest hrest]
    rfl
  · by_cases hfigure : Decimal.isFigure c = true
    · obtain ⟨result, hresult⟩ := (h.kind.number hfigure).readNumber true
      refine ⟨result.bind (·.toNatural limit expected), ?_⟩
      intro blank rest hblank hrest
      rw [readNatural_of_isFigure limit expected (h.skipBlanks_append hblank rest) hfigure]
      show readNumber true (c :: text ++ rest) >>= _ = _
      rw [hresult rest hrest, toNatural_map]
    · refine ⟨.error (wrongKind expected (c :: text)), ?_⟩
      intro blank rest hblank hrest
      unfold readNatural
      rw [h.skipBlanks_append hblank, List.cons_append]
      split
      · next heq => cases heq
      · next heq => exact absurd (List.head_eq_of_cons_eq heq) hsign
      · next heq =>
        cases heq
        rw [if_neg hfigure, ← List.cons_append, h.wrongKind expected hrest]
        rfl

end Natural

end SealedChat.Json
