import SealedChat.Json.Skip
import SealedChat.Proofs.Json.Numbers
import SealedChat.Proofs.Json.Texts
import SealedChat.Proofs.Lists

/-!
# The grammar of JSON

A value is a scalar, a list of values or a map of keys to values (`IsValue`). Lists and maps are parts between commas
(`Separated`), with any white space around them. Every value is skipped up to its end, however deep it is
(`IsValue.skipValue`).
-/

namespace SealedChat.Json

/-! ### White space -/

/-- White space. -/
def IsBlank (text : List Char) : Prop := ∀ c ∈ text, c = ' ' ∨ c = '\n' ∨ c = '\t' ∨ c = '\r'

lemma isBlank_nil : IsBlank [] := fun _ hc => absurd hc List.not_mem_nil

section Blanks

variable {blank text rest : List Char}

lemma skipBlanks_cons {c : Char} (h : ¬ (c = ' ' ∨ c = '\n' ∨ c = '\t' ∨ c = '\r')) (rest : List Char) :
    skipBlanks (c :: rest) = c :: rest := by
  rw [skipBlanks, if_neg h]

lemma IsBlank.skipBlanks_append (h : IsBlank blank) (text : List Char) :
    skipBlanks (blank ++ text) = skipBlanks text := by
  induction blank with
  | nil => rfl
  | cons c blank ih =>
    rw [List.cons_append, skipBlanks, if_pos (h c List.mem_cons_self), ih fun d hd => h d (List.mem_cons_of_mem c hd)]

lemma skipBlanks_skipBlanks (text : List Char) : skipBlanks (skipBlanks text) = skipBlanks text := by
  fun_induction skipBlanks text with
  | case1 c rest h ih => exact ih
  | case2 c rest h => exact skipBlanks_cons h rest
  | case3 => rfl

/-- A number ends in front of white space. -/
lemma IsBlank.endsNumber_append (h : IsBlank blank) (hrest : EndsNumber rest) : EndsNumber (blank ++ rest) := by
  cases blank with
  | nil => exact hrest
  | cons c blank =>
    rcases h c List.mem_cons_self with rfl | rfl | rfl | rfl <;>
      exact ⟨by decide, by decide, by decide, by decide⟩

end Blanks

/-! ### Values -/

/-- Values that hold no others. -/
inductive IsScalar : List Char → Prop
  | null : IsScalar ['n', 'u', 'l', 'l']
  | isTrue : IsScalar ['t', 'r', 'u', 'e']
  | isFalse : IsScalar ['f', 'a', 'l', 's', 'e']
  | number {text : List Char} (h : IsNumber text) : IsScalar text
  | negative {text : List Char} (h : IsNumber text) : IsScalar ('-' :: text)
  | text {text : List Char} (h : IsText text) : IsScalar text

/-- Parts with commas between them, and with white space around each. -/
inductive Separated : List (List Char) → List Char → Prop
  | none {blank : List Char} (h : IsBlank blank) : Separated [] blank
  | one {before part behind : List Char} (hbefore : IsBlank before) (hbehind : IsBlank behind) :
      Separated [part] (before ++ (part ++ behind))
  | more {before part behind next text : List Char} {parts : List (List Char)} (hbefore : IsBlank before)
      (hbehind : IsBlank behind) (h : Separated (next :: parts) text) :
      Separated (part :: next :: parts) (before ++ (part ++ (behind ++ ',' :: text)))

/-- A list of the given values. -/
def IsList (values : List (List Char)) (text : List Char) : Prop :=
  ∃ inner, Separated values inner ∧ text = '[' :: (inner ++ [']'])

/-- An entry of a map: a key and a value. -/
def IsEntry (entry : List Char × List Char) (text : List Char) : Prop :=
  IsText entry.1 ∧ ∃ before behind, IsBlank before ∧ IsBlank behind ∧
    text = entry.1 ++ (before ++ ':' :: (behind ++ entry.2))

/-- A map with the given entries. -/
def IsMap (entries : List (List Char × List Char)) (text : List Char) : Prop :=
  ∃ parts inner, List.Forall₂ IsEntry entries parts ∧ Separated parts inner ∧ text = '\x7b' :: (inner ++ ['\x7d'])

/-- A value. -/
inductive IsValue : List Char → Prop
  | scalar {text : List Char} (h : IsScalar text) : IsValue text
  | list {values : List (List Char)} {text : List Char} (h : IsList values text)
      (hvalues : ∀ value ∈ values, IsValue value) : IsValue text
  | map {entries : List (List Char × List Char)} {text : List Char} (h : IsMap entries text)
      (hvalues : ∀ entry ∈ entries, IsValue entry.2) : IsValue text

/-! ### First characters -/

/-- The text begins with a character that is neither white space nor a comma and closes no bracket. -/
def Opens (text : List Char) : Prop :=
  ∃ c rest, text = c :: rest ∧ ¬ (c = ' ' ∨ c = '\n' ∨ c = '\t' ∨ c = '\r') ∧ c ≠ ',' ∧ c ≠ ']' ∧ c ≠ '\x7d'

lemma opens_of_isFigure {c : Char} (hc : Decimal.isFigure c = true) (rest : List Char) : Opens (c :: rest) := by
  refine ⟨c, rest, rfl, ?_, ?_, ?_, ?_⟩
  · rintro (rfl | rfl | rfl | rfl) <;> exact absurd hc (by decide)
  all_goals
    rintro rfl
    exact absurd hc (by decide)

lemma IsNumber.exists_cons {text : List Char} (h : IsNumber text) :
    ∃ c rest, text = c :: rest ∧ Decimal.isFigure c = true := by
  obtain ⟨whole, fraction, exponent, hwhole, -, -, rfl⟩ := h
  obtain ⟨c, rest, rfl, hc⟩ := hwhole.1.exists_cons
  exact ⟨c, rest ++ (fraction ++ exponent), rfl, hc⟩

lemma IsText.opens {text : List Char} (h : IsText text) : Opens text := by
  obtain ⟨body, -, rfl⟩ := h
  exact ⟨'"', body ++ ['"'], rfl, by decide, by decide, by decide, by decide⟩

lemma IsValue.opens {text : List Char} (h : IsValue text) : Opens text := by
  cases h with
  | scalar h =>
    cases h with
    | null => exact ⟨_, _, rfl, by decide, by decide, by decide, by decide⟩
    | isTrue => exact ⟨_, _, rfl, by decide, by decide, by decide, by decide⟩
    | isFalse => exact ⟨_, _, rfl, by decide, by decide, by decide, by decide⟩
    | number h =>
      obtain ⟨c, rest, rfl, hc⟩ := h.exists_cons
      exact opens_of_isFigure hc rest
    | negative h => exact ⟨_, _, rfl, by decide, by decide, by decide, by decide⟩
    | text h => exact h.opens
  | list h _ =>
    obtain ⟨inner, -, rfl⟩ := h
    exact ⟨_, _, rfl, by decide, by decide, by decide, by decide⟩
  | map h _ =>
    obtain ⟨parts, inner, -, -, rfl⟩ := h
    exact ⟨_, _, rfl, by decide, by decide, by decide, by decide⟩

lemma IsEntry.opens {entry : List Char × List Char} {text : List Char} (h : IsEntry entry text) : Opens text := by
  obtain ⟨hkey, before, behind, -, -, rfl⟩ := h
  obtain ⟨c, rest, hcons, hc⟩ := hkey.opens
  exact ⟨c, _, by rw [hcons]; rfl, hc⟩

lemma Opens.skipBlanks_append {text : List Char} (h : Opens text) (rest : List Char) :
    skipBlanks (text ++ rest) = text ++ rest := by
  obtain ⟨c, text, rfl, hc, -⟩ := h
  exact skipBlanks_cons hc (text ++ rest)

/-- Parts between commas begin with the first of them. -/
lemma Separated.skipBlanks_append {part text : List Char} {parts : List (List Char)}
    (h : Separated (part :: parts) text) (hpart : Opens part) (rest : List Char) :
    ∃ behind, skipBlanks (text ++ rest) = part ++ behind := by
  cases h with
  | @one before _ behind hbefore _ =>
    refine ⟨behind ++ rest, ?_⟩
    rw [List.append_assoc, List.append_assoc, hbefore.skipBlanks_append, hpart.skipBlanks_append]
  | @more before _ behind next text parts hbefore _ _ =>
    refine ⟨behind ++ ',' :: text ++ rest, ?_⟩
    rw [List.append_assoc, List.append_assoc, hbefore.skipBlanks_append, hpart.skipBlanks_append]

/-! ### Skipping -/

/-- Goes on skipping behind a value, or behind a `fresh` bracket. -/
def skipBehind (fuel : Nat) (fresh : Bool) (brackets : List Bracket) (text : List Char) :
    Except Fault (List Char) := do
  match ← skipEnds fresh brackets text with
  | ([], rest) => return rest
  | (inner :: outer, rest) => skipFrom fuel (inner :: outer) (← skipKey inner rest)

lemma skipFrom_succ (fuel : Nat) (brackets : List Bracket) (text : List Char) :
    skipFrom (fuel + 1) brackets text = skipStart (skipBlanks text) >>= fun (bracket, rest) =>
      skipBehind fuel bracket.isSome (bracket.toList ++ brackets) rest := rfl

section Behind

variable {blank : List Char} (hblank : IsBlank blank) (fuel : Nat) (bracket : Bracket) (brackets : List Bracket)
  (text : List Char)

include hblank

lemma skipBehind_closing (fresh : Bool) :
    skipBehind fuel fresh (bracket :: brackets) (blank ++ bracket.closing :: text) =
      skipBehind fuel false brackets text := by
  have hclosing : skipBlanks (bracket.closing :: text) = bracket.closing :: text := by cases bracket <;> rfl
  unfold skipBehind
  rw [skipEnds, hblank.skipBlanks_append, hclosing]
  dsimp only
  rw [if_pos rfl]

lemma skipBehind_comma :
    skipBehind fuel false (bracket :: brackets) (blank ++ ',' :: text) =
      skipKey bracket text >>= skipFrom fuel (bracket :: brackets) := by
  have hcomma : ',' ≠ bracket.closing := by cases bracket <;> decide
  unfold skipBehind
  rw [skipEnds, hblank.skipBlanks_append, skipBlanks_cons (by decide)]
  dsimp only
  rw [if_neg hcomma, if_neg (by decide), if_pos rfl]
  rfl

end Behind

/-- What stands before a value is skipped together with white space in front of it. -/
lemma skipKey_skipBlanks (fuel : Nat) (bracket : Bracket) (brackets : List Bracket) (text : List Char) :
    (skipKey bracket (skipBlanks text) >>= skipFrom fuel brackets) =
      skipKey bracket text >>= skipFrom fuel brackets := by
  cases bracket with
  | sequence =>
    cases fuel with
    | zero => rfl
    | succ fuel =>
      show skipFrom (fuel + 1) brackets (skipBlanks text) = skipFrom (fuel + 1) brackets text
      rw [skipFrom_succ, skipFrom_succ, skipBlanks_skipBlanks]
  | map => rw [skipKey, skipKey, skipBlanks_skipBlanks]

lemma skipBehind_fresh (fuel : Nat) (bracket : Bracket) (brackets : List Bracket) {part text rest : List Char}
    {parts : List (List Char)} (h : Separated (part :: parts) text) (hpart : Opens part) :
    skipBehind fuel true (bracket :: brackets) (text ++ rest) =
      skipKey bracket (text ++ rest) >>= skipFrom fuel (bracket :: brackets) := by
  obtain ⟨behind, hbehind⟩ := h.skipBlanks_append hpart rest
  obtain ⟨c, part, rfl, -, -, hsequence, hmap⟩ := hpart
  have hc : c ≠ bracket.closing := by cases bracket <;> assumption
  rw [← skipKey_skipBlanks]
  unfold skipBehind
  rw [skipEnds, hbehind]
  dsimp only [List.cons_append]
  rw [if_neg hc, if_pos rfl]
  rfl

/-- The value is skipped, wherever it stands. -/
def Skips (text : List Char) : Prop :=
  ∃ count, count ≤ text.length ∧ ∀ fuel brackets blank rest, IsBlank blank → EndsNumber rest →
    skipFrom (fuel + count) brackets (blank ++ (text ++ rest)) = skipBehind fuel false brackets rest

/-- The part of what the bracket holds is skipped, wherever it stands there. -/
def SkipsIn (bracket : Bracket) (part : List Char) : Prop :=
  ∃ count, count ≤ part.length ∧ ∀ fuel brackets blank rest, IsBlank blank → EndsNumber rest →
    (skipKey bracket (blank ++ (part ++ rest)) >>= skipFrom (fuel + count) (bracket :: brackets)) =
      skipBehind fuel false (bracket :: brackets) rest

lemma IsText.exists_cons {key : List Char} (h : IsText key) :
    ∃ body, key = '"' :: body ∧ ∀ rest, skipText (body ++ rest) = .ok rest := by
  obtain ⟨body, hbody, rfl⟩ := h
  refine ⟨body ++ ['"'], rfl, ?_⟩
  intro rest
  rw [List.append_assoc]
  exact hbody.skipText rest

lemma skipColon_append {blank : List Char} (h : IsBlank blank) (text : List Char) :
    skipColon (blank ++ ':' :: text) = .ok text := by
  unfold skipColon
  rw [h.skipBlanks_append, skipBlanks_cons (by decide)]
  rfl

lemma IsText.skipKey {blank key : List Char} (h : IsText key) (hblank : IsBlank blank) (rest : List Char) :
    skipKey .map (blank ++ (key ++ rest)) = skipColon rest := by
  obtain ⟨body, rfl, hskip⟩ := h.exists_cons
  rw [Json.skipKey, hblank.skipBlanks_append, List.cons_append, skipBlanks_cons (by decide)]
  show Json.skipText (body ++ rest) >>= skipColon = _
  rw [hskip]
  rfl

lemma skipStart_isFigure {c : Char} (hc : Decimal.isFigure c = true) (rest : List Char) :
    skipStart (c :: rest) = (skipNumber (c :: rest)).map (none, ·) := by
  rw [skipStart, if_pos hc]
  all_goals
    rintro rfl
    exact absurd hc (by decide)

lemma IsScalar.skipStart {text rest : List Char} (h : IsScalar text) (hrest : EndsNumber rest) :
    skipStart (text ++ rest) = .ok (none, rest) := by
  cases h with
  | null => rfl
  | isTrue => rfl
  | isFalse => rfl
  | number h =>
    have hskip := h.skipNumber hrest
    obtain ⟨c, text, rfl, hc⟩ := h.exists_cons
    rw [List.cons_append, skipStart_isFigure hc, ← List.cons_append, hskip]
    rfl
  | negative h => rw [List.cons_append, Json.skipStart, h.skipNumber hrest]; rfl
  | text h =>
    obtain ⟨body, rfl, hskip⟩ := h.exists_cons
    rw [List.cons_append, Json.skipStart, hskip]
    rfl

lemma IsScalar.skips {text : List Char} (h : IsScalar text) : Skips text := by
  have hopens := (IsValue.scalar h).opens
  refine ⟨1, ?_, ?_⟩
  · obtain ⟨c, text, rfl, -⟩ := hopens
    exact Nat.succ_pos _
  · intro fuel brackets blank rest hblank hrest
    rw [skipFrom_succ, hblank.skipBlanks_append, hopens.skipBlanks_append, h.skipStart hrest]
    rfl

lemma Skips.skipsIn {text : List Char} (h : Skips text) : SkipsIn .sequence text := by
  obtain ⟨count, hcount, hskip⟩ := h
  refine ⟨count, hcount, ?_⟩
  intro fuel brackets blank rest hblank hrest
  exact hskip fuel _ blank rest hblank hrest

lemma Skips.entry {entry : List Char × List Char} {text : List Char} (h : Skips entry.2) (hentry : IsEntry entry text) :
    SkipsIn .map text := by
  obtain ⟨count, hcount, hskip⟩ := h
  obtain ⟨hkey, before, behind, hbefore, hbehind, rfl⟩ := hentry
  refine ⟨count, ?_, ?_⟩
  · simp only [List.length_append, List.length_cons]
    omega
  · intro fuel brackets blank rest hblank hrest
    simp only [List.append_assoc, List.cons_append]
    rw [hkey.skipKey hblank, skipColon_append hbefore]
    exact hskip fuel _ behind rest hbehind hrest

/-- The induction is on the parts, each of which is followed by a comma or by the closing bracket. -/
lemma Separated.skips {parts : List (List Char)} {text : List Char} {bracket : Bracket} (h : Separated parts text)
    (hne : parts ≠ []) (hparts : ∀ part ∈ parts, SkipsIn bracket part) :
    ∃ count, count ≤ text.length ∧ ∀ fuel brackets rest,
      (skipKey bracket (text ++ bracket.closing :: rest) >>= skipFrom (fuel + count) (bracket :: brackets)) =
        skipBehind fuel false brackets rest := by
  have hclosing (rest : List Char) : EndsNumber (bracket.closing :: rest) := by
    cases bracket <;> exact ⟨by decide, by decide, by decide, by decide⟩
  induction h with
  | none => exact absurd rfl hne
  | @one before part behind hbefore hbehind =>
    obtain ⟨count, hcount, hskip⟩ := hparts part List.mem_cons_self
    refine ⟨count, ?_, ?_⟩
    · simp only [List.length_append]
      omega
    · intro fuel brackets rest
      rw [List.append_assoc, List.append_assoc,
        hskip fuel brackets before _ hbefore (hbehind.endsNumber_append (hclosing rest)),
        skipBehind_closing hbehind]
  | @more before part behind next text parts hbefore hbehind _ ih =>
    obtain ⟨count, hcount, hskip⟩ := hparts part List.mem_cons_self
    obtain ⟨count', hcount', hskip'⟩ :=
      ih (List.cons_ne_nil _ _) fun part hpart => hparts part (List.mem_cons_of_mem _ hpart)
    refine ⟨count' + count, ?_, ?_⟩
    · simp only [List.length_append, List.length_cons]
      omega
    · intro fuel brackets rest
      have hcomma : EndsNumber (',' :: (text ++ bracket.closing :: rest)) :=
        ⟨by decide, by decide, by decide, by decide⟩
      rw [List.append_assoc, List.append_assoc, List.append_assoc, List.cons_append, ← Nat.add_assoc,
        hskip _ brackets before _ hbefore (hbehind.endsNumber_append hcomma), skipBehind_comma hbehind,
        hskip' fuel brackets rest]

/-- What a bracket holds is skipped together with the bracket. -/
lemma Separated.skips_bracket {parts : List (List Char)} {text : List Char} (h : Separated parts text)
    (bracket : Bracket) {opening : Char} (hstart : ∀ rest, skipStart (opening :: rest) = .ok (some bracket, rest))
    (hopening : ¬ (opening = ' ' ∨ opening = '\n' ∨ opening = '\t' ∨ opening = '\r'))
    (hopens : ∀ part ∈ parts, Opens part) (hparts : ∀ part ∈ parts, SkipsIn bracket part) :
    Skips (opening :: (text ++ [bracket.closing])) := by
  have hfirst (fuel : Nat) (brackets : List Bracket) (blank rest : List Char) (hblank : IsBlank blank) :
      skipFrom (fuel + 1) brackets (blank ++ (opening :: (text ++ [bracket.closing]) ++ rest)) =
        skipBehind fuel true (bracket :: brackets) (text ++ bracket.closing :: rest) := by
    rw [skipFrom_succ, hblank.skipBlanks_append, List.cons_append, skipBlanks_cons hopening, hstart, List.append_assoc]
    rfl
  cases parts with
  | nil =>
    cases h with
    | none hblank =>
      refine ⟨1, Nat.succ_pos _, ?_⟩
      intro fuel brackets blank rest hblank' _
      rw [hfirst fuel brackets blank rest hblank', skipBehind_closing hblank]
  | cons part parts =>
    obtain ⟨count, hcount, hskip⟩ := h.skips (List.cons_ne_nil _ _) hparts
    refine ⟨count + 1, ?_, ?_⟩
    · simp only [List.length_append, List.length_cons]
      omega
    · intro fuel brackets blank rest hblank _
      rw [← Nat.add_assoc, hfirst _ brackets blank rest hblank,
        skipBehind_fresh _ bracket brackets h (hopens part List.mem_cons_self), hskip fuel brackets rest]

/-- The induction is on how the value is made of others. -/
lemma IsValue.skips {text : List Char} (h : IsValue text) : Skips text := by
  induction h with
  | scalar h => exact h.skips
  | list h hvalues ih =>
    obtain ⟨inner, hinner, rfl⟩ := h
    exact hinner.skips_bracket .sequence (fun _ => rfl) (by decide) (fun value hvalue => (hvalues value hvalue).opens)
      fun value hvalue => (ih value hvalue).skipsIn
  | map h _ ih =>
    obtain ⟨parts, inner, hentries, hinner, rfl⟩ := h
    have hparts : ∀ part ∈ parts, ∃ entry, IsEntry entry part ∧ Skips entry.2 := by
      intro part hpart
      obtain ⟨entry, hentry, h⟩ := exists_mem_of_forall₂ hentries part hpart
      exact ⟨entry, h, ih entry hentry⟩
    refine hinner.skips_bracket .map (fun _ => rfl) (by decide) ?_ ?_
    · intro part hpart
      obtain ⟨entry, hentry, -⟩ := hparts part hpart
      exact hentry.opens
    · intro part hpart
      obtain ⟨entry, hentry, hskips⟩ := hparts part hpart
      exact hskips.entry hentry

/-- **A value is skipped up to its end**, however deep it is and whatever follows it. -/
theorem IsValue.skipValue {blank text rest : List Char} (h : IsValue text) (hblank : IsBlank blank)
    (hrest : EndsNumber rest) : skipValue (blank ++ (text ++ rest)) = .ok rest := by
  obtain ⟨count, hcount, hskip⟩ := h.skips
  have hlength : (blank ++ (text ++ rest)).length + 1 =
      (blank ++ (text ++ rest)).length + 1 - count + count := by
    simp only [List.length_append]
    omega
  unfold Json.skipValue
  rw [hlength, hskip _ [] blank rest hblank hrest]
  rfl

end SealedChat.Json
