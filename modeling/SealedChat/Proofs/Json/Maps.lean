import Mathlib.Data.List.Forall2
import SealedChat.Proofs.Json.Readers

/-!
# Records in JSON

A record is read from a map entry by entry, each value on its own (`Schema.gather`), and from a list element by element
(`Schema.line`): where the entries and elements stand and how they are spaced does not matter (`Schema.read_map`,
`Schema.read_list`). So a record is a value that can stand anywhere itself (`Schema.read_takesValue`).
-/

namespace SealedChat.Json

variable {α β : Type}

/-- A quoted text is read behind its first quote. -/
lemma IsText.readText {text : List Char} (h : IsText text) :
    ∃ body, text = '"' :: body ∧ ∀ rest, EndsNumber rest →
      readText (body ++ rest) = (readString.result text).map (·, rest) := by
  obtain ⟨body, _, rfl⟩ := id h
  refine ⟨body ++ ['"'], rfl, ?_⟩
  intro rest hrest
  exact readString_takesValue.eq (.scalar (.text h)) isBlank_nil hrest

/-- There are as many parts as characters at most. -/
lemma Separated.length_le {parts : List (List Char)} {text : List Char} (h : Separated parts text)
    (hopens : ∀ part ∈ parts, Opens part) : parts.length ≤ text.length := by
  induction h with
  | none => exact Nat.zero_le _
  | one =>
    obtain ⟨c, part, rfl, -⟩ := hopens _ List.mem_cons_self
    simp only [List.length_cons, List.length_append, List.length_nil]
    omega
  | more _ _ _ ih =>
    have hlength := ih fun part hpart => hopens part (List.mem_cons_of_mem _ hpart)
    rw [List.length_cons]
    simp only [List.length_cons, List.length_append] at hlength ⊢
    omega

/-- Entries between commas begin with the quote of a key. -/
lemma Separated.skipBlanks_quote {entries : List (List Char × List Char)} {part text : List Char}
    {parts : List (List Char)} (h : Separated (part :: parts) text)
    (hentries : List.Forall₂ IsEntry entries (part :: parts)) (rest : List Char) :
    ∃ behind, skipBlanks (text ++ rest) = '"' :: behind := by
  obtain _ | ⟨hentry, -⟩ := hentries
  obtain ⟨behind, hskip⟩ := h.skipBlanks_append hentry.opens rest
  obtain ⟨⟨body, -, hkey⟩, before, behind', -, -, rfl⟩ := hentry
  rw [hkey] at hskip
  exact ⟨_, hskip⟩

lemma Reader.TakesValue.field {reader : Reader β} (h : reader.TakesValue) (name : String) (put : α → β → α)
    (record : α) : ((Field.of name reader put).read record).TakesValue := by
  intro text htext
  obtain ⟨result, hresult⟩ := h text htext
  refine ⟨result.map (put record), ?_⟩
  intro blank rest hblank hrest
  show (reader (blank ++ (text ++ rest))).map _ = _
  rw [hresult blank rest hblank hrest]
  cases result <;> rfl

lemma Field.result_of (name : String) (reader : Reader β) (put : α → β → α) (record : α) (text : List Char) :
    ((Field.of name reader put).read record).result text = (reader.result text).map (put record) := by
  show ((reader text).map _).map _ = ((reader text).map _).map _
  cases reader text <;> rfl

namespace Schema

variable (schema : Schema α)

/-- Every field takes one value. -/
def TakesValues : Prop := ∀ field ∈ schema.fields, ∀ record, (field.read record).TakesValue

/-! ### Maps -/

/-- What an entry of a map makes of a record in which the fields `state.1` have been read. -/
def turn (state : List String × α) (entry : List Char × List Char) : Except Fault (List String × α) := do
  let name ← readString.result entry.1
  match schema.fields.find? (·.name == name) with
  | some field =>
    if state.1.contains name then throw (.duplicateField name)
    return (name :: state.1, ← (field.read state.2).result entry.2)
  | none => return state

/-- The record of the entries of a map. -/
def gather (entries : List (List Char × List Char)) : Except Fault α :=
  (entries.foldlM schema.turn ([], schema.default)).map Prod.snd

section Entries

variable {schema} (seen : List String) (record : α)

lemma readEntry_of_key (hschema : schema.TakesValues) {entry : List Char × List Char}
    {text before behind rest : List Char} (hbefore : IsBlank before) (hbehind : IsBlank behind)
    (hvalue : IsValue entry.2) (hrest : EndsNumber rest)
    (hkey : readText text =
      (readString.result entry.1).map (·, before ++ ':' :: (behind ++ (entry.2 ++ rest)))) :
    schema.readEntry seen record text =
      (schema.turn (seen, record) entry).map fun state => (state.1, state.2, rest) := by
  unfold readEntry turn
  rw [hkey]
  cases readString.result entry.1 with
  | error fault => rfl
  | ok name =>
    simp only [Except.map, bind, Except.bind]
    cases hfield : schema.fields.find? (·.name == name) with
    | none =>
      dsimp only
      rw [skipColon_append hbefore]
      dsimp only
      rw [hvalue.skipValue hbehind hrest]
      rfl
    | some field =>
      dsimp only
      by_cases hseen : seen.contains name = true
      · rw [if_pos hseen, if_pos hseen]
        rfl
      · have htakes := hschema field (List.mem_of_find?_eq_some hfield) record
        rw [if_neg hseen, if_neg hseen, skipColon_append hbefore]
        dsimp only
        rw [htakes.eq hvalue hbehind hrest]
        cases (field.read record).result entry.2 <;> rfl

/-- An entry is read behind the first quote of its key. -/
lemma readEntry_eq (hschema : schema.TakesValues) {entry : List Char × List Char} {part : List Char}
    (hentry : IsEntry entry part) (hvalue : IsValue entry.2) :
    ∃ body, part = '"' :: body ∧ ∀ seen record rest, EndsNumber rest → schema.readEntry seen record (body ++ rest) =
      (schema.turn (seen, record) entry).map fun state => (state.1, state.2, rest) := by
  obtain ⟨hkey, before, behind, hbefore, hbehind, rfl⟩ := hentry
  obtain ⟨body, hcons, hread⟩ := hkey.readText
  refine ⟨body ++ (before ++ ':' :: (behind ++ entry.2)), by rw [hcons]; rfl, ?_⟩
  intro seen record rest hrest
  refine readEntry_of_key seen record hschema hbefore hbehind hvalue hrest ?_
  rw [List.append_assoc, List.append_assoc, List.cons_append, List.append_assoc]
  exact hread _ (hbefore.endsNumber_append ⟨by decide, by decide, by decide, by decide⟩)

section Entry

variable {blank behind text : List Char} (fuel : Nat)

/-- The first entry is read at once, and then the others. -/
lemma readEntries_first (h : skipBlanks text = '"' :: behind) :
    schema.readEntries (fuel + 1) true seen record text =
      schema.readEntry seen record behind >>= fun (seen, record, rest) =>
        schema.readEntries fuel false seen record rest := by
  rw [readEntries, h]
  rfl

/-- Behind a comma entries are read as at the start. -/
lemma readEntries_comma (hblank : IsBlank blank) (h : skipBlanks text = '"' :: behind) :
    schema.readEntries (fuel + 1) false seen record (blank ++ ',' :: text) =
      schema.readEntries (fuel + 1) true seen record text := by
  rw [readEntries_first seen record fuel h, readEntries, hblank.skipBlanks_append, skipBlanks_cons (by decide)]
  split
  · next heq => cases heq
  · next heq => exact absurd (List.head_eq_of_cons_eq heq) (by decide)
  · next heq =>
    cases heq
    rw [if_neg (by decide), if_pos rfl, h]
    rfl

lemma readEntries_end (hblank : IsBlank blank) (first : Bool) :
    schema.readEntries (fuel + 1) first seen record (blank ++ '\x7d' :: text) = .ok (record, text) := by
  rw [readEntries, hblank.skipBlanks_append, skipBlanks_cons (by decide)]
  rfl

lemma readEntries_entry (hschema : schema.TakesValues) {entry : List Char × List Char} {before part rest : List Char}
    (hentry : IsEntry entry part) (hvalue : IsValue entry.2) (hbefore : IsBlank before) (hrest : EndsNumber rest) :
    schema.readEntries (fuel + 1) true seen record (before ++ (part ++ rest)) =
      schema.turn (seen, record) entry >>= fun state => schema.readEntries fuel false state.1 state.2 rest := by
  obtain ⟨body, rfl, hread⟩ := readEntry_eq hschema hentry hvalue
  have hfirst : skipBlanks (before ++ ('"' :: body ++ rest)) = '"' :: (body ++ rest) := by
    rw [hbefore.skipBlanks_append, List.cons_append, skipBlanks_cons (by decide)]
  rw [readEntries_first seen record fuel hfirst, hread seen record rest hrest]
  cases schema.turn (seen, record) entry <;> rfl

end Entry

/-- The induction is on the entries, each of which is followed by a comma or by the end of the map. -/
lemma readEntries_eq (hschema : schema.TakesValues) {entries : List (List Char × List Char)}
    {parts : List (List Char)} {text : List Char} (hparts : List.Forall₂ IsEntry entries parts)
    (h : Separated parts text) (hvalues : ∀ entry ∈ entries, IsValue entry.2) {fuel : Nat}
    (hfuel : entries.length ≤ fuel) (seen : List String) (record : α) (rest : List Char) :
    schema.readEntries (fuel + 1) true seen record (text ++ '\x7d' :: rest) =
      (entries.foldlM schema.turn (seen, record)).map fun state => (state.2, rest) := by
  induction h generalizing entries fuel seen record with
  | none hblank =>
    cases hparts
    exact readEntries_end seen record fuel hblank true
  | @one before part behind hbefore hbehind =>
    obtain _ | ⟨hentry, _ | _⟩ := hparts
    obtain ⟨fuel, rfl⟩ := Nat.exists_eq_add_of_le' hfuel
    have hend : EndsNumber ('\x7d' :: rest) := ⟨by decide, by decide, by decide, by decide⟩
    rw [List.append_assoc, List.append_assoc, List.foldlM_cons,
      readEntries_entry seen record _ hschema hentry (hvalues _ List.mem_cons_self) hbefore
        (hbehind.endsNumber_append hend)]
    cases schema.turn (seen, record) _ with
    | error fault => rfl
    | ok state => exact readEntries_end state.1 state.2 fuel hbehind false
  | @more before part behind next text parts hbefore hbehind htext ih =>
    cases hparts with
    | @cons entry _ entries _ hentry hparts =>
      rw [List.length_cons] at hfuel
      obtain ⟨fuel, rfl⟩ := Nat.exists_eq_succ_of_ne_zero (Nat.ne_zero_of_lt hfuel)
      have hcomma : EndsNumber (',' :: (text ++ '\x7d' :: rest)) := ⟨by decide, by decide, by decide, by decide⟩
      rw [List.append_assoc, List.append_assoc, List.append_assoc, List.cons_append, List.foldlM_cons,
        readEntries_entry seen record _ hschema hentry (hvalues _ List.mem_cons_self) hbefore
          (hbehind.endsNumber_append hcomma)]
      cases schema.turn (seen, record) entry with
      | error fault => rfl
      | ok state =>
        obtain ⟨quoted, hquoted⟩ := htext.skipBlanks_quote hparts ('\x7d' :: rest)
        have hvalues : ∀ entry ∈ entries, IsValue entry.2 := fun entry h => hvalues entry (List.mem_cons_of_mem _ h)
        show schema.readEntries (fuel + 1) false state.1 state.2 _ = _
        rw [readEntries_comma state.1 state.2 fuel hbehind hquoted,
          ih hparts hvalues (Nat.le_of_succ_le_succ hfuel)]
        rfl

end Entries

variable {schema}

/-- **A record is read from a map by its entries**, however they are spaced. -/
theorem read_map (hschema : schema.TakesValues) {entries : List (List Char × List Char)} {text : List Char}
    (h : IsMap entries text) (hvalues : ∀ entry ∈ entries, IsValue entry.2) {blank : List Char}
    (hblank : IsBlank blank) (rest : List Char) :
    schema.read (blank ++ (text ++ rest)) = (schema.gather entries).map (·, rest) := by
  obtain ⟨parts, inner, hparts, hinner, rfl⟩ := h
  have hlength : entries.length ≤ (inner ++ ['\x7d'] ++ rest).length := by
    have hle := hinner.length_le fun part hpart =>
      let ⟨_, _, hentry⟩ := exists_mem_of_forall₂ hparts part hpart
      hentry.opens
    rw [← hparts.length_eq] at hle
    simp only [List.length_append]
    omega
  have hread := readEntries_eq hschema hparts hinner hvalues hlength [] schema.default rest
  unfold read gather
  rw [hblank.skipBlanks_append, List.cons_append, skipBlanks_cons (by decide)]
  show schema.readEntries _ true [] schema.default _ = _
  rw [List.append_assoc, List.singleton_append] at hread ⊢
  rw [hread]
  cases entries.foldlM schema.turn ([], schema.default) <;> rfl

/-! ### Lists -/

/-- The record of the values of a list, the given fields one after another. -/
def line : List (Field α) → α → List (List Char) → Except Fault α
  | _, record, [] => .ok record
  | [], _, _ :: _ => .error .trailingCharacters
  | field :: fields, record, value :: values => do line fields (← (field.read record).result value) values

section Elements

variable {fields : List (Field α)} {record : α} {blank text rest : List Char}

lemma readElements_end (hblank : IsBlank blank) (first : Bool) :
    readElements first fields record (blank ++ ']' :: rest) = .ok (record, rest) := by
  have hskip : skipBlanks (blank ++ ']' :: rest) = ']' :: rest := by
    rw [hblank.skipBlanks_append, skipBlanks_cons (by decide)]
  cases fields with
  | nil =>
    unfold readElements readSequenceEnd
    rw [hskip]
    rfl
  | cons field fields =>
    unfold readElements
    rw [hskip]
    rfl

lemma readSequenceEnd_value {c : Char} {behind : List Char} (h : skipBlanks text = c :: behind)
    (hc : c ≠ ',' ∧ c ≠ ']') : readSequenceEnd record text = .error .trailingCharacters := by
  unfold readSequenceEnd
  rw [h]
  split
  · next heq => cases heq
  · next heq => exact absurd (List.head_eq_of_cons_eq heq) hc.2
  · next heq => exact absurd (List.head_eq_of_cons_eq heq) hc.1
  · rfl

lemma readElements_first {field : Field α} {c : Char} {behind : List Char} (h : skipBlanks text = c :: behind)
    (hc : c ≠ ']') :
    readElements true (field :: fields) record text =
      field.read record (c :: behind) >>= fun (record, rest) => readElements false fields record rest := by
  rw [readElements, h]
  split
  · next heq => cases heq
  · next heq => exact absurd (List.head_eq_of_cons_eq heq) hc
  · next heq =>
    cases heq
    rfl

/-- Behind a comma elements are read as at the start. -/
lemma readElements_comma (hblank : IsBlank blank) {c : Char} {behind : List Char} (h : skipBlanks text = c :: behind)
    (hc : c ≠ ',' ∧ c ≠ ']') :
    readElements false fields record (blank ++ ',' :: text) = readElements true fields record text := by
  have hskip : skipBlanks (blank ++ ',' :: text) = ',' :: text := by
    rw [hblank.skipBlanks_append, skipBlanks_cons (by decide)]
  cases fields with
  | nil =>
    rw [readElements, readElements, readSequenceEnd_value h hc, readSequenceEnd, hskip]
    split
    · next heq => cases heq
    · next heq => exact absurd (List.head_eq_of_cons_eq heq) (by decide)
    · next heq =>
      obtain rfl := List.tail_eq_of_cons_eq heq
      rw [h]
      split
      · next heq => exact absurd (List.head_eq_of_cons_eq heq) hc.2
      · rfl
    · rfl
  | cons field fields =>
    rw [readElements_first h hc.2, readElements, hskip]
    split
    · next heq => cases heq
    · next heq => exact absurd (List.head_eq_of_cons_eq heq) (by decide)
    · next heq =>
      cases heq
      rw [if_neg (by decide), if_pos rfl, h]
      split
      · next heq => cases heq
      · next heq => exact absurd (List.head_eq_of_cons_eq heq) hc.2
      · rfl

lemma readElements_value {field : Field α} {before value : List Char}
    (hfield : ∀ record, (field.read record).TakesValue) (hvalue : IsValue value) (hbefore : IsBlank before)
    (hrest : EndsNumber rest) :
    readElements true (field :: fields) record (before ++ (value ++ rest)) =
      (field.read record).result value >>= fun record => readElements false fields record rest := by
  have hskip := hvalue.skipBlanks_append hbefore rest
  have hread := (hfield record).eq hvalue isBlank_nil hrest
  obtain ⟨c, value, rfl, -, -, hc, -⟩ := hvalue.opens
  rw [readElements_first hskip hc]
  show field.read record ([] ++ (c :: value ++ rest)) >>= _ = _
  rw [hread]
  cases (field.read record).result (c :: value) <;> rfl

/-- The list is too long. -/
lemma readElements_left {before value : List Char} (hvalue : IsValue value) (hbefore : IsBlank before) :
    readElements true [] record (before ++ (value ++ rest)) = .error .trailingCharacters := by
  have hskip := hvalue.skipBlanks_append hbefore rest
  obtain ⟨c, value, rfl, -, hcomma, hclosing, -⟩ := hvalue.opens
  rw [readElements]
  exact readSequenceEnd_value hskip ⟨hcomma, hclosing⟩

/-- The induction is on the values, each of which is followed by a comma or by the end of the list. -/
lemma readElements_eq {values : List (List Char)} (h : Separated values text)
    (hvalues : ∀ value ∈ values, IsValue value)
    (hfields : ∀ field ∈ fields, ∀ record, (field.read record).TakesValue) (record : α) (rest : List Char) :
    readElements true fields record (text ++ ']' :: rest) = (line fields record values).map (·, rest) := by
  induction h generalizing fields record with
  | none hblank =>
    rw [readElements_end hblank, line]
    rfl
  | @one before value behind hbefore hbehind =>
    have hvalue := hvalues value List.mem_cons_self
    have hend : EndsNumber (']' :: rest) := ⟨by decide, by decide, by decide, by decide⟩
    rw [List.append_assoc, List.append_assoc]
    cases fields with
    | nil => exact readElements_left hvalue hbefore
    | cons field fields =>
      rw [readElements_value (hfields field List.mem_cons_self) hvalue hbefore (hbehind.endsNumber_append hend), line]
      cases (field.read record).result value with
      | error fault => rfl
      | ok record =>
        show readElements false fields record _ = (line fields record []).map _
        rw [readElements_end hbehind, line]
        rfl
  | @more before value behind next text values hbefore hbehind htext ih =>
    have hvalue := hvalues value List.mem_cons_self
    have hcomma : EndsNumber (',' :: (text ++ ']' :: rest)) := ⟨by decide, by decide, by decide, by decide⟩
    rw [List.forall_mem_cons] at hvalues
    rw [List.append_assoc, List.append_assoc, List.append_assoc, List.cons_append]
    cases fields with
    | nil => exact readElements_left hvalue hbefore
    | cons field fields =>
      rw [List.forall_mem_cons] at hfields
      rw [readElements_value hfields.1 hvalue hbefore (hbehind.endsNumber_append hcomma), line]
      cases (field.read record).result value with
      | error fault => rfl
      | ok record =>
        have hopens := (hvalues.2 next List.mem_cons_self).opens
        obtain ⟨rest', hskip⟩ := htext.skipBlanks_append hopens (']' :: rest)
        obtain ⟨c, next, rfl, -, hc, hc', -⟩ := hopens
        show readElements false fields record _ = _
        rw [readElements_comma hbehind hskip ⟨hc, hc'⟩]
        exact ih hvalues.2 hfields.2 record

end Elements

/-- **A record is read from a list by its values**, however they are spaced. -/
theorem read_list (hschema : schema.TakesValues) {values : List (List Char)} {text : List Char}
    (h : IsList values text) (hvalues : ∀ value ∈ values, IsValue value) {blank : List Char}
    (hblank : IsBlank blank) (rest : List Char) :
    schema.read (blank ++ (text ++ rest)) = (line schema.fields schema.default values).map (·, rest) := by
  obtain ⟨inner, hinner, rfl⟩ := h
  unfold read
  rw [hblank.skipBlanks_append, List.cons_append, skipBlanks_cons (by decide), List.append_assoc]
  exact readElements_eq hinner hvalues hschema schema.default rest

/-! ### Records as values -/

lemma result_map (hschema : schema.TakesValues) {entries : List (List Char × List Char)} {text : List Char}
    (h : IsMap entries text) (hvalues : ∀ entry ∈ entries, IsValue entry.2) :
    schema.read.result text = schema.gather entries := by
  have hread := read_map hschema h hvalues isBlank_nil []
  rw [List.nil_append, List.append_nil] at hread
  unfold Reader.result
  rw [hread, map_fst_map]

lemma result_list (hschema : schema.TakesValues) {values : List (List Char)} {text : List Char}
    (h : IsList values text) (hvalues : ∀ value ∈ values, IsValue value) :
    schema.read.result text = line schema.fields schema.default values := by
  have hread := read_list hschema h hvalues isBlank_nil []
  rw [List.nil_append, List.append_nil] at hread
  unfold Reader.result
  rw [hread, map_fst_map]

/-- **A record takes one value.** -/
theorem read_takesValue (hschema : schema.TakesValues) : schema.read.TakesValue := by
  intro text h
  obtain ⟨c, text, rfl, -⟩ := h.opens
  by_cases hmap : c = '\x7b'
  · obtain ⟨entries, hentries, hvalues⟩ := h.kind.map hmap
    exact ⟨schema.gather entries, fun blank rest hblank _ => read_map hschema hentries hvalues hblank rest⟩
  · by_cases hlist : c = '['
    · obtain ⟨values, hlist, hvalues⟩ := h.kind.list hlist
      exact ⟨line schema.fields schema.default values,
        fun blank rest hblank _ => read_list hschema hlist hvalues hblank rest⟩
    · refine ⟨.error (wrongKind schema.title (c :: text)), ?_⟩
      intro blank rest hblank hrest
      unfold read
      rw [h.skipBlanks_append hblank, List.cons_append]
      split
      · next heq => cases heq
      · next heq => exact absurd (List.head_eq_of_cons_eq heq) hmap
      · next heq => exact absurd (List.head_eq_of_cons_eq heq) hlist
      · rw [← List.cons_append, h.wrongKind schema.title hrest]
        rfl

/-- A text that holds one value and nothing else is parsed as the value is read. -/
theorem parse_eq (hschema : schema.TakesValues) {blank text behind : List Char} (h : IsValue text)
    (hblank : IsBlank blank) (hbehind : IsBlank behind) :
    schema.parse (String.ofList (blank ++ (text ++ behind))) = schema.read.result text := by
  have hends : EndsNumber behind := by
    rw [← List.append_nil behind]
    exact hbehind.endsNumber_append trivial
  have hskip : skipBlanks behind = [] := by
    rw [← List.append_nil behind, hbehind.skipBlanks_append]
    rfl
  unfold parse
  rw [String.toList_ofList, (read_takesValue hschema).eq h hblank hends]
  cases schema.read.result text with
  | error fault => rfl
  | ok record =>
    show (if (skipBlanks behind).isEmpty then _ else _) = _
    rw [hskip]
    rfl

end Schema

end SealedChat.Json
