import Mathlib.Data.List.Forall2
import Mathlib.Tactic.Lemma
import SealedChat.Json.Record

/-!
# Two records read from one text

A map from one kind of record to another is followed by their schemas if their fields bear the same names and put into
the mapped record what the map makes of what they put into the record (`Schema.Maps`). Then one text is read as a record
and as the mapped record, or is at fault in the same way for both (`Schema.Maps.parse`).
-/

namespace SealedChat.Json

variable {ε α β γ δ : Type}

/-! ### Results of readers -/

lemma bind_eq_map_bind {f : γ → δ} {g : α → β} {result : Except ε α} {result' : Except ε β}
    {next : α → Except ε γ} {next' : β → Except ε δ} (hresult : result' = result.map g)
    (hnext : ∀ value, next' (g value) = (next value).map f) : (result' >>= next') = (result >>= next).map f := by
  subst hresult
  cases result with
  | error fault => rfl
  | ok value => exact hnext value

lemma bind_map_eq {f : γ → δ} (result : Except ε α) {next : α → Except ε γ} {next' : α → Except ε δ}
    (hnext : ∀ value, next' value = (next value).map f) : (result >>= next') = (result >>= next).map f := by
  cases result with
  | error fault => rfl
  | ok value => exact hnext value

/-- A reader gives the mapped value where another one gives the value. -/
def Reader.Maps (f : α → β) (reader : Reader α) (reader' : Reader β) : Prop :=
  ∀ text, reader' text = (reader text).map (Prod.map f id)

lemma Reader.Maps.refl (reader : Reader α) : Maps id reader reader := by
  intro text
  cases reader text with
  | error fault => rfl
  | ok found => rfl

/-! ### Fields -/

/-- The fields have one name, and the second puts into the mapped record what the first puts into the record. -/
structure Field.Maps (f : α → β) (field : Field α) (field' : Field β) : Prop where
  name : field'.name = field.name
  read (record : α) : Reader.Maps f (field.read record) (field'.read (f record))

lemma Field.Maps.of {f : α → β} {g : γ → δ} {reader : Reader γ} {reader' : Reader δ} (hreader : Reader.Maps g reader reader')
    {put : α → γ → α} {put' : β → δ → β} (hput : ∀ record value, put' (f record) (g value) = f (put record value))
    (name : String) : Maps f (.of name reader put) (.of name reader' put') := by
  refine ⟨rfl, ?_⟩
  intro record text
  simp only [Field.of, hreader text]
  cases reader text with
  | error fault => rfl
  | ok found => exact congrArg (fun record => Except.ok (record, found.2)) (hput record found.1)

lemma Field.Maps.find? {f : α → β} {fields : List (Field α)} {fields' : List (Field β)}
    (h : List.Forall₂ (Field.Maps f) fields fields') (key : String) :
    Option.Rel (Field.Maps f) (fields.find? (·.name == key)) (fields'.find? (·.name == key)) := by
  induction h with
  | nil => exact .none
  | @cons field field' _ _ hfield _ ih =>
    rw [List.find?_cons, List.find?_cons, hfield.name]
    cases field.name == key with
    | true => exact .some hfield
    | false => exact ih

/-! ### Records -/

/-- The schemas ask for the same texts, and the second reads the mapped record where the first reads a record. -/
structure Schema.Maps (f : α → β) (schema : Schema α) (schema' : Schema β) : Prop where
  title : schema'.title = schema.title
  fields : List.Forall₂ (Field.Maps f) schema.fields schema'.fields
  default : schema'.default = f schema.default

namespace Schema.Maps

variable {f : α → β} {schema : Schema α} {schema' : Schema β}

lemma readEntry (h : schema.Maps f schema') (seen : List String) (record : α) (text : List Char) :
    schema'.readEntry seen (f record) text =
      (schema.readEntry seen record text).map fun (seen, record, rest) => (seen, f record, rest) := by
  unfold Schema.readEntry
  refine bind_map_eq (readText text) ?_
  rintro ⟨key, rest⟩
  have hfind := Field.Maps.find? h.fields key
  revert hfind
  dsimp only
  generalize schema.fields.find? (·.name == key) = field
  generalize schema'.fields.find? (·.name == key) = field'
  rintro (hfield | _)
  · dsimp only
    split
    · rfl
    · refine bind_map_eq (skipColon rest) ?_
      intro rest
      refine bind_eq_map_bind (hfield.read record rest) ?_
      rintro ⟨record, rest⟩
      rfl
  · refine bind_map_eq (skipColon rest) ?_
    intro rest
    refine bind_map_eq (skipValue rest) ?_
    intro rest
    rfl

lemma readEntries (h : schema.Maps f schema') (fuel : Nat) (first : Bool) (seen : List String) (record : α) :
    Reader.Maps f (schema.readEntries fuel first seen record) (schema'.readEntries fuel first seen (f record)) := by
  induction fuel generalizing first seen record with
  | zero =>
    intro text
    rfl
  | succ fuel ih =>
    intro text
    -- an entry, and those behind it
    have hentry : ∀ text,
        (schema'.readEntry seen (f record) text >>= fun found =>
          schema'.readEntries fuel false found.1 found.2.1 found.2.2) =
        (schema.readEntry seen record text >>= fun found =>
          schema.readEntries fuel false found.1 found.2.1 found.2.2).map (Prod.map f id) := by
      intro text
      refine bind_eq_map_bind (h.readEntry seen record text) ?_
      intro found
      exact ih false found.1 found.2.1 found.2.2
    unfold Schema.readEntries
    dsimp only
    split
    · rfl
    · rfl
    · split
      · split
        · exact hentry _
        · rfl
      · split
        · split
          · rfl
          · exact hentry _
          · rfl
          · rfl
        · rfl

lemma readSequenceEnd (record : α) : Reader.Maps f (Schema.readSequenceEnd record) (Schema.readSequenceEnd (f record)) := by
  intro text
  unfold Schema.readSequenceEnd
  split
  · rfl
  · rfl
  · split <;> rfl
  · rfl

lemma readElements {fields : List (Field α)} {fields' : List (Field β)}
    (h : List.Forall₂ (Field.Maps f) fields fields') (first : Bool) (record : α) :
    Reader.Maps f (Schema.readElements first fields record) (Schema.readElements first fields' (f record)) := by
  induction h generalizing first record with
  | nil => exact readSequenceEnd record
  | @cons field field' fields fields' hfield _ ih =>
    intro text
    -- an element, and those behind it
    have helement : ∀ text,
        (field'.read (f record) text >>= fun found => Schema.readElements false fields' found.1 found.2) =
        (field.read record text >>= fun found => Schema.readElements false fields found.1 found.2).map
          (Prod.map f id) := by
      intro text
      refine bind_eq_map_bind (hfield.read record text) ?_
      intro found
      exact ih false found.1 found.2
    unfold Schema.readElements
    dsimp only
    split
    · rfl
    · rfl
    · split
      · exact helement _
      · split
        · split
          · rfl
          · rfl
          · exact helement _
        · rfl

/-- One text is read as both records. -/
lemma read (h : schema.Maps f schema') : Reader.Maps f schema.read schema'.read := by
  intro text
  unfold Schema.read
  rw [h.title, h.default]
  split
  · rfl
  · exact h.readEntries _ true [] schema.default _
  · exact readElements h.fields true schema.default _
  · rfl

/-- A record that is a field is mapped as a record. -/
lemma field (h : schema.Maps f schema') {g : γ → δ} {put : γ → α → γ} {put' : δ → β → δ}
    (hput : ∀ record value, put' (g record) (f value) = g (put record value)) (name : String) :
    Field.Maps g (schema.field name put) (schema'.field name put') :=
  .of h.read hput name

/-- **One text holds both records**, the second being what the map makes of the first, or is at fault in the same way
for both. -/
theorem parse (h : schema.Maps f schema') (text : String) : schema'.parse text = (schema.parse text).map f := by
  unfold Schema.parse
  refine bind_eq_map_bind (h.read text.toList) ?_
  rintro ⟨record, rest⟩
  dsimp only [Prod.map]
  rw [id_eq]
  split <;> rfl

end Schema.Maps

end SealedChat.Json
