import Mathlib.Data.List.Nodup
import SealedChat.Proofs.Json.Maps
import SealedChat.Proofs.Json.Values

/-!
# Maps with known and unknown names

A map says something about the names that a record knows, and may hold any others (`Tells`). What it says is what the
record holds that is read from it, whatever the order of the entries and whatever the other names hold
(`Schema.Knows.gather`). A map from which a record is read gives no known name twice (`Schema.gather_eq_ok`).
-/

namespace SealedChat.Json

variable {α κ : Type} {σ : κ → Type}

/-- The entries of a map say something about known keys, in any order, between entries of unknown names. -/
inductive Tells (known : List κ) (name : κ → String) (means : (key : κ) → σ key → List Char → Prop) :
    List ((key : κ) × σ key) → List (List Char × List Char) → Prop
  | nil : Tells known name means [] []
  | known {key : κ} {said : σ key} {items : List ((key : κ) × σ key)} {quoted value : List Char}
      {entries : List (List Char × List Char)} (hkey : key ∈ known) (hquoted : Quoted (name key) quoted)
      (hvalue : means key said value) (h : Tells known name means items entries) :
      Tells known name means (⟨key, said⟩ :: items) ((quoted, value) :: entries)
  | unknown {other : String} {items : List ((key : κ) × σ key)} {quoted value : List Char}
      {entries : List (List Char × List Char)} (hother : other ∉ known.map name) (hquoted : Quoted other quoted)
      (hvalue : IsValue value) (h : Tells known name means items entries) :
      Tells known name means items ((quoted, value) :: entries)

lemma Tells.mem_known {known : List κ} {name : κ → String} {means : (key : κ) → σ key → List Char → Prop}
    {items : List ((key : κ) × σ key)} {entries : List (List Char × List Char)}
    (h : Tells known name means items entries) : ∀ item ∈ items, item.1 ∈ known := by
  induction h with
  | nil => exact fun item hitem => absurd hitem List.not_mem_nil
  | known hkey _ _ _ ih => exact List.forall_mem_cons.2 ⟨hkey, ih⟩
  | unknown _ _ _ _ ih => exact ih

lemma Tells.exists_means {known : List κ} {name : κ → String} {means : (key : κ) → σ key → List Char → Prop}
    {items : List ((key : κ) × σ key)} {entries : List (List Char × List Char)}
    (h : Tells known name means items entries) : ∀ item ∈ items, ∃ value, means item.1 item.2 value := by
  induction h with
  | nil => exact fun item hitem => absurd hitem List.not_mem_nil
  | known _ _ hvalue _ ih => exact List.forall_mem_cons.2 ⟨⟨_, hvalue⟩, ih⟩
  | unknown _ _ _ _ ih => exact ih

/-- A record holds what is said about some keys, and about the others what it held before. -/
structure Settles (holds : (key : κ) → σ key → α → Prop) (items : List ((key : κ) × σ key)) (before after : α) :
    Prop where
  said : ∀ item ∈ items, holds item.1 item.2 after
  kept : ∀ key, key ∉ items.map (·.1) → ∀ said, holds key said before → holds key said after

namespace Settles

variable {holds : (key : κ) → σ key → α → Prop} {items : List ((key : κ) × σ key)} {before between after : α}

lemma nil (holds : (key : κ) → σ key → α → Prop) (record : α) : Settles holds [] record record :=
  ⟨fun _ hitem => absurd hitem List.not_mem_nil, fun _ _ _ hholds => hholds⟩

lemma cons {key : κ} {said : σ key} (hsaid : holds key said between)
    (hothers : ∀ other, other ≠ key → ∀ said, holds other said before → holds other said between)
    (hkey : key ∉ items.map (·.1)) (h : Settles holds items between after) :
    Settles holds (⟨key, said⟩ :: items) before after where
  said := List.forall_mem_cons.2 ⟨h.kept key hkey said hsaid, h.said⟩
  kept other hother said hheld := by
    rw [List.map_cons, List.mem_cons, not_or] at hother
    exact h.kept other hother.2 said (hothers other hother.1 said hheld)

end Settles

/-- The field reads what is said about the key, and leaves alone what the record holds for other keys. -/
structure Field.Knows (field : Field α) (name : κ → String) (means : (key : κ) → σ key → List Char → Prop)
    (holds : (key : κ) → σ key → α → Prop) (key : κ) : Prop where
  name_eq : field.name = name key
  takesValue : ∀ record, (field.read record).TakesValue
  isValue : ∀ said value, means key said value → IsValue value
  read : ∀ said value, means key said value → ∀ record, ∃ record', (field.read record).result value = .ok record' ∧
    holds key said record' ∧ ∀ other, other ≠ key → ∀ said, holds other said record → holds other said record'

lemma Field.Knows.of {β : Type} {reader : Reader β} (hreader : reader.TakesValue) {put : α → β → α}
    {name : κ → String} {means : (key : κ) → σ key → List Char → Prop} {holds : (key : κ) → σ key → α → Prop} {key : κ}
    (hread : ∀ said value, means key said value → IsValue value ∧ ∃ read, reader.result value = .ok read ∧
      ∀ record, holds key said (put record read) ∧
        ∀ other, other ≠ key → ∀ said, holds other said record → holds other said (put record read)) :
    (Field.of (name key) reader put).Knows name means holds key where
  name_eq := rfl
  takesValue := hreader.field (name key) put
  isValue said value h := (hread said value h).1
  read said value h record := by
    obtain ⟨-, read, hresult, hput⟩ := hread said value h
    refine ⟨put record read, ?_, hput record⟩
    rw [Field.result_of, hresult]
    rfl

namespace Schema

/-! ### What a map says -/

/-- The fields of the schema know the keys, which have names of their own. -/
structure Knows (schema : Schema α) (known : List κ) (name : κ → String)
    (means : (key : κ) → σ key → List Char → Prop) (holds : (key : κ) → σ key → α → Prop) : Prop where
  fields : List.Forall₂ (fun field key => field.Knows name means holds key) schema.fields known
  distinct : (known.map name).Nodup

variable {schema : Schema α} {known : List κ} {name : κ → String} {means : (key : κ) → σ key → List Char → Prop}
  {holds : (key : κ) → σ key → α → Prop} {items : List ((key : κ) × σ key)} {entries : List (List Char × List Char)}

section Fields

variable {fields : List (Field α)} {keys : List κ}
  (h : List.Forall₂ (fun field key => field.Knows name means holds key) fields keys)

include h

lemma names_of_forall₂ : fields.map (·.name) = keys.map name := by
  induction h with
  | nil => rfl
  | cons hfield _ ih => rw [List.map_cons, List.map_cons, hfield.name_eq, ih]

lemma takesValue_of_forall₂ : ∀ field ∈ fields, ∀ record, (field.read record).TakesValue := by
  induction h with
  | nil => exact fun field hfield => absurd hfield List.not_mem_nil
  | cons hfield _ ih => exact List.forall_mem_cons.2 ⟨hfield.takesValue, ih⟩

lemma exists_find?_of_forall₂ (hdistinct : (keys.map name).Nodup) {key : κ} (hkey : key ∈ keys) :
    ∃ field, fields.find? (·.name == name key) = some field ∧ field.Knows name means holds key := by
  induction h with
  | nil => exact absurd hkey List.not_mem_nil
  | @cons field other fields keys hfield _ ih =>
    rw [List.map_cons, List.nodup_cons] at hdistinct
    rcases List.mem_cons.1 hkey with rfl | hmem
    · exact ⟨field, List.find?_cons_of_pos (beq_iff_eq.2 hfield.name_eq), hfield⟩
    · have hne : field.name ≠ name key := by
        rw [hfield.name_eq]
        intro heq
        exact hdistinct.1 (heq ▸ List.mem_map_of_mem hmem)
      rw [List.find?_cons_of_neg (by rwa [beq_iff_eq])]
      exact ih hdistinct.2 hmem

end Fields

lemma Knows.takesValues (h : schema.Knows known name means holds) : schema.TakesValues :=
  takesValue_of_forall₂ h.fields

lemma find?_eq_none {other : String} (h : other ∉ schema.fields.map (·.name)) :
    schema.fields.find? (·.name == other) = none := by
  rw [List.find?_eq_none]
  intro field hfield hname
  exact h (List.mem_map.2 ⟨field, hfield, beq_iff_eq.1 hname⟩)

lemma turn_unknown {other : String} (h : other ∉ schema.fields.map (·.name)) {entry : List Char × List Char}
    (hquoted : Quoted other entry.1) (state : List String × α) : schema.turn state entry = .ok state := by
  unfold turn
  rw [hquoted.readString]
  simp only [bind, Except.bind, find?_eq_none h]
  rfl

lemma turn_known {other : String} {field : Field α} (hfield : schema.fields.find? (·.name == other) = some field)
    {entry : List Char × List Char} (hquoted : Quoted other entry.1) {state : List String × α}
    (hseen : other ∉ state.1) {record : α} (hread : (field.read state.2).result entry.2 = .ok record) :
    schema.turn state entry = .ok (other :: state.1, record) := by
  unfold turn
  rw [hquoted.readString]
  simp only [bind, Except.bind, hfield, hread]
  rw [if_neg (by rwa [List.contains_iff_mem])]
  rfl

/-- The induction is on the entries, each of which changes what the record holds for its own key only. -/
lemma Knows.foldlM (hknows : schema.Knows known name means holds) (h : Tells known name means items entries)
    (hdistinct : (items.map (·.1)).Nodup) {seen : List String} (hseen : ∀ item ∈ items, name item.1 ∉ seen)
    (record : α) :
    ∃ state, entries.foldlM schema.turn (seen, record) = .ok state ∧ Settles holds items record state.2 := by
  induction h generalizing seen record with
  | nil => exact ⟨(seen, record), rfl, .nil holds record⟩
  | @known key said items quoted value entries hkey hquoted hvalue htells ih =>
    rw [List.map_cons, List.nodup_cons] at hdistinct
    obtain ⟨hnotSeen, hseen⟩ := List.forall_mem_cons.1 hseen
    obtain ⟨field, hfield, hfieldKnows⟩ := exists_find?_of_forall₂ hknows.fields hknows.distinct hkey
    obtain ⟨record', hread, hholds, hothers⟩ := hfieldKnows.read said value hvalue record
    have hseen' : ∀ item ∈ items, name item.1 ∉ name key :: seen := by
      intro item hitem
      rw [List.mem_cons, not_or]
      refine ⟨?_, hseen item hitem⟩
      intro heq
      have hmem : item.1 ∈ items.map (·.1) := List.mem_map_of_mem hitem
      rw [List.inj_on_of_nodup_map hknows.distinct (htells.mem_known item hitem) hkey heq] at hmem
      exact hdistinct.1 hmem
    obtain ⟨state, hstate, hsettles⟩ := ih hdistinct.2 hseen' record'
    refine ⟨state, ?_, .cons hholds hothers hdistinct.1 hsettles⟩
    rw [List.foldlM_cons, turn_known hfield hquoted hnotSeen hread]
    exact hstate
  | @unknown other items quoted value entries hother hquoted _ _ ih =>
    rw [List.foldlM_cons, turn_unknown (by rwa [names_of_forall₂ hknows.fields]) hquoted]
    exact ih hdistinct hseen record

/-- **A record holds what a map says of it**, in whatever order, and what it holds by default otherwise. -/
theorem Knows.gather (hknows : schema.Knows known name means holds) (h : Tells known name means items entries)
    (hdistinct : (items.map (·.1)).Nodup) :
    ∃ record, schema.gather entries = .ok record ∧ Settles holds items schema.default record := by
  obtain ⟨state, hstate, hsettles⟩ := hknows.foldlM h hdistinct (fun _ _ => List.not_mem_nil) schema.default
  refine ⟨state.2, ?_, hsettles⟩
  unfold Schema.gather
  rw [hstate]
  rfl

lemma Knows.isValue (hknows : schema.Knows known name means holds) (h : Tells known name means items entries) :
    ∀ entry ∈ entries, IsValue entry.2 := by
  induction h with
  | nil => exact fun entry hentry => absurd hentry List.not_mem_nil
  | known hkey _ hvalue _ ih =>
    obtain ⟨_, _, hfield⟩ := exists_find?_of_forall₂ hknows.fields hknows.distinct hkey
    exact List.forall_mem_cons.2 ⟨hfield.isValue _ _ hvalue, ih⟩
  | unknown _ _ hvalue _ ih => exact List.forall_mem_cons.2 ⟨hvalue, ih⟩

/-! ### What a list says -/

/-- The induction is on the values, each of which belongs to the first of the keys left. -/
lemma line_eq_ok {fields : List (Field α)} {keys : List κ}
    (hfields : List.Forall₂ (fun field key => field.Knows name means holds key) fields keys) (hkeys : keys.Nodup)
    {values : List (List Char)} (hvalues : List.Forall₂ (fun item value => means item.1 item.2 value) items values)
    (hfirst : items.map (·.1) <+: keys) (record : α) :
    ∃ record', line fields record values = .ok record' ∧ Settles holds items record record' := by
  induction hvalues generalizing fields keys record with
  | nil =>
    refine ⟨record, ?_, .nil holds record⟩
    cases fields <;> rfl
  | @cons item value items values hvalue _ ih =>
    cases hfields with
    | nil => exact absurd hfirst (by simp)
    | @cons field key fields keys hfield hfields =>
      rw [List.map_cons, List.cons_prefix_cons] at hfirst
      obtain ⟨rfl, hrest⟩ := hfirst
      rw [List.nodup_cons] at hkeys
      obtain ⟨record', hread, hholds, hothers⟩ := hfield.read item.2 value hvalue record
      obtain ⟨record'', hline, hsettles⟩ := ih hfields hkeys.2 hrest record'
      refine ⟨record'', ?_, .cons hholds hothers (fun hmem => hkeys.1 (hrest.subset hmem)) hsettles⟩
      rw [line, hread]
      exact hline

lemma Knows.isValue_of_forall₂ (hknows : schema.Knows known name means holds) {values : List (List Char)}
    (hvalues : List.Forall₂ (fun item value => means item.1 item.2 value) items values)
    (hfirst : items.map (·.1) <+: known) : ∀ value ∈ values, IsValue value := by
  intro value hvalue
  obtain ⟨item, hitem, hmeans⟩ := exists_mem_of_forall₂ hvalues value hvalue
  obtain ⟨_, _, hfield⟩ :=
    exists_find?_of_forall₂ hknows.fields hknows.distinct (hfirst.subset (List.mem_map_of_mem hitem))
  exact hfield.isValue _ _ hmeans

/-- **A record holds what a list says of it**, and what it holds by default otherwise. -/
theorem Knows.line (hknows : schema.Knows known name means holds) {values : List (List Char)}
    (hvalues : List.Forall₂ (fun item value => means item.1 item.2 value) items values)
    (hfirst : items.map (·.1) <+: known) :
    ∃ record, line schema.fields schema.default values = .ok record ∧ Settles holds items schema.default record :=
  line_eq_ok hknows.fields (List.Nodup.of_map name hknows.distinct) hvalues hfirst schema.default

/-! ### What a map must not say -/

/-- An entry is skipped, or it is the first one of a field, which is read from it. -/
lemma turn_cases {state state' : List String × α} {entry : List Char × List Char}
    (h : schema.turn state entry = .ok state') :
    ∃ other, readString.result entry.1 = .ok other ∧
      (schema.fields.find? (·.name == other) = none ∧ state' = state ∨
        ∃ field record, schema.fields.find? (·.name == other) = some field ∧ other ∉ state.1 ∧
          (field.read state.2).result entry.2 = .ok record ∧ state' = (other :: state.1, record)) := by
  unfold turn at h
  cases hname : readString.result entry.1 with
  | error fault =>
    rw [hname] at h
    cases h
  | ok other =>
    refine ⟨other, rfl, ?_⟩
    rw [hname] at h
    simp only [bind, Except.bind] at h
    cases hfield : schema.fields.find? (·.name == other) with
    | none =>
      rw [hfield] at h
      cases h
      exact .inl ⟨rfl, rfl⟩
    | some field =>
      rw [hfield] at h
      dsimp only at h
      split at h
      · cases h
      · next hseen =>
        rw [List.contains_iff_mem] at hseen
        cases hread : (field.read state.2).result entry.2 with
        | error fault =>
          rw [hread] at h
          cases h
        | ok record =>
          rw [hread] at h
          cases h
          exact .inr ⟨field, record, rfl, hseen, hread, rfl⟩

/-- What has been read stays read. -/
lemma turn_subset {state state' : List String × α} {entry : List Char × List Char}
    (h : schema.turn state entry = .ok state') : state.1 ⊆ state'.1 := by
  obtain ⟨other, -, ⟨-, rfl⟩ | ⟨field, record, -, -, -, rfl⟩⟩ := turn_cases h
  · exact List.Subset.refl _
  · exact List.subset_cons_self _ _

lemma turn_field {state state' : List String × α} {entry : List Char × List Char} {other : String} {field : Field α}
    (h : schema.turn state entry = .ok state') (hquoted : Quoted other entry.1)
    (hfield : schema.fields.find? (·.name == other) = some field) :
    other ∉ state.1 ∧ other ∈ state'.1 ∧ ∃ record, (field.read state.2).result entry.2 = .ok record := by
  obtain ⟨name, hname, hcases⟩ := turn_cases h
  rw [hquoted.readString] at hname
  cases hname
  rw [hfield] at hcases
  obtain ⟨hnone, -⟩ | ⟨found, record, hfound, hseen, hread, rfl⟩ := hcases
  · cases hnone
  · cases hfound
    exact ⟨hseen, List.mem_cons_self, record, hread⟩

lemma exists_find?_eq_some {other : String} (h : other ∈ schema.fields.map (·.name)) :
    ∃ field, schema.fields.find? (·.name == other) = some field := by
  obtain ⟨field, hfield, hname⟩ := List.mem_map.1 h
  rw [← Option.isSome_iff_exists, List.find?_isSome]
  exact ⟨field, hfield, beq_iff_eq.2 hname⟩

/-- The induction is on the entries: what has been read in front of an entry is not read from it again. -/
lemma foldlM_turn_eq_ok {state state' : List String × α} (h : entries.foldlM schema.turn state = .ok state') :
    entries.Pairwise (fun entry entry' => ∀ other ∈ schema.fields.map (·.name),
        Quoted other entry.1 → ¬ Quoted other entry'.1) ∧
      ∀ entry ∈ entries, ∀ other field, schema.fields.find? (·.name == other) = some field → Quoted other entry.1 →
        other ∉ state.1 ∧ ∃ record record', (field.read record).result entry.2 = .ok record' := by
  induction entries generalizing state with
  | nil => exact ⟨.nil, fun entry hentry => absurd hentry List.not_mem_nil⟩
  | cons entry entries ih =>
    rw [List.foldlM_cons] at h
    cases hturn : schema.turn state entry with
    | error fault =>
      rw [hturn] at h
      cases h
    | ok between =>
      rw [hturn] at h
      obtain ⟨hpairs, hentries⟩ := ih h
      refine ⟨List.pairwise_cons.2 ⟨?_, hpairs⟩, List.forall_mem_cons.2 ⟨?_, ?_⟩⟩
      · intro entry' hentry' other hother hquoted hquoted'
        obtain ⟨field, hfield⟩ := exists_find?_eq_some hother
        exact (hentries entry' hentry' other field hfield hquoted').1 (turn_field hturn hquoted hfield).2.1
      · intro other field hfield hquoted
        obtain ⟨hseen, -, hread⟩ := turn_field hturn hquoted hfield
        exact ⟨hseen, state.2, hread⟩
      · intro entry' hentry' other field hfield hquoted'
        obtain ⟨hseen, hread⟩ := hentries entry' hentry' other field hfield hquoted'
        exact ⟨fun hmem => hseen (turn_subset hturn hmem), hread⟩

/-- **A map from which a record is read** gives no field twice, and nothing from which its field is not read. -/
theorem gather_eq_ok {record : α} (h : schema.gather entries = .ok record) :
    entries.Pairwise (fun entry entry' => ∀ other ∈ schema.fields.map (·.name),
        Quoted other entry.1 → ¬ Quoted other entry'.1) ∧
      ∀ entry ∈ entries, ∀ other field, schema.fields.find? (·.name == other) = some field → Quoted other entry.1 →
        ∃ record record', (field.read record).result entry.2 = .ok record' := by
  unfold gather at h
  cases hfold : entries.foldlM schema.turn ([], schema.default) with
  | error fault =>
    rw [hfold] at h
    cases h
  | ok state =>
    obtain ⟨hpairs, hentries⟩ := foldlM_turn_eq_ok hfold
    refine ⟨hpairs, ?_⟩
    intro entry hentry other field hfield hquoted
    exact (hentries entry hentry other field hfield hquoted).2

end Schema

end SealedChat.Json
