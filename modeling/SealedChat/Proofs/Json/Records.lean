import SealedChat.Proofs.Json.Known

/-!
# Maps that are written

A written map is a map of its entries (`isMap_writeMap`), and says what the values of its entries say
(`Tells.writeMap`).
-/

namespace SealedChat.Json

lemma separated_intercalate (parts : List (List Char)) : Separated parts ([','].intercalate parts) := by
  induction parts with
  | nil => exact .none isBlank_nil
  | cons part parts ih =>
    cases parts with
    | nil =>
      have h : Separated [part] ([] ++ (part ++ [])) := .one isBlank_nil isBlank_nil
      rw [List.nil_append, List.append_nil] at h
      rwa [List.intercalate_singleton]
    | cons next parts =>
      rw [List.intercalate_cons_cons, List.append_assoc]
      exact .more isBlank_nil isBlank_nil ih

/-- A written map has the entries that it was written of. -/
theorem isMap_writeMap (entries : List (String × List Char)) :
    IsMap (entries.map fun entry => (writeText entry.1, entry.2)) (writeMap entries) := by
  refine ⟨_, _, ?_, separated_intercalate _, rfl⟩
  induction entries with
  | nil => exact .nil
  | cons entry entries ih =>
    exact .cons ⟨(quoted_writeText entry.1).isText, [], [], isBlank_nil, isBlank_nil, rfl⟩ ih

/-- A map of known names that is written says what its values say. -/
lemma Tells.writeMap {κ : Type} {σ : κ → Type} {known : List κ} {name : κ → String}
    {means : (key : κ) → σ key → List Char → Prop} {write : (key : κ) → List Char} {said : (key : κ) → σ key}
    (hmeans : ∀ key, means key (said key) (write key)) {keys : List κ} (hkeys : ∀ key ∈ keys, key ∈ known) :
    Tells known name means (keys.map fun key => ⟨key, said key⟩)
      ((keys.map fun key => (name key, write key)).map fun entry => (writeText entry.1, entry.2)) := by
  induction keys with
  | nil => exact .nil
  | cons key keys ih =>
    rw [List.forall_mem_cons] at hkeys
    exact .known hkeys.1 (quoted_writeText (name key)) (hmeans key) (ih hkeys.2)

end SealedChat.Json
