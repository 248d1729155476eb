import SealedChat.Proofs.Bytes.Base64Url
import SealedChat.Proofs.Decimal
import SealedChat.Secrets

/-!
# Codes and what they spell

A code is six figures or the spelling of 64 bytes, and every other text is refused (`Code.WellFormed`). The bytes behind
a spelled code have no other spelling, so who has the same secret has the same room, and a new code spells exactly the
bytes that were drawn for it (`codes_exact`).
-/

namespace SealedChat

/-! ### Accepted codes -/

/-- What a code looks like: six figures, or 64 bytes in digits for addresses. -/
def Code.WellFormed (code : String) : Prop :=
  (code.toList.length = 6 ∧ ∀ c ∈ code.toList, '0' ≤ c ∧ c ≤ '9') ∨
    ∃ secret : Bytes, secret.length = 64 ∧ code = Base64Url.encode secret

section Codes

variable {code : String} {fault : KeyFault}

lemma Code.isNumeric_iff : isNumeric code = true ↔ code.toList.length = 6 ∧ ∀ c ∈ code.toList, '0' ≤ c ∧ c ≤ '9' := by
  unfold isNumeric
  rw [Bool.and_eq_true_iff, beq_iff_eq, List.all_eq_true]
  simp only [Decimal.isFigure_iff]
  rfl

lemma Base64Url.decode?_toList_iff {bytes : Bytes} : decode? code.toList = some bytes ↔ code = encode bytes := by
  rw [decode?_eq_some_iff, encode]
  constructor
  · intro h
    rw [← h, String.ofList_toList]
  · rintro rfl
    rw [String.toList_ofList]

lemma Secrets.codeSecret_eq_error_iff : codeSecret code = .error fault ↔
    fault = .invalidChatCode ∧ ¬ Code.WellFormed code := by
  unfold codeSecret Code.WellFormed
  rw [← Code.isNumeric_iff]
  by_cases numeric : Code.isNumeric code = true
  · simp [numeric]
  simp only [numeric, Bool.false_eq_true, if_false, false_or, not_exists, not_and]
  cases hdecode : Base64Url.decode? code.toList with
  | none =>
    have spelled (secret : Bytes) : code ≠ Base64Url.encode secret := by
      intro h
      rw [Base64Url.decode?_toList_iff.2 h] at hdecode
      cases hdecode
    simp [spelled, eq_comm]
  | some bytes =>
    have hbytes := Base64Url.decode?_toList_iff.1 hdecode
    have unique (secret : Bytes) (h : code = Base64Url.encode secret) : secret = bytes := by
      rw [Base64Url.decode?_toList_iff.2 h] at hdecode
      exact Option.some.inj hdecode
    by_cases hlength : bytes.length = 64
    · simp only [Code.secretSize, hlength, if_true, reduceCtorEq, false_iff, not_and]
      intro _ h
      exact h bytes hlength hbytes
    · simp only [Code.secretSize, hlength, if_false, Except.error.injEq]
      constructor
      · rintro rfl
        refine ⟨rfl, ?_⟩
        intro secret hsecret hcode
        rw [unique secret hcode] at hsecret
        exact hlength hsecret
      · rintro ⟨rfl, -⟩
        rfl

/-- Session keys are made from codes, and from no other text. -/
theorem Secrets.sessionKeyOf_eq_error_iff : sessionKeyOf code = .error fault ↔
    fault = .invalidChatCode ∧ ¬ Code.WellFormed code := by
  rw [← codeSecret_eq_error_iff]
  unfold sessionKeyOf
  cases codeSecret code with
  | error other =>
    change Except.error other = (Except.error fault : Except KeyFault SessionKey) ↔ _
    rw [Except.error.injEq, Except.error.injEq]
  | ok secret =>
    change Except.ok _ = (Except.error fault : Except KeyFault SessionKey) ↔ _
    simp

/-- Secrets are derived from codes, and from no other text. -/
theorem Secrets.derive_eq_error_iff : derive code = .error fault ↔
    fault = .invalidChatCode ∧ ¬ Code.WellFormed code := by
  rw [← sessionKeyOf_eq_error_iff]
  unfold derive
  cases sessionKeyOf code with
  | error other =>
    change Except.error other = (Except.error fault : Except KeyFault Secrets) ↔ _
    rw [Except.error.injEq, Except.error.injEq]
  | ok key =>
    change Except.ok _ = (Except.error fault : Except KeyFault Secrets) ↔ _
    simp

/-- From a code, everything is made that a chat needs. -/
lemma Secrets.exists_of_wellFormed (h : Code.WellFormed code) :
    (∃ key, sessionKeyOf code = .ok key) ∧ ∃ secrets, derive code = .ok secrets := by
  cases hkey : sessionKeyOf code with
  | error fault => exact absurd h (sessionKeyOf_eq_error_iff.1 hkey).2
  | ok key =>
    refine ⟨⟨key, rfl⟩, ?_⟩
    unfold derive
    rw [hkey]
    exact ⟨_, rfl⟩

lemma Secrets.exists_derive (h : Code.isNumeric code = true) : ∃ secrets, derive code = .ok secrets :=
  (exists_of_wellFormed (.inl (Code.isNumeric_iff.1 h))).2

end Codes

/-! ### Spelled codes -/

section Spelled

variable {code : String} {secret : Bytes}

/-- A spelled code is known by its characters: 86 digits, the last of which has four bits to spare. -/
lemma Code.exists_spelled_iff : (∃ secret : Bytes, secret.length = 64 ∧ code = Base64Url.encode secret) ↔
    code.toList.length = 86 ∧ (∀ c ∈ code.toList, Base64Url.IsDigit c) ∧
      ∃ c ∈ ['A', 'Q', 'g', 'w'], code.toList.getLast? = some c := by
  have hspelled := @Base64Url.exists_digits_iff code.toList 21
  refine Iff.trans ?_ hspelled
  constructor
  · rintro ⟨secret, hsecret, rfl⟩
    exact ⟨secret, hsecret, String.toList_ofList⟩
  · rintro ⟨secret, hsecret, hcode⟩
    refine ⟨secret, hsecret, ?_⟩
    rw [Base64Url.encode, ← hcode, String.ofList_toList]

lemma Base64Url.length_toList_encode (bytes : Bytes) : (encode bytes).toList.length = (4 * bytes.length + 2) / 3 := by
  rw [encode, String.toList_ofList, length_digits]

/-- A text of 86 characters is not taken for six figures. -/
lemma Code.isNumeric_of_length (h : code.toList.length = 86) : isNumeric code = false := by
  unfold isNumeric
  rw [h]
  rfl

/-- A code that is not numeric is spelled. -/
lemma Code.exists_spelled_of_wellFormed (numeric : isNumeric code = false) (h : WellFormed code) :
    ∃ secret : Bytes, secret.length = 64 ∧ code = Base64Url.encode secret := by
  rcases h with h | h
  · rw [isNumeric_iff.2 h] at numeric
    cases numeric
  · exact h

/-- The secret of a code that is not numeric is spelled by it. -/
lemma Secrets.codeSecret_eq_ok_iff (h : Code.isNumeric code = false) :
    codeSecret code = .ok secret ↔ secret.length = 64 ∧ code = Base64Url.encode secret := by
  unfold codeSecret
  simp only [h, Bool.false_eq_true, if_false, ← Base64Url.decode?_toList_iff]
  cases Base64Url.decode? code.toList with
  | none => simp
  | some bytes =>
    by_cases hlength : bytes.length = 64
    · simp only [Code.secretSize, hlength, if_true, Except.ok.injEq, Option.some.injEq]
      constructor
      · rintro rfl
        exact ⟨hlength, rfl⟩
      · rintro ⟨-, rfl⟩
        rfl
    · simp only [Code.secretSize, hlength, if_false, reduceCtorEq, Option.some.injEq, false_iff]
      rintro ⟨hsecret, rfl⟩
      exact hlength hsecret

end Spelled

/-- **Codes are accepted exactly, and each of them that is spelled has its own secret.** A text is refused, for being no
code, exactly if it is neither six figures nor the spelling of 64 bytes, which is known by its characters. Of the codes
that are not numeric no two have one secret. A new code is the spelling of the 64 bytes that were drawn for it, and so
it is accepted and leads back to them; and the name of any text's room is the spelling of a digest of 64 bytes. -/
theorem codes_exact :
    (∀ code, Secrets.sessionKeyOf code = .error .invalidChatCode ↔ ¬ Code.WellFormed code) ∧
    (∀ code, Secrets.derive code = .error .invalidChatCode ↔ ¬ Code.WellFormed code) ∧
    (∀ code, Code.WellFormed code →
      (∃ key, Secrets.sessionKeyOf code = .ok key) ∧ ∃ secrets, Secrets.derive code = .ok secrets) ∧
    (∀ code : String, (∃ secret : Bytes, secret.length = 64 ∧ code = Base64Url.encode secret) ↔
      code.toList.length = 86 ∧ (∀ c ∈ code.toList, Base64Url.IsDigit c) ∧
        ∃ c ∈ ['A', 'Q', 'g', 'w'], code.toList.getLast? = some c) ∧
    (∀ code code', Code.isNumeric code = false → Code.isNumeric code' = false →
      Code.WellFormed code → Code.WellFormed code' → code ≠ code' →
      ∃ secret secret' : Bytes, Secrets.codeSecret code = .ok secret ∧ Secrets.codeSecret code' = .ok secret' ∧
        secret.length = 64 ∧ secret'.length = 64 ∧ secret ≠ secret') ∧
    (∀ entropy, let (code, rest) := Code.generateFull entropy
      code.toList.length = 86 ∧ Code.isNumeric code = false ∧ Code.WellFormed code ∧
        Secrets.codeSecret code = .ok (entropy.peek 64) ∧ rest = entropy.skip 64) ∧
    ∀ code, (Secrets.roomOf code).text.toList.length = 86 ∧ ∃ digest : Bytes, digest.length = 64 ∧
      digest = Sha3.hash (Utf8.encode "rchat-v3-double-hash-domain:" ++
        (Blake3.hash (Utf8.encode "rchat-v3-room-id-domain-sep:" ++ Utf8.encode code)).bytes) ∧
      Base64Url.decode? (Secrets.roomOf code).text.toList = some digest := by
  refine ⟨?_, ?_, ?_, ?_, ?_, ?_, ?_⟩
  · intro code
    rw [Secrets.sessionKeyOf_eq_error_iff]
    exact and_iff_right rfl
  · intro code
    rw [Secrets.derive_eq_error_iff]
    exact and_iff_right rfl
  · intro code h
    exact Secrets.exists_of_wellFormed h
  · intro code
    exact Code.exists_spelled_iff
  · intro code code' hnumeric hnumeric' h h' hne
    obtain ⟨secret, hsecret, hcode⟩ := Code.exists_spelled_of_wellFormed hnumeric h
    obtain ⟨secret', hsecret', hcode'⟩ := Code.exists_spelled_of_wellFormed hnumeric' h'
    refine ⟨secret, secret', (Secrets.codeSecret_eq_ok_iff hnumeric).2 ⟨hsecret, hcode⟩,
      (Secrets.codeSecret_eq_ok_iff hnumeric').2 ⟨hsecret', hcode'⟩, hsecret, hsecret', ?_⟩
    rintro rfl
    exact hne (hcode.trans hcode'.symm)
  · intro entropy
    have hsecret : (entropy.peek 64).length = 64 := entropy.length_peek 64
    have hlength : (Base64Url.encode (entropy.peek 64)).toList.length = 86 := by
      rw [Base64Url.length_toList_encode, hsecret]
    have hnumeric := Code.isNumeric_of_length hlength
    exact ⟨hlength, hnumeric, .inr ⟨_, hsecret, rfl⟩, (Secrets.codeSecret_eq_ok_iff hnumeric).2 ⟨hsecret, rfl⟩, rfl⟩
  · intro code
    refine ⟨?_, _, Sha3.length_hash _, rfl, Base64Url.decode?_toList_iff.2 rfl⟩
    unfold Secrets.roomOf
    dsimp only
    rw [Base64Url.length_toList_encode, Sha3.length_hash]

/-- Of 86 digits, those that end with a digit without spare bits are a code, and those that end with another are none;
nor are they a code with a sign behind that fills up the last four. -/
theorem codes_exact_last_digit :
    let code (last : List Char) := String.ofList (List.replicate 85 'A' ++ last)
    (∃ secrets, Secrets.derive (code ['Q']) = .ok secrets) ∧
      Secrets.derive (code ['R']) = .error .invalidChatCode ∧
      Secrets.derive (code ['Q', '=']) = .error .invalidChatCode := by
  intro code
  obtain ⟨-, refused, accepted, spelled, -⟩ := codes_exact
  have hcode (last : List Char) : (code last).toList = List.replicate 85 'A' ++ last := String.toList_ofList
  have hlength (last : List Char) : (code last).toList.length = 85 + last.length := by
    rw [hcode, List.length_append, List.length_replicate]
  refine ⟨(accepted _ (.inr ((spelled _).2 ⟨hlength _, ?_, 'Q', by decide, ?_⟩))).2, (refused _).2 ?_, (refused _).2 ?_⟩
  · intro c hc
    rw [hcode, List.mem_append, List.mem_replicate, List.mem_singleton] at hc
    rcases hc with ⟨-, rfl⟩ | rfl <;> decide
  · rw [hcode, List.getLast?_concat]
  · unfold Code.WellFormed
    rw [spelled, hlength, hcode, List.getLast?_concat]
    rintro (⟨h, -⟩ | ⟨-, -, c, hc, hlast⟩)
    · exact absurd h (by decide)
    · cases hlast
      exact absurd hc (by decide)
  · unfold Code.WellFormed
    rw [spelled, hlength]
    rintro (⟨h, -⟩ | ⟨h, -⟩) <;> exact absurd h (by decide)

end SealedChat
