import Mathlib.Logic.ExistsUnique
import Mathlib.Tactic.Lemma
import SealedChat.Identity

/-!
# What a key opens

A message key opens exactly what it seals: every plaintext comes back from its sealed form, whatever nonce was drawn,
and a byte string that is opened is the sealed form that its first bytes, drawn as the nonce, lead to (`opens_sealed`).
So a nonce and a ciphertext have one tag, and what is too short for a nonce and a tag is refused.
-/

namespace SealedChat

/-! ### Nonces -/

/-- Every byte string may be drawn. -/
lemma Entropy.exists_peek (bytes : Bytes) : ∃ entropy : Entropy, entropy.peek bytes.length = bytes := by
  refine ⟨⟨fun i => bytes.getD i 0, 0⟩, ?_⟩
  refine List.ext_getElem (Entropy.length_peek _ _) ?_
  intro i _ hi
  simp [peek, hi]

namespace MessageKey

variable {key : MessageKey} {blob plaintext nonce body tag : Bytes} {fault : KeyFault}

/-! ### Opening -/

lemma decrypt_eq_ok_iff : key.decrypt blob = .ok plaintext ↔ key.unseal? blob = some plaintext := by
  unfold decrypt
  cases key.unseal? blob with
  | none => simp
  | some found => simp

/-- There is one reason to refuse a sealed message: its key does not open it. -/
lemma decrypt_eq_error_iff :
    key.decrypt blob = .error fault ↔ fault = .authenticationFailed ∧ key.unseal? blob = none := by
  unfold decrypt
  cases key.unseal? blob with
  | none => simp [eq_comm]
  | some found => simp

lemma decrypt_encrypt (entropy : Entropy) : key.decrypt (key.encrypt plaintext entropy).1 = .ok plaintext :=
  decrypt_eq_ok_iff.2 (key.unseal?_sealWith (entropy.length_peek nonceSize) plaintext)

/-- What is opened was sealed with the nonce at its front. -/
lemma encrypt_of_decrypt {entropy : Entropy} (h : key.decrypt blob = .ok plaintext)
    (drawn : entropy.peek nonceSize = blob.take nonceSize) : (key.encrypt plaintext entropy).1 = blob := by
  obtain ⟨-, hblob⟩ := eq_sealWith_of_unseal? (decrypt_eq_ok_iff.1 h)
  unfold encrypt
  dsimp only
  rw [drawn, ← hblob]

lemma exists_encrypt_of_decrypt (h : key.decrypt blob = .ok plaintext) :
    ∃ entropy, (key.encrypt plaintext entropy).1 = blob := by
  obtain ⟨hlength, -⟩ := eq_sealWith_of_unseal? (decrypt_eq_ok_iff.1 h)
  obtain ⟨entropy, hentropy⟩ := Entropy.exists_peek (blob.take nonceSize)
  rw [List.length_take_of_le (by omega)] at hentropy
  exact ⟨entropy, encrypt_of_decrypt h hentropy⟩

/-! ### Tags -/

/-- Behind a nonce and a ciphertext, the key opens their tag and no other. -/
lemma decrypt_tagged_iff (hnonce : nonce.length = nonceSize) (htag : tag.length = tagSize) :
    (∃ plaintext, key.decrypt (nonce ++ body ++ tag) = .ok plaintext) ↔ tag = key.tag nonce body := by
  constructor
  · rintro ⟨plaintext, h⟩
    obtain ⟨nonce', hnonce', hsealed⟩ := unseal?_eq_some_iff.1 (decrypt_eq_ok_iff.1 h)
    unfold sealWith at hsealed
    obtain ⟨hfront, rfl⟩ := List.append_inj' hsealed (by rw [htag, length_tag])
    obtain ⟨rfl, rfl⟩ := List.append_inj hfront (by rw [hnonce, hnonce'])
    rfl
  · rintro rfl
    refine ⟨key.crypt nonce body, decrypt_eq_ok_iff.2 (unseal?_eq_some_iff.2 ⟨nonce, hnonce, ?_⟩)⟩
    unfold sealWith
    dsimp only
    rw [crypt_crypt]

end MessageKey

/-- **A key opens exactly what it seals.** What is sealed is the nonce that was drawn and behind it as many bytes as
the plaintext has, and the tag; it is opened as the plaintext, of whatever length. What is opened is at least as long
as a nonce and a tag, and sealing its plaintext gives it again as soon as its nonce is drawn. Of all tags behind a nonce
and a ciphertext just one is opened, and whatever is not opened is refused for this reason. -/
theorem opens_sealed (key : MessageKey) :
    (∀ plaintext entropy,
      key.decrypt (key.encrypt plaintext entropy).1 = .ok plaintext ∧
      (∃ behind, (key.encrypt plaintext entropy).1 = entropy.peek 24 ++ behind ∧
        behind.length = plaintext.length + 16) ∧
      (key.encrypt plaintext entropy).2 = entropy.skip 24) ∧
    (∀ blob plaintext, key.decrypt blob = .ok plaintext →
      ∀ entropy : Entropy, entropy.peek 24 = blob.take 24 → (key.encrypt plaintext entropy).1 = blob) ∧
    (∀ blob plaintext, key.decrypt blob = .ok plaintext ↔ ∃ entropy, (key.encrypt plaintext entropy).1 = blob) ∧
    (∀ blob, blob.length < 40 → key.decrypt blob = .error .authenticationFailed) ∧
    (∀ nonce body : Bytes, nonce.length = 24 →
      ∃! tag : Bytes, tag.length = 16 ∧ ∃ plaintext, key.decrypt (nonce ++ body ++ tag) = .ok plaintext) ∧
    ∀ blob, (∃ plaintext, key.decrypt blob = .ok plaintext) ∨ key.decrypt blob = .error .authenticationFailed := by
  refine ⟨?_, ?_, ?_, ?_, ?_, ?_⟩
  · intro plaintext entropy
    refine ⟨MessageKey.decrypt_encrypt entropy, ⟨_, List.append_assoc _ _ _, ?_⟩, rfl⟩
    rw [List.length_append, MessageKey.length_crypt, MessageKey.length_tag]
    rfl
  · intro blob plaintext h entropy drawn
    exact MessageKey.encrypt_of_decrypt h drawn
  · intro blob plaintext
    constructor
    · exact MessageKey.exists_encrypt_of_decrypt
    · rintro ⟨entropy, rfl⟩
      exact MessageKey.decrypt_encrypt entropy
  · intro blob short
    refine MessageKey.decrypt_eq_error_iff.2 ⟨rfl, ?_⟩
    unfold MessageKey.unseal?
    exact if_pos short
  · intro nonce body hnonce
    refine ⟨key.tag nonce body, ⟨MessageKey.length_tag key nonce body, ?_⟩, ?_⟩
    · exact (MessageKey.decrypt_tagged_iff hnonce (MessageKey.length_tag key nonce body)).2 rfl
    · rintro tag ⟨htag, opened⟩
      exact (MessageKey.decrypt_tagged_iff hnonce htag).1 opened
  · intro blob
    cases h : key.decrypt blob with
    | ok plaintext => exact .inl ⟨plaintext, rfl⟩
    | error fault =>
      obtain ⟨rfl, -⟩ := MessageKey.decrypt_eq_error_iff.1 h
      exact .inr rfl

/-- Three bytes are opened from their sealed form, which another drawing of the same nonce leads to as well; its first 39
bytes are refused, and so are all tags but one behind its nonce. -/
theorem opens_sealed_three :
    let key : MessageKey := ⟨⟨List.replicate 32 7, rfl⟩⟩
    let entropy : Entropy := ⟨fun _ => 1, 0⟩
    let blob := (key.encrypt [1, 2, 3] entropy).1
    key.decrypt blob = .ok [1, 2, 3] ∧
      (key.encrypt [1, 2, 3] ⟨fun i => if i < 30 then 1 else 2, 5⟩).1 = blob ∧
      key.decrypt (blob.take 39) = .error .authenticationFailed ∧
      ∃! tag : Bytes, tag.length = 16 ∧
        ∃ plaintext, key.decrypt (List.replicate 24 1 ++ [4, 5] ++ tag) = .ok plaintext := by
  intro key entropy blob
  obtain ⟨opened, again, -, short, unique, -⟩ := opens_sealed key
  obtain ⟨hopened, ⟨behind, hblob, -⟩, -⟩ := opened [1, 2, 3] entropy
  refine ⟨hopened, again blob _ hopened _ ?_, short _ ?_, unique _ [4, 5] rfl⟩
  · show _ = List.take 24 (key.encrypt [1, 2, 3] entropy).1
    rw [hblob, List.take_left' (entropy.length_peek 24)]
    decide
  · rw [List.length_take]
    omega

end SealedChat
