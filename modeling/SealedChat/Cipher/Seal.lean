import SealedChat.Cipher.ChaCha
import SealedChat.Cipher.Poly1305
import SealedChat.Entropy

/-!
# Sealed messages

A plaintext is sealed under a message key and a nonce of 24 bytes: it is encrypted with XChaCha20
and the ciphertext is authenticated with Poly1305. The sealed form is the nonce, the ciphertext and
the tag of sixteen bytes, in this order. Opening accepts exactly what sealing produces
(`unseal?_eq_some_iff`).
-/

namespace SealedChat

/-- The key that seals one message. -/
structure MessageKey where
  key : Key
  deriving DecidableEq

namespace MessageKey

/-- What is shown of a message key. -/
def shown : String := "MessageKey([REDACTED])"

/-- Bytes of a nonce. -/
def nonceSize : Nat := 24

/-- Bytes of a tag. -/
def tagSize : Nat := 16

/-! ### Encryption and tags -/

/-- The key for one nonce: sixteen bytes of the nonce are spent on it. -/
def forNonce (key : MessageKey) (nonce : Bytes) : Key := ChaCha.subkey key.key (nonce.take 16)

/-- The rest of a nonce, behind four zero bytes. -/
def shortNonce (nonce : Bytes) : Bytes := [0, 0, 0, 0] ++ nonce.drop 16

/-- Encrypts or decrypts: the key stream is added to the text. -/
def crypt (key : MessageKey) (nonce text : Bytes) : Bytes :=
  text.xor (ChaCha.keystream (key.forNonce nonce) (shortNonce nonce) text.length)

/-- What a tag covers: the ciphertext, zeros up to a multiple of sixteen bytes, the length of the
additional data, of which there is none, and the length of the ciphertext. -/
def tagged (ciphertext : Bytes) : Bytes :=
  ciphertext.padTo ((ciphertext.length + 15) / 16 * 16) ++
    LittleEndian.encode 8 0 ++ LittleEndian.encode 8 ciphertext.length

/-- The tag of a ciphertext. The first block of key stream holds the key of the tag. -/
def tag (key : MessageKey) (nonce ciphertext : Bytes) : Bytes :=
  Poly1305.tag ((ChaCha.block (key.forNonce nonce) (shortNonce nonce) 0).take 32) (tagged ciphertext)

@[simp] theorem length_crypt (key : MessageKey) (nonce text : Bytes) :
    (key.crypt nonce text).length = text.length := by
  have := ChaCha.le_length_keystream (key.forNonce nonce) (shortNonce nonce) text.length
  simp [crypt]; omega

@[simp] theorem crypt_crypt (key : MessageKey) (nonce text : Bytes) :
    key.crypt nonce (key.crypt nonce text) = text := by
  have := ChaCha.le_length_keystream (key.forNonce nonce) (shortNonce nonce) text.length
  rw [crypt, length_crypt, crypt, Bytes.xor_xor_cancel this]

@[simp] theorem length_tag (key : MessageKey) (nonce ciphertext : Bytes) :
    (key.tag nonce ciphertext).length = tagSize := Poly1305.length_tag _ _

/-! ### Sealing and opening -/

/-- The sealed form of a plaintext under a given nonce. -/
def sealWith (key : MessageKey) (nonce plaintext : Bytes) : Bytes :=
  let ciphertext := key.crypt nonce plaintext
  nonce ++ ciphertext ++ key.tag nonce ciphertext

/-- Seals a plaintext under a nonce drawn at random. -/
def encrypt (key : MessageKey) (plaintext : Bytes) (entropy : Entropy) : Bytes × Entropy :=
  (key.sealWith (entropy.peek nonceSize) plaintext, entropy.skip nonceSize)

/-- Opens a sealed message. Nothing comes out unless the tag is that of the ciphertext. -/
def unseal? (key : MessageKey) (blob : Bytes) : Option Bytes :=
  if blob.length < nonceSize + tagSize then none
  else
    let nonce := blob.take nonceSize
    let body := blob.drop nonceSize
    let ciphertext := body.take (body.length - tagSize)
    if key.tag nonce ciphertext = body.drop (body.length - tagSize) then some (key.crypt nonce ciphertext)
    else none

theorem length_sealWith (key : MessageKey) (nonce plaintext : Bytes) :
    (key.sealWith nonce plaintext).length = nonce.length + plaintext.length + tagSize := by
  simp [sealWith]; omega

theorem unseal?_sealWith (key : MessageKey) {nonce : Bytes} (h : nonce.length = nonceSize)
    (plaintext : Bytes) : key.unseal? (key.sealWith nonce plaintext) = some plaintext := by
  have hlen := key.length_sealWith nonce plaintext
  have htake : (key.sealWith nonce plaintext).take nonceSize = nonce := by
    simp [sealWith, ← h]
  have hdrop : (key.sealWith nonce plaintext).drop nonceSize =
      key.crypt nonce plaintext ++ key.tag nonce (key.crypt nonce plaintext) := by
    simp [sealWith, ← h]
  rw [unseal?, if_neg (by omega)]
  simp only [htake, hdrop]
  simp

theorem eq_sealWith_of_unseal? {key : MessageKey} {blob plaintext : Bytes}
    (h : key.unseal? blob = some plaintext) :
    nonceSize + tagSize ≤ blob.length ∧ blob = key.sealWith (blob.take nonceSize) plaintext := by
  rw [unseal?] at h
  split at h
  · simp at h
  rename_i hlen
  simp only at h
  split at h
  · rename_i htag
    obtain rfl := Option.some.inj h
    refine ⟨by omega, ?_⟩
    simp only [sealWith, crypt_crypt, htag, List.append_assoc, List.take_append_drop]
  · simp at h

/-- **Opening accepts exactly what sealing produces.** -/
theorem unseal?_eq_some_iff {key : MessageKey} {blob plaintext : Bytes} :
    key.unseal? blob = some plaintext ↔
      ∃ nonce : Bytes, nonce.length = nonceSize ∧ blob = key.sealWith nonce plaintext := by
  constructor
  · intro h
    obtain ⟨hlen, heq⟩ := eq_sealWith_of_unseal? h
    exact ⟨blob.take nonceSize, by simp; omega, heq⟩
  · rintro ⟨nonce, hn, rfl⟩
    exact key.unseal?_sealWith hn plaintext

end MessageKey

end SealedChat
