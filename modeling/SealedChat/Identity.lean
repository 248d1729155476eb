import SealedChat.Cipher.Seal
import SealedChat.Curve.Ed25519
import SealedChat.Bytes.Hex
import SealedChat.Bytes.Utf8
import SealedChat.Decimal.Natural
import SealedChat.Entropy

/-!
# Identities

A participant signs with an identity: a key pair, or a public key alone, which can only check
signatures. A signature covers a message's content together with its place among the sender's
messages and in the key chain.
-/

namespace SealedChat

/-- Why an operation on keys is refused. -/
inductive KeyFault where
  /-- A chat code that is neither six figures nor the spelling of 64 bytes. -/
  | invalidChatCode
  /-- A sealed message that its key does not open. -/
  | authenticationFailed
  /-- An identity without a secret cannot sign. -/
  | cannotSign
  /-- A public key that is no point of the curve. -/
  | invalidPublicKey
  /-- A key of a wrong length. -/
  | invalidKeyLength (expected actual : Nat)
  deriving DecidableEq, Repr

/-- The wording of a refusal. -/
def KeyFault.message : KeyFault → String
  | .invalidChatCode => "Invalid chat code"
  | .authenticationFailed => "Authentication failed: ciphertext rejected"
  | .cannotSign => "Cannot sign: identity holds no private key"
  | .invalidPublicKey => "Invalid public key: signature error: Cannot decompress Edwards point"
  | .invalidKeyLength expected actual =>
    "Invalid key length: expected " ++ Decimal.ofNat expected ++ ", got " ++ Decimal.ofNat actual

/-- Opens a sealed message, or says that its key does not. -/
def MessageKey.decrypt (key : MessageKey) (blob : Bytes) : Except KeyFault Bytes :=
  match key.unseal? blob with
  | some plaintext => .ok plaintext
  | none => .error .authenticationFailed

/-! ### Fingerprints and signed bytes -/

/-- A short name of a public key for people to compare: its SHA-256 digest, byte by byte. -/
def fingerprint (publicKey : Key) : String :=
  ":".intercalate ((sha256 publicKey.bytes).bytes.map fun b => String.ofList (Hex.ofByte b))

/-- The bytes that a message's signature covers: the content, then the two positions. -/
def signingMessage (content : String) (sequence chainIndex : UInt64) : Bytes :=
  Utf8.encode content ++ LittleEndian.ofUInt64 sequence ++ LittleEndian.ofUInt64 chainIndex

/-! ### Identities -/

/-- A key pair, or a public key without its secret. -/
structure Identity where
  secret : Option Key
  publicKey : Key
  deriving DecidableEq

namespace Identity

/-- The identity of a secret seed. -/
def ofSeed (seed : Key) : Identity := ⟨some seed, Ed25519.publicKey seed⟩

/-- A new identity, whose seed is drawn at random. -/
def generate (entropy : Entropy) : Identity × Entropy :=
  (ofSeed ⟨entropy.peek 32, entropy.length_peek 32⟩, entropy.skip 32)

/-- The identity of a secret seed given as bytes. -/
def ofSecretBytes (bytes : Bytes) : Except KeyFault Identity :=
  match Key.ofBytes? bytes with
  | some seed => .ok (ofSeed seed)
  | none => .error (.invalidKeyLength 32 bytes.length)

/-- The identity of a public key given as bytes; it cannot sign. -/
def ofPublicBytes (bytes : Bytes) : Except KeyFault Identity :=
  match Key.ofBytes? bytes with
  | none => .error (.invalidKeyLength 32 bytes.length)
  | some key => if (Curve.Point.decode? key).isSome then .ok ⟨none, key⟩ else .error .invalidPublicKey

/-- Whether the identity holds a secret. -/
def canSign (identity : Identity) : Bool := identity.secret.isSome

/-- The fingerprint of the identity's public key. -/
def fingerprint (identity : Identity) : String := SealedChat.fingerprint identity.publicKey

/-- Signs a message. -/
def sign (identity : Identity) (message : Bytes) : Except KeyFault Bytes :=
  match identity.secret with
  | some seed => .ok (Ed25519.sign seed message)
  | none => .error .cannotSign

/-- Whether a byte string of any length is a signature of the message under the identity's key. -/
def verify (identity : Identity) (message signature : Bytes) : Bool :=
  Ed25519.verify identity.publicKey message signature

/-- What is shown of an identity: never its secret. -/
def shown (identity : Identity) : String :=
  "SigningIdentity \x7b public: \"" ++ Hex.encode identity.publicKey.bytes ++ "\", secret: \"" ++
    (if identity.canSign then "[REDACTED]" else "<none>") ++ "\" \x7d"

end Identity

/-- Whether a byte string is a signature of the message under a public key given as bytes. Bytes that
are no public key have no signatures. -/
def verifySignature (publicKey message signature : Bytes) : Bool :=
  match Identity.ofPublicBytes publicKey with
  | .ok identity => identity.verify message signature
  | .error _ => false

end SealedChat
