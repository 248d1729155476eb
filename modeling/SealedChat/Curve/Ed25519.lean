import SealedChat.Curve.Point
import SealedChat.Hash.Sha2

/-!
# Ed25519 signatures

A secret seed gives a number and a hashing key; the public key is that multiple of the base point.
A signature is a point and a number below the order of the base point. Checking recomputes the point
and compares its bytes, so that a point with several spellings is accepted in one only; public keys
of small order and public keys with other spellings are accepted.
-/

namespace SealedChat.Ed25519

open Curve LittleEndian

/-- The number that a digest stands for, modulo the order of the base point. -/
def scalar (digest : Bytes) : Nat := decode digest % groupOrder

/-- The number that a seed stands for: a multiple of eight with bit 254 as its highest bit. -/
def secretScalar (seed : Key) : Nat :=
  let n := decode ((sha512 seed.bytes).take 32) % 2 ^ 254
  2 ^ 254 + n / 8 * 8

/-- The public key of a seed. -/
def publicKey (seed : Key) : Key := (basePoint.multiple (secretScalar seed)).encode

/-- What binds a signature to its point, the public key and the message. -/
def challenge (point signer message : Bytes) : Nat := scalar (sha512 (point ++ signer ++ message))

/-- The signature of a message, 64 bytes. -/
def sign (seed : Key) (message : Bytes) : Bytes :=
  let nonce := scalar (sha512 ((sha512 seed.bytes).drop 32 ++ message))
  let point := (basePoint.multiple nonce).encode.bytes
  let k := challenge point (publicKey seed).bytes message
  point ++ encode 32 ((nonce + k * secretScalar seed) % groupOrder)

@[simp] theorem length_sign (seed : Key) (message : Bytes) : (sign seed message).length = 64 := by
  simp [sign, Key.length_eq]

/-- Whether a byte string is a signature of the message under the public key of `signer`. -/
def verify (signer : Key) (message signature : Bytes) : Bool :=
  match Point.decode? signer with
  | none => false
  | some a =>
    let point := signature.take 32
    let s := decode (signature.drop 32)
    let k := challenge point signer.bytes message
    signature.length == 64 && decide (s < groupOrder) &&
      ((basePoint.multiple s).add (a.multiple k).neg).encode.bytes == point

end SealedChat.Ed25519
