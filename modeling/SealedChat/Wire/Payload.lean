import SealedChat.Wire.Format

/-!
# Payloads

A payload is the plaintext of a message: what was said, who says so, and the positions in the chat and
in the key chain that the signature covers. Bytes behind its last field are ignored.
-/

namespace SealedChat

open Wire

/-- A signed chat message before it is sealed and after it was opened. -/
structure Payload where
  username : String
  content : String
  /-- The sender's clock, in seconds. -/
  timestamp : Int64
  /-- The number of the message among the sender's messages of the chat. -/
  sequence : UInt64
  /-- The sender's public key. -/
  publicKey : Bytes
  signature : Bytes
  /-- The place in the chain of the key that seals the message. -/
  chainIndex : UInt64
  deriving DecidableEq

namespace Payload

/-- The layout of a payload: its fields in order. -/
def format : Format Payload where
  write p :=
    Format.text.write p.username ++ Format.text.write p.content ++ Format.int64.write p.timestamp ++
    Format.uint64.write p.sequence ++ Format.bytes.write p.publicKey ++
    Format.bytes.write p.signature ++ Format.uint64.write p.chainIndex
  read := do
    let username ← Format.text.read
    let content ← Format.text.read
    let timestamp ← Format.int64.read
    let sequence ← Format.uint64.read
    let publicKey ← Format.bytes.read
    let signature ← Format.bytes.read
    let chainIndex ← Format.uint64.read
    return { username, content, timestamp, sequence, publicKey, signature, chainIndex }

/-- The bytes of a payload. -/
def encode (p : Payload) : Bytes := format.write p

/-- The payload at the front of a byte string. -/
def decode (bytes : Bytes) : Except DecodeFault Payload := format.read.decode bytes

end Payload

/-- The wording for a plaintext that is no payload. -/
def Payload.malformed (fault : DecodeFault) : String := "Malformed payload: " ++ fault.message

end SealedChat
