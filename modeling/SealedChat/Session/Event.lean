import SealedChat.Wire.Frame

/-!
# Events

What a session has to tell the people in front of it.
-/

namespace SealedChat

/-- A message that was opened and read. -/
structure OpenedMessage where
  username : String
  content : String
  /-- The sender's clock. -/
  timestamp : Int64
  /-- The server's clock when the message came in. -/
  serverTimestamp : Int64
  messageId : String
  sequence : UInt64
  /-- The index of the key that opened the message. -/
  chainIndex : UInt64
  /-- Whether the signature is good. -/
  verified : Bool
  /-- Whether the message carries the receiver's own name. It is no proof of who sent it. -/
  isOwn : Bool
  /-- The fingerprint of the sender's public key, if it has the length of one. -/
  senderFingerprint : Option String
  deriving DecidableEq

/-- Something that happened. -/
inductive Event where
  | chatCreated (room : RoomId) (kind : ChatKind)
  | joinedChat (room : RoomId) (kind : ChatKind) (participants : UInt64)
  | messageOpened (message : OpenedMessage)
  | userJoined (room : RoomId) (username : String)
  | userLeft (room : RoomId) (username : String)
  /-- The server reports a fault, or a frame cannot be read. -/
  | error (message : String)
  | messageAck (messageId : String)
  deriving DecidableEq

end SealedChat
