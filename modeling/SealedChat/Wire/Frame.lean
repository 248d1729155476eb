import SealedChat.Wire.Format

/-!
# Frames

What a client and the server say to each other. A frame starts with the number of its kind, and its
fields follow. A server frame of a kind that is not known reads as an error frame which names the
number, so that a newer server does not stop an older client; a client frame has no such way out.
-/

namespace SealedChat

open Wire

/-! ### Rooms -/

/-- The name under which the server routes a chat. It reveals nothing about the chat code. -/
structure RoomId where
  text : String
  deriving DecidableEq, Repr

/-- Who may take part in a chat. -/
inductive ChatKind where
  | oneToOne
  /-- A group, with a limit on its size or without. -/
  | group (limit : Option UInt64)
  deriving DecidableEq, Repr

namespace Wire.Format

/-- The layout of a room's name: its text. -/
def roomId : Format RoomId where
  write room := text.write room.text
  read := return ⟨← text.read⟩

/-- The layout of a kind of chat. -/
def chatKind : Format ChatKind where
  write
    | .oneToOne => uint32.write 0
    | .group limit => uint32.write 1 ++ (optional uint64).write limit
  read := do
    match ← uint32.read with
    | 0 => return .oneToOne
    | 1 => return .group (← (optional uint64).read)
    | number => throw (.unknownKind number 2)

end Wire.Format

/-! ### Frames of clients -/

/-- A frame that a client sends. -/
inductive ClientFrame where
  | createChat (room : RoomId) (kind : ChatKind) (username : String)
  | joinChat (room : RoomId) (username : String)
  | sendMessage (room : RoomId) (ciphertext : Bytes) (messageId : String)
  | leaveChat (room : RoomId)
  deriving DecidableEq

namespace ClientFrame

/-- The layout of a client frame. -/
def format : Format ClientFrame where
  write
    | .createChat room kind username =>
      Format.uint32.write 0 ++ Format.roomId.write room ++ Format.chatKind.write kind ++
        Format.text.write username
    | .joinChat room username =>
      Format.uint32.write 1 ++ Format.roomId.write room ++ Format.text.write username
    | .sendMessage room ciphertext messageId =>
      Format.uint32.write 2 ++ Format.roomId.write room ++ Format.bytes.write ciphertext ++
        Format.text.write messageId
    | .leaveChat room => Format.uint32.write 3 ++ Format.roomId.write room
  read := do
    match ← Format.uint32.read with
    | 0 => return .createChat (← Format.roomId.read) (← Format.chatKind.read) (← Format.text.read)
    | 1 => return .joinChat (← Format.roomId.read) (← Format.text.read)
    | 2 => return .sendMessage (← Format.roomId.read) (← Format.bytes.read) (← Format.text.read)
    | 3 => return .leaveChat (← Format.roomId.read)
    | number => throw (.unknownKind number 4)

/-- The bytes of a frame. -/
def encode (frame : ClientFrame) : Bytes := format.write frame

/-- The frame at the front of a byte string. -/
def decode (bytes : Bytes) : Except DecodeFault ClientFrame := format.read.decode bytes

end ClientFrame

/-! ### Frames of the server -/

/-- A frame that the server sends. -/
inductive ServerFrame where
  | chatCreated (room : RoomId) (kind : ChatKind)
  | joinedChat (room : RoomId) (kind : ChatKind) (participants : UInt64)
  | error (message : String)
  | messageReceived (room : RoomId) (ciphertext : Bytes) (timestamp : Int64) (messageId : String)
  | messageAck (messageId : String)
  | userJoined (room : RoomId) (username : String)
  | userLeft (room : RoomId) (username : String)
  deriving DecidableEq

namespace ServerFrame

/-- How many kinds of server frame there are. -/
def kindCount : Nat := 7

/-- The layout of a server frame. -/
def format : Format ServerFrame where
  write
    | .chatCreated room kind =>
      Format.uint32.write 0 ++ Format.roomId.write room ++ Format.chatKind.write kind
    | .joinedChat room kind participants =>
      Format.uint32.write 1 ++ Format.roomId.write room ++ Format.chatKind.write kind ++
        Format.uint64.write participants
    | .error message => Format.uint32.write 2 ++ Format.text.write message
    | .messageReceived room ciphertext timestamp messageId =>
      Format.uint32.write 3 ++ Format.roomId.write room ++ Format.bytes.write ciphertext ++
        Format.int64.write timestamp ++ Format.text.write messageId
    | .messageAck messageId => Format.uint32.write 4 ++ Format.text.write messageId
    | .userJoined room username =>
      Format.uint32.write 5 ++ Format.roomId.write room ++ Format.text.write username
    | .userLeft room username =>
      Format.uint32.write 6 ++ Format.roomId.write room ++ Format.text.write username
  read := do
    match ← Format.uint32.read with
    | 0 => return .chatCreated (← Format.roomId.read) (← Format.chatKind.read)
    | 1 => return .joinedChat (← Format.roomId.read) (← Format.chatKind.read) (← Format.uint64.read)
    | 2 => return .error (← Format.text.read)
    | 3 =>
      return .messageReceived (← Format.roomId.read) (← Format.bytes.read) (← Format.int64.read)
        (← Format.text.read)
    | 4 => return .messageAck (← Format.text.read)
    | 5 => return .userJoined (← Format.roomId.read) (← Format.text.read)
    | 6 => return .userLeft (← Format.roomId.read) (← Format.text.read)
    | number => throw (.unknownKind number kindCount)

/-- The bytes of a frame. -/
def encode (frame : ServerFrame) : Bytes := format.write frame

/-- What a frame of an unknown kind reads as. -/
def ofUnknownKind (number : UInt32) : ServerFrame :=
  .error ("Unknown server message variant: " ++ Decimal.ofNat number.toNat)

/-- The frame at the front of a byte string. -/
def decode (bytes : Bytes) : Except DecodeFault ServerFrame :=
  match Format.uint32.read.decode bytes with
  | .ok number => if kindCount ≤ number.toNat then .ok (ofUnknownKind number) else format.read.decode bytes
  | .error _ => format.read.decode bytes

end ServerFrame

/-- The wording for bytes that are no frame. -/
def Wire.malformedFrame (fault : DecodeFault) : String := "Malformed wire message: " ++ fault.message

end SealedChat
