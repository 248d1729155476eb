import SealedChat.Proofs.Wire.Exact

/-!
# Payloads and frames are read exactly

The law of `Proofs.Wire.Exact` for the three kinds of message: a payload, a frame of a client and a frame
of the server are read from exactly those byte strings that start with the message as it is written. In
particular a message whose texts and byte strings fit is read back from its bytes.
-/

namespace SealedChat

open Wire Wire.Format

/-! ### Payloads -/

namespace Payload

/-- The texts and byte strings of a payload are written with their lengths. -/
structure Fits (p : Payload) : Prop where
  username : Wire.Fits (Utf8.encode p.username)
  content : Wire.Fits (Utf8.encode p.content)
  publicKey : Wire.Fits p.publicKey
  signature : Wire.Fits p.signature

theorem read_iff {p : Payload} {bytes rest : Bytes} :
    format.read bytes = .ok (p, rest) ↔ p.Fits ∧ bytes = format.write p ++ rest := by
  simp only [format, Reader.bind_eq_ok_iff, Reader.pure_eq_ok_iff, text_read_iff, int64_read_iff,
    uint64_read_iff, bytes_read_iff]
  constructor
  · rintro ⟨username, _, ⟨hu, rfl⟩, content, _, ⟨hc, rfl⟩, timestamp, _, rfl, sequence, _, rfl,
      publicKey, _, ⟨hp, rfl⟩, signature, _, ⟨hs, rfl⟩, chainIndex, _, rfl, rfl, rfl⟩
    exact ⟨⟨hu, hc, hp, hs⟩, by simp only [List.append_assoc]⟩
  · rintro ⟨⟨hu, hc, hp, hs⟩, rfl⟩
    refine ⟨_, _, ⟨hu, by simp only [List.append_assoc]⟩, _, _, ⟨hc, rfl⟩, _, _, rfl, _, _, rfl,
      _, _, ⟨hp, rfl⟩, _, _, ⟨hs, rfl⟩, _, _, rfl, rfl, rfl⟩

theorem decode_encode {p : Payload} (h : p.Fits) : decode p.encode = .ok p :=
  decode_write (read_iff.2 ⟨h, rfl⟩)

/-- A payload whose bytes fit has fields that fit. -/
theorem fits_of_encode {p : Payload} (h : Wire.Fits p.encode) : p.Fits := by
  have hlen : p.encode.length < 2 ^ 64 := h
  simp only [encode, format, List.length_append, text, Format.bytes] at hlen
  constructor <;> unfold Wire.Fits <;> omega

end Payload

/-! ### Frames of clients -/

namespace ClientFrame

/-- The texts and byte strings of a frame are written with their lengths. -/
def Fits : ClientFrame → Prop
  | .createChat room _ username => Wire.Fits (Utf8.encode room.text) ∧ Wire.Fits (Utf8.encode username)
  | .joinChat room username => Wire.Fits (Utf8.encode room.text) ∧ Wire.Fits (Utf8.encode username)
  | .sendMessage room ciphertext messageId =>
    Wire.Fits (Utf8.encode room.text) ∧ Wire.Fits ciphertext ∧ Wire.Fits (Utf8.encode messageId)
  | .leaveChat room => Wire.Fits (Utf8.encode room.text)

/-- What is read as a frame is the frame as it is written, and a rest. -/
lemma eq_write_of_read {frame : ClientFrame} {bytes rest : Bytes} (h : format.read bytes = .ok (frame, rest)) :
    frame.Fits ∧ bytes = format.write frame ++ rest := by
  simp only [format, Reader.bind_eq_ok_iff, uint32_read_iff] at h ⊢
  obtain ⟨number, mid, rfl, h⟩ := h
  split at h
  · simp only [Reader.bind_eq_ok_iff, Reader.pure_eq_ok_iff, roomId_read_iff, chatKind_read_iff,
      text_read_iff] at h
    obtain ⟨room, _, ⟨hr, rfl⟩, kind, _, rfl, username, _, ⟨hu, rfl⟩, rfl, rfl⟩ := h
    exact ⟨⟨hr, hu⟩, by simp only [List.append_assoc]⟩
  · simp only [Reader.bind_eq_ok_iff, Reader.pure_eq_ok_iff, roomId_read_iff, text_read_iff] at h
    obtain ⟨room, _, ⟨hr, rfl⟩, username, _, ⟨hu, rfl⟩, rfl, rfl⟩ := h
    exact ⟨⟨hr, hu⟩, by simp only [List.append_assoc]⟩
  · simp only [Reader.bind_eq_ok_iff, Reader.pure_eq_ok_iff, roomId_read_iff, bytes_read_iff,
      text_read_iff] at h
    obtain ⟨room, _, ⟨hr, rfl⟩, ciphertext, _, ⟨hc, rfl⟩, messageId, _, ⟨hm, rfl⟩, rfl, rfl⟩ := h
    exact ⟨⟨hr, hc, hm⟩, by simp only [List.append_assoc]⟩
  · simp only [Reader.bind_eq_ok_iff, Reader.pure_eq_ok_iff, roomId_read_iff] at h
    obtain ⟨room, _, ⟨hr, rfl⟩, rfl, rfl⟩ := h
    exact ⟨hr, by simp only [List.append_assoc]⟩
  · exact absurd h Reader.throw_ne_ok

/-- A frame is read back from the front of what follows. -/
lemma read_write {frame : ClientFrame} (hfits : frame.Fits) (rest : Bytes) :
    format.read (format.write frame ++ rest) = .ok (frame, rest) := by
  simp only [format, Reader.bind_eq_ok_iff, uint32_read_iff]
  cases frame with
  | createChat room kind username =>
    refine ⟨0, _, by simp only [List.append_assoc]; rfl, ?_⟩
    simp only [Reader.bind_eq_ok_iff, Reader.pure_eq_ok_iff, roomId_read_iff, chatKind_read_iff, text_read_iff]
    exact ⟨_, _, ⟨hfits.1, rfl⟩, _, _, rfl, _, _, ⟨hfits.2, rfl⟩, rfl, rfl⟩
  | joinChat room username =>
    refine ⟨1, _, by simp only [List.append_assoc]; rfl, ?_⟩
    simp only [Reader.bind_eq_ok_iff, Reader.pure_eq_ok_iff, roomId_read_iff, text_read_iff]
    exact ⟨_, _, ⟨hfits.1, rfl⟩, _, _, ⟨hfits.2, rfl⟩, rfl, rfl⟩
  | sendMessage room ciphertext messageId =>
    refine ⟨2, _, by simp only [List.append_assoc]; rfl, ?_⟩
    simp only [Reader.bind_eq_ok_iff, Reader.pure_eq_ok_iff, roomId_read_iff, bytes_read_iff, text_read_iff]
    exact ⟨_, _, ⟨hfits.1, rfl⟩, _, _, ⟨hfits.2.1, rfl⟩, _, _, ⟨hfits.2.2, rfl⟩, rfl, rfl⟩
  | leaveChat room =>
    refine ⟨3, _, by simp only [List.append_assoc]; rfl, ?_⟩
    simp only [Reader.bind_eq_ok_iff, Reader.pure_eq_ok_iff, roomId_read_iff]
    exact ⟨_, _, ⟨hfits, rfl⟩, rfl, rfl⟩

theorem read_iff {frame : ClientFrame} {bytes rest : Bytes} :
    format.read bytes = .ok (frame, rest) ↔ frame.Fits ∧ bytes = format.write frame ++ rest := by
  constructor
  · exact eq_write_of_read
  · rintro ⟨hfits, rfl⟩
    exact read_write hfits rest

theorem decode_encode {frame : ClientFrame} (h : frame.Fits) : decode frame.encode = .ok frame :=
  decode_write (read_write h [])

/-- A frame whose bytes fit has fields that fit. -/
theorem fits_of_encode {frame : ClientFrame} (h : Wire.Fits frame.encode) : frame.Fits := by
  have hlen : frame.encode.length < 2 ^ 64 := h
  cases frame with
  | createChat | joinChat | sendMessage | leaveChat =>
    simp only [encode, format, List.length_append, roomId, text, Format.bytes] at hlen
    unfold Fits Wire.Fits
    omega

/-- The bytes of a frame with a message determine what is sealed in it. -/
theorem sendMessage_inj {room : RoomId} {a b : Bytes} {messageId : String}
    (h : (sendMessage room a messageId).encode = (sendMessage room b messageId).encode) : a = b := by
  simp only [encode, format, Format.bytes, writeLength, List.append_assoc, List.append_cancel_left_eq] at h
  have hlen : a.length = b.length := by
    have := congrArg List.length h
    simp only [List.length_append, uint64, LittleEndian.length_ofUInt64] at this
    omega
  rw [hlen] at h
  exact List.append_cancel_right (List.append_cancel_left h)

end ClientFrame

/-! ### Frames of the server -/

namespace ServerFrame

/-- The texts and byte strings of a frame are written with their lengths. -/
def Fits : ServerFrame → Prop
  | .chatCreated room _ => Wire.Fits (Utf8.encode room.text)
  | .joinedChat room _ _ => Wire.Fits (Utf8.encode room.text)
  | .error message => Wire.Fits (Utf8.encode message)
  | .messageReceived room ciphertext _ messageId =>
    Wire.Fits (Utf8.encode room.text) ∧ Wire.Fits ciphertext ∧ Wire.Fits (Utf8.encode messageId)
  | .messageAck messageId => Wire.Fits (Utf8.encode messageId)
  | .userJoined room username => Wire.Fits (Utf8.encode room.text) ∧ Wire.Fits (Utf8.encode username)
  | .userLeft room username => Wire.Fits (Utf8.encode room.text) ∧ Wire.Fits (Utf8.encode username)

/-- What is read as a frame is the frame as it is written, and a rest. -/
lemma eq_write_of_read {frame : ServerFrame} {bytes rest : Bytes} (h : format.read bytes = .ok (frame, rest)) :
    frame.Fits ∧ bytes = format.write frame ++ rest := by
  simp only [format, Reader.bind_eq_ok_iff, uint32_read_iff] at h ⊢
  obtain ⟨number, mid, rfl, h⟩ := h
  split at h
  · simp only [Reader.bind_eq_ok_iff, Reader.pure_eq_ok_iff, roomId_read_iff, chatKind_read_iff] at h
    obtain ⟨room, _, ⟨hr, rfl⟩, kind, _, rfl, rfl, rfl⟩ := h
    exact ⟨hr, by simp only [List.append_assoc]⟩
  · simp only [Reader.bind_eq_ok_iff, Reader.pure_eq_ok_iff, roomId_read_iff, chatKind_read_iff,
      uint64_read_iff] at h
    obtain ⟨room, _, ⟨hr, rfl⟩, kind, _, rfl, participants, _, rfl, rfl, rfl⟩ := h
    exact ⟨hr, by simp only [List.append_assoc]⟩
  · simp only [Reader.bind_eq_ok_iff, Reader.pure_eq_ok_iff, text_read_iff] at h
    obtain ⟨message, _, ⟨hm, rfl⟩, rfl, rfl⟩ := h
    exact ⟨hm, by simp only [List.append_assoc]⟩
  · simp only [Reader.bind_eq_ok_iff, Reader.pure_eq_ok_iff, roomId_read_iff, bytes_read_iff,
      int64_read_iff, text_read_iff] at h
    obtain ⟨room, _, ⟨hr, rfl⟩, ciphertext, _, ⟨hc, rfl⟩, timestamp, _, rfl, messageId, _, ⟨hm, rfl⟩, rfl, rfl⟩ := h
    exact ⟨⟨hr, hc, hm⟩, by simp only [List.append_assoc]⟩
  · simp only [Reader.bind_eq_ok_iff, Reader.pure_eq_ok_iff, text_read_iff] at h
    obtain ⟨messageId, _, ⟨hm, rfl⟩, rfl, rfl⟩ := h
    exact ⟨hm, by simp only [List.append_assoc]⟩
  · simp only [Reader.bind_eq_ok_iff, Reader.pure_eq_ok_iff, roomId_read_iff, text_read_iff] at h
    obtain ⟨room, _, ⟨hr, rfl⟩, username, _, ⟨hu, rfl⟩, rfl, rfl⟩ := h
    exact ⟨⟨hr, hu⟩, by simp only [List.append_assoc]⟩
  · simp only [Reader.bind_eq_ok_iff, Reader.pure_eq_ok_iff, roomId_read_iff, text_read_iff] at h
    obtain ⟨room, _, ⟨hr, rfl⟩, username, _, ⟨hu, rfl⟩, rfl, rfl⟩ := h
    exact ⟨⟨hr, hu⟩, by simp only [List.append_assoc]⟩
  · exact absurd h Reader.throw_ne_ok

/-- A frame is read back from the front of what follows. -/
lemma read_write {frame : ServerFrame} (hfits : frame.Fits) (rest : Bytes) :
    format.read (format.write frame ++ rest) = .ok (frame, rest) := by
  simp only [format, Reader.bind_eq_ok_iff, uint32_read_iff]
  cases frame with
  | chatCreated room kind =>
    refine ⟨0, _, by simp only [List.append_assoc]; rfl, ?_⟩
    simp only [Reader.bind_eq_ok_iff, Reader.pure_eq_ok_iff, roomId_read_iff, chatKind_read_iff]
    exact ⟨_, _, ⟨hfits, rfl⟩, _, _, rfl, rfl, rfl⟩
  | joinedChat room kind participants =>
    refine ⟨1, _, by simp only [List.append_assoc]; rfl, ?_⟩
    simp only [Reader.bind_eq_ok_iff, Reader.pure_eq_ok_iff, roomId_read_iff, chatKind_read_iff, uint64_read_iff]
    exact ⟨_, _, ⟨hfits, rfl⟩, _, _, rfl, _, _, rfl, rfl, rfl⟩
  | error message =>
    refine ⟨2, _, by simp only [List.append_assoc]; rfl, ?_⟩
    simp only [Reader.bind_eq_ok_iff, Reader.pure_eq_ok_iff, text_read_iff]
    exact ⟨_, _, ⟨hfits, rfl⟩, rfl, rfl⟩
  | messageReceived room ciphertext timestamp messageId =>
    refine ⟨3, _, by simp only [List.append_assoc]; rfl, ?_⟩
    simp only [Reader.bind_eq_ok_iff, Reader.pure_eq_ok_iff, roomId_read_iff, bytes_read_iff, int64_read_iff,
      text_read_iff]
    exact ⟨_, _, ⟨hfits.1, rfl⟩, _, _, ⟨hfits.2.1, rfl⟩, _, _, rfl, _, _, ⟨hfits.2.2, rfl⟩, rfl, rfl⟩
  | messageAck messageId =>
    refine ⟨4, _, by simp only [List.append_assoc]; rfl, ?_⟩
    simp only [Reader.bind_eq_ok_iff, Reader.pure_eq_ok_iff, text_read_iff]
    exact ⟨_, _, ⟨hfits, rfl⟩, rfl, rfl⟩
  | userJoined room username =>
    refine ⟨5, _, by simp only [List.append_assoc]; rfl, ?_⟩
    simp only [Reader.bind_eq_ok_iff, Reader.pure_eq_ok_iff, roomId_read_iff, text_read_iff]
    exact ⟨_, _, ⟨hfits.1, rfl⟩, _, _, ⟨hfits.2, rfl⟩, rfl, rfl⟩
  | userLeft room username =>
    refine ⟨6, _, by simp only [List.append_assoc]; rfl, ?_⟩
    simp only [Reader.bind_eq_ok_iff, Reader.pure_eq_ok_iff, roomId_read_iff, text_read_iff]
    exact ⟨_, _, ⟨hfits.1, rfl⟩, _, _, ⟨hfits.2, rfl⟩, rfl, rfl⟩

theorem read_iff {frame : ServerFrame} {bytes rest : Bytes} :
    format.read bytes = .ok (frame, rest) ↔ frame.Fits ∧ bytes = format.write frame ++ rest := by
  constructor
  · exact eq_write_of_read
  · rintro ⟨hfits, rfl⟩
    exact read_write hfits rest

/-- A frame whose bytes fit has fields that fit. -/
theorem fits_of_encode {frame : ServerFrame} (h : Wire.Fits frame.encode) : frame.Fits := by
  have hlen : frame.encode.length < 2 ^ 64 := h
  cases frame with
  | chatCreated | joinedChat | error | messageReceived | messageAck | userJoined | userLeft =>
    simp only [encode, format, List.length_append, roomId, text, Format.bytes] at hlen
    unfold Fits Wire.Fits
    omega

/-- A frame starts with the number of its kind, and its number is known. -/
lemma exists_number (frame : ServerFrame) :
    ∃ number mid, frame.encode = uint32.write number ++ mid ∧ number.toNat < kindCount := by
  cases frame with
  | chatCreated => exact ⟨0, _, List.append_assoc _ _ _, by decide⟩
  | joinedChat => exact ⟨1, _, by simp only [encode, format, List.append_assoc]; rfl, by decide⟩
  | error => exact ⟨2, _, rfl, by decide⟩
  | messageReceived => exact ⟨3, _, by simp only [encode, format, List.append_assoc]; rfl, by decide⟩
  | messageAck => exact ⟨4, _, rfl, by decide⟩
  | userJoined => exact ⟨5, _, List.append_assoc _ _ _, by decide⟩
  | userLeft => exact ⟨6, _, List.append_assoc _ _ _, by decide⟩

theorem decode_encode {frame : ServerFrame} (h : frame.Fits) : decode frame.encode = .ok frame := by
  obtain ⟨number, mid, hencode, hnumber⟩ := frame.exists_number
  have hread : uint32.read.decode frame.encode = .ok number :=
    Reader.decode_eq_ok_iff.2 ⟨mid, uint32_read_iff.2 hencode⟩
  have hformat : format.read.decode frame.encode = .ok frame := decode_write (read_write h [])
  rw [decode, hread]
  simp only
  rw [if_neg (by omega), hformat]

end ServerFrame

end SealedChat
