import SealedChat.Proofs.Wire.Messages

/-!
# What is decoded and what is refused

A payload and a frame of a client are decoded from exactly the byte strings that start with their bytes, and
so is a frame of the server, but for byte strings that start with the number of an unknown kind
(`payload_exact`, `frames_exact`). All other byte strings are refused. So messages are self-delimiting: none
is written as the beginning of another one, and none is read from a part of its bytes.
-/

namespace SealedChat

open Wire Wire.Format

/-! ### Self-delimiting messages -/

namespace Wire

/-- The end of a message shows in its bytes: no two messages are written alike, none is written as the
beginning of another one, and what is cut short is refused. -/
structure SelfDelimiting {α : Type} (fits : α → Prop) (encode : α → Bytes)
    (decode : Bytes → Except DecodeFault α) : Prop where
  injective : ∀ a b, fits a → fits b → encode a = encode b → a = b
  noPrefix : ∀ a b, fits a → fits b → encode a <+: encode b → a = b
  cut : ∀ bytes a, fits a → bytes <+: encode a → bytes ≠ encode a → ∃ fault, decode bytes = .error fault

section Decoder

variable {α : Type} {fits : α → Prop} {encode : α → Bytes} {decode : Bytes → Except DecodeFault α}

lemma exists_error_iff {x : Except DecodeFault α} : (∃ fault, x = .error fault) ↔ ¬ ∃ a, x = .ok a := by
  cases x with
  | error fault => simp
  | ok a => simp

lemma eq_of_prefix (reads : ∀ a, fits a → ∀ rest, decode (encode a ++ rest) = .ok a) {a b : α} (ha : fits a)
    (hb : fits b) (h : encode a <+: encode b) : a = b := by
  obtain ⟨rest, hrest⟩ := h
  have hread := reads b hb []
  rw [List.append_nil, ← hrest, reads a ha rest] at hread
  exact Except.ok.inj hread

/-- A decoder that reads every message, whatever follows it, and accepts no part of a message unless a
message is written there. -/
lemma SelfDelimiting.mk_of_reads (reads : ∀ a, fits a → ∀ rest, decode (encode a ++ rest) = .ok a)
    (accepts : ∀ bytes a b, fits b → bytes <+: encode b → decode bytes = .ok a → fits a ∧ encode a <+: bytes) :
    SelfDelimiting fits encode decode where
  injective a b ha hb h := eq_of_prefix reads ha hb (h ▸ List.prefix_rfl)
  noPrefix _ _ ha hb h := eq_of_prefix reads ha hb h
  cut bytes b hb hcut hne := by
    rw [exists_error_iff]
    rintro ⟨a, ha⟩
    obtain ⟨hfits, hstart⟩ := accepts bytes a b hb hcut ha
    obtain rfl := eq_of_prefix reads hfits hb (hstart.trans hcut)
    exact hne (hcut.eq_of_length_le hstart.length_le)

end Decoder

/-- A format that reads a value and a rest from the value as it is written, followed by the rest, decodes the
value from what starts with it. -/
lemma Format.decode_eq_ok_iff {α : Type} {fits : α → Prop} {format : Format α}
    (h : ∀ {a bytes rest}, format.read bytes = .ok (a, rest) ↔ fits a ∧ bytes = format.write a ++ rest)
    {bytes : Bytes} {a : α} :
    format.read.decode bytes = .ok a ↔ fits a ∧ ∃ rest, bytes = format.write a ++ rest := by
  rw [Reader.decode_eq_ok_iff]
  simp only [h, exists_and_left]

lemma Format.selfDelimiting {α : Type} {fits : α → Prop} {format : Format α}
    (h : ∀ {a bytes rest}, format.read bytes = .ok (a, rest) ↔ fits a ∧ bytes = format.write a ++ rest) :
    SelfDelimiting fits format.write format.read.decode := by
  refine .mk_of_reads ?_ ?_
  · intro a ha rest
    exact (decode_eq_ok_iff h).2 ⟨ha, rest, rfl⟩
  · intro bytes a b _ _ hdecode
    obtain ⟨hfits, rest, rfl⟩ := (decode_eq_ok_iff h).1 hdecode
    exact ⟨hfits, List.prefix_append _ _⟩

/-! ### Lengths that say too much -/

namespace Reader

variable {α β : Type} {bytes mid : Bytes} {fault : DecodeFault}

lemma bind_of_eq_ok {x : Reader α} {f : α → Reader β} {a : α} (h : x bytes = .ok (a, mid)) :
    (x >>= f) bytes = f a mid := by
  simp only [bind, StateT.bind, Except.bind, h]

lemma bind_of_eq_error {x : Reader α} {f : α → Reader β} (h : x bytes = .error fault) :
    (x >>= f) bytes = .error fault := by
  simp only [bind, StateT.bind, Except.bind, h]

lemma decode_of_eq_error {x : Reader α} (h : x bytes = .error fault) : x.decode bytes = .error fault := by
  rw [decode, h]
  rfl

lemma takeOr_of_lt {n : Nat} (h : bytes.length < n) : takeOr fault n bytes = .error fault := by
  unfold takeOr
  exact if_neg (by rw [List.length_take]; omega)

end Reader

namespace Format

variable {length : UInt64} {rest : Bytes}

lemma text_read_of_lt (h : rest.length < length.toNat) :
    text.read (uint64.write length ++ rest) = .error .textTooLong := by
  unfold text
  simp only
  rw [Reader.bind_of_eq_ok (uint64_read_iff.2 rfl), Reader.bind_of_eq_error (Reader.takeOr_of_lt h)]

lemma bytes_read_of_lt (h : rest.length < length.toNat) :
    Format.bytes.read (uint64.write length ++ rest) = .error .endOfInput := by
  unfold Format.bytes
  simp only
  rw [Reader.bind_of_eq_ok (uint64_read_iff.2 rfl), Reader.take, Reader.takeOr_of_lt h]

end Format

end Wire

/-! ### Payloads -/

namespace Payload

/-- The places where the bytes of a payload give the length of a field: the bytes in front of the length, and
the fault if fewer bytes follow it than it says. -/
def lengthPlaces (p : Payload) : List (Bytes × DecodeFault) :=
  let name := text.write p.username
  let signed := name ++ text.write p.content ++ int64.write p.timestamp ++ uint64.write p.sequence
  [([], .textTooLong), (name, .textTooLong), (signed, .endOfInput),
    (signed ++ Format.bytes.write p.publicKey, .endOfInput)]

theorem decode_eq_ok_iff {bytes : Bytes} {p : Payload} :
    decode bytes = .ok p ↔ p.Fits ∧ ∃ rest, bytes = p.encode ++ rest := Format.decode_eq_ok_iff read_iff

/-- A length that says more than what follows it is refused, wherever it stands. -/
lemma decode_lengthPlaces {p : Payload} (hp : p.Fits) {place : Bytes × DecodeFault} (hplace : place ∈ p.lengthPlaces)
    {length : UInt64} {rest : Bytes} (h : rest.length < length.toNat) :
    decode (place.1 ++ (uint64.write length ++ rest)) = .error place.2 := by
  obtain ⟨hu, hc, hk, -⟩ := hp
  apply Reader.decode_of_eq_error
  simp only [lengthPlaces, List.mem_cons, List.not_mem_nil, or_false] at hplace
  rcases hplace with rfl | rfl | rfl | rfl <;> simp only [format, List.append_assoc, List.nil_append]
  · rw [Reader.bind_of_eq_error (text_read_of_lt h)]
  · rw [Reader.bind_of_eq_ok (text_read_iff.2 ⟨hu, rfl⟩), Reader.bind_of_eq_error (text_read_of_lt h)]
  · rw [Reader.bind_of_eq_ok (text_read_iff.2 ⟨hu, rfl⟩), Reader.bind_of_eq_ok (text_read_iff.2 ⟨hc, rfl⟩),
      Reader.bind_of_eq_ok (int64_read_iff.2 rfl), Reader.bind_of_eq_ok (uint64_read_iff.2 rfl),
      Reader.bind_of_eq_error (bytes_read_of_lt h)]
  · rw [Reader.bind_of_eq_ok (text_read_iff.2 ⟨hu, rfl⟩), Reader.bind_of_eq_ok (text_read_iff.2 ⟨hc, rfl⟩),
      Reader.bind_of_eq_ok (int64_read_iff.2 rfl), Reader.bind_of_eq_ok (uint64_read_iff.2 rfl),
      Reader.bind_of_eq_ok (bytes_read_iff.2 ⟨hk, rfl⟩), Reader.bind_of_eq_error (bytes_read_of_lt h)]

end Payload

/-- **Payloads are decoded exactly.** A byte string decodes to a payload exactly if it starts with the payload's
bytes, and everything else is refused: what is cut short, and every length that says more than what follows it.
So a payload is read back whatever follows it, and its bytes are the beginning of what it was read from. -/
theorem payload_exact :
    (∀ bytes p, Payload.decode bytes = .ok p ↔ p.Fits ∧ ∃ rest, bytes = p.encode ++ rest) ∧
    (∀ bytes, (∃ fault, Payload.decode bytes = .error fault) ↔
      ¬ ∃ p : Payload, p.Fits ∧ ∃ rest, bytes = p.encode ++ rest) ∧
    SelfDelimiting Payload.Fits Payload.encode Payload.decode ∧
    (∀ p : Payload, p.Fits → ∀ place ∈ p.lengthPlaces, ∀ (length : UInt64) (rest : Bytes),
      rest.length < length.toNat → Payload.decode (place.1 ++ (uint64.write length ++ rest)) = .error place.2) ∧
    (∀ (p : Payload) rest, p.Fits → Payload.decode (p.encode ++ rest) = .ok p) ∧
    ∀ bytes p, Payload.decode bytes = .ok p → p.encode <+: bytes := by
  refine ⟨?_, ?_, Format.selfDelimiting Payload.read_iff, ?_, ?_, ?_⟩
  · intro bytes p
    exact Payload.decode_eq_ok_iff
  · intro bytes
    simp only [exists_error_iff, Payload.decode_eq_ok_iff]
  · intro p hp place hplace length rest h
    exact Payload.decode_lengthPlaces hp hplace h
  · intro p rest hp
    exact Payload.decode_eq_ok_iff.2 ⟨hp, rest, rfl⟩
  · intro bytes p h
    obtain ⟨-, rest, rfl⟩ := Payload.decode_eq_ok_iff.1 h
    exact List.prefix_append _ _

/-- Twenty bytes of a longer payload, and a public key that says it has nine bytes where three follow. -/
theorem payload_exact_cut :
    let p : Payload := ⟨"ann", "hello", 7, 0, [1, 2, 3], [], 2⟩
    (∃ fault, Payload.decode (p.encode.take 20) = .error fault) ∧
      Payload.decode ((text.write "ann" ++ text.write "hello" ++ int64.write 7 ++ uint64.write 0) ++
        (uint64.write 9 ++ [1, 2, 3])) = .error .endOfInput := by
  intro p
  obtain ⟨-, -, delimiting, places, -⟩ := payload_exact
  have hp : p.Fits := by constructor <;> decide
  refine ⟨delimiting.cut _ p hp (List.take_prefix _ _) (by decide), ?_⟩
  exact places p hp (_, .endOfInput) (List.mem_cons_of_mem _ (List.mem_cons_of_mem _ List.mem_cons_self)) 9 _
    (by decide)

/-! ### Frames -/

theorem ClientFrame.decode_eq_ok_iff {bytes : Bytes} {frame : ClientFrame} :
    decode bytes = .ok frame ↔ frame.Fits ∧ ∃ rest, bytes = frame.encode ++ rest := Format.decode_eq_ok_iff read_iff

namespace ServerFrame

/-- A byte string starts with the number of a kind that there is none of, and a frame is the error frame that
names this number. -/
def NamesUnknown (bytes : Bytes) (frame : ServerFrame) : Prop :=
  let number := LittleEndian.toUInt32 (bytes.take 4)
  4 ≤ bytes.length ∧ 7 ≤ number.toNat ∧
    frame = .error ("Unknown server message variant: " ++ Decimal.ofNat number.toNat)

lemma length_number (number : UInt32) : (uint32.write number).length = 4 := LittleEndian.length_ofUInt32 number

lemma toUInt32_number (number : UInt32) : LittleEndian.toUInt32 (uint32.write number) = number :=
  LittleEndian.toUInt32_ofUInt32 number

lemma number_decode_iff {bytes : Bytes} {number : UInt32} :
    uint32.read.decode bytes = .ok number ↔
      4 ≤ bytes.length ∧ LittleEndian.toUInt32 (bytes.take 4) = number := by
  simp only [Reader.decode_eq_ok_iff, uint32_read_iff]
  constructor
  · rintro ⟨rest, rfl⟩
    rw [List.length_append, length_number, List.take_left' (length_number number)]
    exact ⟨Nat.le_add_right 4 _, toUInt32_number number⟩
  · rintro ⟨hlength, rfl⟩
    refine ⟨bytes.drop 4, ?_⟩
    have htaken : (bytes.take 4).length = 4 := List.length_take_of_le hlength
    show bytes = LittleEndian.ofUInt32 (LittleEndian.toUInt32 (bytes.take 4)) ++ bytes.drop 4
    rw [LittleEndian.ofUInt32_toUInt32 htaken, List.take_append_drop]

/-- What starts with four bytes of a frame starts with the number of a kind that is known. -/
lemma not_namesUnknown {bytes : Bytes} (frame : ServerFrame) {other : ServerFrame} (h : bytes <+: frame.encode) :
    ¬ NamesUnknown bytes other := by
  rintro ⟨hlength, hnumber, -⟩
  obtain ⟨number, mid, hencode, hknown⟩ := frame.exists_number
  obtain ⟨rest, hrest⟩ := h
  have hwritten : (bytes ++ rest).take 4 = uint32.write number := by
    rw [hrest, hencode, List.take_left' (length_number number)]
  rw [List.take_append_of_le_length hlength] at hwritten
  rw [hwritten, toUInt32_number] at hnumber
  exact Nat.not_lt.2 hnumber hknown

theorem decode_eq_ok_iff {bytes : Bytes} {frame : ServerFrame} :
    decode bytes = .ok frame ↔ (frame.Fits ∧ ∃ rest, bytes = frame.encode ++ rest) ∨ NamesUnknown bytes frame := by
  have hformat : (format.read.decode bytes = .ok frame ↔ frame.Fits ∧ ∃ rest, bytes = frame.encode ++ rest) :=
    Format.decode_eq_ok_iff read_iff
  unfold decode
  cases hnumber : uint32.read.decode bytes with
  | error fault =>
    simp only
    rw [hformat]
    refine ⟨Or.inl, ?_⟩
    rintro (h | ⟨hlength, -, -⟩)
    · exact h
    · cases hnumber.symm.trans (number_decode_iff.2 ⟨hlength, rfl⟩)
  | ok number =>
    obtain ⟨hlength, rfl⟩ := number_decode_iff.1 hnumber
    simp only
    by_cases hknown : kindCount ≤ (LittleEndian.toUInt32 (bytes.take 4)).toNat
    · rw [if_pos hknown]
      constructor
      · intro h
        exact .inr ⟨hlength, hknown, (Except.ok.inj h).symm⟩
      · rintro (⟨-, rest, rfl⟩ | ⟨-, -, rfl⟩)
        · -- the first four bytes are the number of the frame's kind
          have hwritten : 4 ≤ frame.encode.length := by
            obtain ⟨number, mid, hencode, -⟩ := frame.exists_number
            rw [hencode, List.length_append, length_number]
            exact Nat.le_add_right 4 _
          rw [List.take_append_of_le_length hwritten] at hknown
          exact absurd ⟨hwritten, hknown, rfl⟩ (not_namesUnknown frame List.prefix_rfl)
        · rfl
    · rw [if_neg hknown, hformat]
      refine ⟨Or.inl, ?_⟩
      rintro (h | ⟨-, hunknown, -⟩)
      · exact h
      · exact absurd hunknown hknown

/-- A sealed message that was read fits, and it is not longer than the frame that carries it. -/
lemma ciphertext_of_decode {bytes ciphertext : Bytes} {room : RoomId} {time : Int64} {messageId : String}
    (h : decode bytes = .ok (.messageReceived room ciphertext time messageId)) :
    Wire.Fits ciphertext ∧ ciphertext.length ≤ bytes.length := by
  rcases decode_eq_ok_iff.1 h with ⟨hfits, rest, rfl⟩ | ⟨-, -, hnamed⟩
  · refine ⟨hfits.2.1, ?_⟩
    simp only [encode, format, Format.bytes, List.length_append]
    omega
  · cases hnamed

lemma selfDelimiting : SelfDelimiting Fits encode decode := by
  refine .mk_of_reads ?_ ?_
  · intro frame hframe rest
    exact decode_eq_ok_iff.2 (.inl ⟨hframe, rest, rfl⟩)
  · intro bytes a b _ hstart hdecode
    rcases decode_eq_ok_iff.1 hdecode with ⟨hfits, rest, rfl⟩ | hunknown
    · exact ⟨hfits, List.prefix_append _ _⟩
    · exact absurd hunknown (not_namesUnknown b hstart)

end ServerFrame

/-- **Frames are decoded exactly.** A byte string decodes to a frame exactly if it starts with the frame's bytes,
or, if the server sent it, starts with the number of an unknown kind, which the frame then names. Everything
else is refused, and in both directions frames are self-delimiting. -/
theorem frames_exact :
    (∀ bytes frame, ClientFrame.decode bytes = .ok frame ↔ frame.Fits ∧ ∃ rest, bytes = frame.encode ++ rest) ∧
    (∀ bytes frame, ServerFrame.decode bytes = .ok frame ↔
      (frame.Fits ∧ ∃ rest, bytes = frame.encode ++ rest) ∨ ServerFrame.NamesUnknown bytes frame) ∧
    (∀ bytes, (∃ fault, ClientFrame.decode bytes = .error fault) ↔
      ¬ ∃ frame : ClientFrame, frame.Fits ∧ ∃ rest, bytes = frame.encode ++ rest) ∧
    (∀ bytes, (∃ fault, ServerFrame.decode bytes = .error fault) ↔
      ¬ ∃ frame : ServerFrame, (frame.Fits ∧ ∃ rest, bytes = frame.encode ++ rest) ∨
        ServerFrame.NamesUnknown bytes frame) ∧
    SelfDelimiting ClientFrame.Fits ClientFrame.encode ClientFrame.decode ∧
    SelfDelimiting ServerFrame.Fits ServerFrame.encode ServerFrame.decode := by
  refine ⟨?_, ?_, ?_, ?_, Format.selfDelimiting ClientFrame.read_iff, ServerFrame.selfDelimiting⟩
  · intro bytes frame
    exact ClientFrame.decode_eq_ok_iff
  · intro bytes frame
    exact ServerFrame.decode_eq_ok_iff
  · intro bytes
    simp only [exists_error_iff, ClientFrame.decode_eq_ok_iff]
  · intro bytes
    simp only [exists_error_iff, ServerFrame.decode_eq_ok_iff]

/-- A frame that ends in a text is read although more follows, and is refused without its last byte; a kind with
number 7 is named. -/
theorem frames_exact_cut :
    let frame : ServerFrame := .messageAck "id"
    ServerFrame.decode (frame.encode ++ [1, 2, 3]) = .ok frame ∧
      (∃ fault, ServerFrame.decode (frame.encode.take 13) = .error fault) ∧
      ServerFrame.decode [7, 0, 0, 0, 9] = .ok (.error "Unknown server message variant: 7") := by
  intro frame
  obtain ⟨-, server, -, -, -, delimiting⟩ := frames_exact
  have hframe : Wire.Fits (Utf8.encode "id") := by decide
  refine ⟨(server _ _).2 (.inl ⟨hframe, _, rfl⟩), ?_, (server _ _).2 (.inr ?_)⟩
  · exact delimiting.cut _ frame hframe (List.take_prefix _ _) (by decide)
  · exact ⟨by decide, by decide, by decide +kernel⟩

end SealedChat
