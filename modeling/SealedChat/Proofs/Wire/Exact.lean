import Mathlib.Tactic.Lemma
import SealedChat.Proofs.Bytes.Utf8
import SealedChat.Wire.Frame
import SealedChat.Wire.Payload

/-!
# Formats read exactly what they write

A reader gives a value and a rest exactly if the bytes are the value as it is written, followed by the
rest. The law composes: it is proved of numbers, byte strings and texts, and from these of payloads and of
frames. A length takes eight bytes, so only byte strings shorter than `2 ^ 64` are written with their
length (`Fits`).
-/

namespace SealedChat.Wire

/-- Byte strings whose length can be written. -/
def Fits (bytes : Bytes) : Prop := bytes.length < 2 ^ 64

instance (bytes : Bytes) : Decidable (Fits bytes) := inferInstanceAs (Decidable (_ < _))

/-! ### Readers one after the other -/

namespace Reader

variable {α β : Type}

lemma bind_eq_ok_iff {x : Reader α} {f : α → Reader β} {bytes rest : Bytes} {b : β} :
    (x >>= f) bytes = .ok (b, rest) ↔ ∃ a mid, x bytes = .ok (a, mid) ∧ f a mid = .ok (b, rest) := by
  simp only [bind, StateT.bind, Except.bind]
  cases h : x bytes with
  | error fault => simp
  | ok found =>
    obtain ⟨a, mid⟩ := found
    simp only [Except.ok.injEq, Prod.mk.injEq]
    constructor
    · exact fun h => ⟨a, mid, ⟨rfl, rfl⟩, h⟩
    · rintro ⟨_, _, ⟨rfl, rfl⟩, h⟩
      exact h

lemma pure_eq_ok_iff {a b : α} {bytes rest : Bytes} :
    (pure a : Reader α) bytes = .ok (b, rest) ↔ a = b ∧ bytes = rest := by
  change Except.ok (a, bytes) = .ok (b, rest) ↔ _
  simp

lemma throw_ne_ok {fault : DecodeFault} {b : α} {bytes rest : Bytes} :
    ¬ (throw fault : Reader α) bytes = .ok (b, rest) := by
  change ¬ Except.error fault = .ok (b, rest)
  simp

lemma takeOr_eq_ok_iff {fault : DecodeFault} {n : Nat} {bytes taken rest : Bytes} :
    takeOr fault n bytes = .ok (taken, rest) ↔ taken.length = n ∧ bytes = taken ++ rest := by
  unfold takeOr
  constructor
  · intro h
    simp only at h
    split at h
    · rename_i hlen
      obtain ⟨rfl, rfl⟩ : bytes.take n = taken ∧ bytes.drop n = rest := by simpa using h
      exact ⟨hlen, (List.take_append_drop n bytes).symm⟩
    · cases h
  · rintro ⟨rfl, rfl⟩
    simp

lemma take_eq_ok_iff {n : Nat} {bytes taken rest : Bytes} :
    take n bytes = .ok (taken, rest) ↔ taken.length = n ∧ bytes = taken ++ rest := takeOr_eq_ok_iff

/-- A reader decodes a byte string if it finds the value at the front. -/
lemma decode_eq_ok_iff {reader : Reader α} {bytes : Bytes} {a : α} :
    reader.decode bytes = .ok a ↔ ∃ rest, reader bytes = .ok (a, rest) := by
  unfold decode
  cases h : reader bytes with
  | error fault => simp [Except.map]
  | ok found =>
    obtain ⟨b, rest⟩ := found
    simp [Except.map]

end Reader

/-! ### Numbers -/

namespace Format

/-- A format that reads back what it writes decodes it. -/
lemma decode_write {α : Type} {format : Format α} {a : α} (h : format.read (format.write a ++ []) = .ok (a, [])) :
    format.read.decode (format.write a) = .ok a := by
  rw [List.append_nil] at h
  exact Reader.decode_eq_ok_iff.2 ⟨[], h⟩

section Fields

variable {bytes rest : Bytes}

/-- A number of fixed width is read exactly if its bytes are those that it is written in. -/
lemma fixed_read_iff {α : Type} {width : Nat} {write : α → Bytes} {read : Bytes → α}
    (hlength : ∀ x, (write x).length = width) (hread : ∀ x, read (write x) = x)
    (hwrite : ∀ taken, taken.length = width → write (read taken) = taken) {x : α} :
    (do return read (← Reader.take width) : Reader α) bytes = .ok (x, rest) ↔ bytes = write x ++ rest := by
  simp only [Reader.bind_eq_ok_iff, Reader.pure_eq_ok_iff, Reader.take_eq_ok_iff]
  constructor
  · rintro ⟨taken, _, ⟨hlen, rfl⟩, rfl, rfl⟩
    rw [hwrite taken hlen]
  · rintro rfl
    exact ⟨_, _, ⟨hlength x, rfl⟩, hread x, rfl⟩

lemma uint32_read_iff {x : UInt32} :
    uint32.read bytes = .ok (x, rest) ↔ bytes = uint32.write x ++ rest := by
  refine fixed_read_iff LittleEndian.length_ofUInt32 LittleEndian.toUInt32_ofUInt32 ?_
  intro taken hlen
  exact LittleEndian.ofUInt32_toUInt32 hlen

lemma uint64_read_iff {x : UInt64} :
    uint64.read bytes = .ok (x, rest) ↔ bytes = uint64.write x ++ rest := by
  refine fixed_read_iff LittleEndian.length_ofUInt64 LittleEndian.toUInt64_ofUInt64 ?_
  intro taken hlen
  exact LittleEndian.ofUInt64_toUInt64 hlen

lemma int64_read_iff {x : Int64} :
    int64.read bytes = .ok (x, rest) ↔ bytes = int64.write x ++ rest := by
  refine fixed_read_iff LittleEndian.length_ofInt64 LittleEndian.toInt64_ofInt64 ?_
  intro taken hlen
  exact LittleEndian.ofInt64_toInt64 hlen

/-! ### Byte strings and texts -/

lemma toNat_ofNat_length {b : Bytes} (h : Fits b) : (UInt64.ofNat b.length).toNat = b.length :=
  UInt64.toNat_ofNat_of_lt' h

/-- A byte string whose length was read fits. -/
lemma fits_of_length_eq {b : Bytes} {length : UInt64} (h : b.length = length.toNat) : Fits b := by
  unfold Fits
  rw [h]
  exact length.toNat_lt

lemma bytes_read_iff {b : Bytes} :
    Format.bytes.read bytes = .ok (b, rest) ↔ Fits b ∧ bytes = Format.bytes.write b ++ rest := by
  simp only [Format.bytes, Reader.bind_eq_ok_iff, Reader.take_eq_ok_iff, uint64_read_iff, writeLength]
  constructor
  · rintro ⟨length, _, rfl, hlen, rfl⟩
    have hfits := fits_of_length_eq hlen
    refine ⟨hfits, ?_⟩
    rw [hlen, UInt64.ofNat_toNat, List.append_assoc]
  · rintro ⟨hfits, rfl⟩
    exact ⟨_, _, List.append_assoc _ _ _, (toNat_ofNat_length hfits).symm, rfl⟩

lemma text_read_iff {s : String} :
    text.read bytes = .ok (s, rest) ↔ Fits (Utf8.encode s) ∧ bytes = text.write s ++ rest := by
  simp only [text, Reader.bind_eq_ok_iff, uint64_read_iff, Reader.takeOr_eq_ok_iff, writeLength]
  constructor
  · rintro ⟨length, _, rfl, taken, _, ⟨hlen, rfl⟩, h⟩
    cases hfound : Utf8.decode taken with
    | error flaw =>
      rw [hfound] at h
      exact absurd h Reader.throw_ne_ok
    | ok found =>
      rw [hfound] at h
      obtain ⟨rfl, rfl⟩ := Reader.pure_eq_ok_iff.1 h
      obtain rfl := Utf8.decode_eq_ok_iff.1 hfound
      have hfits := fits_of_length_eq hlen
      refine ⟨hfits, ?_⟩
      rw [hlen, UInt64.ofNat_toNat, List.append_assoc]
  · rintro ⟨hfits, rfl⟩
    refine ⟨_, _, List.append_assoc _ _ _, _, _, ⟨(toNat_ofNat_length hfits).symm, rfl⟩, ?_⟩
    rw [Utf8.decode_encode]
    rfl

lemma roomId_read_iff {room : RoomId} :
    roomId.read bytes = .ok (room, rest) ↔ Fits (Utf8.encode room.text) ∧ bytes = roomId.write room ++ rest := by
  simp only [roomId, Reader.bind_eq_ok_iff, Reader.pure_eq_ok_iff, text_read_iff]
  constructor
  · rintro ⟨text, _, ⟨hfits, rfl⟩, rfl, rfl⟩
    exact ⟨hfits, rfl⟩
  · rintro ⟨hfits, rfl⟩
    exact ⟨_, _, ⟨hfits, rfl⟩, rfl, rfl⟩

/-! ### Optional values and kinds of chat -/

lemma optional_read_iff {x : Option UInt64} :
    (optional uint64).read bytes = .ok (x, rest) ↔ bytes = (optional uint64).write x ++ rest := by
  simp only [optional, Reader.bind_eq_ok_iff, Reader.take_eq_ok_iff]
  constructor
  · rintro ⟨flag, mid, ⟨-, rfl⟩, h⟩
    split at h
    · obtain ⟨rfl, rfl⟩ := Reader.pure_eq_ok_iff.1 h
      rfl
    · obtain ⟨v, _, hv, h⟩ := Reader.bind_eq_ok_iff.1 h
      obtain ⟨rfl, rfl⟩ := Reader.pure_eq_ok_iff.1 h
      rw [uint64_read_iff.1 hv]
      rfl
    · exact absurd h Reader.throw_ne_ok
  · rintro rfl
    cases x with
    | none => exact ⟨[0], rest, ⟨rfl, rfl⟩, rfl⟩
    | some v =>
      refine ⟨[1], uint64.write v ++ rest, ⟨rfl, rfl⟩, ?_⟩
      exact Reader.bind_eq_ok_iff.2 ⟨v, rest, uint64_read_iff.2 rfl, rfl⟩

lemma chatKind_read_iff {kind : ChatKind} :
    chatKind.read bytes = .ok (kind, rest) ↔ bytes = chatKind.write kind ++ rest := by
  simp only [chatKind, Reader.bind_eq_ok_iff, uint32_read_iff]
  constructor
  · rintro ⟨number, mid, rfl, h⟩
    split at h
    · obtain ⟨rfl, rfl⟩ := Reader.pure_eq_ok_iff.1 h
      rfl
    · obtain ⟨limit, _, hlimit, h⟩ := Reader.bind_eq_ok_iff.1 h
      obtain ⟨rfl, rfl⟩ := Reader.pure_eq_ok_iff.1 h
      rw [optional_read_iff.1 hlimit, List.append_assoc]
    · exact absurd h Reader.throw_ne_ok
  · rintro rfl
    cases kind with
    | oneToOne => exact ⟨0, rest, rfl, rfl⟩
    | group limit =>
      refine ⟨1, _, List.append_assoc _ _ _, ?_⟩
      exact Reader.bind_eq_ok_iff.2 ⟨limit, rest, optional_read_iff.2 rfl, rfl⟩

end Fields

end Format

end SealedChat.Wire
