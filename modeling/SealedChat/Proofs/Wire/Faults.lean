import SealedChat.Proofs.Wire.Decoding

/-!
# The first bad field

Bytes are no message because they end too soon, which more bytes might mend, or because a field is bad that is there as
a whole: a text whose bytes are no text, a number that no kind has, a flag that is neither zero nor one. Fields are read
in order and without a look at what follows, so what is reported is the first bad field, and neither a message nor a bad
field becomes another one when more bytes follow it (`decoding_commits`).
-/

namespace SealedChat

open Wire Wire.Format

namespace Wire

/-! ### Bad fields -/

/-- The bytes end before the message does. -/
def DecodeFault.CutShort : DecodeFault → Prop
  | .endOfInput | .textTooLong => True
  | .notText _ | .unknownKind _ _ | .badFlag _ => False

private lemma not_prefix_of_second {text : List Char} {c : Char} (h : text[1]? = some c) (hc : c ≠ 'o') :
    ¬ "io error:".toList <+: text := by
  rintro ⟨rest, rfl⟩
  exact hc (Option.some.inj h).symm

/-- The wording tells what is cut short. -/
lemma DecodeFault.cutShort_iff (fault : DecodeFault) :
    fault.CutShort ↔ "io error:".toList <+: fault.message.toList := by
  cases fault with
  | endOfInput =>
    refine iff_of_true trivial ?_
    exact ⟨" unexpected end of file".toList, rfl⟩
  | textTooLong =>
    refine iff_of_true trivial ?_
    exact ⟨[' '], rfl⟩
  | notText flaw =>
    refine iff_of_false id (not_prefix_of_second (c := 't') ?_ (by decide))
    unfold message
    rw [String.toList_append]
    rfl
  | unknownKind number count =>
    refine iff_of_false id (not_prefix_of_second (c := 'n') ?_ (by decide))
    unfold message
    simp only [String.toList_append, List.append_assoc]
    rfl
  | badFlag flag =>
    refine iff_of_false id (not_prefix_of_second (c := 'a') ?_ (by decide))
    unfold message
    rw [String.toList_append]
    rfl

/-- What a field of a message holds. -/
inductive FieldShape where
  | text
  | bytes
  /-- A number of eight bytes, with a sign or without. -/
  | word
  | chatKind

/-- The bytes of a field in which a value is written. -/
inductive Written : FieldShape → Bytes → Prop
  | text (s : String) (fits : Fits (Utf8.encode s)) : Written .text (Format.text.write s)
  | bytes (b : Bytes) (fits : Fits b) : Written .bytes (Format.bytes.write b)
  | word (b : Bytes) (length_eq : b.length = 8) : Written .word b
  | chatKind (kind : ChatKind) : Written .chatKind (Format.chatKind.write kind)

/-- The bytes of a field that is there as a whole and in which no value is written, and its fault. -/
inductive BadField : FieldShape → Bytes → DecodeFault → Prop
  | text {b : Bytes} {flaw : Utf8.Flaw} (fits : Fits b) (flawed : Utf8.decode b = .error flaw) :
    BadField .text (Format.bytes.write b) (.notText flaw)
  | kind {number : UInt32} (zero : number ≠ 0) (one : number ≠ 1) :
    BadField .chatKind (uint32.write number) (.unknownKind number 2)
  | flag {flag : UInt8} (zero : flag ≠ 0) (one : flag ≠ 1) :
    BadField .chatKind (uint32.write 1 ++ [flag]) (.badFlag flag)

/-- Bytes that end with a bad field, and its fault: in the fields in front of it values are written. -/
inductive FirstBad : List FieldShape → Bytes → DecodeFault → Prop
  | here {shape : FieldShape} {shapes : List FieldShape} {bytes : Bytes} {fault : DecodeFault}
    (bad : BadField shape bytes fault) : FirstBad (shape :: shapes) bytes fault
  | behind {shape : FieldShape} {shapes : List FieldShape} {front bytes : Bytes} {fault : DecodeFault}
    (written : Written shape front) (first : FirstBad shapes bytes fault) :
    FirstBad (shape :: shapes) (front ++ bytes) fault

/-! ### Readers of fields -/

namespace Reader

variable {α β : Type} {bytes rest : Bytes} {fault : DecodeFault}

lemma bind_eq_error_iff {x : Reader α} {f : α → Reader β} : (x >>= f) bytes = .error fault ↔
    x bytes = .error fault ∨ ∃ a mid, x bytes = .ok (a, mid) ∧ f a mid = .error fault := by
  cases h : x bytes with
  | error other =>
    rw [bind_of_eq_error h]
    simp
  | ok found =>
    rw [bind_of_eq_ok h]
    constructor
    · intro herror
      exact .inr ⟨_, _, rfl, herror⟩
    · rintro (herror | ⟨a, mid, hfound, herror⟩)
      · cases herror
      · cases hfound
        exact herror

lemma decode_eq_error_iff {x : Reader α} : x.decode bytes = .error fault ↔ x bytes = .error fault := by
  unfold decode
  cases x bytes with
  | error other => simp [Except.map]
  | ok found => simp [Except.map]

lemma takeOr_eq_error {other : DecodeFault} {n : Nat} (h : takeOr other n bytes = .error fault) : fault = other := by
  unfold takeOr at h
  dsimp only at h
  split at h
  · cases h
  · exact (Except.error.inj h).symm

/-- Bytes that are not cut short are refused exactly if they start with what is bad. -/
def FailsOn (bad : Bytes → DecodeFault → Prop) (reader : Reader α) : Prop :=
  ∀ bytes fault, ¬ fault.CutShort →
    (reader bytes = .error fault ↔ ∃ start rest, bytes = start ++ rest ∧ bad start fault)

/-- A reader of fields of one shape, which leaves what follows the field. -/
structure Takes (shape : FieldShape) (reader : Reader α) : Prop where
  ok : ∀ bytes a rest, reader bytes = .ok (a, rest) → ∃ start, Written shape start ∧ bytes = start ++ rest
  written : ∀ start rest, Written shape start → ∃ a, reader (start ++ rest) = .ok (a, rest)
  fails : reader.FailsOn (BadField shape)

end Reader

/-! ### Fields that are read -/

namespace Reader

variable {α β : Type}

lemma throw_eq_error_iff {fault other : DecodeFault} {bytes : Bytes} :
    (throw other : Reader α) bytes = .error fault ↔ fault = other := by
  change Except.error other = .error fault ↔ _
  rw [Except.error.injEq, eq_comm]

lemma pure_ne_error {a : α} {fault : DecodeFault} {bytes : Bytes} : (pure a : Reader α) bytes ≠ .error fault := nofun

lemma cutShort_of_take {n : Nat} {bytes : Bytes} {fault : DecodeFault} (h : take n bytes = .error fault) :
    fault.CutShort := by
  rw [takeOr_eq_error h]
  trivial

/-- A number is refused only if it is cut short. -/
lemma cutShort_of_fixed {width : Nat} {read : Bytes → α} {bytes : Bytes} {fault : DecodeFault}
    (h : (do return read (← take width) : Reader α) bytes = .error fault) : fault.CutShort := by
  rcases bind_eq_error_iff.1 h with h | ⟨_, _, -, h⟩
  · exact cutShort_of_take h
  · exact absurd h pure_ne_error

/-- Any eight bytes are a number. -/
lemma takes_word {read : Bytes → α} : Takes .word (do return read (← take 8) : Reader α) where
  ok bytes a rest h := by
    obtain ⟨taken, mid, htaken, hread⟩ := bind_eq_ok_iff.1 h
    obtain ⟨hlength, rfl⟩ := take_eq_ok_iff.1 htaken
    obtain ⟨-, rfl⟩ := pure_eq_ok_iff.1 hread
    exact ⟨taken, .word taken hlength, rfl⟩
  written start rest written := by
    cases written with
    | word _ hlength =>
      exact ⟨read start, bind_eq_ok_iff.2 ⟨start, rest, take_eq_ok_iff.2 ⟨hlength, rfl⟩, rfl⟩⟩
  fails bytes fault whole := by
    constructor
    · intro h
      exact absurd (cutShort_of_fixed h) whole
    · rintro ⟨_, _, -, bad⟩
      cases bad

lemma takes_text : Takes .text Format.text.read where
  ok bytes s rest h := by
    obtain ⟨fits, rfl⟩ := text_read_iff.1 h
    exact ⟨_, .text s fits, rfl⟩
  written start rest written := by
    cases written with
    | text s fits => exact ⟨s, text_read_iff.2 ⟨fits, rfl⟩⟩
  fails bytes fault whole := by
    unfold Format.text
    dsimp only
    constructor
    · intro h
      rcases bind_eq_error_iff.1 h with hcut | ⟨length, behind, hlength, htext⟩
      · exact absurd (cutShort_of_fixed hcut) whole
      obtain rfl := uint64_read_iff.1 hlength
      rcases bind_eq_error_iff.1 htext with hcut | ⟨taken, rest, htaken, hdecode⟩
      · rw [takeOr_eq_error hcut] at whole
        exact absurd trivial whole
      obtain ⟨hsize, rfl⟩ := takeOr_eq_ok_iff.1 htaken
      cases flawed : Utf8.decode taken with
      | ok s =>
        rw [flawed] at hdecode
        exact absurd hdecode pure_ne_error
      | error flaw =>
        rw [flawed] at hdecode
        obtain rfl := throw_eq_error_iff.1 hdecode
        refine ⟨_, rest, ?_, .text (fits_of_length_eq hsize) flawed⟩
        simp only [Format.bytes, writeLength, hsize, UInt64.ofNat_toNat, List.append_assoc]
    · rintro ⟨_, rest, rfl, bad⟩
      cases bad with
      | @text b flaw fits flawed =>
        unfold Format.bytes writeLength
        dsimp only
        rw [List.append_assoc, bind_of_eq_ok (uint64_read_iff.2 rfl),
          bind_of_eq_ok (takeOr_eq_ok_iff.2 ⟨(toNat_ofNat_length fits).symm, rfl⟩), flawed]
        rfl

/-- A field that is read and then told otherwise. -/
lemma Takes.map {shape : FieldShape} {x : Reader α} (h : Takes shape x) (f : α → β) :
    Takes shape (do return f (← x) : Reader β) where
  ok bytes b rest hok := by
    obtain ⟨a, mid, ha, hok⟩ := bind_eq_ok_iff.1 hok
    obtain ⟨-, rfl⟩ := pure_eq_ok_iff.1 hok
    exact h.ok bytes a mid ha
  written start rest written := by
    obtain ⟨a, ha⟩ := h.written start rest written
    exact ⟨f a, bind_eq_ok_iff.2 ⟨a, rest, ha, rfl⟩⟩
  fails bytes fault whole := by
    rw [← h.fails bytes fault whole, bind_eq_error_iff]
    refine ⟨?_, .inl⟩
    rintro (herror | ⟨_, _, -, herror⟩)
    · exact herror
    · exact absurd herror pure_ne_error

lemma takes_bytes : Takes .bytes Format.bytes.read where
  ok bytes b rest h := by
    obtain ⟨fits, rfl⟩ := bytes_read_iff.1 h
    exact ⟨_, .bytes b fits, rfl⟩
  written start rest written := by
    cases written with
    | bytes b fits => exact ⟨b, bytes_read_iff.2 ⟨fits, rfl⟩⟩
  fails bytes fault whole := by
    unfold Format.bytes
    dsimp only
    constructor
    · intro h
      rcases bind_eq_error_iff.1 h with hcut | ⟨_, _, -, hcut⟩
      · exact absurd (cutShort_of_fixed hcut) whole
      · exact absurd (cutShort_of_take hcut) whole
    · rintro ⟨_, _, -, bad⟩
      cases bad

/-- An optional number that is not cut short has a bad flag, or none is refused. -/
lemma flag_of_optional {bytes : Bytes} {fault : DecodeFault} (h : (Format.optional uint64).read bytes = .error fault)
    (whole : ¬ fault.CutShort) : ∃ flag rest, flag ≠ 0 ∧ flag ≠ 1 ∧ bytes = [flag] ++ rest ∧ fault = .badFlag flag := by
  unfold Format.optional at h
  dsimp only at h
  rcases bind_eq_error_iff.1 h with hcut | ⟨taken, rest, htaken, hflag⟩
  · exact absurd (cutShort_of_take hcut) whole
  obtain ⟨hlength, rfl⟩ := take_eq_ok_iff.1 htaken
  split at hflag
  · exact absurd hflag pure_ne_error
  · rcases bind_eq_error_iff.1 hflag with hcut | ⟨_, _, -, herror⟩
    · exact absurd (cutShort_of_fixed hcut) whole
    · exact absurd herror pure_ne_error
  · rename_i zero one
    obtain ⟨flag, rfl⟩ := List.length_eq_one_iff.1 hlength
    exact ⟨flag, rest, fun h => zero (by rw [h]), fun h => one (by rw [h]), rfl, throw_eq_error_iff.1 hflag⟩

lemma optional_of_flag {flag : UInt8} (zero : flag ≠ 0) (one : flag ≠ 1) {rest : Bytes} :
    (Format.optional uint64).read ([flag] ++ rest) = .error (.badFlag flag) := by
  unfold Format.optional
  dsimp only
  have hflag : take 1 ([flag] ++ rest) = .ok ([flag], rest) := take_eq_ok_iff.2 ⟨rfl, rfl⟩
  rw [bind_of_eq_ok hflag]
  generalize htaken : [flag] = taken
  split
  · cases htaken
    exact absurd rfl zero
  · cases htaken
    exact absurd rfl one
  · rw [← htaken]
    rfl

lemma takes_chatKind : Takes .chatKind chatKind.read where
  ok bytes kind rest h := by
    obtain rfl := chatKind_read_iff.1 h
    exact ⟨_, .chatKind kind, rfl⟩
  written start rest written := by
    cases written with
    | chatKind kind => exact ⟨kind, chatKind_read_iff.2 rfl⟩
  fails bytes fault whole := by
    unfold chatKind
    dsimp only
    constructor
    · intro h
      rcases bind_eq_error_iff.1 h with hcut | ⟨number, behind, hnumber, hkind⟩
      · exact absurd (cutShort_of_fixed hcut) whole
      obtain rfl := uint32_read_iff.1 hnumber
      split at hkind
      · exact absurd hkind pure_ne_error
      · rcases bind_eq_error_iff.1 hkind with hlimit | ⟨_, _, -, herror⟩
        · obtain ⟨flag, rest, zero, one, rfl, rfl⟩ := flag_of_optional hlimit whole
          exact ⟨_, rest, by rw [List.append_assoc], .flag zero one⟩
        · exact absurd herror pure_ne_error
      · rename_i zero one
        obtain rfl := throw_eq_error_iff.1 hkind
        exact ⟨_, behind, rfl, .kind zero one⟩
    · rintro ⟨_, rest, rfl, bad⟩
      cases bad with
      | @kind number zero one =>
        rw [bind_of_eq_ok (uint32_read_iff.2 rfl)]
        split
        · exact absurd rfl zero
        · exact absurd rfl one
        · rfl
      | @flag flag zero one =>
        rw [List.append_assoc, bind_of_eq_ok (uint32_read_iff.2 rfl)]
        exact bind_of_eq_error (optional_of_flag zero one)

/-- Without fields there is nothing to be refused. -/
lemma FailsOn.pure (a : α) : (pure a : Reader α).FailsOn (FirstBad []) := by
  intro bytes fault _
  constructor
  · intro h
    cases h
  · rintro ⟨start, rest, -, bad⟩
    cases bad

/-- Fields are read in order. -/
lemma FailsOn.bind {shape : FieldShape} {shapes : List FieldShape} {x : Reader α} {f : α → Reader β}
    (first : Takes shape x) (behind : ∀ a, (f a).FailsOn (FirstBad shapes)) :
    (x >>= f).FailsOn (FirstBad (shape :: shapes)) := by
  intro bytes fault whole
  rw [bind_eq_error_iff]
  constructor
  · rintro (h | ⟨a, mid, hok, h⟩)
    · obtain ⟨start, rest, rfl, bad⟩ := (first.fails bytes fault whole).1 h
      exact ⟨start, rest, rfl, .here bad⟩
    · obtain ⟨front, written, rfl⟩ := first.ok _ _ _ hok
      obtain ⟨start, rest, rfl, bad⟩ := (behind a mid fault whole).1 h
      exact ⟨front ++ start, rest, (List.append_assoc _ _ _).symm, .behind written bad⟩
  · rintro ⟨_, rest, rfl, bad⟩
    cases bad with
    | here bad => exact .inl ((first.fails _ fault whole).2 ⟨_, rest, rfl, bad⟩)
    | @behind _ _ front start _ written bad =>
      obtain ⟨a, hok⟩ := first.written front (start ++ rest) written
      rw [List.append_assoc]
      exact .inr ⟨a, _, hok, (behind a _ fault whole).2 ⟨start, rest, rfl, bad⟩⟩

end Reader

/-! ### Frames -/

/-- Bytes that end with the first bad field of a frame, and its fault: with the number of a kind of which there is none,
or with a field of a kind. The fields of all kinds are given in order of their numbers. -/
inductive BadFrame (kinds : List (List FieldShape)) : Bytes → DecodeFault → Prop
  | number {number : UInt32} (unknown : kinds.length ≤ number.toNat) :
    BadFrame kinds (uint32.write number) (.unknownKind number kinds.length)
  | field {number : UInt32} {shapes : List FieldShape} {bytes : Bytes} {fault : DecodeFault}
    (known : kinds[number.toNat]? = some shapes) (first : FirstBad shapes bytes fault) :
    BadFrame kinds (uint32.write number ++ bytes) fault

lemma Reader.failsOn_number {α : Type} {kinds : List (List FieldShape)} {fields : UInt32 → Reader α}
    (known : ∀ number shapes, kinds[number.toNat]? = some shapes → (fields number).FailsOn (FirstBad shapes))
    (unknown : ∀ number : UInt32, kinds.length ≤ number.toNat →
      fields number = throw (.unknownKind number kinds.length)) :
    (uint32.read >>= fields).FailsOn (BadFrame kinds) := by
  intro bytes fault whole
  rw [bind_eq_error_iff]
  constructor
  · rintro (hcut | ⟨number, behind, hnumber, h⟩)
    · exact absurd (cutShort_of_fixed hcut) whole
    obtain rfl := uint32_read_iff.1 hnumber
    cases hshapes : kinds[number.toNat]? with
    | none =>
      have hunknown := List.getElem?_eq_none_iff.1 hshapes
      rw [unknown number hunknown] at h
      obtain rfl := throw_eq_error_iff.1 h
      exact ⟨_, behind, rfl, .number hunknown⟩
    | some shapes =>
      obtain ⟨start, rest, rfl, bad⟩ := (known number shapes hshapes behind fault whole).1 h
      exact ⟨_, rest, (List.append_assoc _ _ _).symm, .field hshapes bad⟩
  · rintro ⟨_, rest, rfl, bad⟩
    right
    cases bad with
    | @number number hunknown =>
      refine ⟨number, rest, uint32_read_iff.2 rfl, ?_⟩
      rw [unknown number hunknown]
      rfl
    | @field number shapes bytes _ hshapes bad =>
      refine ⟨number, bytes ++ rest, uint32_read_iff.2 (List.append_assoc _ _ _), ?_⟩
      exact (known number shapes hshapes _ fault whole).2 ⟨bytes, rest, rfl, bad⟩

/-! ### Decoders -/

/-- A decoder goes by the bytes of a message or by its first bad field and by nothing behind it: a value that was
decoded, and a fault other than that the bytes were cut short, is still what comes out when more bytes follow. -/
structure Commits {α : Type} (bad : Bytes → DecodeFault → Prop) (decode : Bytes → Except DecodeFault α) : Prop where
  value : ∀ bytes a, decode bytes = .ok a → ∀ rest, decode (bytes ++ rest) = .ok a
  fault : ∀ bytes fault, decode bytes = .error fault → ¬ fault.CutShort → ∀ rest, decode (bytes ++ rest) = .error fault
  first : ∀ bytes fault, ¬ fault.CutShort →
    (decode bytes = .error fault ↔ ∃ start rest, bytes = start ++ rest ∧ bad start fault)

lemma Commits.mk_of_first {α : Type} {bad : Bytes → DecodeFault → Prop} {decode : Bytes → Except DecodeFault α}
    (value : ∀ bytes a, decode bytes = .ok a → ∀ rest, decode (bytes ++ rest) = .ok a)
    (first : ∀ bytes fault, ¬ fault.CutShort →
      (decode bytes = .error fault ↔ ∃ start rest, bytes = start ++ rest ∧ bad start fault)) :
    Commits bad decode where
  value := value
  first := first
  fault bytes fault h whole rest := by
    obtain ⟨start, behind, rfl, hbad⟩ := (first bytes fault whole).1 h
    exact (first _ fault whole).2 ⟨start, behind ++ rest, List.append_assoc _ _ _, hbad⟩

/-- A format that reads what it writes, and fails on bad fields only. -/
lemma Commits.of_format {α : Type} {fits : α → Prop} {format : Format α} {bad : Bytes → DecodeFault → Prop}
    (reads : ∀ {a bytes rest}, format.read bytes = .ok (a, rest) ↔ fits a ∧ bytes = format.write a ++ rest)
    (fails : format.read.FailsOn bad) : Commits bad format.read.decode := by
  refine .mk_of_first ?_ ?_
  · intro bytes a h more
    obtain ⟨ha, rest, rfl⟩ := (Format.decode_eq_ok_iff reads).1 h
    exact (Format.decode_eq_ok_iff reads).2 ⟨ha, rest ++ more, List.append_assoc _ _ _⟩
  · intro bytes fault whole
    exact Reader.decode_eq_error_iff.trans (fails bytes fault whole)

end Wire

/-! ### Messages -/

/-- Bytes that end with the first bad field of a payload, and its fault. -/
def Payload.Bad : Bytes → DecodeFault → Prop := FirstBad [.text, .text, .word, .word, .bytes, .bytes, .word]

lemma Payload.read_failsOn : format.read.FailsOn Bad := by
  refine .bind Reader.takes_text fun _ => .bind Reader.takes_text fun _ => .bind Reader.takes_word fun _ => ?_
  refine .bind Reader.takes_word fun _ => .bind Reader.takes_bytes fun _ => .bind Reader.takes_bytes fun _ => ?_
  exact .bind Reader.takes_word fun _ => .pure _

lemma Payload.commits : Commits Bad decode := .of_format read_iff read_failsOn

/-- The fields of the frames of clients, kind by kind. -/
def ClientFrame.kinds : List (List FieldShape) :=
  [[.text, .chatKind, .text], [.text, .text], [.text, .bytes, .text], [.text]]

lemma ClientFrame.read_failsOn : format.read.FailsOn (BadFrame kinds) := by
  refine Reader.failsOn_number ?_ ?_
  · intro number shapes known
    split
    · cases known
      exact .bind (.map Reader.takes_text _) fun _ => .bind Reader.takes_chatKind fun _ =>
        .bind Reader.takes_text fun _ => .pure _
    · cases known
      exact .bind (.map Reader.takes_text _) fun _ => .bind Reader.takes_text fun _ => .pure _
    · cases known
      exact .bind (.map Reader.takes_text _) fun _ => .bind Reader.takes_bytes fun _ =>
        .bind Reader.takes_text fun _ => .pure _
    · cases known
      exact .bind (.map Reader.takes_text _) fun _ => .pure _
    · have hnumber : number.toNat < 4 := (List.getElem?_eq_some_iff.1 known).1
      simp only [imp_false, ← UInt32.toNat_inj, UInt32.reduceToNat] at *
      omega
  · intro number unknown
    split
    · exact absurd unknown (by decide)
    · exact absurd unknown (by decide)
    · exact absurd unknown (by decide)
    · exact absurd unknown (by decide)
    · rfl

lemma ClientFrame.commits : Commits (BadFrame kinds) decode := .of_format read_iff read_failsOn

namespace ServerFrame

/-- The fields of the frames of the server, kind by kind. -/
def kinds : List (List FieldShape) :=
  [[.text, .chatKind], [.text, .chatKind, .word], [.text], [.text, .bytes, .word, .text], [.text], [.text, .text],
    [.text, .text]]

/-- Bytes that end with the first bad field of a frame of the server, and its fault. The number of its kind is never
bad. -/
def Bad (bytes : Bytes) (fault : DecodeFault) : Prop :=
  ∃ number shapes fields, kinds[number.toNat]? = some shapes ∧ bytes = uint32.write number ++ fields ∧
    FirstBad shapes fields fault

lemma read_failsOn : format.read.FailsOn (BadFrame kinds) := by
  refine Reader.failsOn_number ?_ ?_
  · intro number shapes known
    split
    · cases known
      exact .bind (.map Reader.takes_text _) fun _ => .bind Reader.takes_chatKind fun _ => .pure _
    · cases known
      exact .bind (.map Reader.takes_text _) fun _ => .bind Reader.takes_chatKind fun _ =>
        .bind Reader.takes_word fun _ => .pure _
    · cases known
      exact .bind Reader.takes_text fun _ => .pure _
    · cases known
      exact .bind (.map Reader.takes_text _) fun _ => .bind Reader.takes_bytes fun _ =>
        .bind Reader.takes_word fun _ => .bind Reader.takes_text fun _ => .pure _
    · cases known
      exact .bind Reader.takes_text fun _ => .pure _
    · cases known
      exact .bind (.map Reader.takes_text _) fun _ => .bind Reader.takes_text fun _ => .pure _
    · cases known
      exact .bind (.map Reader.takes_text _) fun _ => .bind Reader.takes_text fun _ => .pure _
    · have hnumber : number.toNat < 7 := (List.getElem?_eq_some_iff.1 known).1
      simp only [imp_false, ← UInt32.toNat_inj, UInt32.reduceToNat] at *
      omega
  · intro number unknown
    split
    iterate 7 exact absurd unknown (by decide)
    rfl

lemma decode_eq_error_iff {bytes : Bytes} {fault : DecodeFault} (whole : ¬ fault.CutShort) :
    decode bytes = .error fault ↔ ∃ start rest, bytes = start ++ rest ∧ Bad start fault := by
  have hread := Reader.decode_eq_error_iff.trans (read_failsOn bytes fault whole)
  constructor
  · intro h
    unfold decode at h
    have hformat : format.read.decode bytes = .error fault := by
      split at h
      · split at h
        · cases h
        · exact h
      · exact h
    obtain ⟨_, rest, rfl, bad⟩ := hread.1 hformat
    refine ⟨_, rest, rfl, ?_⟩
    cases bad with
    | @field number shapes fields _ known first => exact ⟨number, shapes, fields, known, rfl, first⟩
    | @number number unknown =>
      -- a frame with such a number is an error frame
      rw [Reader.decode_eq_ok_iff.2 ⟨rest, uint32_read_iff.2 rfl⟩] at h
      dsimp only at h
      rw [if_pos (show kindCount ≤ number.toNat from unknown)] at h
      cases h
  · rintro ⟨_, rest, rfl, number, shapes, fields, known, rfl, first⟩
    have hnumber : number.toNat < kindCount := (List.getElem?_eq_some_iff.1 known).1
    have hformat := hread.2 ⟨_, rest, rfl, .field known first⟩
    unfold decode
    rw [List.append_assoc] at hformat ⊢
    rw [Reader.decode_eq_ok_iff.2 ⟨_, uint32_read_iff.2 rfl⟩]
    dsimp only
    rw [if_neg (by omega), hformat]

lemma commits : Commits Bad decode := by
  refine .mk_of_first ?_ ?_
  · intro bytes frame h more
    rcases decode_eq_ok_iff.1 h with ⟨hframe, rest, rfl⟩ | ⟨hlength, unknown, named⟩
    · exact decode_eq_ok_iff.2 (.inl ⟨hframe, rest ++ more, List.append_assoc _ _ _⟩)
    · refine decode_eq_ok_iff.2 (.inr ⟨?_, ?_, ?_⟩)
      · rw [List.length_append]
        omega
      · rwa [List.take_append_of_le_length hlength]
      · rwa [List.take_append_of_le_length hlength]
  · intro bytes fault whole
    exact decode_eq_error_iff whole

end ServerFrame

/-- **Decoding commits to what it has read.** For payloads and for the frames of both sides alike: what is decoded from
bytes is decoded from them whatever follows, and so is what keeps them from being decoded, unless it is that they end
too soon, which the wording tells. The fault is that of the first bad field, up to which values are written in the
fields, and nothing behind this field counts. -/
theorem decoding_commits :
    Commits Payload.Bad Payload.decode ∧
    Commits (BadFrame ClientFrame.kinds) ClientFrame.decode ∧
    Commits ServerFrame.Bad ServerFrame.decode ∧
    ∀ fault : DecodeFault, fault.CutShort ↔ "io error:".toList <+: fault.message.toList :=
  ⟨Payload.commits, ClientFrame.commits, ServerFrame.commits, DecodeFault.cutShort_iff⟩

/-- A flag is bad behind a room's name that is read, and nothing that follows the flag mends it; a name that is no text is
reported although the bytes end inside the next field. -/
theorem decoding_commits_flag :
    let bytes := [0, 0, 0, 0] ++ text.write "room" ++ [1, 0, 0, 0, 9]
    ServerFrame.decode bytes = .error (.badFlag 9) ∧
      ServerFrame.decode (bytes ++ [1, 2, 3]) = .error (.badFlag 9) ∧
      Payload.decode (Format.bytes.write [0xFF] ++ [1]) = .error (.notText (.invalid 1 0)) := by
  intro bytes
  obtain ⟨payload, -, server, -⟩ := decoding_commits
  have bad := (server.first bytes (.badFlag 9) id).2
    ⟨_, [], (List.append_nil _).symm, 0, _, text.write "room" ++ ([1, 0, 0, 0] ++ [9]), rfl, rfl,
      .behind (.text "room" (by decide)) (.here (.flag (by decide) (by decide)))⟩
  refine ⟨bad, server.fault _ _ bad id _, ?_⟩
  exact (payload.first _ _ id).2 ⟨_, [1], rfl, .here (.text (by decide) rfl)⟩

end SealedChat
