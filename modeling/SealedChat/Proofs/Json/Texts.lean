import Mathlib.Tactic.Lemma
import SealedChat.Json.Text

/-!
# Quoted texts

A character can be written in several ways (`Spells`): as itself, as a letter behind a backslash, or as one or two
codes. However the characters of a text are written, the text is read back from between its quotes (`SpellsAll.readText`),
also if it was written in the way of this library (`quoted_writeText`). Texts whose codes come without the other half of
their pairs cannot be read but are skipped (`IsBody.skipText`). In no case does it matter what follows.
-/

namespace SealedChat

namespace Hex

/-- The digits in their order, in lower case. -/
def lowerDigits : List Char := ['0', '1', '2', '3', '4', '5', '6', '7', '8', '9', 'a', 'b', 'c', 'd', 'e', 'f']

/-- The digits in their order, in upper case. -/
def upperDigits : List Char := ['0', '1', '2', '3', '4', '5', '6', '7', '8', '9', 'A', 'B', 'C', 'D', 'E', 'F']

/-- The character is the digit of the number, in either case. -/
def IsDigit (n : Nat) (c : Char) : Prop := lowerDigits[n]? = some c ∨ upperDigits[n]? = some c

lemma IsDigit.value? {n : Nat} {c : Char} (h : IsDigit n c) : value? c = some n := by
  have hlower : ∀ n < 16, lowerDigits[n]?.bind Hex.value? = some n := by decide
  have hupper : ∀ n < 16, upperDigits[n]?.bind Hex.value? = some n := by decide
  rcases h with hc | hc
  · have hn := hlower n (List.getElem?_eq_some_iff.1 hc).1
    rwa [hc] at hn
  · have hn := hupper n (List.getElem?_eq_some_iff.1 hc).1
    rwa [hc] at hn

lemma isDigit_digit {n : Nat} (h : n < 16) : IsDigit n (digit n) := by
  have : ∀ n < 16, lowerDigits[n]? = some (digit n) := by decide
  exact .inl (this n h)

end Hex

namespace Json

/-! ### Codes -/

/-- Four hexadecimal digits, and the code that they stand for. -/
inductive IsCode : Nat → List Char → Prop
  | mk {a b c d : Char} {i j k l : Nat} (ha : Hex.IsDigit i a) (hb : Hex.IsDigit j b) (hc : Hex.IsDigit k c)
      (hd : Hex.IsDigit l d) : IsCode (4096 * i + 256 * j + 16 * k + l) [a, b, c, d]

/-- Four characters have at least four bytes. -/
lemma fourBytesLeft_cons (a b c d : Char) (rest : List Char) : fourBytesLeft (a :: b :: c :: d :: rest) = true := by
  have ha := a.utf8Size_pos
  have hb := b.utf8Size_pos
  have hc := c.utf8Size_pos
  have hd := d.utf8Size_pos
  simp [fourBytesLeft]
  omega

lemma IsCode.code_append {n : Nat} {text : List Char} (h : IsCode n text) (rest : List Char) :
    code (text ++ rest) = .ok (n, rest) := by
  obtain ⟨ha, hb, hc, hd⟩ := h
  unfold code
  simp only [List.cons_append, List.nil_append]
  rw [if_pos (fourBytesLeft_cons _ _ _ _ rest)]
  simp only [ha.value?, hb.value?, hc.value?, hd.value?]

/-- A control character has a code whose first half is zero. -/
lemma isCode_control {c : Char} (h : c.toNat < 0x20) :
    IsCode c.toNat ('0' :: '0' :: Hex.ofByte (UInt8.ofNat c.toNat)) := by
  have hbyte : (UInt8.ofNat c.toNat).toNat = c.toNat := UInt8.toNat_ofNat_of_lt' (Nat.lt_trans h (by decide))
  have hzero : Hex.IsDigit 0 '0' := .inl rfl
  have hhigh : Hex.IsDigit (c.toNat / 16) (Hex.digit (c.toNat / 16)) := Hex.isDigit_digit (by omega)
  have hlow : Hex.IsDigit (c.toNat % 16) (Hex.digit (c.toNat % 16)) := Hex.isDigit_digit (by omega)
  have hcode := IsCode.mk hzero hzero hhigh hlow
  rw [show 4096 * 0 + 256 * 0 + 16 * (c.toNat / 16) + c.toNat % 16 = c.toNat by omega] at hcode
  unfold Hex.ofByte
  rwa [hbyte]

/-! ### Characters -/

/-- The letters that may stand behind a backslash, and what they stand for. -/
def letters : List (Char × Char) :=
  [('"', '"'), ('\\', '\\'), ('/', '/'), ('b', '\x08'), ('f', '\x0c'), ('n', '\n'), ('r', '\r'), ('t', '\t')]

/-- The ways to write a character. -/
inductive Spells : Char → List Char → Prop
  /-- A character that is neither a quote nor a backslash nor a control character stands for itself. -/
  | plain {c : Char} (hquote : c ≠ '"') (hslash : c ≠ '\\') (hcontrol : ¬ c.toNat < 0x20) : Spells c [c]
  | letter {c letter : Char} (h : (letter, c) ∈ letters) : Spells c ['\\', letter]
  | code {c : Char} {text : List Char} (h : IsCode c.toNat text) : Spells c ('\\' :: 'u' :: text)
  /-- A character beyond `FFFF` is split into two halves of ten bits. -/
  | pair {c : Char} {m n : Nat} {high low : List Char} (hhigh : IsCode (0xD800 + m) high) (hm : m < 0x400)
      (hlow : IsCode (0xDC00 + n) low) (hn : n < 0x400) (hc : c.toNat = 0x10000 + m * 0x400 + n) :
      Spells c ('\\' :: 'u' :: (high ++ '\\' :: 'u' :: low))

lemma isHighHalf_eq_true {n : Nat} : isHighHalf n = true ↔ 0xD800 ≤ n ∧ n ≤ 0xDBFF := by
  unfold isHighHalf
  rw [Bool.and_eq_true, decide_eq_true_iff, decide_eq_true_iff]

lemma isLowHalf_eq_true {n : Nat} : isLowHalf n = true ↔ 0xDC00 ≤ n ∧ n ≤ 0xDFFF := by
  unfold isLowHalf
  rw [Bool.and_eq_true, decide_eq_true_iff, decide_eq_true_iff]

section Coded

variable {m n : Nat} {text text' : List Char} (rest : List Char)

lemma codedChar_low (h : IsCode n text) (hn : isLowHalf n = true) :
    codedChar (text ++ rest) = .error .loneSurrogate := by
  unfold codedChar
  rw [h.code_append]
  simp only [bind, Except.bind, hn]
  rfl

lemma codedChar_single (h : IsCode n text) (hlow : isLowHalf n = false) (hhigh : isHighHalf n = false) :
    codedChar (text ++ rest) = .ok (Char.ofNat n, rest) := by
  unfold codedChar
  rw [h.code_append]
  simp only [bind, Except.bind, hlow, hhigh]
  rfl

/-- Behind the first half of a pair it hangs on what follows. -/
lemma codedChar_high (h : IsCode n text) (hn : isHighHalf n = true) :
    codedChar (text ++ rest) = match rest with
      | '\\' :: 'u' :: rest => code rest >>= fun (low, rest) =>
        if isLowHalf low then .ok (Char.ofNat (0x10000 + (n - 0xD800) * 0x400 + (low - 0xDC00)), rest)
        else .error .loneSurrogate
      | [] => .error .endInText
      | ['\\'] => .error .endInText
      | _ => .error .missingSurrogate := by
  have hlow : isLowHalf n = false := by
    have hn := isHighHalf_eq_true.1 hn
    rw [← Bool.not_eq_true, isLowHalf_eq_true]
    omega
  unfold codedChar
  rw [h.code_append]
  simp only [bind, Except.bind, hlow, hn]
  rfl

lemma codedChar_pair (h : IsCode n text) (hn : isHighHalf n = true) (h' : IsCode m text') :
    codedChar (text ++ '\\' :: 'u' :: (text' ++ rest)) =
      if isLowHalf m then .ok (Char.ofNat (0x10000 + (n - 0xD800) * 0x400 + (m - 0xDC00)), rest)
      else .error .loneSurrogate := by
  rw [codedChar_high _ h hn]
  simp only [h'.code_append, bind, Except.bind]

/-- The first half of a pair is refused in front of what is no code. -/
lemma codedChar_missing {c c' : Char} (h : IsCode n text) (hn : isHighHalf n = true) (hc : c = '\\' → c' ≠ 'u') :
    codedChar (text ++ c :: c' :: rest) = .error .missingSurrogate := by
  rw [codedChar_high _ h hn]
  split
  · next heq =>
    obtain ⟨rfl, htail⟩ := List.cons.inj heq
    exact absurd (List.head_eq_of_cons_eq htail) (hc rfl)
  · next heq => cases heq
  · next heq => exact absurd (List.tail_eq_of_cons_eq heq) (List.cons_ne_nil _ _)
  · rfl

end Coded

/-- The code of a character is no half of a pair. -/
lemma not_isHalf_toNat (c : Char) : isLowHalf c.toNat = false ∧ isHighHalf c.toNat = false := by
  have hc : c.toNat < 0xD800 ∨ 0xDFFF < c.toNat ∧ c.toNat < 0x110000 := c.valid
  rw [← Bool.not_eq_true, isLowHalf_eq_true, ← Bool.not_eq_true, isHighHalf_eq_true]
  omega

lemma escaped?_of_mem {c letter : Char} (h : (letter, c) ∈ letters) : escaped? letter = some c := by
  have : ∀ escape ∈ letters, escaped? escape.1 = some escape.2 := by decide
  exact this _ h

/-- The letter in front of a code is none of the others. -/
lemma ne_of_mem_letters {c letter : Char} (h : (letter, c) ∈ letters) : letter ≠ 'u' := by
  have : ∀ escape ∈ letters, escape.1 ≠ 'u' := by decide
  exact this _ h

section Reading

variable (fuel : Nat) (read : List Char)

lemma readTextFrom_plain {c : Char} (hquote : c ≠ '"') (hslash : c ≠ '\\') (hcontrol : ¬ c.toNat < 0x20)
    (rest : List Char) : readTextFrom (fuel + 1) read (c :: rest) = readTextFrom fuel (c :: read) rest := by
  rw [readTextFrom, if_neg hcontrol]
  · exact hquote
  · exact fun h _ => hslash h
  · exact fun _ h _ => hslash h
  · exact fun _ _ h _ => hslash h

lemma readTextFrom_letter {c letter : Char} (h : (letter, c) ∈ letters) (rest : List Char) :
    readTextFrom (fuel + 1) read ('\\' :: letter :: rest) = readTextFrom fuel (c :: read) rest := by
  rw [readTextFrom]
  · rw [escaped?_of_mem h]
  · exact ne_of_mem_letters h

lemma readTextFrom_coded {text rest : List Char} {c : Char} (h : codedChar text = .ok (c, rest)) :
    readTextFrom (fuel + 1) read ('\\' :: 'u' :: text) = readTextFrom fuel (c :: read) rest := by
  rw [readTextFrom, h]

/-- A character is read from each of its spellings. -/
lemma Spells.readTextFrom {c : Char} {text : List Char} (h : Spells c text) (rest : List Char) :
    readTextFrom (fuel + 1) read (text ++ rest) = Json.readTextFrom fuel (c :: read) rest := by
  cases h with
  | plain hquote hslash hcontrol => exact readTextFrom_plain fuel read hquote hslash hcontrol rest
  | letter h => exact readTextFrom_letter fuel read h rest
  | code h =>
    have hcode := codedChar_single rest h (not_isHalf_toNat c).1 (not_isHalf_toNat c).2
    rw [Char.ofNat_toNat] at hcode
    exact readTextFrom_coded fuel read hcode
  | @pair m n high low hhigh hm hlow hn hc =>
    refine readTextFrom_coded fuel read ?_
    show codedChar (high ++ '\\' :: 'u' :: low ++ rest) = .ok (c, rest)
    rw [List.append_assoc]
    refine (codedChar_pair rest hhigh (isHighHalf_eq_true.2 (by omega)) hlow).trans ?_
    rw [if_pos (isLowHalf_eq_true.2 (by omega)), Nat.add_sub_cancel_left, Nat.add_sub_cancel_left, ← hc,
      Char.ofNat_toNat]

end Reading

lemma spells_escape (c : Char) : Spells c (escape c) := by
  unfold escape
  -- the characters with a letter of their own
  split
  · subst_vars; exact .letter (by decide)
  split
  · subst_vars; exact .letter (by decide)
  split
  · subst_vars; exact .letter (by decide)
  split
  · subst_vars; exact .letter (by decide)
  split
  · subst_vars; exact .letter (by decide)
  split
  · subst_vars; exact .letter (by decide)
  split
  · subst_vars; exact .letter (by decide)
  split
  · next hcontrol => exact .code (isCode_control hcontrol)
  · next hquote hslash _ _ _ _ _ hcontrol => exact .plain hquote hslash hcontrol

lemma Spells.length_pos {c : Char} {text : List Char} (h : Spells c text) : 0 < text.length := by
  cases h <;> exact Nat.succ_pos _

/-! ### Texts that are read -/

/-- The ways to write characters one after another. -/
inductive SpellsAll : List Char → List Char → Prop
  | nil : SpellsAll [] []
  | cons {c : Char} {chars part text : List Char} (hpart : Spells c part) (htext : SpellsAll chars text) :
      SpellsAll (c :: chars) (part ++ text)

/-- A text between quotes, its characters written in any way. -/
def Quoted (text : String) (written : List Char) : Prop :=
  ∃ body, SpellsAll text.toList body ∧ written = '"' :: (body ++ ['"'])

/-- The induction is on the characters, each of which takes one step of the reader. -/
lemma SpellsAll.readTextFrom {chars text : List Char} (h : SpellsAll chars text) {fuel : Nat}
    (hfuel : text.length < fuel) (read rest : List Char) :
    readTextFrom fuel read (text ++ '"' :: rest) = .ok (String.ofList (read.reverse ++ chars), rest) := by
  induction h generalizing fuel read with
  | nil =>
    obtain ⟨fuel, rfl⟩ := Nat.exists_eq_succ_of_ne_zero (Nat.ne_zero_of_lt hfuel)
    rw [List.append_nil]
    rfl
  | @cons c chars part text hpart _ ih =>
    obtain ⟨fuel, rfl⟩ := Nat.exists_eq_succ_of_ne_zero (Nat.ne_zero_of_lt hfuel)
    have hlength := hpart.length_pos
    rw [List.length_append] at hfuel
    rw [List.append_assoc, hpart.readTextFrom, ih (by omega), List.reverse_cons, List.append_assoc,
      List.singleton_append]

/-- **A text is read back from between its quotes**, in whatever way it is written. -/
theorem SpellsAll.readText {text : String} {body : List Char} (h : SpellsAll text.toList body) (rest : List Char) :
    readText (body ++ '"' :: rest) = .ok (text, rest) := by
  unfold Json.readText
  rw [h.readTextFrom (by rw [List.length_append, List.length_cons]; omega), List.reverse_nil, List.nil_append,
    String.ofList_toList]

lemma spellsAll_flatMap_escape (chars : List Char) : SpellsAll chars (chars.flatMap escape) := by
  induction chars with
  | nil => exact .nil
  | cons c chars ih => exact .cons (spells_escape c) ih

lemma quoted_writeText (text : String) : Quoted text (writeText text) :=
  ⟨_, spellsAll_flatMap_escape text.toList, rfl⟩

/-! ### Texts that are skipped -/

/-- A character of a text, or half of one: its code may stand for anything. -/
inductive IsCharacter : List Char → Prop
  | plain {c : Char} (hquote : c ≠ '"') (hslash : c ≠ '\\') (hcontrol : ¬ c.toNat < 0x20) : IsCharacter [c]
  | letter {c letter : Char} (h : (letter, c) ∈ letters) : IsCharacter ['\\', letter]
  | code {n : Nat} {text : List Char} (h : IsCode n text) : IsCharacter ('\\' :: 'u' :: text)

/-- What can stand between quotes. -/
inductive IsBody : List Char → Prop
  | nil : IsBody []
  | cons {part text : List Char} (hpart : IsCharacter part) (htext : IsBody text) : IsBody (part ++ text)

/-- A quoted text. -/
def IsText (text : List Char) : Prop := ∃ body, IsBody body ∧ text = '"' :: (body ++ ['"'])

lemma SpellsAll.isBody {chars text : List Char} (h : SpellsAll chars text) : IsBody text := by
  induction h with
  | nil => exact .nil
  | @cons c chars part text hpart _ ih =>
    cases hpart with
    | plain hquote hslash hcontrol => exact .cons (.plain hquote hslash hcontrol) ih
    | letter h => exact .cons (.letter h) ih
    | code h => exact .cons (.code h) ih
    | @pair m n high low hhigh _ hlow _ _ =>
      -- the two halves are characters of their own
      have h := IsBody.cons (.code hhigh) (.cons (.code hlow) ih)
      simpa only [List.cons_append, List.append_assoc] using h

lemma Quoted.isText {text : String} {written : List Char} (h : Quoted text written) : IsText written := by
  obtain ⟨body, hbody, hwritten⟩ := h
  exact ⟨body, hbody.isBody, hwritten⟩

lemma IsCharacter.skipTextFrom {part : List Char} (h : IsCharacter part) (fuel : Nat) (rest : List Char) :
    skipTextFrom (fuel + 1) (part ++ rest) = Json.skipTextFrom fuel rest := by
  cases h with
  | @plain c hquote hslash hcontrol =>
    rw [List.singleton_append, Json.skipTextFrom, if_neg hcontrol]
    · exact hquote
    · exact fun h _ => hslash h
    · exact fun _ h _ => hslash h
    · exact fun _ _ h _ => hslash h
  | letter h =>
    rw [List.cons_append, List.singleton_append, Json.skipTextFrom, escaped?_of_mem h]
    · rfl
    · exact ne_of_mem_letters h
  | code h => rw [List.cons_append, List.cons_append, Json.skipTextFrom, h.code_append]

lemma IsCharacter.length_pos {part : List Char} (h : IsCharacter part) : 0 < part.length := by
  cases h <;> exact Nat.succ_pos _

lemma IsBody.skipTextFrom {text : List Char} (h : IsBody text) {fuel : Nat} (hfuel : text.length < fuel)
    (rest : List Char) : skipTextFrom fuel (text ++ '"' :: rest) = .ok rest := by
  induction h generalizing fuel with
  | nil =>
    obtain ⟨fuel, rfl⟩ := Nat.exists_eq_succ_of_ne_zero (Nat.ne_zero_of_lt hfuel)
    rfl
  | @cons part text hpart _ ih =>
    obtain ⟨fuel, rfl⟩ := Nat.exists_eq_succ_of_ne_zero (Nat.ne_zero_of_lt hfuel)
    have hlength := hpart.length_pos
    rw [List.length_append] at hfuel
    rw [List.append_assoc, hpart.skipTextFrom, ih (by omega)]

/-- **A text is skipped up to its second quote**, whatever its codes stand for. -/
theorem IsBody.skipText {body : List Char} (h : IsBody body) (rest : List Char) :
    skipText (body ++ '"' :: rest) = .ok rest :=
  h.skipTextFrom (by rw [List.length_append, List.length_cons]; omega) rest

/-! ### All texts -/

/-- What a code stands for does not hang on what follows the text: nothing, or one character. -/
lemma IsBody.codedChar {n : Nat} {digits text : List Char} (hcode : IsCode n digits) (htext : IsBody text) :
    (∃ fault, ∀ rest, codedChar (digits ++ (text ++ '"' :: rest)) = .error fault) ∨
      ∃ c text', IsBody text' ∧ text'.length ≤ text.length ∧
        ∀ rest, Json.codedChar (digits ++ (text ++ '"' :: rest)) = .ok (c, text' ++ '"' :: rest) := by
  cases hlow : isLowHalf n with
  | true => exact .inl ⟨_, fun _ => codedChar_low _ hcode hlow⟩
  | false =>
    cases hhigh : isHighHalf n with
    | false => exact .inr ⟨_, text, htext, Nat.le_refl _, fun _ => codedChar_single _ hcode hlow hhigh⟩
    | true =>
      -- the first half of a pair asks for the second
      cases htext with
      | nil => exact .inl ⟨_, fun _ => codedChar_high _ hcode hhigh⟩
      | @cons part text hpart htext =>
        cases hpart with
        | plain _ hslash _ =>
          refine .inl ⟨.missingSurrogate, ?_⟩
          intro rest
          obtain ⟨c', behind, heq⟩ :=
            List.exists_cons_of_ne_nil (List.append_ne_nil_of_right_ne_nil text (List.cons_ne_nil '"' rest))
          rw [List.append_assoc, List.singleton_append, heq]
          exact codedChar_missing behind hcode hhigh fun h => absurd h hslash
        | letter hletter =>
          refine .inl ⟨.missingSurrogate, ?_⟩
          intro rest
          exact codedChar_missing _ hcode hhigh fun _ => ne_of_mem_letters hletter
        | @code m digits' hcode' =>
          have hpair (rest : List Char) := codedChar_pair (text ++ '"' :: rest) hcode hhigh hcode'
          cases hm : isLowHalf m with
          | false =>
            refine .inl ⟨.loneSurrogate, ?_⟩
            intro rest
            rw [List.append_assoc]
            exact (hpair rest).trans (if_neg (Bool.eq_false_iff.1 hm))
          | true =>
            refine .inr ⟨Char.ofNat (0x10000 + (n - 0xD800) * 0x400 + (m - 0xDC00)), text, htext, ?_, ?_⟩
            · rw [List.length_append]
              exact Nat.le_add_left _ _
            · intro rest
              rw [List.append_assoc]
              exact (hpair rest).trans (if_pos hm)

/-- What a step of the reader finds does not hang on what follows the text: a fault, or one character. -/
lemma IsBody.readTextFrom_step {part text : List Char} (hpart : IsCharacter part) (htext : IsBody text)
    (read : List Char) :
    (∃ fault, ∀ fuel rest, readTextFrom (fuel + 1) read (part ++ (text ++ '"' :: rest)) = .error fault) ∨
      ∃ c text', IsBody text' ∧ text'.length ≤ text.length ∧ ∀ fuel rest,
        readTextFrom (fuel + 1) read (part ++ (text ++ '"' :: rest)) =
          readTextFrom fuel (c :: read) (text' ++ '"' :: rest) := by
  cases hpart with
  | @plain c hquote hslash hcontrol =>
    exact .inr ⟨c, text, htext, Nat.le_refl _, fun fuel _ => readTextFrom_plain fuel read hquote hslash hcontrol _⟩
  | @letter c letter h =>
    exact .inr ⟨c, text, htext, Nat.le_refl _, fun fuel _ => readTextFrom_letter fuel read h _⟩
  | code h =>
    rcases htext.codedChar h with ⟨fault, hfault⟩ | ⟨c, text', htext', hlength, hc⟩
    · exact .inl ⟨fault, fun fuel rest => by rw [List.cons_append, List.cons_append, readTextFrom, hfault]⟩
    · exact .inr ⟨c, text', htext', hlength, fun fuel rest => readTextFrom_coded fuel read (hc rest)⟩

/-- The induction is on the length of the text, since two codes may give one character. -/
lemma IsBody.readTextFrom {body : List Char} (h : IsBody body) (read : List Char) :
    ∃ result : Except Fault String, ∀ fuel rest, body.length < fuel →
      readTextFrom fuel read (body ++ '"' :: rest) = result.map (·, rest) := by
  induction hn : body.length using Nat.strongRecOn generalizing body read with
  | ind n ih =>
    cases h with
    | nil =>
      refine ⟨.ok (String.ofList read.reverse), ?_⟩
      intro fuel rest hfuel
      obtain ⟨fuel, rfl⟩ := Nat.exists_eq_succ_of_ne_zero (Nat.ne_zero_of_lt hfuel)
      rfl
    | @cons part text hpart htext =>
      have hlength := hpart.length_pos
      rw [List.length_append] at hn
      rcases htext.readTextFrom_step hpart read with ⟨fault, hfault⟩ | ⟨c, text', htext', hle, hc⟩
      · refine ⟨.error fault, ?_⟩
        intro fuel rest hfuel
        obtain ⟨fuel, rfl⟩ := Nat.exists_eq_succ_of_ne_zero (Nat.ne_zero_of_lt hfuel)
        rw [List.append_assoc, hfault]
        rfl
      · obtain ⟨result, hresult⟩ := ih text'.length (by omega) htext' (c :: read) rfl
        refine ⟨result, ?_⟩
        intro fuel rest hfuel
        obtain ⟨fuel, rfl⟩ := Nat.exists_eq_succ_of_ne_zero (Nat.ne_zero_of_lt hfuel)
        rw [List.append_assoc, hc, hresult fuel rest (by omega)]

/-- **What is read of a text does not hang on what follows it.** -/
theorem IsBody.readText {body : List Char} (h : IsBody body) :
    ∃ result : Except Fault String, ∀ rest, readText (body ++ '"' :: rest) = result.map (·, rest) := by
  obtain ⟨result, hresult⟩ := h.readTextFrom []
  refine ⟨result, ?_⟩
  intro rest
  exact hresult _ rest (by rw [List.length_append, List.length_cons]; omega)

end Json

end SealedChat
