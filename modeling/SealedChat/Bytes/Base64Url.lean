import SealedChat.Bytes.Basic

/-!
# Base64 for addresses

Three bytes are written as four digits of an alphabet of sixty-four letters that need no escape in
an address. One or two bytes left over are written as two or three digits, and nothing is written
in place of the digits that are missing. Reading is strict: the bits that the last digit has to
spare are zero, so each byte string has exactly one spelling (`decode?_eq_some_iff`).
-/

namespace SealedChat.Base64Url

/-! ### Digits -/

/-- The digit of a number below sixty-four: capitals, small letters, figures, `-` and `_`. -/
def digit (n : Nat) : Char :=
  if n < 26 then Char.ofNat (65 + n)
  else if n < 52 then Char.ofNat (71 + n)
  else if n < 62 then Char.ofNat (n - 4)
  else if n = 62 then '-'
  else '_'

/-- The value of a digit. -/
def value? (c : Char) : Option Nat :=
  if 65 ≤ c.toNat ∧ c.toNat ≤ 90 then some (c.toNat - 65)
  else if 97 ≤ c.toNat ∧ c.toNat ≤ 122 then some (c.toNat - 71)
  else if 48 ≤ c.toNat ∧ c.toNat ≤ 57 then some (c.toNat + 4)
  else if c = '-' then some 62
  else if c = '_' then some 63
  else none

theorem value?_digit : ∀ n < 64, value? (digit n) = some n := by decide

theorem digit_of_value? {c : Char} {n : Nat} (h : value? c = some n) : n < 64 ∧ digit n = c := by
  simp only [value?] at h
  have back : ∀ m, m = c.toNat → Char.ofNat m = c := fun m hm => hm ▸ Char.ofNat_toNat c
  split at h
  · obtain rfl := Option.some.inj h
    exact ⟨by omega, by rw [digit, if_pos (by omega)]; exact back _ (by omega)⟩
  split at h
  · obtain rfl := Option.some.inj h
    exact ⟨by omega, by rw [digit, if_neg (by omega), if_pos (by omega)]; exact back _ (by omega)⟩
  split at h
  · obtain rfl := Option.some.inj h
    refine ⟨by omega, ?_⟩
    rw [digit, if_neg (by omega), if_neg (by omega), if_pos (by omega)]
    exact back _ (by omega)
  split at h
  · obtain rfl := Option.some.inj h
    exact ⟨by omega, by simp_all [digit]⟩
  split at h
  · obtain rfl := Option.some.inj h
    exact ⟨by omega, by simp_all [digit]⟩
  · simp at h

/-! ### Writing and reading -/

/-- The digits of a byte string. -/
def digits : Bytes → List Char
  | [] => []
  | [a] =>
    let n := 16 * a.toNat
    [digit (n / 64), digit (n % 64)]
  | [a, b] =>
    let n := 1024 * a.toNat + 4 * b.toNat
    [digit (n / 4096), digit (n / 64 % 64), digit (n % 64)]
  | a :: b :: c :: rest =>
    let n := 65536 * a.toNat + 256 * b.toNat + c.toNat
    digit (n / 262144) :: digit (n / 4096 % 64) :: digit (n / 64 % 64) :: digit (n % 64) :: digits rest

/-- The digits of a byte string, as a text. -/
def encode (bytes : Bytes) : String := String.ofList (digits bytes)

/-- Reads digits as the byte string that is written so, if there is one. -/
def decode? : List Char → Option Bytes
  | [] => some []
  | [_] => none
  | [p, q] => do
    let n := 64 * (← value? p) + (← value? q)
    if n % 16 = 0 then return [UInt8.ofNat (n / 16)] else none
  | [p, q, r] => do
    let n := 4096 * (← value? p) + 64 * (← value? q) + (← value? r)
    if n % 4 = 0 then return [UInt8.ofNat (n / 1024), UInt8.ofNat (n / 4)] else none
  | p :: q :: r :: s :: rest => do
    let n := 262144 * (← value? p) + 4096 * (← value? q) + 64 * (← value? r) + (← value? s)
    let rest ← decode? rest
    return UInt8.ofNat (n / 65536) :: UInt8.ofNat (n / 256) :: UInt8.ofNat n :: rest

/-! ### One spelling for each byte string -/

theorem decode?_digits (bytes : Bytes) : decode? (digits bytes) = some bytes := by
  fun_induction digits bytes with
  | case1 => rfl
  | case2 a n =>
    have ha := a.toNat_lt
    rw [decode?, value?_digit _ (by omega), value?_digit _ (by omega)]
    have hn : 64 * (n / 64) + n % 64 = n := by omega
    simp only [Option.bind_eq_bind, Option.bind_some, hn]
    rw [if_pos (by omega)]
    simp [n]
  | case3 a b n =>
    have ha := a.toNat_lt
    have hb := b.toNat_lt
    rw [decode?, value?_digit _ (by omega), value?_digit _ (by omega), value?_digit _ (by omega)]
    have hn : 4096 * (n / 4096) + 64 * (n / 64 % 64) + n % 64 = n := by omega
    simp only [Option.bind_eq_bind, Option.bind_some, hn]
    rw [if_pos (by omega)]
    have h1 : UInt8.ofNat (n / 1024) = a := by
      rw [show n / 1024 = a.toNat by omega, UInt8.ofNat_toNat]
    have h2 : UInt8.ofNat (n / 4) = b := by
      apply UInt8.toNat_inj.1; simp; omega
    simp [h1, h2]
  | case4 a b c rest n ih =>
    have ha := a.toNat_lt
    have hb := b.toNat_lt
    have hc := c.toNat_lt
    rw [decode?, value?_digit _ (by omega), value?_digit _ (by omega), value?_digit _ (by omega),
      value?_digit _ (by omega), ih]
    have hn : 262144 * (n / 262144) + 4096 * (n / 4096 % 64) + 64 * (n / 64 % 64) + n % 64 = n := by omega
    simp only [Option.bind_eq_bind, Option.bind_some, hn]
    have h1 : UInt8.ofNat (n / 65536) = a := by
      rw [show n / 65536 = a.toNat by omega, UInt8.ofNat_toNat]
    have h2 : UInt8.ofNat (n / 256) = b := by
      apply UInt8.toNat_inj.1; simp; omega
    have h3 : UInt8.ofNat n = c := by
      apply UInt8.toNat_inj.1; simp; omega
    simp [h1, h2, h3]

theorem eq_digits_of_decode? {text : List Char} {bytes : Bytes} (h : decode? text = some bytes) :
    text = digits bytes := by
  fun_induction decode? text generalizing bytes with
  | case1 => obtain rfl := Option.some.inj h; rfl
  | case2 => simp at h
  | case3 p q =>
    simp only [Option.bind_eq_bind, Option.bind_eq_some_iff] at h
    obtain ⟨m, hm, n, hn, h⟩ := h
    obtain ⟨hm, rfl⟩ := digit_of_value? hm
    obtain ⟨hn, rfl⟩ := digit_of_value? hn
    split at h
    · obtain rfl := Option.some.inj h
      have h1 : 16 * ((64 * m + n) / 16 % 256) = 64 * m + n := by omega
      have h2 : (64 * m + n) / 64 = m := by omega
      have h3 : (64 * m + n) % 64 = n := by omega
      simp [digits, h1, h2, h3]
    · simp at h
  | case4 p q r =>
    simp only [Option.bind_eq_bind, Option.bind_eq_some_iff] at h
    obtain ⟨l, hl, m, hm, n, hn, h⟩ := h
    obtain ⟨hl, rfl⟩ := digit_of_value? hl
    obtain ⟨hm, rfl⟩ := digit_of_value? hm
    obtain ⟨hn, rfl⟩ := digit_of_value? hn
    split at h
    · obtain rfl := Option.some.inj h
      have h1 : 1024 * ((4096 * l + 64 * m + n) / 1024 % 256) + 4 * ((4096 * l + 64 * m + n) / 4 % 256) =
          4096 * l + 64 * m + n := by omega
      have h2 : (4096 * l + 64 * m + n) / 4096 = l := by omega
      have h3 : (4096 * l + 64 * m + n) / 64 % 64 = m := by omega
      have h4 : (4096 * l + 64 * m + n) % 64 = n := by omega
      simp [digits, h1, h2, h3, h4]
    · simp at h
  | case5 p q r s rest ih =>
    simp only [Option.bind_eq_bind, Option.bind_eq_some_iff] at h
    obtain ⟨k, hk, l, hl, m, hm, n, hn, tail, htail, h⟩ := h
    obtain ⟨hk, rfl⟩ := digit_of_value? hk
    obtain ⟨hl, rfl⟩ := digit_of_value? hl
    obtain ⟨hm, rfl⟩ := digit_of_value? hm
    obtain ⟨hn, rfl⟩ := digit_of_value? hn
    obtain rfl := Option.some.inj h
    generalize hv : 262144 * k + 4096 * l + 64 * m + n = v
    have h0 : 65536 * (v / 65536 % 256) + 256 * (v / 256 % 256) + v % 256 = v := by omega
    have h1 : v / 262144 = k := by omega
    have h2 : v / 4096 % 64 = l := by omega
    have h3 : v / 64 % 64 = m := by omega
    have h4 : v % 64 = n := by omega
    simp [digits, h0, h1, h2, h3, h4, ih htail]

/-- **Reading accepts exactly what writing produces.** -/
theorem decode?_eq_some_iff {text : List Char} {bytes : Bytes} :
    decode? text = some bytes ↔ text = digits bytes :=
  ⟨eq_digits_of_decode?, fun h => h ▸ decode?_digits bytes⟩

end SealedChat.Base64Url
