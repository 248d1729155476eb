import SealedChat.Proofs.Chain
import SealedChat.Proofs.Wire.Messages
import SealedChat.Identity

/-!
# The search for a key is exact

The keys of a chain are tried in the order of their indices, so a search finds the least index of the
window whose key opens the sealed message to a payload that names this index, and nothing if there is no
such index (`search_exact`). The two places from which the keys are walked do not matter.
-/

namespace SealedChat

/-! ### What is searched for -/

/-- The key at an index of the chain from a base opens a sealed message to a payload that names this
index. -/
def Opens (base : ChainBase) (blob : Bytes) (index : UInt64) (payload : Payload) : Prop :=
  ∃ plaintext, (base.keyAt index.toNat).decrypt blob = .ok plaintext ∧
    Payload.decode plaintext = .ok payload ∧ payload.chainIndex = index

/-- A window around an index covers another index. There are no indices below zero, and none of them is
the greatest. -/
def Window.Covers (window : Window) (current index : UInt64) : Prop :=
  current.toNat - window.behind.toNat ≤ index.toNat ∧
    index.toNat < min (2 ^ 64 - 1) (current.toNat + window.ahead.toNat)

instance (window : Window) (current index : UInt64) : Decidable (window.Covers current index) := by
  unfold Window.Covers
  infer_instance

/-- A window that ends behind index 1 covers no other index than 0 and 1. -/
lemma Window.Covers.eq_one {window : Window} {current j : UInt64} (h : window.Covers current j)
    (hstop : current.toNat + window.ahead.toNat = 2) (hne : j ≠ 0) : j = 1 := by
  have hlt := h.2
  have hne : j.toNat ≠ 0 := fun hzero => hne (UInt64.toNat_inj.1 hzero)
  rw [← UInt64.toNat_inj]
  change j.toNat = 1
  omega

section Opens

variable {base : ChainBase} {blob : Bytes} {index : UInt64} {p q : Payload}

lemma Opens.unique (hp : Opens base blob index p) (hq : Opens base blob index q) : p = q := by
  obtain ⟨x, hx, hp, -⟩ := hp
  obtain ⟨y, hy, hq, -⟩ := hq
  obtain rfl : x = y := Except.ok.inj (hx.symm.trans hy)
  exact Except.ok.inj (hp.symm.trans hq)

/-- A payload that is sealed under the key at the index that it names is opened there. -/
lemma opens_sealWith {nonce : Bytes} (hnonce : nonce.length = MessageKey.nonceSize) (hfits : p.Fits) :
    Opens base ((base.keyAt p.chainIndex.toNat).sealWith nonce p.encode) p.chainIndex p := by
  refine ⟨p.encode, ?_, Payload.decode_encode hfits, rfl⟩
  rw [MessageKey.decrypt, MessageKey.unseal?_sealWith _ hnonce]

/-- What opening under any key comes to. -/
lemma openAt?_eq_some_iff_decode {key : MessageKey} : openAt? key index blob = some p ↔
    ∃ plaintext, key.decrypt blob = .ok plaintext ∧ Payload.decode plaintext = .ok p ∧ p.chainIndex = index := by
  unfold openAt? MessageKey.decrypt
  cases key.unseal? blob with
  | none => simp
  | some plaintext =>
    simp only [Except.ok.injEq, exists_eq_left']
    cases Payload.decode plaintext with
    | error fault => simp
    | ok payload =>
      by_cases h : payload.chainIndex = index
      · simp only [h, if_true, Option.some.injEq, Except.ok.injEq]
        constructor
        · rintro rfl
          exact ⟨rfl, h⟩
        · rintro ⟨hp, -⟩
          exact hp
      · simp only [h, if_false, Except.ok.injEq]
        constructor
        · intro hp
          cases hp
        · rintro ⟨rfl, hindex⟩
          exact absurd hindex h

lemma openAt?_eq_some_iff : openAt? (base.keyAt index.toNat) index blob = some p ↔ Opens base blob index p :=
  openAt?_eq_some_iff_decode

lemma openAt?_eq_none_iff : openAt? (base.keyAt index.toNat) index blob = none ↔ ∀ p, ¬ Opens base blob index p := by
  rw [Option.eq_none_iff_forall_ne_some]
  exact forall_congr' fun p => not_congr openAt?_eq_some_iff

end Opens

/-! ### Searching from a place on the chain -/

section SearchFrom

variable {base : ChainBase} {blob : Bytes}

/-- One turn of the search. -/
lemma searchFrom_succ {n : Nat} (h : n < 2 ^ 64) (count : Nat) :
    searchFrom blob (count + 1) (base.chainAt n) =
      match openAt? (base.keyAt n) (UInt64.ofNat n) blob with
      | some payload => some ⟨UInt64.ofNat n, payload⟩
      | none => searchFrom blob count (base.chainAt (n + 1)) := by
  have hindex : (base.chainAt n).index = UInt64.ofNat n := by
    rw [← UInt64.toNat_inj, base.toNat_index_chainAt h, UInt64.toNat_ofNat_of_lt' h]
  show (match openAt? (base.chainAt n).next.1 (base.chainAt n).index blob with
    | some payload => some (Hit.mk (base.chainAt n).index payload)
    | none => searchFrom blob count (base.chainAt n).next.2) = _
  rw [hindex, ← base.keyAt_eq, base.chainAt_succ]

/-- The search gives the first of the indices from `n` on whose key opens the message. -/
lemma searchFrom_eq_some_iff {count n : Nat} (h : n + count < 2 ^ 64) {hit : Hit} :
    searchFrom blob count (base.chainAt n) = some hit ↔
      (n ≤ hit.index.toNat ∧ hit.index.toNat < n + count ∧ Opens base blob hit.index hit.payload) ∧
        ∀ j : UInt64, n ≤ j.toNat → j.toNat < hit.index.toNat → ∀ p, ¬ Opens base blob j p := by
  induction count generalizing n with
  | zero =>
    simp only [searchFrom, reduceCtorEq, false_iff, not_and]
    omega
  | succ count ih =>
    have hn : (UInt64.ofNat n).toNat = n := UInt64.toNat_ofNat_of_lt' (by simp [UInt64.size]; omega)
    have at_n {j : UInt64} (hj : j.toNat = n) : j = UInt64.ofNat n := by rw [← hj, UInt64.ofNat_toNat]
    rw [searchFrom_succ (by omega)]
    cases hopen : openAt? (base.keyAt n) (UInt64.ofNat n) blob with
    | some payload =>
      have hopens : Opens base blob (UInt64.ofNat n) payload := openAt?_eq_some_iff.1 (by rw [hn]; exact hopen)
      constructor
      · intro heq
        obtain rfl := Option.some.inj heq
        simp only [hn]
        refine ⟨⟨by omega, by omega, hopens⟩, ?_⟩
        intro j hj hlt
        omega
      · rintro ⟨⟨hle, -, hhit⟩, hleast⟩
        obtain ⟨index, found⟩ := hit
        simp only at *
        -- no index between `n` and the hit may open the message, but `n` does
        have hindex : index = UInt64.ofNat n := by
          rcases Nat.eq_or_lt_of_le hle with heq | hlt
          · exact at_n heq.symm
          · exact absurd hopens (hleast (UInt64.ofNat n) (by omega) (by omega) payload)
        subst hindex
        rw [hhit.unique hopens]
    | none =>
      have hnone : ∀ p, ¬ Opens base blob (UInt64.ofNat n) p := openAt?_eq_none_iff.1 (by rw [hn]; exact hopen)
      simp only
      rw [ih (by omega)]
      constructor
      · rintro ⟨⟨hle, hlt, hhit⟩, hleast⟩
        refine ⟨⟨by omega, by omega, hhit⟩, ?_⟩
        intro j hj hjlt p hp
        rcases Nat.eq_or_lt_of_le hj with heq | hlt'
        · exact hnone p (at_n heq.symm ▸ hp)
        · exact hleast j hlt' hjlt p hp
      · rintro ⟨⟨hle, hlt, hhit⟩, hleast⟩
        have hne : n ≠ hit.index.toNat := fun heq => hnone _ (at_n heq.symm ▸ hhit)
        refine ⟨⟨by omega, by omega, hhit⟩, ?_⟩
        intro j hj hjlt
        exact hleast j (by omega) hjlt

/-- The search gives nothing if no index from `n` on has a key that opens the message. -/
lemma searchFrom_eq_none_iff {count n : Nat} (h : n + count < 2 ^ 64) :
    searchFrom blob count (base.chainAt n) = none ↔
      ∀ j : UInt64, n ≤ j.toNat → j.toNat < n + count → ∀ p, ¬ Opens base blob j p := by
  induction count generalizing n with
  | zero =>
    simp only [searchFrom, true_iff]
    intro j hj hlt
    omega
  | succ count ih =>
    have hn : (UInt64.ofNat n).toNat = n := UInt64.toNat_ofNat_of_lt' (by simp [UInt64.size]; omega)
    rw [searchFrom_succ (by omega)]
    cases hopen : openAt? (base.keyAt n) (UInt64.ofNat n) blob with
    | some payload =>
      have hopens : Opens base blob (UInt64.ofNat n) payload := openAt?_eq_some_iff.1 (by rw [hn]; exact hopen)
      simp only [reduceCtorEq, false_iff]
      intro hall
      exact hall (UInt64.ofNat n) (by omega) (by omega) payload hopens
    | none =>
      have hnone : ∀ p, ¬ Opens base blob (UInt64.ofNat n) p := openAt?_eq_none_iff.1 (by rw [hn]; exact hopen)
      simp only
      rw [ih (by omega)]
      constructor
      · intro hall j hj hlt
        rcases Nat.eq_or_lt_of_le hj with heq | hlt'
        · obtain rfl : j = UInt64.ofNat n := by rw [heq, UInt64.ofNat_toNat]
          exact hnone
        · exact hall j hlt' (by omega)
      · intro hall j hj hlt
        exact hall j (by omega) (by omega)

end SearchFrom

/-! ### Searching a window -/

section Search

variable {base : ChainBase} {chain : Chain} {window : Window} {blob : Bytes}

/-- The search walks the keys of the window, whichever of the two places it starts from. -/
lemma search?_eq_searchFrom (h : chain.Follows base) :
    search? base chain window blob =
      searchFrom blob ((window.stop chain.index).toNat - (window.start chain.index).toNat)
        (base.chainAt (window.start chain.index).toNat) := by
  have hstart : (base.chainAt 0).index.toNat = 0 := rfl
  unfold search?
  simp only
  split
  · rw [(Chain.follows_ofBase base).advanceTo_eq]
    congr 2
  · rename_i hle
    have hle := UInt64.le_iff_toNat_le.1 (UInt64.not_lt.1 hle)
    rw [h.advanceTo_eq]
    congr 2
    omega

lemma covers_iff {current index : UInt64} : window.Covers current index ↔
    (window.start current).toNat ≤ index.toNat ∧ index.toNat < (window.stop current).toNat := by
  rw [window.toNat_start, window.toNat_stop]
  rfl

/-- The number of keys that a search tries does not lead beyond the window. -/
lemma start_add_count (window : Window) (current : UInt64) :
    (window.start current).toNat ≤ 2 ^ 64 - 1 ∧
    (window.start current).toNat + ((window.stop current).toNat - (window.start current).toNat) =
      (window.stop current).toNat ∧ (window.stop current).toNat < 2 ^ 64 := by
  have := current.toNat_lt
  rw [window.toNat_start, window.toNat_stop]
  omega

/-- A search finds the least index of the window whose key opens the message. -/
theorem search?_eq_some_iff (h : chain.Follows base) {hit : Hit} :
    search? base chain window blob = some hit ↔
      (window.Covers chain.index hit.index ∧ Opens base blob hit.index hit.payload) ∧
        ∀ j, window.Covers chain.index j → (∃ p, Opens base blob j p) → hit.index ≤ j := by
  obtain ⟨-, hcount, hstop⟩ := start_add_count window chain.index
  rw [search?_eq_searchFrom h, searchFrom_eq_some_iff (by omega), hcount]
  simp only [covers_iff, UInt64.le_iff_toNat_le]
  constructor
  · rintro ⟨⟨hle, hlt, hopens⟩, hleast⟩
    refine ⟨⟨⟨hle, hlt⟩, hopens⟩, ?_⟩
    rintro j hj ⟨p, hp⟩
    apply Nat.le_of_not_lt
    intro hjlt
    exact hleast j hj.1 hjlt p hp
  · rintro ⟨⟨⟨hle, hlt⟩, hopens⟩, hleast⟩
    refine ⟨⟨hle, hlt, hopens⟩, ?_⟩
    intro j hj hjlt p hp
    exact Nat.not_lt.2 (hleast j ⟨hj, by omega⟩ ⟨p, hp⟩) hjlt

/-- A search finds nothing if no key of the window opens the message. -/
theorem search?_eq_none_iff (h : chain.Follows base) :
    search? base chain window blob = none ↔
      ∀ j, window.Covers chain.index j → ∀ p, ¬ Opens base blob j p := by
  obtain ⟨-, hcount, hstop⟩ := start_add_count window chain.index
  rw [search?_eq_searchFrom h, searchFrom_eq_none_iff (by omega), hcount]
  simp only [covers_iff, and_imp]

/-- A message that no other key of the window opens is found if the window covers its index. -/
theorem search?_of_opens (h : chain.Follows base) {index : UInt64} {payload : Payload}
    (hopens : Opens base blob index payload)
    (others : ∀ j, window.Covers chain.index j → j ≠ index → ∀ p, ¬ Opens base blob j p) :
    search? base chain window blob = if window.Covers chain.index index then some ⟨index, payload⟩ else none := by
  by_cases hcovers : window.Covers chain.index index
  · rw [if_pos hcovers, search?_eq_some_iff h]
    refine ⟨⟨hcovers, hopens⟩, ?_⟩
    rintro j hj ⟨p, hp⟩
    by_cases heq : j = index
    · exact UInt64.le_of_eq heq.symm
    · exact absurd hp (others j hj heq p)
  · rw [if_neg hcovers, search?_eq_none_iff h]
    intro j hj
    apply others j hj
    rintro rfl
    exact hcovers hj

/-- **The search is exact, and it does not matter where it starts.** For a chain that was reached from a
base, a search finds the least index of the window whose key opens the message, and nothing if there is none;
it gives what walking from the base gives, and to every index that is not behind the chain, going on from the
chain leads to the same place as walking from the base. -/
theorem search_exact (base : ChainBase) (chain : Chain) (reached : Chain.Reached base chain) (window : Window)
    (blob : Bytes) :
    (∀ hit, search? base chain window blob = some hit ↔
      (window.Covers chain.index hit.index ∧ Opens base blob hit.index hit.payload) ∧
        ∀ j, window.Covers chain.index j → (∃ p, Opens base blob j p) → hit.index ≤ j) ∧
    (search? base chain window blob = none ↔ ∀ j, window.Covers chain.index j → ∀ p, ¬ Opens base blob j p) ∧
    search? base chain window blob =
      searchFrom blob ((window.stop chain.index).toNat - (window.start chain.index).toNat)
        ((Chain.ofBase base).advanceTo (window.start chain.index)) ∧
    ∀ target, chain.index ≤ target → chain.advanceTo target = (Chain.ofBase base).advanceTo target := by
  have h := reached.follows
  refine ⟨fun hit => search?_eq_some_iff h, search?_eq_none_iff h, ?_, fun target => h.advanceTo_eq_ofBase⟩
  rw [search?_eq_searchFrom h, (Chain.follows_ofBase base).advanceTo_eq]
  congr 2

/-- A chain at index 3 whose window reaches one index behind it, and a message at that index. -/
theorem search_exact_behind :
    let base : ChainBase := ⟨⟨List.replicate 32 0, rfl⟩⟩
    let chain := (Chain.ofBase base).advanceTo 3
    let payload : Payload := ⟨"ann", "hello", 7, 0, [], [], 2⟩
    Chain.Reached base chain ∧
      search? base chain ⟨1, 2⟩
        ((base.keyAt payload.chainIndex.toNat).sealWith (List.replicate 24 0) payload.encode) = some ⟨2, payload⟩ := by
  intro base chain payload
  have reached : Chain.Reached base chain := .advanceTo .start 3
  have hindex : chain.index = 3 := by rw [← UInt64.toNat_inj, Chain.toNat_index_advanceTo]; rfl
  have hfits : payload.Fits := by constructor <;> decide
  refine ⟨reached, ((search_exact base chain reached _ _).1 _).2 ⟨⟨?_, ?_⟩, ?_⟩⟩
  · rw [hindex]
    decide
  · exact opens_sealWith rfl hfits
  · intro j hj _
    rw [hindex] at hj
    exact UInt64.le_iff_toNat_le.2 hj.1

end Search

end SealedChat
