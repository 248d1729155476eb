import Mathlib.Data.List.Basic
import SealedChat.Proofs.Chain
import SealedChat.Proofs.Lists

/-!
# Walks on the chain from a base

However many chains are started from a base, copied from one another and moved, the key at an index is one function of
the base: what as many steps lead to, each of which hashes the key before it together with its number
(`ChainBase.stepped`). Where a chain stands is told by the steps that were taken to it (`walks_agree`).
-/

namespace SealedChat

/-! ### Steps and turns -/

/-- The key after a number of steps from the base. -/
def ChainBase.stepped (base : ChainBase) : Nat → Key
  | 0 => base.key
  | n + 1 => Blake3.hash (Chain.domain ++ (base.stepped n).bytes ++ LittleEndian.ofUInt64 (UInt64.ofNat n))

namespace ChainBase

variable (base : ChainBase)

lemma index_chainAt (n : Nat) : (base.chainAt n).index = UInt64.ofNat n := by
  unfold chainAt
  rw [Chain.index_skip]
  exact UInt64.zero_add _

lemma key_chainAt (n : Nat) : (base.chainAt n).key = base.stepped n := by
  induction n with
  | zero => rfl
  | succ n ih =>
    rw [← base.chainAt_succ]
    change Chain.stepKey (base.chainAt n).key (base.chainAt n).index = _
    rw [ih, base.index_chainAt]
    rfl

/-- The key at an index is the one to which the step behind the index leads. -/
lemma keyAt_eq_stepped (n : Nat) : base.keyAt n = ⟨base.stepped (n + 1)⟩ := by
  rw [← base.key_chainAt, ← base.chainAt_succ]
  rfl

end ChainBase

namespace Chain

/-- The loop that advances a chain, turn by turn: it takes a step as long as the index is before the target, and leads
from the first chain to the second in so many turns. -/
inductive Turns (target : UInt64) : Nat → Chain → Chain → Prop
  | stop {chain : Chain} (arrived : ¬ chain.index < target) : Turns target 0 chain chain
  | turn {n : Nat} {chain chain' : Chain} (before : chain.index < target) (turns : Turns target n chain.next.2 chain') :
    Turns target (n + 1) chain chain'

variable {n : Nat} {s t target : UInt64} {chain chain' : Chain}

/-- There is a next index before every target. -/
lemma toNat_index_next_of_lt (before : chain.index < target) : chain.next.2.index.toNat = chain.index.toNat + 1 := by
  have hlt := UInt64.lt_iff_toNat_lt.1 before
  have htarget := toNat_le_greatestIndex target
  exact toNat_add_one (by omega)

/-- Every turn goes one index on. -/
lemma Turns.toNat_index (h : Turns target n chain chain') : chain'.index.toNat = chain.index.toNat + n := by
  induction h with
  | stop => rfl
  | turn before _ ih =>
    rw [ih, toNat_index_next_of_lt before]
    omega

/-- **The loop ends where advancing leads.** The induction is on the steps that are left to the target. -/
theorem turns_advanceTo (target : UInt64) (chain : Chain) :
    Turns target (target.toNat - chain.index.toNat) chain (chain.advanceTo target) := by
  unfold advanceTo
  generalize hn : target.toNat - chain.index.toNat = n
  induction n generalizing chain with
  | zero =>
    refine .stop ?_
    rw [UInt64.lt_iff_toNat_lt]
    omega
  | succ n ih =>
    have before : chain.index < target := by
      rw [UInt64.lt_iff_toNat_lt]
      omega
    refine .turn before (ih chain.next.2 ?_)
    rw [toNat_index_next_of_lt before]
    omega

lemma toNat_max (s t : UInt64) : (max s t).toNat = max s.toNat t.toNat := by
  change (if s ≤ t then t else s).toNat = _
  by_cases h : s ≤ t
  · rw [if_pos h, Nat.max_eq_right (UInt64.le_iff_toNat_le.1 h)]
  · rw [if_neg h, Nat.max_eq_left (Nat.le_of_not_le (mt UInt64.le_iff_toNat_le.2 h))]

/-- Advancing twice is advancing to the farther target. -/
theorem advanceTo_advanceTo (chain : Chain) (s t : UInt64) :
    (chain.advanceTo s).advanceTo t = chain.advanceTo (max s t) := by
  have hindex := chain.toNat_index_advanceTo s
  rw [advanceTo.eq_1 t, hindex, advanceTo.eq_1 s, ← skip_add, advanceTo.eq_1 (max s t), toNat_max]
  congr 1
  omega

end Chain

/-! ### Several chains -/

/-- A chain, and how many steps were taken to it from the base. A copy has taken those of its original. -/
structure Walker where
  chain : Chain
  steps : Nat

/-- Chains that were started from a base or copied from others, and the keys that they handed out, each with its
index. -/
structure Walkers where
  all : List Walker := []
  handed : List (UInt64 × MessageKey) := []

namespace Walkers

/-- What is done with chains, which are known by their places in the order in which they came up. -/
inductive Act where
  /-- A new chain is started from the base. -/
  | start
  /-- The key at the index of a chain is handed out. -/
  | next (place : Nat)
  | advance (place : Nat) (target : UInt64)
  | copy (place : Nat)

/-- The chain that an act moves, if it moves one. Starting and copying add a chain and move none. -/
def Act.moved? : Act → Option Nat
  | .start | .copy _ => none
  | .next place | .advance place _ => some place

/-- An act leads from chains to chains. No chain is stepped at the greatest index. -/
inductive Step (base : ChainBase) (walkers : Walkers) : Act → Walkers → Prop
  | start : Step base walkers .start { walkers with all := walkers.all ++ [⟨.ofBase base, 0⟩] }
  | next {place : Nat} {walker : Walker} (found : walkers.all[place]? = some walker)
      (room : walker.chain.index ≠ greatestIndex) :
    Step base walkers (.next place)
      { all := walkers.all.set place ⟨walker.chain.next.2, walker.steps + 1⟩
        handed := walkers.handed ++ [(walker.chain.index, walker.chain.next.1)] }
  | advance {place n : Nat} {target : UInt64} {walker : Walker} (found : walkers.all[place]? = some walker)
      (turns : Chain.Turns target n walker.chain (walker.chain.advanceTo target)) :
    Step base walkers (.advance place target)
      { walkers with all := walkers.all.set place ⟨walker.chain.advanceTo target, walker.steps + n⟩ }
  | copy {place : Nat} {walker : Walker} (found : walkers.all[place]? = some walker) :
    Step base walkers (.copy place) { walkers with all := walkers.all ++ [walker] }

/-- Acts, one after another, lead from chains to chains. -/
inductive Leads (base : ChainBase) : Walkers → List Act → Walkers → Prop
  | nil {walkers : Walkers} : Leads base walkers [] walkers
  | cons {walkers walkers' walkers'' : Walkers} {act : Act} {acts : List Act} (step : Step base walkers act walkers')
      (leads : Leads base walkers' acts walkers'') : Leads base walkers (act :: acts) walkers''

/-- Every chain is that of the base after the steps that it took, and every key is the one at its index. -/
structure Sound (base : ChainBase) (walkers : Walkers) : Prop where
  chains : ∀ walker ∈ walkers.all, walker.chain.Follows base ∧ walker.chain.index.toNat = walker.steps
  keys : ∀ entry ∈ walkers.handed, entry.2 = base.keyAt entry.1.toNat

section Runs

variable {base : ChainBase} {walkers walkers' : Walkers} {act : Act} {acts : List Act}

lemma Sound.step (h : Sound base walkers) (step : Step base walkers act walkers') : Sound base walkers' := by
  cases step with
  | start =>
    refine ⟨List.forall_mem_append.2 ⟨h.chains, ?_⟩, h.keys⟩
    rw [List.forall_mem_singleton]
    exact ⟨Chain.follows_ofBase base, rfl⟩
  | next found room =>
    obtain ⟨hfollows, hsteps⟩ := h.chains _ (List.mem_of_getElem? found)
    refine ⟨forall_mem_set h.chains ⟨hfollows.next room, ?_⟩ _, List.forall_mem_append.2 ⟨h.keys, ?_⟩⟩
    · change (_ + 1 : UInt64).toNat = _ + 1
      rw [toNat_add_one (ne_greatestIndex_iff.1 room), hsteps]
    · rw [List.forall_mem_singleton]
      exact hfollows.key_eq
  | @advance place n target walker found turns =>
    obtain ⟨hfollows, hsteps⟩ := h.chains _ (List.mem_of_getElem? found)
    refine ⟨forall_mem_set h.chains ⟨hfollows.advanceTo target, ?_⟩ _, h.keys⟩
    rw [turns.toNat_index, hsteps]
  | copy found =>
    refine ⟨List.forall_mem_append.2 ⟨h.chains, ?_⟩, h.keys⟩
    rw [List.forall_mem_singleton]
    exact h.chains _ (List.mem_of_getElem? found)

lemma Sound.leads (h : Sound base walkers) (leads : Leads base walkers acts walkers') : Sound base walkers' := by
  induction leads with
  | nil => exact h
  | cons step _ ih => exact ih (h.step step)

variable {place : Nat} {walker : Walker}

/-- An act leaves every chain as it is that it does not move. -/
lemma Step.found (step : Step base walkers act walkers') (hplace : act.moved? ≠ some place)
    (hwalker : walkers.all[place]? = some walker) : walkers'.all[place]? = some walker := by
  have happend (added : Walker) : (walkers.all ++ [added])[place]? = some walker := by
    obtain ⟨hlt, -⟩ := List.getElem?_eq_some_iff.1 hwalker
    rw [List.getElem?_append_left hlt, hwalker]
  cases step with
  | start => exact happend _
  | next =>
    rw [List.getElem?_set_ne (fun h => hplace (congrArg some h)), hwalker]
  | advance =>
    rw [List.getElem?_set_ne (fun h => hplace (congrArg some h)), hwalker]
  | copy => exact happend _

lemma Leads.found (leads : Leads base walkers acts walkers') (hplace : ∀ act ∈ acts, act.moved? ≠ some place)
    (hwalker : walkers.all[place]? = some walker) : walkers'.all[place]? = some walker := by
  induction leads with
  | nil => exact hwalker
  | cons step _ ih =>
    rw [List.forall_mem_cons] at hplace
    exact ih hplace.2 (step.found hplace.1 hwalker)

end Runs

end Walkers

/-- **All walks agree.** Whatever is done with any number of chains from one base, every chain's index is the number of
steps that were taken to it, its key is what these steps lead to, and every key that was handed out for an index is what
one step more than the index leads to. A chain stays as it is as long as it is not moved itself, whatever becomes of its
copies and of the others. Advancing a chain, which always ends, leads to the farther of its index and the target; it
changes nothing if that is the index; and advancing twice is advancing to the farther target. -/
theorem walks_agree {base : ChainBase} {acts : List Walkers.Act} {walkers : Walkers}
    (h : Walkers.Leads base {} acts walkers) :
    (∀ walker ∈ walkers.all,
      walker.chain.index.toNat = walker.steps ∧ walker.chain.key = base.stepped walker.steps) ∧
    (∀ entry ∈ walkers.handed, entry.2 = ⟨base.stepped (entry.1.toNat + 1)⟩) ∧
    (∀ acts' walkers' place walker, Walkers.Leads base walkers acts' walkers' →
      (∀ act ∈ acts', act.moved? ≠ some place) → walkers.all[place]? = some walker →
        walkers'.all[place]? = some walker) ∧
    ∀ (chain : Chain) (s t : UInt64),
      Chain.Turns t (t.toNat - chain.index.toNat) chain (chain.advanceTo t) ∧
      (chain.advanceTo t).index = max chain.index t ∧
      (t ≤ chain.index → chain.advanceTo t = chain) ∧
      (chain.advanceTo s).advanceTo t = chain.advanceTo (max s t) := by
  have hstart : Walkers.Sound base {} := ⟨fun _ h => absurd h List.not_mem_nil, fun _ h => absurd h List.not_mem_nil⟩
  have hsound := hstart.leads h
  refine ⟨?_, ?_, ?_, ?_⟩
  · intro walker hwalker
    obtain ⟨hfollows, hsteps⟩ := hsound.chains walker hwalker
    refine ⟨hsteps, ?_⟩
    unfold Chain.Follows at hfollows
    rw [hfollows, base.key_chainAt, hsteps]
  · intro entry hentry
    rw [hsound.keys entry hentry, base.keyAt_eq_stepped]
  · intro acts' walkers' place walker hleads hplace hwalker
    exact hleads.found hplace hwalker
  · intro chain s t
    refine ⟨Chain.turns_advanceTo t chain, ?_, Chain.advanceTo_of_le, Chain.advanceTo_advanceTo chain s t⟩
    rw [← UInt64.toNat_inj, Chain.toNat_index_advanceTo, Chain.toNat_max]

/-- A chain is copied before it moves; the copy is advanced to index 2 and hands out the key there, and then the original
hands out the key at index 0. -/
theorem walks_agree_copied :
    let base : ChainBase := ⟨⟨List.replicate 32 0, rfl⟩⟩
    let original := Chain.ofBase base
    let copy := original.advanceTo 2
    let walkers : Walkers := ⟨[⟨original.next.2, 1⟩, ⟨copy.next.2, 3⟩], [(copy.index, copy.next.1), (0, original.next.1)]⟩
    Walkers.Leads base {} [.start, .copy 0, .advance 1 2, .next 1, .next 0] walkers ∧
      copy.next.2.index.toNat = 3 ∧ copy.next.1 = ⟨base.stepped 3⟩ ∧ original.next.1 = ⟨base.stepped 1⟩ := by
  intro base original copy walkers
  have hindex : copy.index = 2 := by
    rw [← UInt64.toNat_inj, Chain.toNat_index_advanceTo]
    rfl
  have leads : Walkers.Leads base {} [.start, .copy 0, .advance 1 2, .next 1, .next 0] walkers := by
    refine .cons .start (.cons (.copy rfl) (.cons (.advance rfl (Chain.turns_advanceTo 2 original)) ?_))
    refine .cons (.next rfl ?_) (.cons (.next rfl ?_) .nil)
    · change copy.index ≠ _
      rw [hindex]
      decide
    · decide
  obtain ⟨hchains, hkeys, -⟩ := walks_agree leads
  refine ⟨leads, (hchains ⟨copy.next.2, 3⟩ (.tail _ (.head _))).1, ?_, hkeys (0, original.next.1) (.tail _ (.head _))⟩
  have hcopy := hkeys (copy.index, copy.next.1) (.head _)
  rwa [hindex] at hcopy

end SealedChat
