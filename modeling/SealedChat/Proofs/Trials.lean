import SealedChat.Proofs.Cipher.Sealing
import SealedChat.Proofs.Session.Receiving
import SealedChat.Proofs.Walks
import SealedChat.Proofs.Wire.Decoding

/-!
# No index overflows while a message is searched for

A step adds one to the index of a chain and does not ask whether there is a next index. A search is told here turn by
turn (`Trial.Turn`): its candidates are counted apart from the chain on which they are tried, and only the turns keep
the two together. `Trial.Kept` holds at every turn. From it follows that no step is taken at the greatest index, however
large the window is and wherever it lies, and that there is an index behind every hit, to which the chat's own chain then
moves (`indices_never_overflow`).
-/

namespace SealedChat

/-! ### Windows around an index -/

lemma lt_greatestIndex {index other : UInt64} (h : index < other) : index < greatestIndex :=
  UInt64.lt_of_lt_of_le h (UInt64.le_iff_toNat_le.2 (toNat_le_greatestIndex other))

namespace Window

variable (window : Window) (current : UInt64)

lemma start_le : window.start current ≤ current := by
  rw [UInt64.le_iff_toNat_le, window.toNat_start]
  exact Nat.sub_le _ _

lemma le_stop : current ≤ window.stop current := by
  have := toNat_le_greatestIndex current
  rw [UInt64.le_iff_toNat_le, window.toNat_stop]
  omega

/-- A window that reaches ahead covers the index that it is around, unless this is the greatest. -/
lemma lt_stop {window : Window} {current : UInt64} (ahead : 1 ≤ window.ahead) (room : current < greatestIndex) :
    current < window.stop current := by
  have ahead : 1 ≤ window.ahead.toNat := UInt64.le_iff_toNat_le.1 ahead
  have room := UInt64.lt_iff_toNat_lt.1 room
  rw [toNat_greatestIndex] at room
  rw [UInt64.lt_iff_toNat_lt, window.toNat_stop]
  omega

end Window

/-! ### Turns of a search -/

/-- How far a search has come. -/
inductive Trial.Stage where
  /-- The chain is on its way to the first index of the window. -/
  | walking
  /-- The candidate comes next, if the window does not end before it. -/
  | trying (candidate : UInt64)
  | ended (found : Option Hit)

/-- A search under way. -/
structure Trial where
  stage : Trial.Stage
  /-- The chain on which candidates are tried. -/
  chain : Chain
  /-- How many steps this chain has taken. -/
  steps : Nat
  /-- How many candidates were examined. -/
  examined : Nat

namespace Trial

/-- Where the search starts to walk: at the base if the window reaches behind the chain, else at the chain. -/
def origin (base : ChainBase) (chain : Chain) (window : Window) : Chain :=
  if window.start chain.index < chain.index then .ofBase base else chain

/-- One turn of a search. The candidate is what the payload has to name and what a hit reports. -/
inductive Turn (start stop : UInt64) (blob : Bytes) : Trial → Trial → Prop
  | walk {chain : Chain} {steps examined : Nat} (before : chain.index < start) :
    Turn start stop blob ⟨.walking, chain, steps, examined⟩ ⟨.walking, chain.next.2, steps + 1, examined⟩
  | arrive {chain : Chain} {steps examined : Nat} (arrived : ¬ chain.index < start) :
    Turn start stop blob ⟨.walking, chain, steps, examined⟩ ⟨.trying start, chain, steps, examined⟩
  | miss {candidate : UInt64} {chain : Chain} {steps examined : Nat} (inside : candidate < stop)
    (closed : openAt? chain.next.1 candidate blob = none) :
    Turn start stop blob ⟨.trying candidate, chain, steps, examined⟩
      ⟨.trying (candidate + 1), chain.next.2, steps + 1, examined + 1⟩
  | find {candidate : UInt64} {payload : Payload} {chain : Chain} {steps examined : Nat} (inside : candidate < stop)
    (opened : openAt? chain.next.1 candidate blob = some payload) :
    Turn start stop blob ⟨.trying candidate, chain, steps, examined⟩
      ⟨.ended (some ⟨candidate, payload⟩), chain.next.2, steps + 1, examined + 1⟩
  | exhaust {candidate : UInt64} {chain : Chain} {steps examined : Nat} (outside : ¬ candidate < stop) :
    Turn start stop blob ⟨.trying candidate, chain, steps, examined⟩ ⟨.ended none, chain, steps, examined⟩

/-- What a search of the window around a chain's index comes to, turn by turn. -/
inductive Reached (base : ChainBase) (chain : Chain) (window : Window) (blob : Bytes) : Trial → Prop
  | start : Reached base chain window blob ⟨.walking, origin base chain window, 0, 0⟩
  | turn {trial next : Trial} (before : Reached base chain window blob trial)
    (turn : Turn (window.start chain.index) (window.stop chain.index) blob trial next) :
    Reached base chain window blob next

/-- What holds of a search at every turn, by its stage: the index of the chain that is tried counts its steps and is the
candidate, and what is left to be searched from there comes to what the search comes to. -/
inductive Kept (base : ChainBase) (chain : Chain) (window : Window) (blob : Bytes) : Trial → Prop
  | walking {tried : Chain} {steps : Nat}
    (counted : tried.index.toNat = (origin base chain window).index.toNat + steps)
    (within : tried.index ≤ window.start chain.index)
    (way : tried.advanceTo (window.start chain.index) =
      (origin base chain window).advanceTo (window.start chain.index)) :
    Kept base chain window blob ⟨.walking, tried, steps, 0⟩
  | trying {candidate : UInt64} {tried : Chain} {steps examined : Nat}
    (counted : tried.index.toNat = (origin base chain window).index.toNat + steps)
    (aligned : tried.index = candidate) (within : candidate ≤ window.stop chain.index)
    (listed : candidate.toNat = (window.start chain.index).toNat + examined)
    (left : search? base chain window blob =
      searchFrom blob ((window.stop chain.index).toNat - candidate.toNat) tried) :
    Kept base chain window blob ⟨.trying candidate, tried, steps, examined⟩
  | ended {found : Option Hit} {tried : Chain} {steps examined : Nat}
    (counted : tried.index.toNat = (origin base chain window).index.toNat + steps)
    (listed : tried.index.toNat = (window.start chain.index).toNat + examined)
    (behind : ∀ hit, found = some hit →
      tried.index.toNat = hit.index.toNat + 1 ∧ ∃ key, openAt? key hit.index blob = some hit.payload)
    (exhausted : found = none → tried.index = window.stop chain.index)
    (result : search? base chain window blob = found) :
    Kept base chain window blob ⟨.ended found, tried, steps, examined⟩

section Turns

variable {base : ChainBase} {chain : Chain} {window : Window} {blob : Bytes} {trial next : Trial}

lemma search?_eq_origin : search? base chain window blob =
    searchFrom blob ((window.stop chain.index).toNat - (window.start chain.index).toNat)
      ((origin base chain window).advanceTo (window.start chain.index)) := rfl

lemma origin_le_start : (origin base chain window).index ≤ window.start chain.index := by
  unfold origin
  split
  · exact UInt64.le_iff_toNat_le.2 (Nat.zero_le _)
  · rename_i hle
    exact UInt64.not_lt.1 hle

/-- A step towards an index shortens the way to it. -/
lemma advanceTo_next {target : UInt64} {chain : Chain} (before : chain.index < target) :
    chain.next.2.advanceTo target = chain.advanceTo target := by
  have hnext := Chain.toNat_index_next_of_lt before
  have before := UInt64.lt_iff_toNat_lt.1 before
  unfold Chain.advanceTo
  rw [hnext, show target.toNat - chain.index.toNat = target.toNat - (chain.index.toNat + 1) + 1 by omega, Chain.skip]

/-- Behind a key that does not open the message one key less is left to be tried. -/
lemma searchFrom_miss {count : Nat} {chain : Chain} (closed : openAt? chain.next.1 chain.index blob = none) :
    searchFrom blob (count + 1) chain = searchFrom blob count chain.next.2 := by
  rw [searchFrom, closed]

lemma searchFrom_find {count : Nat} {chain : Chain} {payload : Payload}
    (opened : openAt? chain.next.1 chain.index blob = some payload) :
    searchFrom blob (count + 1) chain = some ⟨chain.index, payload⟩ := by
  rw [searchFrom, opened]

/-- As long as the window does not end before an index there are keys left to be tried. -/
lemma count_eq_succ {candidate stop : UInt64} (inside : candidate < stop) :
    stop.toNat - candidate.toNat = stop.toNat - (candidate.toNat + 1) + 1 := by
  have inside := UInt64.lt_iff_toNat_lt.1 inside
  omega

lemma kept_start : Kept base chain window blob ⟨.walking, origin base chain window, 0, 0⟩ :=
  .walking rfl origin_le_start rfl

/-- **Every turn keeps what holds.** -/
lemma Kept.turn (h : Kept base chain window blob trial)
    (turn : Turn (window.start chain.index) (window.stop chain.index) blob trial next) :
    Kept base chain window blob next := by
  cases turn with
  | walk before =>
    cases h with
    | walking counted _ way =>
      have hnext := Chain.toNat_index_next_of_lt before
      refine .walking ?_ ?_ ?_
      · rw [hnext, counted, Nat.add_assoc]
      · rw [UInt64.le_iff_toNat_le, hnext]
        exact UInt64.lt_iff_toNat_lt.1 before
      · rw [advanceTo_next before, way]
  | arrive arrived =>
    cases h with
    | walking counted within way =>
      have hindex := UInt64.le_antisymm within (UInt64.not_lt.1 arrived)
      refine .trying counted hindex ?_ rfl ?_
      · exact UInt64.le_trans (window.start_le _) (window.le_stop _)
      · rw [search?_eq_origin, ← way, Chain.advanceTo_of_le (UInt64.le_of_eq hindex.symm)]
  | miss inside closed =>
    cases h with
    | trying counted aligned _ listed left =>
      subst aligned
      have hnext := Chain.toNat_index_next_of_lt inside
      refine .trying ?_ rfl ?_ ?_ ?_
      · rw [hnext, counted, Nat.add_assoc]
      · rw [UInt64.le_iff_toNat_le]
        exact hnext.le.trans (UInt64.lt_iff_toNat_lt.1 inside)
      · exact hnext.trans (congrArg (· + 1) listed)
      · rw [left, count_eq_succ inside, searchFrom_miss closed]
        exact congrArg (fun n => searchFrom blob (_ - n) _) hnext.symm
  | find inside opened =>
    cases h with
    | trying counted aligned _ listed left =>
      subst aligned
      have hnext := Chain.toNat_index_next_of_lt inside
      refine .ended ?_ ?_ ?_ ?_ ?_
      · rw [hnext, counted, Nat.add_assoc]
      · exact hnext.trans (congrArg (· + 1) listed)
      · rintro hit ⟨⟩
        exact ⟨hnext, _, opened⟩
      · rintro ⟨⟩
      · rw [left, count_eq_succ inside, searchFrom_find opened]
  | exhaust outside =>
    cases h with
    | trying counted aligned within listed left =>
      subst aligned
      have hstop := UInt64.le_antisymm within (UInt64.not_lt.1 outside)
      refine .ended counted listed ?_ ?_ ?_
      · rintro hit ⟨⟩
      · rintro -
        exact hstop
      · rw [left, hstop, Nat.sub_self, searchFrom]

/-! ### Runs of a search -/

lemma Reached.kept (h : Reached base chain window blob trial) : Kept base chain window blob trial := by
  induction h with
  | start => exact kept_start
  | turn _ turn ih => exact ih.turn turn

/-- A turn takes no step, or one from an index that has a next one. -/
lemma Kept.step (h : Kept base chain window blob trial)
    (turn : Turn (window.start chain.index) (window.stop chain.index) blob trial next) :
    next.chain = trial.chain ∧ next.steps = trial.steps ∨
      next.chain = trial.chain.next.2 ∧ next.steps = trial.steps + 1 ∧ trial.chain.index < greatestIndex := by
  cases turn with
  | walk before => exact .inr ⟨rfl, rfl, lt_greatestIndex before⟩
  | arrive => exact .inl ⟨rfl, rfl⟩
  | miss inside =>
    cases h with
    | trying _ aligned =>
      subst aligned
      exact .inr ⟨rfl, rfl, lt_greatestIndex inside⟩
  | find inside =>
    cases h with
    | trying _ aligned =>
      subst aligned
      exact .inr ⟨rfl, rfl, lt_greatestIndex inside⟩
  | exhaust => exact .inl ⟨rfl, rfl⟩

/-- The chain has taken a step for each candidate that was examined, besides those to the first index of the window. -/
lemma steps_eq {tried : Chain} {steps examined : Nat}
    (counted : tried.index.toNat = (origin base chain window).index.toNat + steps)
    (listed : tried.index.toNat = (window.start chain.index).toNat + examined) :
    steps = examined + ((window.start chain.index).toNat - (origin base chain window).index.toNat) := by
  have horigin : (origin base chain window).index.toNat ≤ (window.start chain.index).toNat :=
    UInt64.le_iff_toNat_le.1 origin_le_start
  omega

namespace Kept

lemma counted (h : Kept base chain window blob trial) :
    trial.chain.index.toNat = (origin base chain window).index.toNat + trial.steps := by
  cases h with
  | walking counted | trying counted | ended counted => exact counted

lemma of_trying {candidate : UInt64} (h : Kept base chain window blob trial) (hstage : trial.stage = .trying candidate) :
    trial.chain.index = candidate ∧
      trial.steps = trial.examined + ((window.start chain.index).toNat - (origin base chain window).index.toNat) ∧
      search? base chain window blob =
        searchFrom blob ((window.stop chain.index).toNat - candidate.toNat) trial.chain := by
  cases h with
  | walking | ended => cases hstage
  | trying counted aligned _ listed left =>
    obtain rfl := Stage.trying.inj hstage
    subst aligned
    exact ⟨rfl, steps_eq counted listed, left⟩

/-- At its end a search has examined all the candidates up to the hit, or all of the window. -/
lemma of_ended {found : Option Hit} (h : Kept base chain window blob trial) (hstage : trial.stage = .ended found) :
    search? base chain window blob = found ∧
      trial.steps = trial.examined + ((window.start chain.index).toNat - (origin base chain window).index.toNat) ∧
      (∀ hit, found = some hit → (window.start chain.index).toNat + trial.examined = hit.index.toNat + 1) ∧
      (found = none → (window.start chain.index).toNat + trial.examined = (window.stop chain.index).toNat) := by
  cases h with
  | walking | trying => cases hstage
  | ended counted listed behind exhausted result =>
    obtain rfl := Stage.ended.inj hstage
    refine ⟨result, steps_eq counted listed, ?_, ?_⟩
    · intro hit hfound
      exact listed.symm.trans (behind hit hfound).1
    · intro hnone
      exact listed.symm.trans (UInt64.toNat_inj.2 (exhausted hnone))

end Kept

/-- How many turns are left to a search at the most. -/
def left (start stop : UInt64) (trial : Trial) : Nat :=
  match trial.stage with
  | .walking => start.toNat - trial.chain.index.toNat + (stop.toNat - start.toNat + 2)
  | .trying candidate => stop.toNat - candidate.toNat + 1
  | .ended _ => 0

lemma Turn.left_lt {start stop : UInt64} (turn : Turn start stop blob trial next) :
    next.left start stop < trial.left start stop := by
  cases turn with
  | walk before =>
    have hnext := Chain.toNat_index_next_of_lt before
    have before := UInt64.lt_iff_toNat_lt.1 before
    simp only [left, hnext]
    omega
  | arrive =>
    simp only [left]
    omega
  | miss inside =>
    have hnext := toNat_add_one (ne_greatestIndex_iff.1 (UInt64.ne_of_lt (lt_greatestIndex inside)))
    have inside := UInt64.lt_iff_toNat_lt.1 inside
    simp only [left, hnext]
    omega
  | find | exhaust => exact Nat.succ_pos _

lemma exists_turn (start stop : UInt64) (blob : Bytes) (trial : Trial) :
    (∃ found, trial.stage = .ended found) ∨ ∃ next, Turn start stop blob trial next := by
  obtain ⟨stage, tried, steps, examined⟩ := trial
  cases stage with
  | walking =>
    by_cases before : tried.index < start
    · exact .inr ⟨_, .walk before⟩
    · exact .inr ⟨_, .arrive before⟩
  | trying candidate =>
    by_cases inside : candidate < stop
    · cases hopen : openAt? tried.next.1 candidate blob with
      | none => exact .inr ⟨_, .miss inside hopen⟩
      | some payload => exact .inr ⟨_, .find inside hopen⟩
    · exact .inr ⟨_, .exhaust inside⟩
  | ended found => exact .inl ⟨found, rfl⟩

/-- **Every search comes to its end**, with what the search finds. The induction is on the turns that are left. -/
theorem Reached.exists_ended (h : Reached base chain window blob trial) :
    ∃ last, Reached base chain window blob last ∧ last.stage = .ended (search? base chain window blob) := by
  induction hn : trial.left (window.start chain.index) (window.stop chain.index) using Nat.strong_induction_on
    generalizing trial with
  | _ n ih =>
    rcases exists_turn (window.start chain.index) (window.stop chain.index) blob trial with ⟨found, hfound⟩ | ⟨next, turn⟩
    · exact ⟨trial, h, (h.kept.of_ended hfound).1 ▸ hfound⟩
    · exact ih _ (hn ▸ turn.left_lt) (h.turn turn) rfl

lemma exists_ended (base : ChainBase) (chain : Chain) (window : Window) (blob : Bytes) :
    ∃ last, Reached base chain window blob last ∧ last.stage = .ended (search? base chain window blob) :=
  Reached.start.exists_ended

end Turns

end Trial

/-! ### Hits -/

section Hits

variable {base : ChainBase} {chain : Chain} {window : Window} {blob : Bytes} {hit : Hit} {key : MessageKey}
  {index : UInt64} {payload : Payload}

/-- There is an index behind every hit, and some key opens the message there. -/
lemma behind_of_search? (h : search? base chain window blob = some hit) :
    hit.index < greatestIndex ∧ ∃ key, openAt? key hit.index blob = some hit.payload := by
  obtain ⟨last, reached, hlast⟩ := Trial.exists_ended base chain window blob
  cases reached.kept with
  | walking | trying => cases hlast
  | @ended found tried _ _ _ _ behind _ result =>
    obtain ⟨hindex, hopened⟩ := behind hit (result.symm.trans h)
    refine ⟨?_, hopened⟩
    have := toNat_le_greatestIndex tried.index
    rw [UInt64.lt_iff_toNat_lt, toNat_greatestIndex]
    omega

/-- The bytes that a signature covers are not longer than the sealed message that carries it. -/
lemma length_signed_le (h : openAt? key index blob = some payload) :
    (signingMessage payload.content payload.sequence index).length ≤ blob.length := by
  obtain ⟨plaintext, hdecrypt, hdecode, -⟩ := openAt?_eq_some_iff_decode.1 h
  obtain ⟨nonce, -, rfl⟩ := MessageKey.unseal?_eq_some_iff.1 (MessageKey.decrypt_eq_ok_iff.1 hdecrypt)
  obtain ⟨-, rest, rfl⟩ := Payload.decode_eq_ok_iff.1 hdecode
  have hcontent : (Utf8.encode payload.content).length ≤ payload.encode.length := by
    simp only [Payload.encode, Payload.format, Wire.Format.text, List.length_append]
    omega
  have htag : MessageKey.tagSize = 16 := rfl
  simp only [signingMessage, MessageKey.length_sealWith, List.length_append, LittleEndian.length_ofUInt64]
  omega

end Hits

/-- **What adds up when a message is opened**: there is an index behind the message, what its signature covers is not
longer than a frame may be, and the chain of the chat comes behind the message in as many steps as are wanting. -/
structure Session.RoomFor (session : Session) (chat : Chat) (message : OpenedMessage) (after : Session) : Prop where
  index : (message.chainIndex + 1).toNat = message.chainIndex.toNat + 1
  signed : (signingMessage message.content message.sequence message.chainIndex).length ≤ session.maxInbound.toNat
  moved : ∃ moved, after.chat = some moved ∧
    Chain.Turns (message.chainIndex + 1) (message.chainIndex.toNat + 1 - chat.chain.index.toNat) chat.chain moved.chain ∧
    moved.chain.index.toNat = max chat.chain.index.toNat (message.chainIndex.toNat + 1)

lemma Session.Receives.roomFor {session after : Session} {chat : Chat} {bytes : Bytes} {message : OpenedMessage}
    (h : session.Receives bytes (some (.messageOpened message)) after) (hchat : session.chat = some chat) :
    session.RoomFor chat message after := by
  cases h with
  | read short decoded acts =>
    cases acts with
    | @opened _ _ _ _ hit hother found =>
      obtain rfl := Option.some.inj (hchat.symm.trans hother)
      obtain ⟨hlt, key, hopened⟩ := behind_of_search? found
      have hindex := toNat_add_one (ne_greatestIndex_iff.1 (UInt64.ne_of_lt hlt))
      refine ⟨hindex, ?_, _, rfl, ?_, ?_⟩
      · exact (length_signed_le hopened).trans ((ServerFrame.ciphertext_of_decode decoded).2.trans short)
      · have hturns := Chain.turns_advanceTo (hit.index + 1) chat.chain
        rwa [hindex] at hturns
      · exact (chat.chain.toNat_index_advanceTo _).trans (congrArg _ hindex)

/-- **No index overflows when a message is received**, whatever the index of the chain, the window and the sealed message.
The window reaches from at most the chain's index to at least this index, and covers it if it reaches ahead and the index is
not the greatest. At every turn of a search the chain that is tried is at the candidate, and what the search finds is what
it finds from there; the chain has taken as many steps as candidates were examined, besides those to the window's first
index, each from an index that has a next one. Every search ends, with all the candidates up to the hit examined, or all
of the window. What is added up behind a message that is opened is there as well. -/
theorem indices_never_overflow (base : ChainBase) (chain : Chain) (window : Window) (blob : Bytes) :
    let start := window.start chain.index
    let stop := window.stop chain.index
    let origin := Trial.origin base chain window
    start ≤ chain.index ∧ chain.index ≤ stop ∧
    (1 ≤ window.ahead → chain.index < greatestIndex → chain.index < stop) ∧
    (∀ trial, Trial.Reached base chain window blob trial →
      trial.chain.index.toNat = origin.index.toNat + trial.steps ∧
      (∀ candidate, trial.stage = .trying candidate →
        trial.chain.index = candidate ∧ trial.steps = trial.examined + (start.toNat - origin.index.toNat) ∧
        search? base chain window blob = searchFrom blob (stop.toNat - candidate.toNat) trial.chain) ∧
      (∀ next, Trial.Turn start stop blob trial next →
        next.chain = trial.chain ∧ next.steps = trial.steps ∨
          next.chain = trial.chain.next.2 ∧ next.steps = trial.steps + 1 ∧ trial.chain.index < greatestIndex) ∧
      ∀ found, trial.stage = .ended found →
        search? base chain window blob = found ∧ trial.steps = trial.examined + (start.toNat - origin.index.toNat) ∧
        (∀ hit, found = some hit → start.toNat + trial.examined = hit.index.toNat + 1) ∧
        (found = none → start.toNat + trial.examined = stop.toNat)) ∧
    (∃ trial, Trial.Reached base chain window blob trial ∧ ∃ found, trial.stage = .ended found) ∧
    (∀ hit, search? base chain window blob = some hit → hit.index.toNat + 1 < 2 ^ 64) ∧
    ∀ (session : Session) chat bytes message after, session.chat = some chat →
      session.receive bytes = (some (.messageOpened message), after) → session.RoomFor chat message after := by
  intro start stop origin
  refine ⟨window.start_le _, window.le_stop _, Window.lt_stop, ?_, ?_, ?_, ?_⟩
  · intro trial reached
    exact ⟨reached.kept.counted, fun _ => reached.kept.of_trying, fun _ => reached.kept.step,
      fun _ => reached.kept.of_ended⟩
  · obtain ⟨last, reached, hlast⟩ := Trial.exists_ended base chain window blob
    exact ⟨last, reached, _, hlast⟩
  · intro hit hfound
    have hlt := UInt64.lt_iff_toNat_lt.1 (behind_of_search? hfound).1
    rw [toNat_greatestIndex] at hlt
    omega
  · intro session chat bytes message after hchat hreceive
    have h := session.receives bytes
    rw [hreceive] at h
    exact h.roomFor hchat

/-- A chain one step before the greatest index, and a window of which no more than one candidate is left: the message is
opened there, with one step, and the chain then stands at the greatest index. -/
theorem indices_never_overflow_last :
    let key : Key := ⟨List.replicate 32 0, rfl⟩
    let chain : Chain := ⟨key, greatestIndex - 1⟩
    let payload : Payload := ⟨"ann", "hello", 7, 0, [], [], greatestIndex - 1⟩
    let blob := chain.next.1.sealWith (List.replicate 24 0) payload.encode
    let chat := { Chat.start ⟨⟨"room"⟩, ⟨key⟩, ⟨key⟩⟩ none with chain }
    let session := { Session.new ⟨{}, { searchBehind := 0 }⟩ ⟨none, key⟩ with chat := some chat }
    1 ≤ session.window.ahead ∧ chain.index < greatestIndex ∧ chain.index < session.window.stop chain.index ∧
      (∃ trial, Trial.Reached chat.base chain session.window blob trial ∧
        trial.stage = .ended (some ⟨greatestIndex - 1, payload⟩) ∧ trial.steps = 1 ∧ trial.examined = 1) ∧
      ∃ message after, session.receive (ServerFrame.messageReceived chat.room blob 9 "id").encode =
        (some (.messageOpened message), after) ∧ message.content = "hello" ∧ session.RoomFor chat message after := by
  intro key chain payload blob chat session
  have ahead : 1 ≤ session.window.ahead := by decide
  have room : chain.index < greatestIndex := by decide
  have hstart : session.window.start chain.index = chain.index := by decide
  have horigin : Trial.origin chat.base chain session.window = chain := if_neg (by decide)
  have hcount : (session.window.stop chain.index).toNat - chain.index.toNat = 0 + 1 := by decide
  have hfits : payload.Fits := by constructor <;> decide
  have hopen : openAt? chain.next.1 chain.index blob = some payload := openAt?_eq_some_iff_decode.2
    ⟨payload.encode, MessageKey.decrypt_eq_ok_iff.2 (MessageKey.unseal?_sealWith _ rfl _),
      Payload.decode_encode hfits, rfl⟩
  have hfound : search? chat.base chain session.window blob = some ⟨chain.index, payload⟩ := by
    rw [Trial.search?_eq_origin, horigin, hstart, Chain.advanceTo_of_le (UInt64.le_refl _), hcount,
      Trial.searchFrom_find hopen]
  have hlimit : (ServerFrame.messageReceived chat.room blob 9 "id").encode.length ≤ session.maxInbound.toNat := by
    decide +kernel
  have hchat : session.chat = some chat := rfl
  have hreceive : session.receive (ServerFrame.messageReceived chat.room blob 9 "id").encode =
      (some (.messageOpened (session.opened ⟨chain.index, payload⟩ 9 "id")),
        { session with chat := some (chat.moved chain.index) }) := by
    rw [Session.receive_encode hlimit, Session.receiveFrame, Session.openMessage_eq hchat, hfound, Option.map_some]
  obtain ⟨-, -, hcovered, hturns, -, -, hroom⟩ := indices_never_overflow chat.base chain session.window blob
  obtain ⟨trial, reached, hended⟩ := Trial.exists_ended chat.base chain session.window blob
  rw [hfound] at hended
  obtain ⟨-, -, -, hended'⟩ := hturns trial reached
  obtain ⟨-, hsteps, hexamined, -⟩ := hended' _ hended
  have hexamined := hexamined _ rfl
  rw [hstart] at hexamined
  have hone : trial.examined = 1 := Nat.add_left_cancel hexamined
  rw [hstart, horigin, hone, Nat.sub_self] at hsteps
  refine ⟨ahead, room, hcovered ahead room, ⟨trial, reached, hended, hsteps, hone⟩, _, _, hreceive, rfl, ?_⟩
  exact hroom session chat _ _ _ hchat hreceive

end SealedChat
