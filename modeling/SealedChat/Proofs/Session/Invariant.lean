import SealedChat.Proofs.Lists
import SealedChat.Proofs.Pending
import SealedChat.Proofs.Session.Steps

/-!
# What holds of a chat in every run

A run of a session performs operations one after the other, and keeps a list of the indices under whose keys
it has sealed messages since it entered its chat. `Chat.Sound` ties the chain, the number of sent messages,
the queue and the sealed messages in it to this list; it holds at the start of a chat, and no operation breaks
it (`run_sound`).
-/

namespace SealedChat

/-! ### Runs -/

namespace Seat

/-- An operation that can be performed: a message is sent only while the chain has an index for it, and only
with texts whose length can be written. -/
def Admits (seat : Seat) : Operation → Prop
  | .send content =>
    Wire.Fits (Utf8.encode seat.session.username) ∧ Wire.Fits (Utf8.encode content) ∧
      ∀ chat, seat.session.chat = some chat → chat.chain.index ≠ greatestIndex
  | _ => True

/-- The indices that were used in the chat, after an operation gave its reply. -/
def tally (seat : Seat) (used : List UInt64) : Reply → List UInt64
  | .sent _ => used ++ (seat.session.chat.map (·.chain.index)).toList
  | .frame _ => []
  | .event _ | .swept _ | .refused _ => used

lemma tally_sent {seat : Seat} {chat : Chat} (hchat : seat.session.chat = some chat) (used : List UInt64)
    (outbound : Outbound) : seat.tally used (.sent outbound) = used ++ [chat.chain.index] := by
  rw [tally, hchat]
  rfl

/-- The runs of a seat: the indices that were used in the chat that it is in, and where it leads. -/
inductive Run (start : Seat) : List UInt64 → Seat → Prop
  | start : Run start [] start
  | step {used : List UInt64} {seat : Seat} (before : Run start used seat) (now : Int64) (operation : Operation)
    (admits : seat.Admits operation) :
    Run start (seat.tally used (seat.perform now operation).1) (seat.perform now operation).2

end Seat

/-! ### The invariant -/

/-- A message that waits is sealed under the key at an index, and says what its entry says. -/
def PendingMessage.SealedAt (base : ChainBase) (username : String) (message : PendingMessage) (index : UInt64) :
    Prop :=
  ∃ payload, Opens base message.ciphertext index payload ∧ payload.content = message.content ∧
    payload.sequence = message.sequence ∧ payload.username = username

/-- **What holds of a chat** in which messages were sealed under the keys at the given indices. -/
structure Chat.Sound (username : String) (maxRetries : UInt32) (chat : Chat) (used : List UInt64) : Prop where
  follows : chat.chain.Follows chat.base
  count : chat.sequence.toNat = used.length
  sequence_le : chat.sequence ≤ chat.chain.index
  increasing : used.Pairwise (· < ·)
  behind : ∀ index ∈ used, index < chat.chain.index
  numbers : (chat.pending.messages.map (·.sequence)).Pairwise (· < ·)
  numbered : ∀ message ∈ chat.pending.messages, message.sequence < chat.sequence
  retries : ∀ message ∈ chat.pending.messages, message.retries ≤ maxRetries
  sealed : List.SublistForall₂ (PendingMessage.SealedAt chat.base username) chat.pending.messages used

namespace Chat.Sound

variable {username : String} {maxRetries : UInt32} {chat : Chat} {used : List UInt64}

lemma start (username : String) (maxRetries : UInt32) (secrets : Secrets) (kind : Option ChatKind) :
    (Chat.start secrets kind).Sound username maxRetries [] where
  follows := Chain.follows_ofBase secrets.base
  count := rfl
  sequence_le := UInt64.le_refl 0
  increasing := .nil
  behind _ h := nomatch h
  numbers := .nil
  numbered _ h := nomatch h
  retries _ h := nomatch h
  sealed := .nil

/-- A queue may lose messages and send others again. -/
lemma thinned (h : chat.Sound username maxRetries used) {pending : PendingQueue}
    (thins : chat.pending.Thins maxRetries pending) :
    Sound username maxRetries { chat with pending } used where
  follows := h.follows
  count := h.count
  sequence_le := h.sequence_le
  increasing := h.increasing
  behind := h.behind
  numbers := h.numbers.sublist thins.sequences
  numbered message hmem := by
    obtain ⟨before, hbefore, hkept⟩ := thins.exists_kept hmem
    rw [hkept.sequence]
    exact h.numbered before hbefore
  retries message hmem := by
    obtain ⟨before, hbefore, hkept⟩ := thins.exists_kept hmem
    exact hkept.retries (h.retries before hbefore)
  sealed := by
    apply thins.sublistForall₂ _ h.sealed
    rintro before after index hkept ⟨payload, hopens, hcontent, hsequence, husername⟩
    refine ⟨payload, ?_, ?_, ?_, husername⟩
    · rw [hkept.ciphertext]
      exact hopens
    · rw [hcontent, hkept.content]
    · rw [hsequence, hkept.sequence]

/-- The chain may go on without a message. -/
lemma moved (h : chat.Sound username maxRetries used) (index : UInt64) :
    (chat.moved index).Sound username maxRetries used := by
  have hle : chat.chain.index ≤ (chat.moved index).chain.index := by
    rw [UInt64.le_iff_toNat_le, Chat.moved, Chain.toNat_index_advanceTo]
    exact Nat.le_max_left _ _
  refine ⟨h.follows.advanceTo _, h.count, UInt64.le_trans h.sequence_le hle, h.increasing, ?_, h.numbers,
    h.numbered, h.retries, h.sealed⟩
  intro i hi
  exact UInt64.lt_of_lt_of_le (h.behind i hi) hle

lemma change (h : chat.Sound username maxRetries used) {policy : RetryPolicy} {chat' : Chat}
    (hpolicy : policy.maxRetries = maxRetries) (change : chat.Change policy chat') :
    chat'.Sound username maxRetries used := by
  cases change with
  | named kind =>
    exact ⟨h.follows, h.count, h.sequence_le, h.increasing, h.behind, h.numbers, h.numbered, h.retries, h.sealed⟩
  | moved index => exact h.moved index
  | acknowledged messageId => exact h.thinned (PendingQueue.acknowledge_thins maxRetries chat.pending messageId)
  | swept now =>
    subst hpolicy
    exact h.thinned (chat.pending.sweep_thins now policy)

/-- There is a number for the next message if there is an index for it. -/
lemma sequence_ne (h : chat.Sound username maxRetries used) (room : chat.chain.index ≠ greatestIndex) :
    chat.sequence ≠ greatestIndex := by
  have hroom := ne_greatestIndex_iff.1 room
  have hle := UInt64.le_iff_toNat_le.1 h.sequence_le
  rw [ne_greatestIndex_iff]
  omega

/-- The next message is sealed at the end of the list. -/
lemma sent (h : chat.Sound username maxRetries used) (room : chat.chain.index ≠ greatestIndex)
    {message : PendingMessage} (hsequence : message.sequence = chat.sequence) (hretries : message.retries = 0)
    (hsealed : message.SealedAt chat.base username chat.chain.index) :
    (chat.sent message).Sound username maxRetries (used ++ [chat.chain.index]) where
  follows := h.follows.next room
  count := by
    have hnext := toNat_add_one (ne_greatestIndex_iff.1 (h.sequence_ne room))
    rw [Chat.sent, hnext, h.count, List.length_append]
    rfl
  sequence_le := by
    have hnext := toNat_add_one (ne_greatestIndex_iff.1 (h.sequence_ne room))
    have hle := UInt64.le_iff_toNat_le.1 h.sequence_le
    show chat.sequence + 1 ≤ chat.chain.index + 1
    rw [UInt64.le_iff_toNat_le, hnext, toNat_add_one (ne_greatestIndex_iff.1 room)]
    omega
  increasing := pairwise_concat h.increasing h.behind
  behind := by
    intro i hi
    apply (lt_add_one_iff room).2
    rcases List.mem_append.1 hi with hi | hi
    · exact UInt64.le_of_lt (h.behind i hi)
    · exact UInt64.le_of_eq (List.mem_singleton.1 hi)
  numbers := by
    rw [Chat.sent, PendingQueue.push, List.map_append]
    apply pairwise_concat h.numbers
    intro i hi
    obtain ⟨before, hbefore, rfl⟩ := List.mem_map.1 hi
    show before.sequence < message.sequence
    rw [hsequence]
    exact h.numbered before hbefore
  numbered := by
    intro m hm
    apply (lt_add_one_iff (h.sequence_ne room)).2
    rcases List.mem_append.1 hm with hm | hm
    · exact UInt64.le_of_lt (h.numbered m hm)
    · rw [List.mem_singleton.1 hm, hsequence]
      exact UInt64.le_refl _
  retries := by
    intro m hm
    rcases List.mem_append.1 hm with hm | hm
    · exact h.retries m hm
    · rw [List.mem_singleton.1 hm, hretries]
      exact UInt32.le_iff_toNat_le.2 (Nat.zero_le _)
  sealed := by
    obtain ⟨indices, htied, hsub⟩ := List.sublistForall₂_iff.1 h.sealed
    exact List.sublistForall₂_iff.2
      ⟨indices ++ [chat.chain.index], List.rel_append htied (.cons hsealed .nil), hsub.append (.refl _)⟩

end Chat.Sound

/-! ### Messages that are sent -/

namespace Session

variable {session session' : Session} {chat : Chat} {now : Int64} {content : String} {signature : Bytes}

lemma length_signature {identity : Identity} {message : Bytes} (h : identity.sign message = .ok signature) :
    signature.length = 64 := by
  unfold Identity.sign at h
  split at h
  · rw [← Except.ok.inj h, Ed25519.length_sign]
  · cases h

lemma payload_fits {message : Bytes} (chat : Chat) (now : Int64) (hname : Wire.Fits (Utf8.encode session.username))
    (hcontent : Wire.Fits (Utf8.encode content)) (hsign : session.identity.sign message = .ok signature) :
    (session.payload chat now content signature).Fits := by
  refine ⟨hname, hcontent, ?_, ?_⟩
  · unfold Wire.Fits
    rw [payload, Key.length_eq]
    decide
  · unfold Wire.Fits
    rw [payload, length_signature hsign]
    decide

/-- What is sent is sealed under the key at the chain's index. -/
lemma opens_payload {base : ChainBase} (hfollows : chat.chain.Follows base)
    (hfits : (session.payload chat now content signature).Fits) (entropy : Entropy) :
    Opens base
      (chat.chain.next.1.sealWith (entropy.peek MessageKey.nonceSize)
        (session.payload chat now content signature).encode)
      chat.chain.index (session.payload chat now content signature) := by
  rw [hfollows.key_eq]
  exact opens_sealWith (p := session.payload chat now content signature) (entropy.length_peek _) hfits

end Session

/-! ### Runs keep the invariant -/

/-- What holds of a seat in a run from a new session. -/
structure Seat.Sound (settings : Settings) (identity : Identity) (used : List UInt64) (seat : Seat) : Prop where
  setup : seat.session = { Session.new settings identity with chat := seat.session.chat }
  chat : ∀ chat, seat.session.chat = some chat →
    chat.Sound settings.client.username settings.session.maxRetries used

namespace Seat.Sound

variable {settings : Settings} {identity : Identity} {used : List UInt64} {seat : Seat} {session : Session}

lemma username_eq (h : seat.Sound settings identity used) : seat.session.username = settings.client.username := by
  rw [h.setup]
  rfl

lemma inChat (h : seat.Sound settings identity used) {chat : Chat} {used' : List UInt64} {entropy : Entropy}
    (hchat : chat.Sound settings.client.username settings.session.maxRetries used') :
    Sound settings identity used' ⟨{ seat.session with chat := some chat }, entropy⟩ := by
  constructor
  · rw [h.setup]
  · intro chat' h'
    obtain rfl := Option.some.inj h'
    exact hchat

lemma adjusted (h : seat.Sound settings identity used) (adjusts : seat.session.Adjusts session) :
    Sound settings identity used { seat with session } := by
  cases adjusts with
  | same => exact h
  | change hchat change =>
    refine h.inChat ((h.chat _ hchat).change ?_ change)
    rw [h.setup]
    rfl

/-- **One step keeps the invariant.** -/
theorem step (h : seat.Sound settings identity used) {now : Int64} {operation : Operation} {reply : Reply}
    {seat' : Seat} (admits : seat.Admits operation) (step : seat.Step now operation reply seat') :
    seat'.Sound settings identity (seat.tally used reply) := by
  cases step with
  | refused fault => exact h
  | received adjusts => exact h.adjusted adjusts
  | swept adjusts => exact h.adjusted adjusts
  | entered enters =>
    obtain ⟨secrets, kind, rfl⟩ := enters
    exact h.inChat (Chat.Sound.start _ _ secrets kind)
  | left =>
    constructor
    · rw [h.setup]
    · intro chat hchat
      cases hchat
  | sent hsend =>
    obtain ⟨chat, signature, hchat, hsign, rfl, rfl⟩ := Seat.send_eq_ok_iff.1 hsend
    obtain ⟨hname, hcontent, hroom⟩ := admits
    have hsound := h.chat chat hchat
    have husername := h.username_eq
    have hfits := Session.payload_fits chat now hname hcontent hsign
    rw [tally_sent hchat]
    have hsealed := Session.opens_payload hsound.follows hfits seat.entropy
    exact h.inChat (hsound.sent (hroom chat hchat) rfl rfl ⟨_, hsealed, rfl, rfl, husername⟩)

end Seat.Sound

theorem Seat.Run.sound {settings : Settings} {identity : Identity} {entropy : Entropy} {used : List UInt64}
    {seat : Seat} (run : Run ⟨Session.new settings identity, entropy⟩ used seat) :
    seat.Sound settings identity used := by
  induction run with
  | start =>
    refine ⟨rfl, ?_⟩
    intro chat hchat
    cases hchat
  | step _ now operation admits ih => exact ih.step admits (step_perform _ now operation)

/-- **What holds of a chat in every run.** The chain is the base's after as many steps as its index says. The
messages that were sent are counted, and no more of them than steps. The messages that wait have increasing
numbers below the count, and are not sent again too often; they are sealed under the keys at increasing
indices behind the chain and say what their entries say. No two messages were sealed at one index. -/
theorem chat_sound {settings : Settings} {identity : Identity} {entropy : Entropy} {used : List UInt64}
    {seat : Seat} {chat : Chat} (run : Seat.Run ⟨Session.new settings identity, entropy⟩ used seat)
    (hchat : seat.session.chat = some chat) :
    chat.chain = (Chain.ofBase chat.base).skip chat.chain.index.toNat ∧
    (chat.sequence.toNat = used.length ∧ chat.sequence ≤ chat.chain.index) ∧
    ((chat.pending.messages.map (·.sequence)).Pairwise (· < ·) ∧
      ∀ message ∈ chat.pending.messages, message.sequence < chat.sequence) ∧
    (∀ message ∈ chat.pending.messages, message.retries ≤ settings.session.maxRetries) ∧
    (∃ indices, List.Forall₂ (PendingMessage.SealedAt chat.base seat.session.username) chat.pending.messages indices ∧
      indices.Pairwise (· < ·) ∧ ∀ index ∈ indices, index < chat.chain.index) ∧
    used.Nodup := by
  have hsound := run.sound
  have h := hsound.chat chat hchat
  obtain ⟨indices, htied, hsub⟩ := List.sublistForall₂_iff.1 h.sealed
  rw [hsound.username_eq]
  have hbehind : ∀ index ∈ indices, index < chat.chain.index := by
    intro index hindex
    exact h.behind index (hsub.mem hindex)
  exact ⟨h.follows, ⟨h.count, h.sequence_le⟩, ⟨h.numbers, h.numbered⟩, h.retries,
    ⟨indices, htied, h.increasing.sublist hsub, hbehind⟩, h.increasing.imp UInt64.ne_of_lt⟩

/-- A session that has sent one message holds it as message 0, sealed at an index below 1. -/
theorem chat_sound_sent :
    let key : Key := ⟨List.replicate 32 0, rfl⟩
    let start : Seat := ⟨Session.new {} ⟨some key, key⟩, ⟨fun _ => 0, 0⟩⟩
    let entered := (start.perform 0 (.createWith ⟨⟨"room"⟩, ⟨key⟩, ⟨key⟩⟩ .oneToOne)).2
    let sent := (entered.perform 7 (.send "hello")).2
    ∃ chat, Seat.Run start [0] sent ∧ sent.session.chat = some chat ∧ chat.sequence.toNat = 1 ∧
      (chat.pending.messages.map (·.content)) = ["hello"] ∧
      ∀ message ∈ chat.pending.messages, message.sequence < 1 := by
  intro key start entered sent
  have before : Seat.Run start [] entered :=
    .step .start 0 (.createWith ⟨⟨"room"⟩, ⟨key⟩, ⟨key⟩⟩ .oneToOne) trivial
  have admits : entered.Admits (.send "hello") := by
    refine ⟨by decide, by decide, ?_⟩
    intro chat h
    obtain rfl := Option.some.inj h
    decide
  have run : Seat.Run start [0] sent := .step before 7 (.send "hello") admits
  obtain ⟨-, ⟨hcount, -⟩, ⟨-, hnumbered⟩, -⟩ := chat_sound run rfl
  exact ⟨_, run, rfl, hcount, rfl, hnumbered⟩

end SealedChat
