import SealedChat.Proofs.Session.Receiving
import SealedChat.Proofs.Session.Deeds

/-!
# Messages that come in again

As long as a chat is not left its chain goes forward only (`Chat.Continues`). A message that was opened is found again
by any later search whose window still reaches back to its key: of the indices below it, the later window covers none
that the earlier one did not. It lies behind the chain then, so it is reported as before, and nothing changes
(`replay_stable`).
-/

namespace SealedChat

/-! ### As long as a chat is not left -/

/-- If an operation sends a message, there is an index for it. -/
def Seat.HasRoom (seat : Seat) : Operation → Prop
  | .send _ => ∀ chat, seat.session.chat = some chat → chat.chain.index ≠ greatestIndex
  | _ => True

/-- What is done from outside of a chat leads to a seat: chats are entered and left, messages are sent while there are
indices for them, however long they are, whatever comes in is received, and the messages that wait are swept. -/
inductive Seat.Attained : Seat → Prop
  | idle {seat : Seat} (idle : seat.session.chat = none) : Attained seat
  | step {seat : Seat} (before : Attained seat) (now : Int64) (operation : Operation) (room : seat.HasRoom operation) :
    Attained (seat.perform now operation).2

/-- What is done in a chat leads from one seat to another: as before, but no chat is entered or left. -/
inductive Seat.Stays (seat : Seat) : Seat → Prop
  | refl : Stays seat seat
  | step {later : Seat} (before : Stays seat later) (now : Int64) (operation : Operation)
    (room : later.HasRoom operation) (inside : ∀ bytes, (later.perform now operation).1 ≠ .frame bytes) :
    Stays seat (later.perform now operation).2

/-- A chat and what has become of it: the room and the base are the same, and the chain has gone on from the base. -/
structure Chat.Continues (chat later : Chat) : Prop where
  room : later.room = chat.room
  base : later.base = chat.base
  follows : later.chain.Follows later.base
  forward : chat.chain.index ≤ later.chain.index

namespace Chat.Continues

variable {chat mid later : Chat}

lemma refl (follows : chat.chain.Follows chat.base) : chat.Continues chat := ⟨rfl, rfl, follows, UInt64.le_refl _⟩

lemma trans (h : chat.Continues mid) (h' : mid.Continues later) : chat.Continues later :=
  ⟨h'.room.trans h.room, h'.base.trans h.base, h'.follows, UInt64.le_trans h.forward h'.forward⟩

lemma moved (follows : chat.chain.Follows chat.base) (index : UInt64) : chat.Continues (chat.moved index) := by
  refine ⟨rfl, rfl, follows.advanceTo _, ?_⟩
  rw [UInt64.le_iff_toNat_le, Chat.moved, Chain.toNat_index_advanceTo]
  exact Nat.le_max_left _ _

lemma sent (follows : chat.chain.Follows chat.base) (room : chat.chain.index ≠ greatestIndex)
    (message : PendingMessage) : chat.Continues (chat.sent message) := by
  refine ⟨rfl, rfl, follows.next room, ?_⟩
  show chat.chain.index ≤ chat.chain.index + 1
  rw [UInt64.le_iff_toNat_le, toNat_add_one (ne_greatestIndex_iff.1 room)]
  exact Nat.le_succ _

lemma of_change {policy : RetryPolicy} (follows : chat.chain.Follows chat.base) (change : chat.Change policy later) :
    chat.Continues later := by
  cases change with
  | moved index => exact moved follows index
  | named | acknowledged | swept => exact ⟨rfl, rfl, follows, UInt64.le_refl _⟩

end Chat.Continues

namespace Seat

variable {seat next later : Seat} {chat : Chat}

/-- **One operation** leaves a chat or starts one, which the server is told, or goes on without a chat or with the one
there is. -/
lemma perform_cases (follows : ∀ chat, seat.session.chat = some chat → chat.chain.Follows chat.base) (now : Int64)
    {operation : Operation} (hasRoom : seat.HasRoom operation) :
    let next := (seat.perform now operation).2
    ((∃ bytes, (seat.perform now operation).1 = .frame bytes) ∧
      ∀ chat, next.session.chat = some chat → chat.chain.Follows chat.base) ∨
    (seat.session.chat = none ∧ next.session.chat = none) ∨
    ∃ chat chat', seat.session.chat = some chat ∧ next.session.chat = some chat' ∧ chat.Continues chat' := by
  intro next
  have same : (seat.session.chat = none ∧ seat.session.chat = none) ∨
      ∃ chat chat', seat.session.chat = some chat ∧ seat.session.chat = some chat' ∧ chat.Continues chat' := by
    cases hchat : seat.session.chat with
    | none => exact .inl ⟨rfl, rfl⟩
    | some chat => exact .inr ⟨chat, chat, rfl, rfl, .refl (follows chat hchat)⟩
  have adjusted {session : Session} (adjusts : seat.session.Adjusts session) :
      (seat.session.chat = none ∧ session.chat = none) ∨
      ∃ chat chat', seat.session.chat = some chat ∧ session.chat = some chat' ∧ chat.Continues chat' := by
    cases adjusts with
    | same => exact same
    | change hchat change => exact .inr ⟨_, _, hchat, rfl, .of_change (follows _ hchat) change⟩
  have step : seat.Step now operation (seat.perform now operation).1 next := seat.step_perform now operation
  clear_value next
  generalize (seat.perform now operation).1 = reply at step
  cases step with
  | refused => exact .inr same
  | received adjusts => exact .inr (adjusted adjusts)
  | swept adjusts => exact .inr (adjusted adjusts)
  | entered enters =>
    obtain ⟨secrets, kind, rfl⟩ := enters
    refine .inl ⟨⟨_, rfl⟩, ?_⟩
    rintro _ ⟨⟩
    exact Chain.follows_ofBase secrets.base
  | left =>
    refine .inl ⟨⟨_, rfl⟩, ?_⟩
    rintro _ ⟨⟩
  | sent hsend =>
    obtain ⟨chat, signature, hchat, -, -, rfl⟩ := send_eq_ok_iff.1 hsend
    exact .inr (.inr ⟨chat, _, hchat, rfl, .sent (follows chat hchat) (hasRoom chat hchat) _⟩)

lemma Attained.follows (h : seat.Attained) :
    ∀ chat, seat.session.chat = some chat → chat.chain.Follows chat.base := by
  induction h with
  | idle idle =>
    intro chat hchat
    rw [idle] at hchat
    cases hchat
  | step _ now operation hasRoom ih =>
    intro chat hchat
    rcases perform_cases ih now hasRoom with ⟨-, hfollows⟩ | ⟨-, hnone⟩ | ⟨_, chat', -, hchat', continues⟩
    · exact hfollows chat hchat
    · rw [hnone] at hchat
      cases hchat
    · obtain rfl := Option.some.inj (hchat.symm.trans hchat')
      exact continues.follows

lemma Stays.exists_continues (h : seat.Stays later) (hchat : seat.session.chat = some chat)
    (follows : chat.chain.Follows chat.base) : ∃ chat', later.session.chat = some chat' ∧ chat.Continues chat' := by
  induction h with
  | refl => exact ⟨chat, hchat, .refl follows⟩
  | @step before _ now operation hasRoom inside ih =>
    obtain ⟨mid, hmid, hcontinues⟩ := ih
    have hfollows : ∀ chat, before.session.chat = some chat → chat.chain.Follows chat.base := by
      intro chat hchat
      obtain rfl := Option.some.inj (hchat.symm.trans hmid)
      exact hcontinues.follows
    rcases perform_cases hfollows now hasRoom with
      ⟨⟨bytes, hbytes⟩, -⟩ | ⟨hnone, -⟩ | ⟨_, chat', hmid', hchat', continues⟩
    · exact absurd hbytes (inside bytes)
    · rw [hnone] at hmid
      cases hmid
    · obtain rfl := Option.some.inj (hmid.symm.trans hmid')
      exact ⟨chat', hchat', hcontinues.trans continues⟩

lemma Stays.session_eq (h : seat.Stays later) : later.session = { seat.session with chat := later.session.chat } := by
  induction h with
  | refl => rfl
  | step _ now operation _ _ ih => rw [session_of_perform (Prod.eta _).symm, ih]

end Seat

/-! ### Searching again -/

section Again

variable {chat later : Chat} {window : Window} {ciphertext : Bytes} {hit : Hit}

/-- What was found is found again as long as the window reaches back to it. -/
lemma search?_again (follows : chat.chain.Follows chat.base)
    (found : search? chat.base chat.chain window ciphertext = some hit)
    (continues : (chat.moved hit.index).Continues later)
    (near : later.chain.index.toNat - window.behind.toNat ≤ hit.index.toNat) :
    search? later.base later.chain window ciphertext = some hit ∧ hit.index.toNat < later.chain.index.toNat := by
  obtain ⟨⟨hcovers, hopens⟩, hleast⟩ := (search?_eq_some_iff follows).1 found
  have hstop := hcovers.2
  have hbase : later.base = chat.base := continues.base
  have hmoved : max chat.chain.index.toNat (hit.index.toNat + 1) ≤ later.chain.index.toNat := by
    have hforward := UInt64.le_iff_toNat_le.1 continues.forward
    rwa [Chat.moved, Chain.toNat_index_advanceTo, toNat_add_one (by omega)] at hforward
  have hle := toNat_le_greatestIndex later.chain.index
  refine ⟨(search?_eq_some_iff continues.follows).2 ⟨⟨⟨near, by omega⟩, hbase ▸ hopens⟩, ?_⟩, by omega⟩
  rintro j hj ⟨p, hp⟩
  rw [hbase] at hp
  by_contra hlt
  have hlt := UInt64.lt_iff_toNat_lt.1 (UInt64.not_le.1 hlt)
  -- below the hit, the later window covers no more than the earlier one did
  have hcovered : window.Covers chat.chain.index j := by
    have hstart := hj.1
    exact ⟨by omega, by omega⟩
  exact absurd (hleast j hcovered ⟨p, hp⟩) (UInt64.not_le.2 (UInt64.lt_iff_toNat_lt.2 hlt))

/-- A chat whose chain is behind an index is not moved by it. -/
lemma Chat.moved_of_lt {index : UInt64} (h : index.toNat < chat.chain.index.toNat) : chat.moved index = chat := by
  have hle := toNat_le_greatestIndex chat.chain.index
  have hnext : index + 1 ≤ chat.chain.index := by
    rw [UInt64.le_iff_toNat_le, toNat_add_one (by omega)]
    exact h
  rw [Chat.moved, Chain.advanceTo_of_le hnext]

end Again

/-! ### Replays -/

namespace Session

variable {session after later : Session} {chat moved chat' : Chat} {bytes : Bytes} {message : OpenedMessage}

lemma Receives.length_le (h : session.Receives bytes (some (.messageOpened message)) after) :
    bytes.length ≤ session.maxInbound.toNat := by
  cases h with
  | read short => exact short

/-- Bytes that were reported as an opened message are reported as the same one while the chat goes on, as long as the
window reaches back to the message. -/
lemma Receives.again (h : session.Receives bytes (some (.messageOpened message)) after)
    (follows : ∀ chat, session.chat = some chat → chat.chain.Follows chat.base) (hafter : after.chat = some moved)
    (continues : moved.Continues chat') (hlater : later = { after with chat := some chat' })
    (near : chat'.chain.index.toNat - later.window.behind.toNat ≤ message.chainIndex.toNat) :
    later.receive bytes = (some (.messageOpened message), later) := by
  have hlength := h.length_le
  obtain ⟨chat, ciphertext, hit, hchat, decoded, found, hmessage, rfl⟩ := h.exists_hit
  obtain rfl := Option.some.inj hafter
  have hlimit : bytes.length ≤ later.maxInbound.toNat := by rwa [hlater]
  have hchat' : later.chat = some chat' := by rw [hlater]
  have hwindow : later.window = session.window := by rw [hlater]
  have hroom : chat'.room = chat.room := continues.room
  have hopened : later.opened hit message.serverTimestamp message.messageId = message := by
    rw [hlater]
    exact hmessage.symm
  have hindex : message.chainIndex = hit.index := congrArg OpenedMessage.chainIndex hmessage
  rw [hindex] at near
  rw [← hwindow] at found
  obtain ⟨hagain, hbehind⟩ := search?_again (follows chat hchat) found continues near
  rw [receive_of_decode hlimit decoded, receiveFrame, ← hroom, openMessage_eq hchat', hagain, Option.map_some,
    Chat.moved_of_lt hbehind, hopened, ← hchat']

/-- A window that reaches back at all reaches back to the message that was opened last. -/
lemma Receives.near (h : session.Receives bytes (some (.messageOpened message)) after)
    (follows : ∀ chat, session.chat = some chat → chat.chain.Follows chat.base) (hafter : after.chat = some moved)
    (back : 1 ≤ after.window.behind) :
    moved.chain.index.toNat - after.window.behind.toNat ≤ message.chainIndex.toNat := by
  obtain ⟨chat, ciphertext, hit, hchat, -, found, hmessage, rfl⟩ := h.exists_hit
  obtain rfl := Option.some.inj hafter
  obtain ⟨⟨⟨hstart, hstop⟩, -⟩, -⟩ := (search?_eq_some_iff (follows chat hchat)).1 found
  have hback : 1 ≤ session.window.behind.toNat := UInt64.le_iff_toNat_le.1 back
  have hindex : message.chainIndex = hit.index := congrArg OpenedMessage.chainIndex hmessage
  rw [hindex, Chat.moved, Chain.toNat_index_advanceTo, toNat_add_one (by omega)]
  show _ - session.window.behind.toNat ≤ _
  omega

end Session

/-- **A message that comes in again is reported again, and changes nothing**, as long as the chat was not left and the
window reaches back to the key that opened the message. So it is if it comes in again at once and the window reaches
back at all. Nothing is assumed of the cipher. -/
theorem replay_stable {seat next : Seat} (attained : seat.Attained) {now : Int64} {frame : Bytes}
    {message : OpenedMessage}
    (opened : seat.perform now (.receive frame) = (.event (some (.messageOpened message)), next)) :
    (∀ later chat, next.Stays later → later.session.chat = some chat →
      chat.chain.index.toNat - later.session.window.behind.toNat ≤ message.chainIndex.toNat →
      ∀ again, later.perform again (.receive frame) = (.event (some (.messageOpened message)), later)) ∧
    (1 ≤ next.session.window.behind →
      ∀ again, next.perform again (.receive frame) = (.event (some (.messageOpened message)), next)) := by
  obtain ⟨receives, -⟩ := Seat.receives_of_perform opened
  obtain ⟨chat, _, hit, hchat, -, -, -, hnext⟩ := receives.exists_hit
  have follows := attained.follows
  have hmoved : next.session.chat = some (chat.moved hit.index) := by rw [hnext]
  have hstable : ∀ later chat, next.Stays later → later.session.chat = some chat →
      chat.chain.index.toNat - later.session.window.behind.toNat ≤ message.chainIndex.toNat →
      ∀ again, later.perform again (.receive frame) = (.event (some (.messageOpened message)), later) := by
    intro later chat' stays hchat' near again
    obtain ⟨_, hother, continues⟩ := stays.exists_continues hmoved ((follows chat hchat).advanceTo _)
    obtain rfl := Option.some.inj (hchat'.symm.trans hother)
    have hlater := stays.session_eq
    rw [hchat'] at hlater
    simp only [Seat.perform, receives.again follows hmoved continues hlater near]
  refine ⟨hstable, ?_⟩
  intro back
  exact hstable next _ .refl hmoved (receives.near follows hmoved back)

/-- A message at index 0 that comes in again at once, and once more when the receiver has answered it. -/
theorem replay_stable_answered :
    let key : Key := ⟨List.replicate 32 0, rfl⟩
    let payload : Payload := ⟨"eve", "hello", 7, 0, [], [], 0⟩
    let ciphertext := (ChainBase.keyAt ⟨key⟩ payload.chainIndex.toNat).sealWith (List.replicate 24 0) payload.encode
    let frame := (ServerFrame.messageReceived ⟨"room"⟩ ciphertext 9 "id").encode
    let settings : Settings := ⟨{}, { searchBehind := 2, searchAhead := 1 }⟩
    let start : Seat := ⟨Session.new settings (Identity.ofSeed key), ⟨UInt8.ofNat, 0⟩⟩
    let seat := (start.perform 0 (.joinWith ⟨⟨"room"⟩, ⟨key⟩, ⟨key⟩⟩)).2
    ∃ message next answered chat, seat.perform 8 (.receive frame) = (.event (some (.messageOpened message)), next) ∧
      message.content = "hello" ∧ next.perform 9 (.receive frame) = (.event (some (.messageOpened message)), next) ∧
      next.Stays answered ∧ answered.session.chat = some chat ∧ chat.chain.index = 2 ∧
      answered.perform 11 (.receive frame) = (.event (some (.messageOpened message)), answered) := by
  intro key payload ciphertext frame settings start seat
  have attained : seat.Attained := .step (.idle rfl) 0 (.joinWith ⟨⟨"room"⟩, ⟨key⟩, ⟨key⟩⟩) trivial
  have hopens : Opens ⟨key⟩ ciphertext 0 payload := opens_sealWith rfl (by constructor <;> decide)
  have hlimit : frame.length ≤ seat.session.maxInbound.toNat := by decide +kernel
  have hchat : seat.session.chat = some (Chat.start ⟨⟨"room"⟩, ⟨key⟩, ⟨key⟩⟩ none) := rfl
  have hreceive := Session.receive_opens hchat rfl hopens
    (fun j hj hne => absurd (UInt64.toNat_inj.1 (Nat.lt_one_iff.1 hj.2)) hne) hlimit
  rw [if_pos (by decide)] at hreceive
  obtain ⟨message, hmessage⟩ : ∃ message, seat.session.opened ⟨0, payload⟩ 9 "id" = message := ⟨_, rfl⟩
  have hcontent : message.content = "hello" := by rw [← hmessage]; rfl
  rw [hmessage] at hreceive
  clear_value ciphertext
  obtain ⟨moved, hmoved⟩ : ∃ moved, Chat.moved (Chat.start ⟨⟨"room"⟩, ⟨key⟩, ⟨key⟩⟩ none) 0 = moved := ⟨_, rfl⟩
  have hindex : moved.chain.index = 1 := by rw [← hmoved]; rfl
  rw [hmoved] at hreceive
  let next : Seat := { seat with session := { seat.session with chat := some moved } }
  have opened : seat.perform 8 (.receive frame) = (.event (some (.messageOpened message)), next) := by
    have hframe : seat.session.receive frame = (some (.messageOpened message), next.session) := hreceive
    simp only [Seat.perform, hframe]
    rfl
  have hnext : next.session.chat = some moved := rfl
  obtain ⟨outbound, ⟨session, entropy⟩, hsend⟩ := Seat.exists_send hnext rfl 10 "hi"
  obtain ⟨_, _, answer, -, -, -, hsession⟩ := Seat.exists_sealed_of_send hnext hsend
  have hsession : session = { next.session with chat := some (moved.sent answer) } := hsession
  have hanswer : next.perform 10 (.send "hi") = (.sent outbound, ⟨session, entropy⟩) := by
    rw [Seat.perform, hsend, Seat.outcome]
  have stays : next.Stays ⟨session, entropy⟩ := by
    have hasRoom : next.HasRoom (.send "hi") := by
      rintro _ ⟨⟩
      rw [hindex]
      decide
    have h := Seat.Stays.step .refl 10 (.send "hi") hasRoom
    rw [hanswer] at h
    refine h ?_
    intro bytes hframe
    cases hframe
  have hchat' : session.chat = some (moved.sent answer) := by rw [hsession]
  have htwo : (moved.sent answer).chain.index = 2 := by
    show moved.chain.index + 1 = 2
    rw [hindex]
    rfl
  have back : (1 : UInt64) ≤ 2 := by decide
  obtain ⟨hlater, hnow⟩ := replay_stable attained opened
  refine ⟨message, next, _, _, opened, hcontent, hnow back 9, stays, hchat', htwo, hlater _ _ stays hchat' ?_ 11⟩
  rw [htwo, hsession]
  exact Nat.zero_le _

end SealedChat
