import SealedChat.Proofs.Exchange.Basic

/-!
# Messages that cross little are not lost

Both sides of an exchange walk one chain, so a letter may find the chain of its receiver beyond its index. It
is opened nevertheless if no more letters cross it than the receiver's window reaches behind: every step that
the receiver is ahead of a letter is a letter of its own that crosses it (`OnTheWay.near`), and no letter is
ahead of the receiver once the letters before it were handed over (`Keeps`).
-/

namespace SealedChat

/-! ### One letter -/

/-- A chat with the given secrets, at an index of its chain. -/
structure Chat.At (secrets : Secrets) (index : Nat) (chat : Chat) : Prop where
  room : chat.room = secrets.room
  base : chat.base = secrets.base
  follows : chat.chain.Follows chat.base
  index : chat.chain.index.toNat = index

/-- A letter that was sealed with the given secrets at its index and says what was to be said. -/
def Letter.Sealed (secrets : Secrets) (letter : Letter) : Prop :=
  ∃ ciphertext messageId payload,
    ClientFrame.decode letter.frame = .ok (.sendMessage secrets.room ciphertext messageId) ∧
      Opens secrets.base ciphertext letter.index payload ∧ payload.content = letter.content ∧
      letter.index ≠ greatestIndex

/-- Only what is sealed in the frame of a letter matters for whether other keys open it. -/
lemma Letter.alone_of_frame {letter : Letter} {session : Session} {chat : Chat} {room : RoomId} {ciphertext : Bytes}
    {messageId : String} (hframe : letter.frame = (ClientFrame.sendMessage room ciphertext messageId).encode)
    (fits : Wire.Fits letter.frame) (hchat : session.chat = some chat)
    (others : ∀ j, session.window.Covers chat.chain.index j → j ≠ letter.index →
      ∀ p, ¬ Opens chat.base ciphertext j p) : letter.Alone session := by
  intro chat' room' ciphertext' messageId' hchat' hdecode
  obtain rfl : chat = chat' := Option.some.inj (hchat.symm.trans hchat')
  rw [hframe] at fits hdecode
  rw [ClientFrame.decode_encode (ClientFrame.fits_of_encode fits)] at hdecode
  obtain ⟨-, rfl, -⟩ := ClientFrame.sendMessage.inj (Except.ok.inj hdecode)
  exact others

namespace Chat.At

variable {secrets : Secrets} {index : Nat} {chat : Chat} {session : Session} {seat next : Seat}

lemma start (secrets : Secrets) (kind : Option ChatKind) : (Chat.start secrets kind).At secrets 0 :=
  ⟨rfl, rfl, Chain.follows_ofBase secrets.base, rfl⟩

lemma sent (h : chat.At secrets index) (room : chat.chain.index ≠ greatestIndex) (message : PendingMessage) :
    (chat.sent message).At secrets (index + 1) := by
  refine ⟨h.room, h.base, h.follows.next room, ?_⟩
  rw [← h.index]
  exact toNat_add_one (ne_greatestIndex_iff.1 room)

lemma moved (h : chat.At secrets index) {target : UInt64} (hne : target ≠ greatestIndex) :
    (chat.moved target).At secrets (max index (target.toNat + 1)) := by
  refine ⟨h.room, h.base, h.follows.advanceTo _, ?_⟩
  rw [Chat.moved, Chain.toNat_index_advanceTo, h.index, toNat_add_one (ne_greatestIndex_iff.1 hne)]

/-- What a session sends is a sealed letter. -/
lemma sealed_of_send (h : chat.At secrets index) (hchat : seat.session.chat = some chat)
    (room : chat.chain.index ≠ greatestIndex) {now : Int64} {content : String} {outbound : Outbound}
    (hsend : (Seat.send now content).run seat = .ok outbound next) (fits : Wire.Fits outbound.frame) (number : Nat) :
    (∃ message, next.session = { seat.session with chat := some (chat.sent message) }) ∧
      Letter.Sealed secrets ⟨number, chat.chain.index, content, outbound.frame⟩ := by
  obtain ⟨signature, ciphertext, message, -, hciphertext, hframe, hnext⟩ := Seat.exists_sealed_of_send hchat hsend
  rw [hframe] at fits
  have hfits := ClientFrame.fits_of_encode fits
  have hdecode := ClientFrame.decode_encode hfits
  rw [← hframe, h.room] at hdecode
  have hpayload := payload_fits_of_sealed (hciphertext ▸ hfits.2.1)
  have hopens := Session.opens_payload h.follows hpayload seat.entropy
  rw [← hciphertext, h.base] at hopens
  exact ⟨⟨message, hnext⟩, ciphertext, outbound.messageId, _, hdecode, hopens, rfl, room⟩

/-- What comes of a letter that no other key of the window opens: it is opened if the window covers its index, and
nothing happens otherwise. -/
lemma receive_letter (h : chat.At secrets index) (hchat : session.chat = some chat) {letter : Letter}
    (hsealed : letter.Sealed secrets) (alone : letter.Alone session) {time : Int64}
    (limit : (relay time letter.frame).length ≤ session.maxInbound.toNat) :
    ∃ message, message.content = letter.content ∧ session.receive (relay time letter.frame) =
      if session.window.Covers chat.chain.index letter.index then
        (some (.messageOpened message), { session with chat := some (chat.moved letter.index) })
      else (none, session) := by
  obtain ⟨ciphertext, messageId, payload, hdecode, hopens, hcontent, -⟩ := hsealed
  have hrelay : relay time letter.frame =
      (ServerFrame.messageReceived chat.room ciphertext time messageId).encode := by
    rw [relay, hdecode, h.room]
  rw [hrelay] at limit ⊢
  have others := alone chat _ ciphertext messageId hchat hdecode
  rw [← h.base] at hopens
  exact ⟨_, hcontent, Session.receive_opens hchat h.follows hopens others limit⟩

/-- A letter is opened if the window of the receiver covers its index. -/
lemma opens_letter (h : chat.At secrets index) (hchat : session.chat = some chat) {letter : Letter}
    (hsealed : letter.Sealed secrets) (alone : letter.Alone session) {time : Int64}
    (limit : (relay time letter.frame).length ≤ session.maxInbound.toNat)
    (hcovers : session.window.Covers chat.chain.index letter.index) :
    ∃ message, session.receive (relay time letter.frame) =
        (some (.messageOpened message), { session with chat := some (chat.moved letter.index) }) ∧
      message.content = letter.content := by
  obtain ⟨message, hcontent, hreceive⟩ := h.receive_letter hchat hsealed alone limit
  rw [if_pos hcovers] at hreceive
  exact ⟨message, hreceive, hcontent⟩

end Chat.At

/-! ### Keeping up -/

/-- A receiver keeps up with a sender whose letters were sealed at the given indices: no letter is ahead of the
receiver when it is handed over, and once all are, the sender is not ahead either. -/
def Keeps (sender : Nat) : (receiver : Nat) → List Nat → Prop
  | receiver, [] => sender ≤ receiver
  | receiver, index :: rest => index ≤ receiver ∧ Keeps sender (max receiver (index + 1)) rest

section Keeps

variable {sender receiver : Nat} {indices : List Nat}

lemma Keeps.mono {receiver' : Nat} (h : Keeps sender receiver indices) (hle : receiver ≤ receiver') :
    Keeps sender receiver' indices := by
  induction indices generalizing receiver receiver' with
  | nil => exact Nat.le_trans h hle
  | cons index rest ih => exact ⟨Nat.le_trans h.1 hle, ih h.2 (by omega)⟩

/-- A sender is ahead by no more than the letters that it has posted. -/
lemma Keeps.le (h : Keeps sender receiver indices) : sender ≤ receiver + indices.length := by
  induction indices generalizing receiver with
  | nil => exact h
  | cons index rest ih =>
    have hrest := ih h.2
    have hindex := h.1
    rw [List.length_cons]
    omega

lemma Keeps.posted (h : Keeps sender receiver indices) : Keeps (sender + 1) receiver (indices ++ [sender]) := by
  induction indices generalizing receiver with
  | nil => exact ⟨h, Nat.le_max_right _ _⟩
  | cons index rest ih => exact ⟨h.1, ih h.2⟩

/-- The sender may go on to where the receiver is. -/
lemma Keeps.sender_max {target : Nat} (h : Keeps sender receiver indices) (hle : target ≤ receiver) :
    Keeps (max sender target) receiver indices := by
  induction indices generalizing receiver with
  | nil => exact Nat.max_le.2 ⟨h, hle⟩
  | cons index rest ih => exact ⟨h.1, ih h.2 (by omega)⟩

end Keeps

/-- **The letters on their way to a side**, as the indices of both sides and the number of letters that this side
has posted have it. A letter is behind the receiver by no more than the letters of the receiver that cross it:
these are the ones from number `heard` on. -/
structure OnTheWay (log : List Entry) (side : Side) (sender receiver posted : Nat) (letters : List Letter) :
    Prop where
  increasing : letters.Pairwise (·.index.toNat < ·.index.toNat)
  sent : ∀ letter ∈ letters, letter.index.toNat < sender
  keeps : Keeps sender receiver (letters.map (·.index.toNat))
  near : ∀ letter ∈ letters, ∃ heard ≤ posted, receiver + heard ≤ letter.index.toNat + posted ∧
    ∀ m, heard ≤ m → Before log (.posted side.other letter.number) (.handed side.other m)

namespace OnTheWay

variable {log : List Entry} {side : Side} {sender receiver posted : Nat} {letter : Letter} {letters : List Letter}

lemma later (h : OnTheWay log side sender receiver posted letters) (more : List Entry) :
    OnTheWay (log ++ more) side sender receiver posted letters := by
  refine ⟨h.increasing, h.sent, h.keeps, ?_⟩
  intro letter hletter
  obtain ⟨heard, hle, hnear, hbefore⟩ := h.near letter hletter
  refine ⟨heard, hle, hnear, ?_⟩
  intro m hm
  exact (hbefore m hm).append more

/-- The sender posts one more letter. -/
lemma senderPosts (h : OnTheWay log side sender receiver posted letters) (hindex : letter.index.toNat = sender)
    {heard : Nat} (hle : heard ≤ posted) (hnear : receiver + heard ≤ sender + posted)
    (hbefore : ∀ m, heard ≤ m → Before log (.posted side.other letter.number) (.handed side.other m)) :
    OnTheWay log side (sender + 1) receiver posted (letters ++ [letter]) := by
  refine ⟨?_, ?_, ?_, ?_⟩
  · apply pairwise_concat h.increasing
    intro a ha
    rw [hindex]
    exact h.sent a ha
  · intro a ha
    rcases List.mem_append.1 ha with ha | ha
    · exact Nat.lt_succ_of_lt (h.sent a ha)
    · rw [List.mem_singleton.1 ha, hindex]
      exact Nat.lt_succ_self _
  · rw [List.map_append, List.map_singleton, hindex]
    exact h.keeps.posted
  · intro a ha
    rcases List.mem_append.1 ha with ha | ha
    · exact h.near a ha
    · rw [List.mem_singleton.1 ha, hindex]
      exact ⟨heard, hle, hnear, hbefore⟩

/-- The receiver posts a letter of its own, which crosses all of them. -/
lemma receiverPosts (h : OnTheWay log side sender receiver posted letters) :
    OnTheWay log side sender (receiver + 1) (posted + 1) letters := by
  refine ⟨h.increasing, h.sent, h.keeps.mono (Nat.le_succ _), ?_⟩
  intro letter hletter
  obtain ⟨heard, hle, hnear, hbefore⟩ := h.near letter hletter
  exact ⟨heard, by omega, by omega, hbefore⟩

/-- The receiver is handed the first letter. -/
lemma receiverHanded (h : OnTheWay log side sender receiver posted (letter :: letters)) :
    OnTheWay log side sender (max receiver (letter.index.toNat + 1)) posted letters := by
  obtain ⟨hfirst, hincreasing⟩ := List.pairwise_cons.1 h.increasing
  refine ⟨hincreasing, ?_, h.keeps.2, ?_⟩
  · intro a ha
    exact h.sent a (List.mem_cons_of_mem _ ha)
  · intro a ha
    obtain ⟨heard, hle, hnear, hbefore⟩ := h.near a (List.mem_cons_of_mem _ ha)
    have := hfirst a ha
    exact ⟨heard, hle, by omega, hbefore⟩

/-- The sender is handed a letter of the receiver. -/
lemma senderHanded (h : OnTheWay log side sender receiver posted letters) {index : Nat} (hlt : index < receiver) :
    OnTheWay log side (max sender (index + 1)) receiver posted letters := by
  refine ⟨h.increasing, ?_, h.keeps.sender_max hlt, h.near⟩
  intro a ha
  have := h.sent a ha
  omega

end OnTheWay

/-! ### Runs -/

/-- A session that has just started or joined the chat of the given secrets. -/
def Session.Entered (secrets : Secrets) (session : Session) : Prop :=
  ∃ (before after : Seat) (bytes : Bytes), after.session = session ∧
    ((∃ kind, (Seat.createWith secrets kind).run before = .ok bytes after) ∨
      (Seat.joinWith secrets).run before = .ok bytes after)

lemma Session.Entered.exists_chat {secrets : Secrets} {session : Session} (h : session.Entered secrets) :
    ∃ chat, session.chat = some chat ∧ chat.At secrets 0 := by
  obtain ⟨before, after, bytes, rfl, ⟨kind, h⟩ | h⟩ := h
  · obtain ⟨-, -, rfl⟩ := Seat.Action.enter_eq_ok_iff.1 h
    exact ⟨_, rfl, .start secrets (some kind)⟩
  · obtain ⟨-, -, rfl⟩ := Seat.Action.enter_eq_ok_iff.1 h
    exact ⟨_, rfl, .start secrets none⟩

/-- A delivery that tells what was to be said. -/
def Delivered (delivery : Letter × Option Event) : Prop :=
  ∃ message, delivery.2 = some (.messageOpened message) ∧ message.content = delivery.1.content

namespace Exchange

/-- **What holds of an exchange** whose sides are at the given indices of the chain. -/
structure Sound (secrets : Secrets) (seat : Side → Seat) (index : Side → Nat) (e : Exchange) : Prop where
  inChat : ∀ side, ∃ chat,
    (e.seat side).session = { (seat side).session with chat := some chat } ∧ chat.At secrets (index side)
  sealed : ∀ side, ∀ letter ∈ e.mail side, letter.Sealed secrets
  way : ∀ side : Side, OnTheWay e.log side (index side.other) (index side) (e.posted side) (e.mail side)
  logged : e.Logged
  told : ∀ delivery ∈ e.told, Delivered delivery

namespace Sound

variable {secrets : Secrets} {seat : Side → Seat} {index : Side → Nat} {e : Exchange} {side : Side}

lemma start (entered : ∀ side, (seat side).session.Entered secrets) :
    (Exchange.start seat).Sound secrets seat fun _ => 0 where
  inChat side := by
    obtain ⟨chat, hchat, hat⟩ := (entered side).exists_chat
    refine ⟨chat, ?_, hat⟩
    rw [← hchat]
    rfl
  sealed _ _ h := nomatch h
  way _ := ⟨.nil, fun _ h => (nomatch h), Nat.le_refl 0, fun _ h => (nomatch h)⟩
  logged := .start seat
  told _ h := nomatch h

/-- With a letter that a side posts, the letters are on their way as before, and this one is the last of them. -/
lemma way_post (h : e.Sound secrets seat index) {letter : Letter} (hnumber : letter.number = e.posted side)
    (hindex : letter.index.toNat = index side) (seat' : Seat) (s : Side) :
    OnTheWay (e.post side letter seat').log s (Function.update index side (index side + 1) s.other)
      (Function.update index side (index side + 1) s) ((e.post side letter seat').posted s)
      ((e.post side letter seat').mail s) := by
  have hself : Function.update index side (index side + 1) side = index side + 1 := Function.update_self ..
  have hother : Function.update index side (index side + 1) side.other = index side.other :=
    Function.update_of_ne side.other_ne ..
  revert s
  refine side.forall_iff.2 ⟨?_, ?_⟩
  · rw [post_log, post_posted, post_mail, hself, hother]
    exact ((h.way side).later _).receiverPosts
  · rw [post_log, post_posted_other, post_mail_other, hother, side.other_other, hself]
    have hway := (h.way side.other).later [.posted side (e.posted side)]
    rw [side.other_other] at hway
    have hle := (h.way side).keeps.le
    have hcount := h.logged.count side
    rw [List.length_map] at hle
    -- the letters that this side has not been handed yet cross the new one
    have hposted : e.handed side ≤ e.posted side.other := by omega
    have hnear : index side.other + e.handed side ≤ index side + e.posted side.other := by omega
    apply hway.senderPosts hindex hposted hnear
    intro m hm
    rw [side.other_other, hnumber]
    exact h.logged.before_handed _ hm

/-- A side posts a letter: it is one step further on, and the letter is sealed there. -/
theorem post (h : e.Sound secrets seat index) {now : Int64} {content : String} {chat : Chat} {outbound : Outbound}
    {next : Seat} (hchat : (e.seat side).session.chat = some chat) (room : chat.chain.index ≠ greatestIndex)
    (hsend : (Seat.send now content).run (e.seat side) = .ok outbound next) (fits : Wire.Fits outbound.frame) :
    (e.post side ⟨e.posted side, chat.chain.index, content, outbound.frame⟩ next).Sound secrets seat
      (Function.update index side (index side + 1)) := by
  obtain ⟨chat', hsession, hat⟩ := h.inChat side
  obtain rfl : chat = chat' := by
    rw [hsession] at hchat
    exact (Option.some.inj hchat).symm
  obtain ⟨⟨message, hnext⟩, hsealed⟩ := hat.sealed_of_send hchat room hsend fits (e.posted side)
  refine ⟨side.forall_iff.2 ⟨?_, ?_⟩, side.forall_iff.2 ⟨?_, ?_⟩, h.way_post rfl hat.index _,
    h.logged.post rfl _, h.told⟩
  · rw [post_seat, Function.update_self, hnext, hsession]
    exact ⟨_, rfl, hat.sent room message⟩
  · rw [post_seat_other, Function.update_of_ne side.other_ne]
    exact h.inChat side.other
  · rw [post_mail]
    exact h.sealed side
  · rw [post_mail_other]
    intro letter hletter
    rcases List.mem_append.1 hletter with hletter | hletter
    · exact h.sealed side.other letter hletter
    · rw [List.mem_singleton.1 hletter]
      exact hsealed

/-- The window of a side reaches back to the next letter if few letters cross it. -/
lemma covers (h : e.Sound secrets seat index) {letter : Letter} {rest : List Letter}
    (hmail : e.mail side = letter :: rest) (ahead : 1 ≤ (seat side).session.window.ahead)
    (few : crossings (e.log ++ [.handed side letter.number]) side letter.number ≤
      (seat side).session.window.behind.toNat) {chat : Chat} (hat : chat.At secrets (index side)) :
    (seat side).session.window.Covers chat.chain.index letter.index := by
  have hway := h.way side
  rw [hmail] at hway
  obtain ⟨heard, -, hnear, hbefore⟩ := hway.near letter List.mem_cons_self
  have hlength : e.posted side ≤ (e.log ++ [Entry.handed side letter.number]).length := by
    rw [List.length_append]
    exact Nat.le_add_right_of_le (h.logged.posted_le side)
  have hcross : e.posted side - heard ≤ crossings (e.log ++ [.handed side letter.number]) side letter.number := by
    apply le_crossings hlength
    intro m hm hlt
    exact ⟨(h.logged.posted_before hmail hlt).append _, (hbefore m hm).append _⟩
  have hfirst : letter.index.toNat ≤ index side := hway.keeps.1
  have hahead : 1 ≤ (seat side).session.window.ahead.toNat := UInt64.le_iff_toNat_le.1 ahead
  obtain ⟨-, -, -, -, -, -, hne⟩ := h.sealed side letter (hmail ▸ List.mem_cons_self)
  have hne := ne_greatestIndex_iff.1 hne
  unfold Window.Covers
  rw [hat.index]
  omega

/-- With a letter that is handed over, the others are on their way as before. -/
lemma way_hand (h : e.Sound secrets seat index) {letter : Letter} {rest : List Letter}
    (hmail : e.mail side = letter :: rest) (time : Int64) (s : Side) :
    OnTheWay (e.hand side time letter rest).log s
      (Function.update index side (max (index side) (letter.index.toNat + 1)) s.other)
      (Function.update index side (max (index side) (letter.index.toNat + 1)) s)
      ((e.hand side time letter rest).posted s) ((e.hand side time letter rest).mail s) := by
  have hself : Function.update index side (max (index side) (letter.index.toNat + 1)) side =
      max (index side) (letter.index.toNat + 1) := Function.update_self ..
  have hother : Function.update index side (max (index side) (letter.index.toNat + 1)) side.other =
      index side.other := Function.update_of_ne side.other_ne ..
  revert s
  refine side.forall_iff.2 ⟨?_, ?_⟩
  · rw [hand_log, hand_posted, hand_mail, hself, hother]
    have hway := h.way side
    rw [hmail] at hway
    exact (hway.later _).receiverHanded
  · rw [hand_log, hand_posted, hand_mail_other, hother, side.other_other, hself]
    have hway := (h.way side.other).later [.handed side letter.number]
    rw [side.other_other] at hway
    have hsent := (h.way side).sent letter (hmail ▸ List.mem_cons_self)
    exact hway.senderHanded hsent

/-- A side is handed a letter that few letters cross: it is told what was to be said, and stands behind the
letter's index from now on. -/
theorem hand (h : e.Sound secrets seat index) {letter : Letter} {rest : List Letter}
    (hmail : e.mail side = letter :: rest) {time : Int64}
    (limit : (relay time letter.frame).length ≤ (e.seat side).session.maxInbound.toNat)
    (alone : letter.Alone (e.seat side).session) (ahead : 1 ≤ (seat side).session.window.ahead)
    (few : crossings (e.log ++ [.handed side letter.number]) side letter.number ≤
      (seat side).session.window.behind.toNat) :
    (e.hand side time letter rest).Sound secrets seat
      (Function.update index side (max (index side) (letter.index.toNat + 1))) := by
  obtain ⟨chat, hsession, hat⟩ := h.inChat side
  have hsealed := h.sealed side letter (hmail ▸ List.mem_cons_self)
  have hcovers := h.covers hmail ahead few hat
  rw [hsession] at limit alone
  obtain ⟨message, hreceive, hcontent⟩ := hat.opens_letter rfl hsealed alone limit hcovers
  obtain ⟨-, -, -, -, -, -, hne⟩ := hsealed
  refine ⟨side.forall_iff.2 ⟨?_, ?_⟩, side.forall_iff.2 ⟨?_, ?_⟩, h.way_hand hmail time,
    h.logged.hand hmail time, ?_⟩
  · rw [Function.update_self, hand_session, hsession, hreceive]
    exact ⟨_, rfl, hat.moved hne⟩
  · rw [hand_seat_other, Function.update_of_ne side.other_ne]
    exact h.inChat side.other
  · rw [hand_mail]
    intro a ha
    have hmem : a ∈ e.mail side := hmail ▸ List.mem_cons_of_mem _ ha
    exact h.sealed side a hmem
  · rw [hand_mail_other]
    exact h.sealed side.other
  · intro delivery hdelivery
    rw [hand_told, hsession, hreceive] at hdelivery
    rcases List.mem_append.1 hdelivery with hdelivery | hdelivery
    · exact h.told delivery hdelivery
    · rw [List.mem_singleton.1 hdelivery]
      exact ⟨message, rfl, hcontent⟩

end Sound

theorem Run.sound {secrets : Secrets} {seat : Side → Seat} {e : Exchange}
    (entered : ∀ side, (seat side).session.Entered secrets) (ahead : ∀ side, 1 ≤ (seat side).session.window.ahead)
    (run : Run seat e) (few : ∀ side n, .handed side n ∈ e.log →
      crossings e.log side n ≤ (seat side).session.window.behind.toNat) :
    ∃ index, e.Sound secrets seat index := by
  induction run with
  | start => exact ⟨_, .start entered⟩
  | post _ side now content hchat room hsend fits ih =>
    obtain ⟨index, h⟩ := ih (few_of_append few)
    exact ⟨_, h.post hchat room hsend fits⟩
  | hand _ side time hmail limit alone ih =>
    obtain ⟨index, h⟩ := ih (few_of_append few)
    have hfew := few side _ (List.mem_append_right _ (List.mem_singleton_self _))
    exact ⟨_, h.hand hmail limit alone (ahead side) hfew⟩

end Exchange

/-- **No message is lost between two sides whose messages cross little.** Both have just entered the same chat
and search at least the key at their own index. In every run in which no more letters cross a letter than the
window of its receiver reaches behind, every letter that is handed over is opened and says what was to be said,
and both sides can go on. -/
theorem crossing_delivered {secrets : Secrets} {seat : Side → Seat} {e : Exchange}
    (entered : ∀ side, (seat side).session.Entered secrets)
    (signer : ∀ side, (seat side).session.identity.canSign = true)
    (ahead : ∀ side, 1 ≤ (seat side).session.window.ahead) (run : Exchange.Run seat e)
    (few : ∀ side n, .handed side n ∈ e.log → crossings e.log side n ≤ (seat side).session.window.behind.toNat) :
    (∀ letter event, (letter, event) ∈ e.told →
      ∃ message, event = some (.messageOpened message) ∧ message.content = letter.content) ∧
    ∀ side now content, ∃ outbound next, (Seat.send now content).run (e.seat side) = .ok outbound next := by
  obtain ⟨index, h⟩ := run.sound entered ahead few
  constructor
  · intro letter event hmem
    exact h.told (letter, event) hmem
  · intro side now content
    obtain ⟨chat, hsession, -⟩ := h.inChat side
    have hchat : (e.seat side).session.chat = some chat := by rw [hsession]
    have hsigner : (e.seat side).session.identity.canSign = true := by
      rw [hsession]
      exact signer side
    exact Seat.exists_send hchat hsigner now content

/-- Two letters at index 0 that cross, and windows that reach one index back. -/
theorem crossing_delivered_once :
    let key : Key := ⟨List.replicate 32 0, rfl⟩
    let secrets : Secrets := ⟨⟨"room"⟩, ⟨key⟩, ⟨key⟩⟩
    let new (username : String) : Session :=
      Session.new ⟨{ username }, { searchBehind := 1, searchAhead := 1 }⟩ (Identity.ofSeed key)
    let seat : Side → Seat
      | .left => ⟨{ new "ann" with chat := some (Chat.start secrets (some .oneToOne)) }, ⟨UInt8.ofNat, 0⟩⟩
      | .right => ⟨{ new "bob" with chat := some (Chat.start secrets none) }, ⟨UInt8.ofNat, 0⟩⟩
    ∃ e, Exchange.Run seat e ∧ e.log = [.posted .left 0, .posted .right 0, .handed .right 0] ∧
      crossings e.log .right 0 = 1 ∧
      ∃ letter message, e.told = [(letter, some (.messageOpened message))] ∧ message.content = "hello" := by
  intro key secrets new seat
  have entered : ∀ side, (seat side).session.Entered secrets
    | .left => ⟨⟨new "ann", ⟨UInt8.ofNat, 0⟩⟩, _, _, rfl, .inl ⟨.oneToOne, rfl⟩⟩
    | .right => ⟨⟨new "bob", ⟨UInt8.ofNat, 0⟩⟩, _, _, rfl, .inr rfl⟩
  have hleft : (Seat.send 7 "hello").run (seat .left) = .ok _ _ := Seat.send_eq_ok_iff.2
    ⟨Chat.start secrets (some .oneToOne), Ed25519.sign key (signingMessage "hello" 0 0), rfl, rfl, rfl, rfl⟩
  have hright : (Seat.send 8 "hi").run (seat .right) = .ok _ _ := Seat.send_eq_ok_iff.2
    ⟨Chat.start secrets none, Ed25519.sign key (signingMessage "hi" 0 0), rfl, rfl, rfl, rfl⟩
  have zero : Exchange.Run seat (Exchange.start seat) := .start
  have one := zero.post .left 7 "hello" rfl (by decide) hleft (by decide +kernel)
  have two := one.post .right 8 "hi" rfl (by decide) hright (by decide +kernel)
  obtain ⟨signature, blob, -, hsign, hblob, hframe, -⟩ := Seat.exists_sealed_of_send rfl hleft
  obtain rfl := Except.ok.inj hsign
  subst hblob
  have three := two.hand .right 9 rfl (by decide +kernel)
    (Letter.alone_of_frame hframe (by decide +kernel) rfl fun j hj hne => ?_)
  · have few : ∀ side n, Entry.handed side n ∈ [Entry.posted .left 0, .posted .right 0, .handed .right 0] →
        crossings [.posted .left 0, .posted .right 0, .handed .right 0] side n ≤
          (seat side).session.window.behind.toNat := by
      intro side n hn
      obtain ⟨rfl, rfl⟩ : side = .right ∧ n = 0 := by simpa using hn
      decide
    obtain ⟨message, htold, hcontent⟩ := (crossing_delivered entered (fun | .left | .right => rfl)
      (fun | .left | .right => by decide) three few).1 _ _ (List.mem_singleton_self _)
    exact ⟨_, three, rfl, by decide, _, message, congrArg (fun event => [(_, event)]) htold, hcontent⟩
  · obtain rfl := hj.eq_one rfl hne
    exact openAt?_eq_none_iff.1 (by decide +kernel)

end SealedChat
