import SealedChat.Proofs.Exchange.Crossing
import SealedChat.Proofs.Group.Basic
import SealedChat.Proofs.Session.Forgetting

/-!
# Who joins late

Who joins a chat starts at the beginning of its chain, however far the chain of the others went in the meantime. So a
newcomer opens the next letter of a member that stayed if the newcomer's window reaches ahead to where that member is,
and that member opens the newcomer's first letter if its own window reaches back to the beginning; both are lost
otherwise (`joined_late`). A newcomer that has opened a letter stands where its sender stands.
-/

namespace SealedChat

/-! ### Letters from one seat to another -/

/-- A seat posts a letter and is another one then: it sends what the letter says, while its chain has an index for it
and in a frame whose length can be written. -/
structure Seat.Posts (seat : Seat) (letter : Letter) (next : Seat) : Prop where
  room : ∀ chat, seat.session.chat = some chat → chat.chain.index ≠ greatestIndex ∧ letter.index = chat.chain.index
  sends : ∃ now outbound, letter.frame = outbound.frame ∧
    (Seat.send now letter.content).run seat = .ok outbound next
  fits : Wire.Fits letter.frame

/-- A message that is sent is posted as a letter. -/
lemma Seat.posts_of_send {seat next : Seat} {chat : Chat} {now : Int64} {content : String} {outbound : Outbound}
    (hchat : seat.session.chat = some chat) (room : chat.chain.index ≠ greatestIndex)
    (hsend : (Seat.send now content).run seat = .ok outbound next) (fits : Wire.Fits outbound.frame) (number : Nat) :
    seat.Posts ⟨number, chat.chain.index, content, outbound.frame⟩ next := by
  refine ⟨?_, ⟨now, outbound, rfl, hsend⟩, fits⟩
  intro chat' hchat'
  obtain rfl := Option.some.inj (hchat.symm.trans hchat')
  exact ⟨room, rfl⟩

/-- A letter can be handed to a session: its frame is not too large, and no other key of the window opens it. -/
structure Letter.Reaches (letter : Letter) (time : Int64) (session : Session) : Prop where
  limit : (relay time letter.frame).length ≤ session.maxInbound.toNat
  alone : letter.Alone session

namespace Session

/-- A session that is handed a letter is told what it says. -/
def Hears (session : Session) (time : Int64) (letter : Letter) (after : Session) : Prop :=
  ∃ message, session.receive (relay time letter.frame) = (some (.messageOpened message), after) ∧
    message.content = letter.content

/-- A session that is handed a letter is told nothing, and stays as it is. -/
def Misses (session : Session) (time : Int64) (letter : Letter) : Prop :=
  session.receive (relay time letter.frame) = (none, session)

end Session

/-- A window around the index of a receiver covers the index of a sender that is not too far behind or ahead. -/
lemma Window.covers_iff_near {window : Window} {current index : UInt64} (hne : index ≠ greatestIndex) :
    window.Covers current index ↔
      current.toNat ≤ index.toNat + window.behind.toNat ∧ index.toNat < current.toNat + window.ahead.toNat := by
  have hne := ne_greatestIndex_iff.1 hne
  unfold Covers
  omega

namespace Chat.At

variable {secrets : Secrets} {index : Nat} {chat : Chat} {seat next : Seat} {session : Session} {letter : Letter}
  {time : Int64}

/-- What is posted is sealed where the chain stands, which goes on by one. -/
lemma posts (h : chat.At secrets index) (hchat : seat.session.chat = some chat) (posts : seat.Posts letter next) :
    letter.Sealed secrets ∧ letter.index.toNat = index ∧ ∃ chat',
      next.session = { seat.session with chat := some chat' } ∧ chat'.At secrets (index + 1) := by
  obtain ⟨now, outbound, hframe, hsend⟩ := posts.sends
  obtain ⟨room, hindex⟩ := posts.room chat hchat
  obtain ⟨number, _, content, _⟩ := letter
  dsimp only at hframe hindex hsend
  subst hframe hindex
  obtain ⟨⟨message, hsession⟩, hsealed⟩ := h.sealed_of_send hchat room hsend posts.fits number
  exact ⟨hsealed, h.index, _, hsession, h.sent room message⟩

/-- A letter that reaches a session is heard exactly if it is near. -/
lemma hears (h : chat.At secrets index) (hchat : session.chat = some chat) (hsealed : letter.Sealed secrets)
    (reaches : letter.Reaches time session) :
    if index ≤ letter.index.toNat + session.window.behind.toNat ∧
        letter.index.toNat < index + session.window.ahead.toNat then
      session.Hears time letter { session with chat := some (chat.moved letter.index) }
    else session.Misses time letter := by
  obtain ⟨message, hcontent, hreceive⟩ := h.receive_letter hchat hsealed reaches.alone reaches.limit
  obtain ⟨-, -, -, -, -, -, hne⟩ := hsealed
  simp only [Window.covers_iff_near hne, h.index] at hreceive
  split
  · rename_i near
    rw [if_pos near] at hreceive
    exact ⟨message, hreceive, hcontent⟩
  · rename_i far
    rw [if_neg far] at hreceive
    exact hreceive

/-- Who is at the start hears what the window reaches ahead to. -/
lemma hears_ahead (h : chat.At secrets 0) (hchat : session.chat = some chat) (hsealed : letter.Sealed secrets)
    (reaches : letter.Reaches time session) :
    if letter.index.toNat < session.window.ahead.toNat then
      session.Hears time letter { session with chat := some (chat.moved letter.index) }
    else session.Misses time letter := by
  have hhears := h.hears hchat hsealed reaches
  simpa only [Nat.zero_add, Nat.zero_le, true_and] using hhears

/-- A letter from the start is heard by whoever's window reaches back to it. -/
lemma hears_behind (h : chat.At secrets index) (hchat : session.chat = some chat) (hsealed : letter.Sealed secrets)
    (reaches : letter.Reaches time session) (ahead : 1 ≤ session.window.ahead) (start : letter.index.toNat = 0) :
    if index ≤ session.window.behind.toNat then
      session.Hears time letter { session with chat := some (chat.moved letter.index) }
    else session.Misses time letter := by
  have hahead : 1 ≤ session.window.ahead.toNat := UInt64.le_iff_toNat_le.1 ahead
  have hpos : 0 < index + session.window.ahead.toNat := by omega
  have hhears := h.hears hchat hsealed reaches
  simpa only [start, Nat.zero_add, hpos, and_true] using hhears

/-- A letter from where one is oneself is heard. -/
lemma hears_level (h : chat.At secrets index) (hchat : session.chat = some chat) (hsealed : letter.Sealed secrets)
    (reaches : letter.Reaches time session) (ahead : 1 ≤ session.window.ahead) (level : letter.index.toNat = index) :
    session.Hears time letter { session with chat := some (chat.moved letter.index) } := by
  have hahead : 1 ≤ session.window.ahead.toNat := UInt64.le_iff_toNat_le.1 ahead
  have hhears := h.hears hchat hsealed reaches
  rwa [level, if_pos (by omega)] at hhears

end Chat.At

/-! ### Entering -/

namespace Operation.EntersWith

variable {operation : Operation} {secrets secrets' : Secrets} {kind kind' : Option ChatKind}

lemma enters (h : operation.EntersWith secrets kind) : operation.Enters := by
  cases operation <;> trivial

lemma unique (h : operation.EntersWith secrets kind) (h' : operation.EntersWith secrets' kind') :
    secrets = secrets' ∧ kind = kind' := by
  cases operation with
  | create | join =>
    obtain ⟨hderive, rfl⟩ := h
    obtain ⟨hderive', rfl⟩ := h'
    exact ⟨Except.ok.inj (hderive.symm.trans hderive'), rfl⟩
  | createWith | joinWith =>
    obtain ⟨rfl, rfl⟩ := h
    obtain ⟨rfl, rfl⟩ := h'
    exact ⟨rfl, rfl⟩
  | send | receive | retry | leave => exact h.elim

/-- Who enters a chat is at the start of its chain. -/
lemma exists_chat (h : operation.EntersWith secrets kind) {seat next : Seat} {now : Int64} {bytes : Bytes}
    (hperform : seat.perform now operation = (.frame bytes, next)) :
    ∃ chat, next.session = { seat.session with chat := some chat } ∧ chat.At secrets 0 := by
  have entered : Deed.Entered ⟨now, operation, .frame bytes⟩ := ⟨h.enters, bytes, rfl⟩
  obtain ⟨secrets', kind', h', hchat⟩ := Seat.chat_start_of_entered hperform entered
  obtain ⟨rfl, rfl⟩ := h.unique h'
  refine ⟨_, ?_, .start secrets kind⟩
  rw [Seat.session_of_perform hperform, hchat]

end Operation.EntersWith

lemma Chat.Behind.at {secrets : Secrets} {chat : Chat} {indices : List UInt64} (h : chat.Behind indices)
    (room : chat.room = secrets.room) (base : chat.base = secrets.base) : chat.At secrets (indexBehind 0 indices) :=
  ⟨room, base, h.follows, h.index⟩

/-! ### Joining late -/

/-- **Who joins late, and what is heard then.** After any history, a member of a chat stands behind all indices at which
it has sealed or opened letters since it entered, and whoever joins the chat starts at index 0. So the newcomer hears
the member's next letter exactly if the newcomer's window reaches ahead to that index; once it has heard it, the member
hears the newcomer too. The member hears the first letter of a newcomer that has heard nothing yet exactly if the
member's window reaches back to index 0. What is not heard changes nothing. -/
theorem joined_late {ι : Type} [DecidableEq ι] {g : Group ι} (history : g.Run) {secrets : Secrets}
    {stayer newcomer : ι} {chat : Chat} (stays : (g.member stayer).seat.session.chat = some chat)
    (room : chat.room = secrets.room) (base : chat.base = secrets.base)
    (valid : 1 ≤ (g.member stayer).seat.session.window.ahead) {now : Int64} {operation : Operation}
    (joins : operation.EntersWith secrets none) {bytes : Bytes} {joined : Seat}
    (enters : (g.member newcomer).seat.perform now operation = (.frame bytes, joined)) :
    let stayed := (g.member stayer).seat
    let n := indexBehind 0 (g.member stayer).learned
    (∀ letter after time, stayed.Posts letter after → letter.Reaches time joined.session → letter.index.toNat = n ∧
      if n < joined.session.window.ahead.toNat then
        ∃ told, joined.session.Hears time letter told ∧
          ∀ answer next time', (Seat.mk told joined.entropy).Posts answer next → answer.Reaches time' after.session →
            ∃ heard, after.session.Hears time' answer heard
      else joined.session.Misses time letter) ∧
    ∀ letter next time, joined.Posts letter next → letter.Reaches time stayed.session → letter.index.toNat = 0 ∧
      if n ≤ stayed.session.window.behind.toNat then ∃ heard, stayed.session.Hears time letter heard
      else stayed.session.Misses time letter := by
  intro stayed n
  have hstayer : chat.At secrets n := (history.sound stayer chat stays).at room base
  obtain ⟨start, hjoined, hstart⟩ := joins.exists_chat enters
  have hchat : joined.session.chat = some start := by rw [hjoined]
  constructor
  · intro letter after time posts reaches
    obtain ⟨hsealed, hindex, chat', hafter, hat⟩ := hstayer.posts stays posts
    refine ⟨hindex, ?_⟩
    have hhears := hstart.hears_ahead hchat hsealed reaches
    rw [hindex] at hhears
    split
    · rename_i near
      rw [if_pos near] at hhears
      refine ⟨_, hhears, ?_⟩
      intro answer next time' posts' reaches'
      -- the newcomer stands behind the letter that it has heard, as its sender does
      obtain ⟨-, -, -, -, -, -, hne⟩ := hsealed
      have htold := hstart.moved hne
      rw [hindex, Nat.zero_max] at htold
      obtain ⟨hsealed', hindex', -⟩ := htold.posts rfl posts'
      have hchat' : after.session.chat = some chat' := by rw [hafter]
      have ahead : 1 ≤ after.session.window.ahead := by rwa [hafter]
      exact ⟨_, hat.hears_level hchat' hsealed' reaches' ahead hindex'⟩
    · rename_i far
      rw [if_neg far] at hhears
      exact hhears
  · intro letter next time posts reaches
    obtain ⟨hsealed, hindex, -⟩ := hstart.posts hchat posts
    refine ⟨hindex, ?_⟩
    have hhears := hstayer.hears_behind stays hsealed reaches valid hindex
    split
    · rename_i near
      rw [if_pos near] at hhears
      exact ⟨_, hhears⟩
    · rename_i far
      rw [if_neg far] at hhears
      exact hhears

/-- A letter that a member posts at index 1, after another one, and that the key at index 0 does not open. -/
lemma exists_posts_at_one :
    let key : Key := ⟨List.replicate 32 0, rfl⟩
    let ann : Seat := ⟨Session.new ⟨{ username := "ann" }, {}⟩ (Identity.ofSeed key), ⟨UInt8.ofNat, 0⟩⟩
    let created := (ann.perform 0 (.createWith ⟨⟨"room"⟩, ⟨key⟩, ⟨key⟩⟩ .oneToOne)).2
    let said := (created.perform 7 (.send "one")).2
    ∃ letter after ciphertext messageId, said.Posts letter after ∧ letter.content = "two" ∧ letter.index = 1 ∧
      letter.frame = (ClientFrame.sendMessage ⟨"room"⟩ ciphertext messageId).encode ∧
      (relay 9 letter.frame).length ≤ 1048576 ∧ ∀ p, ¬ Opens ⟨key⟩ ciphertext 0 p := by
  intro key ann created said
  have hsend : (Seat.send 8 "two").run said = .ok _ _ :=
    Seat.send_eq_ok_iff.2 ⟨_, Ed25519.sign key (signingMessage "two" 1 1), rfl, rfl, rfl, rfl⟩
  have posts := Seat.posts_of_send rfl (by decide) hsend (by decide +kernel) 1
  obtain ⟨signature, blob, -, hsign, hblob, hframe, -⟩ := Seat.exists_sealed_of_send rfl hsend
  obtain rfl := Except.ok.inj hsign
  subst hblob
  exact ⟨_, _, _, _, posts, rfl, rfl, hframe, by decide +kernel, openAt?_eq_none_iff.1 (by decide +kernel)⟩

/-- A newcomer whose window reaches two indices ahead hears the second letter of a member that stayed. -/
theorem joined_late_heard :
    let key : Key := ⟨List.replicate 32 0, rfl⟩
    let secrets : Secrets := ⟨⟨"room"⟩, ⟨key⟩, ⟨key⟩⟩
    let seat (username : String) (searchAhead : UInt64) : Seat :=
      ⟨Session.new ⟨{ username }, { searchAhead }⟩ (Identity.ofSeed key), ⟨UInt8.ofNat, 0⟩⟩
    let group := Group.start fun | Side.left => seat "ann" 20 | .right => seat "bob" 2
    let g := (group.act .left 0 (.createWith secrets .oneToOne)).act .left 7 (.send "one")
    let joined := ((g.member .right).seat.perform 8 (.joinWith secrets)).2
    ∃ letter after told, (g.member .left).seat.Posts letter after ∧ letter.content = "two" ∧
      joined.session.Hears 9 letter told := by
  intro key secrets seat group g joined
  have outside : group.Run := .start fun | .left | .right => rfl
  have zero := outside.act .left 0 (.createWith secrets .oneToOne) trivial
  have one : g.Run := zero.act .left 7 (.send "one") (Seat.admits_send rfl (by decide) (by decide) (by decide))
  have stays : (g.member .left).seat.session.chat = some _ := rfl
  have joins : (Operation.joinWith secrets).EntersWith secrets none := ⟨rfl, rfl⟩
  have enters : (g.member .right).seat.perform 8 (.joinWith secrets) = (.frame _, joined) := rfl
  obtain ⟨letter, after, ciphertext, messageId, posts, hcontent, hindex, hframe, limit, closed⟩ := exists_posts_at_one
  have alone : letter.Alone joined.session := by
    refine Letter.alone_of_frame hframe posts.fits rfl fun j hj hne => ?_
    -- the window covers the indices 0 and 1
    have hlt : j.toNat < 2 := hj.2
    have hne : j.toNat ≠ 1 := fun hone => hne (hindex ▸ UInt64.toNat_inj.1 hone)
    obtain rfl : j = 0 := UInt64.toNat_inj.1 (show j.toNat = 0 by omega)
    exact closed
  obtain ⟨hnext, -⟩ := joined_late one stays rfl rfl (by decide) joins enters
  obtain ⟨-, hhears⟩ := hnext letter after 9 posts ⟨limit, alone⟩
  rw [if_pos (by decide)] at hhears
  obtain ⟨told, htold, -⟩ := hhears
  exact ⟨letter, after, told, posts, hcontent, htold⟩

/-- A newcomer whose window reaches to its own index only misses the second letter of a member that stayed. -/
theorem second_letter_missed :
    let key : Key := ⟨List.replicate 32 0, rfl⟩
    let secrets : Secrets := ⟨⟨"room"⟩, ⟨key⟩, ⟨key⟩⟩
    let settings (username : String) (searchAhead : UInt64) : Settings := ⟨{ username }, { searchAhead }⟩
    let seat (settings : Settings) : Seat := ⟨Session.new settings (Identity.ofSeed key), ⟨UInt8.ofNat, 0⟩⟩
    let group := Group.start fun | Side.left => seat (settings "ann" 20) | .right => seat (settings "bob" 1)
    let g := (group.act .left 0 (.createWith secrets .oneToOne)).act .left 7 (.send "one")
    let joined := ((g.member .right).seat.perform 8 (.joinWith secrets)).2
    (settings "ann" 20).flaw? = none ∧ (settings "bob" 1).flaw? = none ∧ g.Run ∧
      ∃ letter after, (g.member .left).seat.Posts letter after ∧ letter.Reaches 9 joined.session ∧
        joined.session.Misses 9 letter := by
  intro key secrets settings seat group g joined
  have outside : group.Run := .start fun | .left | .right => rfl
  have zero := outside.act .left 0 (.createWith secrets .oneToOne) trivial
  have one : g.Run := zero.act .left 7 (.send "one") (Seat.admits_send rfl (by decide) (by decide) (by decide))
  obtain ⟨letter, after, ciphertext, messageId, posts, hcontent, hindex, hframe, limit, closed⟩ := exists_posts_at_one
  have alone : letter.Alone joined.session := by
    refine Letter.alone_of_frame hframe posts.fits rfl fun j hj hne => ?_
    obtain rfl : j = 0 := UInt64.toNat_inj.1 (Nat.lt_one_iff.1 hj.2)
    exact closed
  have reaches : letter.Reaches 9 joined.session := ⟨limit, alone⟩
  have hchat : (g.member .left).seat.session.chat = some _ := rfl
  have hat : Chat.At secrets _ _ := (one.sound .left _ hchat).at rfl rfl
  obtain ⟨hsealed, -⟩ := hat.posts hchat posts
  have hmisses := (Chat.At.start secrets none).hears_ahead rfl hsealed reaches
  rw [hindex, if_neg (by decide)] at hmisses
  exact ⟨by decide, by decide, one, letter, after, posts, reaches, hmisses⟩

end SealedChat
