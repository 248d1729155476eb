import SealedChat.Proofs.Session.Invariant

/-!
# A message that is sent arrives

What a session sends is read back from its frame, and the frame in which the server passes it on is opened
by every session of the same chat whose window covers the message's index (`delivered`). Nothing is
assumed of the cipher but that the other keys of the window do not open the message.
-/

namespace SealedChat

/-! ### Frames that are received -/

namespace Session

variable {session : Session} {chat : Chat} {ciphertext : Bytes} {index : UInt64} {payload : Payload}

/-- A frame that is not too large is acted on. -/
lemma receive_encode {frame : ServerFrame} (hlimit : frame.encode.length ≤ session.maxInbound.toNat) :
    session.receive frame.encode = session.receiveFrame frame := by
  have hfits : Wire.Fits frame.encode := Nat.lt_of_le_of_lt hlimit session.maxInbound.toNat_lt
  rw [receive, if_neg (Nat.not_lt.2 hlimit), ServerFrame.decode_encode (ServerFrame.fits_of_encode hfits)]

/-- **A message that is received is opened if the window covers its index**, and the chain moves behind this
index. -/
theorem receive_opens (hchat : session.chat = some chat) (hfollows : chat.chain.Follows chat.base)
    (hopens : Opens chat.base ciphertext index payload)
    (others : ∀ j, session.window.Covers chat.chain.index j → j ≠ index → ∀ p, ¬ Opens chat.base ciphertext j p)
    {timestamp : Int64} {messageId : String}
    (hlimit : (ServerFrame.messageReceived chat.room ciphertext timestamp messageId).encode.length ≤
      session.maxInbound.toNat) :
    session.receive (ServerFrame.messageReceived chat.room ciphertext timestamp messageId).encode =
      if session.window.Covers chat.chain.index index then
        (some (.messageOpened (session.opened ⟨index, payload⟩ timestamp messageId)),
          { session with chat := some (chat.moved index) })
      else (none, session) := by
  rw [receive_encode hlimit, receiveFrame, openMessage_eq hchat, search?_of_opens hfollows hopens others]
  by_cases hcovers : session.window.Covers chat.chain.index index
  · rw [if_pos hcovers, if_pos hcovers, Option.map_some]
  · rw [if_neg hcovers, if_neg hcovers, Option.map_none]

/-- No assumption on the other keys is needed for the least index of the window that opens the message. -/
theorem receive_opens_least (hchat : session.chat = some chat) (hfollows : chat.chain.Follows chat.base)
    (hopens : Opens chat.base ciphertext index payload) (hcovers : session.window.Covers chat.chain.index index)
    (least : ∀ j, session.window.Covers chat.chain.index j → (∃ p, Opens chat.base ciphertext j p) → index ≤ j)
    {timestamp : Int64} {messageId : String}
    (hlimit : (ServerFrame.messageReceived chat.room ciphertext timestamp messageId).encode.length ≤
      session.maxInbound.toNat) :
    session.receive (ServerFrame.messageReceived chat.room ciphertext timestamp messageId).encode =
      (some (.messageOpened (session.opened ⟨index, payload⟩ timestamp messageId)),
        { session with chat := some (chat.moved index) }) := by
  have hit : search? chat.base chat.chain session.window ciphertext = some ⟨index, payload⟩ :=
    (search?_eq_some_iff hfollows).2 ⟨⟨hcovers, hopens⟩, least⟩
  rw [receive_encode hlimit, receiveFrame, openMessage_eq hchat, hit, Option.map_some]

end Session

/-! ### Signatures -/

/-- Checking against the bytes of a key is checking against the key. -/
lemma verifySignature_bytes (key : Key) (message signature : Bytes) :
    verifySignature key.bytes message signature = Ed25519.verify key message signature := by
  unfold verifySignature Identity.ofPublicBytes Identity.verify
  rw [Key.ofBytes?_bytes]
  by_cases hpoint : (Curve.Point.decode? key).isSome = true
  · generalize Ed25519.verify = verify
    simp only [if_pos hpoint]
  · have hverify : Ed25519.verify key message signature = false := by
      unfold Ed25519.verify
      rw [Option.not_isSome_iff_eq_none.1 hpoint]
    rw [hverify]
    simp only [if_neg hpoint]

/-- What a receiver is told of a payload that a sender wrote. -/
lemma Session.opened_payload (sender receiver : Session) (chat : Chat) (now time : Int64) (content messageId : String)
    (signature : Bytes) :
    receiver.opened ⟨chat.chain.index, sender.payload chat now content signature⟩ time messageId =
      { username := sender.username
        content := content
        timestamp := now
        serverTimestamp := time
        messageId := messageId
        sequence := chat.sequence
        chainIndex := chat.chain.index
        verified := Ed25519.verify sender.identity.publicKey
          (signingMessage content chat.sequence chat.chain.index) signature
        isOwn := sender.username == receiver.username
        senderFingerprint := some sender.identity.fingerprint } := by
  unfold opened payload
  rw [verifySignature_bytes, Key.ofBytes?_bytes, Option.map_some, Identity.fingerprint]

/-! ### Delivery -/

/-- A seat that a run from a new session leads to. -/
def Seat.Reachable (seat : Seat) : Prop :=
  ∃ settings identity entropy used, Seat.Run ⟨Session.new settings identity, entropy⟩ used seat

lemma Seat.Reachable.follows {seat : Seat} (h : seat.Reachable) {chat : Chat} (hchat : seat.session.chat = some chat) :
    chat.chain.Follows chat.base := by
  obtain ⟨_, _, _, _, run⟩ := h
  exact (run.sound.chat chat hchat).follows

/-- A message that the server can pass on was readable in the first place. -/
lemma decode_of_passedOn {room : RoomId} {ciphertext : Bytes} {time : Int64} {messageId : String}
    (h : (ServerFrame.messageReceived room ciphertext time messageId).Fits) :
    ClientFrame.decode (ClientFrame.sendMessage room ciphertext messageId).encode =
      .ok (.sendMessage room ciphertext messageId) := by
  have hfits : (ClientFrame.sendMessage room ciphertext messageId).Fits := h
  exact ClientFrame.decode_encode hfits

lemma payload_fits_of_sealed {key : MessageKey} {nonce : Bytes} {payload : Payload}
    (h : Wire.Fits (key.sealWith nonce payload.encode)) : payload.Fits := by
  unfold Wire.Fits at h
  rw [key.length_sealWith] at h
  refine Payload.fits_of_encode ?_
  unfold Wire.Fits
  omega

/-- **A message that is sent arrives.** Whoever is in the same chat opens it exactly if the window covers the
index at which it was sealed, and is told what the sender said; the chain then stands behind this index. -/
theorem delivered {sender receiver : Seat} (hsender : sender.Reachable) (hreceiver : receiver.Reachable)
    {sent received : Chat} (hsent : sender.session.chat = some sent)
    (hreceived : receiver.session.chat = some received) (hroom : received.room = sent.room)
    (hbase : received.base = sent.base) {now : Int64} {content : String} {outbound : Outbound} {next : Seat}
    (hsend : (Seat.send now content).run sender = .ok outbound next) :
    ∃ ciphertext signature,
      sender.session.identity.sign (signingMessage content sent.sequence sent.chain.index) = .ok signature ∧
      outbound.frame = (ClientFrame.sendMessage sent.room ciphertext outbound.messageId).encode ∧
      ∀ time : Int64,
        let frame := (ServerFrame.messageReceived sent.room ciphertext time outbound.messageId).encode
        frame.length ≤ receiver.session.maxInbound.toNat →
        (∀ j, receiver.session.window.Covers received.chain.index j → j ≠ sent.chain.index →
          ∀ p, ¬ Opens received.base ciphertext j p) →
        ClientFrame.decode outbound.frame = .ok (.sendMessage sent.room ciphertext outbound.messageId) ∧
        receiver.session.receive frame =
          if receiver.session.window.Covers received.chain.index sent.chain.index then
            (some (.messageOpened
              { username := sender.session.username
                content := content
                timestamp := now
                serverTimestamp := time
                messageId := outbound.messageId
                sequence := sent.sequence
                chainIndex := sent.chain.index
                verified := Ed25519.verify sender.session.identity.publicKey
                  (signingMessage content sent.sequence sent.chain.index) signature
                isOwn := sender.session.username == receiver.session.username
                senderFingerprint := some sender.session.identity.fingerprint }),
              { receiver.session with chat := some { received with
                  chain := received.chain.advanceTo (sent.chain.index + 1) } })
          else (none, receiver.session) := by
  obtain ⟨signature, ciphertext, message, hsign, hciphertext, hframe, -⟩ := Seat.exists_sealed_of_send hsent hsend
  refine ⟨ciphertext, signature, hsign, hframe, fun time hlimit others => ?_⟩
  have hfits := ServerFrame.fits_of_encode (Nat.lt_of_le_of_lt hlimit receiver.session.maxInbound.toNat_lt)
  have hpayload := payload_fits_of_sealed (hciphertext ▸ hfits.2.1)
  have hopens := Session.opens_payload (hsender.follows hsent) hpayload sender.entropy
  rw [← hbase, ← hciphertext] at hopens
  refine ⟨hframe ▸ decode_of_passedOn hfits, ?_⟩
  rw [← hroom] at hlimit ⊢
  rw [Session.receive_opens hreceived (hreceiver.follows hreceived) hopens others hlimit, Session.opened_payload]
  rfl

/-- Two sessions at the start of a chat, and a window that covers one key more than that of the message. -/
theorem delivered_first :
    let key : Key := ⟨List.replicate 32 0, rfl⟩
    let secrets : Secrets := ⟨⟨"room"⟩, ⟨key⟩, ⟨key⟩⟩
    let ann : Seat := ⟨Session.new ⟨{ username := "ann" }, {}⟩ (Identity.ofSeed key), ⟨UInt8.ofNat, 0⟩⟩
    let bob : Seat := ⟨Session.new ⟨{ username := "bob" }, { searchAhead := 2 }⟩ ⟨none, key⟩, ⟨UInt8.ofNat, 0⟩⟩
    let sender := (ann.perform 0 (.createWith secrets .oneToOne)).2
    let receiver := (bob.perform 0 (.joinWith secrets)).2
    ∃ outbound sent frame message received,
      (Seat.send 7 "hello").run sender = .ok outbound sent ∧
      receiver.session.receive frame = (some (.messageOpened message), received) ∧
      message.username = "ann" ∧ message.content = "hello" ∧ message.messageId = outbound.messageId := by
  intro key secrets ann bob sender receiver
  have hsender : sender.Reachable := ⟨_, _, _, _, .step .start 0 (.createWith secrets .oneToOne) trivial⟩
  have hreceiver : receiver.Reachable := ⟨_, _, _, _, .step .start 0 (.joinWith secrets) trivial⟩
  have hsend : (Seat.send 7 "hello").run sender = .ok _ _ := Seat.send_eq_ok_iff.2
    ⟨Chat.start secrets (some .oneToOne), Ed25519.sign key (signingMessage "hello" 0 0), rfl, rfl, rfl, rfl⟩
  obtain ⟨ciphertext, signature, -, hframe, hall⟩ := delivered hsender hreceiver rfl rfl rfl rfl hsend
  obtain rfl := ClientFrame.sendMessage_inj hframe
  have hreceive := (hall 9 (by decide +kernel) fun j hj hne => ?_).2
  · rw [if_pos (by decide)] at hreceive
    exact ⟨_, _, _, _, _, hsend, hreceive, rfl, rfl, rfl⟩
  · obtain rfl := hj.eq_one rfl hne
    exact openAt?_eq_none_iff.1 (by decide +kernel)

end SealedChat
