import SealedChat.Proofs.Session.Receiving
import SealedChat.Proofs.Wire.Decoding

/-!
# What a signature covers

The signed bytes start with the content, whose length is written nowhere; they are told apart from their end, where the two
positions take eight bytes each (`signingMessage_eq_iff`). Who sends a message signs these bytes, and who opens it puts
them together again from what was opened and from the index of the key. So an honest message is checked against the very
bytes that were signed, and one with another content or at another place against other bytes (`signatures_bind`).
-/

namespace SealedChat

/-- **The signed bytes determine the content and both positions.** -/
theorem signingMessage_eq_iff {content content' : String} {sequence sequence' index index' : UInt64} :
    signingMessage content sequence index = signingMessage content' sequence' index' ↔
      content = content' ∧ sequence = sequence' ∧ index = index' := by
  constructor
  · intro h
    unfold signingMessage at h
    obtain ⟨hfront, hindex⟩ := List.append_inj' h (by rw [LittleEndian.length_ofUInt64, LittleEndian.length_ofUInt64])
    obtain ⟨hcontent, hsequence⟩ :=
      List.append_inj' hfront (by rw [LittleEndian.length_ofUInt64, LittleEndian.length_ofUInt64])
    exact ⟨Utf8.encode_inj hcontent, LittleEndian.ofUInt64_inj hsequence, LittleEndian.ofUInt64_inj hindex⟩
  · rintro ⟨rfl, rfl, rfl⟩
    rfl

/-! ### What was sealed is what is opened -/

section Opened

variable {session : Session} {chat : Chat} {now : Int64} {content : String} {signature ciphertext : Bytes}
  {entropy : Entropy} {payload : Payload}

/-- The key that sealed a message opens it to what its sender wrote. -/
lemma eq_payload_of_opens (follows : chat.chain.Follows chat.base) (hfits : Wire.Fits ciphertext)
    (hsealed : ciphertext = chat.chain.next.1.sealWith (entropy.peek MessageKey.nonceSize)
      (session.payload chat now content signature).encode)
    (hopens : Opens chat.base ciphertext chat.chain.index payload) :
    payload = session.payload chat now content signature := by
  subst hsealed
  exact hopens.unique (Session.opens_payload follows (payload_fits_of_sealed hfits) entropy)

end Opened

/-- **A signature binds the content and both positions.** Equal signed bytes are those of equal contents, numbers and
indices. What a session signs when it sends, at any number and index, is what every session of the same chat checks the
signature against that opens the message under the key that sealed it; and whatever else is opened, its signature is
checked against other bytes as soon as the content, the number or the index of its key is another one. -/
theorem signatures_bind :
    (∀ (content content' : String) (sequence sequence' index index' : UInt64),
      signingMessage content sequence index = signingMessage content' sequence' index' ↔
        content = content' ∧ sequence = sequence' ∧ index = index') ∧
    ∀ (sender : Session) (sent : Chat) now content entropy outbound sender' entropy',
      sender.chat = some sent → sent.chain.Follows sent.base →
      (Seat.send now content).run ⟨sender, entropy⟩ = .ok outbound ⟨sender', entropy'⟩ →
      let signed := signingMessage content sent.sequence sent.chain.index
      ∃ ciphertext signature, sender.identity.sign signed = .ok signature ∧
        outbound.frame = (ClientFrame.sendMessage sent.room ciphertext outbound.messageId).encode ∧
        ∀ (receiver : Session) (received : Chat) bytes message receiver',
          receiver.chat = some received → received.chain.Follows received.base → received.base = sent.base →
          receiver.receive bytes = (some (.messageOpened message), receiver') →
          ∃ carried payload,
            ServerFrame.decode bytes =
              .ok (.messageReceived received.room carried message.serverTimestamp message.messageId) ∧
            Opens received.base carried message.chainIndex payload ∧
            message.content = payload.content ∧ message.sequence = payload.sequence ∧
            let checked := signingMessage payload.content payload.sequence message.chainIndex
            message.verified = verifySignature payload.publicKey checked payload.signature ∧
            (carried = ciphertext → message.chainIndex = sent.chain.index →
              payload.publicKey = sender.identity.publicKey.bytes ∧ payload.signature = signature ∧
                checked = signed) ∧
            (payload.content ≠ content ∨ payload.sequence ≠ sent.sequence ∨ message.chainIndex ≠ sent.chain.index →
              checked ≠ signed) := by
  refine ⟨fun _ _ _ _ _ _ => signingMessage_eq_iff, ?_⟩
  intro sender sent now content entropy outbound sender' entropy' hsent hfollows hsend signed
  obtain ⟨signature, ciphertext, -, hsign, hciphertext, hframe, -⟩ := Seat.exists_sealed_of_send hsent hsend
  refine ⟨ciphertext, signature, hsign, hframe, ?_⟩
  intro receiver received bytes message receiver' hreceived hfollows' hbase hreceive
  have h := receiver.receives bytes
  rw [hreceive] at h
  obtain ⟨chat, carried, hit, hchat, decoded, found, hmessage, -⟩ := h.exists_hit
  obtain rfl := Option.some.inj (hreceived.symm.trans hchat)
  obtain ⟨⟨-, hopens⟩, -⟩ := (search?_eq_some_iff hfollows').1 found
  have hindex : message.chainIndex = hit.index := congrArg OpenedMessage.chainIndex hmessage
  refine ⟨carried, hit.payload, decoded, hindex ▸ hopens, congrArg OpenedMessage.content hmessage,
    congrArg OpenedMessage.sequence hmessage, ?_, ?_, ?_⟩
  · rw [hindex]
    exact congrArg OpenedMessage.verified hmessage
  · rintro rfl hplace
    rw [hbase, ← hindex, hplace] at hopens
    have hfits := (ServerFrame.ciphertext_of_decode decoded).1
    rw [eq_payload_of_opens hfollows hfits hciphertext hopens, hplace]
    exact ⟨rfl, rfl, rfl⟩
  · intro altered hsame
    obtain ⟨hcontent, hsequence, hplace⟩ := signingMessage_eq_iff.1 hsame
    rcases altered with altered | altered | altered
    · exact altered hcontent
    · exact altered hsequence
    · exact altered hplace

/-- Two sessions at the start of a chat: one of them opens what the other one sent, and then another content that was
sealed with the same signature in its place. -/
theorem signatures_bind_altered :
    let key : Key := ⟨List.replicate 32 0, rfl⟩
    let chat := Chat.start ⟨⟨"room"⟩, ⟨key⟩, ⟨key⟩⟩ none
    let sender := { Session.new ⟨{ username := "ann" }, {}⟩ (Identity.ofSeed key) with chat := some chat }
    let receiver := { Session.new ⟨{}, { searchAhead := 1 }⟩ ⟨none, key⟩ with chat := some chat }
    let entropy : Entropy := ⟨UInt8.ofNat, 0⟩
    let signed := signingMessage "hello" 0 0
    let signature := Ed25519.sign key signed
    let ciphertext (content : String) :=
      chat.chain.next.1.sealWith (entropy.peek MessageKey.nonceSize) (sender.payload chat 7 content signature).encode
    let passedOn (content : String) := ServerFrame.messageReceived chat.room (ciphertext content) 9 "id"
    (∃ outbound sender' entropy', (Seat.send 7 "hello").run ⟨sender, entropy⟩ = .ok outbound ⟨sender', entropy'⟩) ∧
      (∃ message receiver', receiver.receive (passedOn "hello").encode = (some (.messageOpened message), receiver') ∧
        message.verified = verifySignature sender.identity.publicKey.bytes signed signature) ∧
      ∃ message receiver', receiver.receive (passedOn "hallo").encode = (some (.messageOpened message), receiver') ∧
        ∃ checked, message.verified = verifySignature sender.identity.publicKey.bytes checked signature ∧
          checked ≠ signed := by
  intro key chat sender receiver entropy signed signature ciphertext passedOn
  have hchat : receiver.chat = some chat := rfl
  have hfollows : chat.chain.Follows chat.base := rfl
  have hsign : sender.identity.sign signed = .ok signature := rfl
  have hsend : (Seat.send 7 "hello").run ⟨sender, entropy⟩ = .ok _ ⟨_, _⟩ :=
    Seat.send_eq_ok_iff.2 ⟨chat, signature, rfl, hsign, rfl, rfl⟩
  have hopens (content : String) (hcontent : Wire.Fits (Utf8.encode content)) :
      Opens chat.base (ciphertext content) 0 (sender.payload chat 7 content signature) :=
    Session.opens_payload hfollows (Session.payload_fits chat 7 (by decide) hcontent hsign) entropy
  have hreceive (content : String) (hcontent : Wire.Fits (Utf8.encode content))
      (hlimit : (passedOn content).encode.length ≤ receiver.maxInbound.toNat) :
      receiver.receive (passedOn content).encode =
        (some (.messageOpened (receiver.opened ⟨0, sender.payload chat 7 content signature⟩ 9 "id")),
          { receiver with chat := some (chat.moved 0) }) := by
    rw [Session.receive_opens hchat hfollows (hopens content hcontent)
      (fun j hj hne => absurd (UInt64.toNat_inj.1 (Nat.lt_one_iff.1 hj.2)) hne) hlimit]
    exact if_pos (by decide)
  have eq_of_decode {content : String} {room : RoomId} {carried : Bytes} {timestamp : Int64} {messageId : String}
      (hlimit : (passedOn content).encode.length ≤ receiver.maxInbound.toNat)
      (h : ServerFrame.decode (passedOn content).encode = .ok (.messageReceived room carried timestamp messageId)) :
      ciphertext content = carried := by
    have hfits := ServerFrame.fits_of_encode (Nat.lt_of_le_of_lt hlimit receiver.maxInbound.toNat_lt)
    rw [ServerFrame.decode_encode hfits] at h
    exact (ServerFrame.messageReceived.inj (Except.ok.inj h)).2.1
  have hlimit : (passedOn "hello").encode.length ≤ receiver.maxInbound.toNat := by decide +kernel
  have hlimit' : (passedOn "hallo").encode.length ≤ receiver.maxInbound.toNat := by decide +kernel
  obtain ⟨sent, signature', hsign', hframe, hall⟩ :=
    signatures_bind.2 sender chat 7 "hello" entropy _ _ _ rfl hfollows hsend
  obtain rfl := ClientFrame.sendMessage_inj hframe
  obtain rfl := Except.ok.inj (hsign.symm.trans hsign')
  refine ⟨⟨_, _, _, hsend⟩, ?_, ?_⟩
  · have hhello := hreceive "hello" (by decide) hlimit
    obtain ⟨carried, payload, decoded, -, -, -, hverified, honest, -⟩ :=
      hall receiver chat _ _ _ hchat hfollows rfl hhello
    obtain ⟨hkey, hsignature, hchecked⟩ := honest (eq_of_decode hlimit decoded).symm rfl
    rw [hkey, hsignature, hchecked] at hverified
    exact ⟨_, _, hhello, hverified⟩
  · have hhallo := hreceive "hallo" (by decide) hlimit'
    obtain ⟨carried, payload, decoded, hopened, -, -, hverified, -, other⟩ :=
      hall receiver chat _ _ _ hchat hfollows rfl hhallo
    obtain rfl := eq_of_decode hlimit' decoded
    obtain rfl := hopened.unique (hopens "hallo" (by decide))
    exact ⟨_, _, hhallo, _, hverified, other (.inl (by decide))⟩

end SealedChat
