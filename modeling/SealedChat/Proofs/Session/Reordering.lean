import SealedChat.Proofs.Session.Deeds
import SealedChat.Proofs.Session.Receiving

/-!
# The order in which messages arrive

A message that is opened moves the chain behind its key and changes nothing else, so after several of them the chain
stands behind all of their keys, whichever came first (`eq_of_leads`). What is reported of a message does not depend on
where the chain stands when the message is opened. So messages that are all opened in either of two orders give the
same reports in both, and lead to the same session (`order_irrelevant`).
-/

namespace SealedChat

/-! ### Deliveries -/

/-- A frame that is received at some time, and the message that it is reported to carry. -/
structure Delivery where
  now : Int64
  frame : Bytes
  message : OpenedMessage

namespace Delivery

/-- The delivery as something that is done with a seat. -/
def deed (delivery : Delivery) : Deed :=
  ⟨delivery.now, .receive delivery.frame, .event (some (.messageOpened delivery.message))⟩

/-- The index of the key that opens the message. -/
def index (delivery : Delivery) : UInt64 := delivery.message.chainIndex

/-- The frame carries a message of the chat's room which the key at the reported index opens, and the report is the one
of what it opens to. -/
def Reports (session : Session) (chat : Chat) (delivery : Delivery) : Prop :=
  ∃ ciphertext payload,
    ServerFrame.decode delivery.frame =
      .ok (.messageReceived chat.room ciphertext delivery.message.serverTimestamp delivery.message.messageId) ∧
    Opens chat.base ciphertext delivery.index payload ∧
    delivery.message =
      session.opened ⟨delivery.index, payload⟩ delivery.message.serverTimestamp delivery.message.messageId

end Delivery

/-- Of the keys at the given indices at most one opens a sealed message. -/
def OpensOnce (base : ChainBase) (ciphertext : Bytes) (indices : List UInt64) : Prop :=
  ∀ i ∈ indices, ∀ j ∈ indices, ∀ p q, Opens base ciphertext i p → Opens base ciphertext j q → i = j

/-! ### One delivery -/

section Deliveries

variable {seat last : Seat} {chat : Chat} {delivery other : Delivery} {deliveries : List Delivery} {n : Nat}

/-- A chat whose chain stands at an index of the chain from its base. -/
def Chat.chainedAt (chat : Chat) (n : Nat) : Chat := { chat with chain := chat.base.chainAt n }

/-- The seat whose chat is the given one. -/
def Seat.inChat (seat : Seat) (chat : Chat) : Seat := { seat with session := { seat.session with chat := some chat } }

/-- A delivery takes the chain from an index behind the key that opens the message. -/
lemma Delivery.of_perform (hn : n < 2 ^ 64)
    (hperform : (seat.inChat (chat.chainedAt n)).perform delivery.now (.receive delivery.frame) =
      (.event (some (.messageOpened delivery.message)), last)) :
    delivery.Reports seat.session chat ∧ max n (delivery.index.toNat + 1) < 2 ^ 64 ∧
      last = seat.inChat (chat.chainedAt (max n (delivery.index.toNat + 1))) := by
  obtain ⟨h, hentropy⟩ := Seat.receives_of_perform hperform
  obtain ⟨chat', ciphertext, hit, hchat, decoded, found, hmessage, hafter⟩ := h.exists_hit
  obtain rfl := Option.some.inj hchat
  have hindex : (chat.chainedAt n).chain.index.toNat = n := chat.base.toNat_index_chainAt hn
  have follows : (chat.chainedAt n).chain.Follows (chat.chainedAt n).base := Chain.follows_chainAt hn
  obtain ⟨⟨hcovers, hopens⟩, -⟩ := (search?_eq_some_iff follows).1 found
  have hhit : delivery.index = hit.index := congrArg OpenedMessage.chainIndex hmessage
  have hlt := hcovers.2
  rw [← hhit] at hopens hlt
  refine ⟨⟨ciphertext, hit.payload, decoded, hopens, ?_⟩, by omega, ?_⟩
  · rw [hhit]
    exact hmessage
  · have hmoved : (chat.chainedAt n).moved hit.index = chat.chainedAt (max n (delivery.index.toNat + 1)) := by
      rw [Chat.moved, follows.advanceTo_eq, hindex, ← hhit, toNat_add_one (by omega)]
      rfl
    obtain ⟨session, entropy⟩ := last
    rw [hmoved] at hafter
    dsimp only at hafter hentropy
    rw [hafter, hentropy]
    rfl

/-- A message is delivered at the least index of the window that opens it. -/
lemma Delivery.perform_eq (seat : Seat) {ciphertext : Bytes} {index : UInt64} {payload : Payload} {timestamp : Int64}
    {messageId : String} (follows : chat.chain.Follows chat.base) (hopens : Opens chat.base ciphertext index payload)
    (hcovers : seat.session.window.Covers chat.chain.index index)
    (least : ∀ j, (∃ p, Opens chat.base ciphertext j p) → index ≤ j)
    (limit : (ServerFrame.messageReceived chat.room ciphertext timestamp messageId).encode.length ≤
      seat.session.maxInbound.toNat) (now : Int64) :
    (seat.inChat chat).perform now
        (.receive (ServerFrame.messageReceived chat.room ciphertext timestamp messageId).encode) =
      (.event (some (.messageOpened (seat.session.opened ⟨index, payload⟩ timestamp messageId))),
        seat.inChat (chat.moved index)) := by
  have hchat : (seat.inChat chat).session.chat = some chat := rfl
  have hreceive := Session.receive_opens_least hchat follows hopens hcovers (fun j _ => least j) limit
  simp only [Seat.perform, hreceive]
  rfl

/-! ### Several deliveries -/

/-- **After several deliveries the chain stands behind the keys of all messages**, and nothing else has changed. -/
theorem Delivery.eq_of_leads (hn : n < 2 ^ 64)
    (h : (seat.inChat (chat.chainedAt n)).Leads (deliveries.map deed) last) :
    (∀ delivery ∈ deliveries, delivery.Reports seat.session chat) ∧ indexBehind n (deliveries.map index) < 2 ^ 64 ∧
      last = seat.inChat (chat.chainedAt (indexBehind n (deliveries.map index))) := by
  induction deliveries generalizing n with
  | nil =>
    obtain rfl := Seat.leads_nil.1 h
    exact ⟨List.forall_mem_nil _, hn, rfl⟩
  | cons delivery deliveries ih =>
    obtain ⟨next, hperform, hnext⟩ := Seat.leads_cons.1 h
    obtain ⟨hreports, hmax, rfl⟩ := of_perform hn hperform
    rw [List.map_cons, ← indexBehind_max]
    obtain ⟨hall, hlt, hlast⟩ := ih hmax hnext
    exact ⟨List.forall_mem_cons.2 ⟨hreports, hall⟩, hlt, hlast⟩

/-- What a frame is reported to carry is one message only, if one of the keys opens it. -/
lemma Delivery.Reports.eq {session : Session} (h : delivery.Reports session chat) (hother : other.Reports session chat)
    (hframe : delivery.frame = other.frame) {indices : List UInt64} (hmem : delivery.index ∈ indices)
    (hmem' : other.index ∈ indices)
    (once : ∀ room ciphertext time messageId,
      ServerFrame.decode delivery.frame = .ok (.messageReceived room ciphertext time messageId) →
      OpensOnce chat.base ciphertext indices) :
    delivery.message = other.message := by
  obtain ⟨ciphertext, payload, decoded, hopens, hmessage⟩ := h
  obtain ⟨ciphertext', payload', decoded', hopens', hmessage'⟩ := hother
  have honce := once _ _ _ _ decoded
  rw [hframe, decoded'] at decoded
  obtain ⟨-, rfl, htime, hid⟩ := ServerFrame.messageReceived.inj (Except.ok.inj decoded)
  have hindex := honce _ hmem _ hmem' _ _ hopens hopens'
  rw [← hindex] at hopens' hmessage'
  rw [hmessage, hmessage', hopens.unique hopens', htime, hid]

end Deliveries

/-! ### Two orders -/

/-- **The order in which messages arrive does not matter.** If the same frames are received in two orders, and every one
of them is reported as an opened message in both, then each of them is reported to carry the same message in both
orders, and both lead to the same session: its chain stands behind the keys of all messages, unless it stood farther
before. Of the keys at which messages were opened, only one is assumed to open a message. -/
theorem order_irrelevant {seat last last' : Seat} (reachable : seat.Reachable) {chat : Chat}
    (hchat : seat.session.chat = some chat) {deliveries deliveries' : List Delivery}
    (same : (deliveries.map (·.frame)).Perm (deliveries'.map (·.frame)))
    (first : seat.Leads (deliveries.map Delivery.deed) last) (second : seat.Leads (deliveries'.map Delivery.deed) last')
    (once : ∀ delivery ∈ deliveries, ∀ room ciphertext time messageId,
      ServerFrame.decode delivery.frame = .ok (.messageReceived room ciphertext time messageId) →
      OpensOnce chat.base ciphertext ((deliveries ++ deliveries').map Delivery.index)) :
    (∀ delivery ∈ deliveries, ∀ delivery' ∈ deliveries', delivery.frame = delivery'.frame →
      delivery.message = delivery'.message) ∧
    last = last' ∧
    ∃ after, last.session.chat = some after ∧
      after.chain.index.toNat = indexBehind chat.chain.index.toNat (deliveries.map Delivery.index) := by
  have hfollows := reachable.follows hchat
  have hseat : seat.inChat (chat.chainedAt chat.chain.index.toNat) = seat := by
    rw [Chat.chainedAt, ← hfollows, Seat.inChat, ← hchat]
  rw [← hseat] at first second
  obtain ⟨hreports, hlt, rfl⟩ := Delivery.eq_of_leads chat.chain.index.toNat_lt first
  obtain ⟨hreports', -, rfl⟩ := Delivery.eq_of_leads chat.chain.index.toNat_lt second
  have hmessage : ∀ delivery ∈ deliveries, ∀ delivery' ∈ deliveries', delivery.frame = delivery'.frame →
      delivery.message = delivery'.message := by
    intro delivery hmem delivery' hmem' hframe
    refine (hreports _ hmem).eq (hreports' _ hmem') hframe ?_ ?_ (once _ hmem)
    · exact List.mem_map_of_mem (List.mem_append_left _ hmem)
    · exact List.mem_map_of_mem (List.mem_append_right _ hmem')
  -- every index of the one order is one of the other, since their frames are the same
  have hindices : ∀ i, i ∈ deliveries.map Delivery.index ↔ i ∈ deliveries'.map Delivery.index := by
    intro i
    constructor
    · intro hi
      obtain ⟨delivery, hmem, rfl⟩ := List.mem_map.1 hi
      obtain ⟨delivery', hmem', hframe⟩ := List.mem_map.1 (same.mem_iff.1 (List.mem_map_of_mem hmem))
      refine List.mem_map.2 ⟨delivery', hmem', ?_⟩
      rw [Delivery.index, Delivery.index, hmessage _ hmem _ hmem' hframe.symm]
    · intro hi
      obtain ⟨delivery', hmem', rfl⟩ := List.mem_map.1 hi
      obtain ⟨delivery, hmem, hframe⟩ := List.mem_map.1 (same.mem_iff.2 (List.mem_map_of_mem hmem'))
      refine List.mem_map.2 ⟨delivery, hmem, ?_⟩
      rw [Delivery.index, Delivery.index, hmessage _ hmem _ hmem' hframe]
  refine ⟨hmessage, ?_, _, rfl, chat.base.toNat_index_chainAt hlt⟩
  rw [indexBehind_congr hindices]

/-- Two messages, at index 0 and at index 1, in either order. -/
theorem order_irrelevant_two :
    let key : Key := ⟨List.replicate 32 0, rfl⟩
    let payload (index : UInt64) : Payload := ⟨"eve", "hello", 7, 0, [], [], index⟩
    let blob (index : UInt64) :=
      (ChainBase.keyAt ⟨key⟩ index.toNat).sealWith (List.replicate 24 0) (payload index).encode
    let settings : Settings := ⟨{}, { searchBehind := 2, searchAhead := 2 }⟩
    let start : Seat := ⟨Session.new settings ⟨none, key⟩, ⟨fun _ => 0, 0⟩⟩
    let seat := (start.perform 0 (.joinWith ⟨⟨"room"⟩, ⟨key⟩, ⟨key⟩⟩)).2
    let delivery (index : UInt64) : Delivery :=
      ⟨8, (ServerFrame.messageReceived ⟨"room"⟩ (blob index) 9 "id").encode,
        seat.session.opened ⟨index, payload index⟩ 9 "id"⟩
    ∃ last, seat.Leads ([delivery 0, delivery 1].map Delivery.deed) last ∧
      seat.Leads ([delivery 1, delivery 0].map Delivery.deed) last ∧
      ∃ after, last.session.chat = some after ∧ after.chain.index.toNat = 2 := by
  intro key payload blob settings start seat delivery
  have fits (index : UInt64) : (payload index).Fits := by
    have username : Wire.Fits (Utf8.encode "eve") := by decide
    have content : Wire.Fits (Utf8.encode "hello") := by decide
    have empty : Wire.Fits [] := by decide
    exact ⟨username, content, empty, empty⟩
  have opens (index : UInt64) : Opens ⟨key⟩ (blob index) index (payload index) :=
    opens_sealWith (p := payload index) rfl (fits index)
  have closed : ∀ p, ¬ Opens ⟨key⟩ (blob 1) 0 p := openAt?_eq_none_iff.1 (by decide +kernel)
  have closed' : ∀ p, ¬ Opens ⟨key⟩ (blob 0) 1 p := openAt?_eq_none_iff.1 (by decide +kernel)
  have limit : (delivery 0).frame.length ≤ seat.session.maxInbound.toNat := by decide +kernel
  have limit' : (delivery 1).frame.length ≤ seat.session.maxInbound.toNat := by decide +kernel
  have least : ∀ j, (∃ p, Opens ⟨key⟩ (blob 0) j p) → 0 ≤ j :=
    fun j _ => UInt64.le_iff_toNat_le.2 (Nat.zero_le _)
  have least' : ∀ j, (∃ p, Opens ⟨key⟩ (blob 1) j p) → 1 ≤ j := by
    rintro j ⟨p, hp⟩
    have hne : j.toNat ≠ 0 := by
      intro hzero
      obtain rfl : j = 0 := UInt64.toNat_inj.1 hzero
      exact closed p hp
    exact UInt64.le_iff_toNat_le.2 (Nat.one_le_iff_ne_zero.2 hne)
  clear_value blob
  let chat := Chat.start ⟨⟨"room"⟩, ⟨key⟩, ⟨key⟩⟩ none
  have hstart : chat.chain.Follows chat.base := rfl
  have follows (index : UInt64) : (chat.moved index).chain.Follows (chat.moved index).base :=
    (Chain.follows_ofBase _).advanceTo _
  have start0 : seat.perform 8 (.receive (delivery 0).frame) =
      (.event (some (.messageOpened (delivery 0).message)), seat.inChat (chat.moved 0)) :=
    Delivery.perform_eq seat hstart (opens 0) (by decide) least limit 8
  have start1 : seat.perform 8 (.receive (delivery 1).frame) =
      (.event (some (.messageOpened (delivery 1).message)), seat.inChat (chat.moved 1)) :=
    Delivery.perform_eq seat hstart (opens 1) (by decide) least' limit' 8
  have next1 : (seat.inChat (chat.moved 0)).perform 8 (.receive (delivery 1).frame) =
      (.event (some (.messageOpened (delivery 1).message)), seat.inChat ((chat.moved 0).moved 1)) :=
    Delivery.perform_eq seat (follows 0) (opens 1) (by decide +kernel) least' limit' 8
  have next0 : (seat.inChat (chat.moved 1)).perform 8 (.receive (delivery 0).frame) =
      (.event (some (.messageOpened (delivery 0).message)), seat.inChat ((chat.moved 1).moved 0)) :=
    Delivery.perform_eq seat (follows 1) (opens 0) (by decide +kernel) least limit 8
  have first : seat.Leads ([delivery 0, delivery 1].map Delivery.deed) (seat.inChat ((chat.moved 0).moved 1)) :=
    Seat.leads_cons.2 ⟨_, start0, Seat.leads_cons.2 ⟨_, next1, Seat.leads_nil.2 rfl⟩⟩
  have second : seat.Leads ([delivery 1, delivery 0].map Delivery.deed) (seat.inChat ((chat.moved 1).moved 0)) :=
    Seat.leads_cons.2 ⟨_, start1, Seat.leads_cons.2 ⟨_, next0, Seat.leads_nil.2 rfl⟩⟩
  have reachable : seat.Reachable := ⟨_, _, _, _, .step .start 0 (.joinWith ⟨⟨"room"⟩, ⟨key⟩, ⟨key⟩⟩) trivial⟩
  have hchat : seat.session.chat = some chat := rfl
  have carried (index : UInt64) (hlimit : (delivery index).frame.length ≤ seat.session.maxInbound.toNat) :
      ServerFrame.decode (ServerFrame.messageReceived ⟨"room"⟩ (blob index) 9 "id").encode =
        .ok (.messageReceived ⟨"room"⟩ (blob index) 9 "id") := by
    have hfits : Wire.Fits (ServerFrame.messageReceived ⟨"room"⟩ (blob index) 9 "id").encode :=
      Nat.lt_of_le_of_lt hlimit seat.session.maxInbound.toNat_lt
    exact ServerFrame.decode_encode (ServerFrame.fits_of_encode hfits)
  have same : ([delivery 0, delivery 1].map (·.frame)).Perm ([delivery 1, delivery 0].map (·.frame)) := .swap _ _ _
  have indices : ([delivery 0, delivery 1] ++ [delivery 1, delivery 0]).map Delivery.index = [0, 1, 1, 0] := rfl
  have two {i : UInt64} (hi : i ∈ [0, 1, 1, 0]) : i = 0 ∨ i = 1 := by grind
  have once : ∀ d ∈ [delivery 0, delivery 1], ∀ room ciphertext time messageId,
      ServerFrame.decode d.frame = .ok (.messageReceived room ciphertext time messageId) →
      OpensOnce chat.base ciphertext (([delivery 0, delivery 1] ++ [delivery 1, delivery 0]).map Delivery.index) := by
    intro d hd room ciphertext time messageId hdecode
    rw [indices]
    intro i hi j hj p q hp hq
    rcases List.mem_cons.1 hd with rfl | hd
    · obtain ⟨-, rfl, -, -⟩ := ServerFrame.messageReceived.inj (Except.ok.inj ((carried 0 limit).symm.trans hdecode))
      rcases two hi with rfl | rfl
      · rcases two hj with rfl | rfl
        · rfl
        · exact absurd hq (closed' q)
      · exact absurd hp (closed' p)
    · obtain rfl := List.mem_singleton.1 hd
      obtain ⟨-, rfl, -, -⟩ := ServerFrame.messageReceived.inj (Except.ok.inj ((carried 1 limit').symm.trans hdecode))
      rcases two hi with rfl | rfl
      · exact absurd hp (closed p)
      · rcases two hj with rfl | rfl
        · exact absurd hq (closed q)
        · rfl
  obtain ⟨-, hsame, after, hafter, hindex⟩ :=
    order_irrelevant reachable hchat same first second once
  refine ⟨_, first, ?_, after, hafter, hindex⟩
  rw [hsame]
  exact second

end SealedChat
