import SealedChat.Proofs.Exchange.Basic
import SealedChat.Proofs.Session.Receiving

/-!
# Groups

Any number of members enter and leave chats, send, and are handed any bytes, in any order (`Group.Run`). In the chat
that a member is in it learns of the indices at which it seals letters, and of those at which it opens some. Its chain
stands right behind the indices that it has learned of (`Member.Sound`), so it is there that it seals its next letter.
-/

namespace SealedChat

/-! ### State -/

/-- A member of a group: its seat, the indices that it has learned of in the chat that it is in, and how many chats it
has entered and left. -/
structure Member where
  seat : Seat
  learned : List UInt64
  stay : Nat

namespace Member

/-- The indices that a member has learned of, after an operation gave its reply. -/
def learns (m : Member) : Reply → List UInt64
  | .sent _ => m.learned ++ (m.seat.session.chat.map (·.chain.index)).toList
  | .event (some (.messageOpened message)) => m.learned ++ [message.chainIndex]
  | .frame _ => []
  | .event _ | .swept _ | .refused _ => m.learned

/-- A new stay begins when a chat is entered or left. -/
def turns (m : Member) : Reply → Nat
  | .frame _ => m.stay + 1
  | .sent _ | .event _ | .swept _ | .refused _ => m.stay

/-- The member after an operation gave its reply and led to another seat. -/
def after (m : Member) (reply : Reply) (seat : Seat) : Member := ⟨seat, m.learns reply, m.turns reply⟩

end Member

/-- A letter that a member of a group has sealed: who did, in which of its stays and from which base, and the indices
that the member had learned of by then. -/
structure Sealing (ι : Type) extends Letter where
  member : ι
  stay : Nat
  base : ChainBase
  learned : List UInt64

/-- The members of a group, and the letters that they have sealed. -/
structure Group (ι : Type) where
  member : ι → Member
  sealings : List (Sealing ι)

/-! ### Runs -/

namespace Group

variable {ι : Type}

/-- Members who have not done anything. -/
def start (seat : ι → Seat) : Group ι := ⟨fun i => ⟨seat i, [], 0⟩, []⟩

/-- The letter that a member in a chat has sealed, when it was to send something and gave out a frame for it. -/
def sealing (g : Group ι) (i : ι) (chat : Chat) (content : String) (frame : Bytes) : Sealing ι where
  number := g.sealings.length
  index := chat.chain.index
  content := content
  frame := frame
  member := i
  stay := (g.member i).stay
  base := chat.base
  learned := (g.member i).learned

/-- The letters that are sealed by an operation of a member that gave its reply: one or none. -/
def sealed (g : Group ι) (i : ι) : Reply → Operation → List (Sealing ι)
  | .sent outbound, .send content =>
    ((g.member i).seat.session.chat.map fun chat => g.sealing i chat content outbound.frame).toList
  | _, _ => []

variable [DecidableEq ι]

/-- A member performs an operation. -/
def act (g : Group ι) (i : ι) (now : Int64) (operation : Operation) : Group ι :=
  let result := (g.member i).seat.perform now operation
  { member := Function.update g.member i ((g.member i).after result.1 result.2)
    sealings := g.sealings ++ g.sealed i result.1 operation }

/-- **The runs of a group** whose members are outside of any chat at first. One member after the other performs an
operation; what is received may be any bytes. -/
inductive Run : Group ι → Prop
  | start {seat : ι → Seat} (idle : ∀ i, (seat i).session.chat = none) : Run (start seat)
  | act {g : Group ι} (before : Run g) (i : ι) (now : Int64) (operation : Operation)
    (admits : (g.member i).seat.Admits operation) : Run (g.act i now operation)

end Group

/-- Who is in a chat may send if there is an index for the message and its texts are not too long. -/
lemma Seat.admits_send {seat : Seat} {chat : Chat} {content : String} (hchat : seat.session.chat = some chat)
    (username : Wire.Fits (Utf8.encode seat.session.username)) (fits : Wire.Fits (Utf8.encode content))
    (room : chat.chain.index ≠ greatestIndex) : seat.Admits (.send content) := by
  refine ⟨username, fits, ?_⟩
  intro chat' hchat'
  obtain rfl := Option.some.inj (hchat.symm.trans hchat')
  exact room

/-! ### Where the chain stands -/

/-- The chain of a chat stands behind the given indices, and at the first index that does. -/
structure Chat.Behind (chat : Chat) (indices : List UInt64) : Prop where
  follows : chat.chain.Follows chat.base
  index : chat.chain.index.toNat = indexBehind 0 indices

namespace Chat.Behind

variable {chat : Chat} {indices : List UInt64}

lemma start (secrets : Secrets) (kind : Option ChatKind) : (Chat.start secrets kind).Behind [] :=
  ⟨Chain.follows_ofBase secrets.base, rfl⟩

lemma sent (h : chat.Behind indices) (room : chat.chain.index ≠ greatestIndex) (message : PendingMessage) :
    (chat.sent message).Behind (indices ++ [chat.chain.index]) := by
  refine ⟨h.follows.next room, ?_⟩
  have hnext : (chat.sent message).chain.index.toNat = chat.chain.index.toNat + 1 :=
    toNat_add_one (ne_greatestIndex_iff.1 room)
  rw [hnext, indexBehind_concat, ← h.index]
  omega

lemma moved (h : chat.Behind indices) {index : UInt64} (hne : index.toNat < 2 ^ 64 - 1) :
    (chat.moved index).Behind (indices ++ [index]) := by
  refine ⟨h.follows.advanceTo _, ?_⟩
  rw [Chat.moved, Chain.toNat_index_advanceTo, toNat_add_one hne, indexBehind_concat, ← h.index]

/-- Nothing of a chat but its chain and its base matters for this. -/
lemma congr {chat' : Chat} (h : chat.Behind indices) (hchain : chat'.chain = chat.chain)
    (hbase : chat'.base = chat.base) : chat'.Behind indices := by
  refine ⟨?_, ?_⟩
  · rw [hchain, hbase]
    exact h.follows
  · rw [hchain]
    exact h.index

end Chat.Behind

/-- **What holds of a member**: the chain of its chat stands right behind the indices that it has learned of. -/
def Member.Sound (m : Member) : Prop := ∀ chat, m.seat.session.chat = some chat → chat.Behind m.learned

namespace Member

variable {m : Member} {session : Session} {seat : Seat} {chat : Chat} {learned : List UInt64}

lemma sound_inChat (h : chat.Behind learned) (session : Session) (entropy : Entropy) (stay : Nat) :
    Sound ⟨⟨{ session with chat := some chat }, entropy⟩, learned, stay⟩ := by
  intro chat' hchat
  obtain rfl := Option.some.inj hchat
  exact h

lemma learns_sent (hchat : m.seat.session.chat = some chat) (outbound : Outbound) :
    m.learns (.sent outbound) = m.learned ++ [chat.chain.index] := by
  rw [learns, hchat]
  rfl

/-- A member keeps what it has learned of as long as its stay goes on. -/
lemma stay_after (m : Member) (reply : Reply) (seat : Seat) :
    ((m.after reply seat).stay = m.stay ∧ m.learned ⊆ (m.after reply seat).learned) ∨
      m.stay < (m.after reply seat).stay := by
  cases reply with
  | frame bytes => exact .inr (Nat.lt_succ_self _)
  | sent outbound => exact .inl ⟨rfl, List.subset_append_left _ _⟩
  | event event =>
    refine .inl ⟨rfl, ?_⟩
    rcases event with _ | event
    · exact List.Subset.refl _
    · cases event with
      | messageOpened => exact List.subset_append_left _ _
      | _ => exact List.Subset.refl _
  | swept sweep => exact .inl ⟨rfl, List.Subset.refl _⟩
  | refused fault => exact .inl ⟨rfl, List.Subset.refl _⟩

/-- A member that is handed bytes learns of the index at which it opens a letter. -/
lemma Sound.receives (h : m.Sound) {bytes : Bytes} {event : Option Event}
    (receives : m.seat.session.Receives bytes event session) (entropy : Entropy) :
    (m.after (.event event) ⟨session, entropy⟩).Sound := by
  cases receives with
  | oversized | malformed => exact h
  | read _ _ acts =>
    cases acts with
    | chatCreated | joinedChat =>
      rcases m.seat.session.named_recordKind _ _ with hsame | ⟨chat, hchat, -, hsession⟩
      · rw [hsame]
        exact h
      · rw [hsession]
        apply sound_inChat
        exact (h chat hchat).congr rfl rfl
    | opened hchat found =>
      have hbehind := h _ hchat
      obtain ⟨⟨hcovers, -⟩, -⟩ := (search?_eq_some_iff hbehind.follows).1 found
      have hlt := hcovers.2
      exact sound_inChat (hbehind.moved (by omega)) _ _ _
    | acknowledged hchat =>
      apply sound_inChat
      exact (h _ hchat).congr rfl rfl
    | error | dropped | unknown | userJoined | userLeft => exact h

lemma Sound.swept (h : m.Sound) (now : Int64) (sweep : RetrySweep) (entropy : Entropy) :
    (m.after (.swept sweep) ⟨(m.seat.session.retryAt now).2, entropy⟩).Sound := by
  unfold Session.retryAt
  cases hchat : m.seat.session.chat with
  | none => exact h
  | some chat =>
    apply sound_inChat
    exact (h chat hchat).congr rfl rfl

/-- **One operation keeps the chain of a member right behind the indices that it has learned of.** -/
theorem Sound.after (h : m.Sound) {now : Int64} {operation : Operation} {reply : Reply}
    (admits : m.seat.Admits operation) (hperform : m.seat.perform now operation = (reply, seat)) :
    (m.after reply seat).Sound := by
  have step := m.seat.step_perform now operation
  rw [hperform] at step
  cases step with
  | refused => exact h
  | received =>
    obtain ⟨receives, -⟩ := Seat.receives_of_perform hperform
    exact h.receives receives _
  | swept =>
    obtain ⟨-, hseat⟩ := Prod.mk.inj hperform
    rw [← hseat]
    exact h.swept now _ _
  | entered enters =>
    obtain ⟨secrets, kind, rfl⟩ := enters
    exact sound_inChat (.start secrets kind) _ _ _
  | left =>
    intro chat hchat
    cases hchat
  | sent hsend =>
    obtain ⟨chat, signature, hchat, -, -, rfl⟩ := Seat.send_eq_ok_iff.1 hsend
    rw [Member.after, learns_sent hchat]
    exact sound_inChat ((h chat hchat).sent (admits.2.2 chat hchat) _) _ _ _

end Member

namespace Group

variable {ι : Type} [DecidableEq ι] {g : Group ι}

section Act

variable (g : Group ι) (i : ι) (now : Int64) (operation : Operation)

@[simp] lemma act_member : (g.act i now operation).member i =
    (g.member i).after ((g.member i).seat.perform now operation).1 ((g.member i).seat.perform now operation).2 :=
  Function.update_self ..
lemma act_member_of_ne {j : ι} (h : j ≠ i) : (g.act i now operation).member j = g.member j :=
  Function.update_of_ne h ..
@[simp] lemma act_sealings : (g.act i now operation).sealings =
    g.sealings ++ g.sealed i ((g.member i).seat.perform now operation).1 operation := rfl

end Act

/-- The chain of every member stands right behind the indices that the member has learned of, in every run. -/
theorem Run.sound (run : g.Run) (i : ι) : (g.member i).Sound := by
  induction run with
  | start idle =>
    intro chat hchat
    cases (idle i).symm.trans hchat
  | @act g _ j now operation admits ih =>
    by_cases heq : i = j
    · subst heq
      rw [act_member]
      exact ih.after admits rfl
    · rw [g.act_member_of_ne j now operation heq]
      exact ih

end Group

end SealedChat
