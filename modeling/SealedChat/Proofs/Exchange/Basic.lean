import Mathlib.Order.Interval.Finset.Nat
import SealedChat.Proofs.Session.Delivery

/-!
# Two sessions and what is between them

Two sessions of the same chat post letters to each other; a relay hands every letter to the other side, none
is lost, and those of one side arrive in their order. The sides post and are handed letters in any order
(`Exchange.Run`). A log tells what happened before what, and from it which letters crossed (`Crosses`).
-/

namespace SealedChat

/-! ### State -/

/-- One of the two sides of an exchange. -/
inductive Side where
  | left
  | right
  deriving DecidableEq

/-- The side that letters of a side go to. -/
def Side.other : Side → Side
  | .left => .right
  | .right => .left

/-- A sealed message on its way: its number among the letters of its side, the index at which it was sealed,
what was to be said, and the frame that the sender gave out. -/
structure Letter where
  number : Nat
  index : UInt64
  content : String
  frame : Bytes

/-- What happens in an exchange: a side posts its next letter, or is handed the next letter of the other
side. -/
inductive Entry where
  | posted (side : Side) (number : Nat)
  | handed (side : Side) (number : Nat)
  deriving DecidableEq

/-- Two seats, the letters on their way to each of them, how many letters each has posted and was handed,
what happened so far, and what came of the letters that were handed over. -/
structure Exchange where
  seat : Side → Seat
  mail : Side → List Letter
  posted : Side → Nat
  handed : Side → Nat
  log : List Entry
  told : List (Letter × Option Event)

/-- The frame in which the relay hands over a message that was given out in a frame. -/
def relay (time : Int64) (frame : Bytes) : Bytes :=
  match ClientFrame.decode frame with
  | .ok (.sendMessage room ciphertext messageId) =>
    (ServerFrame.messageReceived room ciphertext time messageId).encode
  | _ => []

/-- No key of a session's window but the one at the letter's index opens the letter. -/
def Letter.Alone (letter : Letter) (session : Session) : Prop :=
  ∀ chat room ciphertext messageId, session.chat = some chat →
    ClientFrame.decode letter.frame = .ok (.sendMessage room ciphertext messageId) →
    ∀ j, session.window.Covers chat.chain.index j → j ≠ letter.index → ∀ p, ¬ Opens chat.base ciphertext j p

/-! ### Runs -/

namespace Exchange

/-- Two seats before they exchange letters. -/
def start (seat : Side → Seat) : Exchange := ⟨seat, fun _ => [], fun _ => 0, fun _ => 0, [], []⟩

/-- A side posts a letter that it has sent, and takes its new seat. -/
def post (e : Exchange) (side : Side) (letter : Letter) (seat : Seat) : Exchange where
  seat := Function.update e.seat side seat
  mail := Function.update e.mail side.other (e.mail side.other ++ [letter])
  posted := Function.update e.posted side (e.posted side + 1)
  handed := e.handed
  log := e.log ++ [.posted side (e.posted side)]
  told := e.told

/-- A side is handed the first of the letters to it. -/
def hand (e : Exchange) (side : Side) (time : Int64) (letter : Letter) (rest : List Letter) : Exchange :=
  let result := (e.seat side).session.receive (relay time letter.frame)
  { seat := Function.update e.seat side { e.seat side with session := result.2 }
    mail := Function.update e.mail side rest
    posted := e.posted
    handed := Function.update e.handed side (e.handed side + 1)
    log := e.log ++ [.handed side letter.number]
    told := e.told ++ [(letter, result.1)] }

/-- **The runs of an exchange.** Sides post and are handed letters in any order. A letter is posted while the
chain has an index for it, and in a frame whose length can be written; it is handed over in a frame that is not
too large, and only the key that sealed it opens it. -/
inductive Run (seat : Side → Seat) : Exchange → Prop
  | start : Run seat (start seat)
  | post {e : Exchange} (before : Run seat e) (side : Side) (now : Int64) (content : String) {chat : Chat}
    {outbound : Outbound} {next : Seat} (hchat : (e.seat side).session.chat = some chat)
    (room : chat.chain.index ≠ greatestIndex)
    (hsend : (Seat.send now content).run (e.seat side) = .ok outbound next) (fits : Wire.Fits outbound.frame) :
    Run seat (e.post side ⟨e.posted side, chat.chain.index, content, outbound.frame⟩ next)
  | hand {e : Exchange} (before : Run seat e) (side : Side) (time : Int64) {letter : Letter} {rest : List Letter}
    (hmail : e.mail side = letter :: rest)
    (limit : (relay time letter.frame).length ≤ (e.seat side).session.maxInbound.toNat)
    (alone : letter.Alone (e.seat side).session) : Run seat (e.hand side time letter rest)

end Exchange

/-! ### Letters that cross -/

/-- One thing happened while another had not happened yet. -/
def Before (log : List Entry) (first second : Entry) : Prop := first ∈ log.takeWhile (· ≠ second)

/-- The letter `m` of a side crosses the letter `n` to this side: it was posted before that letter was handed
over, and that letter was posted before it was handed over. -/
def Crosses (log : List Entry) (side : Side) (n m : Nat) : Prop :=
  Before log (.posted side m) (.handed side n) ∧ Before log (.posted side.other n) (.handed side.other m)

instance (log : List Entry) (side : Side) (n : Nat) : DecidablePred (Crosses log side n) := fun m => by
  unfold Crosses Before
  infer_instance

/-- How many letters cross a letter to a side. There are no more letters than entries. -/
def crossings (log : List Entry) (side : Side) (n : Nat) : Nat :=
  ((Finset.range log.length).filter (Crosses log side n)).card

section Before

variable {log : List Entry} {first second : Entry}

lemma before_of_not_mem (hfirst : first ∈ log) (hsecond : second ∉ log) : Before log first second := by
  unfold Before
  rw [← List.append_nil log, List.takeWhile_append_of_pos]
  · exact List.mem_append_left _ hfirst
  · intro entry hentry
    apply decide_eq_true
    rintro rfl
    exact hsecond hentry

/-- What happens later does not change what happened before what. -/
lemma Before.append (h : Before log first second) (more : List Entry) : Before (log ++ more) first second := by
  unfold Before at *
  rw [List.takeWhile_append]
  split
  · exact List.mem_append_left _ ((List.takeWhile_prefix _).mem h)
  · exact h

lemma crossings_append (log more : List Entry) (side : Side) (n : Nat) :
    crossings log side n ≤ crossings (log ++ more) side n := by
  apply Finset.card_le_card
  intro m hm
  obtain ⟨hlt, hcross⟩ := Finset.mem_filter.1 hm
  refine Finset.mem_filter.2 ⟨?_, hcross.1.append more, hcross.2.append more⟩
  rw [Finset.mem_range, List.length_append]
  have := Finset.mem_range.1 hlt
  omega

/-- If few letters cross every letter that is handed over, few did so before. -/
lemma few_of_append {behind : Side → Nat} {more : List Entry}
    (few : ∀ side n, .handed side n ∈ log ++ more → crossings (log ++ more) side n ≤ behind side) :
    ∀ side n, .handed side n ∈ log → crossings log side n ≤ behind side := by
  intro side n hn
  have hmore := few side n (List.mem_append_left _ hn)
  exact Nat.le_trans (crossings_append log more side n) hmore

/-- Letters that cross, one for each number in a range, are counted. -/
lemma le_crossings {side : Side} {n heard posted : Nat} (hlength : posted ≤ log.length)
    (hcross : ∀ m, heard ≤ m → m < posted → Crosses log side n m) : posted - heard ≤ crossings log side n := by
  rw [← Nat.card_Ico]
  apply Finset.card_le_card
  intro m hm
  obtain ⟨hle, hlt⟩ := Finset.mem_Ico.1 hm
  exact Finset.mem_filter.2 ⟨Finset.mem_range.2 (by omega), hcross m hle hlt⟩

end Before

/-! ### Sides -/

namespace Side

@[simp] lemma other_other (side : Side) : side.other.other = side := by cases side <;> rfl

lemma other_ne (side : Side) : side.other ≠ side := by cases side <;> decide

/-- What holds of a side and of the other holds of both. -/
lemma forall_iff {P : Side → Prop} (side : Side) : (∀ s, P s) ↔ P side ∧ P side.other := by
  constructor
  · intro h
    exact ⟨h side, h side.other⟩
  · rintro ⟨h, hother⟩ s
    by_cases heq : s = side
    · rw [heq]
      exact h
    · have hs : s = side.other := by
        cases s <;> cases side <;> first | rfl | exact absurd rfl heq
      rw [hs]
      exact hother

end Side

namespace Exchange

section Projections

variable (e : Exchange) (side : Side) (seat : Seat) (time : Int64) (letter : Letter) (rest : List Letter)

@[simp] lemma post_seat : (e.post side letter seat).seat side = seat := Function.update_self ..
@[simp] lemma post_seat_other : (e.post side letter seat).seat side.other = e.seat side.other :=
  Function.update_of_ne side.other_ne ..
@[simp] lemma post_mail : (e.post side letter seat).mail side = e.mail side :=
  Function.update_of_ne side.other_ne.symm ..
@[simp] lemma post_mail_other : (e.post side letter seat).mail side.other = e.mail side.other ++ [letter] :=
  Function.update_self ..
@[simp] lemma post_posted : (e.post side letter seat).posted side = e.posted side + 1 := Function.update_self ..
@[simp] lemma post_posted_other : (e.post side letter seat).posted side.other = e.posted side.other :=
  Function.update_of_ne side.other_ne ..
@[simp] lemma post_handed : (e.post side letter seat).handed = e.handed := rfl
@[simp] lemma post_log : (e.post side letter seat).log = e.log ++ [.posted side (e.posted side)] := rfl

@[simp] lemma hand_session : ((e.hand side time letter rest).seat side).session =
    ((e.seat side).session.receive (relay time letter.frame)).2 := by
  unfold hand
  simp only [Function.update_self]
@[simp] lemma hand_seat_other : (e.hand side time letter rest).seat side.other = e.seat side.other :=
  Function.update_of_ne side.other_ne ..
@[simp] lemma hand_mail : (e.hand side time letter rest).mail side = rest := Function.update_self ..
@[simp] lemma hand_mail_other : (e.hand side time letter rest).mail side.other = e.mail side.other :=
  Function.update_of_ne side.other_ne ..
@[simp] lemma hand_posted : (e.hand side time letter rest).posted = e.posted := rfl
@[simp] lemma hand_handed : (e.hand side time letter rest).handed side = e.handed side + 1 := Function.update_self ..
@[simp] lemma hand_handed_other : (e.hand side time letter rest).handed side.other = e.handed side.other :=
  Function.update_of_ne side.other_ne ..
@[simp] lemma hand_told : (e.hand side time letter rest).told =
    e.told ++ [(letter, ((e.seat side).session.receive (relay time letter.frame)).1)] := rfl
@[simp] lemma hand_log : (e.hand side time letter rest).log = e.log ++ [.handed side letter.number] := rfl

end Projections

/-! ### The log tells what happened -/

/-- The letters are numbered in their order, and the log holds what happened to them. -/
structure Logged (e : Exchange) : Prop where
  numbers : ∀ side, (e.mail side).map (·.number) = List.range' (e.handed side) (e.mail side).length
  count : ∀ side : Side, e.posted side.other = e.handed side + (e.mail side).length
  mem_of_posted : ∀ side m, m < e.posted side → .posted side m ∈ e.log
  handed_of_mem : ∀ side m, .handed side m ∈ e.log → m < e.handed side
  posted_le : ∀ side, e.posted side ≤ e.log.length

namespace Logged

variable {e : Exchange} {side : Side} {letter : Letter} {rest : List Letter}

lemma start (seat : Side → Seat) : (Exchange.start seat).Logged where
  numbers _ := rfl
  count _ := rfl
  mem_of_posted _ _ h := absurd h (Nat.not_lt_zero _)
  handed_of_mem _ _ h := nomatch h
  posted_le _ := Nat.zero_le _

lemma number_eq (h : e.Logged) (hmail : e.mail side = letter :: rest) : letter.number = e.handed side := by
  have hnumbers := h.numbers side
  rw [hmail, List.map_cons, List.length_cons, List.range'_succ] at hnumbers
  exact (List.cons.inj hnumbers).1

lemma not_mem (h : e.Logged) {m : Nat} (hm : e.handed side ≤ m) : .handed side m ∉ e.log := by
  intro hmem
  exact Nat.not_lt.2 hm (h.handed_of_mem side m hmem)

/-- A letter is posted before any letter that its side has not been handed yet. -/
lemma before_handed (h : e.Logged) (number : Nat) {m : Nat} (hm : e.handed side ≤ m) :
    Before (e.log ++ [.posted side number]) (.posted side number) (.handed side m) := by
  apply before_of_not_mem (List.mem_append_right _ (List.mem_singleton_self _))
  intro hmem
  rcases List.mem_append.1 hmem with hmem | hmem
  · exact h.not_mem hm hmem
  · cases List.mem_singleton.1 hmem

/-- What a side has posted is posted before the next letter is handed to it. -/
lemma posted_before (h : e.Logged) (hmail : e.mail side = letter :: rest) {m : Nat} (hm : m < e.posted side) :
    Before e.log (.posted side m) (.handed side letter.number) := by
  apply before_of_not_mem (h.mem_of_posted side m hm)
  rw [h.number_eq hmail]
  exact h.not_mem (Nat.le_refl _)

lemma post (h : e.Logged) (hnumber : letter.number = e.posted side) (seat : Seat) :
    (e.post side letter seat).Logged where
  numbers := by
    refine side.forall_iff.2 ⟨?_, ?_⟩
    · simpa using h.numbers side
    · have hcount := h.count side.other
      rw [side.other_other] at hcount
      simp [h.numbers side.other, hnumber, hcount, List.range'_1_concat]
  count := by
    refine side.forall_iff.2 ⟨?_, ?_⟩
    · simpa using h.count side
    · have hcount := h.count side.other
      rw [side.other_other] at hcount
      simp [hcount, Nat.add_assoc]
  mem_of_posted := by
    refine side.forall_iff.2 ⟨?_, ?_⟩
    · intro m hm
      rw [post_posted] at hm
      rcases Nat.lt_succ_iff_lt_or_eq.1 hm with hlt | rfl
      · exact List.mem_append_left _ (h.mem_of_posted side m hlt)
      · exact List.mem_append_right _ (List.mem_singleton_self _)
    · intro m hm
      rw [post_posted_other] at hm
      exact List.mem_append_left _ (h.mem_of_posted side.other m hm)
  handed_of_mem s m hm := by
    rcases List.mem_append.1 hm with hm | hm
    · exact h.handed_of_mem s m hm
    · cases List.mem_singleton.1 hm
  posted_le := by
    refine side.forall_iff.2 ⟨?_, ?_⟩
    · simpa using h.posted_le side
    · simpa using Nat.le_succ_of_le (h.posted_le side.other)

lemma hand (h : e.Logged) (hmail : e.mail side = letter :: rest) (time : Int64) :
    (e.hand side time letter rest).Logged where
  numbers := by
    refine side.forall_iff.2 ⟨?_, ?_⟩
    · have hnumbers := h.numbers side
      rw [hmail, List.map_cons, List.length_cons, List.range'_succ] at hnumbers
      simpa using (List.cons.inj hnumbers).2
    · simpa using h.numbers side.other
  count := by
    refine side.forall_iff.2 ⟨?_, ?_⟩
    · have hcount := h.count side
      rw [hmail, List.length_cons] at hcount
      rw [hand_posted, hand_handed, hand_mail]
      omega
    · simpa using h.count side.other
  mem_of_posted s m hm := List.mem_append_left _ (h.mem_of_posted s m hm)
  handed_of_mem := by
    have hnumber := h.number_eq hmail
    refine side.forall_iff.2 ⟨?_, ?_⟩
    · intro m hm
      rw [hand_handed]
      rcases List.mem_append.1 hm with hm | hm
      · exact Nat.lt_succ_of_lt (h.handed_of_mem side m hm)
      · obtain ⟨-, rfl⟩ := Entry.handed.inj (List.mem_singleton.1 hm)
        omega
    · intro m hm
      rw [hand_handed_other]
      rcases List.mem_append.1 hm with hm | hm
      · exact h.handed_of_mem side.other m hm
      · exact absurd (Entry.handed.inj (List.mem_singleton.1 hm)).1 side.other_ne
  posted_le s := by
    rw [hand_log, List.length_append]
    exact Nat.le_add_right_of_le (h.posted_le s)

end Logged

end Exchange

end SealedChat
