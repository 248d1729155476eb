import Mathlib.Logic.Function.Basic
import SealedChat.Proofs.Session.Deeds
import SealedChat.Session.Shared

/-!
# Calls that race

Calls on a shared session take turns: in each turn one of them does its next locked section. A section either finds
the session free and leaves it as it is, to go on later with an operation that comes to the same, or performs the
call's operation (`LockedSection`). So what a race comes to is what the operations come to when they are performed
one after the other, each in the section in which its call ended (`race_linear`).
-/

namespace SealedChat

section Enter

variable {session : Session} {seat next : Seat} {now : Int64} {code : String} {kind : ChatKind} {secrets : Secrets}
  {fault : SessionFault} {operation : Operation}

/-! ### Operations that come to the same -/

/-- Two operations come to the same, wherever and whenever they are performed. -/
def Operation.Alike (first second : Operation) : Prop :=
  ∀ (seat : Seat) (now : Int64), seat.perform now first = seat.perform now second

/-- To go on with the secrets of a code comes to the same as to start with them. -/
lemma run_withCode {rest : Secrets → Seat.Action Bytes} (idle : seat.session.isActive = false)
    (derived : Secrets.derive code = .ok secrets) : (Seat.withCode code rest).run seat = (rest secrets).run seat := by
  unfold Seat.withCode
  rw [EStateM.run_bind, Seat.Action.run_ask, Session.secretsFor_eq_ok_iff.2 ⟨idle, derived⟩]

lemma Operation.createWith_alike (derived : Secrets.derive code = .ok secrets) :
    (createWith secrets kind).Alike (create code kind) := by
  intro seat now
  cases active : seat.session.isActive with
  | true => rw [Seat.perform_of_isActive active now (by trivial), Seat.perform_of_isActive active now (by trivial)]
  | false => rw [Seat.perform, Seat.perform, Seat.create, run_withCode active derived]

lemma Operation.joinWith_alike (derived : Secrets.derive code = .ok secrets) :
    (joinWith secrets).Alike (join code) := by
  intro seat now
  cases active : seat.session.isActive with
  | true => rw [Seat.perform_of_isActive active now (by trivial), Seat.perform_of_isActive active now (by trivial)]
  | false => rw [Seat.perform, Seat.perform, Seat.join, run_withCode active derived]

lemma fault_of_enters (h : operation.Enters)
    (hperform : seat.perform now operation = (.refused fault, next)) :
    fault = .alreadyInChat ∨ fault = .key .invalidChatCode := by
  have refuses := Seat.perform_refused_iff.1 (congrArg Prod.fst hperform)
  cases refuses with
  | inChat => exact .inl rfl
  | badCode => exact .inr rfl
  | notInChat needs => exact absurd needs (Operation.not_needsChat h)
  | cannotSign => exact h.elim

lemma reply_of_enters {reply : Reply} (h : operation.Enters) (hperform : seat.perform now operation = (reply, next)) :
    (∃ bytes, reply = .frame bytes) ∨ reply = .refused .alreadyInChat ∨ reply = .refused (.key .invalidChatCode) := by
  have step := seat.step_perform now operation
  rw [hperform] at step
  cases step with
  | refused fault =>
    rcases fault_of_enters h hperform with rfl | rfl
    · exact .inr (.inl rfl)
    · exact .inr (.inr rfl)
  | entered => exact .inl ⟨_, rfl⟩
  | received | swept | left | sent => exact h.elim

end Enter

/-! ### Sections -/

/-- **What a locked section of a call does.** -/
inductive LockedSection (operation : Operation) (now : Int64) (seat : Seat) : Call × Seat → Prop
  | derived {next : Operation} (idle : seat.session.isActive = false) (alike : next.Alike operation) :
    LockedSection operation now seat (.waiting next, seat)
  | performed {reply : Reply} {next : Seat} (h : seat.perform now operation = (reply, next)) :
    LockedSection operation now seat (.done reply, next)

lemma lockedSection_enter {operation : Operation} {next : Secrets → Operation} {code : String} {now : Int64}
    {seat : Seat} (alike : ∀ secrets, Secrets.derive code = .ok secrets → (next secrets).Alike operation)
    (refused : ∀ fault, seat.session.secretsFor code = .error fault →
      seat.perform now operation = (.refused fault, seat)) :
    LockedSection operation now seat (Call.enter seat.session code next, seat) := by
  unfold Call.enter
  cases hsecrets : seat.session.secretsFor code with
  | ok secrets =>
    obtain ⟨idle, derived⟩ := Session.secretsFor_eq_ok_iff.1 hsecrets
    exact .derived idle (alike secrets derived)
  | error fault => exact .performed (refused fault hsecrets)

theorem lockedSection_step (operation : Operation) (now : Int64) (seat : Seat) :
    LockedSection operation now seat ((Call.waiting operation).step now seat) := by
  cases operation with
  | create code kind =>
    refine lockedSection_enter (fun _ derived => Operation.createWith_alike derived) fun fault hrefused => ?_
    exact Seat.perform_of_refuses (.of_secretsFor rfl hrefused) now
  | join code =>
    refine lockedSection_enter (fun _ derived => Operation.joinWith_alike derived) fun fault hrefused => ?_
    exact Seat.perform_of_refuses (.of_secretsFor rfl hrefused) now
  | createWith | joinWith | send | receive | retry | leave => exact .performed rfl

/-! ### Races -/

/-- Calls on a shared session, and the seat that they share. -/
structure Pool (ι : Type) where
  call : ι → Call
  seat : Seat

section Race

variable {ι : Type} {operation : ι → Operation} {seat : Seat} {sections : List (ι × Int64)} {pool : Pool ι}
  {order : List (ι × Deed)} {i : ι} {now : Int64} {next : Operation}

/-- **An order of the calls that explains a race.** Every call that ended stands in it once, at one of its own
sections, with its own operation and its reply; the deeds, done one after the other, lead to the seat. -/
structure Pool.Explains (operation : ι → Operation) (seat : Seat) (sections : List (ι × Int64)) (pool : Pool ι)
    (order : List (ι × Deed)) : Prop where
  placed : (order.map fun entry => (entry.1, entry.2.now)).Sublist sections
  once : (order.map (·.1)).Nodup
  own : ∀ entry ∈ order, entry.2.operation = operation entry.1
  replies : ∀ i reply, pool.call i = .done reply ↔ ∃ deed, (i, deed) ∈ order ∧ deed.reply = reply
  leads : seat.Leads (order.map (·.2)) pool.seat

lemma Pool.Explains.not_mem (h : pool.Explains operation seat sections order) (waiting : pool.call i = .waiting next)
    (deed : Deed) : (i, deed) ∉ order := by
  intro hmem
  have := (h.replies i deed.reply).2 ⟨deed, hmem, rfl⟩
  rw [waiting] at this
  cases this

variable [DecidableEq ι]

/-- The next section of a call is done. -/
def Pool.step (pool : Pool ι) (i : ι) (now : Int64) : Pool ι where
  call := Function.update pool.call i ((pool.call i).step now pool.seat).1
  seat := ((pool.call i).step now pool.seat).2

lemma Pool.step_of_waiting (waiting : pool.call i = .waiting next) (now : Int64) :
    pool.step i now = ⟨Function.update pool.call i (Call.step (.waiting next) now pool.seat).1,
      (Call.step (.waiting next) now pool.seat).2⟩ := by
  rw [step, waiting]

/-- A race: calls that have their operations ahead of them take turns, in the order of the sections. -/
inductive Pool.Race (operation : ι → Operation) (seat : Seat) : List (ι × Int64) → Pool ι → Prop
  | start : Race operation seat [] ⟨fun i => .waiting (operation i), seat⟩
  | turn {sections : List (ι × Int64)} {pool : Pool ι} (race : Race operation seat sections pool) (i : ι) (now : Int64)
    {next : Operation} (waiting : pool.call i = .waiting next) :
    Race operation seat (sections ++ [(i, now)]) (pool.step i now)

/-- A call that waits has an operation ahead of it that comes to the same as its own. -/
lemma Pool.Race.alike (race : Race operation seat sections pool) (waiting : pool.call i = .waiting next) :
    next.Alike (operation i) := by
  induction race generalizing i next with
  | start =>
    obtain rfl := Call.waiting.inj waiting
    exact fun _ _ => rfl
  | @turn sections pool race j now ahead hahead ih =>
    have hsection := lockedSection_step ahead now pool.seat
    rw [step_of_waiting hahead] at waiting
    generalize Call.step (.waiting ahead) now pool.seat = result at hsection waiting
    -- a section that only derives secrets puts an operation that comes to the same in the place of its own
    by_cases hij : i = j
    · subst hij
      have hcall : result.1 = .waiting next := (Function.update_self i _ _).symm.trans waiting
      cases hsection with
      | derived _ alike =>
        obtain rfl := Call.waiting.inj hcall
        intro seat now
        rw [alike seat now, ih hahead seat now]
      | performed _ => cases hcall
    · exact ih ((Function.update_of_ne hij _ _).symm.trans waiting)

/-- In its turn, a call either finds the session free and leaves it as it is, or performs its operation. -/
lemma Pool.Race.step_cases (race : Race operation seat sections pool) (waiting : pool.call i = .waiting next)
    (now : Int64) :
    (pool.seat.session.isActive = false ∧
      ∃ ahead, pool.step i now = ⟨Function.update pool.call i (.waiting ahead), pool.seat⟩) ∨
    ∃ reply last, pool.seat.perform now (operation i) = (reply, last) ∧
      pool.step i now = ⟨Function.update pool.call i (.done reply), last⟩ := by
  have hsection := lockedSection_step next now pool.seat
  have hstep := step_of_waiting waiting now
  generalize Call.step (.waiting next) now pool.seat = result at hsection hstep
  cases hsection with
  | derived idle _ => exact .inl ⟨idle, _, hstep⟩
  | performed h => exact .inr ⟨_, _, (race.alike waiting _ _).symm.trans h, hstep⟩

namespace Pool.Explains

/-- A turn that leaves the session as it is takes no place in the order. -/
lemma derived (h : pool.Explains operation seat sections order) (waiting : pool.call i = .waiting next) (now : Int64)
    (ahead : Operation) : Explains operation seat (sections ++ [(i, now)])
      ⟨Function.update pool.call i (.waiting ahead), pool.seat⟩ order where
  placed := h.placed.trans (List.sublist_append_left _ _)
  once := h.once
  own := h.own
  leads := h.leads
  replies j reply := by
    by_cases hji : j = i
    · subst hji
      simp only [Function.update_self]
      constructor
      · nofun
      · rintro ⟨deed, hmem, -⟩
        exact absurd hmem (h.not_mem waiting deed)
    · simp only [Function.update_of_ne hji]
      exact h.replies j reply

/-- A turn that performs the operation of a call is the place of the call. -/
lemma performed (h : pool.Explains operation seat sections order) (waiting : pool.call i = .waiting next)
    {reply : Reply} {last : Seat} (hperform : pool.seat.perform now (operation i) = (reply, last)) :
    Explains operation seat (sections ++ [(i, now)]) ⟨Function.update pool.call i (.done reply), last⟩
      (order ++ [(i, ⟨now, operation i, reply⟩)]) where
  placed := by
    rw [List.map_append]
    exact h.placed.append (List.Sublist.refl _)
  once := by
    rw [List.map_append, List.nodup_append]
    refine ⟨h.once, List.pairwise_singleton _ _, ?_⟩
    rintro j hj k hk rfl
    obtain ⟨⟨_, deed⟩, hmem, rfl⟩ := List.mem_map.1 hj
    obtain rfl := List.mem_singleton.1 hk
    exact h.not_mem waiting deed hmem
  own := by
    intro entry hentry
    rcases List.mem_append.1 hentry with hentry | hentry
    · exact h.own entry hentry
    · obtain rfl := List.mem_singleton.1 hentry
      rfl
  leads := by
    rw [List.map_append]
    exact Seat.leads_concat.2 ⟨pool.seat, h.leads, hperform⟩
  replies j reply' := by
    simp only [List.mem_append, List.mem_singleton, Prod.mk.injEq]
    by_cases hji : j = i
    · subst hji
      rw [Function.update_self, Call.done.injEq]
      constructor
      · rintro rfl
        exact ⟨_, .inr ⟨rfl, rfl⟩, rfl⟩
      · rintro ⟨deed, hmem | ⟨-, rfl⟩, rfl⟩
        · exact absurd hmem (h.not_mem waiting deed)
        · rfl
    · rw [Function.update_of_ne hji, h.replies j reply']
      constructor
      · rintro ⟨deed, hmem, hreply⟩
        exact ⟨deed, .inl hmem, hreply⟩
      · rintro ⟨deed, hmem | ⟨hj, -⟩, hreply⟩
        · exact ⟨deed, hmem, hreply⟩
        · exact absurd hj hji

end Pool.Explains

theorem Pool.Race.exists_order (race : Race operation seat sections pool) :
    ∃ order, pool.Explains operation seat sections order := by
  induction race with
  | start =>
    refine ⟨[], .slnil, List.nodup_nil, List.forall_mem_nil _, ?_, Seat.leads_nil.2 rfl⟩
    intro i reply
    constructor
    · nofun
    · rintro ⟨deed, hmem, -⟩
      cases hmem
  | @turn sections pool race i now next waiting ih =>
    obtain ⟨order, explains⟩ := ih
    rcases race.step_cases waiting now with ⟨-, ahead, hstep⟩ | ⟨reply, last, hperform, hstep⟩
    · rw [hstep]
      exact ⟨order, explains.derived waiting now ahead⟩
    · rw [hstep]
      exact ⟨_, explains.performed waiting hperform⟩

/-- **Calls that race come to what their operations come to one after the other.** There is an order that explains the
race. In it there is a call that leaves the chat between any two that enter one, and a call that would enter a chat
and does not is told that there is a chat already or that its code is none. While there is a chat, such a call
ends in its next turn and leaves everything as it is. -/
theorem race_linear (race : pool.Race operation seat sections) :
    ∃ order, pool.Explains operation seat sections order ∧
      (∀ before first between second after,
        order.map (·.2) = before ++ first :: (between ++ second :: after) → first.Entered → second.Entered →
          ∃ deed ∈ between, deed.Left) ∧
      (∀ entry ∈ order, (operation entry.1).Enters → (∃ bytes, entry.2.reply = .frame bytes) ∨
        entry.2.reply = .refused .alreadyInChat ∨ entry.2.reply = .refused (.key .invalidChatCode)) ∧
      (pool.seat.session.isActive = true → ∀ i next now, pool.call i = .waiting next → (operation i).Enters →
        pool.step i now = ⟨Function.update pool.call i (.done (.refused .alreadyInChat)), pool.seat⟩) := by
  obtain ⟨order, explains⟩ := race.exists_order
  refine ⟨order, explains, ?_, ?_, ?_⟩
  · intro before first between second after horder hfirst hsecond
    have hleads := explains.leads
    rw [horder] at hleads
    exact Seat.exists_left_of_entered hleads hfirst hsecond
  · intro entry hentry henters
    obtain ⟨-, mid, last, -, hperform⟩ := Seat.exists_perform_of_leads explains.leads (List.mem_map_of_mem hentry)
    rw [explains.own entry hentry] at hperform
    exact reply_of_enters henters hperform
  · intro active i next now waiting henters
    rcases race.step_cases waiting now with ⟨idle, -⟩ | ⟨reply, last, hperform, hstep⟩
    · rw [active] at idle
      cases idle
    · rw [Seat.perform_of_isActive active now henters] at hperform
      obtain ⟨rfl, rfl⟩ := Prod.mk.inj hperform
      exact hstep

/-- Of two calls that both find the session free and then enter a chat, the first to come back has it. -/
theorem race_linear_first_enters :
    let start : Seat := ⟨Session.new {} ⟨none, ⟨List.replicate 32 0, rfl⟩⟩, ⟨fun _ => 0, 0⟩⟩
    let operation : Bool → Operation := fun creates => if creates then .create "123456" .oneToOne else .join "123456"
    ∃ pool, Pool.Race operation start [(true, 1), (false, 2), (true, 3), (false, 4)] pool ∧
      (∃ bytes, pool.call true = .done (.frame bytes)) ∧ pool.call false = .done (.refused .alreadyInChat) := by
  intro start operation
  obtain ⟨secrets, derived⟩ : ∃ secrets, Secrets.derive "123456" = .ok secrets := Secrets.exists_derive (by decide)
  have hsecrets : start.session.secretsFor "123456" = .ok secrets :=
    Session.secretsFor_eq_ok_iff.2 ⟨rfl, derived⟩
  have hcreate : Call.step (.waiting (operation true)) 1 start = (.waiting (.createWith secrets .oneToOne), start) := by
    show (Call.enter start.session "123456" _, start) = _
    rw [Call.enter, hsecrets]
  have hjoin : Call.step (.waiting (operation false)) 2 start = (.waiting (.joinWith secrets), start) := by
    show (Call.enter start.session "123456" _, start) = _
    rw [Call.enter, hsecrets]
  -- both calls find the session free
  have race := Pool.Race.turn (.start : Pool.Race operation start _ _) true 1 rfl
  rw [Pool.step_of_waiting rfl, hcreate] at race
  have race := race.turn false 2 rfl
  rw [Pool.step_of_waiting rfl, hjoin] at race
  have race := race.turn true 3 rfl
  obtain ⟨-, -, -, -, refused⟩ := race_linear race
  have hlate := refused rfl false _ 4 rfl trivial
  refine ⟨_, race.turn false 4 rfl, ?_, ?_⟩
  · rw [hlate]
    exact ⟨_, rfl⟩
  · rw [hlate]
    rfl

end Race

end SealedChat
