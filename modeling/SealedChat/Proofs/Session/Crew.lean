import Mathlib.Data.List.Induction
import Mathlib.Data.List.Perm.Subperm
import Mathlib.Logic.Function.Basic
import SealedChat.Proofs.Session.Sent
import SealedChat.Session.RetryTask

/-!
# Retry tasks that share a session

Any number of retry tasks share a seat and take their steps in any order; between these, anything is done with the
session and to the sinks (`Crew.Leads`). What a step of a task comes to is its act (`RetryTask.Does`). A task hands
over what it took up in its sweeps, or less, in the same order (`Crew.Leads.handed_sublist`), and what it is about
to hand over is what it looked up last (`Crew.Leads.lastFound`).
-/

namespace SealedChat

/-! ### Steps of a task -/

namespace RetryTask

/-- What a step of a task comes to. -/
inductive Act where
  | swept (sweep : RetrySweep)
  /-- A message was looked up, and was found among those that wait or not. -/
  | checked (outbound : Outbound) (found : Bool)
  /-- The frame of a message was handed to the sink. -/
  | handed (outbound : Outbound)
  /-- Neither the session nor the sink was touched. -/
  | rested

/-- What a step takes up to be handed over. -/
def Act.taken : Act → List Outbound
  | .swept sweep => sweep.resend
  | _ => []

/-- What a step hands over. -/
def Act.handedOver : Act → List Outbound
  | .handed outbound => [outbound]
  | _ => []

/-- What a step makes of the sink. -/
def Act.sink (sink : Sink) : Act → Sink
  | .handed outbound => sink.push outbound.frame
  | _ => sink

/-- What the next step of a task comes to. -/
def act (task : RetryTask) (now : Int64) (session : Session) : Act :=
  match task.phase with
  | .waiting => if task.sink.closed then .rested else .swept (session.retryAt now).1
  | .checking [] => .rested
  | .checking (outbound :: _) => .checked outbound (session.isPending outbound.messageId)
  | .handing outbound _ => if task.sink.closed then .rested else .handed outbound
  | .finished => .rested

/-- What a task has still to look up or to hand over. -/
def left (task : RetryTask) : List Outbound :=
  match task.phase with
  | .checking outbound => outbound
  | .handing outbound rest => outbound :: rest
  | _ => []

/-- **What a step of a task does.** -/
inductive Does (task : RetryTask) (now : Int64) (session : Session) : Act → RetryTask → Session → Prop
  | swept {due : Nat} (phase : task.phase = .waiting) :
    Does task now session (.swept (session.retryAt now).1)
      { task with due, phase := .checking (session.retryAt now).1.resend } (session.retryAt now).2
  | found {outbound : Outbound} {rest : List Outbound} (phase : task.phase = .checking (outbound :: rest))
    (pending : session.isPending outbound.messageId = true) :
    Does task now session (.checked outbound true) { task with phase := .handing outbound rest } session
  | gone {outbound : Outbound} {rest : List Outbound} (phase : task.phase = .checking (outbound :: rest)) :
    Does task now session (.checked outbound false) { task with phase := .checking rest } session
  | handed {outbound : Outbound} {rest : List Outbound} (phase : task.phase = .handing outbound rest) :
    Does task now session (.handed outbound)
      { task with phase := .checking rest, sink := task.sink.push outbound.frame } session
  | rested {due : Nat} {phase : Phase} (ended : phase = .waiting ∨ phase = .finished) :
    Does task now session .rested { task with due, phase } session

section Does

variable {task task' : RetryTask} {time : Nat} {now : Int64} {session session' : Session} {act : Act}

lemma does_of_step (h : task.step time now session = some (task', session')) :
    task.Does now session (task.act now session) task' session' := by
  obtain ⟨period, due, phase, sink⟩ := task
  cases phase with
  | waiting =>
    by_cases early : time < due
    · simp [step, early] at h
    cases closed : sink.closed with
    | true =>
      simp only [step, early, closed, if_false, if_true, Option.some.injEq, Prod.mk.injEq] at h
      obtain ⟨rfl, rfl⟩ := h
      simp only [RetryTask.act, closed, if_true]
      exact .rested (.inr rfl)
    | false =>
      simp only [step, early, closed, if_false] at h
      obtain ⟨rfl, rfl⟩ := h
      simp only [RetryTask.act, closed]
      exact .swept rfl
  | checking outbound =>
    cases outbound with
    | nil =>
      obtain ⟨rfl, rfl⟩ := Prod.mk.inj (Option.some.inj h)
      exact .rested (.inl rfl)
    | cons outbound rest =>
      cases pending : session.isPending outbound.messageId with
      | true =>
        simp only [step, pending, if_true, Option.some.injEq, Prod.mk.injEq] at h
        obtain ⟨rfl, rfl⟩ := h
        simp only [RetryTask.act, pending]
        exact .found rfl pending
      | false =>
        simp only [step, pending] at h
        obtain ⟨rfl, rfl⟩ := h
        simp only [RetryTask.act, pending]
        exact .gone rfl
  | handing outbound rest =>
    cases closed : sink.closed with
    | true =>
      simp only [step, closed, if_true, Option.some.injEq, Prod.mk.injEq] at h
      obtain ⟨rfl, rfl⟩ := h
      simp only [RetryTask.act, closed, if_true]
      exact .rested (.inr rfl)
    | false =>
      by_cases room : sink.hasRoom = true
      · simp only [step, closed, room, if_true] at h
        obtain ⟨rfl, rfl⟩ := h
        simp only [RetryTask.act, closed]
        exact .handed rfl
      · simp [step, closed, room] at h
  | finished => cases h

/-- What is handed over and what is then left was left before or is taken up now, in this order. -/
lemma Does.sublist (h : task.Does now session act task' session') :
    (act.handedOver ++ task'.left).Sublist (task.left ++ act.taken) := by
  cases h with
  | swept phase =>
    unfold left
    rw [phase]
    exact .refl _
  | found phase _ =>
    unfold left
    rw [phase]
    exact List.sublist_append_left _ _
  | gone phase =>
    unfold left
    rw [phase]
    exact (List.sublist_cons_self _ _).trans (List.sublist_append_left _ _)
  | handed phase =>
    unfold left
    rw [phase]
    exact List.sublist_append_left _ _
  | rested ended =>
    unfold left
    rcases ended with rfl | rfl
    · exact List.nil_sublist _
    · exact List.nil_sublist _

lemma Does.sink_eq (h : task.Does now session act task' session') : task'.sink = act.sink task.sink := by
  cases h with
  | swept | found | gone | handed | rested => rfl

/-- A task is about to hand a message over when it has just found it. -/
lemma Does.of_handing {outbound : Outbound} {rest : List Outbound} (h : task.Does now session act task' session')
    (phase' : task'.phase = .handing outbound rest) :
    act = .checked outbound true ∧ outbound ∈ task.left ∧ session.isPending outbound.messageId = true := by
  cases h with
  | found phase pending =>
    obtain ⟨rfl, rfl⟩ := Phase.handing.inj phase'
    refine ⟨rfl, ?_, pending⟩
    unfold left
    rw [phase]
    exact List.mem_cons_self
  | swept | gone | handed => cases phase'
  | rested ended =>
    cases phase'
    rcases ended with ended | ended
    · cases ended
    · cases ended

lemma Does.of_swept {sweep : RetrySweep} (h : task.Does now session (.swept sweep) task' session') :
    sweep = (session.retryAt now).1 ∧ task'.left = sweep.resend := by
  cases h with
  | swept => exact ⟨rfl, rfl⟩

lemma Does.of_handed {outbound : Outbound} (h : task.Does now session (.handed outbound) task' session') :
    ∃ rest, task.phase = .handing outbound rest := by
  cases h with
  | handed phase => exact ⟨_, phase⟩

end Does

end RetryTask

/-! ### Crews -/

/-- Retry tasks, and the seat that they share. -/
structure Crew (ι : Type) where
  task : ι → RetryTask
  seat : Seat

/-- Something that happens while retry tasks are at work. -/
inductive Happening (ι : Type) where
  /-- Others than the tasks did something with the seat. -/
  | performed (deed : Deed)
  /-- A task took a step. -/
  | acted (i : ι) (now : Int64) (act : RetryTask.Act)
  /-- Others than the task changed its sink: they took frames out or put some in, or closed it. -/
  | touched (i : ι) (sink : Sink)

section Histories

variable {ι : Type}

/-- What was done with the seat, by tasks or by others. -/
def Happening.deed? : Happening ι → Option Deed
  | .performed deed => some deed
  | .acted _ now (.swept sweep) => some ⟨now, .retry, .swept sweep⟩
  | _ => none

/-- What a task had to do with in its step, by task. -/
def Happening.tagged (of : RetryTask.Act → List Outbound) : Happening ι → List (ι × Outbound)
  | .acted i _ act => (of act).map (i, ·)
  | _ => []

/-- The task that something happens to, if there is one. -/
def Happening.task? : Happening ι → Option ι
  | .performed _ => none
  | .acted i _ _ | .touched i _ => some i

/-- A task took a step. -/
def Happening.IsBy (i : ι) (happening : Happening ι) : Prop := ∃ now act, happening = .acted i now act

/-- What was done with the seat. -/
def deeds (history : List (Happening ι)) : List Deed := history.filterMap Happening.deed?

/-- What the tasks took up to be handed over. -/
def taken (history : List (Happening ι)) : List (ι × Outbound) :=
  history.flatMap (Happening.tagged RetryTask.Act.taken)

/-- What the tasks handed over. -/
def handedOver (history : List (Happening ι)) : List (ι × Outbound) :=
  history.flatMap (Happening.tagged RetryTask.Act.handedOver)

lemma deeds_append (first second : List (Happening ι)) : deeds (first ++ second) = deeds first ++ deeds second :=
  List.filterMap_append

lemma taken_append (first second : List (Happening ι)) : taken (first ++ second) = taken first ++ taken second :=
  List.flatMap_append

lemma handedOver_append (first second : List (Happening ι)) :
    handedOver (first ++ second) = handedOver first ++ handedOver second :=
  List.flatMap_append

lemma taken_cons (happening : Happening ι) (history : List (Happening ι)) :
    taken (happening :: history) = happening.tagged RetryTask.Act.taken ++ taken history :=
  List.flatMap_cons

/-- What tasks take up is sent again by the deeds. -/
lemma countP_taken_le (messageId : String) (history : List (Happening ι)) :
    (taken history).countP (·.2.messageId == messageId) ≤ (attempts messageId (deeds history)).length := by
  induction history with
  | nil => exact Nat.zero_le _
  | cons happening history ih =>
    have hhappening : (happening.tagged RetryTask.Act.taken).countP (·.2.messageId == messageId) ≤
        (attempts messageId (deeds [happening])).length := by
      cases happening with
      | performed | touched => exact Nat.zero_le _
      | acted i now act =>
        cases act with
        | checked | handed | rested => exact Nat.zero_le _
        | swept sweep =>
          rw [Happening.tagged, List.countP_map, List.countP_eq_length_filter]
          simp [deeds, Happening.deed?, attempts, Deed.attempts, Deed.resent, RetryTask.Act.taken, Function.comp_def]
    rw [taken_cons, List.countP_append, ← List.singleton_append, deeds_append]
    unfold attempts at *
    rw [List.flatMap_append, List.length_append]
    exact Nat.add_le_add hhappening ih

lemma not_isBy_of_ne {i : ι} {happening : Happening ι} (h : happening.task? ≠ some i) : ¬ happening.IsBy i := by
  rintro ⟨now, act, rfl⟩
  exact h rfl

variable [DecidableEq ι]

/-- The entries of one task. -/
def entries {α : Type} (i : ι) (tagged : List (ι × α)) : List α :=
  tagged.filterMap fun entry => if entry.1 = i then some entry.2 else none

/-- What becomes of the sink of a task. -/
def Happening.sink (i : ι) (sink : Sink) : Happening ι → Sink
  | .acted j _ act => if j = i then act.sink sink else sink
  | .touched j changed => if j = i then changed else sink
  | _ => sink

section Entries

variable {α : Type} {i j : ι}

lemma entries_append (first second : List (ι × α)) :
    entries i (first ++ second) = entries i first ++ entries i second :=
  List.filterMap_append

lemma entries_map_self (l : List α) : entries i (l.map (i, ·)) = l := by
  unfold entries
  rw [List.filterMap_map]
  simp

lemma entries_map_of_ne (h : j ≠ i) (l : List α) : entries i (l.map (j, ·)) = [] := by
  unfold entries
  rw [List.filterMap_map]
  simp [h]

lemma mem_of_mem_entries {a : α} {tagged : List (ι × α)} (h : a ∈ entries i tagged) : (i, a) ∈ tagged := by
  obtain ⟨⟨j, b⟩, hmem, heq⟩ := List.mem_filterMap.1 h
  by_cases hji : j = i
  · rw [if_pos hji] at heq
    obtain rfl := Option.some.inj heq
    rwa [← hji]
  · rw [if_neg hji] at heq
    cases heq

lemma count_entries [DecidableEq α] (a : α) (tagged : List (ι × α)) :
    (entries i tagged).count a = tagged.count (i, a) := by
  induction tagged with
  | nil => rfl
  | cons entry tagged ih =>
    obtain ⟨j, b⟩ := entry
    unfold entries at *
    rw [List.filterMap_cons, List.count_cons, ← ih]
    by_cases hji : j = i
    · simp [hji, List.count_cons]
    · simp [hji]

/-- What every task has no more of than of something else is no more in all. -/
lemma subperm_of_entries [DecidableEq α] {first second : List (ι × α)}
    (h : ∀ i, (entries i first).Sublist (entries i second)) : first.Subperm second := by
  refine List.subperm_ext_iff.2 ?_
  rintro ⟨i, a⟩ -
  rw [← count_entries, ← count_entries]
  exact (h i).count_le a

end Entries

section Elsewhere

variable {happening : Happening ι} {i : ι}

lemma entries_tagged_of_ne (of : RetryTask.Act → List Outbound) (h : happening.task? ≠ some i) :
    entries i (happening.tagged of) = [] := by
  cases happening with
  | performed | touched => rfl
  | acted j now act => exact entries_map_of_ne (fun hji => h (congrArg some hji)) _

lemma sink_of_ne (h : happening.task? ≠ some i) (sink : Sink) : happening.sink i sink = sink := by
  cases happening with
  | performed => rfl
  | acted j now act => exact if_neg fun hji => h (congrArg some hji)
  | touched j changed => exact if_neg fun hji => h (congrArg some hji)

end Elsewhere

end Histories

/-! ### Runs -/

namespace Crew

variable {ι : Type}

/-- Tasks that start at their times, each with its interval and its sink. -/
def start (seat : Seat) (period time : ι → Nat) (sink : ι → Sink) : Crew ι :=
  ⟨fun i => RetryTask.start (period i) (time i) (sink i), seat⟩

lemma left_start (seat : Seat) (period time : ι → Nat) (sink : ι → Sink) (i : ι) :
    ((start seat period time sink).task i).left = [] := by
  unfold start RetryTask.start RetryTask.left
  by_cases h : period i = 0
  · simp [h]
  · simp [h]

variable [DecidableEq ι] {crew mid next last : Crew ι} {happening : Happening ι}
  {history first second past future : List (Happening ι)}

/-- **What may happen** while tasks are at work. -/
inductive Step (crew : Crew ι) : Happening ι → Crew ι → Prop
  | performed {deed : Deed} {seat : Seat} (h : crew.seat.perform deed.now deed.operation = (deed.reply, seat)) :
    Step crew (.performed deed) { crew with seat }
  | acted {i : ι} {time : Nat} {now : Int64} {task : RetryTask} {session : Session}
    (h : (crew.task i).step time now crew.seat.session = some (task, session)) :
    Step crew (.acted i now ((crew.task i).act now crew.seat.session))
      ⟨Function.update crew.task i task, { crew.seat with session }⟩
  | touched (i : ι) (sink : Sink) :
    Step crew (.touched i sink) { crew with task := Function.update crew.task i { crew.task i with sink } }

/-- What happens one after the other leads from a crew to another one. -/
inductive Leads (crew : Crew ι) : List (Happening ι) → Crew ι → Prop
  | nil : Leads crew [] crew
  | concat {history : List (Happening ι)} {mid last : Crew ι} {happening : Happening ι}
    (run : Leads crew history mid) (step : mid.Step happening last) : Leads crew (history ++ [happening]) last

lemma leads_nil : crew.Leads [] last ↔ crew = last := by
  constructor
  · intro h
    generalize heq : ([] : List (Happening ι)) = history at h
    cases h with
    | nil => rfl
    | concat => simp at heq
  · rintro rfl
    exact .nil

lemma leads_concat :
    crew.Leads (history ++ [happening]) last ↔ ∃ mid, crew.Leads history mid ∧ mid.Step happening last := by
  constructor
  · intro h
    generalize heq : history ++ [happening] = all at h
    cases h with
    | nil => simp at heq
    | concat run step =>
      obtain ⟨rfl, hlast⟩ := List.append_inj' heq rfl
      obtain rfl := List.singleton_inj.1 hlast
      exact ⟨_, run, step⟩
  · rintro ⟨mid, run, step⟩
    exact .concat run step

lemma leads_append : crew.Leads (first ++ second) last ↔ ∃ mid, crew.Leads first mid ∧ mid.Leads second last := by
  induction second using List.reverseRecOn generalizing last with
  | nil => simp [leads_nil]
  | append_singleton second happening ih =>
    rw [← List.append_assoc, leads_concat]
    simp only [ih, leads_concat]
    constructor
    · rintro ⟨next, ⟨mid, hfirst, hsecond⟩, hstep⟩
      exact ⟨mid, hfirst, next, hsecond, hstep⟩
    · rintro ⟨mid, hfirst, next, hsecond, hstep⟩
      exact ⟨next, ⟨mid, hfirst, hsecond⟩, hstep⟩

lemma leads_split : crew.Leads (past ++ happening :: future) last ↔
    ∃ mid next, crew.Leads past mid ∧ mid.Step happening next ∧ next.Leads future last := by
  rw [List.append_cons, leads_append]
  simp only [leads_concat]
  constructor
  · rintro ⟨next, ⟨mid, hpast, hstep⟩, hfuture⟩
    exact ⟨mid, next, hpast, hstep, hfuture⟩
  · rintro ⟨mid, next, hpast, hstep, hfuture⟩
    exact ⟨next, ⟨mid, hpast, hstep⟩, hfuture⟩

/-! ### What a step does -/

lemma Step.leads_deeds (h : crew.Step happening next) : crew.seat.Leads (deeds [happening]) next.seat := by
  cases h with
  | performed h => exact Seat.leads_cons.2 ⟨_, h, Seat.leads_nil.2 rfl⟩
  | acted h =>
    have hdoes := RetryTask.does_of_step h
    generalize RetryTask.act _ _ _ = act at hdoes ⊢
    cases hdoes with
    | swept => exact Seat.leads_cons.2 ⟨_, rfl, Seat.leads_nil.2 rfl⟩
    | found | gone | handed | rested => exact Seat.leads_nil.2 rfl
  | touched => exact Seat.leads_nil.2 rfl

/-- **What a step does to one task.** -/
inductive Fares (i : ι) (crew next : Crew ι) : Happening ι → Prop
  | acted {now : Int64} {act : RetryTask.Act}
    (does : (crew.task i).Does now crew.seat.session act (next.task i) next.seat.session) :
    Fares i crew next (.acted i now act)
  | touched {sink : Sink} (same : next.task i = { crew.task i with sink }) : Fares i crew next (.touched i sink)
  | elsewhere {happening : Happening ι} (h : happening.task? ≠ some i) (same : next.task i = crew.task i) :
    Fares i crew next happening

lemma Step.fares (h : crew.Step happening next) (i : ι) : Fares i crew next happening := by
  cases h with
  | performed h => exact .elsewhere (Option.some_ne_none i).symm rfl
  | @acted j _ now task session h =>
    by_cases hji : j = i
    · subst hji
      refine .acted ?_
      dsimp only
      rw [Function.update_self]
      exact RetryTask.does_of_step h
    · exact .elsewhere (fun h => hji (Option.some.inj h)) (Function.update_of_ne (Ne.symm hji) _ _)
  | touched j sink =>
    by_cases hji : j = i
    · subst hji
      exact .touched (Function.update_self _ _ _)
    · exact .elsewhere (fun h => hji (Option.some.inj h)) (Function.update_of_ne (Ne.symm hji) _ _)

lemma Step.handed_sublist (h : crew.Step happening next) (i : ι) :
    (entries i (handedOver [happening]) ++ (next.task i).left).Sublist
      ((crew.task i).left ++ entries i (taken [happening])) := by
  unfold handedOver taken
  rw [List.flatMap_singleton, List.flatMap_singleton]
  cases h.fares i with
  | acted does =>
    rw [Happening.tagged, Happening.tagged, entries_map_self, entries_map_self]
    exact does.sublist
  | touched same =>
    rw [same]
    exact List.sublist_append_left _ _
  | elsewhere h same =>
    rw [entries_tagged_of_ne _ h, entries_tagged_of_ne _ h, same]
    exact List.sublist_append_left _ _

lemma Step.sink_eq (h : crew.Step happening next) (i : ι) :
    (next.task i).sink = happening.sink i (crew.task i).sink := by
  cases h.fares i with
  | acted does => exact does.sink_eq.trans (if_pos rfl).symm
  | touched same =>
    rw [same]
    exact (if_pos rfl).symm
  | elsewhere h same => rw [sink_of_ne h, same]

/-! ### What a run does -/

/-- The last that a task did was to look up a message that it had left to hand over, and the message was among those
that wait. -/
inductive LastFound (crew : Crew ι) (i : ι) (outbound : Outbound) : List (Happening ι) → Prop
  | intro {before after : List (Happening ι)} {now : Int64} {mid : Crew ι}
    (others : ∀ happening ∈ after, ¬ happening.IsBy i) (run : crew.Leads before mid)
    (left : outbound ∈ (mid.task i).left) (pending : mid.seat.session.isPending outbound.messageId = true) :
    LastFound crew i outbound (before ++ .acted i now (.checked outbound true) :: after)

lemma LastFound.concat {i : ι} {outbound : Outbound} (h : LastFound crew i outbound history)
    (other : ¬ happening.IsBy i) : LastFound crew i outbound (history ++ [happening]) := by
  cases h with
  | intro others run left pending =>
    rw [List.append_assoc, List.cons_append]
    refine .intro ?_ run left pending
    intro later hlater
    rcases List.mem_append.1 hlater with hlater | hlater
    · exact others later hlater
    · rw [List.mem_singleton.1 hlater]
      exact other

namespace Leads

/-- What happens does the deeds with the seat. -/
theorem leads_deeds (run : crew.Leads history last) : crew.seat.Leads (deeds history) last.seat := by
  induction run with
  | nil => exact Seat.leads_nil.2 rfl
  | concat _ step ih =>
    rw [deeds_append]
    exact Seat.leads_append.2 ⟨_, ih, step.leads_deeds⟩

/-- **A task hands over what it took up**, or less, in the same order. -/
theorem handed_sublist (run : crew.Leads history last) (i : ι) :
    (entries i (handedOver history) ++ (last.task i).left).Sublist
      ((crew.task i).left ++ entries i (taken history)) := by
  induction run with
  | nil => exact List.sublist_append_left _ _
  | @concat history mid last happening _ step ih =>
    rw [handedOver_append, taken_append, entries_append, entries_append, ← List.append_assoc]
    refine List.Sublist.trans ?_ (ih.append_right _)
    rw [List.append_assoc, List.append_assoc]
    exact (step.handed_sublist i).append_left _

theorem sink_eq (run : crew.Leads history last) (i : ι) :
    (last.task i).sink = history.foldl (fun sink happening => happening.sink i sink) (crew.task i).sink := by
  induction run with
  | nil => rfl
  | concat _ step ih =>
    rw [List.foldl_append, ← ih]
    exact step.sink_eq i

/-- **What a task is about to hand over is what it looked up last.** -/
theorem lastFound {i : ι} {outbound : Outbound} {rest : List Outbound} (run : crew.Leads history last)
    (idle : (crew.task i).left = []) (phase : (last.task i).phase = .handing outbound rest) :
    LastFound crew i outbound history := by
  induction run with
  | nil =>
    rw [RetryTask.left, phase] at idle
    cases idle
  | @concat history mid last happening run step ih =>
    -- only a step of the task itself can change what it is about to do
    cases step.fares i with
    | @acted now act does =>
      obtain ⟨rfl, hmem, pending⟩ := does.of_handing phase
      exact .intro (List.forall_mem_nil _) run hmem pending
    | touched same =>
      refine (ih ((congrArg RetryTask.phase same).symm.trans phase)).concat ?_
      rintro ⟨_, _, h⟩
      cases h
    | elsewhere h same =>
      exact (ih ((congrArg RetryTask.phase same).symm.trans phase)).concat (not_isBy_of_ne h)

end Leads

end Crew

end SealedChat
