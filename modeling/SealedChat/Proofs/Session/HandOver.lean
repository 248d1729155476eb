import SealedChat.Proofs.Session.Crew

/-!
# What retry tasks hand over

The frames of a sweep are handed over long after the session was swept, and anything may happen in between. A frame
is nevertheless handed over only as it was sent, and only if its message was among those that wait when the task
looked it up for this very frame (`Crew.Cleared`); each task keeps to the order of its sweeps, and all tasks together
hand over no more than may be sent again (`crew_hands_over`).
-/

namespace SealedChat

/-! ### Messages that wait -/

section Session

variable {session : Session} {messageId : String}

lemma Session.isPending_iff : session.isPending messageId = true ↔ withId messageId session.waiting ≠ [] := by
  unfold isPending withId
  cases hchat : session.chat with
  | none => simp [Session.waiting_of_none hchat]
  | some chat =>
    rw [Session.waiting_of_chat hchat]
    simp [Chat.waiting, PendingQueue.find?, Chat.outbound]

lemma Session.exists_chat_of_waiting {w : Waiting} (h : w ∈ session.waiting) :
    ∃ chat, session.chat = some chat ∧ w.message ∈ chat.pending.messages ∧ chat.outbound w.message = w.outbound := by
  cases hchat : session.chat with
  | none =>
    rw [Session.waiting_of_none hchat] at h
    cases h
  | some chat =>
    rw [Session.waiting_of_chat hchat] at h
    obtain ⟨message, hmessage, rfl⟩ := List.mem_map.1 h
    exact ⟨chat, rfl, hmessage, rfl⟩

/-- A message that is due and that nothing else waits beside is taken up by a sweep, and goes on waiting. -/
lemma Session.retryAt_of_due {now : Int64} {w : Waiting} (alone : session.waiting = [w])
    (due : w.message.isRetried now session.retry = true) :
    (session.retryAt now).1.resend = [w.outbound] ∧
      (session.retryAt now).2.waiting = [{ w with message := w.message.retried now }] := by
  have kept : w.message.isAbandoned now session.retry = false := by
    rw [← Bool.not_eq_true, PendingMessage.isAbandoned_iff]
    rintro ⟨-, exhausted⟩
    have := (PendingMessage.isRetried_iff.1 due).2
    omega
  obtain ⟨hresend, -, hwaiting⟩ := session.retryAt_swept now
  rw [hresend, hwaiting, alone]
  simp [due, kept, Waiting.swept]

end Session

/-! ### What is known of a frame that is handed over -/

section Histories

variable {ι : Type} {i : ι} {outbound : Outbound} {history : List (Happening ι)}

lemma mem_taken : (i, outbound) ∈ taken history ↔
    ∃ now sweep, .acted i now (.swept sweep) ∈ history ∧ outbound ∈ sweep.resend := by
  unfold taken
  rw [List.mem_flatMap]
  constructor
  · rintro ⟨happening, hmem, htagged⟩
    cases happening with
    | performed | touched => cases htagged
    | acted j now act =>
      obtain ⟨taken, htaken, heq⟩ := List.mem_map.1 htagged
      obtain ⟨rfl, rfl⟩ := Prod.mk.inj heq
      cases act with
      | swept sweep => exact ⟨now, sweep, hmem, htaken⟩
      | checked | handed | rested => cases htaken
  · rintro ⟨now, sweep, hmem, hresend⟩
    exact ⟨_, hmem, List.mem_map.2 ⟨outbound, hresend, rfl⟩⟩

lemma exists_performed_of_sent (h : outbound ∈ sent (deeds history)) :
    ∃ send, .performed send ∈ history ∧ send.reply = .sent outbound := by
  obtain ⟨send, hsend, hsent⟩ := List.mem_filterMap.1 h
  obtain ⟨happening, hmem, hdeed⟩ := List.mem_filterMap.1 hsend
  have reply := Deed.sent?_eq_some_iff.1 hsent
  cases happening with
  | performed deed =>
    obtain rfl := Option.some.inj hdeed
    exact ⟨deed, hmem, reply⟩
  | acted j now act =>
    cases act with
    | swept sweep =>
      obtain rfl := Option.some.inj hdeed
      cases reply
    | checked | handed | rested => cases hdeed
  | touched => cases hdeed

end Histories

namespace Crew

variable {ι : Type}

/-- **A message may be handed over by a task.** It was sent, and later the task found it among the messages of the
chat that wait, still the same; in between it did not come to its end, and since then the task took no step. -/
inductive Cleared (seat : Seat) (i : ι) (outbound : Outbound) : List (Happening ι) → Prop
  | intro {before between after : List (Happening ι)} {send : Deed} {now : Int64} {found : Seat} {chat : Chat}
    {message : PendingMessage} (sent : send.reply = .sent outbound)
    (leads : seat.Leads (deeds (before ++ .performed send :: between)) found) (inChat : found.session.chat = some chat)
    (pending : message ∈ chat.pending.messages) (same : chat.outbound message = outbound)
    (goesOn : ∀ deed ∈ deeds between, ¬ deed.Ends outbound.messageId)
    (last : ∀ happening ∈ after, ¬ happening.IsBy i) :
    Cleared seat i outbound (before ++ .performed send :: (between ++ .acted i now (.checked outbound true) :: after))

variable [DecidableEq ι]

/-- **How tasks hand over what they sweep.** The sinks get nothing but what is handed over and what others put in.
What is handed over is cleared, and is the same as all that is ever sent under its id; a task hands over the messages
of a sweep in the order in which they were sent; and of one message, no more than `maxRetries` frames are handed
over. -/
structure HandsOver (start : Crew ι) (maxRetries : Nat) (history : List (Happening ι)) (last : Crew ι) : Prop where
  sinks : ∀ i, (last.task i).sink = history.foldl (fun sink happening => happening.sink i sink) (start.task i).sink
  cleared : ∀ past i now outbound future, history = past ++ .acted i now (.handed outbound) :: future →
    Cleared start.seat i outbound past
  same : ∀ i outbound other, (i, outbound) ∈ handedOver history → other ∈ sent (deeds history) →
    other.messageId = outbound.messageId → other = outbound
  own : ∀ i, (entries i (handedOver history)).Sublist (entries i (taken history))
  inOrder : ∀ past i now sweep during future, history = past ++ .acted i now (.swept sweep) :: (during ++ future) →
    (∀ later again, .acted i later (.swept again) ∉ during) →
      (entries i (handedOver during)).Sublist sweep.resend ∧ sweep.resend.Sublist (sent (deeds past))
  few : ∀ messageId, (handedOver history).countP (·.2.messageId == messageId) ≤ maxRetries

namespace Leads

variable {crew last : Crew ι} {history past during future : List (Happening ι)} {i : ι} {now : Int64}
  {sweep : RetrySweep} {outbound : Outbound}

/-- A sweep takes up what was sent, in this order. -/
lemma exists_swept (run : crew.Leads (past ++ .acted i now (.swept sweep) :: future) last)
    (idle : crew.seat.session.waiting = []) :
    sweep.resend.Sublist (sent (deeds past)) ∧
      ∃ next, Leads next future last ∧ (next.task i).left = sweep.resend := by
  obtain ⟨mid, next, hpast, step, hfuture⟩ := leads_split.1 run
  cases step.fares i with
  | acted does =>
    obtain ⟨rfl, hleft⟩ := does.of_swept
    exact ⟨resend_sublist_sent hpast.leads_deeds idle now, next, hfuture, hleft⟩
  | elsewhere h => exact absurd rfl h

lemma mem_sent_of_taken (run : crew.Leads history last) (idle : crew.seat.session.waiting = [])
    (h : (i, outbound) ∈ taken history) : outbound ∈ sent (deeds history) := by
  obtain ⟨now, sweep, hswept, hresend⟩ := mem_taken.1 h
  obtain ⟨past, future, rfl⟩ := List.append_of_mem hswept
  rw [deeds_append, sent_append]
  exact List.mem_append_left _ ((run.exists_swept idle).1.subset hresend)

/-- What a task handed over or has still left is what it took up, or less. -/
lemma sublist_taken (run : crew.Leads history last) (unstarted : (crew.task i).left = []) :
    (entries i (handedOver history) ++ (last.task i).left).Sublist (entries i (taken history)) := by
  have h := run.handed_sublist i
  rwa [unstarted, List.nil_append] at h

lemma mem_taken_of_left (run : crew.Leads history last) (unstarted : (crew.task i).left = [])
    (h : outbound ∈ (last.task i).left) : (i, outbound) ∈ taken history :=
  mem_of_mem_entries ((run.sublist_taken unstarted).subset (List.mem_append_right _ h))

/-- What a task is about to hand over is cleared. -/
theorem cleared_of_handing (run : crew.Leads history last) (unstarted : (crew.task i).left = [])
    (idle : crew.seat.session.waiting = []) (distinct : ((deeds history).filterMap Deed.sentId?).Nodup)
    {rest : List Outbound} (phase : (last.task i).phase = .handing outbound rest) :
    Cleared crew.seat i outbound history := by
  obtain @⟨past, after, now, mid, others, hpast, hleft, pending⟩ := run.lastFound unstarted phase
  have hsent := hpast.mem_sent_of_taken idle (hpast.mem_taken_of_left unstarted hleft)
  obtain ⟨send, hsend, reply⟩ := exists_performed_of_sent hsent
  obtain ⟨before, between, rfl⟩ := List.append_of_mem hsend
  have hdeeds : deeds (before ++ .performed send :: between) = deeds before ++ send :: deeds between := deeds_append _ _
  have hleads := hpast.leads_deeds
  rw [deeds_append, hdeeds, List.filterMap_append] at distinct
  rw [hdeeds] at hleads
  obtain ⟨-, unsent, next, message, hbetween, -, hone, -⟩ :=
    exists_waiting_of_sent hleads idle distinct.of_append_left reply
  -- the message was found, so it goes on waiting under its id, and nothing else waits there
  rcases withId_of_leads (w := ⟨message, outbound⟩) hbetween hone unsent with hnone | ⟨message', hone', goesOn⟩
  · exact absurd hnone (Session.isPending_iff.1 pending)
  · have hmem : ⟨message', outbound⟩ ∈ withId outbound.messageId mid.seat.session.waiting := by
      rw [hone']
      exact List.mem_singleton_self _
    obtain ⟨chat, hchat, hmessage, hsame⟩ := Session.exists_chat_of_waiting (List.mem_filter.1 hmem).1
    rw [List.append_assoc, List.cons_append]
    exact .intro reply (hdeeds ▸ hleads) hchat hmessage hsame goesOn others

/-- What is handed over is cleared. -/
theorem cleared (run : crew.Leads (past ++ .acted i now (.handed outbound) :: future) last)
    (unstarted : (crew.task i).left = []) (idle : crew.seat.session.waiting = [])
    (distinct : ((deeds (past ++ .acted i now (.handed outbound) :: future)).filterMap Deed.sentId?).Nodup) :
    Cleared crew.seat i outbound past := by
  obtain ⟨mid, next, hpast, step, -⟩ := leads_split.1 run
  rw [deeds_append, List.filterMap_append] at distinct
  cases step.fares i with
  | acted does =>
    obtain ⟨rest, phase⟩ := does.of_handed
    exact hpast.cleared_of_handing unstarted idle distinct.of_append_left phase
  | elsewhere h => exact absurd rfl h

/-- Until it sweeps again, a task hands over the messages of its sweep in the order in which they were sent. -/
theorem inOrder (run : crew.Leads (past ++ .acted i now (.swept sweep) :: (during ++ future)) last)
    (idle : crew.seat.session.waiting = []) (unswept : ∀ later again, .acted i later (.swept again) ∉ during) :
    (entries i (handedOver during)).Sublist sweep.resend ∧ sweep.resend.Sublist (sent (deeds past)) := by
  obtain ⟨hsent, next, hrest, hleft⟩ := run.exists_swept idle
  obtain ⟨mid, hduring, -⟩ := leads_append.1 hrest
  have h := hduring.handed_sublist i
  have hnone : entries i (taken during) = [] := by
    rw [List.eq_nil_iff_forall_not_mem]
    intro outbound hmem
    obtain ⟨later, again, hagain, -⟩ := mem_taken.1 (mem_of_mem_entries hmem)
    exact unswept later again hagain
  rw [hleft, hnone, List.append_nil] at h
  exact ⟨(List.sublist_append_left _ _).trans h, hsent⟩

lemma own (run : crew.Leads history last) (unstarted : (crew.task i).left = []) :
    (entries i (handedOver history)).Sublist (entries i (taken history)) :=
  (List.sublist_append_left _ _).trans (run.sublist_taken unstarted)

/-- All tasks together hand over no more than they took up. -/
lemma handedOver_subperm (run : crew.Leads history last) (unstarted : ∀ i, (crew.task i).left = []) :
    (handedOver history).Subperm (taken history) :=
  subperm_of_entries fun i => run.own (unstarted i)

end Leads

/-- A step of the only task of a crew. -/
lemma step_alone (time : Nat) {task task' : RetryTask} {now : Int64} {session session' : Session} {entropy : Entropy}
    {act : RetryTask.Act} (h : task.step time now session = some (task', session'))
    (hact : task.act now session = act) :
    Step ⟨fun _ : Unit => task, ⟨session, entropy⟩⟩ (.acted () now act) ⟨fun _ => task', ⟨session', entropy⟩⟩ := by
  have step : Step ⟨fun _ : Unit => task, ⟨session, entropy⟩⟩ (.acted () now _) _ := .acted h
  rwa [Function.update_eq_const_of_subsingleton, hact] at step

end Crew

section Run

variable {ι : Type} [DecidableEq ι] {period time : ι → Nat} {sink : ι → Sink} {settings : Settings}
  {identity : Identity} {entropy : Entropy} {history : List (Happening ι)} {last : Crew ι}

/-- **Retry tasks hand over nothing but what is still due.** -/
theorem crew_hands_over
    (run : (Crew.start ⟨Session.new settings identity, entropy⟩ period time sink).Leads history last)
    (distinct : ((deeds history).filterMap Deed.sentId?).Nodup) :
    (Crew.start ⟨Session.new settings identity, entropy⟩ period time sink).HandsOver
      settings.session.maxRetries.toNat history last := by
  have unstarted (i : ι) := Crew.left_start ⟨Session.new settings identity, entropy⟩ period time sink i
  have hsubperm := run.handedOver_subperm unstarted
  refine ⟨run.sink_eq, ?_, ?_, fun i => run.own (unstarted i), ?_, ?_⟩
  · rintro past i now outbound future rfl
    exact run.cleared (unstarted i) rfl distinct
  · intro i outbound other hmem hother
    exact eq_of_mem_sent distinct (run.mem_sent_of_taken rfl (hsubperm.subset hmem)) hother
  · rintro past i now sweep during future rfl unswept
    exact run.inOrder rfl unswept
  · intro messageId
    have htimeout : 0 ≤ (RetryPolicy.ofSettings settings.session).timeout.toInt := by
      rw [RetryPolicy.toInt_timeout]
      omega
    calc (handedOver history).countP (·.2.messageId == messageId)
        ≤ (taken history).countP (·.2.messageId == messageId) := hsubperm.countP_le _
      _ ≤ (attempts messageId (deeds history)).length := countP_taken_le messageId history
      _ ≤ settings.session.maxRetries.toNat := length_attempts_le run.leads_deeds rfl distinct htimeout messageId

/-- A message that waits is swept, looked up and handed over. -/
theorem crew_hands_over_once :
    let key : Key := ⟨List.replicate 32 0, rfl⟩
    let settings : Settings := { session := { retryTimeout := 5, maxRetries := 1 } }
    let seat : Seat := ⟨Session.new settings ⟨some key, key⟩, ⟨fun _ => 0, 0⟩⟩
    let crew : Crew Unit := .start seat (fun _ => 1) (fun _ => 0) (fun _ => ⟨1, [], false⟩)
    ∃ history last outbound, crew.Leads history last ∧ handedOver history = [((), outbound)] ∧
      (last.task ()).sink.frames = [outbound.frame] ∧ crew.HandsOver 1 history last := by
  intro key settings seat crew
  obtain ⟨bytes, entered, hentered⟩ : ∃ bytes entered,
      seat.perform 0 (.createWith ⟨⟨"room"⟩, ⟨key⟩, ⟨key⟩⟩ .oneToOne) = (.frame bytes, entered) := ⟨_, _, rfl⟩
  obtain ⟨outbound, sent, hsent⟩ : ∃ outbound sent, entered.perform 7 (.send "hello") = (.sent outbound, sent) := by
    cases hentered
    exact ⟨_, _, rfl⟩
  obtain ⟨sweep, swept, hswept⟩ : ∃ sweep swept, sent.session.retryAt 12 = (sweep, swept) := ⟨_, _, rfl⟩
  have hidle : entered.session.waiting = [] := by
    cases hentered
    rfl
  have hpolicy : sent.session.retry = ⟨5, 1⟩ := by
    rw [Seat.session_of_perform hsent, Seat.session_of_perform hentered]
    rfl
  -- the sweep takes up the message, and the message goes on waiting
  have hhandles : Handles entered.session.retry ⟨7, .send "hello", .sent outbound⟩ [] sent.session.waiting :=
    hidle ▸ handles_of_perform hsent
  obtain ⟨message, hwaiting, hlast, hretries⟩ := hhandles.exists_message_of_sent rfl
  have due : message.isRetried 12 sent.session.retry = true := by
    unfold PendingMessage.isRetried PendingMessage.isDue
    rw [hpolicy, hlast, hretries]
    rfl
  obtain ⟨hresend, hagain⟩ := Session.retryAt_of_due hwaiting due
  rw [hswept] at hresend hagain
  have pending : swept.isPending outbound.messageId = true := by
    rw [Session.isPending_iff, hagain]
    simp [withId]
  let alone (task : RetryTask) (session : Session) : Crew Unit := ⟨fun _ => task, ⟨session, sent.entropy⟩⟩
  let task (phase : Phase) (frames : List Bytes) : RetryTask := ⟨1, 1, phase, ⟨1, frames, false⟩⟩
  have hsweep : Crew.Step ⟨crew.task, sent⟩ (.acted () 12 (.swept sweep))
      (alone (task (.checking [outbound]) []) swept) := by
    refine Crew.step_alone 0 ?_ (congrArg (fun result : RetrySweep × Session => RetryTask.Act.swept result.1) hswept)
    rw [← hresend]
    exact congrArg (fun result => some (task (.checking result.1.resend) [], result.2)) hswept
  have hcheck : (alone (task (.checking [outbound]) []) swept).Step (.acted () 12 (.checked outbound true))
      (alone (task (.handing outbound []) []) swept) :=
    Crew.step_alone 0 (if_pos pending) (congrArg (RetryTask.Act.checked outbound) pending)
  have hhand : (alone (task (.handing outbound []) []) swept).Step (.acted () 12 (.handed outbound))
      (alone (task (.checking []) [outbound.frame]) swept) := Crew.step_alone 0 rfl rfl
  have hcreate : crew.Step (.performed ⟨0, _, _⟩) ⟨crew.task, entered⟩ := .performed hentered
  have hsend : Crew.Step ⟨crew.task, entered⟩ (.performed ⟨7, _, _⟩) ⟨crew.task, sent⟩ := .performed hsent
  have run := ((((Crew.Leads.nil.concat hcreate).concat hsend).concat hsweep).concat hcheck).concat hhand
  exact ⟨_, _, outbound, run, rfl, rfl, crew_hands_over run (List.pairwise_singleton _ _)⟩

end Run

end SealedChat
