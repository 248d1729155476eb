import SealedChat.Proofs.Group.Basic

/-!
# Which keys seal more than one letter

All members of a chat draw their keys from one chain, and each of them takes the key at the index where its own chain
stands. So no member uses a key twice in one stay, but members who do not know of each other's letters may use the
same key, and so may one who leaves the chat and enters it again. `keys_shared` says exactly when.
-/

namespace SealedChat

/-! ### One letter -/

namespace Sealing

variable {ι : Type}

/-- A letter was sealed under a key: its frame carries what was to be said and its index, sealed under this key. -/
def SealedUnder (s : Sealing ι) (key : MessageKey) : Prop :=
  ∃ room messageId nonce, ∃ payload : Payload,
    s.frame = (ClientFrame.sendMessage room (key.sealWith nonce payload.encode) messageId).encode ∧
      payload.content = s.content ∧ payload.chainIndex = s.index

/-- What holds of a letter: it was sealed at the first index behind those that its sender had learned of. -/
structure Sound (s : Sealing ι) : Prop where
  sealed : s.SealedUnder (s.base.keyAt s.index.toNat)
  index : s.index.toNat = indexBehind 0 s.learned

variable {s : Sealing ι}

lemma Sound.index_le_iff (h : s.Sound) {i : UInt64} : s.index ≤ i ↔ ∀ j ∈ s.learned, j < i := by
  rw [UInt64.le_iff_toNat_le, h.index, indexBehind_le_iff]
  simp only [Nat.zero_le, true_and, UInt64.lt_iff_toNat_lt]

lemma Sound.lt_index_iff (h : s.Sound) {i : UInt64} : i < s.index ↔ ∃ j ∈ s.learned, i ≤ j := by
  rw [← UInt64.not_le, h.index_le_iff]
  simp only [not_forall, UInt64.not_lt, exists_prop]

end Sealing

namespace Group

variable {ι : Type} {g : Group ι} {i : ι}

lemma sealing_sound (hmember : (g.member i).Sound) {chat : Chat} (hchat : (g.member i).seat.session.chat = some chat)
    {now : Int64} {content : String} {outbound : Outbound} {next : Seat}
    (hsend : (Seat.send now content).run (g.member i).seat = .ok outbound next) :
    (g.sealing i chat content outbound.frame).Sound := by
  have hbehind := hmember chat hchat
  obtain ⟨signature, ciphertext, message, -, hciphertext, hframe, -⟩ := Seat.exists_sealed_of_send hchat hsend
  rw [hbehind.follows.key_eq] at hciphertext
  subst hciphertext
  exact ⟨⟨_, _, _, _, hframe, rfl, rfl⟩, hbehind.index⟩

/-- Only a message that is sent is sealed, and it is one letter. -/
lemma sealed_perform (g : Group ι) (i : ι) (now : Int64) (operation : Operation) :
    g.sealed i ((g.member i).seat.perform now operation).1 operation = [] ∨
      ∃ chat content outbound next, (g.member i).seat.session.chat = some chat ∧
        (Seat.send now content).run (g.member i).seat = .ok outbound next ∧
        ((g.member i).seat.perform now operation).1 = .sent outbound ∧
        g.sealed i ((g.member i).seat.perform now operation).1 operation =
          [g.sealing i chat content outbound.frame] := by
  have step := (g.member i).seat.step_perform now operation
  generalize ((g.member i).seat.perform now operation).1 = reply at step ⊢
  generalize ((g.member i).seat.perform now operation).2 = next at step
  cases step with
  | refused | received | swept | entered | left => exact .inl rfl
  | sent hsend =>
    obtain ⟨chat, signature, hchat, -, -⟩ := Seat.send_eq_ok_iff.1 hsend
    refine .inr ⟨chat, _, _, _, hchat, hsend, rfl, ?_⟩
    rw [sealed, hchat]
    rfl

/-! ### All letters of a group -/

/-- **What holds of the letters of a group.** In the stay that a member is in, it has learned of the indices of all
letters that it sealed in it. -/
structure Sound (g : Group ι) : Prop where
  letters : ∀ s ∈ g.sealings, s.Sound
  past : ∀ s ∈ g.sealings, s.stay ≤ (g.member s.member).stay
  known : ∀ s ∈ g.sealings, s.stay = (g.member s.member).stay → s.index ∈ (g.member s.member).learned
  apart : g.sealings.Pairwise fun earlier later =>
    earlier.member = later.member → earlier.stay = later.stay → earlier.index ∈ later.learned

lemma Sound.start (seat : ι → Seat) : (Group.start seat).Sound :=
  ⟨List.forall_mem_nil _, List.forall_mem_nil _, List.forall_mem_nil _, .nil⟩

variable [DecidableEq ι] {now : Int64} {operation : Operation}

/-- What is known of a letter stays known while its sender goes on, whoever acts. -/
lemma known_act (i : ι) (now : Int64) (operation : Operation) {s : Sealing ι} (past : s.stay ≤ (g.member s.member).stay)
    (known : s.stay = (g.member s.member).stay → s.index ∈ (g.member s.member).learned) :
    s.stay ≤ ((g.act i now operation).member s.member).stay ∧
      (s.stay = ((g.act i now operation).member s.member).stay →
        s.index ∈ ((g.act i now operation).member s.member).learned) := by
  by_cases heq : s.member = i
  · rw [heq] at past known ⊢
    rw [act_member]
    rcases (g.member i).stay_after _ _ with ⟨hstay, hlearned⟩ | hlt
    · rw [hstay]
      exact ⟨past, fun h => hlearned (known h)⟩
    · exact ⟨Nat.le_of_lt (Nat.lt_of_le_of_lt past hlt), fun h => absurd h (by omega)⟩
  · rw [g.act_member_of_ne i now operation heq]
    exact ⟨past, known⟩

/-- **One operation keeps what holds of the letters.** -/
theorem Sound.act (h : g.Sound) (hmember : (g.member i).Sound) : (g.act i now operation).Sound := by
  have hold (s : Sealing ι) (hs : s ∈ g.sealings) := known_act i now operation (h.past s hs) (h.known s hs)
  rcases g.sealed_perform i now operation with hnone | ⟨chat, content, outbound, _, hchat, hsend, hreply, hone⟩
  · have hsealings : (g.act i now operation).sealings = g.sealings := by
      rw [act_sealings, hnone, List.append_nil]
    refine ⟨?_, ?_, ?_, ?_⟩ <;> rw [hsealings]
    · exact h.letters
    · exact fun s hs => (hold s hs).1
    · exact fun s hs => (hold s hs).2
    · exact h.apart
  · have hsealings : (g.act i now operation).sealings =
        g.sealings ++ [g.sealing i chat content outbound.frame] := by
      rw [act_sealings, hone]
    refine ⟨?_, ?_, ?_, ?_⟩ <;> rw [hsealings]
    · exact List.forall_mem_append.2 ⟨h.letters, List.forall_mem_singleton.2 (sealing_sound hmember hchat hsend)⟩
    · refine List.forall_mem_append.2 ⟨fun s hs => (hold s hs).1, List.forall_mem_singleton.2 ?_⟩
      show (g.member i).stay ≤ ((g.act i now operation).member i).stay
      rw [act_member, hreply]
      exact Nat.le_refl _
    · refine List.forall_mem_append.2 ⟨fun s hs => (hold s hs).2, List.forall_mem_singleton.2 fun _ => ?_⟩
      show chat.chain.index ∈ ((g.act i now operation).member i).learned
      rw [act_member, hreply, Member.after, Member.learns_sent hchat]
      exact List.mem_append_right _ (List.mem_singleton_self _)
    · refine pairwise_concat h.apart ?_
      intro s hs hi hstay
      have hknown := h.known s hs
      rw [hi] at hknown
      exact hknown hstay

theorem Run.letters (run : g.Run) : g.Sound := by
  induction run with
  | start => exact Sound.start _
  | act before i now operation _ ih => exact ih.act (before.sound i)

end Group

/-! ### Keys that seal two letters -/

/-- **Which keys seal more than one letter.** Every letter is sealed under the key at the first index behind those that
its sender had learned of in this stay, so the letters of one stay are sealed under later and later keys. No key seals
two letters exactly if of any two letters from one base the sender of one of them had learned of the other's index, or
of a later one. -/
theorem keys_shared {ι : Type} [DecidableEq ι] {g : Group ι} (run : g.Run) :
    (∀ s ∈ g.sealings, s.SealedUnder (s.base.keyAt s.index.toNat) ∧ s.index.toNat = indexBehind 0 s.learned) ∧
    (g.sealings.Pairwise fun earlier later =>
      earlier.member = later.member → earlier.stay = later.stay → earlier.index < later.index) ∧
    ((g.sealings.map fun s => (s.base, s.index)).Nodup ↔ g.sealings.Pairwise fun s t =>
      s.base = t.base → (∃ i ∈ t.learned, s.index ≤ i) ∨ ∃ i ∈ s.learned, t.index ≤ i) := by
  have h := run.letters
  refine ⟨?_, ?_, ?_⟩
  · intro s hs
    exact ⟨(h.letters s hs).sealed, (h.letters s hs).index⟩
  · refine h.apart.imp_of_mem ?_
    intro earlier later _ hlater hapart hmember hstay
    have hmem := hapart hmember hstay
    exact (h.letters later hlater).lt_index_iff.2 ⟨_, hmem, UInt64.le_refl _⟩
  · rw [List.Nodup, List.pairwise_map]
    refine List.Pairwise.iff_of_mem ?_
    intro s t hs ht
    rw [← (h.letters t ht).lt_index_iff, ← (h.letters s hs).lt_index_iff, Ne, Prod.mk.injEq, not_and]
    refine imp_congr_right fun _ => ?_
    rw [← UInt64.toNat_inj, UInt64.lt_iff_toNat_lt, UInt64.lt_iff_toNat_lt]
    omega

/-- A member that sends twice in one stay uses two keys. -/
theorem keys_shared_not :
    let key : Key := ⟨List.replicate 32 0, rfl⟩
    let ann : Seat := ⟨Session.new {} (Identity.ofSeed key), ⟨UInt8.ofNat, 0⟩⟩
    let entered := (Group.start fun _ : Unit => ann).act () 0 (.createWith ⟨⟨"room"⟩, ⟨key⟩, ⟨key⟩⟩ .oneToOne)
    let g := (entered.act () 7 (.send "hello")).act () 8 (.send "again")
    g.Run ∧ g.sealings.length = 2 ∧ (g.sealings.map fun s => (s.base, s.index)).Nodup := by
  intro key ann entered g
  have zero : entered.Run := .act (.start fun _ => rfl) () 0 _ trivial
  have one := zero.act () 7 (.send "hello") (Seat.admits_send rfl (by decide) (by decide) (by decide))
  have two := one.act () 8 (.send "again") (Seat.admits_send rfl (by decide) (by decide) (by decide))
  refine ⟨two, rfl, (keys_shared two).2.2.2 ?_⟩
  refine .cons ?_ (.cons (List.forall_mem_nil _) .nil)
  exact List.forall_mem_singleton.2 fun _ => .inl ⟨0, List.mem_singleton_self _, UInt64.le_refl _⟩

/-- Two members of one chat who do not know of each other's first letters seal them under the same key. -/
theorem key_seals_two :
    let key : Key := ⟨List.replicate 32 0, rfl⟩
    let secrets : Secrets := ⟨⟨"room"⟩, ⟨key⟩, ⟨key⟩⟩
    let seat (username : String) : Seat :=
      ⟨Session.new ⟨{ username }, {}⟩ (Identity.ofSeed key), ⟨UInt8.ofNat, 0⟩⟩
    let group := Group.start fun | Side.left => seat "ann" | .right => seat "bob"
    let joined := (group.act .left 0 (.createWith secrets .oneToOne)).act .right 0 (.joinWith secrets)
    let g := (joined.act .left 7 (.send "hello")).act .right 7 (.send "hi")
    g.Run ∧ g.sealings.map (fun s => (s.member, s.base, s.index)) = [(.left, ⟨key⟩, 0), (.right, ⟨key⟩, 0)] ∧
      ¬ (g.sealings.map fun s => (s.base, s.index)).Nodup := by
  intro key secrets seat group joined g
  have outside : group.Run := .start fun | .left | .right => rfl
  have zero := outside.act .left 0 (.createWith secrets .oneToOne) trivial
  have one := zero.act .right 0 (.joinWith secrets) trivial
  have two := one.act .left 7 (.send "hello") (Seat.admits_send rfl (by decide) (by decide) (by decide))
  have three := two.act .right 7 (.send "hi") (Seat.admits_send rfl (by decide) (by decide) (by decide))
  have hkeys : g.sealings.map (fun s => (s.base, s.index)) = [(⟨key⟩, 0), (⟨key⟩, 0)] := rfl
  refine ⟨three, rfl, ?_⟩
  rw [hkeys, List.nodup_cons]
  exact fun h => h.1 (List.mem_singleton_self _)

end SealedChat
