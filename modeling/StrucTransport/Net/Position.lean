import StrucTransport.Lib.Framing
import StrucTransport.Net.Link

/-!
# Positions in the pipes

What was read of each pipe, in terms of the messages that were sent over it: the
first frame is the negotiation message, every other frame is that of a message.

Main results:

- Theorem {lit}`Positions.next`: the next item of a pipe is a payload of the frame
  under way, or the close after the last frame.
- Theorems {lit}`Positions.deliver_negotiation` and
  {lit}`Positions.deliver_message`: a payload that arrives either leaves what has
  arrived as it was, or completes a message.
-/

namespace StrucTransport

variable {S R : Type}

/-! ## The frames of a pipe -/

section Frames

open Channel

variable {env : Env} {token : SessionToken} {c : Channel S}

/-- Before its operations started the sender has put nothing on its pipes. -/
theorem framesOn_of_fresh (h : Sending env token c) (hfresh : c.startedOps = false)
    (out : OutPipe) : c.framesOn env out = [] := by
  simp [framesOn, negFrames, sentOver, hfresh, (h.fresh hfresh).1]

/-- After that there is the negotiation message, and what was sent over the pipe. -/
theorem framesOn_of_started (hstarted : c.startedOps = true) (out : OutPipe) :
    c.framesOn env out =
      [protoNegPayload env] :: (c.sentOver env out).map fun f => framePayloads env f.1 f.2 := by
  simp [framesOn, negFrames, hstarted]

/-- Every message has a payload. -/
theorem framesOn_ne_nil (out : OutPipe) : ∀ f ∈ c.framesOn env out, f ≠ [] := by
  intro f hf
  rw [framesOn, List.mem_append] at hf
  rcases hf with hneg | hmsg
  · rw [negFrames] at hneg
    split at hneg
    · rw [List.mem_singleton.1 hneg]
      simp
    · simp at hneg
  · rcases List.mem_map.1 hmsg with ⟨m, _, rfl⟩
    simp [framePayloads, payloads]

/-- The first frame is the negotiation message. -/
theorem framesOn_zero (h : Sending env token c) {out : OutPipe} {f : List Payload}
    (hf : (c.framesOn env out)[0]? = some f) : f = [protoNegPayload env] := by
  cases hstarted : c.startedOps with
  | false => simp [framesOn_of_fresh h hstarted] at hf
  | true =>
      rw [framesOn_of_started hstarted] at hf
      exact (Option.some.inj hf).symm

/-- Every other frame is that of a message. -/
theorem framesOn_succ (h : Sending env token c) {out : OutPipe} {f : List Payload} {d : Nat}
    (hf : (c.framesOn env out)[d + 1]? = some f) :
    ∃ m, (c.sentOver env out)[d]? = some m ∧ f = framePayloads env m.1 m.2 := by
  cases hstarted : c.startedOps with
  | false => simp [framesOn_of_fresh h hstarted] at hf
  | true =>
      rw [framesOn_of_started hstarted, List.getElem?_cons_succ, List.getElem?_map,
        Option.map_eq_some_iff] at hf
      rcases hf with ⟨m, hm, rfl⟩
      exact ⟨m, hm, rfl⟩

/-- Only the negotiation message is not one that was sent. -/
theorem length_framesOn_le (env : Env) (c : Channel S) (out : OutPipe) :
    (c.framesOn env out).length ≤ (c.sentOver env out).length + 1 := by
  rw [framesOn, List.length_append, List.length_map, negFrames]
  split <;> simp [Nat.add_comm]

/-- What a pipe carries at an index: a payload of its frames, or the close at its end. -/
theorem sentOn_getElem? (h : Sending env token c) {out : OutPipe}
    (hout : hasOutPipe env.pipes out = true) {i : Nat} {item : OutItem}
    (hitem : (c.channel.sentOn out)[i]? = some item) :
    (∃ p, item = .payload p ∧ (c.framesOn env out).flatten[i]? = some p) ∨
      (item = .gracefulClose ∧ c.channel.sendingEnded = true ∧
        i = (c.framesOn env out).flatten.length) := by
  rw [h.log out hout] at hitem
  rcases Nat.lt_or_ge i (c.framesOn env out).flatten.length with hlt | hge
  · rw [List.getElem?_append_left (by rw [List.length_map]; exact hlt), List.getElem?_map,
      Option.map_eq_some_iff] at hitem
    rcases hitem with ⟨p, hp, rfl⟩
    exact Or.inl ⟨p, rfl, hp⟩
  · rw [List.getElem?_append_right (by rw [List.length_map]; exact hge), List.length_map, closing] at hitem
    split at hitem
    · rename_i hended
      rcases List.getElem?_eq_some_iff.1 hitem with ⟨hlen, hget⟩
      rw [List.length_singleton] at hlen
      have hzero : i - (c.framesOn env out).flatten.length = 0 := by omega
      refine Or.inr ⟨?_, hended, by omega⟩
      simpa [hzero] using hget.symm
    · simp at hitem

end Frames

/-! ## The pipes of a link -/

/-- No out-pipe is linked to both receive pipes. -/
theorem linkedPipe_injective {pipes : Pipes} {slot slot' : PipeSlot} {out : OutPipe}
    (h : linkedPipe pipes slot = some out) (h' : linkedPipe pipes slot' = some out) :
    slot' = slot := by
  cases pipes <;> cases slot <;> cases slot' <;> cases out <;> simp [linkedPipe] at h h' ⊢

/-- A receive pipe is linked to an out-pipe that there is. -/
theorem hasOutPipe_of_linkedPipe {pipes : Pipes} {slot : PipeSlot} {out : OutPipe}
    (h : linkedPipe pipes slot = some out) : Channel.hasOutPipe pipes out = true := by
  cases pipes <;> cases slot <;> cases out <;>
    simp [linkedPipe, Channel.hasOutPipe, Pipes.hasBlobPipe, Pipes.hasNativeHandlePipe] at h ⊢

/-- Each message goes over a pipe that the receiver reads. -/
theorem framePipe_linked (env : Env) (msg : Option MsgOut) :
    ∃ slot, linkedPipe env.pipes slot = some (Channel.framePipe env msg) := by
  unfold Channel.framePipe Channel.outPipeFor
  cases env.pipes with
  | blobPipeOnly => exact ⟨.front, rfl⟩
  | nativeHandlePipeOnly => exact ⟨.front, rfl⟩
  | twoPipes =>
      cases (msg.bind MsgOut.nativeHandleOrNull).isSome with
      | true => exact ⟨.front, rfl⟩
      | false => exact ⟨.back, rfl⟩

namespace Net

open Channel

/-! ## Positions in the pipes -/

/-- Each pipe has read {lit}`d` frames and {lit}`k` payloads of the next one. -/
structure Positions (link : Link) (token : SessionToken) (n : Net S R) (d k : PipeSlot → Nat) :
    Prop where
  stream : ∀ slot out, linkedPipe link.sender.pipes slot = some out →
    Framing.At (n.sender.framesOn link.sender out) (n.read slot) (d slot) (k slot)
  unset : ∀ slot, n.receiver.rcvPipe slot = none → n.read slot = 0 ∧ d slot = 0 ∧ k slot = 0
  pipe : ∀ slot pipe, n.receiver.rcvPipe slot = some pipe →
    slotMode link.sender.pipes slot = some pipe.leadMsgMode ∧
      ∃ out, linkedPipe link.sender.pipes slot = some out ∧
        PipeAt link.receiver token (n.sender.sentOver link.sender out) (d slot) (k slot) pipe

variable {link : Link} {token : SessionToken} {n : Net S R} {d k : PipeSlot → Nat}

/-- Positions stay what they are when the sender goes on. -/
theorem Positions.sent (h : Positions link token n d k) (hs : Sending link.sender token n.sender)
    {c : Channel S} (hgrows : Grows n.sender c) :
    Positions link token { n with sender := c } d k where
  stream := by
    intro slot out hlinked
    rcases hgrows.framesOn hs out with ⟨more, hmore⟩
    have hat := (h.stream slot out hlinked).append more
    rw [← hmore] at hat
    exact hat
  unset := h.unset
  pipe := by
    intro slot pipe hpipe
    rcases h.pipe slot pipe hpipe with ⟨hmode, out, hlinked, hat⟩
    rcases hgrows.sentOver link.sender out with ⟨more, hmore⟩
    refine ⟨hmode, out, hlinked, ?_⟩
    rw [← hmore]
    exact hat.append more

/-- Positions stay what they are when the receive pipes do. -/
theorem Positions.of_rcvPipe (h : Positions link token n d k) {c : Channel R}
    (hpipe : ∀ slot, c.rcvPipe slot = n.receiver.rcvPipe slot) :
    Positions link token { n with receiver := c } d k where
  stream := h.stream
  unset slot hnone := h.unset slot ((hpipe slot).symm.trans hnone)
  pipe slot pipe hsome := h.pipe slot pipe ((hpipe slot).symm.trans hsome)

/-- The pipes are set up, and nothing was read of them. -/
theorem Positions.started (h : Positions link token n d k) {c : Channel R}
    (hnone : ∀ slot, n.receiver.rcvPipe slot = none)
    (hpolls : Polls link.sender.pipes n.receiver c) :
    Positions link token { n with receiver := c } d k where
  stream := h.stream
  unset slot _ := h.unset slot (hnone slot)
  pipe := by
    intro slot pipe hsome
    rcases h.unset slot (hnone slot) with ⟨_, hd, hk⟩
    have hsome' : c.rcvPipe slot = some pipe := hsome
    cases hmode : slotMode link.sender.pipes slot with
    | none =>
        rw [hpolls.others slot hmode, hnone slot] at hsome'
        cases hsome'
    | some mode =>
        rcases hpolls.pipe slot mode hmode with ⟨pipe', hpipe', hmode', hwaits⟩
        rw [hpipe', Option.some.injEq] at hsome'
        subst hsome'
        have hlinked : ∃ out, linkedPipe link.sender.pipes slot = some out := by
          cases hpipes : link.sender.pipes <;> cases slot <;>
            simp [hpipes, slotMode, linkedPipe] at hmode ⊢
        rcases hlinked with ⟨out, hout⟩
        refine ⟨by rw [hmode'], out, hout, ?_⟩
        rw [hd, hk]
        exact .negotiation hwaits

/-- One pipe was read on. -/
theorem Positions.moved (h : Positions link token n d k) {slot : PipeSlot} {out : OutPipe}
    (hlinked : linkedPipe link.sender.pipes slot = some out) {mode : LeadMsgMode}
    (hmode : slotMode link.sender.pipes slot = some mode) {c₁ c : Channel R}
    (hothers : ∀ slot', c₁.rcvPipe slot' = n.receiver.rcvPipe slot') {d' k' : Nat}
    (hat : Framing.At (n.sender.framesOn link.sender out) (n.read slot + 1) d' k')
    (hdelivers : Delivers link.receiver token (n.sender.sentOver link.sender out) c₁ slot mode d'
      k' c) :
    Positions link token (n.received slot c) (Function.update d slot d')
      (Function.update k slot k') := by
  rcases hdelivers with ⟨pipe', hreads, hmode', hpipe'⟩
  refine ⟨?_, ?_, ?_⟩
  · intro slot' out' hlinked'
    by_cases hslot : slot' = slot
    · subst hslot
      rw [hlinked, Option.some.injEq] at hlinked'
      subst hlinked'
      simpa using hat
    · simpa [Function.update_of_ne hslot] using h.stream slot' out' hlinked'
  · intro slot' hnone
    have hnone' : c.rcvPipe slot' = none := hnone
    by_cases hslot : slot' = slot
    · rw [hslot, hreads.pipe] at hnone'
      cases hnone'
    · rw [hreads.others slot' hslot, hothers] at hnone'
      simpa [Function.update_of_ne hslot] using h.unset slot' hnone'
  · intro slot' pipe hsome
    have hsome' : c.rcvPipe slot' = some pipe := hsome
    by_cases hslot : slot' = slot
    · subst hslot
      rw [hreads.pipe, Option.some.injEq] at hsome'
      subst hsome'
      refine ⟨by rw [hmode', hmode], out, hlinked, ?_⟩
      simpa using hpipe'
    · rw [hreads.others slot' hslot, hothers] at hsome'
      simpa [Function.update_of_ne hslot] using h.pipe slot' pipe hsome'

/-! ## The next item of a pipe -/

/-- The next item is a payload of the frame under way, or the close after the last frame. -/
theorem Positions.next (h : Positions link token n d k) (hs : Sending link.sender token n.sender)
    {slot : PipeSlot} {item : OutItem} (hitem : n.nextItem link slot = some item) :
    ∃ out, linkedPipe link.sender.pipes slot = some out ∧
      ((∃ p f, item = .payload p ∧ (n.sender.framesOn link.sender out)[d slot]? = some f ∧
        f[k slot]? = some p ∧
        (k slot + 1 < f.length ∧
            Framing.At (n.sender.framesOn link.sender out) (n.read slot + 1) (d slot) (k slot + 1) ∨
          k slot + 1 = f.length ∧
            Framing.At (n.sender.framesOn link.sender out) (n.read slot + 1) (d slot + 1) 0)) ∨
      (item = .gracefulClose ∧ n.sender.channel.sendingEnded = true ∧
        d slot = (n.sender.framesOn link.sender out).length ∧ k slot = 0)) := by
  rcases Option.bind_eq_some_iff.1 hitem with ⟨out, hlinked, hget⟩
  have hat := h.stream slot out hlinked
  refine ⟨out, hlinked, ?_⟩
  rcases sentOn_getElem? hs (hasOutPipe_of_linkedPipe hlinked) hget with ⟨p, hp, hframe⟩ |
    ⟨hclose, hended, hend⟩
  · rcases hat.next (framesOn_ne_nil out) hframe with ⟨f, hf, hfp, hnext⟩
    exact Or.inl ⟨p, f, hp, hf, hfp, hnext⟩
  · have hfinished := hat.finished (framesOn_ne_nil out) (Nat.le_of_eq hend.symm)
    exact Or.inr ⟨hclose, hended, hfinished⟩

/-- What was sent over the pipe was sent. -/
theorem mem_sentOver {c : Channel S} {env : Env} {out : OutPipe} {f : SentMsg}
    (h : f ∈ c.sentOver env out) : f ∈ c.sentMsgs ∧ framePipe env f.2 = out := by
  rw [sentOver, List.mem_filter] at h
  exact ⟨h.1, by simpa using h.2⟩

/-- The negotiation message arrives. -/
theorem Positions.deliver_negotiation (h : Positions link token n d k)
    (hs : Sending link.sender token n.sender) (hlive : n.receiver.channelErrCodeOrOk = none)
    {slot : PipeSlot} {pipe : MsgInPipe} (hpipe : n.receiver.rcvPipe slot = some pipe)
    {kind : ReadKind} (hkind : pipe.outstanding = some kind) (hd : d slot = 0) {p : Payload}
    (hitem : n.nextItem link slot = some (.payload p)) :
    SeqFrame n.receiver (n.receiver.onRecv link.receiver slot pipe kind (.ok p)) ∧
      (n.receiver.onRecv link.receiver slot pipe kind (.ok p)).channelErrCodeOrOk = none ∧
      Positions link token
        (n.received slot (n.receiver.onRecv link.receiver slot pipe kind (.ok p)))
        (Function.update d slot 1) (Function.update k slot 0) := by
  rcases h.pipe slot pipe hpipe with ⟨hmode, out, hlinked, hat⟩
  rcases h.next hs hitem with ⟨out', hlinked', hcase⟩
  rw [hlinked, Option.some.injEq] at hlinked'
  subst hlinked'
  rcases hcase with ⟨p', f, hp', hf, hfp, hnext⟩ | ⟨hclose, _⟩
  · cases hp'
    rw [hd] at hf hnext hat
    rw [framesOn_zero hs hf] at hfp hnext
    generalize k slot = ks at hfp hnext hat
    cases hat with
    | negotiation waits =>
        have hneg : kind = .protoNeg := Option.some.inj (hkind.symm.trans waits.outstanding)
        have hpayload : p = protoNegPayload link.sender := (Option.some.inj hfp).symm
        subst hneg hpayload
        have hreads := onRecv_protoNeg link.reliable link.capnp.symm hlive slot pipe
        refine ⟨hreads.frame, hreads.channelErr.trans hlive, ?_⟩
        have hat' := (hnext.resolve_left (by simp)).2
        exact h.moved hlinked hmode (fun _ => rfl) hat'
          ⟨_, hreads, rfl, .lead ⟨waits.incompleteMsg, rfl⟩⟩
  · cases hclose

/--
What was received completes message {lit}`m`, the one with index {lit}`d₀` on its
pipe; the chain goes on once the message was handled.
-/
structure Completes (link : Link) (token : SessionToken) (n : Net S R) (d k : PipeSlot → Nat)
    (slot : PipeSlot) (out : OutPipe) (d₀ : Nat) (m : SentMsg) (c : Channel R) : Prop where
  reading : (n.receiver.rcvPipe slot).isSome
  linked : linkedPipe link.sender.pipes slot = some out
  position : d slot = d₀ + 1
  message : (n.sender.sentOver link.sender out)[d₀]? = some m
  whole : n.read slot + 1 = ((n.sender.framesOn link.sender out).take (d₀ + 2)).flatten.length
  goesOn : ∀ c₁,
    n.receiver.rcvStructNewMsgIn link.receiver (arriving link.receiver token m) = (c₁, true) →
    (∀ slot', c₁.rcvPipe slot' = n.receiver.rcvPipe slot') →
    SeqFrame c₁ c ∧ c.channelErrCodeOrOk = c₁.channelErrCodeOrOk ∧
      Positions link token (n.received slot c) (Function.update d slot (d₀ + 2))
        (Function.update k slot 0)

/-- A payload of a message leaves what has arrived as it was, or completes the message. -/
theorem Positions.deliver_message (h : Positions link token n d k)
    (hs : Sending link.sender token n.sender) (hlive : n.receiver.channelErrCodeOrOk = none)
    {slot : PipeSlot} {pipe : MsgInPipe} (hpipe : n.receiver.rcvPipe slot = some pipe)
    {kind : ReadKind} (hkind : pipe.outstanding = some kind) {d₀ : Nat} (hd : d slot = d₀ + 1)
    {p : Payload} (hitem : n.nextItem link slot = some (.payload p)) :
    (∃ k', SeqFrame n.receiver (n.receiver.onRecv link.receiver slot pipe kind (.ok p)) ∧
      (n.receiver.onRecv link.receiver slot pipe kind (.ok p)).channelErrCodeOrOk = none ∧
      Positions link token
        (n.received slot (n.receiver.onRecv link.receiver slot pipe kind (.ok p)))
        (Function.update d slot (d₀ + 1)) (Function.update k slot k')) ∨
    (∃ out m, Completes link token n d k slot out d₀ m
      (n.receiver.onRecv link.receiver slot pipe kind (.ok p))) := by
  rcases h.pipe slot pipe hpipe with ⟨hmode, out, hlinked, hat⟩
  rcases h.next hs hitem with ⟨out', hlinked', hcase⟩
  rw [hlinked, Option.some.injEq] at hlinked'
  subst hlinked'
  rcases hcase with ⟨p', f, hp', hf, hfp, hnext⟩ | ⟨hclose, _⟩
  · cases hp'
    rw [hd] at hf hnext hat
    rcases framesOn_succ hs hf with ⟨m, hm, rfl⟩
    rcases mem_sentOver (List.mem_of_getElem? hm) with ⟨hmem, hout⟩
    have hinsists := framePipe_mode hlinked hmode hout
    have hheader := hs.headers m hmem
    rcases m with ⟨mdt, msg⟩
    simp only at hfp hnext
    have hcompletes : k slot + 1 = (framePayloads link.sender mdt msg).length →
        (∀ c₁, n.receiver.rcvStructNewMsgIn link.receiver
            (arriving link.receiver token (mdt, msg)) = (c₁, true) →
          Delivers link.receiver token (n.sender.sentOver link.sender out) c₁ slot
            pipe.leadMsgMode (d₀ + 2) 0
            (n.receiver.onRecv link.receiver slot pipe kind (.ok p))) →
        Completes link token n d k slot out d₀ (mdt, msg)
          (n.receiver.onRecv link.receiver slot pipe kind (.ok p)) := by
      intro hlast hdelivers
      have hat' := (hnext.resolve_left (fun hlt => absurd hlt.1 (by omega))).2
      refine ⟨by simp [hpipe], hlinked, hd, hm, hat'.count, ?_⟩
      intro c₁ hmsg hothers
      have hmoved := h.moved hlinked hmode hothers hat' (hdelivers c₁ hmsg)
      rcases hdelivers c₁ hmsg with ⟨pipe', hreads, _⟩
      exact ⟨hreads.frame, hreads.channelErr, hmoved⟩
    cases hheader with
    | user msg orig id id_ne_zero sendable =>
        have hdeliver := PipeAt.deliver_user link.reliable link.capnp.symm hlive slot hkind
          id_ne_zero sendable rfl hm hinsists hfp hat
        rcases hnext with ⟨hmore, hat'⟩ | ⟨hlast, hat'⟩
        · have hdelivers := hdeliver.1 hmore
          have hmoved := h.moved hlinked hmode (fun _ => rfl) hat' hdelivers
          rcases hdelivers with ⟨pipe', hreads, _⟩
          exact Or.inl ⟨_, hreads.frame, hreads.channelErr.trans hlive, hmoved⟩
        · exact Or.inr ⟨out, _, hcompletes hlast (hdeliver.2 hlast)⟩
    | internal orig text orig_ne_zero =>
        have hmode' : pipe.leadMsgMode ≠ .withHndlElseError := fun hi => hinsists hi rfl
        have hlen : (framePayloads link.sender
            ((msgMdtOut link.sender.endian token orig 0 0).initUnexpectedResponse text)
              none).length = 1 := by
          rw [framePayloads_internal]
          rfl
        have hk : k slot < 1 := by
          rw [← hlen]
          exact (List.getElem?_eq_some_iff.1 hfp).1
        exact Or.inr ⟨out, _, hcompletes (by omega) fun _ hmsg =>
          PipeAt.deliver_internal link.reliable link.capnp.symm hlive slot hkind rfl hmode' hfp hat
            hmsg⟩
  · cases hclose

end Net
end StrucTransport
