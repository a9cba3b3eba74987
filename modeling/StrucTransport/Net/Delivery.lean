import StrucTransport.Channel.Outstanding
import StrucTransport.Net.Position
import StrucTransport.Net.Sends

/-!
# Delivery from one peer to the other

The messages that have arrived at the positions of the pipes, through the steps
of both peers.  Each message that arrives whole is offered to the resequencer of
the receiver, which therefore hands on the messages in the order they were sent.

Main results:

- Theorem {lit}`Delivering.step`: a step keeps the delivery going, unless it is
  the receipt of a graceful close.
- Theorem {lit}`end_to_end_delivery`: if nobody closes, the receiver is never hosed
  and hands on a prefix of what was sent; once the pipes are drained, all of it.
-/

namespace StrucTransport

variable {S R : Type}

/-- The body of the message is what its segments say. -/
def MsgOut.Readable (cp : Capnp) (msg : MsgOut) : Prop :=
  cp.readBody msg.segments = .ok msg.bodyWhich

namespace Net

open Channel

variable {link : Link} {token : SessionToken} {n : Net S R} {d k : PipeSlot → Nat}

/-! ## The numbers of the messages -/

/-- The user message at an index has the number after it. -/
theorem id_of_getElem? {c : Channel S} {env : Env} (hs : Sending env token c) {i : Nat}
    {u : StructuredMessage × MsgOut} (hu : c.sentUserMsgs[i]? = some u) : u.1.id = i + 1 := by
  have hmap : (c.sentUserMsgs.map fun f => f.1.id)[i]? = some u.1.id := by
    rw [List.getElem?_map, hu]
    rfl
  rcases List.getElem?_eq_some_iff.1 hu with ⟨hlen, _⟩
  rw [hs.numbered, List.getElem?_range' hlen] at hmap
  have hid := Option.some.inj hmap
  omega

/-- A message that was sent stands at the place its ID tells. -/
theorem getElem?_of_mem {c : Channel S} {env : Env} (hs : Sending env token c)
    {u : StructuredMessage × MsgOut} (hu : u ∈ c.sentUserMsgs) :
    u.1.id ≠ 0 ∧ c.sentUserMsgs[u.1.id - 1]? = some u := by
  rcases List.mem_iff_getElem?.1 hu with ⟨i, hi⟩
  have hid := id_of_getElem? hs hi
  rw [hid]
  exact ⟨Nat.succ_ne_zero i, hi⟩

/-- No two messages that were sent have the same ID. -/
theorem eq_of_id_eq {c : Channel S} {env : Env} (hs : Sending env token c)
    {u u' : StructuredMessage × MsgOut} (hu : u ∈ c.sentUserMsgs) (hu' : u' ∈ c.sentUserMsgs)
    (hid : u.1.id = u'.1.id) : u = u' := by
  have hget := (getElem?_of_mem hs hu).2
  rw [hid, (getElem?_of_mem hs hu').2] at hget
  exact (Option.some.inj hget).symm

/-- A user message of a pipe, and its number, come only once on the pipe. -/
theorem id_not_mem_before {c : Channel S} {env : Env} (hs : Sending env token c) {out : OutPipe}
    {d₀ : Nat} {mdt : StructuredMessage} {msg : MsgOut}
    (hm : (c.sentOver env out)[d₀]? = some (mdt, some msg)) :
    ∀ u ∈ ((c.sentOver env out).take d₀).filterMap userMsg?, u.1.id ≠ mdt.id := by
  have hsub : ((c.sentOver env out).filterMap userMsg?).Sublist c.sentUserMsgs :=
    List.Sublist.filterMap _ List.filter_sublist
  have hnodup : (((c.sentOver env out).filterMap userMsg?).map fun f => f.1.id).Nodup := by
    refine (hsub.map fun f => f.1.id).nodup ?_
    rw [hs.numbered]
    exact List.nodup_range'
  rcases List.getElem?_eq_some_iff.1 hm with ⟨hlen, hget⟩
  have hsplit : c.sentOver env out = (c.sentOver env out).take d₀ ++
      (mdt, some msg) :: (c.sentOver env out).drop (d₀ + 1) := by
    rw [← hget, ← List.drop_eq_getElem_cons hlen, List.take_append_drop]
  rw [hsplit, List.filterMap_append, List.map_append] at hnodup
  intro u hu heq
  refine (List.nodup_append.1 hnodup).2.2 u.1.id (List.mem_map_of_mem hu) mdt.id ?_ heq
  simp [userMsg?]

/-! ## What has arrived -/

/-- The user messages that were read whole on a pipe. -/
def arrivedOn (link : Link) (n : Net S R) (d : PipeSlot → Nat) (slot : PipeSlot) :
    List (StructuredMessage × MsgOut) :=
  match linkedPipe link.sender.pipes slot with
  | some out => ((n.sender.sentOver link.sender out).take (d slot - 1)).filterMap userMsg?
  | none => []

/-- What arrived on a pipe is the beginning of what was sent over it. -/
theorem arrivedOn_linked {slot : PipeSlot} {out : OutPipe}
    (hlinked : linkedPipe link.sender.pipes slot = some out) (n : Net S R) (d : PipeSlot → Nat) :
    n.arrivedOn link d slot =
      ((n.sender.sentOver link.sender out).take (d slot - 1)).filterMap userMsg? := by
  rw [arrivedOn, hlinked]

/-- What arrived was sent over the linked out-pipe. -/
theorem mem_arrivedOn {slot : PipeSlot} {u : StructuredMessage × MsgOut}
    (hu : u ∈ n.arrivedOn link d slot) :
    u ∈ n.sender.sentUserMsgs ∧
      linkedPipe link.sender.pipes slot = some (framePipe link.sender (some u.2)) := by
  cases hlinked : linkedPipe link.sender.pipes slot with
  | none => simp [arrivedOn, hlinked] at hu
  | some out =>
      rw [arrivedOn_linked hlinked, List.mem_filterMap] at hu
      rcases hu with ⟨f, hf, hfu⟩
      rcases mem_sentOver (List.mem_of_mem_take hf) with ⟨hmem, hout⟩
      refine ⟨List.mem_filterMap.2 ⟨f, hmem, hfu⟩, ?_⟩
      rcases Option.map_eq_some_iff.1 hfu with ⟨msg, hmsg, rfl⟩
      rw [← hout, hmsg]

/-- The messages that have arrived were handed on in order, or wait for their turn. -/
structure Arrivals (link : Link) (token : SessionToken) (n : Net S R) (d : PipeSlot → Nat) :
    Prop where
  order : Resequencer.InOrder (n.sender.sentUserMsgs.map (inMsgFor link.receiver token))
    n.receiver.resequencer n.receiver.handedOn
  arrived : ∀ id, n.receiver.resequencer.Received id ↔
    ∃ slot, ∃ u ∈ n.arrivedOn link d slot, u.1.id = id

/-- What has arrived stays what it is when the sender goes on. -/
theorem Arrivals.sent (h : Arrivals link token n d) (hpos : Positions link token n d k)
    {c : Channel S} (hgrows : Grows n.sender c) :
    Arrivals link token { n with sender := c } d where
  order := by
    rcases hgrows.sentUserMsgs with ⟨more, hmore⟩
    have horder := h.order.append (more.map (inMsgFor link.receiver token))
    rw [← List.map_append, hmore] at horder
    exact horder
  arrived := by
    have hsame : ∀ slot, arrivedOn link { n with sender := c } d slot = n.arrivedOn link d slot := by
      intro slot
      cases hlinked : linkedPipe link.sender.pipes slot with
      | none => simp [arrivedOn, hlinked]
      | some out =>
          have hwhole := (hpos.stream slot out hlinked).whole
          have hlen := length_framesOn_le link.sender n.sender out
          rcases hgrows.sentOver link.sender out with ⟨more, hmore⟩
          rw [arrivedOn_linked hlinked, arrivedOn_linked hlinked]
          simp only
          rw [← hmore, List.take_append_of_le_length (by omega)]
    intro id
    simp only [hsame]
    exact h.arrived id

/-- A change that does not concern the sequencing, and completes no message. -/
theorem Arrivals.of_frame (h : Arrivals link token n d) {n' : Net S R} {d' : PipeSlot → Nat}
    (hsender : n'.sender = n.sender) (hframe : SeqFrame n.receiver n'.receiver)
    (hd : ∀ slot, d' slot - 1 = d slot - 1) : Arrivals link token n' d' where
  order := by
    rw [hsender, hframe.resequencer, hframe.handedOn]
    exact h.order
  arrived := by
    intro id
    rw [hframe.resequencer, h.arrived id]
    simp only [arrivedOn, hsender, hd]

/-- The number of a message that is completed is new. -/
theorem Arrivals.fresh (h : Arrivals link token n d) (hs : Sending link.sender token n.sender)
    {slot : PipeSlot} {out : OutPipe} (hlinked : linkedPipe link.sender.pipes slot = some out)
    {d₀ : Nat} (hd : d slot = d₀ + 1) {mdt : StructuredMessage} {msg : MsgOut}
    (hm : (n.sender.sentOver link.sender out)[d₀]? = some (mdt, some msg)) :
    ¬ n.receiver.resequencer.Received mdt.id := by
  intro hreceived
  rcases (h.arrived mdt.id).1 hreceived with ⟨slot', u, hu, hid⟩
  rcases mem_sentOver (List.mem_of_getElem? hm) with ⟨hmem, hout⟩
  have hmem' : (mdt, msg) ∈ n.sender.sentUserMsgs :=
    List.mem_filterMap.2 ⟨(mdt, some msg), hmem, rfl⟩
  rcases mem_arrivedOn hu with ⟨huser, hlinked'⟩
  have hsame := eq_of_id_eq hs huser hmem' hid
  subst hsame
  rw [hout] at hlinked'
  have hslot := linkedPipe_injective hlinked hlinked'
  subst hslot
  rw [arrivedOn_linked hlinked, hd, Nat.add_sub_cancel] at hu
  exact id_not_mem_before hs hm _ hu rfl

/-- Over one pipe messages are completed in the order of their numbers. -/
theorem Arrivals.next_of_one_pipe (h : Arrivals link token n d)
    (hs : Sending link.sender token n.sender) (hone : link.sender.pipes.has2Pipes = false)
    (hidle : n.receiver.rcvReassemblyQ.entries = [])
    {slot : PipeSlot} {out : OutPipe} (hlinked : linkedPipe link.sender.pipes slot = some out)
    {d₀ : Nat} (hd : d slot = d₀ + 1) {mdt : StructuredMessage} {msg : MsgOut}
    (hm : (n.sender.sentOver link.sender out)[d₀]? = some (mdt, some msg)) :
    mdt.id = n.receiver.rcvMsgNextId := by
  have hall : n.sender.sentOver link.sender out = n.sender.sentMsgs := by
    rw [sentOver, List.filter_eq_self]
    intro f _
    cases hpipes : link.sender.pipes <;> cases slot <;>
      simp_all [framePipe, outPipeFor, linkedPipe, Pipes.has2Pipes]
  rw [hall] at hm
  let before := (n.sender.sentMsgs.take d₀).filterMap userMsg?
  rcases List.getElem?_eq_some_iff.1 hm with ⟨hlen, hget⟩
  have hsplit : n.sender.sentUserMsgs = before ++
      (mdt, msg) :: (n.sender.sentMsgs.drop (d₀ + 1)).filterMap userMsg? := by
    have hcut : n.sender.sentMsgs = n.sender.sentMsgs.take d₀ ++
        (mdt, some msg) :: n.sender.sentMsgs.drop (d₀ + 1) := by
      rw [← hget, ← List.drop_eq_getElem_cons hlen, List.take_append_drop]
    rw [sentUserMsgs]
    nth_rewrite 1 [hcut]
    rw [List.filterMap_append]
    rfl
  have hid : mdt.id = before.length + 1 := by
    refine id_of_getElem? (u := (mdt, msg)) hs ?_
    rw [hsplit, List.getElem?_append_right (Nat.le_refl _), Nat.sub_self]
    rfl
  have hearlier : ∀ j, 1 ≤ j → j ≤ before.length → n.receiver.resequencer.Received j := by
    intro j hpos hle
    have hj : j - 1 < before.length := by omega
    refine (h.arrived j).2 ⟨slot, before[j - 1], ?_, ?_⟩
    · rw [arrivedOn_linked hlinked, hd, Nat.add_sub_cancel, hall]
      exact List.getElem_mem hj
    · have hindex : n.sender.sentUserMsgs[j - 1]? = some before[j - 1] := by
        rw [hsplit, List.getElem?_append_left hj, List.getElem?_eq_getElem hj]
      have := id_of_getElem? hs hindex
      omega
  have hnot : ∀ j, n.receiver.resequencer.Received j ↔ 1 ≤ j ∧ j < n.receiver.rcvMsgNextId := by
    intro j
    simp [Resequencer.Received, OrderedMap.keys, resequencer, hidle]
  have hpos : 1 ≤ n.receiver.rcvMsgNextId := h.order.next_pos
  have hfresh := h.fresh hs hlinked hd (by rw [hall]; exact hm)
  rw [hnot, hid] at hfresh
  by_contra hne
  have hlt : n.receiver.rcvMsgNextId ≤ before.length := by omega
  have := (hnot _).1 (hearlier _ hpos hlt)
  omega

/-- A user message that was completed and accepted has arrived. -/
theorem Arrivals.accepted (h : Arrivals link token n d) (hs : Sending link.sender token n.sender)
    {slot : PipeSlot} {out : OutPipe} (hlinked : linkedPipe link.sender.pipes slot = some out)
    {d₀ : Nat} (hd : d slot = d₀ + 1) {mdt : StructuredMessage} {msg : MsgOut}
    (hm : (n.sender.sentOver link.sender out)[d₀]? = some (mdt, some msg)) {c₁ c : Channel R}
    (hacc : Accepts n.receiver (inMsgFor link.receiver token (mdt, msg)) c₁)
    (hframe : SeqFrame c₁ c) :
    Arrivals link token (n.received slot c) (Function.update d slot (d₀ + 2)) := by
  have hfresh := h.fresh hs hlinked hd hm
  rcases mem_sentOver (List.mem_of_getElem? hm) with ⟨hmem, hout⟩
  have hmem' : (mdt, msg) ∈ n.sender.sentUserMsgs :=
    List.mem_filterMap.2 ⟨(mdt, some msg), hmem, rfl⟩
  rcases getElem?_of_mem hs hmem' with ⟨hid, hindex⟩
  have hsrc : (n.sender.sentUserMsgs.map (inMsgFor link.receiver token))[mdt.id - 1]? =
      some (inMsgFor link.receiver token (mdt, msg)) := by
    rw [List.getElem?_map, hindex]
    rfl
  rcases Resequencer.accept_inOrder h.order (Nat.one_le_iff_ne_zero.2 hid) hsrc hfresh with
    ⟨s', out', haccept, horder, hreceived⟩
  rcases hacc.accepted with ⟨out'', haccept', hon⟩
  have hid' : (inMsgFor link.receiver token (mdt, msg)).idOrNone = mdt.id := rfl
  rw [hid', haccept, Option.some.injEq, Prod.mk.injEq] at haccept'
  rcases haccept' with ⟨rfl, rfl⟩
  refine ⟨?_, ?_⟩
  · rw [received_receiver, hframe.resequencer, hframe.handedOn, hon]
    exact horder
  · have hlist : ∀ slot', (n.received slot c).arrivedOn link (Function.update d slot (d₀ + 2)) slot' =
        n.arrivedOn link d slot' ++ if slot' = slot then [(mdt, msg)] else [] := by
      intro slot'
      by_cases hslot : slot' = slot
      · subst hslot
        rw [arrivedOn_linked hlinked, arrivedOn_linked hlinked, hd, if_pos rfl]
        simp only [Function.update_self, received_sender, Nat.add_sub_cancel]
        have htwo : d₀ + 2 - 1 = d₀ + 1 := rfl
        rw [htwo, List.take_add_one, hm, List.filterMap_append]
        rfl
      · simp [arrivedOn, hslot]
    intro id
    rw [received_receiver, hframe.resequencer, hreceived id, h.arrived id]
    simp only [hlist, List.mem_append]
    constructor
    · rintro (⟨slot', u, hu, hidu⟩ | rfl)
      · exact ⟨slot', u, Or.inl hu, hidu⟩
      · exact ⟨slot, (mdt, msg), Or.inr (by simp), rfl⟩
    · rintro ⟨slot', u, hu | hu, hidu⟩
      · exact Or.inl ⟨slot', u, hu, hidu⟩
      · split at hu
        · rw [List.mem_singleton] at hu
          subst hu
          exact Or.inr hidu.symm
        · simp at hu

/-- An internal message that was completed does not count. -/
theorem Arrivals.internal (h : Arrivals link token n d) {slot : PipeSlot} {out : OutPipe}
    (hlinked : linkedPipe link.sender.pipes slot = some out) {d₀ : Nat} (hd : d slot = d₀ + 1)
    {mdt : StructuredMessage} (hm : (n.sender.sentOver link.sender out)[d₀]? = some (mdt, none))
    {c : Channel R} (hframe : SeqFrame n.receiver c) :
    Arrivals link token (n.received slot c) (Function.update d slot (d₀ + 2)) where
  order := by
    rw [received_receiver, hframe.resequencer, hframe.handedOn]
    exact h.order
  arrived := by
    have hlist : ∀ slot', (n.received slot c).arrivedOn link (Function.update d slot (d₀ + 2)) slot' =
        n.arrivedOn link d slot' := by
      intro slot'
      by_cases hslot : slot' = slot
      · subst hslot
        rw [arrivedOn_linked hlinked, arrivedOn_linked hlinked, hd]
        simp only [Function.update_self, received_sender, Nat.add_sub_cancel]
        have htwo : d₀ + 2 - 1 = d₀ + 1 := rfl
        rw [htwo, List.take_add_one, hm, List.filterMap_append]
        simp [userMsg?]
      · simp [arrivedOn, hslot]
    intro id
    rw [received_receiver, hframe.resequencer, h.arrived id]
    simp only [hlist]

/-! ## The steps of a delivery -/

/-- What holds of the peers whatever is delivered. -/
structure Peers (link : Link) (token : SessionToken) (n : Net S R) : Prop where
  sender : Sends link.sender token n.sender
  receiver : Reachable link.receiver n.receiver

/-- A receiver that is not hosed, with the positions of its pipes. -/
structure Attached (link : Link) (token : SessionToken) (n : Net S R) (d k : PipeSlot → Nat) :
    Prop where
  live : n.receiver.channelErrCodeOrOk = none
  notServer : n.receiver.phase ≠ .srvLogIn
  positions : Positions link token n d k
  arrivals : Arrivals link token n d

/-- Every pipe reads on, so no error with a falsy code was found. -/
theorem Attached.falsyErrors (h : Attached link token n d k)
    (hreach : Reachable link.receiver n.receiver) : n.receiver.falsyErrors = 0 := by
  by_contra hfalsy
  rcases hreach.stopped_of_falsy hfalsy with ⟨slot, pipe, hpipe, hnone⟩
  rcases h.positions.pipe slot pipe hpipe with ⟨_, _, _, hat⟩
  rcases hat.outstanding with ⟨kind, hkind⟩
  simp [hkind] at hnone

/-- What is delivered to a peer that is logged in. -/
structure Delivering (link : Link) (token : SessionToken) (n : Net S R) : Prop where
  phase : n.receiver.phase = .loggedIn
  sessionToken : n.receiver.sessionToken = token
  attached : ∃ d k, Attached link token n d k

/-- The messages sent so far have the bodies their senders meant. -/
def Readable (link : Link) (n : Net S R) : Prop :=
  ∀ u ∈ n.sender.sentUserMsgs, u.2.Readable link.sender.capnp

/-- A step keeps what is known of the two peers. -/
theorem Peers.step (h : Peers link token n) {n' : Net S R} {l : NetLabel S R}
    (hstep : n.step link l = some n') : Peers link token n' := by
  have hreach : ∀ l' {c}, Channel.step link.receiver n.receiver l' = some c →
      Reachable link.receiver c := by
    intro l' c hc
    rcases h.receiver with ⟨args, ls, hrun⟩
    refine ⟨args, ls ++ [l'], Transition.run_append_eq_some.2 ⟨_, hrun, ?_⟩⟩
    simp [Transition.run, hc]
  rcases Net.step_cases link hstep with ⟨l', c, _, hc, rfl⟩ | ⟨x, _, hover, rfl⟩ |
    ⟨c, _, hc, rfl⟩ | ⟨slot, item, c, _, _, hc, rfl⟩
  · exact ⟨(h.sender.step link.sendError hc).1, h.receiver⟩
  · exact ⟨h.sender, hreach (.call x) (Channel.step_call_eq_some.2 ⟨hover, rfl⟩)⟩
  · exact ⟨h.sender, hreach _ hc⟩
  · exact ⟨h.sender, hreach _ hc⟩

/-- The receiver's own calls complete nothing. -/
theorem Attached.called (h : Attached link token n d k) (hp : Peers link token n) {x : Call R}
    (hover : n.receiver.startsOver x = false) (hser : x.Serializes) :
    Attached link token { n with receiver := n.receiver.call link.receiver x } d k := by
  have hframe := call_seqFrame link.receiver n.receiver x
  have hneg := hp.receiver.negotiationSent link.reliable.sendError
  refine ⟨call_channelErr link.reliable hneg h.notServer h.live hser, ?_, ?_, ?_⟩
  · have hphase := hframe.phase h.notServer
    simp only [hphase]
    exact h.notServer
  · by_cases hx : ∀ f, x ≠ .startAndPoll f
    · exact h.positions.of_rcvPipe (call_rcvFrame n.receiver x hx).rcvPipe
    · push Not at hx
      rcases hx with ⟨f, rfl⟩
      cases hpre : n.receiver.startPrecluded with
      | true =>
          have hsame : n.receiver.call link.receiver (.startAndPoll f) = n.receiver :=
            startAndPoll_of_precluded f hpre
          rw [hsame]
          exact h.positions
      | false =>
          have hnone : ∀ slot, n.receiver.rcvPipe slot = none :=
            hp.receiver.rcvPipe_of_starting hpre hover
          have hpolls := startAndPoll_polls link.reliable hneg.protoNegOk f hpre
          rw [link.pipes] at hpolls
          exact h.positions.started hnone hpolls
  · exact h.arrivals.of_frame rfl hframe (fun _ => rfl)

/-- A payload that arrives completes nothing, or a message. -/
theorem Attached.delivered (h : Attached link token n d k) (hp : Peers link token n)
    {slot : PipeSlot} {p : Payload} (hitem : n.nextItem link slot = some (.payload p))
    {c : Channel R}
    (hstep : Channel.step link.receiver n.receiver (.rcv slot (.ok p)) = some c) :
    (∃ d' k', Attached link token (n.received slot c) d' k' ∧ SeqFrame n.receiver c) ∨
      ∃ out d₀ m, Completes link token n d k slot out d₀ m c := by
  have hquiet : ∀ {c d' k'}, SeqFrame n.receiver c → c.channelErrCodeOrOk = none →
      d' - 1 = d slot - 1 →
      Positions link token (n.received slot c) (Function.update d slot d') k' →
      ∃ d' k', Attached link token (n.received slot c) d' k' ∧ SeqFrame n.receiver c := by
    intro c d' k' hframe hlive hd hpos'
    have hphase := hframe.phase h.notServer
    refine ⟨_, _, ⟨hlive, ?_, hpos', h.arrivals.of_frame rfl hframe ?_⟩, hframe⟩
    · rw [received_receiver, hphase]
      exact h.notServer
    · intro slot'
      by_cases hslot : slot' = slot
      · rw [hslot, Function.update_self, hd]
      · rw [Function.update_of_ne hslot]
  rcases Channel.step_cases hstep with ⟨x, hx, _⟩ | ⟨slot', result, pipe, kind, hlabel, _, hpipe,
    hkind, _, rfl⟩ | ⟨t, rest, hx, _⟩
  · cases hx
  · cases hlabel
    cases hd : d slot with
    | zero =>
        rcases h.positions.deliver_negotiation hp.sender.sending h.live hpipe hkind hd hitem with
          ⟨hframe, hlive, hpos'⟩
        exact Or.inl (hquiet hframe hlive (by rw [hd]) hpos')
    | succ d₀ =>
        rcases h.positions.deliver_message hp.sender.sending h.live hpipe hkind hd hitem with
          ⟨k', hframe, hlive, hpos'⟩ | ⟨out, m, hcompletes⟩
        · exact Or.inl (hquiet hframe hlive (by rw [hd]) hpos')
        · exact Or.inr ⟨out, d₀, m, hcompletes⟩
  · cases hx

/-- What a step of the two peers is to the delivery. -/
inductive Progress (link : Link) (token : SessionToken) (n : Net S R) (d k : PipeSlot → Nat)
    (n' : Net S R) : NetLabel S R → Prop where
  | quiet {l : NetLabel S R} {d' k' : PipeSlot → Nat} (attached : Attached link token n' d' k')
      (frame : SeqFrame n.receiver n'.receiver) : Progress link token n d k n' l
  | closes {slot : PipeSlot} (close : n.nextItem link slot = some .gracefulClose) :
      Progress link token n d k n' (.deliver slot)
  | completes {slot : PipeSlot} {out : OutPipe} {d₀ : Nat} {m : SentMsg} {c : Channel R}
      (completes : Completes link token n d k slot out d₀ m c) (state : n' = n.received slot c) :
      Progress link token n d k n' (.deliver slot)

/-- Every step is quiet, or it is a close or the completion of a message. -/
theorem Attached.step (h : Attached link token n d k) (hp : Peers link token n) {n' : Net S R}
    {l : NetLabel S R} (hser : l.Serializes) (hstep : n.step link l = some n') :
    Progress link token n d k n' l := by
  rcases Net.step_cases link hstep with ⟨l', c, rfl, hc, rfl⟩ | ⟨x, rfl, hover, rfl⟩ |
    ⟨c, rfl, hc, rfl⟩ | ⟨slot, item, c, rfl, hitem, hc, rfl⟩
  · have hgrows := (hp.sender.step link.sendError hc).2
    have hsent : Attached link token { n with sender := c } d k :=
      ⟨h.live, h.notServer, h.positions.sent hp.sender.sending hgrows,
        h.arrivals.sent h.positions hgrows⟩
    exact .quiet hsent (.refl _)
  · exact .quiet (h.called hp hover hser) (call_seqFrame link.receiver n.receiver x)
  · rcases Channel.step_cases hc with ⟨x, hx, _⟩ | ⟨slot, result, pipe, kind, hx, _⟩ |
      ⟨t, rest, _, _, rfl⟩
    · cases hx
    · cases hx
    · have hframe := handlerReturned_rcvFrame n.receiver t rest
      have hphase := hframe.phase h.notServer
      have hreturned : Attached link token
          { n with receiver := n.receiver.handlerReturned t rest } d k := by
        refine ⟨?_, ?_, h.positions.of_rcvPipe hframe.rcvPipe,
          h.arrivals.of_frame rfl hframe.toSeqFrame (fun _ => rfl)⟩
        · exact (handlerReturned_channelErr n.receiver t rest).trans h.live
        · simp only [hphase]
          exact h.notServer
      exact .quiet hreturned hframe.toSeqFrame
  · cases item with
    | payload p =>
        rcases h.delivered hp hitem hc with ⟨d', k', hatt, hframe⟩ | ⟨out, d₀, m, hcompletes⟩
        · exact .quiet hatt hframe
        · exact .completes hcompletes rfl
    | gracefulClose => exact .closes hitem

/-! ## A message is completed -/

/-- An internal message that was completed is handled. -/
theorem Attached.internal (h : Attached link token n d k) {slot : PipeSlot} {out : OutPipe}
    {d₀ : Nat} {mdt : StructuredMessage} {c : Channel R}
    (hcompletes : Completes link token n d k slot out d₀ (mdt, none) c)
    (hheader : SentMsg.HasHeader link.sender token (mdt, none))
    (htoken : n.receiver.sessionTokenError (arriving link.receiver token (mdt, none)) = none) :
    (∃ d' k', Attached link token (n.received slot c) d' k') ∧ SeqFrame n.receiver c := by
  cases hheader with
  | internal orig text orig_ne_zero =>
      let mdt := (msgMdtOut link.sender.endian token orig 0 0).initUnexpectedResponse text
      have horig : (arriving link.receiver token (mdt, none)).originatingMsgIdOrNone ≠ 0 := by
        have hsome : mdt.originatingMessageOrNull = some orig := if_pos orig_ne_zero
        change mdt.originatingMessageOrNull.getD 0 ≠ 0
        rw [hsome]
        exact orig_ne_zero
      have hmsg := rcvStructNewMsgIn_internal link.receiver
        (m := arriving link.receiver token (mdt, none)) rfl htoken rfl horig
      have hpost := handlersPost_rcvFrame link.receiver n.receiver
        (.onRemoteUnexpectedResponse
          (arriving link.receiver token (mdt, none)).originatingMsgIdOrNone text)
      rcases hcompletes.goesOn _ hmsg hpost.rcvPipe with ⟨hframe, herr, hpos'⟩
      have hall := hpost.toSeqFrame.trans hframe
      have hphase := hall.phase h.notServer
      refine ⟨⟨_, _, herr.trans h.live, ?_, hpos', h.arrivals.internal hcompletes.linked
        hcompletes.position hcompletes.message hall⟩, hall⟩
      rw [received_receiver, hphase]
      exact h.notServer

/-- A user message that was completed and accepted has arrived. -/
theorem Attached.accepted (h : Attached link token n d k) (hp : Peers link token n)
    {slot : PipeSlot} {out : OutPipe} {d₀ : Nat} {mdt : StructuredMessage} {msg : MsgOut}
    {c c₁ : Channel R} (hcompletes : Completes link token n d k slot out d₀ (mdt, some msg) c)
    (hmsg : n.receiver.rcvStructNewMsgIn link.receiver
      (arriving link.receiver token (mdt, some msg)) = (c₁, true))
    (hacc : Accepts n.receiver (inMsgFor link.receiver token (mdt, msg)) c₁)
    (hphase : c₁.phase = .loggedIn) (htoken : c₁.sessionToken = token) :
    Delivering link token (n.received slot c) ∧ SeqFrame c₁ c := by
  have hreceiving := hp.receiver.wellFormed ⟨slot, hcompletes.reading⟩
  have hhandled := rcvStructNewMsgIn_handled link.receiver
    (m := arriving link.receiver token (mdt, some msg)) hreceiving h.live
  rw [hmsg] at hhandled
  rcases hcompletes.goesOn c₁ hmsg hacc.rcvPipe with ⟨hframe, herr, hpos'⟩
  have hlogged : c.phase = .loggedIn := (hframe.phase (by simp [hphase])).trans hphase
  refine ⟨⟨hlogged, hframe.sessionToken.trans htoken, _, _, herr.trans (hhandled.live rfl), ?_,
    hpos', h.arrivals.accepted hp.sender.sending hcompletes.linked hcompletes.position
      hcompletes.message hacc hframe⟩, hframe⟩
  simp [hlogged]

/-- A message that was completed is handled when logged in. -/
theorem Delivering.completed (h : Delivering link token n) (hp : Peers link token n)
    (hread : Readable link n) (hatt : Attached link token n d k) {slot : PipeSlot} {out : OutPipe}
    {d₀ : Nat} {m : SentMsg} {c : Channel R}
    (hcompletes : Completes link token n d k slot out d₀ m c) :
    Delivering link token (n.received slot c) := by
  rcases mem_sentOver (List.mem_of_getElem? hcompletes.message) with ⟨hmem, _⟩
  have hheader := hp.sender.sending.headers m hmem
  have hseq := hp.receiver.sequenced
  rcases m with ⟨mdt, _ | msg⟩
  · have htoken := sessionTokenError_loggedIn (m := arriving link.receiver token (mdt, none))
      h.phase h.sessionToken.symm
    rcases hatt.internal hcompletes hheader htoken with ⟨hatt', hframe⟩
    refine ⟨?_, hframe.sessionToken.trans h.sessionToken, hatt'⟩
    exact (hframe.phase hatt.notServer).trans h.phase
  · have huser : (mdt, msg) ∈ n.sender.sentUserMsgs :=
      List.mem_filterMap.2 ⟨(mdt, some msg), hmem, rfl⟩
    have hid : mdt.id ≠ 0 := (getElem?_of_mem hp.sender.sending huser).1
    have hfresh := hatt.arrivals.fresh hp.sender.sending hcompletes.linked hcompletes.position
      hcompletes.message
    have hnot : ¬ n.receiver.resequencer.Taken mdt.id := by
      rintro (hlt | hmem)
      · exact hfresh (Or.inl ⟨Nat.one_le_iff_ne_zero.2 hid, hlt⟩)
      · exact hfresh (Or.inr hmem)
    have hbody : link.receiver.capnp.readBody msg.segments = .ok msg.bodyWhich := by
      rw [link.capnp]
      exact hread _ huser
    have hpipes : link.receiver.pipes.has2Pipes = true ∨ mdt.id = n.receiver.rcvMsgNextId := by
      cases htwo : link.sender.pipes.has2Pipes with
      | true => exact Or.inl (by rw [link.pipes, htwo])
      | false =>
          have hidle := hseq.idle (Or.inl (by rw [link.pipes, htwo]))
          exact Or.inr (hatt.arrivals.next_of_one_pipe hp.sender.sending htwo hidle
            hcompletes.linked hcompletes.position hcompletes.message)
    rcases rcvStructNewMsgIn_accepts (m := arriving link.receiver token (mdt, some msg)) hseq
      h.phase hid h.sessionToken.symm hbody hnot hpipes with ⟨c₁, hmsg, hacc, hlogged, htoken⟩
    exact (hatt.accepted hp hcompletes hmsg hacc hlogged (htoken.trans h.sessionToken)).1

/-- A step keeps the delivery going, unless it is the receipt of a graceful close. -/
theorem Delivering.step (h : Delivering link token n) (hp : Peers link token n)
    (hread : Readable link n) {n' : Net S R} {l : NetLabel S R} (hser : l.Serializes)
    (hstep : n.step link l = some n') :
    Delivering link token n' ∨
      ∃ slot, l = .deliver slot ∧ n.nextItem link slot = some .gracefulClose := by
  rcases h.attached with ⟨d, k, hatt⟩
  cases hatt.step hp hser hstep with
  | quiet attached frame =>
      refine Or.inl ⟨?_, frame.sessionToken.trans h.sessionToken, _, _, attached⟩
      exact (frame.phase hatt.notServer).trans h.phase
  | closes close => exact Or.inr ⟨_, rfl, close⟩
  | completes completes state =>
      rw [state]
      exact Or.inl (h.completed hp hread hatt completes)

/-! ## Runs -/

/-- What was sent later does not make the earlier bodies less readable. -/
theorem Readable.before {n' : Net S R} (h : Readable link n')
    (hgrows : Grows n.sender n'.sender) : Readable link n :=
  fun u hu => h u (hgrows.sentUserMsgs.subset hu)

/-- A step only adds to what the sender has sent. -/
theorem step_grows (hp : Peers link token n) {n' : Net S R} {l : NetLabel S R}
    (hstep : n.step link l = some n') : Grows n.sender n'.sender := by
  rcases Net.step_cases link hstep with ⟨l', c, _, hc, rfl⟩ | ⟨x, _, _, rfl⟩ |
    ⟨c, _, _, rfl⟩ | ⟨slot, item, c, _, _, _, rfl⟩
  · exact (hp.sender.step link.sendError hc).2
  · exact .refl _
  · exact .refl _
  · exact .refl _

/-- A graceful close arrives only once the sender has ended sending. -/
theorem Delivering.ended (h : Delivering link token n) (hp : Peers link token n) {slot : PipeSlot}
    (hitem : n.nextItem link slot = some .gracefulClose) :
    n.sender.channel.sendingEnded = true := by
  rcases h.attached with ⟨d, k, hatt⟩
  rcases hatt.positions.next hp.sender.sending hitem with ⟨out, _, ⟨p, f, hp, _⟩ | ⟨_, hended, _⟩⟩
  · cases hp
  · exact hended

/-- Two new channels. -/
theorem peers_ctor (link : Link) {token : SessionToken} {args : CtorArgs}
    (hown : args.ownToken = some token) (args' : CtorArgs) :
    Peers link token (Net.ctor args args' : Net S R) where
  sender := sends_ctor link.sender hown
  receiver := ⟨args', [], rfl⟩

/-- Nothing was sent yet, and nothing has arrived. -/
theorem arrivals_ctor (link : Link) (token : SessionToken) (args args' : CtorArgs) :
    Arrivals link token (Net.ctor args args' : Net S R) fun _ => 0 := by
  have hnew : (Channel.ctor args' : Channel R).resequencer = ⟨1, .empty⟩ ∧
      (Channel.ctor args' : Channel R).handedOn = [] := by
    cases args' <;> exact ⟨rfl, rfl⟩
  refine ⟨?_, ?_⟩
  · change Resequencer.InOrder _ (Channel.ctor args' : Channel R).resequencer (Channel.ctor args').handedOn
    rw [hnew.1, hnew.2]
    exact .init _
  · intro id
    change (Channel.ctor args' : Channel R).resequencer.Received id ↔ _
    rw [hnew.1]
    constructor
    · rintro (⟨hpos, hlt⟩ | hmem)
      · exact absurd hlt (Nat.not_lt.2 hpos)
      · simp [OrderedMap.keys] at hmem
    · rintro ⟨slot, u, hu, _⟩
      rcases mem_arrivedOn hu with ⟨huser, _⟩
      cases args <;> simp [Net.ctor, Channel.ctor, sentUserMsgs, sentMsgs] at huser

/-- Nothing was sent and nothing received. -/
theorem positions_ctor (link : Link) (token : SessionToken) (args args' : CtorArgs) :
    Positions link token (Net.ctor args args' : Net S R) (fun _ => 0) fun _ => 0 where
  stream _ _ _ := .start _
  unset _ _ := ⟨rfl, rfl, rfl⟩
  pipe := by
    intro slot pipe hpipe
    cases args' <;> cases slot <;> cases hpipe

/-- The channels begin to deliver when both were logged in at construction. -/
theorem delivering_ctor (link : Link) {token : SessionToken} (nonNil : token.isNil = false)
    (args : CtorArgs) :
    Delivering link token (Net.ctor args (.loggedIn token nonNil) : Net S R) where
  phase := rfl
  sessionToken := rfl
  attached := ⟨_, _, rfl, by simp [Net.ctor, Channel.ctor], positions_ctor link token args _,
    arrivals_ctor link token args _⟩

/-- Unless the sender ends sending, a run keeps the delivery going. -/
theorem run_delivering (hp : Peers link token n) (h : Delivering link token n)
    {ls : List (NetLabel S R)} (hser : ∀ l ∈ ls, l.Serializes) {n' : Net S R}
    (hrun : Net.run link n ls = some n') (hread : Readable link n')
    (hopen : n'.sender.channel.sendingEnded = false) : Delivering link token n' := by
  have hinv := (Transition.meets_of_forall (Net.step link) n hser).invariant
    (fun n => Peers link token n ∧ (Readable link n →
      Delivering link token n ∨ n.sender.channel.sendingEnded = true)) ?_ ⟨hp, fun _ => Or.inl h⟩
      hrun
  · exact (hinv.2 hread).resolve_right (by simp [hopen])
  · rintro n l n' ⟨hp, hinv⟩ hser hstep
    have hgrows := step_grows hp hstep
    refine ⟨hp.step hstep, fun hread => ?_⟩
    rcases hinv (hread.before hgrows) with hdel | hended
    · rcases hdel.step hp (hread.before hgrows) hser hstep with hdel' | ⟨slot, _, hclose⟩
      · exact Or.inl hdel'
      · exact Or.inr (hgrows.ended (hdel.ended hp hclose)).1
    · exact Or.inr (hgrows.ended hended).1

/-! ## Everything has arrived -/

/-- If only internal messages are unread, all user messages were handed on. -/
theorem Arrivals.complete (h : Arrivals link token n d)
    (hs : Sending link.sender token n.sender)
    (hall : ∀ slot out, linkedPipe link.sender.pipes slot = some out →
      ((n.sender.sentOver link.sender out).drop (d slot - 1)).filterMap userMsg? = []) :
    n.receiver.handedOn = n.sender.sentUserMsgs.map (inMsgFor link.receiver token) ∧
      n.receiver.rcvReassemblyQ.entries = [] := by
  have hreceived : ∀ id, 1 ≤ id →
      id ≤ (n.sender.sentUserMsgs.map (inMsgFor link.receiver token)).length →
      n.receiver.resequencer.Received id := by
    intro id hpos hle
    rw [List.length_map] at hle
    have hlt : id - 1 < n.sender.sentUserMsgs.length := by omega
    have hu := List.getElem?_eq_getElem hlt
    have hid := id_of_getElem? hs hu
    rcases List.mem_filterMap.1 (List.mem_of_getElem? hu) with ⟨f, hf, hfu⟩
    rcases framePipe_linked link.sender f.2 with ⟨slot, hslot⟩
    have hover : f ∈ n.sender.sentOver link.sender (framePipe link.sender f.2) :=
      List.mem_filter.2 ⟨hf, by simp⟩
    rw [← List.take_append_drop (d slot - 1) (n.sender.sentOver link.sender _),
      List.mem_append] at hover
    refine (h.arrived id).2 ⟨slot, n.sender.sentUserMsgs[id - 1], ?_, by omega⟩
    rw [arrivedOn_linked hslot]
    rcases hover with hread | hunread
    · exact List.mem_filterMap.2 ⟨f, hread, hfu⟩
    · have hmem := List.mem_filterMap.2 ⟨f, hunread, hfu⟩
      rw [hall slot _ hslot] at hmem
      simp at hmem
  rcases h.order.complete hreceived with ⟨hon, _, hqueue⟩
  exact ⟨hon, hqueue⟩

/-- A drained pipe was read to the end of its last frame. -/
theorem Positions.drained (h : Positions link token n d k)
    (hs : Sending link.sender token n.sender) {slot : PipeSlot} {out : OutPipe}
    (hlinked : linkedPipe link.sender.pipes slot = some out)
    (hnone : n.nextItem link slot = none) :
    (n.sender.sentOver link.sender out).drop (d slot - 1) = [] := by
  have hlog := hs.log out (hasOutPipe_of_linkedPipe hlinked)
  rw [nextItem, hlinked, Option.bind_some, List.getElem?_eq_none_iff, hlog, List.length_append,
    List.length_map] at hnone
  have hfinished := (h.stream slot out hlinked).finished (framesOn_ne_nil out) (by omega)
  cases hstarted : n.sender.startedOps with
  | false => simp [sentOver, (hs.fresh hstarted).1]
  | true =>
      rw [hfinished.1, framesOn_of_started hstarted]
      simp

/--
Two peers logged in with one token, over any pipes, of which the sender does not
end sending: what is sent is what the calls of the run send with success, as their
callers give it; the receiver is never hosed and hands on a prefix of the messages
that were sent, each as it was sent; once the pipes are drained, all of them.
-/
theorem end_to_end_delivery (link : Link) (token : SessionToken) (nonNil : token.isNil = false)
    (ls : List (NetLabel S R)) (n : Net S R)
    (hrun : Net.run link (Net.ctor (.loggedIn token nonNil) (.loggedIn token nonNil)) ls = some n)
    (hser : ∀ l ∈ ls, l.Serializes) (hread : Readable link n)
    (hopen : n.sender.channel.sendingEnded = false) :
    SentByCalls link token (Net.ctor (.loggedIn token nonNil) (.loggedIn token nonNil)) ls n ∧
      n.receiver.channelErrCodeOrOk = none ∧
      n.receiver.handedOn <+: n.sender.sentUserMsgs.map (inMsgFor link.receiver token) ∧
      (n.Drained link →
        n.receiver.handedOn = n.sender.sentUserMsgs.map (inMsgFor link.receiver token) ∧
          n.receiver.rcvReassemblyQ.entries = []) := by
  have hp₀ : Peers link token
      (Net.ctor (.loggedIn token nonNil) (.loggedIn token nonNil) : Net S R) :=
    peers_ctor link rfl _
  have h := run_delivering hp₀ (delivering_ctor link nonNil _) hser hrun hread hopen
  have hp : Peers link token n := by
    refine Transition.run_invariant (fun n => Peers link token n) ?_ hp₀ hrun
    exact fun _ _ _ hp hstep => hp.step hstep
  rcases h.attached with ⟨d, k, hatt⟩
  refine ⟨sentByCalls_of_run rfl hrun, hatt.live, hatt.arrivals.order.initial_segment,
    fun hdrained => ?_⟩
  refine hatt.arrivals.complete hp.sender.sending fun slot out hlinked => ?_
  rw [hatt.positions.drained hp.sender.sending hlinked (hdrained slot)]
  rfl

/--
Message 1 of one segment goes over the blob pipe and message 2, with a handle,
over the other; message 2 is read first.
-/
def racingRun : List (NetLabel Unit Unit) :=
  [.sender (.call .startOps), .call .startOps, .call (.startAndPoll ()),
    .sender (.call (.send (ReferenceCapnp.msgOut none 3) none)),
    .sender (.call (.send (ReferenceCapnp.msgOut (some 9) 4) none)),
    .deliver .front, .deliver .front, .deliver .front, .deliver .back, .deliver .back,
    .deliver .back]

/-- Both messages of the race are handed on, in the order they were sent. -/
theorem end_to_end_delivery_of_race :
    ∃ n : Net Unit Unit,
      Net.run (.reference .twoPipes) (Net.ctor .reference .reference) racingRun = some n ∧
      (successfulSends (.reference .twoPipes) (Net.ctor .reference .reference)
        racingRun).length = 2 ∧
      n.receiver.handedOn =
        n.sender.sentUserMsgs.map (inMsgFor (.reference .twoPipes) ReferenceCapnp.token) := by
  have hruns : ((Net.run (.reference .twoPipes) (Net.ctor .reference .reference) racingRun).any
      fun n => n.sender.channel.sendingEnded = false ∧ n.sender.sentUserMsgs.length = 2 ∧
        (∀ u ∈ n.sender.sentUserMsgs,
          ReferenceCapnp.capnp.readBody u.2.segments = .ok u.2.bodyWhich) ∧
        n.nextItem (.reference .twoPipes) .front = none ∧
        n.nextItem (.reference .twoPipes) .back = none) = true := by
    decide +kernel
  rcases (Option.any_eq_true _ _).1 hruns with ⟨n, hrun, hn⟩
  rcases of_decide_eq_true hn with ⟨hopen, htwo, hread, hfront, hback⟩
  have h := end_to_end_delivery (.reference .twoPipes) ReferenceCapnp.token (by decide) racingRun n
    hrun (by decide +kernel) hread hopen
  refine ⟨n, hrun, ?_, (h.2.2.2 ?_).1⟩
  · have hlen := congrArg List.length h.1.sent
    rw [htwo, List.length_map] at hlen
    exact hlen.symm
  intro slot
  cases slot with
  | front => exact hfront
  | back => exact hback

end Net
end StrucTransport
