import StrucTransport.Channel.ErrFunc
import StrucTransport.Net.AsyncDuplex
import StrucTransport.Net.TwoWay

/-!
# Reads that can complete

The pipes of a channel that has started are read on as long as it is not hosed.  So
a payload that the other peer put on a pipe can be received.

Main results:

- Theorem {lit}`Reachable.begun`: each pipe of a started channel is set up.
- Theorem {lit}`Duplex.exists_rcv`: the next payload of a pipe can be received.
- Theorem {lit}`AsyncDuplex.exists_onActiveEv`: so it can by an async-I/O channel.
-/

namespace StrucTransport

variable {F H : Type}

namespace Channel

variable {env : Env}

/-! ## Pipes that are set up -/

/-- Once there is an error handler, each pipe is set up. -/
def Begun (env : Env) (c : Channel H) : Prop :=
  c.onErrFunc ≠ none → ∀ slot, slotMode env.pipes slot ≠ none → c.rcvPipe slot ≠ none

/-- A call keeps the pipes, or sets them up. -/
theorem Begun.call (henv : env.Reliable) {c : Channel H} (h : Begun env c)
    (hneg : NegotiationSent c) (x : Call H) : Begun env (c.call env x) := by
  intro hfunc slot hslot
  by_cases hx : ∀ f, x ≠ .startAndPoll f
  · rw [call_rcvPipe env c hx slot]
    rcases Option.ne_none_iff_exists'.1 hfunc with ⟨f, hf⟩
    rcases call_onErrFunc env c x hf with hbefore | hstart
    · exact h (by simp [hbefore]) slot hslot
    · exact absurd hstart (hx f)
  · push Not at hx
    rcases hx with ⟨f, rfl⟩
    cases hpre : c.startPrecluded with
    | true =>
        have hsame : c.call env (.startAndPoll f) = c := startAndPoll_of_precluded f hpre
        rw [hsame] at hfunc ⊢
        exact h hfunc slot hslot
    | false =>
        rcases Option.ne_none_iff_exists'.1 hslot with ⟨mode, hmode⟩
        rcases (startAndPoll_polls henv hneg.protoNegOk f hpre).pipe slot mode hmode with
          ⟨pipe, hpipe, _⟩
        intro hnone
        exact Option.some_ne_none pipe (hpipe.symm.trans hnone)

/-- The error handler is set as the pipes are set up, and no step unsets a pipe. -/
theorem Begun.step (henv : env.Reliable) {c c' : Channel H} {l : Label H} (h : Begun env c)
    (hneg : NegotiationSent c) (hstep : step env c l = some c') : Begun env c' := by
  by_cases hl : ∃ x, l = .call x
  · rcases hl with ⟨x, rfl⟩
    have heq : c' = c.call env x := (step_call_eq_some.1 hstep).2
    rw [heq]
    exact h.call henv hneg x
  · have hno : ∀ x, l ≠ .call x := fun x hx => hl ⟨x, hx⟩
    intro hfunc slot hslot
    rcases Option.ne_none_iff_exists'.1 hfunc with ⟨f, hf⟩
    have hbefore := h (by simp [step_onErrFunc hno hstep hf]) slot hslot
    rcases step_pipe hstep slot with ⟨_, hpipe⟩ | ⟨g, hcall, _⟩ | ⟨_, _, _, _, _, _, _, _, hreceipt⟩
    · rwa [hpipe]
    · exact absurd hcall (hno _)
    · rcases hreceipt.rcvPipe_isSome with ⟨pipe', hpipe'⟩
      rw [hpipe']
      exact Option.some_ne_none pipe'

/-- Each pipe of a channel that has started is set up. -/
theorem Reachable.begun (henv : env.Reliable) {c : Channel H} (h : Reachable env c) :
    Begun env c := by
  rcases h with ⟨args, ls, hrun⟩
  let P : Channel H → Prop := fun c => Reachable env c ∧ Begun env c
  have hinit : P (ctor args) := by
    refine ⟨⟨args, [], rfl⟩, fun hfunc => absurd ?_ hfunc⟩
    cases args <;> rfl
  refine (Transition.run_invariant P ?_ hinit hrun).2
  rintro c l c' ⟨hreach, hbegun⟩ hstep
  exact ⟨hreach.step hstep, hbegun.step henv (hreach.negotiationSent henv.sendError) hstep⟩

/-! ## Payloads that a pipe can give -/

/-- What goes over the blob pipe has no handle. -/
theorem framePayloads_blob {env : Env} {mdt : StructuredMessage} {msg : Option MsgOut}
    (hpipe : framePipe env msg = .blob) : ∀ p ∈ framePayloads env mdt msg, p.hndl = none := by
  have hlead : hndlFor env.pipes (msg.bind MsgOut.nativeHandleOrNull) = none := by
    unfold framePipe outPipeFor at hpipe
    unfold hndlFor
    cases hpipes : env.pipes <;> rw [hpipes] at hpipe <;>
      cases hhndl : msg.bind MsgOut.nativeHandleOrNull <;>
        simp_all [Pipes.hasNativeHandlePipe]
  intro p hp
  simp only [framePayloads, payloads, List.mem_cons, List.mem_map] at hp
  rcases hp with rfl | ⟨blob, _, rfl⟩
  · exact hlead
  · rfl

end Channel

namespace Net

open Channel

variable {S R : Type} {link : Link} {token : SessionToken} {n : Net S R} {d k : PipeSlot → Nat}

/-- The pipe that is read at the position can give its next payload. -/
theorem Positions.rcvPossible (h : Positions link token n d k)
    (hs : Sending link.sender token n.sender) {slot : PipeSlot} {pipe : MsgInPipe}
    (hpipe : n.receiver.rcvPipe slot = some pipe) {p : Payload}
    (hitem : n.nextItem link slot = some (.payload p)) :
    Channel.rcvPossible pipe (.ok p) = true := by
  rcases h.pipe slot pipe hpipe with ⟨hmode, _, _⟩
  rcases h.next hs hitem with ⟨out, hlinked, ⟨p', f, hp', hf, hfp, _⟩ | ⟨hclose, _⟩⟩
  · cases hp'
    by_cases hsans : pipe.leadMsgMode = .sansHndlOnly
    · rw [hsans] at hmode
      have hblob : out = .blob := by
        cases hpipes : link.sender.pipes <;> cases slot <;>
          simp_all [slotMode, linkedPipe]
      have hnone : p.hndl = none := by
        cases hd : d slot with
        | zero =>
            rw [hd] at hf
            rw [framesOn_zero hs hf] at hfp
            rw [List.mem_singleton.1 (List.mem_of_getElem? hfp)]
            rfl
        | succ d₀ =>
            rw [hd] at hf
            rcases framesOn_succ hs hf with ⟨m, hm, rfl⟩
            have hover := (mem_sentOver (List.mem_of_getElem? hm)).2
            exact framePayloads_blob (hover.trans hblob) p (List.mem_of_getElem? hfp)
      simp [Channel.rcvPossible, hnone]
    · simp [Channel.rcvPossible, hsans]
  · cases hclose

/-- A lead payload of a pipe that insists on a native handle comes with one. -/
theorem Positions.gotNoHndl (h : Positions link token n d k)
    (hs : Sending link.sender token n.sender) {slot : PipeSlot} {p : Payload}
    (hitem : n.nextItem link slot = some (.payload p)) :
    n.receiver.gotNoHndl (.rcv slot (.ok p)) = false := by
  by_contra hgot
  rcases gotNoHndl_rcv (eq_true_of_ne_false hgot) with ⟨_, pipe, hpipe, hlead, hinsists, hnone⟩
  rcases h.pipe slot pipe hpipe with ⟨hmode, out, hlinked, hat⟩
  rcases h.next hs hitem with ⟨out', hlinked', ⟨p', f, hp', hf, hfp, _⟩ | ⟨hclose, _⟩⟩
  · cases hp'
    rw [hlinked, Option.some.injEq] at hlinked'
    subst hlinked'
    generalize d slot = frames at hat hf
    generalize k slot = payloads at hat hfp
    cases hat with
    | negotiation waits => simp [waits.outstanding] at hlead
    | segment under waits count => simp [waits.outstanding] at hlead
    | lead waits =>
        rcases framesOn_succ hs hf with ⟨⟨mdt, msg⟩, hm, rfl⟩
        rcases mem_sentOver (List.mem_of_getElem? hm) with ⟨hmem, hout⟩
        have hhndl := framePipe_mode hlinked hmode hout hinsists
        cases hs.headers _ hmem with
        | user msg orig id id_ne_zero sendable =>
            rw [framePayloads_user _ sendable, List.getElem?_cons_zero, Option.some.injEq] at hfp
            rw [← hfp] at hnone
            exact hhndl hnone
        | internal orig text orig_ne_zero => exact hhndl rfl
  · cases hclose

end Net

/-! ## The next payload -/

namespace Duplex

variable {conn : Connection}

/-- The next payload of a pipe can be received, once the reading peer has started. -/
theorem exists_rcv (hrel : conn.Reliable) {d : Duplex H} {side : Side} {token : SessionToken}
    (hpeers : Net.Peers (conn.link hrel side) token (d.toward side))
    (hdel : Net.Delivering (conn.link hrel side) token (d.toward side))
    (hidle : (d.peer side).polling = none) (hstarted : (d.peer side).onErrFunc ≠ none)
    {slot : PipeSlot} {p : Payload}
    (hp : (d.farPayloads conn side slot)[d.taken side slot]? = some p) :
    ∃ c, Channel.step (conn.env side) (d.peer side) (.rcv slot (.ok p)) = some c := by
  have hs : Channel.Sending (conn.env side.other) token (d.peer side.other) :=
    hpeers.sender.sending
  have hitem := nextItem_toward hrel hs hp
  rcases hdel.attached with ⟨reads, parts, hatt⟩
  rcases hatt.positions.next hs hitem with ⟨out, hlinked, _⟩
  have hmode : Channel.slotMode (conn.env side).pipes slot ≠ none := by
    have hpipes : (conn.env side.other).pipes = (conn.env side).pipes := conn.pipes side
    have hout : linkedPipe (conn.env side).pipes slot = some out := hpipes ▸ hlinked
    cases hkind : (conn.env side).pipes <;> cases slot <;>
      simp_all [Channel.slotMode, linkedPipe]
  have hreach : Channel.Reachable (conn.env side) (d.peer side) := hpeers.receiver
  have hset := hreach.begun (hrel side) hstarted slot hmode
  rcases Option.ne_none_iff_exists'.1 hset with ⟨pipe, hpipe⟩
  rcases hatt.positions.pipe slot pipe hpipe with ⟨_, _, _, hat⟩
  rcases hat.outstanding with ⟨kind, hkind⟩
  have hposs := hatt.positions.rcvPossible hs hpipe hitem
  apply Option.isSome_iff_exists.1
  simp [Channel.step, Channel.pendingRead, hidle, hpipe, hkind, hposs]

end Duplex

namespace AsyncChannel

variable {env : Env}

/-- The handlers that are run find no error. -/
theorem runSyncIoHandlers_falsyErrors (a : AsyncChannel F) (fuel : Nat) :
    (a.runSyncIoHandlers fuel).syncIo.falsyErrors = a.syncIo.falsyErrors := by
  induction fuel generalizing a with
  | zero => rfl
  | succ fuel ih =>
      unfold runSyncIoHandlers
      split
      · rw [ih]
        exact Channel.falsyErrors_handlerReturned _ _ _
      · rfl

/-- As long as no code is falsy, a read does not end the process. -/
theorem exists_completes {a : AsyncChannel F} {slot : PipeSlot} {result : Channel.RcvResult}
    {c : Channel (SyncIoFunc F)} (hreach : Channel.Reachable env a.syncIo)
    (htruthy : a.syncIo.falsyErrors = 0) (hhndl : a.syncIo.gotNoHndl (.rcv slot result) = false)
    (hstep : a.syncIo.step env (.rcv slot result) = some c) :
    ∃ a', a.onActiveEv env slot result = some a' := by
  let a₁ : AsyncChannel F := { a with syncIo := c }
  let a' := a₁.runSyncIoHandlers (c.batchRest.length + 1)
  have hreach' : Channel.Reachable env a'.syncIo :=
    Channel.RunsTo.reachable (runSyncIoHandlers_syncIo env a₁ _) (hreach.step hstep)
  have htruthy' : a'.syncIo.falsyErrors = 0 := by
    rw [runSyncIoHandlers_falsyErrors]
    exact (Channel.step_falsyErrors hhndl hstep).trans htruthy
  have hall := (hreach'.reporting.reported htruthy').allReported
  exact ⟨a', onActiveEv_eq_some.2 ⟨c, hstep, rfl, endsProcess_eq_false.2 hall⟩⟩

end AsyncChannel

namespace AsyncDuplex

variable {conn : Connection}

/-- The reads that complete in the callback of an event wait. -/
theorem completedReads_onActiveEv (env : Env) (a : AsyncChannel F) (slot : PipeSlot)
    (result : Channel.RcvResult) :
    a.completedReads env (.onActiveEv slot result) = [(slot, result)] := by
  have hlater : ∀ l ∈ (AsyncChannel.readLabels env a.syncIo slot result).tail, l.read? = none := by
    intro l hl
    rw [AsyncChannel.mem_readLabels_tail hl]
    rfl
  have hnone := List.filterMap_eq_nil_iff.2 hlater
  rw [AsyncChannel.completedReads]
  exact congrArg ((slot, result) :: ·) hnone

/-- The next payload of a pipe can be received while thread W runs no handler. -/
theorem exists_onActiveEv {d : AsyncDuplex F} {side : Side} {slot : PipeSlot} {p : Payload}
    (hidle : (d.peer side).running = none)
    (hp : (d.cores.farPayloads conn side slot)[d.taken side slot]? = some p)
    (hrcv : ∃ c, Channel.step (conn.env side) (d.cores.peer side) (.rcv slot (.ok p)) = some c)
    (hreach : Channel.Reachable (conn.env side) (d.peer side).syncIo)
    (htruthy : (d.peer side).syncIo.falsyErrors = 0)
    (hhndl : (d.peer side).syncIo.gotNoHndl (.rcv slot (.ok p)) = false) :
    ∃ d', d.step conn (side, .onActiveEv slot (.ok p)) = some d' := by
  rcases hrcv with ⟨c, hc⟩
  have hcore : (d.peer side).syncIo.step (conn.env side) (.rcv slot (.ok p)) = some c := hc
  rcases AsyncChannel.exists_completes hreach htruthy hhndl hcore with ⟨a, hread⟩
  have ha : (d.peer side).step (conn.env side) (.onActiveEv slot (.ok p)) = some a := by
    simp [AsyncChannel.step, hidle, hread]
  apply Option.isSome_iff_exists.1
  simp [AsyncDuplex.step, ha, completedReads_onActiveEv, takeReads, hp]

end AsyncDuplex
end StrucTransport
