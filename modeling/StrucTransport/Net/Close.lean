import StrucTransport.Net.Delivery

/-!
# The graceful close

A graceful close follows the last payload of each pipe, and the first one that is
read hoses the receiver.  With two pipes, messages may be unread on the other one
at that time; they are lost.

Main results:

- Theorem {lit}`graceful_close_loses_nothing`: no message is lost in the runs in
  which each graceful close is read only when no user message is unread on the
  other pipe.
- Theorem {lit}`graceful_close_loses_message`: otherwise messages are lost, also
  when the pipes are read in the order of {lit}`start_and_poll()`.
-/

namespace StrucTransport

variable {S R : Type}

namespace Channel

variable (env : Env)

/-- A read that is to stop leaves the sequencing alone. -/
theorem onRecv_stopped (c : Channel R) (slot : PipeSlot) (pipe : MsgInPipe) (kind : ReadKind)
    (result : RcvResult) (hstop : (c.handleAsyncErrCode env (rcvError result)).2 = true) :
    SeqFrame c (c.onRecv env slot pipe kind result) ∧
      (c.onRecv env slot pipe kind result).channelErrCodeOrOk =
        (c.handleAsyncErrCode env (rcvError result)).1.channelErrCodeOrOk := by
  have hframe := handleAsyncErrCode_rcvFrame env c (rcvError result)
  have hres : c.onRecv env slot pipe kind result =
      ((c.handleAsyncErrCode env (rcvError result)).1.stopReading slot pipe).handlersPoll := by
    have hpair : c.handleAsyncErrCode env (rcvError result) =
        ((c.handleAsyncErrCode env (rcvError result)).1, true) := Prod.ext rfl hstop
    cases kind with
    | protoNeg =>
        change c.rcvOnAsyncReadProtoNegMsg env slot pipe result = _
        unfold rcvOnAsyncReadProtoNegMsg
        rw [hpair]
    | lead =>
        change c.onRecvMsg env slot pipe true result = _
        unfold onRecvMsg
        rw [hpair]
    | continuation =>
        change c.onRecvMsg env slot pipe false result = _
        unfold onRecvMsg
        rw [hpair]
  rw [hres]
  refine ⟨?_, ?_⟩
  · exact (hframe.toSeqFrame.trans (setRcvPipe_seqFrame _ _ _)).trans
      (handlersPoll_rcvFrame _).toSeqFrame
  · rw [handlersPoll_channelErr, stopReading, channelErr_setRcvPipe]

/-- A failed read hoses the channel with its code. -/
theorem onRecv_error {c : Channel R} (hlive : c.channelErrCodeOrOk = none) (slot : PipeSlot)
    (pipe : MsgInPipe) (kind : ReadKind) (e : ErrorCode) :
    SeqFrame c (c.onRecv env slot pipe kind (.error e)) ∧
      (c.onRecv env slot pipe kind (.error e)).channelErrCodeOrOk = some e := by
  have hasync : c.handleAsyncErrCode env (some e) = (c.handleNewError env e, true) := by
    simp [handleAsyncErrCode, hlive]
  have h := onRecv_stopped env c slot pipe kind (.error e) (by rw [rcvError, hasync])
  rw [rcvError, hasync] at h
  exact h

/-- A hosed channel makes nothing of what it receives. -/
theorem onRecv_hosed {c : Channel R} (hhosed : c.channelErrCodeOrOk ≠ none) (slot : PipeSlot)
    (pipe : MsgInPipe) (kind : ReadKind) (result : RcvResult) :
    SeqFrame c (c.onRecv env slot pipe kind result) ∧
      (c.onRecv env slot pipe kind result).channelErrCodeOrOk = c.channelErrCodeOrOk := by
  have hsome : c.channelErrCodeOrOk.isSome = true := Option.isSome_iff_ne_none.2 hhosed
  have hasync : c.handleAsyncErrCode env (rcvError result) = (c, true) := by
    cases result <;> simp [handleAsyncErrCode, rcvError, hsome]
  have h := onRecv_stopped env c slot pipe kind result (by rw [hasync])
  rw [hasync] at h
  exact h

end Channel

namespace Net

open Channel

variable {link : Link} {token : SessionToken} {n : Net S R} {d k : PipeSlot → Nat}

/-! ## When a close may arrive -/

/-- Every user message that was sent over the pipe was read whole. -/
def AllRead (link : Link) (n : Net S R) (slot : PipeSlot) : Prop :=
  ∀ out ∈ linkedPipe link.sender.pipes slot, ∀ i < (n.sender.sentOver link.sender out).length,
    ((n.sender.sentOver link.sender out)[i]?.bind userMsg?).isSome →
      ((n.sender.framesOn link.sender out).take (i + 2)).flatten.length ≤ n.read slot

/-- A graceful close arrives only when no user message is unread on the other pipe. -/
def ClosesLate (link : Link) (n : Net S R) : NetLabel S R → Prop
  | .deliver slot =>
      n.nextItem link slot = some .gracefulClose → ∀ slot', slot' ≠ slot → n.AllRead link slot'
  | _ => True

/-- The messages after the position of such a pipe are internal. -/
theorem Positions.allRead (h : Positions link token n d k)
    (hs : Sending link.sender token n.sender) {slot : PipeSlot} {out : OutPipe}
    (hlinked : linkedPipe link.sender.pipes slot = some out) (hall : n.AllRead link slot) :
    ((n.sender.sentOver link.sender out).drop (d slot - 1)).filterMap userMsg? = [] := by
  rw [List.filterMap_eq_nil_iff]
  intro f hf
  by_contra huser
  rcases List.mem_iff_getElem?.1 hf with ⟨i, hi⟩
  rw [List.getElem?_drop] at hi
  rcases List.getElem?_eq_some_iff.1 hi with ⟨hlen, _⟩
  have hread := hall out hlinked _ hlen
    (by rw [hi]; exact Option.isSome_iff_ne_none.2 huser)
  have hstarted : n.sender.startedOps = true := by
    by_contra hnot
    have hnone := (hs.fresh (by simpa using hnot)).1
    simp [sentOver, hnone] at hlen
  have hframes : (n.sender.framesOn link.sender out).length =
      (n.sender.sentOver link.sender out).length + 1 := by
    simp [framesOn_of_started hstarted]
  have hwhole := (h.stream slot out hlinked).whole_of_le (framesOn_ne_nil out) (by omega) hread
  omega

/-! ## After the close -/

/-- The receiver was hosed when all that was sent had been handed on. -/
structure Closed (link : Link) (token : SessionToken) (n : Net S R) : Prop where
  hosed : n.receiver.channelErrCodeOrOk ≠ none
  ended : n.sender.channel.sendingEnded = true
  handedOn : n.receiver.handedOn = n.sender.sentUserMsgs.map (inMsgFor link.receiver token)

/-- A late close arrives when all that was sent has been handed on. -/
theorem Delivering.closed (h : Delivering link token n) (hp : Peers link token n)
    {slot : PipeSlot} (hlate : ClosesLate link n (.deliver slot))
    (hitem : n.nextItem link slot = some .gracefulClose) {c : Channel R}
    (hstep : Channel.step link.receiver n.receiver (.rcv slot (.error link.closeCode)) = some c) :
    Closed link token (n.received slot c) := by
  rcases h.attached with ⟨d, k, hatt⟩
  have hall : ∀ slot' out, linkedPipe link.sender.pipes slot' = some out →
      ((n.sender.sentOver link.sender out).drop (d slot' - 1)).filterMap userMsg? = [] := by
    intro slot' out hlinked
    by_cases hslot : slot' = slot
    · subst hslot
      rcases hatt.positions.next hp.sender.sending hitem with ⟨out', hlinked', ⟨p, f, hp, _⟩ |
        ⟨_, _, hend, _⟩⟩
      · cases hp
      · rw [hlinked, Option.some.injEq] at hlinked'
        subst hlinked'
        rw [List.drop_eq_nil_of_le, List.filterMap_nil]
        have hlen : (n.sender.sentOver link.sender out).length ≤
            (n.sender.framesOn link.sender out).length - 1 := by
          cases hstarted : n.sender.startedOps with
          | false => simp [sentOver, (hp.sender.sending.fresh hstarted).1]
          | true => simp [framesOn_of_started hstarted]
        omega
    · exact hatt.positions.allRead hp.sender.sending hlinked (hlate hitem slot' hslot)
  rcases Channel.step_cases hstep with ⟨x, hx, _⟩ | ⟨slot', result, pipe, kind, hlabel, _, _, _, _,
    rfl⟩ | ⟨t, rest, hx, _⟩
  · cases hx
  · cases hlabel
    rcases onRecv_error link.receiver hatt.live slot pipe kind link.closeCode with
      ⟨hframe, herr⟩
    refine ⟨?_, h.ended hp hitem, ?_⟩
    · rw [received_receiver, herr]
      simp
    · rw [received_receiver, hframe.handedOn]
      exact (hatt.arrivals.complete hp.sender.sending hall).1
  · cases hx

/-- Nothing happens to the messages after the close. -/
theorem Closed.step (h : Closed link token n) (hp : Peers link token n) {n' : Net S R}
    {l : NetLabel S R} (hstep : n.step link l = some n') : Closed link token n' := by
  have hkept : ∀ l' {c}, Channel.step link.receiver n.receiver l' = some c →
      c.channelErrCodeOrOk ≠ none := by
    intro l' c hc
    have hrun : Channel.run link.receiver n.receiver [l'] = some c := by
      simp [Channel.run, Transition.run, hc]
    rcases Option.ne_none_iff_exists'.1 h.hosed with ⟨e, he⟩
    rw [run_errorKept hp.receiver.wellFormed hrun he]
    simp
  rcases Net.step_cases link hstep with ⟨l', c, _, hc, rfl⟩ | ⟨x, _, hover, rfl⟩ |
    ⟨c, _, hc, rfl⟩ | ⟨slot, item, c, _, _, hc, rfl⟩
  · have hgrows := (hp.sender.step link.sendError hc).2
    rcases hgrows.ended h.ended with ⟨hended, hmsgs⟩
    refine ⟨h.hosed, hended, ?_⟩
    simp only [sentUserMsgs, hmsgs]
    exact h.handedOn
  · have hframe := call_seqFrame link.receiver n.receiver x
    exact ⟨hkept (.call x) (Channel.step_call_eq_some.2 ⟨hover, rfl⟩), h.ended,
      hframe.handedOn.trans h.handedOn⟩
  · refine ⟨hkept _ hc, h.ended, ?_⟩
    rcases Channel.step_cases hc with ⟨x, hx, _⟩ | ⟨slot, result, pipe, kind, hx, _⟩ |
      ⟨t, rest, _, _, rfl⟩
    · cases hx
    · cases hx
    · exact (handlerReturned_rcvFrame n.receiver t rest).handedOn.trans h.handedOn
  · refine ⟨hkept _ hc, h.ended, ?_⟩
    rcases Channel.step_cases hc with ⟨x, hx, _⟩ | ⟨slot', result, pipe, kind, _, _, _, _, _, rfl⟩ |
      ⟨t, rest, hx, _⟩
    · cases hx
    · exact (onRecv_hosed link.receiver h.hosed slot' pipe kind result).1.handedOn.trans h.handedOn
    · cases hx

/--
In a run in which each graceful close is read late, the receiver is hosed only
after every message that was sent has been handed on; these are the messages that the
calls of the run sent with success.
-/
theorem graceful_close_loses_nothing (link : Link) (token : SessionToken)
    (nonNil : token.isNil = false) (ls : List (NetLabel S R)) (n : Net S R)
    (hrun : Net.run link (Net.ctor (.loggedIn token nonNil) (.loggedIn token nonNil)) ls = some n)
    (hlate : Transition.Meets (Net.step link) (fun n l => l.Serializes ∧ ClosesLate link n l)
      (Net.ctor (.loggedIn token nonNil) (.loggedIn token nonNil)) ls)
    (hread : Readable link n) (hhosed : n.receiver.Hosed) :
    SentByCalls link token (Net.ctor (.loggedIn token nonNil) (.loggedIn token nonNil)) ls n ∧
      n.receiver.handedOn = n.sender.sentUserMsgs.map (inMsgFor link.receiver token) := by
  refine ⟨sentByCalls_of_run rfl hrun, ?_⟩
  have hinv := hlate.invariant
    (fun n => Peers link token n ∧ (Readable link n →
      Delivering link token n ∨ Closed link token n)) ?_
      ⟨peers_ctor link rfl _, fun _ => Or.inl (delivering_ctor link nonNil _)⟩ hrun
  · rcases hinv.2 hread with hdel | hclosed
    · rcases hdel.attached with ⟨d, k, hatt⟩
      exact absurd hatt.live hhosed
    · exact hclosed.handedOn
  · rintro n l n' ⟨hp, hinv⟩ ⟨hser, hlate⟩ hstep
    have hgrows := step_grows hp hstep
    refine ⟨hp.step hstep, fun hread => ?_⟩
    rcases hinv (hread.before hgrows) with hdel | hclosed
    · rcases hdel.step hp (hread.before hgrows) hser hstep with hdel' | ⟨slot, rfl, hclose⟩
      · exact Or.inl hdel'
      · rcases Net.step_cases link hstep with ⟨l', c, hl, _⟩ | ⟨x, hl, _⟩ | ⟨c, hl, _⟩ |
          ⟨slot', item, c, hl, hitem, hc, rfl⟩
        · cases hl
        · cases hl
        · cases hl
        · cases hl
          rw [hclose, Option.some.injEq] at hitem
          subst hitem
          exact Or.inr (hdel.closed hp hlate hclose hc)
    · exact Or.inr (hclosed.step hp hstep)

/-! ## A close that comes too early -/

instance decidableForallSlot (P : PipeSlot → Prop) [DecidablePred P] : Decidable (∀ slot, P slot) :=
  decidable_of_iff (P .front ∧ P .back)
    ⟨fun h slot => by cases slot with | front => exact h.1 | back => exact h.2,
      fun h => ⟨h .front, h .back⟩⟩

instance (link : Link) (n : Net S R) (slot : PipeSlot) : Decidable (n.AllRead link slot) :=
  inferInstanceAs (Decidable (∀ out ∈ linkedPipe link.sender.pipes slot, _))

instance (link : Link) (n : Net S R) : ∀ l : NetLabel S R, Decidable (ClosesLate link n l)
  | .deliver _ => inferInstanceAs (Decidable (_ → ∀ slot', slot' ≠ _ → n.AllRead link slot'))
  | .sender _ => isTrue trivial
  | .call _ => isTrue trivial
  | .handlerReturned => isTrue trivial

/--
Message 1 goes over the blob pipe and sending is ended; the receiver reads the
handles pipe first, as {lit}`start_and_poll()` does, and meets its graceful close.
-/
def earlyCloseRun : List (NetLabel Unit Unit) :=
  [.sender (.call .startOps), .sender (.call (.send (ReferenceCapnp.msgOut none 3) none)),
    .sender (.call .asyncEndSending), .call .startOps, .call (.startAndPoll ()), .deliver .front,
    .deliver .front]

/-- The same, but the blob pipe is read first, up to its graceful close. -/
def lateCloseRun : List (NetLabel Unit Unit) :=
  [.sender (.call .startOps), .sender (.call (.send (ReferenceCapnp.msgOut none 3) none)),
    .sender (.call .asyncEndSending), .call .startOps, .call (.startAndPoll ()), .deliver .back,
    .deliver .back, .deliver .back, .deliver .back]

/-- A message that is unread when the other pipe's close is read is not handed on. -/
theorem graceful_close_loses_message :
    ∃ n : Net Unit Unit,
      Net.run (.reference .twoPipes) (Net.ctor .reference .reference) earlyCloseRun = some n ∧
      (∀ l ∈ earlyCloseRun, l.Serializes) ∧ n.Readable (.reference .twoPipes) ∧
      n.sender.sentUserMsgs.length = 1 ∧ n.receiver.Hosed ∧ n.receiver.handedOn = [] := by
  have hruns : ((Net.run (.reference .twoPipes) (Net.ctor .reference .reference)
      earlyCloseRun).any fun n => (∀ u ∈ n.sender.sentUserMsgs,
          ReferenceCapnp.capnp.readBody u.2.segments = .ok u.2.bodyWhich) ∧
        n.sender.sentUserMsgs.length = 1 ∧ n.receiver.Hosed ∧ n.receiver.handedOn = []) = true := by
    decide +kernel
  rcases (Option.any_eq_true _ _).1 hruns with ⟨n, hrun, hn⟩
  rcases of_decide_eq_true hn with ⟨hread, hone, hhosed, hnone⟩
  exact ⟨n, hrun, by decide +kernel, hread, hone, hhosed, hnone⟩

/-- Nothing is lost if the message was read before the close. -/
theorem graceful_close_loses_nothing_after_last_message :
    ∃ n : Net Unit Unit,
      Net.run (.reference .twoPipes) (Net.ctor .reference .reference) lateCloseRun = some n ∧
      n.receiver.Hosed ∧ n.sender.sentUserMsgs.length = 1 ∧
      n.receiver.handedOn =
        n.sender.sentUserMsgs.map (inMsgFor (.reference .twoPipes) ReferenceCapnp.token) := by
  have hruns : ((Net.run (.reference .twoPipes) (Net.ctor .reference .reference)
      lateCloseRun).any fun n => (∀ u ∈ n.sender.sentUserMsgs,
          ReferenceCapnp.capnp.readBody u.2.segments = .ok u.2.bodyWhich) ∧
        n.sender.sentUserMsgs.length = 1 ∧ n.receiver.Hosed) = true := by
    decide +kernel
  rcases (Option.any_eq_true _ _).1 hruns with ⟨n, hrun, hn⟩
  rcases of_decide_eq_true hn with ⟨hread, hone, hhosed⟩
  have h := graceful_close_loses_nothing (.reference .twoPipes) ReferenceCapnp.token (by decide)
    lateCloseRun n hrun (by decide +kernel) hread hhosed
  exact ⟨n, hrun, hhosed, hone, h.2⟩

end Net
end StrucTransport
