import StrucTransport.Net.AsyncDuplex
import StrucTransport.Net.Correlation
import StrucTransport.Net.TwoWay
import StrucTransport.Property.Handlers
import StrucTransport.Property.Orphan
import StrucTransport.Property.Sequencing

/-!
# From the users of one peer to the users of the other

Two async-I/O channels over transports that do not fail.  What the users of one of
them send goes through its core, the pipes, the other core, its reassembly queue and
its pending messages, thread W, and so to a user handler or a {lit}`sync_request()`.

Main results:

- Theorem {lit}`AsyncDuplex.end_to_end`: neither channel is hosed, and every message is
  somewhere on this way, once.
-/

namespace StrucTransport

variable {F : Type}

/-! ## Steps that do not fail -/

/-- No read fails, and what is to be sent can be serialized. -/
def AsyncLabel.Lossless (l : AsyncLabel F) : Prop :=
  (∀ read ∈ AsyncChannel.offeredReads l, read.2.toOption.isSome = true) ∧
    match l with
    | .call x => x.core.Serializes
    | .syncRequest msg _ _ => msg.emitError = none
    | _ => True

namespace AsyncLabel

instance : ∀ l : AsyncLabel F, Decidable l.Lossless
  | .call x => inferInstanceAs (Decidable (_ ∧ x.core.Serializes))
  | .syncRequest msg _ _ => inferInstanceAs (Decidable (_ ∧ msg.emitError = none))
  | .syncRequestWakes => inferInstanceAs (Decidable (_ ∧ True))
  | .onActiveEv _ _ => inferInstanceAs (Decidable (_ ∧ True))
  | .endSendingFinishes _ => inferInstanceAs (Decidable (_ ∧ True))
  | .runTask => inferInstanceAs (Decidable (_ ∧ True))
  | .handlerReturned => inferInstanceAs (Decidable (_ ∧ True))

/-- Where the users lose nothing, the core loses nothing. -/
theorem Lossless.coreLabels {env : Env} {a : AsyncChannel F} {l : AsyncLabel F} (h : l.Lossless) :
    ∀ x ∈ AsyncChannel.coreLabels env a l, x.Lossless := by
  intro x hx
  rcases AsyncChannel.mem_coreLabels hx with ⟨y, hy, rfl⟩ | ⟨read, hread, rfl⟩ | rfl
  · cases l with
    | call z => exact Option.some.inj hy ▸ h.2
    | syncRequest msg orig noTimeout =>
        rw [← Option.some.inj hy]
        intro msg' hmsg
        exact Option.some.inj hmsg ▸ h.2
    | _ => cases hy
  · exact h.1 read hread
  · trivial

end AsyncLabel

/-! ## A channel that is not hosed -/

namespace AsyncChannel

variable {env : Env}

/-- While the core has found no error, none is told to the user, nor will be. -/
theorem ErrorLedger.untold {a : AsyncChannel F} (h : ErrorLedger env a)
    (hlive : a.syncIo.channelErrCodeOrOk = none) (htruthy : a.syncIo.falsyErrors = 0) :
    (∀ ev ∈ a.trace, ev.reportsErr = false) ∧ a.errTasks = [] := by
  have hreports := h.core.reports
  have hposted := h.posted
  rw [h.errTasksPosted_length] at hposted
  rw [hlive, htruthy, Option.isSome_none, if_neg Bool.false_ne_true] at hreports
  have htaken : a.errorsTaken = 0 := by omega
  rw [errorsTaken] at htaken
  have hcount : a.trace.countP AsyncEvent.reportsErr = 0 := by omega
  refine ⟨?_, List.length_eq_zero_iff.1 (by omega)⟩
  intro ev hev
  have hnot := List.countP_eq_zero.1 hcount ev hev
  simpa using hnot

end AsyncChannel

/-! ## Both channels -/

namespace AsyncDuplex

variable {conn : Connection}

/-- The user messages that the other side has sent, as this side is to receive them. -/
def sentTo (conn : Connection) (token : SessionToken) (d : AsyncDuplex F) (side : Side) :
    List MsgIn :=
  (d.cores.peer side.other).sentUserMsgs.map (inMsgFor (conn.env side) token)

/-- Each payload that was put on the pipes of the side has been received. -/
def Drained (conn : Connection) (d : AsyncDuplex F) (side : Side) : Prop :=
  ∀ slot, (d.cores.farPayloads conn side slot)[d.taken side slot]? = none

/-- What the handed-on messages of a channel have become. -/
def whereabouts (a : AsyncChannel F) : List MsgIn :=
  a.syncIo.pendingMsgs ++
    (a.beingGiven ++ a.worker.flatMap WorkerTask.departures).map Prod.snd ++
    a.handled.map Prod.snd ++ a.syncOpRsps ++ a.syncIo.discardedMsgs

/--
A channel is not hosed, tells its users no error, and has handed on the first of the
messages that were sent to it, each of which is in one place.
-/
structure Receiving (sent : List MsgIn) (a : AsyncChannel F) : Prop where
  live : a.syncIo.channelErrCodeOrOk = none
  untold : (∀ ev ∈ a.trace, ev.reportsErr = false) ∧ a.errTasks = []
  arrived : a.syncIo.handedOn <+: sent
  placed : a.syncIo.handedOn.Perm (whereabouts a)
  inOrder : InOrder a.handled

/-- The next ID, the queue and what was handed on account for what was accepted. -/
theorem handedOn_placed {env : Env} {a : AsyncChannel F} (h : AsyncChannel.Given env a)
    (hlive : a.syncIo.channelErrCodeOrOk = none) : a.syncIo.handedOn.Perm (whereabouts a) := by
  have hcounted := (h.core.counted hlive).resequenced.received_perm
  have haccounted := h.accounted
  rw [List.perm_iff_count] at hcounted haccounted ⊢
  intro m
  have hon := hcounted m
  have hplaces := haccounted m
  simp only [Channel.resequencer, List.count_append] at hon
  simp only [whereabouts, List.map_append, List.count_append] at hplaces ⊢
  omega

/-- The cores of two channels in which nothing fails are reached without a failure. -/
theorem cores_lossless {args : Side → CtorArgs} {ls : List (Side × AsyncLabel F)}
    {d : AsyncDuplex F} (hrun : run conn (ctor conn args) ls = some d)
    (hls : ∀ l ∈ ls, l.2.Lossless) :
    ∃ ls', Duplex.run conn (Duplex.ctor args) ls' = some d.cores ∧ ∀ l ∈ ls', l.2.Lossless := by
  refine ⟨_, run_cores hrun, ?_⟩
  intro l hl
  rcases List.mem_append.1 hl with hstart | himage
  · have hcall : l.2 = .call .startOps := by
      rcases List.mem_cons.1 hstart with rfl | hright
      · rfl
      · rw [List.mem_singleton.1 hright]
    rw [hcall]
    intro msg hmsg
    cases hmsg
  · refine Transition.image_forall (Q := fun l : Side × Label (SyncIoFunc F) => l.2.Lossless)
      (P := fun l : Side × AsyncLabel F => l.2.Lossless) ?_ hls l himage
    intro d l hl x hx
    rcases List.mem_map.1 hx with ⟨y, hy, rfl⟩
    exact hl.coreLabels y hy

/-- Both directions of two channels in which nothing fails deliver, if nobody closes. -/
theorem delivering_of_run (hrel : conn.Reliable) {token : SessionToken}
    (nonNil : token.isNil = false) {ls : List (Side × AsyncLabel F)} {d : AsyncDuplex F}
    (hrun : run conn (ctor conn fun _ => .loggedIn token nonNil) ls = some d)
    (hls : ∀ l ∈ ls, l.2.Lossless) (hopen : Duplex.Exchanging conn d.cores) (side : Side) :
    Net.Peers (conn.link hrel side) token (d.cores.toward side) ∧
      Net.Delivering (conn.link hrel side) token (d.cores.toward side) := by
  rcases cores_lossless hrun hls with ⟨ls', hcores, hls'⟩
  exact Duplex.delivering_of_run hrel nonNil hcores hls' hopen side

/-- Once the pipes are drained, all that was sent was handed on. -/
theorem handedOn_of_drained (hrel : conn.Reliable) {token : SessionToken} {d : AsyncDuplex F}
    {side : Side} (hpeers : Net.Peers (conn.link hrel side) token (d.cores.toward side))
    (hdel : Net.Delivering (conn.link hrel side) token (d.cores.toward side))
    (hopen : Duplex.Exchanging conn d.cores) (hdrained : d.Drained conn side) :
    (d.peer side).syncIo.handedOn = d.sentTo conn token side ∧
      (d.peer side).syncIo.rcvReassemblyQ.entries = [] := by
  rcases hdel.attached with ⟨_, _, hatt⟩
  have hs : Channel.Sending (conn.env side.other) token (d.cores.peer side.other) :=
    hpeers.sender.sending
  have hnothing := Duplex.drained_toward hrel hs (hopen.opened side.other) hdrained
  apply hatt.arrivals.complete hpeers.sender.sending
  intro slot out hlinked
  rw [hatt.positions.drained hpeers.sender.sending hlinked (hnothing slot)]
  rfl

/--
Two async-I/O channels logged in with one token, over transports that do not fail,
neither of which ends sending: neither is hosed or tells its users an error.  What
was sent to a channel is handed on in order, and is then in one place: it is pending,
on thread W, handled, passed to the response function of a {lit}`sync_request()`, which
drops it if the call has timed out, or an unexpected response that found no handler set.
Once the pipes are drained, this holds of all that was sent.
-/
theorem end_to_end (hrel : conn.Reliable) {token : SessionToken} (nonNil : token.isNil = false)
    {ls : List (Side × AsyncLabel F)} {d : AsyncDuplex F}
    (hrun : run conn (ctor conn fun _ => .loggedIn token nonNil) ls = some d)
    (hls : ∀ l ∈ ls, l.2.Lossless) (hopen : Duplex.Exchanging conn d.cores) (side : Side) :
    Receiving (d.sentTo conn token side) (d.peer side) ∧
      (d.Drained conn side → (d.sentTo conn token side).Perm (whereabouts (d.peer side)) ∧
        (d.peer side).syncIo.rcvReassemblyQ.entries = []) := by
  rcases delivering_of_run hrel nonNil hrun hls hopen side with ⟨hpeers, hdel⟩
  rcases hdel.attached with ⟨_, _, hatt⟩
  have hpeer := run_peer hrun side
  have hgiven := AsyncChannel.run_given hpeer
  have hlive : (d.peer side).syncIo.channelErrCodeOrOk = none := hatt.live
  have hplaced := handedOn_placed hgiven hlive
  have hledger := AsyncChannel.run_ledger hpeer
  have htruthy : (d.peer side).syncIo.falsyErrors = 0 := hatt.falsyErrors hledger.core
  refine ⟨⟨hlive, hledger.untold hlive htruthy, ?_, hplaced, hgiven.inOrder⟩, ?_⟩
  · exact hatt.arrivals.order.initial_segment
  · intro hdrained
    rcases handedOn_of_drained hrel hpeers hdel hopen hdrained with ⟨hsent, hqueue⟩
    rw [← hsent]
    exact ⟨hplaced, hqueue⟩

/-- The payloads complete the reads of a blob pipe, one after the other. -/
def receives (side : Side) (ps : List Payload) : List (Side × AsyncLabel Nat) :=
  ps.map fun p => (side, .onActiveEv .front (.ok p))

/-- A {lit}`sync_request()` is answered by the handler of the other peer, and wakes. -/
def requestAnswered : List (Side × AsyncLabel Nat) :=
  let env : Env := .reference .blobPipeOnly
  let neg := Channel.protoNegPayload env
  [(.left, .call (.start 1 [])), (.right, .call (.start 1 [])), (.right, .call (.expectMsg 5 2)),
    (.left, .syncRequest (ReferenceCapnp.msgOut none 5) none true)] ++
  receives .right (neg :: (Duplex.requestSent.frame env).items) ++
  [(.right, .runTask), (.right, .call (.send (ReferenceCapnp.msgOut none 6)
      (some (Duplex.arrival env ReferenceCapnp.token Duplex.requestSent)))),
    (.right, .handlerReturned)] ++
  receives .left (neg :: ((Duplex.responseSent 1).frame env).items) ++ [(.left, .syncRequestWakes)]

/-- The pipes are drained, and the response is at the {lit}`sync_request()` it was sent for. -/
theorem end_to_end_answered :
    ∃ d : AsyncDuplex Nat,
      run (.reference .blobPipeOnly) (ctor (.reference .blobPipeOnly) fun _ => .reference)
        requestAnswered = some d ∧
      (d.sentTo (.reference .blobPipeOnly) ReferenceCapnp.token .left).length = 1 ∧
      (d.sentTo (.reference .blobPipeOnly) ReferenceCapnp.token .left).Perm
        (whereabouts (d.peer .left)) := by
  have hruns : ((run (.reference .blobPipeOnly) (ctor (.reference .blobPipeOnly) fun _ =>
      .reference) requestAnswered).any fun d =>
        (∀ side ∈ [Side.left, .right], (d.peer side).syncIo.channel.sendingEnded = false ∧
          ∀ u ∈ (d.peer side).syncIo.sentUserMsgs,
            ReferenceCapnp.capnp.readBody u.2.segments = .ok u.2.bodyWhich) ∧
        (d.peer .right).syncIo.sentUserMsgs.length = 1 ∧
        ∀ slot ∈ [PipeSlot.front, .back],
          (d.cores.farPayloads (.reference .blobPipeOnly) .left slot)[d.taken .left slot]? =
            none) = true := by
    decide +kernel
  rcases (Option.any_eq_true _ _).1 hruns with ⟨d, hrun, hd⟩
  rcases of_decide_eq_true hd with ⟨hsides, hone, hslots⟩
  have hside : ∀ side, side ∈ [Side.left, Side.right] := by
    intro side
    cases side <;> simp
  have hopen : Duplex.Exchanging (.reference .blobPipeOnly) d.cores :=
    ⟨fun side => (hsides side (hside side)).2, fun side => (hsides side (hside side)).1⟩
  have hdrained : d.Drained (.reference .blobPipeOnly) .left := by
    intro slot
    cases slot
    · exact hslots .front (by simp)
    · exact hslots .back (by simp)
  have h := end_to_end (Connection.reference_reliable _) (by decide) hrun (by decide +kernel) hopen
    .left
  refine ⟨d, hrun, ?_, (h.2 hdrained).1⟩
  rw [sentTo, List.length_map]
  exact hone

end AsyncDuplex
end StrucTransport
