import StrucTransport.Lib.Simulation
import StrucTransport.Net.Delivery
import StrucTransport.Net.Duplex

/-!
# Two peers whose transports do not fail

A run of two peers is, for each of them, a run in which it is the receiver and the
other one the sender, whatever that one receives itself.  So what holds of one
direction holds of both.

Main results:

- Theorem {lit}`Duplex.toward_follows`: a direction of a run of two peers is a run of
  a sender and a receiver.
- Theorem {lit}`Duplex.delivering_of_run`: both directions deliver, if nobody closes.
-/

namespace StrucTransport

variable {H : Type}

/-- Neither side's resources or transports ever fail. -/
def Connection.Reliable (conn : Connection) : Prop :=
  ∀ side, (conn.env side).Reliable

/-- Two ends with the reference environment do not fail. -/
theorem Connection.reference_reliable (pipes : Pipes) : (Connection.reference pipes).Reliable :=
  fun _ => (Link.reference pipes).reliable

/--
The direction in which a peer receives.  No in-pipe is gracefully closed unless the
sender ends sending; the code for it is none in particular.
-/
def Connection.link (conn : Connection) (hrel : conn.Reliable) (side : Side) : Link where
  sender := conn.env side.other
  receiver := conn.env side
  closeCode := .other 0
  pipes := (conn.pipes side).symm
  capnp := (conn.capnp side).symm
  sendError := (hrel side.other).sendError
  reliable := hrel side

/-- No read fails, and what is to be sent can be serialized. -/
def Label.Lossless : Label H → Prop
  | .call x => x.Serializes
  | .rcv _ result => result.toOption.isSome
  | .handlerReturned => True

instance : ∀ l : Label H, Decidable l.Lossless
  | .call x => inferInstanceAs (Decidable x.Serializes)
  | .rcv _ result => inferInstanceAs (Decidable (result.toOption.isSome = true))
  | .handlerReturned => isTrue trivial

namespace Duplex

variable {conn : Connection}

/-! ## One direction -/

/-- The peer as a receiver, and the other one as its sender. -/
def toward (d : Duplex H) (side : Side) : Net H H where
  sender := d.peer side.other
  receiver := d.peer side
  read := d.taken side

/-- What a label of the receiver is in its direction. -/
def receiverLabel : Label H → NetLabel H H
  | .call x => .call x
  | .rcv slot _ => .deliver slot
  | .handlerReturned => .handlerReturned

/-- What a label of either peer is in the direction. -/
def towardLabel (side : Side) (l : Side × Label H) : NetLabel H H :=
  if l.1 = side then receiverLabel l.2 else .sender l.2

/-- What a lossless step sends can be serialized. -/
theorem towardLabel_serializes {side : Side} {l : Side × Label H} (h : l.2.Lossless) :
    (towardLabel side l).Serializes := by
  rcases l with ⟨side', l⟩
  unfold towardLabel
  split
  · cases l with
    | call x => exact h
    | _ => trivial
  · trivial

/-- A pipe has the payloads that were accepted on it, and what closes it. -/
theorem sentOn_eq {env : Env} {token : SessionToken} {c : Channel H}
    (hs : Channel.Sending env token c) {pipe : OutPipe}
    (hout : Channel.hasOutPipe env.pipes pipe = true) :
    c.channel.sentOn pipe = (c.payloadsOn pipe).map .payload ++ c.closing := by
  have hlog := hs.log pipe hout
  have hclosing : c.closing.filterMap OutItem.payload? = [] := by
    unfold Channel.closing
    split <;> rfl
  have hpayloads : c.payloadsOn pipe = (c.framesOn env pipe).flatten := by
    rw [Channel.payloadsOn, hlog, List.filterMap_append, hclosing, List.append_nil,
      List.filterMap_map]
    exact List.filterMap_some
  rw [hpayloads]
  exact hlog

/-- What is at the other end of an in-pipe. -/
theorem farPipe_cases (hrel : conn.Reliable) (d : Duplex H) (side : Side) (slot : PipeSlot) :
    (d.farPayloads conn side slot = [] ∧
        (d.toward side).nextItem (conn.link hrel side) slot = none) ∨
      ∃ pipe, Channel.hasOutPipe (conn.env side.other).pipes pipe = true ∧
        d.farPayloads conn side slot = (d.peer side.other).payloadsOn pipe ∧
        (d.toward side).nextItem (conn.link hrel side) slot =
          ((d.peer side.other).channel.sentOn pipe)[d.taken side slot]? := by
  have hpipes : (conn.env side.other).pipes = (conn.env side).pipes := conn.pipes side
  have hlinked : linkedPipe (conn.link hrel side).sender.pipes slot =
      linkedPipe (conn.env side).pipes slot := congrArg (linkedPipe · slot) hpipes
  unfold farPayloads farPipe Net.nextItem
  rw [hlinked]
  cases hfar : linkedPipe (conn.env side).pipes slot with
  | none => exact Or.inl ⟨rfl, rfl⟩
  | some pipe =>
      refine Or.inr ⟨pipe, ?_, rfl, rfl⟩
      rw [hpipes]
      exact linkedPipe_hasOutPipe hfar

/-- The next payload of a pipe is its next item. -/
theorem nextItem_toward {d : Duplex H} (hrel : conn.Reliable) {side : Side} {slot : PipeSlot}
    {token : SessionToken}
    (hs : Channel.Sending (conn.env side.other) token (d.peer side.other)) {p : Payload}
    (hp : (d.farPayloads conn side slot)[d.taken side slot]? = some p) :
    (d.toward side).nextItem (conn.link hrel side) slot = some (.payload p) := by
  rcases farPipe_cases hrel d side slot with ⟨hfar, _⟩ | ⟨pipe, hout, hfar, hitem⟩
  · rw [hfar] at hp
    cases hp
  · rw [hfar] at hp
    rcases List.getElem?_eq_some_iff.1 hp with ⟨hlt, _⟩
    rw [hitem, sentOn_eq hs hout, List.getElem?_append_left (by rwa [List.length_map]),
      List.getElem?_map, hp]
    rfl

/-- If each payload was received, no item is left on a pipe that was not closed. -/
theorem drained_toward {d : Duplex H} (hrel : conn.Reliable) {side : Side} {token : SessionToken}
    (hs : Channel.Sending (conn.env side.other) token (d.peer side.other))
    (hopen : (d.peer side.other).channel.sendingEnded = false)
    (hnone : ∀ slot, (d.farPayloads conn side slot)[d.taken side slot]? = none) :
    (d.toward side).Drained (conn.link hrel side) := by
  intro slot
  have hclosing : (d.peer side.other).closing = [] := by
    rw [Channel.closing, hopen]
    rfl
  rcases farPipe_cases hrel d side slot with ⟨_, hitem⟩ | ⟨pipe, hout, hfar, hitem⟩
  · exact hitem
  · have hlast := hnone slot
    rw [hfar] at hlast
    rw [hitem, sentOn_eq hs hout, hclosing, List.append_nil, List.getElem?_map, hlast]
    rfl

/-- A step of the sender. -/
theorem toward_sends (hrel : conn.Reliable) {d d' : Duplex H} {side : Side} {l : Label H}
    (h : Stepped conn d side.other l d') (htaken : d'.taken side = d.taken side) :
    (d.toward side).step (conn.link hrel side) (.sender l) = some (d'.toward side) := by
  have hpeer : d'.peer side = d.peer side := by
    have hother := h.other
    rwa [side.other_other] at hother
  have hstep : Channel.step (conn.link hrel side).sender (d.toward side).sender l =
      some (d'.peer side.other) := h.peer
  rw [Net.step, hstep, toward, toward, hpeer, htaken]
  rfl

/-- A step of the receiver. -/
theorem toward_receives (hrel : conn.Reliable) {d d' : Duplex H} {side : Side} {l : Label H}
    {token : SessionToken} (hs : Channel.Sending (conn.env side.other) token (d.peer side.other))
    (hl : l.Lossless) (hstep : d.step conn (side, l) = some d') :
    (d.toward side).step (conn.link hrel side) (receiverLabel l) = some (d'.toward side) := by
  rcases step_cases hstep with ⟨hstepped, hrcv⟩
  have hpeer : Channel.step (conn.link hrel side).receiver (d.toward side).receiver l =
      some (d'.peer side) := hstepped.peer
  rcases hrcv with ⟨slot, p, rfl, hnext, htaken⟩ | ⟨hno, htaken⟩
  · have hitem := nextItem_toward hrel hs hnext
    have hresult : OutItem.result (conn.link hrel side).closeCode (.payload p) = .ok p := rfl
    rw [receiverLabel, Net.step, hitem, Option.bind_some, hresult, hpeer, Option.map_some]
    rw [Net.received, toward, toward, hstepped.other, htaken]
  · have hsame : { d.toward side with receiver := d'.peer side } = d'.toward side := by
      rw [toward, toward, hstepped.other, htaken]
    cases l with
    | call x =>
        rw [receiverLabel, Net.step, hpeer, Option.map_some, hsame]
    | handlerReturned =>
        rw [receiverLabel, Net.step, hpeer, Option.map_some, hsame]
    | rcv slot result =>
        cases result with
        | error e => cases hl
        | ok p => exact absurd rfl (hno slot p)

/-- A direction of a run of two peers is a run of its own, if nothing fails. -/
theorem toward_follows (hrel : conn.Reliable) (side : Side) (token : SessionToken) :
    Transition.Follows (step (H := H) conn) (Net.step (conn.link hrel side))
      (fun l => l.2.Lossless)
      (fun d => Channel.Sends (conn.env side.other) token (d.peer side.other))
      (fun d => d.toward side) (fun _ l => [towardLabel side l]) where
  keep := by
    rintro d ⟨side', l⟩ d' hs _ hstep
    have hstepped := (step_cases hstep).1
    rcases side.eq_or_eq_other side' with rfl | rfl
    · rw [hstepped.other]
      exact hs
    · exact (hs.step (hrel side.other).sendError hstepped.peer).1
  run := by
    rintro d ⟨side', l⟩ d' hs hl hstep
    apply Transition.run_cons_eq_some.2
    refine ⟨d'.toward side, ?_, rfl⟩
    rcases side.eq_or_eq_other side' with rfl | rfl
    · rw [towardLabel, if_pos rfl]
      exact toward_receives hrel hs.sending hl hstep
    · rw [towardLabel, if_neg side.other_ne]
      rcases step_cases hstep with ⟨hstepped, _⟩
      refine toward_sends hrel hstepped ?_
      have htaken := hstepped.taken
      rwa [side.other_other] at htaken

/-! ## Both directions -/

/-- Where the messages sent by both peers can be read, and nobody ended sending. -/
structure Exchanging (conn : Connection) (d : Duplex H) : Prop where
  readable : ∀ side, ∀ u ∈ (d.peer side).sentUserMsgs, u.2.Readable (conn.env side).capnp
  opened : ∀ side, (d.peer side).channel.sendingEnded = false

/-- If nothing fails and nobody closes, both directions deliver. -/
theorem delivering_of_run (hrel : conn.Reliable) {token : SessionToken}
    (nonNil : token.isNil = false) {ls : List (Side × Label H)} {d : Duplex H}
    (hrun : run conn (ctor fun _ => .loggedIn token nonNil) ls = some d)
    (hls : ∀ l ∈ ls, l.2.Lossless) (h : Exchanging conn d) (side : Side) :
    Net.Peers (conn.link hrel side) token (d.toward side) ∧
      Net.Delivering (conn.link hrel side) token (d.toward side) := by
  let link := conn.link hrel side
  let args : CtorArgs := .loggedIn token nonNil
  have hsends₀ : Channel.Sends (conn.env side.other) token (Channel.ctor args : Channel H) :=
    Channel.sends_ctor (conn.env side.other) rfl
  have hrun' := (toward_follows hrel side token).run_image hsends₀ hls hrun
  have hser : ∀ k ∈ Transition.image (step conn) (fun _ l => [towardLabel (H := H) side l])
      (ctor fun _ => args) ls, k.Serializes := by
    refine Transition.image_forall (Q := NetLabel.Serializes) ?_ hls
    intro _ l hl k hk
    rw [List.mem_singleton.1 hk]
    exact towardLabel_serializes hl
  have hp₀ : Net.Peers link token (Net.ctor args args : Net H H) := Net.peers_ctor link rfl _
  refine ⟨?_, Net.run_delivering hp₀ (Net.delivering_ctor link nonNil _) hser hrun'
    (h.readable side.other) (h.opened side.other)⟩
  refine Transition.run_invariant (fun n => Net.Peers link token n) ?_ hp₀ hrun'
  exact fun _ _ _ hp hstep => hp.step hstep

end Duplex
end StrucTransport
