import Mathlib.Logic.Function.Basic
import StrucTransport.Net.Receiver
import StrucTransport.Net.Sender

/-!
# Two peers over a link

One direction of an owned channel that connects two peers: what the sender's
out-pipes accepted is what the receiver's in-pipes give, pipe by pipe and in
order.  The pipes of a two-pipe channel are read independently.

A position in the stream of a pipe says how many frames were read whole, and how
much of the next one; the receiver's {lit}`Msg_in_pipe` reflects it.

Main results:

- Theorems {lit}`PipeAt.deliver_user` and {lit}`PipeAt.deliver_internal`: a payload
  that arrives continues the message under way or completes it, just as it
  continues or completes the frame.
-/

namespace StrucTransport

variable {S R : Type}

/-! ## The link -/

/-- The out-pipe at the other end of an in-pipe. -/
def linkedPipe : Pipes → PipeSlot → Option OutPipe
  | .blobPipeOnly, .front => some .blob
  | .blobPipeOnly, .back => none
  | .nativeHandlePipeOnly, .front => some .nativeHandle
  | .nativeHandlePipeOnly, .back => none
  | .twoPipes, .front => some .nativeHandle
  | .twoPipes, .back => some .blob

/-- The two ends of an owned channel whose transports and resources do not fail. -/
structure Link where
  sender : Env
  receiver : Env
  /-- The code an in-pipe reports for a graceful close. -/
  closeCode : ErrorCode
  pipes : receiver.pipes = sender.pipes
  capnp : receiver.capnp = sender.capnp
  sendError : ∀ t, sender.sendError t = none
  reliable : receiver.Reliable

/-- A link whose two ends use the reference environment. -/
def Link.reference (pipes : Pipes) : Link where
  sender := .reference pipes
  receiver := .reference pipes
  closeCode := .other 7
  pipes := rfl
  capnp := rfl
  sendError _ := rfl
  reliable := {
    capnp := ReferenceCapnp.lawful
    sendError _ := rfl
    mdtEmitError _ := rfl
    segmentAllocated _ := rfl
    negotiates := ⟨1, rfl⟩ }

/-- The two peers, and how many items were read of each in-pipe. -/
structure Net (S R : Type) where
  sender : Channel S
  receiver : Channel R
  read : PipeSlot → Nat

/-- A step of either peer; receives complete in the order of the pipe. -/
inductive NetLabel (S R : Type) where
  | sender (l : Label S)
  | call (x : Call R)
  | handlerReturned
  | deliver (slot : PipeSlot)

/-- The receiver's own messages can be serialized. -/
def NetLabel.Serializes : NetLabel S R → Prop
  | .call x => x.Serializes
  | _ => True

instance : ∀ l : NetLabel S R, Decidable l.Serializes
  | .call x => inferInstanceAs (Decidable x.Serializes)
  | .sender _ => isTrue trivial
  | .handlerReturned => isTrue trivial
  | .deliver _ => isTrue trivial

/-- What an in-pipe gives for an item. -/
def OutItem.result (closeCode : ErrorCode) : OutItem → Channel.RcvResult
  | .payload p => .ok p
  | .gracefulClose => .error closeCode

namespace Net

variable (link : Link)

/-- The next item of an in-pipe, if the sender put it there. -/
def nextItem (n : Net S R) (slot : PipeSlot) : Option OutItem :=
  (linkedPipe link.sender.pipes slot).bind fun pipe =>
    (n.sender.channel.sentOn pipe)[n.read slot]?

/-- The state after the next item of the in-pipe was received. -/
def received (n : Net S R) (slot : PipeSlot) (c : Channel R) : Net S R :=
  { n with receiver := c, read := Function.update n.read slot (n.read slot + 1) }

/-- Receiving does not touch the sender. -/
@[simp]
theorem received_sender (n : Net S R) (slot : PipeSlot) (c : Channel R) :
    (n.received slot c).sender = n.sender :=
  rfl

/-- The receiver after it received. -/
@[simp]
theorem received_receiver (n : Net S R) (slot : PipeSlot) (c : Channel R) :
    (n.received slot c).receiver = c :=
  rfl

/-- One more payload of the pipe was received. -/
@[simp]
theorem received_read (n : Net S R) (slot : PipeSlot) (c : Channel R) :
    (n.received slot c).read = Function.update n.read slot (n.read slot + 1) :=
  rfl

/-- One step; {lit}`none` if the label cannot happen in this state. -/
def step (n : Net S R) : NetLabel S R → Option (Net S R)
  | .sender l => (Channel.step link.sender n.sender l).map fun c => { n with sender := c }
  | .call x =>
      (Channel.step link.receiver n.receiver (.call x)).map fun c => { n with receiver := c }
  | .handlerReturned =>
      (Channel.step link.receiver n.receiver .handlerReturned).map fun c => { n with receiver := c }
  | .deliver slot =>
      (n.nextItem link slot).bind fun item =>
        (Channel.step link.receiver n.receiver (.rcv slot (item.result link.closeCode))).map
          fun c => n.received slot c

/-- A run of the two peers. -/
def run (n : Net S R) (ls : List (NetLabel S R)) : Option (Net S R) :=
  Transition.run (step link) n ls

/-- Two peers as their constructors leave them. -/
def ctor (sender receiver : CtorArgs) : Net S R where
  sender := Channel.ctor sender
  receiver := Channel.ctor receiver
  read _ := 0

/-- Everything the sender put on the pipes was read. -/
def Drained (n : Net S R) : Prop :=
  ∀ slot, n.nextItem link slot = none

/-- The state after a step, by label. -/
theorem step_cases {n n' : Net S R} {l : NetLabel S R} (h : n.step link l = some n') :
    (∃ l' c, l = .sender l' ∧ Channel.step link.sender n.sender l' = some c ∧
      n' = { n with sender := c }) ∨
    (∃ x, l = .call x ∧ n.receiver.startsOver x = false ∧
      n' = { n with receiver := n.receiver.call link.receiver x }) ∨
    (∃ c, l = .handlerReturned ∧
      Channel.step link.receiver n.receiver .handlerReturned = some c ∧
      n' = { n with receiver := c }) ∨
    (∃ slot item c, l = .deliver slot ∧ n.nextItem link slot = some item ∧
      Channel.step link.receiver n.receiver (.rcv slot (item.result link.closeCode)) = some c ∧
      n' = n.received slot c) := by
  cases l with
  | sender l =>
      rcases Option.map_eq_some_iff.1 h with ⟨c, hc, rfl⟩
      exact Or.inl ⟨l, c, rfl, hc, rfl⟩
  | call x =>
      rcases Option.map_eq_some_iff.1 h with ⟨c, hc, rfl⟩
      rcases Channel.step_call_eq_some.1 hc with ⟨hover, rfl⟩
      exact Or.inr (Or.inl ⟨x, rfl, hover, rfl⟩)
  | handlerReturned =>
      rcases Option.map_eq_some_iff.1 h with ⟨c, hc, rfl⟩
      exact Or.inr (Or.inr (Or.inl ⟨c, rfl, hc, rfl⟩))
  | deliver slot =>
      rcases Option.bind_eq_some_iff.1 h with ⟨item, hitem, hmap⟩
      rcases Option.map_eq_some_iff.1 hmap with ⟨c, hc, rfl⟩
      exact Or.inr (Or.inr (Or.inr ⟨slot, item, c, rfl, hitem, hc, rfl⟩))

end Net

namespace Channel

/-! ## The receive pipe at a position -/

/-- The in-message a sent message makes, before its body is looked into. -/
def arriving (env : Env) (token : SessionToken) (f : SentMsg) : MsgIn :=
  match f.2 with
  | some msg => partialMsg env token f.1 msg.nativeHandleOrNull msg.segments
  | none => internalMsg env token f.1

/--
The state of a receive pipe that has read {lit}`d` frames and {lit}`k` payloads
of the next one; the messages of the stream are {lit}`msgs`.
-/
inductive PipeAt (env : Env) (token : SessionToken) (msgs : List SentMsg) :
    Nat → Nat → MsgInPipe → Prop where
  | negotiation {pipe : MsgInPipe} (waits : AtNegotiation pipe) : PipeAt env token msgs 0 0 pipe
  | lead {d : Nat} {pipe : MsgInPipe} (waits : AtLead pipe) : PipeAt env token msgs (d + 1) 0 pipe
  | segment {d k left : Nat} {pipe : MsgInPipe} {mdt : StructuredMessage} {msg : MsgOut}
      (under : msgs[d]? = some (mdt, some msg))
      (waits : AtSegment env token mdt msg.nativeHandleOrNull (msg.segments.take k) left pipe)
      (count : k + left + 1 = msg.segments.length) : PipeAt env token msgs (d + 1) (k + 1) pipe

variable {env senv : Env}

/-- A pipe at a position has a read outstanding. -/
theorem PipeAt.outstanding {token : SessionToken} {msgs : List SentMsg} {d k : Nat}
    {pipe : MsgInPipe} (h : PipeAt env token msgs d k pipe) :
    ∃ kind, pipe.outstanding = some kind := by
  cases h with
  | negotiation waits => exact ⟨_, waits.outstanding⟩
  | lead waits => exact ⟨_, waits.outstanding⟩
  | segment under waits count => exact ⟨_, waits.outstanding⟩

/-- Messages that are sent later do not matter to the pipe. -/
theorem PipeAt.append {token : SessionToken} {msgs : List SentMsg} {d k : Nat} {pipe : MsgInPipe}
    (h : PipeAt env token msgs d k pipe) (more : List SentMsg) :
    PipeAt env token (msgs ++ more) d k pipe := by
  cases h with
  | negotiation waits => exact .negotiation waits
  | lead waits => exact .lead waits
  | segment under waits count =>
      refine .segment ?_ waits count
      rcases List.getElem?_eq_some_iff.1 under with ⟨hlen, _⟩
      rw [List.getElem?_append_left hlen]
      exact under

/-- The handle of a message that was sent is put on the wire. -/
theorem hndlFor_of_sendable {msg : MsgOut} (h : checkUnsendable senv msg = false) :
    hndlFor senv.pipes msg.nativeHandleOrNull = msg.nativeHandleOrNull := by
  cases hpipes : senv.pipes <;>
    simp_all [hndlFor, checkUnsendable, Pipes.hasNativeHandlePipe]

/-- A pipe that insists on a handle gets only messages that have one. -/
theorem framePipe_mode {slot : PipeSlot} {pipe : MsgInPipe} {out : OutPipe} {f : SentMsg}
    (hlinked : linkedPipe senv.pipes slot = some out)
    (hmode : slotMode senv.pipes slot = some pipe.leadMsgMode)
    (hout : framePipe senv f.2 = out) (hinsists : pipe.leadMsgMode = .withHndlElseError) :
    f.2.bind MsgOut.nativeHandleOrNull ≠ none := by
  intro hnone
  rw [hinsists] at hmode
  unfold framePipe outPipeFor at hout
  rw [hnone] at hout
  cases hpipes : senv.pipes <;> cases slot <;> rw [hpipes] at hlinked hmode hout <;>
    simp [linkedPipe, slotMode] at hlinked hmode hout
  rw [← hout] at hlinked
  cases hlinked

/-! ## A payload arrives -/

/-- A user message is its header, with the handle, and its segments. -/
theorem framePayloads_user (mdt : StructuredMessage) {msg : MsgOut}
    (hsendable : checkUnsendable senv msg = false) :
    framePayloads senv mdt (some msg) =
      ⟨msg.nativeHandleOrNull, senv.capnp.writeMdt mdt⟩ ::
        msg.segments.map fun blob => ⟨none, blob⟩ := by
  have hhndl := hndlFor_of_sendable hsendable
  simp [framePayloads, payloads, hhndl]

/-- An internal message is its header alone. -/
theorem framePayloads_internal (senv : Env) (mdt : StructuredMessage) :
    framePayloads senv mdt none = [⟨none, senv.capnp.writeMdt mdt⟩] := by
  cases hpipes : senv.pipes <;> simp [framePayloads, payloads, hndlFor]

/-- The chain of the pipe went on, to a new position. -/
abbrev Delivers (env : Env) (token : SessionToken) (msgs : List SentMsg) (c : Channel R)
    (slot : PipeSlot) (mode : LeadMsgMode) (d k : Nat) (c' : Channel R) : Prop :=
  ∃ pipe', ReadsOn c slot pipe' c' ∧ pipe'.leadMsgMode = mode ∧ PipeAt env token msgs d k pipe'

/-- A payload of a user message continues the message or completes it. -/
theorem PipeAt.deliver_user (henv : env.Reliable) (hcapnp : senv.capnp = env.capnp)
    {c : Channel R} (hlive : c.channelErrCodeOrOk = none) (slot : PipeSlot) {pipe : MsgInPipe}
    {kind : ReadKind} (hkind : pipe.outstanding = some kind) {token : SessionToken}
    {msgs : List SentMsg} {d k : Nat} {msg : MsgOut} {orig id : Nat} (hid : id ≠ 0)
    (hsendable : checkUnsendable senv msg = false) {mdt : StructuredMessage}
    (hmdt : mdt = msgMdtOut senv.endian token orig id msg.nSerializationSegments)
    (hover : msgs[d]? = some (mdt, some msg))
    (hmode : pipe.leadMsgMode = .withHndlElseError → msg.nativeHandleOrNull ≠ none)
    {p : Payload} (hp : (framePayloads senv mdt (some msg))[k]? = some p)
    (hat : PipeAt env token msgs (d + 1) k pipe) :
    (k + 1 < (framePayloads senv mdt (some msg)).length →
      Delivers env token msgs c slot pipe.leadMsgMode (d + 1) (k + 1)
        (c.onRecv env slot pipe kind (.ok p))) ∧
    (k + 1 = (framePayloads senv mdt (some msg)).length → ∀ c₁,
      c.rcvStructNewMsgIn env (arriving env token (mdt, some msg)) = (c₁, true) →
        Delivers env token msgs c₁ slot pipe.leadMsgMode (d + 2) 0
          (c.onRecv env slot pipe kind (.ok p))) := by
  rw [framePayloads_user mdt hsendable, hcapnp] at hp
  rw [framePayloads_user mdt hsendable, List.length_cons, List.length_map]
  have hn : msg.nSerializationSegments = msg.segments.length := rfl
  have hpos := msg.nSerializationSegments_pos
  cases hat with
  | lead waits =>
      have hlead : kind = .lead := Option.some.inj (hkind.symm.trans waits.outstanding)
      have hpayload : p = ⟨msg.nativeHandleOrNull, env.capnp.writeMdt mdt⟩ :=
        (Option.some.inj hp).symm
      subst hlead hpayload
      constructor
      · intro _
        rcases onRecv_lead henv hlive slot waits hmode token orig id msg.nSerializationSegments hid
          (by omega) hmdt with ⟨pipe', hreads, hmode', hseg⟩
        have hseg₀ : AtSegment env token mdt msg.nativeHandleOrNull (msg.segments.take 0)
          (msg.nSerializationSegments - 1) pipe' := hseg
        exact ⟨pipe', hreads, hmode', .segment hover hseg₀ (by omega)⟩
      · intro hlast
        omega
  | segment under waits count =>
      rename_i k left mdt' msg'
      have hsame : mdt' = mdt ∧ msg' = msg := by
        rw [hover] at under
        simpa [eq_comm] using under
      rcases hsame with ⟨rfl, rfl⟩
      have hcont : kind = .continuation := Option.some.inj (hkind.symm.trans waits.outstanding)
      subst hcont
      rw [List.getElem?_cons_succ, List.getElem?_map, Option.map_eq_some_iff] at hp
      rcases hp with ⟨blob, hblob, rfl⟩
      have hne : blob ≠ [] := msg'.segment_ne_nil blob (List.mem_of_getElem? hblob)
      have htake : msg'.segments.take (k + 1) = msg'.segments.take k ++ [blob] := by
        rw [List.take_add_one, hblob]
        rfl
      constructor
      · intro hmore
        have hleft : left = left - 1 + 1 := by omega
        rw [hleft] at waits
        rcases onRecv_segment henv hlive slot waits hne with ⟨pipe', hreads, hmode', hseg⟩
        rw [← htake] at hseg
        exact ⟨pipe', hreads, hmode', .segment hover hseg (by omega)⟩
      · intro hlast c₁ hmsg
        have hleft : left = 0 := by omega
        have hall : msg'.segments.take k ++ [blob] = msg'.segments := by
          rw [← htake]
          exact List.take_of_length_le (by omega)
        subst hleft
        change c.rcvStructNewMsgIn env
          (partialMsg env token mdt' msg'.nativeHandleOrNull msg'.segments) = (c₁, true) at hmsg
        rw [← hall] at hmsg
        rcases onRecv_last henv hlive slot waits hne hmsg with ⟨pipe', hreads, hmode', hlead⟩
        exact ⟨pipe', hreads, hmode', .lead hlead⟩

/-- The payload of an internal message completes it. -/
theorem PipeAt.deliver_internal (henv : env.Reliable) (hcapnp : senv.capnp = env.capnp)
    {c : Channel R} (hlive : c.channelErrCodeOrOk = none) (slot : PipeSlot) {pipe : MsgInPipe}
    {kind : ReadKind} (hkind : pipe.outstanding = some kind) {token : SessionToken}
    {msgs : List SentMsg} {d k : Nat} {orig : Nat} {text : String} {mdt : StructuredMessage}
    (hmdt : mdt = (msgMdtOut senv.endian token orig 0 0).initUnexpectedResponse text)
    (hmode : pipe.leadMsgMode ≠ .withHndlElseError)
    {p : Payload} (hp : (framePayloads senv mdt none)[k]? = some p)
    (hat : PipeAt env token msgs (d + 1) k pipe) {c₁ : Channel R}
    (hmsg : c.rcvStructNewMsgIn env (arriving env token (mdt, none)) = (c₁, true)) :
    Delivers env token msgs c₁ slot pipe.leadMsgMode (d + 2) 0
      (c.onRecv env slot pipe kind (.ok p)) := by
  rw [framePayloads_internal, hcapnp] at hp
  cases hat with
  | lead waits =>
      have hlead : kind = .lead := Option.some.inj (hkind.symm.trans waits.outstanding)
      have hpayload : p = ⟨none, env.capnp.writeMdt mdt⟩ := (Option.some.inj hp).symm
      subst hlead hpayload
      rcases onRecv_internal henv hlive slot waits hmode token orig text hmdt hmsg with
        ⟨pipe', hreads, hmode', hlead⟩
      exact ⟨pipe', hreads, hmode', .lead hlead⟩
  | segment under waits count => simp at hp

end Channel
end StrucTransport
