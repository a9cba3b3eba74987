import Mathlib.Logic.Function.Basic
import StrucTransport.Net.Link
import StrucTransport.Net.Stream

/-!
# Two peers connected in both directions

Each peer is a channel of its own; what one puts on an out-pipe, the other
receives on the in-pipe at its other end, in order.  The users of both peers may
call what they want in any order, and the transports may fail at any time.

Main results:

- Theorem {lit}`projected_of_run`: a run of both peers is a run of each, in which a
  pipe gives a prefix of what was put on it.
- Theorem {lit}`passedMsgs_sent`: the messages that a peer cuts out of a pipe are
  those the other peer sent over it, in order.
-/

namespace StrucTransport

variable {H : Type}

/-- The two peers. -/
inductive Side where
  | left
  | right
deriving DecidableEq, Repr

namespace Side

/-- The other peer. -/
def other : Side → Side
  | left => right
  | right => left

/-- The other peer of the other one. -/
@[simp]
theorem other_other (side : Side) : side.other.other = side := by
  cases side <;> rfl

/-- A peer is not the other one. -/
theorem other_ne (side : Side) : side.other ≠ side := by
  cases side <;> simp [other]

/-- There are two peers. -/
theorem eq_or_eq_other (side side' : Side) : side' = side ∨ side' = side.other := by
  cases side <;> cases side' <;> simp [other]

end Side

/-- The surroundings of the two peers: pipes of one kind, and one serialization library. -/
structure Connection where
  env : Side → Env
  pipes : ∀ side, (env side.other).pipes = (env side).pipes
  capnp : ∀ side, (env side.other).capnp = (env side).capnp
  lawful : ∀ side, (env side).capnp.Lawful

/-- A connection whose two ends use the reference environment. -/
def Connection.reference (pipes : Pipes) : Connection where
  env _ := .reference pipes
  pipes _ := rfl
  capnp _ := rfl
  lawful _ := ReferenceCapnp.lawful

/-- The two peers, and how many payloads each has received on each pipe. -/
structure Duplex (H : Type) where
  peer : Side → Channel H
  taken : Side → PipeSlot → Nat

/-- The labels of one peer. -/
def labelsOf (side : Side) (ls : List (Side × Label H)) : List (Label H) :=
  (ls.filter fun l => l.1 = side).map Prod.snd

/-- One more step, which is one of the peer's or not. -/
theorem labelsOf_append (side : Side) (ls : List (Side × Label H)) (l : Side × Label H) :
    labelsOf side (ls ++ [l]) = labelsOf side ls ++ if l.1 = side then [l.2] else [] := by
  by_cases h : l.1 = side <;> simp [labelsOf, h]

namespace Duplex

variable (conn : Connection)

/-- The out-pipe of the other peer at the other end of an in-pipe. -/
def farPipe (side : Side) (slot : PipeSlot) : Option OutPipe :=
  linkedPipe (conn.env side).pipes slot

/-- What the other peer put on the pipe so far. -/
def farPayloads (d : Duplex H) (side : Side) (slot : PipeSlot) : List Payload :=
  match farPipe conn side slot with
  | none => []
  | some pipe => (d.peer side.other).payloadsOn pipe

/-- The state after a step of one peer. -/
def stepped (d : Duplex H) (side : Side) (c : Channel H) : Duplex H :=
  { d with peer := Function.update d.peer side c }

/-- The state after one peer has received a payload. -/
def received (d : Duplex H) (side : Side) (slot : PipeSlot) (c : Channel H) : Duplex H where
  peer := Function.update d.peer side c
  taken := Function.update d.taken side
    (Function.update (d.taken side) slot (d.taken side slot + 1))

/-- One step of one peer; a payload is received only if it is the next one of the pipe. -/
def step (d : Duplex H) : Side × Label H → Option (Duplex H)
  | (side, .rcv slot (.ok p)) =>
      if (d.farPayloads conn side slot)[d.taken side slot]? = some p then
        (Channel.step (conn.env side) (d.peer side) (.rcv slot (.ok p))).map (d.received side slot)
      else none
  | (side, l) => (Channel.step (conn.env side) (d.peer side) l).map (d.stepped side)

/-- A run of the two peers. -/
def run (d : Duplex H) (ls : List (Side × Label H)) : Option (Duplex H) :=
  Transition.run (step conn) d ls

/-- Two peers as their constructors leave them. -/
def ctor (args : Side → CtorArgs) : Duplex H where
  peer side := Channel.ctor (args side)
  taken _ _ := 0

variable {conn}

/-- A step of one peer. -/
@[simp]
theorem stepped_peer (d : Duplex H) (side : Side) (c : Channel H) :
    (d.stepped side c).peer = Function.update d.peer side c :=
  rfl

/-- It receives nothing. -/
@[simp]
theorem stepped_taken (d : Duplex H) (side : Side) (c : Channel H) :
    (d.stepped side c).taken = d.taken :=
  rfl

/-- A peer receives. -/
@[simp]
theorem received_peer (d : Duplex H) (side : Side) (slot : PipeSlot) (c : Channel H) :
    (d.received side slot c).peer = Function.update d.peer side c :=
  rfl

/-- One more payload of the pipe was received. -/
@[simp]
theorem received_taken (d : Duplex H) (side : Side) (slot : PipeSlot) (c : Channel H) :
    (d.received side slot c).taken = Function.update d.taken side
      (Function.update (d.taken side) slot (d.taken side slot + 1)) :=
  rfl

/-- A step of one peer leaves the other one alone. -/
structure Stepped (conn : Connection) (d : Duplex H) (side : Side) (l : Label H) (d' : Duplex H) :
    Prop where
  peer : Channel.step (conn.env side) (d.peer side) l = some (d'.peer side)
  other : d'.peer side.other = d.peer side.other
  taken : d'.taken side.other = d.taken side.other

/-- The state after a step, by label. -/
theorem step_cases {d d' : Duplex H} {side : Side} {l : Label H}
    (h : d.step conn (side, l) = some d') :
    Stepped conn d side l d' ∧
      ((∃ slot p, l = .rcv slot (.ok p) ∧
          (d.farPayloads conn side slot)[d.taken side slot]? = some p ∧
          d'.taken side = Function.update (d.taken side) slot (d.taken side slot + 1)) ∨
        (∀ slot p, l ≠ .rcv slot (.ok p)) ∧ d'.taken side = d.taken side) := by
  have hstepped : ∀ {d' : Duplex H},
      (Channel.step (conn.env side) (d.peer side) l).map (d.stepped side) = some d' →
        Stepped conn d side l d' ∧ d'.taken side = d.taken side := by
    intro d' hmap
    rcases Option.map_eq_some_iff.1 hmap with ⟨c, hc, rfl⟩
    exact ⟨⟨by simp [hc], by simp [side.other_ne], rfl⟩, rfl⟩
  cases l with
  | call x =>
      rcases hstepped h with ⟨hpeer, htaken⟩
      exact ⟨hpeer, Or.inr ⟨by simp, htaken⟩⟩
  | handlerReturned =>
      rcases hstepped h with ⟨hpeer, htaken⟩
      exact ⟨hpeer, Or.inr ⟨by simp, htaken⟩⟩
  | rcv slot result =>
      cases result with
      | error e =>
          rcases hstepped h with ⟨hpeer, htaken⟩
          exact ⟨hpeer, Or.inr ⟨by simp, htaken⟩⟩
      | ok p =>
          simp only [step] at h
          by_cases hnext : (d.farPayloads conn side slot)[d.taken side slot]? = some p
          · rw [if_pos hnext] at h
            rcases Option.map_eq_some_iff.1 h with ⟨c, hc, rfl⟩
            refine ⟨⟨by simp [hc], by simp [side.other_ne], by simp [side.other_ne]⟩, ?_⟩
            exact Or.inl ⟨slot, p, rfl, hnext, by simp⟩
          · rw [if_neg hnext] at h
            cases h

/-! ## The run of each peer -/

/-- The payloads that a peer received on a pipe, in order. -/
def receivedPayloads (side : Side) (slot : PipeSlot) (ls : List (Side × Label H)) : List Payload :=
  (receivedOn slot (labelsOf side ls)).filterMap Except.toOption

/-- What a run of both peers is for each of them. -/
structure Projected (conn : Connection) (args : Side → CtorArgs) (ls : List (Side × Label H))
    (d : Duplex H) : Prop where
  run : ∀ side, Channel.run (conn.env side) (Channel.ctor (args side)) (labelsOf side ls) =
    some (d.peer side)
  received : ∀ side slot, receivedPayloads side slot ls <+: d.farPayloads conn side slot
  taken : ∀ side slot, d.taken side slot = (receivedPayloads side slot ls).length

/-- One more item of a list after a beginning of it. -/
theorem prefix_concat {α : Type} {xs ys : List α} {x : α} (h : xs <+: ys)
    (hx : ys[xs.length]? = some x) : xs ++ [x] <+: ys := by
  rcases h with ⟨rest, rfl⟩
  rw [List.getElem?_append_right (Nat.le_refl _), Nat.sub_self] at hx
  cases rest with
  | nil => simp at hx
  | cons y rest =>
      simp only [List.getElem?_cons_zero, Option.some.injEq] at hx
      exact ⟨rest, by simp [hx]⟩

/-- Each peer is a channel that was run by itself. -/
theorem Projected.reachable {args : Side → CtorArgs} {ls : List (Side × Label H)} {d : Duplex H}
    (h : Projected conn args ls d) (side : Side) :
    Channel.Reachable (conn.env side) (d.peer side) :=
  ⟨args side, labelsOf side ls, h.run side⟩

/-- What a peer received with one more label. -/
theorem receivedPayloads_append (side : Side) (slot : PipeSlot) (ls : List (Side × Label H))
    (side' : Side) (l : Label H) : receivedPayloads side slot (ls ++ [(side', l)]) =
      receivedPayloads side slot ls ++
        if side' = side then (receivedOn slot [l]).filterMap Except.toOption else [] := by
  rw [receivedPayloads, labelsOf_append, receivedOn_append, List.filterMap_append,
    receivedPayloads]
  by_cases h : side' = side
  · simp [h]
  · simp [h, receivedOn]

/-- A step of one peer adds to what the other one may receive. -/
theorem Stepped.farPayloads {d d' : Duplex H} {side : Side} {l : Label H}
    (h : Stepped conn d side l d') (hw : (d.peer side).WellFormed) (side' : Side) (slot : PipeSlot) :
    d.farPayloads conn side' slot <+: d'.farPayloads conn side' slot := by
  unfold Duplex.farPayloads
  split
  · exact List.prefix_rfl
  · rename_i pipe hpipe
    rcases side.eq_or_eq_other side'.other with hside | hside
    · rw [hside]
      exact Channel.step_payloadsOn_prefix hw h.peer pipe
    · have hother := h.other
      exact hside ▸ hother ▸ List.prefix_rfl

/-- A step of the two is one of either. -/
theorem Projected.step {args : Side → CtorArgs} {ls : List (Side × Label H)} {l : Side × Label H}
    {d d' : Duplex H} (h : Projected conn args ls d) (hstep : d.step conn l = some d') :
    Projected conn args (ls ++ [l]) d' := by
  rcases l with ⟨side, l⟩
  rcases step_cases hstep with ⟨hstepped, hrcv⟩
  have hfar := hstepped.farPayloads (h.reachable side).wellFormed
  -- What the peer that takes the step receives in it.
  have hown : ∀ slot, receivedPayloads side slot (ls ++ [(side, l)]) <+:
        d.farPayloads conn side slot ∧
      d'.taken side slot = (receivedPayloads side slot (ls ++ [(side, l)])).length := by
    intro slot
    rw [receivedPayloads_append, if_pos rfl]
    rcases hrcv with ⟨slot', p, rfl, hnext, htaken⟩ | ⟨hno, htaken⟩
    · rw [htaken]
      by_cases hslot : slot = slot'
      · subst hslot
        rw [h.taken] at hnext
        rw [receivedOn_rcv, Function.update_self, h.taken]
        exact ⟨prefix_concat (h.received side slot) hnext, by simp [Except.toOption]⟩
      · have hnone : receivedOn (H := H) slot [.rcv slot' (.ok p)] = [] := by
          refine receivedOn_other ?_
          intro result heq
          cases heq
          exact hslot rfl
        rw [hnone, Function.update_of_ne hslot]
        simpa using ⟨h.received side slot, h.taken side slot⟩
    · have hnone : (receivedOn slot [l]).filterMap Except.toOption = [] := by
        cases l with
        | call x => rfl
        | handlerReturned => rfl
        | rcv slot' result =>
            cases result with
            | error e =>
                by_cases hslot : slot' = slot <;>
                  simp [receivedOn, Label.receivedOn?, hslot, Except.toOption]
            | ok p => exact absurd rfl (hno slot' p)
      rw [hnone, htaken, List.append_nil]
      exact ⟨h.received side slot, h.taken side slot⟩
  have hother : ∀ slot, receivedPayloads side.other slot (ls ++ [(side, l)]) =
      receivedPayloads side.other slot ls := by
    intro slot
    rw [receivedPayloads_append, if_neg side.other_ne.symm, List.append_nil]
  refine ⟨?_, ?_, ?_⟩
  · intro side'
    rw [labelsOf_append]
    rcases side.eq_or_eq_other side' with rfl | rfl
    · rw [if_pos rfl]
      exact Transition.run_append_eq_some.2 ⟨_, h.run side', by simp [hstepped.peer]⟩
    · rw [if_neg side.other_ne.symm, List.append_nil, hstepped.other]
      exact h.run side.other
  · intro side' slot
    refine List.IsPrefix.trans ?_ (hfar side' slot)
    rcases side.eq_or_eq_other side' with rfl | rfl
    · exact (hown slot).1
    · rw [hother]
      exact h.received side.other slot
  · intro side' slot
    rcases side.eq_or_eq_other side' with rfl | rfl
    · exact (hown slot).2
    · rw [hother, hstepped.taken]
      exact h.taken side.other slot

/-- A run of both peers is a run of each, and the pipes between them keep the order. -/
theorem projected_of_run {args : Side → CtorArgs} {ls : List (Side × Label H)} {d : Duplex H}
    (hrun : run conn (ctor args) ls = some d) : Projected conn args ls d := by
  refine Transition.run_history (fun ls d => Projected conn args ls d) ?_ ?_ hrun
  · exact ⟨fun _ => rfl, fun _ _ => List.nil_prefix, fun _ _ => rfl⟩
  · intro ls d l d' _ hinv hstep
    exact hinv.step hstep

/-! ## The messages that arrive -/

/-- The in-message that a receiver with these surroundings makes of a message that was sent. -/
def arrival (env : Env) (token : SessionToken) (f : SentMsg) : MsgIn :=
  Channel.withBody
    { Channel.leadMsg (f.frame env).lead with mdtRoot := f.1, sessionToken := token }
    (f.frame env).conts

/-- What the receiver makes of the frame of a message that was sent. -/
theorem carries_frame {env renv : Env} {token : SessionToken} (hcapnp : renv.capnp = env.capnp)
    (hlawful : env.capnp.Lawful) {f : SentMsg} (hheader : f.HasHeader env token) {m : MsgIn}
    (h : Channel.Carries renv (f.frame env) m) : m = arrival env token f := by
  rcases h.msg with ⟨m₀, hm₀, hm⟩
  rw [Channel.leadMsg_frame hcapnp hlawful hheader] at hm₀
  cases hm₀
  exact hm

/-- The in-message is what a receiver makes of a message that was sent. -/
def Arrives (env : Env) (f : SentMsg) (m : MsgIn) : Prop :=
  ∃ token, f.HasHeader env token ∧ m = arrival env token f

/-- What the receiver makes of the frames of messages that were sent. -/
theorem carries_frames {env renv : Env} (hcapnp : renv.capnp = env.capnp)
    (hlawful : env.capnp.Lawful) {fs : List SentMsg} (hheaders : ∀ f ∈ fs, f.Formed env)
    {ms : List MsgIn} (h : List.Forall₂ (Channel.Carries renv) (fs.map (SentMsg.frame env)) ms) :
    List.Forall₂ (Arrives env) fs ms := by
  induction fs generalizing ms with
  | nil =>
      cases h
      exact .nil
  | cons f fs ih =>
      cases h with
      | cons hf hfs =>
          rcases hheaders f (by simp) with ⟨token, hheader⟩
          exact .cons ⟨token, hheader, carries_frame hcapnp hlawful hheader hf⟩
            (ih (fun f' hf' => hheaders f' (by simp [hf'])) hfs)

/-- A receive pipe is linked to an out-pipe that there is. -/
theorem linkedPipe_hasOutPipe {pipes : Pipes} {slot : PipeSlot} {pipe : OutPipe}
    (h : linkedPipe pipes slot = some pipe) : Channel.hasOutPipe pipes pipe = true := by
  cases pipes <;> cases slot <;> cases h <;> rfl

/-- The messages that a peer cuts out of a pipe are those that the other peer sent over it. -/
theorem passedMsgs_sent {args : Side → CtorArgs} {ls : List (Side × Label H)} {d : Duplex H}
    (h : Projected conn args ls d) (side : Side) (slot : PipeSlot) :
    ∃ fs : List SentMsg, (fs = [] ∨ ∃ pipe, farPipe conn side slot = some pipe ∧
        fs <+: (d.peer side.other).sentOver (conn.env side.other) pipe) ∧
      List.Forall₂ (Arrives (conn.env side.other)) fs
        (Channel.passedMsgs (conn.env side) slot (Channel.ctor (args side)) (labelsOf side ls)) := by
  have hsends := Channel.transmitting_of_run (h.run side.other)
  rcases (Channel.reads_of_run (h.run side) slot).framed with ⟨neg, frames, rest, hrs, hcarries⟩
  generalize Channel.passedMsgs (conn.env side) slot (Channel.ctor (args side)) (labelsOf side ls) =
    ms at hcarries
  rcases hrs with rfl | hrs
  · cases hcarries
    exact ⟨[], Or.inl rfl, .nil⟩
  · have hreceived : receivedPayloads side slot ls =
        neg :: Framing.stream frames ++ rest.filterMap Except.toOption := by
      rw [receivedPayloads, hrs, List.filterMap_append, List.filterMap_map]
      congr 1
      exact List.filterMap_some
    have hfar : neg :: Framing.stream frames <+: d.farPayloads conn side slot := by
      refine List.IsPrefix.trans ?_ (h.received side slot)
      rw [hreceived]
      exact List.prefix_append _ _
    unfold farPayloads at hfar
    cases hpipe : farPipe conn side slot with
    | none => simp [hpipe] at hfar
    | some pipe =>
        rw [hpipe] at hfar
        have hcapnp : (conn.env side).capnp = (conn.env side.other).capnp := (conn.capnp side).symm
        have hlawful := conn.lawful side.other
        have hout : Channel.hasOutPipe (conn.env side.other).pipes pipe = true := by
          rw [conn.pipes]
          exact linkedPipe_hasOutPipe hpipe
        have hwhole : ∀ g ∈ frames, g.Whole (Channel.announced (conn.env side)) := by
          intro g hg
          rcases List.mem_iff_getElem.1 hg with ⟨i, hi, rfl⟩
          exact (List.forall₂_iff_get.1 hcarries).2 i hi (hcarries.length_eq ▸ hi) |>.whole
        have hframes := (hsends.streams.pipes pipe hout).read hcapnp hlawful
          hsends.streams.headers hwhole hfar
        let sent := (d.peer side.other).sentOver (conn.env side.other) pipe
        have heq : frames = (sent.take frames.length).map (SentMsg.frame (conn.env side.other)) := by
          rw [List.map_take]
          exact List.prefix_iff_eq_take.1 hframes
        refine ⟨sent.take frames.length, Or.inr ⟨pipe, rfl, List.take_prefix _ _⟩, ?_⟩
        refine carries_frames hcapnp hlawful ?_ (heq ▸ hcarries)
        intro f hf
        exact hsends.streams.headers f (List.mem_of_mem_filter (List.mem_of_mem_take hf))

end Duplex
end StrucTransport
