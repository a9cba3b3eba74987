import StrucTransport.Lib.Framing
import StrucTransport.Property.Negotiation

/-!
# Per-pipe receive framing

What a pipe receives after negotiation is cut into messages: a lead payload whose
header announces how many continuation payloads follow, and these.  The peer
chooses the payloads; a reader may fail to give a segment at any time.  The
invariant says which messages were cut out so far, and what the message under
way consists of.

Main results:

- Theorem {lit}`reads_of_run`: the invariant holds after every run.
- Theorem {lit}`handsPassed`: what a step passes on from a pipe is what it hands to
  {lit}`rcv_struct_new_msg_in()`.
- Theorem {lit}`read_framing`: the assertions at the head of each read hold, each
  message is made of its own payloads in order, and any fault but a missing native
  handle hoses the channel and ends the reading.
-/

namespace StrucTransport
namespace Channel

variable {H : Type} {env : Env}

/-! ## Frames of payloads -/

/-- The in-message of which the lead payload was received, before its header is read. -/
def leadMsg (p : Payload) : MsgIn where
  nativeHandleOrNull := p.hndl
  mdtReader := some p.blob

/-- The in-message with its continuation payloads, one body segment each. -/
def withBody (m : MsgIn) (conts : List Payload) : MsgIn :=
  if conts.isEmpty then m else { m with bodyReader := some (conts.map Payload.blob) }

/-- The number of continuation payloads that a lead payload announces, if it is accepted. -/
def announced (env : Env) (p : Payload) : Option Nat :=
  ((leadMsg p).deserializeMdt env.capnp env.endian).toOption.map Prod.snd

/-- A continuation payload is a non-empty blob without a handle. -/
def Continues (p : Payload) : Prop :=
  p.hndl = none ∧ p.blob ≠ []

/--
The message is what the frame carries: its lead payload was accepted by
{lit}`deserialize_mdt()`, and it has as many continuation payloads as announced.
-/
structure Carries (env : Env) (f : Framing.Frame Payload) (m : MsgIn) : Prop where
  lead : f.lead.blob ≠ []
  conts : ∀ p ∈ f.conts, Continues p
  msg : ∃ m₀, (leadMsg f.lead).deserializeMdt env.capnp env.endian = .ok (m₀, f.conts.length) ∧
    m = withBody m₀ f.conts

/-- The frame of a message has the payloads its lead announces. -/
theorem Carries.whole {f : Framing.Frame Payload} {m : MsgIn} (h : Carries env f m) :
    f.Whole (announced env) := by
  rcases h.msg with ⟨m₀, hm₀, _⟩
  simp [Framing.Frame.Whole, announced, hm₀, Except.toOption]

/-- What a header check leaves of a lead payload. -/
theorem leadMsg_accepted {p : Payload} {m : MsgIn} {n : Nat}
    (h : (leadMsg p).deserializeMdt env.capnp env.endian = .ok (m, n)) :
    m.mdtReader.isSome ∧ m.bodyReader = none := by
  rcases MsgIn.deserializeMdt_ok_frame h with ⟨root, token, rfl⟩
  exact ⟨rfl, rfl⟩

/-- One more body segment is added and filled. -/
theorem fill_withBody {m : MsgIn} (hmdt : m.mdtReader.isSome) (hbody : m.bodyReader = none)
    (conts : List Payload) (p : Payload) :
    (withBody m conts).addSerializationSegment.fillLastSegment p.blob =
      withBody m (conts ++ [p]) := by
  rcases Option.isSome_iff_exists.1 hmdt with ⟨b, hb⟩
  cases conts with
  | nil => simp [withBody, MsgIn.addSerializationSegment, MsgIn.fillLastSegment, hb, hbody]
  | cons q qs =>
      have hdrop : (q.blob :: (qs.map Payload.blob ++ [[]])).dropLast =
          q.blob :: qs.map Payload.blob := by
        rw [← List.cons_append, List.dropLast_concat]
      simp [withBody, MsgIn.addSerializationSegment, MsgIn.fillLastSegment, hb, hdrop]

/-! ## The message under way -/

/-- A pipe that may issue a read: a fresh segment to receive into, and no handle. -/
structure Ready (env : Env) (pipe : MsgInPipe) : Prop where
  targetBlob : pipe.targetBlob =
    some ⟨rcvBlobMaxSize env pipe.leadMsgMode, rcvBlobMaxSize env pipe.leadMsgMode⟩
  targetHndl : pipe.targetHndl = none

/-- What was received of the message under way, by the kind of the next read. -/
inductive UnderWay (env : Env) (pipe : MsgInPipe) : ReadKind → List Payload → Prop where
  | lead (blank : pipe.incompleteMsg = ({} : MsgIn).addSerializationSegment)
      (unknown : pipe.nSegsLeftAfterThisRead = 0) : UnderWay env pipe .lead []
  | continuation (lead : Payload) (conts : List Payload) (m : MsgIn) (n : Nat)
      (accepted : (leadMsg lead).deserializeMdt env.capnp env.endian = .ok (m, n))
      (leadBlob : lead.blob ≠ []) (continues : ∀ p ∈ conts, Continues p)
      (msg : pipe.incompleteMsg = (withBody m conts).addSerializationSegment)
      (left : conts.length + 1 + pipe.nSegsLeftAfterThisRead = n) :
      UnderWay env pipe .continuation (lead :: conts)

/-- What was received of a message once a payload was stored. -/
structure Stored (env : Env) (pipe : MsgInPipe) (lead : Payload) (conts : List Payload) (m : MsgIn)
    (n : Nat) : Prop where
  accepted : (leadMsg lead).deserializeMdt env.capnp env.endian = .ok (m, n)
  leadBlob : lead.blob ≠ []
  continues : ∀ p ∈ conts, Continues p
  msg : pipe.incompleteMsg = withBody m conts
  left : conts.length + pipe.nSegsLeftAfterThisRead = n
  targetHndl : pipe.targetHndl = none

/-- A payload that is stored goes into the message under way. -/
theorem UnderWay.store {pipe pipe₁ : MsgInPipe} {kind : ReadKind} {part : List Payload}
    {p : Payload} (h : UnderWay env pipe kind part)
    (hstore : storePayload env pipe (kind = .lead) p = .ok pipe₁) :
    ∃ lead conts m n, part ++ [p] = lead :: conts ∧ Stored env pipe₁ lead conts m n := by
  cases h with
  | lead blank unknown =>
      simp only [storePayload, decide_true, if_true] at hstore
      split at hstore
      · cases hstore
      · split at hstore
        · cases hstore
        · rename_i hblob
          have hmsg : (fillTarget pipe p).incompleteMsg.storeNativeHandleOrNull p.hndl =
              leadMsg p := by
            simp [fillTarget, blank, MsgIn.addSerializationSegment, MsgIn.fillLastSegment,
              MsgIn.storeNativeHandleOrNull, leadMsg]
          rw [hmsg] at hstore
          split at hstore
          · cases hstore
          · rename_i m n heq
            cases hstore
            refine ⟨p, [], m, n, rfl, heq, ?_, by simp, rfl, Nat.zero_add n, rfl⟩
            exact fun hnil => hblob (by simp [hnil])
  | continuation lead conts m n accepted leadBlob continues msg left =>
      simp only [storePayload, reduceCtorEq, decide_false, Bool.false_eq_true, if_false] at hstore
      split at hstore
      · cases hstore
      · rename_i hhndl
        split at hstore
        · cases hstore
        · rename_i hblob
          cases hstore
          rcases leadMsg_accepted accepted with ⟨hmdt, hbody⟩
          have hcontinues : Continues p :=
            ⟨not_not.1 hhndl, fun hnil => hblob (by simp [hnil])⟩
          refine ⟨lead, conts ++ [p], m, n, rfl, accepted, leadBlob, ?_, ?_, ?_, not_not.1 hhndl⟩
          · intro q hq
            rcases List.mem_append.1 hq with hq | hq
            · exact continues q hq
            · exact List.mem_singleton.1 hq ▸ hcontinues
          · rw [← fill_withBody hmdt hbody, ← msg]
            rfl
          · rw [List.length_append, List.length_singleton]
            exact left

/-- A message of which everything was stored is carried by its frame. -/
theorem Stored.carries {pipe : MsgInPipe} {lead : Payload} {conts : List Payload} {m : MsgIn}
    {n : Nat} (h : Stored env pipe lead conts m n) (hwhole : pipe.nSegsLeftAfterThisRead = 0) :
    Carries env ⟨lead, conts⟩ pipe.incompleteMsg where
  lead := h.leadBlob
  conts := h.continues
  msg := by
    have hn : conts.length = n := by
      have hleft := h.left
      omega
    exact ⟨m, by rw [hn]; exact h.accepted, h.msg⟩

/-- The next segment of a message that is not complete. -/
theorem Stored.next {pipe : MsgInPipe} {lead : Payload} {conts : List Payload} {m : MsgIn}
    {n : Nat} (h : Stored env pipe lead conts m n) (hmore : pipe.nSegsLeftAfterThisRead ≠ 0) :
    UnderWay env { withSegment env
        { pipe with nSegsLeftAfterThisRead := pipe.nSegsLeftAfterThisRead - 1 } with
        outstanding := some .continuation } .continuation (lead :: conts) := by
  refine .continuation lead conts m n h.accepted h.leadBlob h.continues ?_ ?_
  · rw [← h.msg]
    rfl
  · have hleft := h.left
    change conts.length + 1 + (pipe.nSegsLeftAfterThisRead - 1) = n
    omega

/-! ## What is passed on -/

/-- The in-message that a step passes from the pipe to {lit}`rcv_struct_new_msg_in()`, if any. -/
def passedOn (env : Env) (slot : PipeSlot) (c : Channel H) : Label H → Option MsgIn
  | .rcv slot' (.ok p) =>
      if slot' = slot ∧ c.channelErrCodeOrOk = none then
        (c.pendingRead slot (.ok p)).bind fun (pipe, kind) => completes env pipe kind p
      else none
  | _ => none

/-- The in-messages that a run passes from the pipe to {lit}`rcv_struct_new_msg_in()`, in order. -/
def passedMsgs (env : Env) (slot : PipeSlot) : Channel H → List (Label H) → List MsgIn :=
  Transition.collect (step env) (passedOn env slot)

/-- What a run with one more step passed on. -/
theorem passedMsgs_concat {slot : PipeSlot} {c c₁ : Channel H} {ls : List (Label H)}
    (hrun : run env c ls = some c₁) (l : Label H) :
    passedMsgs env slot c (ls ++ [l]) =
      passedMsgs env slot c ls ++ (c₁.passedOn env slot l).toList :=
  Transition.collect_concat hrun l

/-- What a read of a live channel passes on. -/
theorem passedOn_rcv {c : Channel H} {slot : PipeSlot} {pipe : MsgInPipe} {kind : ReadKind}
    {p : Payload} (hlive : c.channelErrCodeOrOk = none) (hpoll : c.polling = none)
    (hpipe : c.rcvPipe slot = some pipe) (hkind : pipe.outstanding = some kind)
    (hposs : rcvPossible pipe (.ok p) = true) :
    c.passedOn env slot (.rcv slot (.ok p)) = completes env pipe kind p := by
  simp [passedOn, hlive, pendingRead, hpoll, hpipe, hkind, hposs]

/-- A hosed channel passes nothing on. -/
theorem passedOn_hosed {c : Channel H} {slot : PipeSlot} (hhosed : c.Hosed) (result : RcvResult) :
    c.passedOn env slot (.rcv slot result) = none := by
  cases result with
  | error e => rfl
  | ok p =>
      have hnot : ¬ c.channelErrCodeOrOk = none := hhosed
      simp [passedOn, hnot]

/-- A step that completes no read of the pipe passes nothing on from it. -/
theorem passedOn_other {c : Channel H} {slot : PipeSlot} {l : Label H}
    (hother : ∀ result, l ≠ .rcv slot result) : c.passedOn env slot l = none := by
  cases l with
  | call x => rfl
  | handlerReturned => rfl
  | rcv slot' result =>
      cases result with
      | error e => rfl
      | ok p =>
          have hne : ¬ (slot' = slot ∧ c.channelErrCodeOrOk = none) := by
            rintro ⟨rfl, _⟩
            exact hother _ rfl
          simp only [passedOn]
          rw [if_neg hne]

/-! ## The invariant of a pipe -/

/-- The messages are those that the frames at the beginning of what was received carry. -/
def Framed (env : Env) (rs : List RcvResult) (ms : List MsgIn) : Prop :=
  ∃ neg frames rest,
    (frames = [] ∨ rs = (neg :: Framing.stream frames).map .ok ++ rest) ∧
      List.Forall₂ (Carries env) frames ms

/-- Nothing was passed on yet. -/
theorem Framed.nil (env : Env) (rs : List RcvResult) : Framed env rs [] :=
  ⟨⟨none, []⟩, [], [], Or.inl rfl, .nil⟩

/-- More is received than was passed on. -/
theorem Framed.append {rs : List RcvResult} {ms : List MsgIn} (h : Framed env rs ms)
    (more : List RcvResult) : Framed env (rs ++ more) ms := by
  rcases h with ⟨neg, frames, rest, hrs, hms⟩
  refine ⟨neg, frames, rest ++ more, ?_, hms⟩
  rcases hrs with hnil | hrs
  · exact Or.inl hnil
  · exact Or.inr (by rw [hrs, List.append_assoc])

/-- What was received on a pipe and passed on from it, by what it waits for now. -/
inductive Reads (env : Env) (slot : PipeSlot) (c : Channel H) (rs : List RcvResult)
    (ms : List MsgIn) : Prop where
  | unset (pipe : c.rcvPipe slot = none) (received : rs = []) (passed : ms = [])
  | negotiating (mode : LeadMsgMode) (pipe : c.rcvPipe slot = some (firstRead env mode))
      (received : rs = []) (passed : ms = [])
  | reading (pipe : MsgInPipe) (kind : ReadKind) (neg : Payload)
      (frames : List (Framing.Frame Payload)) (part : List Payload)
      (current : c.rcvPipe slot = some pipe) (outstanding : pipe.outstanding = some kind)
      (ready : Ready env pipe) (underWay : UnderWay env pipe kind part)
      (received : rs = (neg :: (Framing.stream frames ++ part)).map .ok)
      (passed : List.Forall₂ (Carries env) frames ms)
  | stopped (pipe : MsgInPipe) (current : c.rcvPipe slot = some pipe)
      (outstanding : pipe.outstanding = none) (framed : Framed env rs ms)

/-- What was passed on are whole messages, wherever the reading is. -/
theorem Reads.framed {slot : PipeSlot} {c : Channel H} {rs : List RcvResult} {ms : List MsgIn}
    (h : Reads env slot c rs ms) : Framed env rs ms := by
  cases h with
  | unset pipe received passed => exact passed ▸ .nil env rs
  | negotiating mode pipe received passed => exact passed ▸ .nil env rs
  | reading pipe kind neg frames part current outstanding ready underWay received passed =>
      refine ⟨neg, frames, part.map .ok, Or.inr ?_, passed⟩
      rw [received, ← List.map_append, List.cons_append]
  | stopped pipe current outstanding framed => exact framed

/-- A step that leaves the pipe alone. -/
theorem Reads.of_same {slot : PipeSlot} {c c' : Channel H} {rs : List RcvResult} {ms : List MsgIn}
    (h : Reads env slot c rs ms) (hsame : c'.rcvPipe slot = c.rcvPipe slot) :
    Reads env slot c' rs ms := by
  cases h with
  | unset pipe received passed => exact .unset (hsame.trans pipe) received passed
  | negotiating mode pipe received passed =>
      exact .negotiating mode (hsame.trans pipe) received passed
  | reading pipe kind neg frames part current outstanding ready underWay received passed =>
      exact .reading pipe kind neg frames part (hsame.trans current) outstanding ready underWay
        received passed
  | stopped pipe current outstanding framed =>
      exact .stopped pipe (hsame.trans current) outstanding framed

/-- A read that ends the chain and passes nothing on. -/
theorem Reads.stop {slot : PipeSlot} {c c' c₁ : Channel H} {rs : List RcvResult} {ms : List MsgIn}
    (h : Reads env slot c rs ms) (result : RcvResult) (pipe : MsgInPipe)
    (hc' : c' = (c₁.stopReading slot pipe).handlersPoll) :
    Reads env slot c' (rs ++ [result]) ms := by
  subst hc'
  exact .stopped _ (rcvPipe_stopReading c₁ slot pipe) rfl (h.framed.append [result])

/-- A payload that is refused completes nothing. -/
theorem completes_of_error {pipe : MsgInPipe} {kind : ReadKind} {p : Payload} {e : Option ErrorCode}
    (hstore : storePayload env pipe (kind = .lead) p = .error e) :
    completes env pipe kind p = none := by
  unfold completes
  split
  · rfl
  · rw [hstore]

/-- A payload with more to follow completes nothing yet. -/
theorem completes_of_more {pipe pipe₁ : MsgInPipe} {kind : ReadKind} {p : Payload}
    (hstore : storePayload env pipe (kind = .lead) p = .ok pipe₁)
    (hmore : pipe₁.nSegsLeftAfterThisRead ≠ 0) : completes env pipe kind p = none := by
  unfold completes
  split
  · rfl
  · rw [hstore]
    exact if_neg hmore

/-- The last payload completes the message. -/
theorem completes_of_whole {pipe pipe₁ : MsgInPipe} {kind : ReadKind} {p : Payload}
    (hkind : kind ≠ .protoNeg) (hstore : storePayload env pipe (kind = .lead) p = .ok pipe₁)
    (hwhole : pipe₁.nSegsLeftAfterThisRead = 0) :
    completes env pipe kind p = some pipe₁.incompleteMsg :=
  completes_eq_some.2 ⟨hkind, pipe₁, hstore, hwhole, rfl⟩

/-- A payload that is stored while a message is read, and what was received with it. -/
theorem received_concat {rs : List RcvResult} {neg p lead : Payload}
    {frames : List (Framing.Frame Payload)} {part conts : List Payload}
    (hrs : rs = (neg :: (Framing.stream frames ++ part)).map .ok)
    (hpart : part ++ [p] = lead :: conts) :
    rs ++ [.ok p] = (neg :: (Framing.stream frames ++ lead :: conts)).map .ok := by
  rw [hrs, ← hpart]
  simp

/-- What was received, with the last message as one more frame. -/
theorem received_frame {rs : List RcvResult} {neg p lead : Payload}
    {frames : List (Framing.Frame Payload)} {part conts : List Payload}
    (hrs : rs = (neg :: (Framing.stream frames ++ part)).map .ok)
    (hpart : part ++ [p] = lead :: conts) :
    rs ++ [.ok p] = (neg :: Framing.stream (frames ++ [⟨lead, conts⟩])).map .ok := by
  rw [received_concat hrs hpart, Framing.stream_append]
  simp

/-- A pipe that waits for the negotiation message has received nothing. -/
theorem Reads.negotiates {slot : PipeSlot} {c : Channel H} {rs : List RcvResult} {ms : List MsgIn}
    (h : Reads env slot c rs ms) {pipe : MsgInPipe} (hpipe : c.rcvPipe slot = some pipe)
    (hkind : pipe.outstanding = some .protoNeg) :
    ∃ mode, pipe = firstRead env mode ∧ rs = [] ∧ ms = [] := by
  cases h with
  | unset pipe' received passed => simp [hpipe] at pipe'
  | negotiating mode pipe' received passed =>
      rw [hpipe] at pipe'
      exact ⟨mode, Option.some.inj pipe', received, passed⟩
  | reading pipe' kind' neg frames part current outstanding ready underWay received passed =>
      rw [hpipe] at current
      cases current
      rw [hkind] at outstanding
      cases outstanding
      cases underWay
  | stopped pipe' current outstanding framed =>
      rw [hpipe] at current
      cases current
      simp [hkind] at outstanding

/-- A payload that is stored continues the message under way. -/
theorem Reads.stores {slot : PipeSlot} {c : Channel H} {rs : List RcvResult} {ms : List MsgIn}
    (h : Reads env slot c rs ms) {pipe pipe₁ : MsgInPipe} (hpipe : c.rcvPipe slot = some pipe)
    {kind : ReadKind} (hkind : pipe.outstanding = some kind) (hmessage : kind ≠ .protoNeg)
    {p : Payload} (hstore : storePayload env pipe (kind = .lead) p = .ok pipe₁) :
    ∃ neg frames part lead conts m n,
      rs = (neg :: (Framing.stream frames ++ part)).map .ok ∧
      List.Forall₂ (Carries env) frames ms ∧ part ++ [p] = lead :: conts ∧
      Stored env pipe₁ lead conts m n := by
  cases h with
  | unset pipe' received passed => simp [hpipe] at pipe'
  | negotiating mode pipe' received passed =>
      rw [hpipe] at pipe'
      cases pipe'
      exact absurd (Option.some.inj hkind).symm hmessage
  | reading pipe' kind' neg frames part current outstanding ready underWay received passed =>
      rw [hpipe] at current
      cases current
      rw [hkind] at outstanding
      cases outstanding
      rcases underWay.store hstore with ⟨lead, conts, m, n, hpart, hst⟩
      exact ⟨neg, frames, part, lead, conts, m, n, received, passed, hpart, hst⟩
  | stopped pipe' current outstanding framed =>
      rw [hpipe] at current
      cases current
      simp [hkind] at outstanding

/-- Once the last payload of a message is stored, what was received is whole frames. -/
theorem Reads.completes {slot : PipeSlot} {c : Channel H} {rs : List RcvResult} {ms : List MsgIn}
    (h : Reads env slot c rs ms) {pipe pipe₁ : MsgInPipe} (hpipe : c.rcvPipe slot = some pipe)
    {kind : ReadKind} (hkind : pipe.outstanding = some kind) (hmessage : kind ≠ .protoNeg)
    {p : Payload} (hstore : storePayload env pipe (kind = .lead) p = .ok pipe₁)
    (hwhole : pipe₁.nSegsLeftAfterThisRead = 0) :
    ∃ neg frames, rs ++ [.ok p] = (neg :: Framing.stream frames).map .ok ∧
      List.Forall₂ (Carries env) frames (ms ++ (Channel.completes env pipe kind p).toList) ∧
      pipe₁.targetHndl = none := by
  rcases h.stores hpipe hkind hmessage hstore with
    ⟨neg, frames, part, lead, conts, m, n, hrs, hms, hpart, hst⟩
  rw [completes_of_whole hmessage hstore hwhole]
  exact ⟨neg, frames ++ [⟨lead, conts⟩], received_frame hrs hpart,
    List.rel_append hms (.cons (hst.carries hwhole) .nil), hst.targetHndl⟩

/-- A completed read of a pipe, and what it passes on. -/
theorem Reads.receive {slot : PipeSlot} {c c' : Channel H} {rs : List RcvResult} {ms : List MsgIn}
    (h : Reads env slot c rs ms) (hpoll : c.polling = none) {pipe : MsgInPipe}
    (hpipe : c.rcvPipe slot = some pipe) {kind : ReadKind} (hkind : pipe.outstanding = some kind)
    {result : RcvResult} (hposs : rcvPossible pipe result = true)
    (hreceipt : Receipt env c slot pipe kind result c') :
    Reads env slot c' (rs ++ [result])
      (ms ++ (c.passedOn env slot (.rcv slot result)).toList) := by
  have hpassed : ∀ p, result = .ok p → c.channelErrCodeOrOk = none →
      c.passedOn env slot (.rcv slot result) = Channel.completes env pipe kind p := by
    rintro p rfl hlive
    exact passedOn_rcv hlive hpoll hpipe hkind hposs
  have hend : ∀ {c₁ : Channel H} {pipe'}, c' = (c₁.stopReading slot pipe').handlersPoll →
      c.passedOn env slot (.rcv slot result) = none →
      Reads env slot c' (rs ++ [result])
        (ms ++ (c.passedOn env slot (.rcv slot result)).toList) := by
    intro c₁ pipe' hc' hnone
    rw [hnone, Option.toList_none, List.append_nil]
    exact h.stop result pipe' hc'
  -- Negotiation is done: lead messages are read next.
  have hlead : ∀ {p} {c₁ : Channel H}, kind = .protoNeg → result = .ok p →
      c.channelErrCodeOrOk = none → c' = c₁.issueRead slot pipe .lead →
      Reads env slot c' (rs ++ [result])
        (ms ++ (c.passedOn env slot (.rcv slot result)).toList) := by
    rintro p c₁ rfl rfl hlive rfl
    rcases h.negotiates hpipe hkind with ⟨mode, rfl, rfl, rfl⟩
    rw [hpassed p rfl hlive]
    refine .reading _ .lead p [] [] (rcvPipe_issueRead c₁ slot _ .lead) rfl ⟨rfl, rfl⟩
      (.lead rfl rfl) rfl ?_
    exact .nil
  have hwholeEnd : ∀ {p pipe₁} {c₁ : Channel H} {pipe'}, kind ≠ .protoNeg → result = .ok p →
      storePayload env pipe (kind = .lead) p = .ok pipe₁ →
      pipe₁.nSegsLeftAfterThisRead = 0 → c.channelErrCodeOrOk = none →
      c' = (c₁.stopReading slot pipe').handlersPoll →
      Reads env slot c' (rs ++ [result])
        (ms ++ (c.passedOn env slot (.rcv slot result)).toList) := by
    rintro p pipe₁ c₁ pipe' hmessage rfl hstore hsegs hlive rfl
    rcases h.completes hpipe hkind hmessage hstore hsegs with ⟨neg, frames, hrs, hms, _⟩
    rw [hpassed p rfl hlive]
    exact .stopped _ (rcvPipe_stopReading c₁ slot pipe') rfl
      ⟨neg, frames, [], Or.inr (by rw [hrs, List.append_nil]), hms⟩
  cases hreceipt with
  | hosed kind result hosed => exact hend rfl (passedOn_hosed hosed result)
  | error kind e live => exact hend rfl rfl
  | negotiatedBefore p live known => exact hlead rfl rfl live rfl
  | negotiated p c₁ live fresh computed => exact hlead rfl rfl live rfl
  | notNegotiated p c₁ e live fresh computed =>
      exact hend rfl (hpassed p rfl live)
  | malformed kind p pipe' e live message stored =>
      refine hend rfl ?_
      rw [hpassed p rfl live, completes_of_error stored]
  | segment kind p pipe₁ live message stored more allocated =>
      rcases h.stores hpipe hkind message stored with
        ⟨neg, frames, part, lead, conts, m, n, hrs, hms, hpart, hst⟩
      rw [hpassed p rfl live, completes_of_more stored more, Option.toList_none, List.append_nil]
      exact .reading _ .continuation neg frames (lead :: conts)
        (((handlersPoll_chainFrame _).rcvPipe slot).trans (rcvPipe_issueRead _ slot _ _)) rfl
        ⟨rfl, hst.targetHndl⟩ (hst.next more) (received_concat hrs hpart) hms
  | noSegment kind p pipe₁ pipe' live message stored more notAllocated =>
      refine hend rfl ?_
      rw [hpassed p rfl live, completes_of_more stored more]
  | refused kind p pipe₁ c₁ live message stored whole taken =>
      exact hwholeEnd message rfl stored whole live rfl
  | handled kind p pipe₁ c₁ live message stored whole taken allocated =>
      rcases h.completes hpipe hkind message stored whole with ⟨neg, frames, hrs, hms, hhndl⟩
      rw [hpassed p rfl live]
      refine .reading _ .lead neg frames []
        (((handlersPoll_chainFrame _).rcvPipe slot).trans (rcvPipe_issueRead _ slot _ _)) rfl
        ⟨rfl, hhndl⟩ (.lead rfl whole) ?_ hms
      rw [List.append_nil]
      exact hrs
  | handledNoSegment kind p pipe₁ pipe' c₁ live message stored whole taken notAllocated =>
      exact hwholeEnd message rfl stored whole live rfl

/-! ## The assertions at the head of a read -/

/-- A pipe with a fresh segment and no handle passes the assertions at the head of a read. -/
theorem issueRead_asserted {c : Channel H} {slot : PipeSlot} {pipe : MsgInPipe} {kind : ReadKind}
    (hsize : ∀ mode, 0 < rcvBlobMaxSize env mode) (hready : Ready env pipe)
    (hsegs : kind = .lead → pipe.nSegsLeftAfterThisRead = 0) (h : c.ReadsAsserted) :
    (c.issueRead slot pipe kind).ReadsAsserted := by
  have hfresh : targetBlobFresh pipe = true := by
    rw [targetBlobFresh, hready.targetBlob]
    simpa using hsize pipe.leadMsgMode
  have hunknown : segsLeftUnknown pipe kind = true := by
    by_cases hlead : kind = .lead
    · simp [segsLeftUnknown, hsegs hlead]
    · simp [segsLeftUnknown, hlead]
  have htrace : (c.issueRead slot pipe kind).trace = c.trace := by
    cases slot <;>
      simp [issueRead, assertReadyToRead, setRcvPipe, assertThat, hfresh, hunknown,
        hready.targetHndl]
  rw [ReadsAsserted, htrace]
  exact h

/-- The pipe that a read was issued on was ready for it. -/
theorem Reads.issued {slot : PipeSlot} {c : Channel H} {rs : List RcvResult} {ms : List MsgIn}
    (h : Reads env slot c rs ms) {pipe : MsgInPipe} {kind : ReadKind}
    (hpipe : c.rcvPipe slot = some { pipe with outstanding := some kind })
    (hkind : kind ≠ .protoNeg) :
    Ready env pipe ∧ (kind = .lead → pipe.nSegsLeftAfterThisRead = 0) := by
  cases h with
  | unset pipe' received passed => simp [hpipe] at pipe'
  | negotiating mode pipe' received passed =>
      rw [hpipe, Option.some.injEq] at pipe'
      have hout := congrArg MsgInPipe.outstanding pipe'
      exact absurd (Option.some.inj hout) hkind
  | reading pipe' kind' neg frames part current outstanding ready underWay received passed =>
      rw [hpipe] at current
      cases current
      cases outstanding
      refine ⟨⟨ready.targetBlob, ready.targetHndl⟩, ?_⟩
      rintro rfl
      cases underWay with
      | lead blank unknown => exact unknown
  | stopped pipe' current outstanding framed =>
      rw [hpipe] at current
      cases current
      simp at outstanding

/-- A completed read trips none of the assertions at the head of the next one. -/
theorem Reads.asserted {slot : PipeSlot} {c c' : Channel H} {rs : List RcvResult} {ms : List MsgIn}
    (hsize : ∀ mode, 0 < rcvBlobMaxSize env mode) (h : Reads env slot c' rs ms)
    {pipe : MsgInPipe} {kind : ReadKind} {result : RcvResult}
    (hreceipt : Receipt env c slot pipe kind result c') (hc : c.ReadsAsserted) :
    c'.ReadsAsserted := by
  have herr : ∀ {c : Channel H} e, c.ReadsAsserted → (c.handleNewError env e).ReadsAsserted :=
    fun e h => (handleNewError_chainFrame env _ e).asserted h
  have hstop : ∀ {c : Channel H} {pipe}, c.ReadsAsserted →
      (c.stopReading slot pipe).handlersPoll.ReadsAsserted := by
    intro c pipe hasserted
    refine (handlersPoll_chainFrame _).asserted ?_
    cases slot <;> exact hasserted
  have htaken : ∀ {c₁ : Channel H} {m : MsgIn} {ok : Bool}, c.rcvStructNewMsgIn env m = (c₁, ok) →
      c₁.ReadsAsserted := by
    intro c₁ m ok htaken
    have hframe := rcvStructNewMsgIn_chainFrame env c m
    rw [htaken] at hframe
    exact hframe.asserted hc
  have hcomputed : ∀ {c₁ : Channel H} {v va : Option Int} {e : Option ErrorCode},
      c.computeNegotiatedProtoVers env v va = (c₁, e) → c₁.ReadsAsserted := by
    intro c₁ v va e hcomputed
    rcases computeNegotiatedProtoVers_frame env c v va with ⟨ver, verAux, tr, hframe, htr⟩
    rw [hcomputed] at hframe
    have htrace : c₁.trace = c.trace ++ tr := congrArg Channel.trace hframe
    refine hc.append htrace ?_
    intro a ha hmem
    have hneg := htr _ hmem
    simp only [readAssertions, List.mem_cons, List.not_mem_nil, or_false] at ha
    rcases ha with rfl | rfl | rfl <;> simp [isNegotiation] at hneg
  have hissue : ∀ {c₁ : Channel H} {pipe' : MsgInPipe} {kind' : ReadKind},
      c'.rcvPipe slot = (c₁.issueRead slot pipe' kind').rcvPipe slot → kind' ≠ .protoNeg →
      c₁.ReadsAsserted → (c₁.issueRead slot pipe' kind').ReadsAsserted := by
    intro c₁ pipe' kind' hpipe' hmessage hc₁
    rw [rcvPipe_issueRead] at hpipe'
    rcases h.issued hpipe' hmessage with ⟨hready, hsegs⟩
    exact issueRead_asserted hsize hready hsegs hc₁
  have htick : ∀ {c : Channel H}, c.ReadsAsserted → c.tickUp.ReadsAsserted :=
    fun h => (tickUp_chainFrame _).asserted h
  have hpoll : ∀ {c : Channel H}, c.ReadsAsserted → c.handlersPoll.ReadsAsserted :=
    fun h => (handlersPoll_chainFrame _).asserted h
  cases hreceipt with
  | hosed kind result hosed => exact hstop hc
  | error kind e live => exact hstop (herr e hc)
  | negotiatedBefore p live known => exact hissue rfl (by simp) hc
  | negotiated p c₁ live fresh computed => exact hissue rfl (by simp) (hcomputed computed)
  | notNegotiated p c₁ e live fresh computed => exact hstop (herr e (hcomputed computed))
  | malformed kind p pipe' e live message stored => exact hstop (herr e hc)
  | segment kind p pipe₁ live message stored more allocated =>
      exact hpoll (hissue ((handlersPoll_chainFrame _).rcvPipe slot) (by simp) (htick hc))
  | noSegment kind p pipe₁ pipe' live message stored more notAllocated =>
      exact hstop (herr _ (htick hc))
  | refused kind p pipe₁ c₁ live message stored whole taken => exact hstop (htaken taken)
  | handled kind p pipe₁ c₁ live message stored whole taken allocated =>
      exact hpoll (hissue ((handlersPoll_chainFrame _).rcvPipe slot) (by simp)
        (htick (htaken taken)))
  | handledNoSegment kind p pipe₁ pipe' c₁ live message stored whole taken notAllocated =>
      exact hstop (herr _ (htick (htaken taken)))

/-! ## Over whole runs -/

/-- A step of the channel, and what each pipe made of it. -/
theorem Reads.step {args : CtorArgs} {ls : List (Label H)} {l : Label H} {c c' : Channel H}
    {slot : PipeSlot} {ms : List MsgIn} (h : Reads env slot c (receivedOn slot ls) ms)
    (hrun : run env (ctor args) ls = some c) (hstep : Channel.step env c l = some c') :
    Reads env slot c' (receivedOn slot (ls ++ [l])) (ms ++ (c.passedOn env slot l).toList) := by
  have hreach : Reachable env c := ⟨args, ls, hrun⟩
  rw [receivedOn_append]
  have hothers : (∀ result, l ≠ .rcv slot result) → c'.rcvPipe slot = c.rcvPipe slot →
      Reads env slot c' (receivedOn slot ls ++ receivedOn slot [l])
        (ms ++ (c.passedOn env slot l).toList) := by
    intro hother hsame
    rw [receivedOn_other hother, passedOn_other hother, Option.toList_none, List.append_nil,
      List.append_nil]
    exact h.of_same hsame
  rcases step_pipe hstep slot with ⟨hother, hsame⟩ | ⟨f, rfl, rfl, hbegun⟩ |
    ⟨result, pipe, kind, rfl, hpoll, hpipe, hkind, hposs, hreceipt⟩
  · exact hothers hother hsame
  · by_cases hprecluded : c.startPrecluded = true
    · refine hothers (by simp) ?_
      simp [startAndPoll, hprecluded]
    · have hover := (step_call_eq_some.1 hstep).1
      have hnone := hreach.rcvPipe_of_starting (by simpa using hprecluded) hover slot
      rcases hbegun with hsame | ⟨pipe, hpipe, hout⟩
      · exact hothers (by simp) hsame
      · rw [receivedOn_other (by simp), passedOn_other (by simp), Option.toList_none,
          List.append_nil, List.append_nil]
        cases h with
        | unset pipe' received passed =>
            rcases hout with ⟨hstopped, _⟩ | ⟨mode, rfl⟩
            · rw [passed]
              exact .stopped pipe hpipe hstopped (.nil env _)
            · exact .negotiating mode hpipe received passed
        | negotiating mode pipe' received passed => simp [hnone] at pipe'
        | reading pipe' kind neg frames part current outstanding ready underWay received passed =>
            simp [hnone] at current
        | stopped pipe' current outstanding framed => simp [hnone] at current
  · rw [receivedOn_rcv]
    exact h.receive hpoll hpipe hkind hposs hreceipt

/-- A new channel reads nothing. -/
theorem reads_ctor (env : Env) (args : CtorArgs) (slot : PipeSlot) :
    Reads env slot (ctor args : Channel H) [] [] := by
  refine .unset ?_ rfl rfl
  cases args <;> cases slot <;> rfl

/-- What each pipe received and passed on, after every run. -/
theorem reads_of_run {args : CtorArgs} {ls : List (Label H)} {c : Channel H}
    (hrun : run env (ctor args) ls = some c) (slot : PipeSlot) :
    Reads env slot c (receivedOn slot ls) (passedMsgs env slot (ctor args) ls) := by
  refine Transition.run_history
    (fun ls c => Reads env slot c (receivedOn slot ls) (passedMsgs env slot (ctor args) ls))
    (reads_ctor env args slot) ?_ hrun
  intro ls c l c' hrun hinv hstep
  rw [passedMsgs_concat hrun]
  exact hinv.step hrun hstep

/-- The assertions at the head of each read hold, after every run. -/
theorem readsAsserted_of_run (hsize : ∀ mode, 0 < rcvBlobMaxSize env mode) {args : CtorArgs}
    {ls : List (Label H)} {c : Channel H} (hrun : run env (ctor args) ls = some c) :
    c.ReadsAsserted := by
  refine Transition.run_history (fun _ c => c.ReadsAsserted) ?_ ?_ hrun
  · intro a _
    cases args <;> simp [ctor]
  · intro ls c l c' hrun hinv hstep
    have hrun' : run env (ctor args) (ls ++ [l]) = some c' :=
      Transition.run_append_eq_some.2 ⟨c, hrun, by simp [hstep]⟩
    rcases step_cases hstep with ⟨x, rfl, rfl⟩ |
      ⟨slot, result, pipe, kind, rfl, _, _, _, _, rfl⟩ | ⟨t, rest, rfl, _, rfl⟩
    · exact .of_callFrame (call_frame env c x) hinv
    · exact (reads_of_run hrun' slot).asserted hsize (onRecv_receipt c slot pipe kind result) hinv
    · exact (handlerReturned_chainFrame c t rest).asserted hinv

/-! ## Faults -/

/-- The faults of a completed read of a lead or continuation message. -/
inductive ReadFault (env : Env) (c : Channel H) (pipe : MsgInPipe) (kind : ReadKind) :
    RcvResult → Prop where
  | lowLevelError (e : ErrorCode) : ReadFault env c pipe kind (.error e)
  | emptyBlob (p : Payload) (blob : p.blob = []) : ReadFault env c pipe kind (.ok p)
  | hndlOnContinuation (p : Payload) (cont : kind = .continuation) (hndl : p.hndl ≠ none) :
      ReadFault env c pipe kind (.ok p)
  | noHndlOnLead (p : Payload) (lead : kind = .lead)
      (mode : pipe.leadMsgMode = .withHndlElseError) (hndl : p.hndl = none) :
      ReadFault env c pipe kind (.ok p)
  | mdtRejected (p : Payload) (e : ErrorCode) (lead : kind = .lead)
      (rejected : (leadMsg p).deserializeMdt env.capnp env.endian = .error e) :
      ReadFault env c pipe kind (.ok p)
  | noNextSegment (p : Payload) (pipe₁ : MsgInPipe)
      (stored : storePayload env pipe (kind = .lead) p = .ok pipe₁)
      (more : pipe₁.nSegsLeftAfterThisRead ≠ 0)
      (notAllocated : env.segmentAllocated c.tick = false) : ReadFault env c pipe kind (.ok p)
  | noFirstSegment (p : Payload) (m : MsgIn) (c₁ : Channel H)
      (completed : completes env pipe kind p = some m)
      (taken : c.rcvStructNewMsgIn env m = (c₁, true))
      (notAllocated : env.segmentAllocated c₁.tick = false) : ReadFault env c pipe kind (.ok p)

/-- A payload with none of the faults that concern it alone. -/
structure Faultless (env : Env) (pipe : MsgInPipe) (kind : ReadKind) (p : Payload) : Prop where
  blob : p.blob ≠ []
  continuation : kind = .continuation → p.hndl = none
  lead : kind = .lead → pipe.leadMsgMode = .withHndlElseError → p.hndl ≠ none
  mdt : kind = .lead → ∃ m n, (leadMsg p).deserializeMdt env.capnp env.endian = .ok (m, n)

/-- A payload that was stored had no fault of its own. -/
theorem UnderWay.faultless {pipe pipe₁ : MsgInPipe} {kind : ReadKind} {part : List Payload}
    {p : Payload} (h : UnderWay env pipe kind part)
    (hstore : storePayload env pipe (kind = .lead) p = .ok pipe₁) :
    Faultless env pipe kind p := by
  rcases h.store hstore with ⟨lead, conts, m, n, hpart, hst⟩
  cases h with
  | lead blank unknown =>
      simp only [List.nil_append, List.cons.injEq] at hpart
      rcases hpart with ⟨rfl, rfl⟩
      refine ⟨hst.leadBlob, by simp, ?_, fun _ => ⟨m, n, hst.accepted⟩⟩
      intro _ hmode hhndl
      simp [storePayload, hmode, hhndl] at hstore
  | continuation lead' conts' m' n' accepted leadBlob continues msg left =>
      rw [List.cons_append, List.cons.injEq] at hpart
      have hp : Continues p := hst.continues p (by rw [← hpart.2]; simp)
      exact ⟨hp.2, fun _ => hp.1, by simp, by simp⟩

/-- Any fault ends the reading of the pipe. -/
theorem ReadFault.stops {slot : PipeSlot} {c c' : Channel H} {pipe : MsgInPipe}
    {kind : ReadKind} {part : List Payload} {result : RcvResult}
    (h : ReadFault env c pipe kind result) (hpart : UnderWay env pipe kind part)
    (hreceipt : Receipt env c slot pipe kind result c') : Stopped slot c' := by
  have hstop : ∀ (c₁ : Channel H) (pipe' : MsgInPipe),
      Stopped slot (c₁.stopReading slot pipe').handlersPoll :=
    fun c₁ pipe' => ⟨_, rcvPipe_stopReading c₁ slot pipe', rfl⟩
  have hfaultless : ∀ {p pipe₁}, storePayload env pipe (kind = .lead) p = .ok pipe₁ →
      Faultless env pipe kind p := fun hstore => hpart.faultless hstore
  cases hreceipt with
  | negotiatedBefore p live known => cases hpart
  | negotiated p c₁ live fresh computed => cases hpart
  | notNegotiated p c₁ e live fresh computed => cases hpart
  | segment kind p pipe₁ live message stored more allocated =>
      have hok := hfaultless stored
      cases h with
      | emptyBlob p blob => exact absurd blob hok.blob
      | hndlOnContinuation p cont hndl => exact absurd (hok.continuation cont) hndl
      | noHndlOnLead p lead mode hndl => exact absurd hndl (hok.lead lead mode)
      | mdtRejected p e lead rejected =>
          rcases hok.mdt lead with ⟨m, n, hmdt⟩
          simp [hmdt] at rejected
      | noNextSegment p pipe₂ stored₂ more₂ notAllocated => simp [allocated] at notAllocated
      | noFirstSegment p m c₁ completed taken notAllocated =>
          simp [completes_of_more stored more] at completed
  | handled kind p pipe₁ c₁ live message stored whole taken allocated =>
      have hok := hfaultless stored
      cases h with
      | emptyBlob p blob => exact absurd blob hok.blob
      | hndlOnContinuation p cont hndl => exact absurd (hok.continuation cont) hndl
      | noHndlOnLead p lead mode hndl => exact absurd hndl (hok.lead lead mode)
      | mdtRejected p e lead rejected =>
          rcases hok.mdt lead with ⟨m, n, hmdt⟩
          simp [hmdt] at rejected
      | noNextSegment p pipe₂ stored₂ more notAllocated =>
          rw [stored] at stored₂
          cases stored₂
          exact absurd whole more
      | noFirstSegment p m c₂ completed taken₂ notAllocated =>
          rw [completes_of_whole message stored whole] at completed
          cases completed
          rw [taken] at taken₂
          cases taken₂
          simp [allocated] at notAllocated
  | _ => exact hstop _ _

/-! ## The framing of a pipe -/

/-- What a message carries: the handle and the blobs of its frame, in order. -/
theorem Carries.content {f : Framing.Frame Payload} {m : MsgIn} (h : Carries env f m) :
    m.nativeHandleOrNull = f.lead.hndl ∧ m.mdtReader = some f.lead.blob ∧
      m.bodyReader.getD [] = f.conts.map Payload.blob := by
  rcases h.msg with ⟨m₀, hm₀, rfl⟩
  rcases MsgIn.deserializeMdt_ok_frame hm₀ with ⟨root, token, rfl⟩
  cases hconts : f.conts <;> simp [withBody, leadMsg]

/-- A read goes on as the routine that dealt with its payload says. -/
def afterPayload (slot : PipeSlot) : Channel H × MsgInPipe × RcvNextStep → Channel H
  | (c, pipe, none) => (c.stopReading slot pipe).handlersPoll
  | (c, pipe, some kind) => (c.issueRead slot pipe kind).handlersPoll

/--
What a completed read hands to {lit}`rcv_struct_new_msg_in()`.  The one routine that calls
it is {lit}`rcvCompleteMsg`, with the incomplete message of its pipe.
-/
inductive HandsOver (env : Env) (c : Channel H) (slot : PipeSlot) :
    Option MsgIn → Channel H → Prop where
  | message (pipe : MsgInPipe) :
      HandsOver env c slot (some pipe.incompleteMsg)
        (afterPayload slot (c.rcvCompleteMsg env pipe))
  | segment (pipe : MsgInPipe) :
      HandsOver env c slot none (afterPayload slot (c.rcvNextSegment env pipe))
  | error (e : Option ErrorCode) (pipe : MsgInPipe) :
      HandsOver env c slot none (afterPayload slot (c.handleNewError env e, pipe, none))
  | hosed (pipe : MsgInPipe) : HandsOver env c slot none (afterPayload slot (c, pipe, none))
  | negotiation (pipe : MsgInPipe) (result : RcvResult) :
      HandsOver env c slot none (c.rcvOnAsyncReadProtoNegMsg env slot pipe result)

/-- What the step passes on from each pipe is what it hands to {lit}`rcv_struct_new_msg_in()`. -/
def HandsPassed (env : Env) (c : Channel H) (l : Label H) : Prop :=
  ∀ slot result c', l = .rcv slot result → step env c l = some c' →
    HandsOver env c slot (c.passedOn env slot l) c'

/-- A payload of a message is stored, and the message is handed over if it is complete. -/
theorem onRecvMsg_handsOver {c : Channel H} (hlive : c.channelErrCodeOrOk = none)
    (slot : PipeSlot) (pipe : MsgInPipe) {kind : ReadKind} (hkind : kind ≠ .protoNeg)
    (p : Payload) :
    HandsOver env c slot (completes env pipe kind p)
      (c.onRecvMsg env slot pipe (kind = .lead) (.ok p)) := by
  have hgoes : c.onRecvMsg env slot pipe (kind = .lead) (.ok p) =
      afterPayload slot (c.rcvPayload env pipe (kind = .lead) p) := onRecvMsg_ok hlive _ _ _ _
  rw [hgoes]
  cases hstore : storePayload env pipe (kind = .lead) p with
  | error e =>
      rcases rcvPayload_error (c := c) hstore with ⟨pipe', hpayload⟩
      rw [hpayload, completes_of_error hstore]
      exact .error e pipe'
  | ok pipe₁ =>
      rw [rcvPayload_ok hstore]
      by_cases hwhole : pipe₁.nSegsLeftAfterThisRead = 0
      · rw [if_pos hwhole, completes_of_whole hkind hstore hwhole]
        exact .message pipe₁
      · rw [if_neg hwhole, completes_of_more hstore hwhole]
        exact .segment pipe₁

/-- A low-level error, or a hosed channel, ends the chain with nothing handed over. -/
theorem onRecvMsg_handsNothing {c : Channel H} {result : RcvResult}
    (hnot : c.channelErrCodeOrOk ≠ none ∨ ∃ e, result = .error e) (slot : PipeSlot)
    (pipe : MsgInPipe) (lead : Bool) :
    HandsOver env c slot none (c.onRecvMsg env slot pipe lead result) := by
  by_cases hlive : c.channelErrCodeOrOk = none
  · rcases hnot.resolve_left (not_not.2 hlive) with ⟨e, rfl⟩
    have hnew : c.handleAsyncErrCode env (some e) = (c.handleNewError env (some e), true) := by
      simp [handleAsyncErrCode, hlive]
    unfold onRecvMsg
    rw [rcvError, hnew]
    exact .error (some e) pipe
  · have hstop : c.handleAsyncErrCode env (rcvError result) = (c, true) := by
      cases result <;> simp [handleAsyncErrCode, rcvError, Option.isSome_iff_ne_none, hlive]
    unfold onRecvMsg
    rw [hstop]
    exact .hosed pipe

/-- Every step hands over what it passes on. -/
theorem handsPassed (env : Env) (c : Channel H) (l : Label H) : HandsPassed env c l := by
  rintro slot result c' rfl hstep
  rcases step_cases hstep with ⟨x, hx, _⟩ |
    ⟨slot', result', pipe, kind, heq, hpoll, hpipe, hkind, hposs, rfl⟩ | ⟨t, rest, hx, _⟩
  · cases hx
  · cases heq
    have hmessage : kind ≠ .protoNeg →
        HandsOver env c slot (c.passedOn env slot (.rcv slot result))
          (c.onRecvMsg env slot pipe (kind = .lead) result) := by
      intro hmessage
      by_cases hlive : c.channelErrCodeOrOk = none
      · cases result with
        | error e => exact onRecvMsg_handsNothing (Or.inr ⟨e, rfl⟩) slot pipe _
        | ok p =>
            rw [passedOn_rcv hlive hpoll hpipe hkind hposs]
            exact onRecvMsg_handsOver hlive slot pipe hmessage p
      · rw [passedOn_hosed hlive]
        exact onRecvMsg_handsNothing (Or.inl hlive) slot pipe _
    cases kind with
    | protoNeg =>
        have hnone : c.passedOn env slot (.rcv slot result) = none := by
          cases result with
          | error e => rfl
          | ok p =>
              by_cases hlive : c.channelErrCodeOrOk = none
              · rw [passedOn_rcv hlive hpoll hpipe hkind hposs]
                rfl
              · exact passedOn_hosed hlive _
        rw [hnone]
        exact .negotiation pipe result
    | lead => exact hmessage (by simp)
    | continuation => exact hmessage (by simp)
  · cases hx

/-- Every run hands over what it passes on. -/
theorem meets_handsPassed (env : Env) (c : Channel H) (ls : List (Label H)) :
    Transition.Meets (step env) (HandsPassed env) c ls :=
  Transition.meets_of_always (step env) (handsPassed env) c ls

/-! ## The framing of a pipe -/

/-- A fault, if the step is a read that meets one, hoses the channel and ends the reading. -/
def FaultsStop (env : Env) (c : Channel H) (l : Label H) : Prop :=
  ∀ slot result pipe kind c', l = .rcv slot result → c.channelErrCodeOrOk = none →
    c.pendingRead slot result = some (pipe, kind) → kind ≠ .protoNeg →
    ReadFault env c pipe kind result → step env c l = some c' →
    c'.Hosed ∧ ∀ ls' c'', run env c' ls' = some c'' →
      ∀ result', c''.pendingRead slot result' = none

/-- What was received of the message that the outstanding read of a run continues. -/
theorem underWay_of_run {args : CtorArgs} {ls : List (Label H)} {c : Channel H}
    (hrun : run env (ctor args) ls = some c) {slot : PipeSlot} {pipe : MsgInPipe} {kind : ReadKind}
    (hpipe : c.rcvPipe slot = some pipe) (hkind : pipe.outstanding = some kind)
    (hmessage : kind ≠ .protoNeg) : ∃ part, UnderWay env pipe kind part := by
  cases reads_of_run hrun slot with
  | unset pipe' received passed => simp [hpipe] at pipe'
  | negotiating mode pipe' received passed =>
      rw [hpipe] at pipe'
      cases pipe'
      exact absurd (Option.some.inj hkind).symm hmessage
  | reading pipe' kind' neg frames part current outstanding ready underWay received passed =>
      rw [hpipe] at current
      cases current
      rw [hkind] at outstanding
      cases outstanding
      exact ⟨part, underWay⟩
  | stopped pipe' current outstanding framed =>
      rw [hpipe] at current
      cases current
      simp [hkind] at outstanding

/-- Every fault but a missing native handle hoses the channel and ends the reading. -/
theorem faultsStop_of_run {args : CtorArgs} {ls : List (Label H)} {c : Channel H}
    (hrun : run env (ctor args) ls = some c) {l : Label H} (hl : c.gotNoHndl l = false) :
    FaultsStop env c l := by
  rintro slot result pipe kind c' rfl hlive hpending hmessage hfault hstep
  have hreach : Reachable env c := ⟨args, ls, hrun⟩
  rcases pendingRead_eq_some hpending with ⟨_, hpipe, hkind, _⟩
  rcases underWay_of_run hrun hpipe hkind hmessage with ⟨part, hpart⟩
  have hc' : c' = c.onRecv env slot pipe kind result := by
    simpa [step, hpending] using hstep.symm
  have hreceipt : Receipt env c slot pipe kind result c' := by
    rw [hc']
    exact onRecv_receipt c slot pipe kind result
  have hread : missesHndl pipe kind result = false := by
    simpa [gotNoHndl, hlive, hpipe, hkind] using hl
  have hstopped := hfault.stops hpart hreceipt
  refine ⟨(hreceipt.stopsHosed hread).resolve_right ?_, ?_⟩
  · rintro ⟨pipe₁, hpipe₁, hout, _⟩
    rcases hstopped with ⟨pipe₂, hpipe₂, hnone⟩
    rw [hpipe₁, Option.some.injEq] at hpipe₂
    subst hpipe₂
    simp [hnone] at hout
  · intro ls' c'' hrun' result'
    rcases hstopped.of_run (hreach.step hstep) hrun' with ⟨pipe', hpipe', hout'⟩
    by_contra hsome
    rcases Option.ne_none_iff_exists'.1 hsome with ⟨⟨pipe'', kind''⟩, hpending'⟩
    rcases pendingRead_eq_some hpending' with ⟨_, hpipe'', hkind'', _⟩
    rw [hpipe'] at hpipe''
    cases hpipe''
    simp [hout'] at hkind''

/-- A missing native handle is a fault that does not hose the channel. -/
theorem gotNoHndl_not_faultsStop {c c' : Channel H} {l : Label H} (hl : c.gotNoHndl l = true)
    (hstep : step env c l = some c') : ¬ FaultsStop env c l := by
  intro hfaults
  rcases step_readsNoHndl hl hstep with ⟨slot, pipe, p, rfl, hread⟩
  have hfault : ReadFault env c pipe .lead (.ok p) := .noHndlOnLead p rfl hread.mode hread.hndl
  exact (hfaults slot _ pipe .lead c' rfl hread.live hread.pending (by simp) hfault hstep).1
    hread.notHosed

/--
After every run, for every reader and whatever a pipe received: the assertions at the head
of each read hold; the messages handed to {lit}`rcv_struct_new_msg_in()` from the pipe are
carried by frames that follow each other at the beginning of what it received, each a lead
payload and as many continuation payloads as it announces.  Any fault of a read hoses the
channel and ends the reading of that pipe, exactly if no lead blob, read where each has to
come with a native handle, came without one while the channel was not hosed.
-/
theorem read_framing (hsize : ∀ mode, 0 < rcvBlobMaxSize env mode) {args : CtorArgs}
    {ls : List (Label H)} {c : Channel H} (hrun : run env (ctor args) ls = some c) :
    c.ReadsAsserted ∧
    (∀ slot, Framed env (receivedOn slot ls) (passedMsgs env slot (ctor args) ls)) ∧
    Transition.Meets (step env) (HandsPassed env) (ctor args) ls ∧
    (Transition.Meets (step env) (FaultsStop env) (ctor args) ls ↔
      Transition.Meets (step env) (fun c l => c.gotNoHndl l = false) (ctor args) ls) := by
  refine ⟨readsAsserted_of_run hsize hrun, fun slot => (reads_of_run hrun slot).framed, ?_, ?_, ?_⟩
  · exact meets_handsPassed env _ ls
  · intro hfaults
    by_contra hnot
    rcases Transition.exists_of_not_meets hrun hnot with
      ⟨ls₁, l, ls₂, c₁, c₂, rfl, hrun₁, _, hmissed, hstep, _⟩
    exact gotNoHndl_not_faultsStop (Bool.eq_true_of_not_eq_false hmissed) hstep
      (hfaults.rest hrun₁).1
  · intro hmeets
    refine hmeets.imp (Reachable env) (fun _ _ _ hreach _ hstep => hreach.step hstep) ?_
      ⟨args, [], rfl⟩
    rintro c₁ l ⟨args₁, ls₁, hrun₁⟩ hl
    exact faultsStop_of_run hrun₁ hl

/-- A user message of two segments, received whole, and then an empty blob. -/
def framingRun : List (Label Unit) :=
  [.call .startOps, .call (.startAndPoll ()),
    .rcv .front (.ok (protoNegPayload (.reference .blobPipeOnly))),
    .rcv .front (.ok ⟨none, ReferenceCapnp.capnp.writeMdt
      (msgMdtOut .little ReferenceCapnp.token 0 1 2)⟩),
    .rcv .front (.ok ⟨none, [7]⟩), .rcv .front (.ok ⟨none, [8]⟩),
    .rcv .front (.ok ⟨none, []⟩)]

/-- One message of two segments was cut out; an empty lead blob then ends the reading. -/
theorem read_framing_two_segments :
    ∃ c : Channel Unit,
      run (.reference .blobPipeOnly) (ctor .reference) framingRun = some c ∧
      (passedMsgs (.reference .blobPipeOnly) .front (ctor .reference) framingRun).map
        MsgIn.bodyReader = [some [[7], [8]]] ∧
      c.channelErrCodeOrOk = makeErrorCode .internalProtocolMismatchGotNoBlob ∧
      c.ReadsAsserted ∧
      Transition.Meets (step (.reference .blobPipeOnly)) (FaultsStop (.reference .blobPipeOnly))
        (ctor .reference) framingRun := by
  have hrun : ((run (.reference .blobPipeOnly) (ctor .reference) framingRun).any fun c =>
      (passedMsgs (.reference .blobPipeOnly) .front (ctor .reference) framingRun).map
        MsgIn.bodyReader = [some [[7], [8]]] ∧
      c.channelErrCodeOrOk = makeErrorCode .internalProtocolMismatchGotNoBlob) = true := by
    decide +kernel
  have hmeets : Transition.Meets (step (.reference .blobPipeOnly))
      (fun c l => c.gotNoHndl l = false) (ctor .reference) framingRun := by
    decide +kernel
  rcases (Option.any_eq_true _ _).1 hrun with ⟨c, hc, hfacts⟩
  rcases of_decide_eq_true hfacts with ⟨hmsgs, herr⟩
  have hsize : ∀ mode, 0 < rcvBlobMaxSize (.reference .blobPipeOnly) mode := by
    intro mode
    cases mode <;> decide
  rcases read_framing hsize hc with ⟨hasserted, _, _, hfaults⟩
  exact ⟨c, hc, hmsgs, herr, hasserted, hfaults.2 hmeets⟩

/-- Two pipes; the one of native handles is read for its first lead blob. -/
def noHndlRun : List (Label Unit) :=
  [.call .startOps, .call (.startAndPoll ()),
    .rcv .front (.ok (protoNegPayload (.reference .twoPipes)))]

/-- A lead blob without the native handle it has to come with does not hose the channel. -/
theorem missing_handle_does_not_hose :
    ¬ Transition.Meets (step (.reference .twoPipes)) (FaultsStop (.reference .twoPipes))
      (ctor .reference : Channel Unit) (noHndlRun ++ [.rcv .front (.ok ⟨none, [7]⟩)]) := by
  have hrun : ((run (.reference .twoPipes) (ctor .reference : Channel Unit) noHndlRun).any fun c =>
      c.channelErrCodeOrOk = none ∧
      ((c.pendingRead .front (.ok ⟨none, [7]⟩)).any fun read =>
        read.1.leadMsgMode = .withHndlElseError ∧ read.2 = .lead) = true ∧
      ((step (.reference .twoPipes) c (.rcv .front (.ok ⟨none, [7]⟩))).any fun c' =>
        c'.channelErrCodeOrOk = none) = true) = true := by
    decide +kernel
  rcases (Option.any_eq_true _ _).1 hrun with ⟨c, hc, hfacts⟩
  rcases of_decide_eq_true hfacts with ⟨hlive, hpending, hstep⟩
  rcases (Option.any_eq_true _ _).1 hpending with ⟨⟨pipe, kind⟩, hread, hmode⟩
  rcases of_decide_eq_true hmode with ⟨hmode, hkind⟩
  rcases (Option.any_eq_true _ _).1 hstep with ⟨c', hc', hnotHosed⟩
  subst hkind
  intro hfaults
  have hstops := hfaults.last hc .front _ pipe .lead c' rfl hlive hread (by simp)
    (.noHndlOnLead _ rfl hmode rfl) hc'
  exact hstops.1 (of_decide_eq_true hnotHosed)

end Channel
end StrucTransport
