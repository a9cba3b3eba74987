import StrucTransport.Net.Delivery

/-!
# Logging in

A client logs in with the first message of the server.  The server is logged in
once it has sent that message, and may send more, over either pipe; a client
that reads one of them first is hosed.

Main results:

- Theorem {lit}`Reachable.clientLogIn`: a client that has sent its request expects
  exactly the response to it.
- Theorem {lit}`log_in_hands_on_in_order`: the client is logged in by message 1 and
  hands on all messages in order, in the runs in which it reads message 1 first.
- Theorem {lit}`log_in_hoses_client`: in other runs it is hosed before it is logged in.
-/

namespace StrucTransport

variable {H S R : Type}

namespace Channel

variable {env : Env}

/-! ## The client while it logs in -/

/-- A client that is logging in expects nothing but the response to its request. -/
structure ClientLogIn (p : Option MsgIn × Channel H) : Prop where
  hand : p.1.isSome → p.2.phase ≠ .cliLogIn
  only : p.2.phase = .cliLogIn → ∀ id ∈ p.2.rcvExpectingResponseMap, id = 1
  requested : p.2.phase = .cliLogIn → p.2.sentUserMsgs ≠ [] → 1 ∈ p.2.rcvExpectingResponseMap

/-- A change that sends nothing, and expects no other responses while logging in. -/
theorem ClientLogIn.of_trace {p p' : Option MsgIn × Channel H} (h : ClientLogIn p)
    (tr : List (Event H)) (htrace : p'.2.trace = p.2.trace ++ tr)
    (hnone : ∀ ev ∈ tr, ev.sent? = none) (hhand : p'.1.isSome → p.1.isSome)
    (hphase : p'.2.phase = p.2.phase)
    (hmap : p.2.phase = .cliLogIn →
      p'.2.rcvExpectingResponseMap = p.2.rcvExpectingResponseMap) : ClientLogIn p' where
  hand := by
    intro hsome
    rw [hphase]
    exact h.hand (hhand hsome)
  only := by
    intro hcli
    rw [hphase] at hcli
    rw [hmap hcli]
    exact h.only hcli
  requested := by
    intro hcli hsent
    rw [hphase] at hcli
    rw [hmap hcli]
    rw [Channel.sentUserMsgs, sentMsgs_eq htrace hnone] at hsent
    exact h.requested hcli hsent

/-- Nothing is to be shown of a channel that is not logging in as a client. -/
theorem ClientLogIn.of_phase {p : Option MsgIn × Channel H} (h : p.2.phase ≠ .cliLogIn) :
    ClientLogIn p where
  hand _ := h
  only hcli := absurd hcli h
  requested hcli := absurd hcli h

/-- A request is registered before it is sent. -/
theorem ClientLogIn.sendUser {c : Channel H} (h : ClientLogIn (none, c)) (msg : MsgOut)
    (orig : Nat) (hsend : checkUnsendable env msg = false)
    (hrequest : c.phase = .cliLogIn → c.sndMsgNextId ∈ c.rcvExpectingResponseMap) :
    ClientLogIn (none, c.sendUser env msg orig) := by
  rcases sendUser_cases c msg orig hsend with ⟨e, t, accepted, _, hc⟩ | ⟨t, _, _, hc⟩ |
    ⟨t, _, _, _, hc⟩
  · rw [hc]
    exact h.of_trace [.emitted e] rfl (by simp [Event.sent?]) id rfl (fun _ => rfl)
  · rw [hc]
    exact h.of_trace [] (by simp) (by simp) id rfl (fun _ => rfl)
  · rw [hc]
    by_cases hcli : c.phase = .cliLogIn
    · have hone : 1 ∈ c.rcvExpectingResponseMap := by
        have hmem := hrequest hcli
        rw [h.only hcli _ hmem] at hmem
        exact hmem
      exact ⟨by simp, fun _ => h.only hcli, fun _ _ => hone⟩
    · refine .of_phase ?_
      simp only
      split
      · simp
      · exact hcli

/-- Every effect keeps the expectation of a client that is logging in. -/
theorem Effect.clientLogIn {p p' : Option MsgIn × Channel H} (h : Effect env p p')
    (hinv : ClientLogIn p) : ClientLogIn p' := by
  cases h with
  | asserts ok a plain => exact hinv.of_trace _ rfl sent?_assertion id rfl (fun _ => rfl)
  | startOps fresh =>
      rename_i c
      rcases startOps_spec env c fresh with ⟨t, ch, neg, hc, _⟩
      rw [hc]
      exact hinv.of_trace [] (by simp) (by simp) id rfl (fun _ => rfl)
  | setRcvPipe slot pipe started negOk mayRead =>
      cases slot <;>
        exact hinv.of_trace [] (by simp [Channel.setRcvPipe]) (by simp) id rfl (fun _ => rfl)
  | negotiate v va receiving live fresh =>
      rename_i c
      rcases computeNegotiatedProtoVers_frame env c v va with ⟨ver, verAux, tr, hc, hneg⟩
      rw [hc]
      refine hinv.of_trace tr rfl ?_ id rfl (fun _ => rfl)
      intro ev hev
      have hkind := hneg ev hev
      cases ev <;> simp [isNegotiation, Event.sent?] at hkind ⊢
  | handleNewError e live reports =>
      rename_i c
      rw [handleNewError_eq]
      exact hinv.of_trace _ rfl (sent?_newErrorEvents env c e) id rfl (fun _ => rfl)
  | emplaceResponse exp started live phase =>
      rename_i c
      have hmsgs : (c.emplaceResponse c.sndMsgNextId exp).sentUserMsgs = c.sentUserMsgs :=
        congrArg (List.filterMap userMsg?) (sentMsgs_eq rfl sent?_assertion)
      have hkept : ∀ {id}, id ∈ c.rcvExpectingResponseMap →
          id ∈ (c.emplaceResponse c.sndMsgNextId exp).rcvExpectingResponseMap := by
        intro id hid
        rw [emplaceResponse_rcvExpectingResponseMap]
        split
        · exact hid
        · exact (AList.mem_insert _).2 (Or.inr hid)
      refine ⟨by simp, ?_, ?_⟩
      · intro hcli id hid
        have hfirst : c.sndMsgNextId = 1 := phase.resolve_right (by simp [show c.phase = _ from hcli])
        simp only [emplaceResponse_rcvExpectingResponseMap] at hid
        split at hid
        · exact hinv.only hcli id hid
        · rcases (AList.mem_insert _).1 hid with rfl | hid
          · exact hfirst
          · exact hinv.only hcli id hid
      · intro hcli hsent
        simp only [hmsgs] at hsent
        exact hkept (hinv.requested hcli hsent)
  | sendUser msg orig started live phase sendable logIn request =>
      exact hinv.sendUser msg _ sendable request
  | informPeer m receiving live phase =>
      rename_i c
      rcases informPeer_frame env c m receiving.protoNegOk phase with ⟨t, ch, tr, hc, _⟩
      rw [hc]
      exact .of_phase (by simp [phase])
  | takePending which oneOff q fresh some' live =>
      exact hinv.of_trace _ rfl (by simp [Event.sent?]) id rfl (fun _ => rfl)
  | undoExpectResponses id mem live phase => exact .of_phase (by simp [phase])
  | acceptNext m token phase receiving live id idPos admitted =>
      refine .of_phase ?_
      cases admitted with
      | loggedIn phase token => simp [log]
      | server phase token first unsolicited expected => simp [log]
      | client phase token first rsp requested => simp [log]
  | acceptLater m q receiving live later phase twoPipes token emplaced =>
      exact .of_phase (by simp [log, phase])
  | bridge m receiving live phase first => exact .of_phase (by simp [phase])
  | isNextExpected m =>
      exact hinv.of_trace _ rfl (by simp [Event.sent?]) id rfl (fun _ => rfl)
  | postRsp m exp receiving rsp expected => exact .of_phase (hinv.hand rfl)
  | postUnexpected m receiving rsp unexpected => exact .of_phase (hinv.hand rfl)
  | postMsg m exp receiving unsolicited expected => exact .of_phase (hinv.hand rfl)
  | pend m receiving unsolicited unexpected => exact .of_phase (hinv.hand rfl)
  | postRemoteUnexpected id text receiving rsp live =>
      exact hinv.of_trace _ rfl sent?_assertion (fun h => h) rfl (fun _ => rfl)
  | invoke t rest f polling set =>
      exact hinv.of_trace _ rfl (by simp [Event.sent?]) id rfl (fun _ => rfl)
  | skip t rest polling unset =>
      cases t with
      | onErr =>
          refine hinv.of_trace (assertion false .onErrFuncEmpty ++ [.skipped .onErr]) ?_ ?_ id rfl
            (fun _ => rfl)
          · simp [skipTask, assertThat, log]
          · exact List.forall_mem_append.2 ⟨sent?_assertion, by simp [Event.sent?]⟩
      | _ => exact hinv.of_trace _ rfl (by simp [Event.sent?]) (fun h => h) rfl (fun _ => rfl)
  | endPoll polling => exact hinv.of_trace _ rfl sent?_assertion id rfl (fun _ => rfl)
  | afterHandler t rest polling =>
      cases t <;>
        exact hinv.of_trace [] (by simp [Channel.afterHandler]) (by simp) id rfl (fun _ => rfl)
  | tickUp => exact hinv.of_trace [] (by simp [Channel.tickUp]) (by simp) id rfl (fun _ => rfl)
  | _ => exact hinv.of_trace [] (by simp) (by simp) id rfl (fun _ => rfl)

/-- A client that has sent its request expects exactly the response to it. -/
theorem Reachable.clientLogIn {c : Channel H} (h : Reachable env c) (hphase : c.phase = .cliLogIn)
    (hsent : c.sentUserMsgs ≠ []) : c.rcvExpectingResponseMap.keys.length = 1 := by
  have hinv : ClientLogIn (none, c) := by
    refine h.invariant ClientLogIn ?_ (fun _ _ hinv heff => heff.clientLogIn hinv)
    intro args
    cases args with
    | loggedIn token nonNil => exact .of_phase (by simp [ctor])
    | server token => exact .of_phase (by simp [ctor])
    | client => exact ⟨by simp, by simp [ctor], by simp [ctor, sentUserMsgs, sentMsgs]⟩
  have hone : c.rcvExpectingResponseMap.keys ⊆ [1] := by
    intro id hid
    exact List.mem_singleton.2 (hinv.only hphase id (AList.mem_keys.2 hid))
  have hle : c.rcvExpectingResponseMap.keys.length ≤ 1 :=
    (List.subperm_of_subset c.rcvExpectingResponseMap.keys_nodup hone).length_le
  have hpos : 0 < c.rcvExpectingResponseMap.keys.length :=
    List.length_pos_of_mem (AList.mem_keys.1 (hinv.requested hphase hsent))
  omega

/-! ## The response arrives -/

/-- Message 1, the response to the request, logs the client in. -/
theorem rcvStructNewMsgIn_logIn (env : Env) {c : Channel H} (hphase : c.phase = .cliLogIn)
    (hnext : c.rcvMsgNextId = 1) (hqueue : c.rcvReassemblyQ.entries = [])
    (hkeys : c.rcvExpectingResponseMap.keys.length = 1) {m : MsgIn} (hid : m.idOrNone = 1)
    (horig : m.originatingMsgIdOrNone = 1) (htoken : m.sessionToken.isNil = false)
    {which : MsgWhich} (hbody : env.capnp.readBody (m.bodyReader.getD []) = .ok which) :
    ∃ c₁, c.rcvStructNewMsgIn env m = (c₁, true) ∧ Accepts c { m with bodyWhich := which } c₁ ∧
      c₁.phase = .loggedIn ∧ c₁.sessionToken = m.sessionToken := by
  let m' : MsgIn := { m with bodyWhich := which }
  let c₀ : Channel H := (c.assertThat (decide (1 ∈ c.rcvExpectingResponseMap))
    .logInRequestNotExpecting).assertThat c.sessionToken.isNil .sessionTokenNotNil
  have hid' : m'.idOrNone = 1 := hid
  have horig' : m'.originatingMsgIdOrNone = 1 := horig
  have hnil : ¬ m'.sessionToken.isNil = true := by
    change ¬ m.sessionToken.isNil = true
    simp [htoken]
  have hdes : m.deserializeBody env.capnp = .ok m' := by
    simp [MsgIn.deserializeBody, hbody, m']
  have hcheck : c.sessionTokenError m' = none := by
    simp only [sessionTokenError, hphase]
    exact if_neg hnil
  have htail : c.rcvStructNewMsgIn env m = c.rcvInOrder env m' := by
    unfold rcvStructNewMsgIn
    rw [if_pos (by simp [hid]), hdes]
    simp only [rcvStructNewMsgInDeserialized]
    rw [hcheck]
    simp only
    rw [if_neg (by simp [hid']), if_neg (by simp [hid', hnext])]
  have horder : c.rcvInOrder env m' = c.countMsg.rcvStructNewMsgInDuringLogInAsCli env m' := by
    unfold rcvInOrder
    rw [if_neg (by simp [hnext]), hphase]
  have hlogIn : c.countMsg.rcvStructNewMsgInDuringLogInAsCli env m' =
      ((({ c₀ with rcvMsgNextId := c₀.rcvMsgNextId + 1, sessionToken := m'.sessionToken
                   phase := .loggedIn } : Channel H).log
        (.accepted m')).rcvStructNewMsgInIsNextExpected env m', true) := by
    have hkeys' : ¬ c.countMsg.rcvExpectingResponseMap.keys.length ≠ 1 := not_not.2 hkeys
    unfold rcvStructNewMsgInDuringLogInAsCli
    rw [if_neg hkeys']
    simp only
    rw [if_neg (not_not.2 horig'), if_neg hnil]
    rfl
  have hframe : RcvFrame c c₀ := (assertThat_rcvFrame c _ _).trans (assertThat_rcvFrame _ _ _)
  have hid₀ : m'.idOrNone = c₀.rcvMsgNextId := hid'.trans hnext.symm
  rcases accepted_sequence env m'.sessionToken hid₀ hqueue (Or.inl rfl) with
    ⟨hacc, hlogged, htoken'⟩
  exact ⟨_, (htail.trans horder).trans hlogIn, hacc.of_frame hframe, hlogged, htoken'⟩

end Channel

namespace Net

open Channel

variable {link : Link} {token : SessionToken} {n : Net S R} {d k : PipeSlot → Nat}

/-! ## When messages may arrive -/

/-- The server sends nothing before the client has sent its request. -/
def RequestFirst (n : Net S R) : Prop :=
  n.sender.sentUserMsgs ≠ [] → n.receiver.sentUserMsgs ≠ []

/-- The first message of the server is the response to the request. -/
def Responds (n : Net S R) : Prop :=
  ∀ u ∈ n.sender.sentUserMsgs.head?, u.1.originatingMessageOrNull = some 1

/-- The user message at an index of what was sent over a pipe. -/
def userMsgAt (link : Link) (n : Net S R) (out : OutPipe) (i : Nat) :
    Option (StructuredMessage × MsgOut) :=
  (n.sender.sentOver link.sender out)[i]?.bind userMsg?

/-- How many payloads come before the end of the frame of the message at an index. -/
def endOf (link : Link) (n : Net S R) (out : OutPipe) (i : Nat) : Nat :=
  ((n.sender.framesOn link.sender out).take (i + 2)).flatten.length

/-- Message 1 was read whole on the pipe. -/
def ResponseRead (link : Link) (n : Net S R) (slot : PipeSlot) : Prop :=
  ∃ out ∈ linkedPipe link.sender.pipes slot, ∃ i < (n.sender.sentOver link.sender out).length,
    (∃ u ∈ n.userMsgAt link out i, u.1.id = 1) ∧ n.endOf link out i ≤ n.read slot

/-- A later message is completed only after message 1 was read whole. -/
def ResponseReadFirst (link : Link) (n : Net S R) : NetLabel S R → Prop
  | .deliver slot =>
      ∀ out ∈ linkedPipe link.sender.pipes slot,
        ∀ i < (n.sender.sentOver link.sender out).length, ∀ u ∈ n.userMsgAt link out i,
          u.1.id ≠ 1 → n.read slot + 1 = n.endOf link out i →
            n.ResponseRead link .front ∨ n.ResponseRead link .back
  | _ => True

/-- A message that was read whole has arrived. -/
theorem Attached.responseRead (h : Attached link token n d k) (hp : Peers link token n)
    {slot : PipeSlot} (hread : n.ResponseRead link slot) : n.receiver.resequencer.Received 1 := by
  rcases hread with ⟨out, hlinked, i, hlen, ⟨u, hu, hid⟩, hend⟩
  have hlinked' : linkedPipe link.sender.pipes slot = some out := hlinked
  have hstarted : n.sender.startedOps = true := by
    by_contra hnot
    have hnone := (hp.sender.sending.fresh (by simpa using hnot)).1
    simp [sentOver, hnone] at hlen
  have hframes : (n.sender.framesOn link.sender out).length =
      (n.sender.sentOver link.sender out).length + 1 := by
    simp [framesOn_of_started hstarted]
  have hwhole := (h.positions.stream slot out hlinked').whole_of_le (framesOn_ne_nil out)
    (by omega) hend
  rcases Option.bind_eq_some_iff.1 hu with ⟨f, hf, hfu⟩
  refine (h.arrivals.arrived 1).2 ⟨slot, u, ?_, hid⟩
  rw [arrivedOn_linked hlinked', List.mem_filterMap]
  refine ⟨f, List.mem_of_getElem? (i := i) ?_, hfu⟩
  rw [List.getElem?_take_of_lt (by omega)]
  exact hf

/-! ## The steps of the log-in -/

/-- A client that has not received its log-in response. -/
structure LoggingIn (link : Link) (token : SessionToken) (n : Net S R) : Prop where
  phase : n.receiver.phase = .cliLogIn
  resequencer : n.receiver.resequencer = ⟨1, .empty⟩
  handedOn : n.receiver.handedOn = []
  attached : ∃ d k, Attached link token n d k

/-- A client that has received its log-in response. -/
structure LoggedIn (link : Link) (token : SessionToken) (n : Net S R) : Prop where
  delivering : Delivering link token n
  handedOn : n.receiver.handedOn ≠ []

/-- A change of the receiver that does not concern its sequencing. -/
theorem LoggingIn.of_frame (h : LoggingIn link token n) {n' : Net S R}
    (hframe : SeqFrame n.receiver n'.receiver) (hatt : ∃ d k, Attached link token n' d k) :
    LoggingIn link token n' where
  phase := (hframe.phase (by simp [h.phase])).trans h.phase
  resequencer := hframe.resequencer.trans h.resequencer
  handedOn := hframe.handedOn.trans h.handedOn
  attached := hatt

/-- The first message that is completed is message 1. -/
theorem LoggingIn.id_eq_one (h : LoggingIn link token n) (hp : Peers link token n)
    (hatt : Attached link token n d k) {slot : PipeSlot}
    (hfirst : ResponseReadFirst link n (.deliver slot)) {out : OutPipe} {d₀ : Nat}
    {mdt : StructuredMessage} {msg : MsgOut} {c : Channel R}
    (hcompletes : Completes link token n d k slot out d₀ (mdt, some msg) c) : mdt.id = 1 := by
  by_contra hne
  rcases List.getElem?_eq_some_iff.1 hcompletes.message with ⟨hlen, _⟩
  have hat : n.userMsgAt link out d₀ = some (mdt, msg) := by
    rw [userMsgAt, hcompletes.message]
    rfl
  have hreceived : n.receiver.resequencer.Received 1 := by
    rcases hfirst out hcompletes.linked d₀ hlen (mdt, msg) hat hne hcompletes.whole with
      hread | hread
    · exact hatt.responseRead hp hread
    · exact hatt.responseRead hp hread
  rw [h.resequencer] at hreceived
  simp [Resequencer.Received, OrderedMap.keys] at hreceived

/-- Message 1 logs the client in; internal messages leave it as it is. -/
theorem LoggingIn.completed (h : LoggingIn link token n) (hp : Peers link token n)
    (nonNil : token.isNil = false) (hread : Readable link n) (hrequest : RequestFirst n)
    (hresponds : Responds n) (hatt : Attached link token n d k) {slot : PipeSlot}
    (hfirst : ResponseReadFirst link n (.deliver slot)) {out : OutPipe} {d₀ : Nat} {m : SentMsg}
    {c : Channel R} (hcompletes : Completes link token n d k slot out d₀ m c) :
    LoggingIn link token (n.received slot c) ∨ LoggedIn link token (n.received slot c) := by
  rcases mem_sentOver (List.mem_of_getElem? hcompletes.message) with ⟨hmem, _⟩
  rcases m with ⟨mdt, _ | msg⟩
  · have hcheck : n.receiver.sessionTokenError (arriving link.receiver token (mdt, none)) =
        none := by
      have htoken : (arriving link.receiver token (mdt, none)).sessionToken = token := rfl
      simp [sessionTokenError, h.phase, htoken, nonNil]
    rcases hatt.internal hcompletes (hp.sender.sending.headers _ hmem) hcheck with
      ⟨hatt', hframe⟩
    exact Or.inl (h.of_frame hframe hatt')
  · have hid : mdt.id = 1 := h.id_eq_one hp hatt hfirst hcompletes
    have huser : (mdt, msg) ∈ n.sender.sentUserMsgs :=
      List.mem_filterMap.2 ⟨(mdt, some msg), hmem, rfl⟩
    have hhead : n.sender.sentUserMsgs.head? = some (mdt, msg) := by
      have hget := (getElem?_of_mem hp.sender.sending huser).2
      rw [hid] at hget
      rw [List.head?_eq_getElem?]
      exact hget
    have horig : mdt.originatingMessageOrNull = some 1 := hresponds (mdt, msg) hhead
    have hkeys := hp.receiver.clientLogIn h.phase
      (hrequest (List.ne_nil_of_mem huser))
    have hbody : link.receiver.capnp.readBody msg.segments = .ok msg.bodyWhich := by
      rw [link.capnp]
      exact hread _ huser
    have hnext : n.receiver.rcvMsgNextId = 1 := congrArg Resequencer.next h.resequencer
    have hqueue : n.receiver.rcvReassemblyQ.entries = [] := by
      have hempty : n.receiver.rcvReassemblyQ = .empty := congrArg Resequencer.queue h.resequencer
      rw [hempty]
      rfl
    have horig' : (arriving link.receiver token (mdt, some msg)).originatingMsgIdOrNone = 1 := by
      change mdt.originatingMessageOrNull.getD 0 = 1
      rw [horig]
      rfl
    rcases rcvStructNewMsgIn_logIn link.receiver
      (m := arriving link.receiver token (mdt, some msg)) h.phase hnext hqueue hkeys hid horig'
        nonNil hbody with ⟨c₁, hmsg, hacc, hlogged, htoken⟩
    rcases hatt.accepted hp hcompletes hmsg hacc hlogged htoken with ⟨hdel, hframe⟩
    refine Or.inr ⟨hdel, ?_⟩
    rcases hacc.accepted with ⟨on, haccept, hon⟩
    have hid' : (inMsgFor link.receiver token (mdt, msg)).idOrNone = 1 := hid
    change n.receiver.resequencer.accept (inMsgFor link.receiver token (mdt, msg)).idOrNone _ = _
      at haccept
    rw [h.resequencer, hid'] at haccept
    simp only [Resequencer.accept, Nat.lt_irrefl, if_false, Option.some.injEq,
      Prod.mk.injEq] at haccept
    rw [received_receiver, hframe.handedOn, hon, h.handedOn, ← haccept.2]
    simp

/-- What was handed on stays handed on. -/
theorem handedOn_prefix (hp : Peers link token n) {n' : Net S R} {l : NetLabel S R}
    (hstep : n.step link l = some n') : n.receiver.handedOn <+: n'.receiver.handedOn := by
  have hgrows : ∀ l' {c}, Channel.step link.receiver n.receiver l' = some c →
      n.receiver.handedOn <+: c.handedOn := by
    intro l' c hc
    exact (step_trace_mono hp.receiver.wellFormed hc).filterMap _
  rcases Net.step_cases link hstep with ⟨l', c, _, hc, rfl⟩ | ⟨x, _, hover, rfl⟩ |
    ⟨c, _, hc, rfl⟩ | ⟨slot, item, c, _, _, hc, rfl⟩
  · exact List.prefix_rfl
  · exact hgrows (.call x) (Channel.step_call_eq_some.2 ⟨hover, rfl⟩)
  · exact hgrows _ hc
  · exact hgrows _ hc

/--
Once the client has its log-in response it stays logged in, unless the server ended
sending.
-/
theorem LoggedIn.step (h : LoggedIn link token n) (hp : Peers link token n)
    (hread : Readable link n) {n' : Net S R} {l : NetLabel S R} (hser : l.Serializes)
    (hstep : n.step link l = some n') :
    LoggedIn link token n' ∨ n.sender.channel.sendingEnded = true := by
  rcases h.delivering.step hp hread hser hstep with hdel | ⟨slot, _, hclose⟩
  · refine Or.inl ⟨hdel, fun hnil => h.handedOn ?_⟩
    have hpfx := handedOn_prefix hp hstep
    rw [hnil] at hpfx
    exact List.prefix_nil.1 hpfx
  · exact Or.inr (h.delivering.ended hp hclose)

/-- A step leaves the client logging in or logs it in, unless the server ended sending. -/
theorem LoggingIn.step (h : LoggingIn link token n) (hp : Peers link token n)
    (nonNil : token.isNil = false) (hread : Readable link n) (hresponds : Responds n)
    {n' : Net S R} {l : NetLabel S R} (hser : l.Serializes) (hrequest : RequestFirst n)
    (hfirst : ResponseReadFirst link n l) (hstep : n.step link l = some n') :
    LoggingIn link token n' ∨ LoggedIn link token n' ∨ n.sender.channel.sendingEnded = true := by
  rcases h.attached with ⟨d, k, hatt⟩
  cases hatt.step hp hser hstep with
  | quiet attached frame => exact Or.inl (h.of_frame frame ⟨_, _, attached⟩)
  | closes close =>
      rcases hatt.positions.next hp.sender.sending close with ⟨out, _, ⟨p, f, hf, _⟩ |
        ⟨_, hended, _⟩⟩
      · cases hf
      · exact Or.inr (Or.inr hended)
  | completes completes state =>
      rw [state]
      rcases h.completed hp nonNil hread hrequest hresponds hatt hfirst completes with hin | hout
      · exact Or.inl hin
      · exact Or.inr (Or.inl hout)

/-! ## Runs -/

/-- What was sent later does not undo the response. -/
theorem Responds.before {n' : Net S R} (h : Responds n') (hgrows : Grows n.sender n'.sender) :
    Responds n := by
  intro u hu
  rcases hgrows.sentUserMsgs with ⟨more, hmore⟩
  refine h u ?_
  rw [← hmore]
  cases hmsgs : n.sender.sentUserMsgs with
  | nil => simp [hmsgs] at hu
  | cons u' rest =>
      rw [hmsgs] at hu
      exact hu

/-- A new client waits for the log-in response. -/
theorem loggingIn_ctor (link : Link) (token : SessionToken) (args : CtorArgs) :
    LoggingIn link token (Net.ctor args .client : Net S R) where
  phase := rfl
  resequencer := rfl
  handedOn := rfl
  attached := ⟨_, _, rfl, by simp [Net.ctor, Channel.ctor], positions_ctor link token args _,
    arrivals_ctor link token args _⟩

/--
A server that responds to the request of a client, and does not end sending: in a
run in which the client reads message 1 before it completes a later one, it is
never hosed, message 1 logs it in, and it hands on a prefix of what was sent; once
the pipes are drained, all of it.  What was sent is what the calls of the run sent with
success.
-/
theorem log_in_hands_on_in_order (link : Link) (token : SessionToken)
    (nonNil : token.isNil = false) (ls : List (NetLabel S R)) (n : Net S R)
    (hrun : Net.run link (Net.ctor (.server token) .client) ls = some n)
    (hmeets : Transition.Meets (Net.step link)
      (fun n l => l.Serializes ∧ RequestFirst n ∧ ResponseReadFirst link n l)
      (Net.ctor (.server token) .client) ls)
    (hread : Readable link n) (hresponds : Responds n)
    (hopen : n.sender.channel.sendingEnded = false) :
    SentByCalls link token (Net.ctor (.server token) .client) ls n ∧
      n.receiver.channelErrCodeOrOk = none ∧
      n.receiver.handedOn <+: n.sender.sentUserMsgs.map (inMsgFor link.receiver token) ∧
      (n.receiver.phase = .loggedIn ↔ n.receiver.handedOn ≠ []) ∧
      (n.Drained link →
        n.receiver.handedOn = n.sender.sentUserMsgs.map (inMsgFor link.receiver token) ∧
          n.receiver.rcvReassemblyQ.entries = []) := by
  refine ⟨sentByCalls_of_run rfl hrun, ?_⟩
  have hinv := hmeets.invariant
    (fun n => Peers link token n ∧ (Readable link n → Responds n →
      LoggingIn link token n ∨ LoggedIn link token n ∨ n.sender.channel.sendingEnded = true)) ?_
      ⟨peers_ctor link rfl _, fun _ _ => Or.inl (loggingIn_ctor link token _)⟩ hrun
  · rcases hinv with ⟨hp, hinv⟩
    have hphase : ∃ d k, Attached link token n d k ∧
        (n.receiver.phase = .loggedIn ↔ n.receiver.handedOn ≠ []) := by
      rcases hinv hread hresponds with hin | hlogged | hended
      · rcases hin.attached with ⟨d, k, hatt⟩
        exact ⟨d, k, hatt, by simp [hin.phase, hin.handedOn]⟩
      · rcases hlogged.delivering.attached with ⟨d, k, hatt⟩
        exact ⟨d, k, hatt, by simp [hlogged.delivering.phase, hlogged.handedOn]⟩
      · simp [hopen] at hended
    rcases hphase with ⟨d, k, hatt, hiff⟩
    refine ⟨hatt.live, hatt.arrivals.order.initial_segment, hiff, fun hdrained => ?_⟩
    refine hatt.arrivals.complete hp.sender.sending fun slot out hlinked => ?_
    rw [hatt.positions.drained hp.sender.sending hlinked (hdrained slot)]
    rfl
  · rintro n l n' ⟨hp, hinv⟩ ⟨hser, hrequest, hfirst⟩ hstep
    have hgrows := step_grows hp hstep
    refine ⟨hp.step hstep, fun hread hresponds => ?_⟩
    have hread₀ := hread.before hgrows
    have hresponds₀ := hresponds.before hgrows
    rcases hinv hread₀ hresponds₀ with hin | hlogged | hended
    · rcases hin.step hp nonNil hread₀ hresponds₀ hser hrequest hfirst hstep with
        hin' | hlogged' | hended
      · exact Or.inl hin'
      · exact Or.inr (Or.inl hlogged')
      · exact Or.inr (Or.inr (hgrows.ended hended).1)
    · rcases hlogged.step hp hread₀ hser hstep with hlogged' | hended
      · exact Or.inr (Or.inl hlogged')
      · exact Or.inr (Or.inr (hgrows.ended hended).1)
    · exact Or.inr (Or.inr (hgrows.ended hended).1)

/-! ## A log-in that is overtaken -/

instance (n : Net S R) : Decidable (RequestFirst n) :=
  decidable_of_iff (n.sender.sentUserMsgs.isEmpty = false → n.receiver.sentUserMsgs.isEmpty = false)
    (by simp [RequestFirst, List.isEmpty_eq_false_iff])

instance (link : Link) (n : Net S R) (slot : PipeSlot) : Decidable (n.ResponseRead link slot) :=
  inferInstanceAs (Decidable (∃ out ∈ linkedPipe link.sender.pipes slot, _))

instance (link : Link) (n : Net S R) : ∀ l : NetLabel S R, Decidable (ResponseReadFirst link n l)
  | .deliver slot =>
      inferInstanceAs (Decidable (∀ out ∈ linkedPipe link.sender.pipes slot, _))
  | .sender _ => isTrue trivial
  | .call _ => isTrue trivial
  | .handlerReturned => isTrue trivial

instance (n : Net S R) : Decidable (Responds n) :=
  inferInstanceAs (Decidable (∀ u ∈ n.sender.sentUserMsgs.head?, _))

/-- The log-in request, and what it puts on the blob pipe. -/
def logInRequest : MsgOut :=
  ReferenceCapnp.msgOut none 5

/-- The header of the log-in request. -/
def logInRequestMdt : StructuredMessage :=
  msgMdtOut .little .null 0 1 logInRequest.nSerializationSegments

/-- The payloads of the log-in request. -/
def logInRequestPayloads : List Payload :=
  framePayloads (.reference .twoPipes) logInRequestMdt (some logInRequest)

/-- The log-in request as the server receives it. -/
def receivedLogInRequest : MsgIn :=
  inMsgFor (.reference .twoPipes) .null (logInRequestMdt, logInRequest)

/--
The client starts and makes its request.  The server expects and receives it,
responds to it, and sends one more message, with a handle; the response is on the
blob pipe.
-/
def logInExchange : List (NetLabel Unit Unit) :=
  [.call .startOps, .call (.startAndPoll ()), .call (.asyncRequest logInRequest none none ()),
    .sender (.call .startOps), .sender (.call (.expectLogInRequest 5 ())),
    .sender (.call (.startAndPoll ())),
    .sender (.rcv .front (.ok (protoNegPayload (.reference .twoPipes)))),
    .sender (.rcv .back (.ok (protoNegPayload (.reference .twoPipes))))] ++
  logInRequestPayloads.map (fun p => .sender (.rcv .back (.ok p))) ++
  [.sender (.call (.send (ReferenceCapnp.msgOut none 6) (some receivedLogInRequest))),
    .sender .handlerReturned, .sender (.call (.send (ReferenceCapnp.msgOut (some 9) 7) none))]

/-- The client reads the handles pipe first. -/
def overtakenLogIn : List (NetLabel Unit Unit) :=
  logInExchange ++ [.deliver .front, .deliver .front, .deliver .front]

/-- The client reads the blob pipe first. -/
def orderedLogIn : List (NetLabel Unit Unit) :=
  logInExchange ++ [.deliver .back, .deliver .back, .deliver .back, .handlerReturned,
    .deliver .front, .deliver .front, .deliver .front]

/-- What the client sent is what the server received, and responded to. -/
def Exchanged (n : Net Unit Unit) : Prop :=
  n.receiver.channel.sentNativeHandle = [.payload (protoNegPayload (.reference .twoPipes))] ∧
    n.receiver.channel.sentBlob = .payload (protoNegPayload (.reference .twoPipes)) ::
      logInRequestPayloads.map .payload ∧
    n.sender.handedOn = [receivedLogInRequest]

instance (n : Net Unit Unit) : Decidable (Exchanged n) :=
  inferInstanceAs (Decidable (_ ∧ _ ∧ _))

/-- A client that meets message 2 before the log-in response is hosed and not logged in. -/
theorem log_in_hoses_client :
    ∃ n : Net Unit Unit,
      Net.run (.reference .twoPipes) (Net.ctor (.server ReferenceCapnp.token) .client)
        overtakenLogIn = some n ∧
      (∀ l ∈ overtakenLogIn, l.Serializes) ∧ n.Readable (.reference .twoPipes) ∧
      n.Exchanged ∧ n.Responds ∧ n.sender.phase = .loggedIn ∧
      n.sender.sentUserMsgs.length = 2 ∧ n.sender.channel.sendingEnded = false ∧
      n.receiver.Hosed ∧ n.receiver.phase = .cliLogIn ∧ n.receiver.handedOn = [] := by
  have hruns : ((Net.run (.reference .twoPipes)
      (Net.ctor (.server ReferenceCapnp.token) .client) overtakenLogIn).any fun n =>
        (∀ u ∈ n.sender.sentUserMsgs,
          ReferenceCapnp.capnp.readBody u.2.segments = .ok u.2.bodyWhich) ∧
        n.Exchanged ∧ n.Responds ∧ n.sender.phase = .loggedIn ∧
        n.sender.sentUserMsgs.length = 2 ∧ n.sender.channel.sendingEnded = false ∧
        n.receiver.Hosed ∧ n.receiver.phase = .cliLogIn ∧ n.receiver.handedOn = []) = true := by
    decide +kernel
  rcases (Option.any_eq_true _ _).1 hruns with ⟨n, hrun, hn⟩
  rcases of_decide_eq_true hn with ⟨hread, hn⟩
  exact ⟨n, hrun, by decide +kernel, hread, hn⟩

/-- A client that reads the log-in response first hands on both messages. -/
theorem log_in_hands_on_both_messages :
    ∃ n : Net Unit Unit,
      Net.run (.reference .twoPipes) (Net.ctor (.server ReferenceCapnp.token) .client)
        orderedLogIn = some n ∧
      n.Exchanged ∧ n.sender.sentUserMsgs.length = 2 ∧ n.receiver.phase = .loggedIn ∧
      n.receiver.handedOn =
        n.sender.sentUserMsgs.map (inMsgFor (.reference .twoPipes) ReferenceCapnp.token) := by
  have hruns : ((Net.run (.reference .twoPipes)
      (Net.ctor (.server ReferenceCapnp.token) .client) orderedLogIn).any fun n =>
        (∀ u ∈ n.sender.sentUserMsgs,
          ReferenceCapnp.capnp.readBody u.2.segments = .ok u.2.bodyWhich) ∧
        n.Exchanged ∧ n.Responds ∧ n.sender.sentUserMsgs.length = 2 ∧
        n.sender.channel.sendingEnded = false ∧
        n.nextItem (.reference .twoPipes) .front = none ∧
        n.nextItem (.reference .twoPipes) .back = none) = true := by
    decide +kernel
  rcases (Option.any_eq_true _ _).1 hruns with ⟨n, hrun, hn⟩
  rcases of_decide_eq_true hn with ⟨hread, hexchanged, hresponds, htwo, hopen, hfront, hback⟩
  rcases log_in_hands_on_in_order (.reference .twoPipes) ReferenceCapnp.token (by decide)
    orderedLogIn n hrun (by decide +kernel) hread hresponds hopen with ⟨_, _, _, hiff, hall⟩
  have hdrained : n.Drained (.reference .twoPipes) := by
    intro slot
    cases slot with
    | front => exact hfront
    | back => exact hback
  have hon := (hall hdrained).1
  refine ⟨n, hrun, hexchanged, htwo, hiff.2 ?_, hon⟩
  intro hnil
  have hlen := congrArg List.length hon
  simp [hnil, htwo] at hlen

end Net
end StrucTransport
