import StrucTransport.Channel.Desk
import StrucTransport.Channel.Posted
import StrucTransport.Net.Stream
import StrucTransport.Property.Tokens

/-!
# What a completed read dispatches

A completed read dispatches messages, posts at most one notice of the peer, and
for the rest changes nothing that sending, requests or their responses depend
on.  The dispatches are recorded with the states in which they happen.

Main results:

- Theorem {lit}`rcvStructNewMsgIn_handles`: a complete in-message is handled by
  dispatches and at most one notice.
- Theorem {lit}`step_readHandles`: so is a completed read.
- Theorem {lit}`Handles.silent`: without a dispatch nothing is sent.
-/

namespace StrucTransport

variable {H : Type}

/-- The event is neither a send nor an acceptance, a dispatch or the start of a task. -/
structure Event.Idle (ev : Event H) : Prop where
  sent : ev.sent? = none
  accepted : ev.accepted? = none
  handedOn : ev.handedOn? = none
  task : ev.task? = none

namespace Channel

variable {env : Env}

/-! ## Changes that concern no message -/

/-- A change that sends, accepts and dispatches nothing, and posts the error task only. -/
structure RcvQuiet (c c' : Channel H) : Prop where
  channel : c'.channel = c.channel
  sentMsgs : c'.sentMsgs = c.sentMsgs
  acceptedMsgs : c'.acceptedMsgs = c.acceptedMsgs
  handedOn : c'.handedOn = c.handedOn
  rcvExpectingResponseMap : c'.rcvExpectingResponseMap = c.rcvExpectingResponseMap
  sndMsgNextId : c'.sndMsgNextId = c.sndMsgNextId
  posts : ∃ n, Posts (List.replicate n .onErr) c c'

namespace RcvQuiet

/-- No change at all is quiet. -/
theorem refl (c : Channel H) : RcvQuiet c c :=
  ⟨rfl, rfl, rfl, rfl, rfl, rfl, 0, .refl c⟩

/-- Two quiet changes, one after the other. -/
theorem trans {c₁ c₂ c₃ : Channel H} (h : RcvQuiet c₁ c₂) (h' : RcvQuiet c₂ c₃) :
    RcvQuiet c₁ c₃ := by
  rcases h.posts with ⟨n, hn⟩
  rcases h'.posts with ⟨n', hn'⟩
  refine ⟨h'.channel.trans h.channel, h'.sentMsgs.trans h.sentMsgs,
    h'.acceptedMsgs.trans h.acceptedMsgs, h'.handedOn.trans h.handedOn,
    h'.rcvExpectingResponseMap.trans h.rcvExpectingResponseMap,
    h'.sndMsgNextId.trans h.sndMsgNextId, n + n', ?_⟩
  rw [← List.replicate_append_replicate]
  exact hn.trans hn'

/-- A change of other members that records idle events. -/
theorem of_trace {c c' : Channel H} (tr : List (Event H)) (htrace : c'.trace = c.trace ++ tr)
    (hidle : ∀ ev ∈ tr, Event.Idle ev) (hchannel : c'.channel = c.channel)
    (hmap : c'.rcvExpectingResponseMap = c.rcvExpectingResponseMap)
    (hnext : c'.sndMsgNextId = c.sndMsgNextId) (hpoll : c'.polling = c.polling) (n : Nat)
    (hpost : c'.syncIoHandlers = c.syncIoHandlers ++ List.replicate n .onErr) :
    RcvQuiet c c' where
  channel := hchannel
  sentMsgs := sentMsgs_eq htrace fun ev hev => (hidle ev hev).sent
  acceptedMsgs := by
    rw [Channel.acceptedMsgs, htrace, List.filterMap_append,
      List.filterMap_eq_nil_iff.2 fun ev hev => (hidle ev hev).accepted, List.append_nil,
      Channel.acceptedMsgs]
  handedOn := handedOn_of_trace tr htrace fun ev hev => (hidle ev hev).handedOn
  rcvExpectingResponseMap := hmap
  sndMsgNextId := hnext
  posts := ⟨n, .of_trace tr (List.filterMap_eq_nil_iff.2 fun ev hev => (hidle ev hev).task) htrace
    hpoll hpost⟩

end RcvQuiet

/-- A failed assertion concerns no message. -/
theorem idle_assertion (ok : Bool) (a : Assertion) :
    ∀ ev ∈ assertion (H := H) ok a, Event.Idle ev := by
  intro ev hev
  cases ok with
  | true => simp at hev
  | false =>
      simp only [assertion, Bool.false_eq_true, if_false, List.mem_singleton] at hev
      subst hev
      exact ⟨rfl, rfl, rfl, rfl⟩

/-- Checking an assertion. -/
theorem assertThat_quiet (c : Channel H) (ok : Bool) (a : Assertion) :
    RcvQuiet c (c.assertThat ok a) :=
  .of_trace _ rfl (idle_assertion ok a) rfl rfl rfl rfl 0 (List.append_nil _).symm

/-- A change of members that are neither about sending nor about responses. -/
theorem RcvQuiet.of_same {c c' : Channel H} (htrace : c'.trace = c.trace)
    (hchannel : c'.channel = c.channel)
    (hmap : c'.rcvExpectingResponseMap = c.rcvExpectingResponseMap)
    (hnext : c'.sndMsgNextId = c.sndMsgNextId) (hpoll : c'.polling = c.polling)
    (hpost : c'.syncIoHandlers = c.syncIoHandlers) : RcvQuiet c c' :=
  .of_trace [] (by simp [htrace]) (by simp) hchannel hmap hnext hpoll 0 (by simp [hpost])

/-- An error that is found concerns no message, and posts its own task. -/
theorem handleNewError_quiet (env : Env) (c : Channel H) (e : Option ErrorCode) :
    RcvQuiet c (c.handleNewError env e) := by
  have hidle : ∀ ev ∈ newErrorEvents env c e, Event.Idle ev := by
    apply forall_mem_newErrorEvents
    · exact ⟨rfl, rfl, rfl, rfl⟩
    · exact fun _ _ => ⟨rfl, rfl, rfl, rfl⟩
  rw [handleNewError_eq]
  exact .of_trace (newErrorEvents env c e) rfl hidle rfl rfl rfl rfl 1 rfl

/-- The moves of a completed read concern no message. -/
theorem ReadMove.quiet {falsy : Bool} {c c' : Channel H} (h : ReadMove env falsy c c') :
    RcvQuiet c c' := by
  cases h with
  | handleNewError e => exact handleNewError_quiet env c e
  | tickUp => exact .of_same rfl rfl rfl rfl rfl rfl
  | setRcvPipe slot pipe => cases slot <;> exact .of_same rfl rfl rfl rfl rfl rfl
  | assertReadyToRead pipe kind =>
      exact ((assertThat_quiet c _ _).trans (assertThat_quiet _ _ _)).trans (assertThat_quiet _ _ _)
  | negotiate v va =>
      rcases computeNegotiatedProtoVers_frame env c v va with ⟨ver, verAux, tr, hframe, htr⟩
      rw [hframe]
      refine .of_trace tr rfl ?_ rfl rfl rfl rfl 0 (List.append_nil _).symm
      intro ev hev
      have hneg := htr ev hev
      cases ev <;> simp [isNegotiation] at hneg <;> exact ⟨rfl, rfl, rfl, rfl⟩

/-- The tasks of a poll send nothing and end no wait for a response. -/
theorem runHandlers_same (c : Channel H) (ts : List (Task H)) :
    (c.runHandlers ts).channel = c.channel ∧ (c.runHandlers ts).sentMsgs = c.sentMsgs ∧
      (c.runHandlers ts).rcvExpectingResponseMap = c.rcvExpectingResponseMap ∧
      (c.runHandlers ts).sndMsgNextId = c.sndMsgNextId := by
  induction ts generalizing c with
  | nil => exact ⟨rfl, sentMsgs_eq rfl sent?_assertion, rfl, rfl⟩
  | cons t rest ih =>
      unfold runHandlers
      split
      · exact ⟨rfl, sentMsgs_eq rfl (by simp [Event.sent?]), rfl, rfl⟩
      · rcases ih (({ c with polling := some ⟨none, rest⟩ } : Channel H).skipTask t) with
          ⟨hchannel, hsent, hmap, hnext⟩
        have hskip : (({ c with polling := some ⟨none, rest⟩ } : Channel H).skipTask t).sentMsgs =
            c.sentMsgs := by
          cases t <;> simp [skipTask, assertThat, log, assertion, sentMsgs, Event.sent?]
        refine ⟨hchannel.trans ?_, hsent.trans hskip, hmap.trans ?_, hnext.trans ?_⟩ <;>
          cases t <;> rfl

/-- The poll that runs the tasks sends nothing and ends no wait for a response. -/
theorem handlersPoll_same (c : Channel H) :
    c.handlersPoll.channel = c.channel ∧ c.handlersPoll.sentMsgs = c.sentMsgs ∧
      c.handlersPoll.rcvExpectingResponseMap = c.rcvExpectingResponseMap ∧
      c.handlersPoll.sndMsgNextId = c.sndMsgNextId := by
  unfold handlersPoll
  split
  · exact ⟨rfl, rfl, rfl, rfl⟩
  · exact runHandlers_same _ _

/-- A poll that finds no other poll under way is quiet. -/
theorem handlersPoll_quiet {c : Channel H} (hidle : c.polling = none) :
    RcvQuiet c c.handlersPoll := by
  rcases handlersPoll_same c with ⟨hchannel, hsent, hmap, hnext⟩
  have hframe := handlersPoll_rcvFrame c
  refine ⟨hchannel, hsent, hframe.acceptedMsgs, hframe.handedOn, hmap, hnext, 0, ?_⟩
  rw [Posts, handlersPoll_postedTasks hidle]
  exact (List.append_nil _).symm

/-! ## Dispatches and notices -/

/--
The channel was led on by accepting the messages {lit}`as`, by the dispatches
{lit}`ds`, listed with the states in which they happened, and by the posting of
notices with the originating IDs {lit}`ns`.
-/
inductive Handles (env : Env) :
    Channel H → List MsgIn → List (Channel H × MsgIn) → List Nat → Channel H → Prop where
  | quiet {c c' : Channel H} (same : RcvQuiet c c') : Handles env c [] [] [] c'
  | accept {c : Channel H} (m : MsgIn) : Handles env c [m] [] [] (c.log (.accepted m))
  | dispatch {c : Channel H} (m : MsgIn) (receiving : c.Receiving)
      (live : c.channelErrCodeOrOk = none) (ready : c.DispatchReady m) :
      Handles env c [] [(c, m)] [] (c.rcvStructNewMsgInIsNextExpected env m)
  | notify {c : Channel H} (id : Nat) (text : String) :
      Handles env c [] [] [id] (c.handlersPost env (.onRemoteUnexpectedResponse id text))
  | trans {c₁ c₂ c₃ : Channel H} {as as' : List MsgIn} {ds ds' : List (Channel H × MsgIn)}
      {ns ns' : List Nat} (before : Handles env c₁ as ds ns c₂)
      (after : Handles env c₂ as' ds' ns' c₃) :
      Handles env c₁ (as ++ as') (ds ++ ds') (ns ++ ns') c₃

section

variable {c c₁ c₂ : Channel H} {as : List MsgIn} {ds : List (Channel H × MsgIn)} {ns : List Nat}

/-- A change that concerns no message, before. -/
theorem RcvQuiet.handles (hquiet : RcvQuiet c c₁) (h : Handles env c₁ as ds ns c₂) :
    Handles env c as ds ns c₂ :=
  .trans (.quiet hquiet) h

/-- A change that concerns no message, afterwards. -/
theorem Handles.concat (h : Handles env c as ds ns c₁) (hquiet : RcvQuiet c₁ c₂) :
    Handles env c as ds ns c₂ := by
  have hboth : Handles env c (as ++ []) (ds ++ []) (ns ++ []) c₂ := .trans h (.quiet hquiet)
  rwa [List.append_nil, List.append_nil, List.append_nil] at hboth

end

/-! ## A new complete in-message -/

/-- The message was accepted, if at all, and messages were dispatched; no notice was posted. -/
def Dispatched (env : Env) (c : Channel H) (m : MsgIn) (c' : Channel H) : Prop :=
  ∃ as ds, as <+: [m] ∧ Handles env c as ds [] c'

/-- A quiet change before the message is dispatched. -/
theorem RcvQuiet.dispatched {c c₁ c' : Channel H} {m : MsgIn} (hquiet : RcvQuiet c c₁)
    (h : Dispatched env c₁ m c') : Dispatched env c m c' := by
  rcases h with ⟨as, ds, has, hds⟩
  exact ⟨as, ds, has, hquiet.handles hds⟩

/-- A message that hoses the channel is not accepted, and nothing is dispatched. -/
theorem hose_dispatched (c : Channel H) (m : MsgIn) (code : Code) :
    Dispatched env c m (c.hose env code).1 :=
  ⟨[], [], List.nil_prefix, .quiet (handleNewError_quiet env c _)⟩

/-- Accepting a message and dispatching it. -/
theorem accepted_handles {c : Channel H} {m : MsgIn} (hr : c.Receiving)
    (hlive : c.channelErrCodeOrOk = none) (hready : c.DispatchReady m) :
    Handles env c [m] [(c.log (.accepted m), m)] []
      ((c.log (.accepted m)).rcvStructNewMsgInIsNextExpected env m) := by
  have hr₁ : (c.log (.accepted m)).Receiving := ⟨hr.1, hr.2, hr.3⟩
  exact .trans (.accept m) (.dispatch m hr₁ hlive hready)

/-- The message is accepted, and dispatched in the state that accepted it. -/
theorem accepted_dispatched {c : Channel H} {m : MsgIn} (hr : c.Receiving)
    (hlive : c.channelErrCodeOrOk = none) (hready : c.DispatchReady m) :
    Dispatched env c m ((c.log (.accepted m)).rcvStructNewMsgInIsNextExpected env m) :=
  ⟨[m], _, List.prefix_rfl, accepted_handles hr hlive hready⟩

/-- The loop over the reassembly queue dispatches messages that were accepted before. -/
theorem drainReassemblyQ_handles (env : Env) {c : Channel H} (fuel : Nat) (hr : c.Receiving)
    (hlive : c.channelErrCodeOrOk = none) (hphase : c.phase = .loggedIn) :
    ∃ ds, Handles env c [] ds [] (c.drainReassemblyQ env fuel) := by
  induction fuel generalizing c with
  | zero => exact ⟨[], .quiet (.refl c)⟩
  | succ fuel ih =>
      unfold drainReassemblyQ
      split
      · exact ⟨[], .quiet (.refl c)⟩
      · rename_i id m hfirst
        split
        · let c₁ : Channel H := { c with rcvReassemblyQ := c.rcvReassemblyQ.eraseBegin
                                         rcvMsgNextId := c.rcvMsgNextId + 1 }
          have hset : RcvQuiet c c₁ := .of_same rfl rfl rfl rfl rfl rfl
          have hr₁ : c₁.Receiving := ⟨hr.1, hr.2, hr.3⟩
          have hready : c₁.DispatchReady m := Or.inl hphase
          rcases rcvStructNewMsgInIsNextExpected_frame env hr₁ hready with ⟨hf, _, _⟩
          rcases ih (hf.receiving hr₁) (hf.channelErrCodeOrOk.trans hlive)
            (hf.phase.trans hphase) with ⟨ds, hds⟩
          exact ⟨(c₁, m) :: ds, hset.handles (.trans (.dispatch m hr₁ hlive hready) hds)⟩
        · exact ⟨[], .quiet (.refl c)⟩

/-- The client dispatches the log-in response, or is hosed. -/
theorem rcvStructNewMsgInDuringLogInAsCli_dispatched {c : Channel H} {m : MsgIn} (hr : c.Receiving)
    (hlive : c.channelErrCodeOrOk = none) :
    Dispatched env c m (c.rcvStructNewMsgInDuringLogInAsCli env m).1 := by
  unfold rcvStructNewMsgInDuringLogInAsCli
  split
  · exact hose_dispatched c m _
  · have hone := assertThat_quiet c (decide (1 ∈ c.rcvExpectingResponseMap)) .logInRequestNotExpecting
    simp only
    split
    · exact hone.dispatched (hose_dispatched _ m _)
    · have htoken : RcvQuiet c { (c.assertThat (decide (1 ∈ c.rcvExpectingResponseMap))
          .logInRequestNotExpecting).assertThat c.sessionToken.isNil .sessionTokenNotNil with
            sessionToken := m.sessionToken } :=
        (hone.trans (assertThat_quiet _ _ _)).trans (.of_same rfl rfl rfl rfl rfl rfl)
      split
      · exact htoken.dispatched (hose_dispatched _ m _)
      · have hphase : RcvQuiet c { (c.assertThat (decide (1 ∈ c.rcvExpectingResponseMap))
            .logInRequestNotExpecting).assertThat c.sessionToken.isNil .sessionTokenNotNil with
              sessionToken := m.sessionToken, phase := .loggedIn } :=
          htoken.trans (.of_same rfl rfl rfl rfl rfl rfl)
        exact hphase.dispatched (accepted_dispatched ⟨hr.1, hr.2, hr.3⟩ hlive (Or.inl rfl))

/-- The server dispatches the log-in request, or is hosed. -/
theorem rcvStructNewMsgInDuringLogInAsSrv_dispatched {c : Channel H} {m : MsgIn} (hr : c.Receiving)
    (hlive : c.channelErrCodeOrOk = none) :
    Dispatched env c m (c.rcvStructNewMsgInDuringLogInAsSrv env m).1 := by
  have hrsp := assertThat_quiet c c.rcvExpectingResponseMap.keys.isEmpty .responsesExpectedAsServer
  unfold rcvStructNewMsgInDuringLogInAsSrv
  simp only
  split
  · exact hrsp.dispatched (hose_dispatched _ m _)
  · rename_i horig
    have hready : ∀ c : Channel H, c.DispatchReady m := fun _ => Or.inr (not_not.1 horig)
    split
    · split
      · exact hrsp.dispatched (hose_dispatched _ m _)
      · exact hrsp.dispatched (accepted_dispatched ⟨hr.1, hr.2, hr.3⟩ hlive (hready _))
    · have hmsg := hrsp.trans (assertThat_quiet _ c.rcvExpectingMsgMap.keys.isEmpty
        .msgsExpectedAsServer)
      split
      · exact hmsg.dispatched (hose_dispatched _ m _)
      · exact hmsg.dispatched (accepted_dispatched ⟨hr.1, hr.2, hr.3⟩ hlive (hready _))

/-- A message out of order is accepted, if at all, and not dispatched yet. -/
theorem rcvOutOfOrder_dispatched (c : Channel H) (m : MsgIn) :
    Dispatched env c m (c.rcvOutOfOrder env m).1 := by
  unfold rcvOutOfOrder
  split
  · exact hose_dispatched c m _
  · split
    · exact hose_dispatched c m _
    · split
      · exact hose_dispatched c m _
      · split
        · exact hose_dispatched c m _
        · rename_i q _
          have hqueue : RcvQuiet c { c with rcvReassemblyQ := q } :=
            .of_same rfl rfl rfl rfl rfl rfl
          exact ⟨[m], [], List.prefix_rfl, hqueue.handles (.accept m)⟩

/-- The next message is dispatched, and then the queued ones it unlocks. -/
theorem rcvInOrderLoggedIn_dispatched {c : Channel H} {m : MsgIn} (hr : c.Receiving)
    (hlive : c.channelErrCodeOrOk = none) (hphase : c.phase = .loggedIn) :
    Dispatched env c m (c.rcvInOrderLoggedIn env m) := by
  let c₀ := c.log (.accepted m)
  let c₁ := c₀.rcvStructNewMsgInIsNextExpected env m
  have hr₀ : c₀.Receiving := ⟨hr.1, hr.2, hr.3⟩
  have hfirst : Handles env c [m] [(c₀, m)] [] c₁ := accepted_handles hr hlive (Or.inl hphase)
  have hready : c₀.DispatchReady m := Or.inl hphase
  rcases rcvStructNewMsgInIsNextExpected_frame env hr₀ hready with ⟨hf, _, _⟩
  unfold rcvInOrderLoggedIn
  simp only
  split
  · rcases drainReassemblyQ_handles env c₁.rcvReassemblyQ.entries.length (hf.receiving hr₀)
      (hf.channelErrCodeOrOk.trans hlive) (hf.phase.trans hphase) with ⟨ds, hds⟩
    exact ⟨[m], (c₀, m) :: ds, List.prefix_rfl, .trans hfirst hds⟩
  · exact ⟨[m], _, List.prefix_rfl, hfirst⟩

/-- The next message in any phase. -/
theorem rcvInOrder_dispatched {c : Channel H} {m : MsgIn} (hr : c.Receiving)
    (hlive : c.channelErrCodeOrOk = none) : Dispatched env c m (c.rcvInOrder env m).1 := by
  have hcount : RcvQuiet c c.countMsg := .of_same rfl rfl rfl rfl rfl rfl
  have hr₁ : c.countMsg.Receiving := ⟨hr.1, hr.2, hr.3⟩
  unfold rcvInOrder
  split
  · exact (assertThat_quiet c _ _).dispatched (hose_dispatched _ m _)
  · split
    · exact hcount.dispatched (rcvStructNewMsgInDuringLogInAsCli_dispatched hr₁ hlive)
    · exact hcount.dispatched (rcvStructNewMsgInDuringLogInAsSrv_dispatched hr₁ hlive)
    · rename_i hphase
      exact hcount.dispatched (rcvInOrderLoggedIn_dispatched hr₁ hlive hphase)

/-- An internal message is dispatched to nobody; one notice is posted at most. -/
theorem rcvStructNewInternalMsgIn_handles (c : Channel H) (m : MsgIn) :
    ∃ ns, ns <+: [m.originatingMsgIdOrNone] ∧
      Handles env c [] [] ns (c.rcvStructNewInternalMsgIn env m).1 := by
  have hhose : ∀ code, ∃ ns, ns <+: [m.originatingMsgIdOrNone] ∧
      Handles env c [] [] ns (c.hose env code).1 :=
    fun code => ⟨[], List.nil_prefix, .quiet (handleNewError_quiet env c _)⟩
  unfold rcvStructNewInternalMsgIn
  split
  · split
    · exact hhose _
    · exact ⟨_, List.prefix_rfl, .notify _ _⟩
  · exact hhose _

/-- What the handling of a complete in-message amounts to. -/
inductive HandlesMsg (env : Env) (c : Channel H) (m : MsgIn) (c' : Channel H) : Prop where
  | user (which : MsgWhich) (as : List MsgIn) (ds : List (Channel H × MsgIn))
      (id : m.idOrNone ≠ 0) (accepted : as <+: [{ m with bodyWhich := which }])
      (handles : Handles env c as ds [] c')
  | internal (ns : List Nat) (id : m.idOrNone = 0)
      (notices : ns <+: [m.originatingMsgIdOrNone]) (handles : Handles env c [] [] ns c')

/-- A complete in-message is handled by dispatches or by at most one notice. -/
theorem rcvStructNewMsgIn_handles (env : Env) {c : Channel H} {m : MsgIn} (hr : c.Receiving)
    (hlive : c.channelErrCodeOrOk = none) : HandlesMsg env c m (c.rcvStructNewMsgIn env m).1 := by
  by_cases hid : m.idOrNone = 0
  · have hinternal : ∃ ns, ns <+: [m.originatingMsgIdOrNone] ∧
        Handles env c [] [] ns (c.rcvStructNewMsgIn env m).1 := by
      unfold rcvStructNewMsgIn
      rw [if_neg (not_not.2 hid)]
      unfold rcvStructNewMsgInDeserialized
      split
      · exact ⟨[], List.nil_prefix, .quiet (handleNewError_quiet env c _)⟩
      · rw [if_pos hid]
        exact rcvStructNewInternalMsgIn_handles c m
    rcases hinternal with ⟨ns, hns, hhandles⟩
    exact .internal ns hid hns hhandles
  · have huser : ∃ which, Dispatched env c { m with bodyWhich := which }
        (c.rcvStructNewMsgIn env m).1 := by
      unfold rcvStructNewMsgIn
      rw [if_pos hid]
      cases hbody : env.capnp.readBody (m.bodyReader.getD []) with
      | error e =>
          simp only [MsgIn.deserializeBody, hbody]
          exact ⟨0, [], [], List.nil_prefix, .quiet (handleNewError_quiet env c e)⟩
      | ok which =>
          simp only [MsgIn.deserializeBody, hbody]
          refine ⟨which, ?_⟩
          unfold rcvStructNewMsgInDeserialized
          split
          · exact hose_dispatched c _ _
          · have hid₁ : ({ m with bodyWhich := which } : MsgIn).idOrNone ≠ 0 := hid
            rw [if_neg hid₁]
            split
            · exact rcvOutOfOrder_dispatched c _
            · exact rcvInOrder_dispatched hr hlive
    rcases huser with ⟨which, as, ds, has, hds⟩
    exact .user which as ds hid has hds

/-! ## A completed read -/

/-- A quiet change after the message was handled. -/
theorem HandlesMsg.concat {c c₁ c₂ : Channel H} {m : MsgIn} (h : HandlesMsg env c m c₁)
    (hquiet : RcvQuiet c₁ c₂) : HandlesMsg env c m c₂ := by
  cases h with
  | user which as ds id accepted handles =>
      exact .user which as ds id accepted (handles.concat hquiet)
  | internal ns id notices handles => exact .internal ns id notices (handles.concat hquiet)

/-- A completed read handles the message it passes on, if it does anything to messages. -/
def ReadHandles (env : Env) (c : Channel H) (passed : Option MsgIn) (c' : Channel H) : Prop :=
  RcvQuiet c c' ∨ ∃ m, passed = some m ∧ HandlesMsg env c m c'

/-- A quiet change after the read. -/
theorem ReadHandles.concat {c c₁ c₂ : Channel H} {passed : Option MsgIn}
    (h : ReadHandles env c passed c₁) (hquiet : RcvQuiet c₁ c₂) : ReadHandles env c passed c₂ := by
  rcases h with h | ⟨m, hm, h⟩
  · exact Or.inl (h.trans hquiet)
  · exact Or.inr ⟨m, hm, h.concat hquiet⟩

/-- A completed read handles the message it passes on. -/
theorem step_readHandles {c c' : Channel H} {slot : PipeSlot} {result : RcvResult}
    (hw : c.WellFormed) (hstep : step env c (.rcv slot result) = some c') :
    ReadHandles env c (c.passedOn env slot (.rcv slot result)) c' := by
  rcases step_cases hstep with ⟨x, hx, _⟩ |
    ⟨slot', result', pipe, kind, hl, hidle, hpipe, hkind, hposs, rfl⟩ | ⟨t, rest, hl, _, _⟩
  · cases hx
  · cases hl
    have hr : c.Receiving := hw ⟨slot, by simp [hpipe]⟩
    let passed := c.passedOn env slot (.rcv slot result)
    let P : Channel H → Prop := fun c₁ => c₁.polling = none ∧ ReadHandles env c passed c₁
    have hinit : P c := ⟨hidle, Or.inl (.refl c)⟩
    refine (onRecv_receipt c slot pipe kind result).preserves P (ReadHandles env c passed) ?_ ?_
      (fun _ hc₁ => hc₁.2) hinit ?_
    · intro c₁ c₂ hmove hc₁
      exact ⟨hmove.posts.1.trans hc₁.1, hc₁.2.concat hmove.quiet⟩
    · intro c₁ hc₁
      exact hc₁.2.concat (handlersPoll_quiet hc₁.1)
    · intro p m hresult hlive hwhole
      subst hresult
      have hpassed : passed = some m :=
        (passedOn_rcv hlive hidle hpipe hkind hposs).trans hwhole
      have hpoll := (rcvStructNewMsgIn_handled env (m := m) hr hlive).polling
      exact ⟨hpoll.trans hidle, Or.inr ⟨m, hpassed, rcvStructNewMsgIn_handles env hr hlive⟩⟩
  · cases hl

/-! ## The tasks about responses -/

end Channel

/-- The unexpected response that the task is about. -/
def Task.unexpectedMsg? : Task H → Option MsgIn
  | .onUnexpectedResponse m => some m
  | _ => none

/-- The originating ID of the peer's notice that the task is about. -/
def Task.remoteNotice? : Task H → Option Nat
  | .onRemoteUnexpectedResponse id _ => some id
  | _ => none

/-- The response handler, and the response it is to handle. -/
def Task.rsp? : Task H → Option (H × MsgIn)
  | .onRsp f m => some (f, m)
  | _ => none

namespace Channel

/-- The unexpected responses that were posted, in order. -/
def unexpectedMsgs (c : Channel H) : List MsgIn :=
  c.postedTasks.filterMap Task.unexpectedMsg?

/-- The originating IDs of the peer's notices that were posted, in order. -/
def remoteNotices (c : Channel H) : List Nat :=
  c.postedTasks.filterMap Task.remoteNotice?

/-- The response handlers that were posted, in order, with their responses. -/
def responses (c : Channel H) : List (H × MsgIn) :=
  c.postedTasks.filterMap Task.rsp?

/-- The response is dispatched in a state in which it is not expected. -/
def Unexpected (c : Channel H) (m : MsgIn) : Prop :=
  m.originatingMsgIdOrNone ≠ 0 ∧ c.rcvExpectingResponseMap.lookup m.originatingMsgIdOrNone = none

/-- Whether a lookup finds nothing can be decided whatever the values are. -/
instance (c : Channel H) (m : MsgIn) : Decidable (c.Unexpected m) :=
  decidable_of_iff (m.originatingMsgIdOrNone ≠ 0 ∧
    (c.rcvExpectingResponseMap.lookup m.originatingMsgIdOrNone).isNone = true)
    (and_congr_right fun _ => Option.isNone_iff_eq_none)

/-- The unexpected responses among dispatched messages. -/
def unexpectedOf (ds : List (Channel H × MsgIn)) : List MsgIn :=
  (ds.filter fun d => d.1.Unexpected d.2).map Prod.snd

/-- Of the posted tasks those of one kind. -/
theorem Posts.filterMap {α : Type} {ts : List (Task H)} {c c' : Channel H} (h : Posts ts c c')
    (f : Task H → Option α) :
    c'.postedTasks.filterMap f = c.postedTasks.filterMap f ++ ts.filterMap f := by
  rw [h, List.filterMap_append]

/-- Posting the error task changes none of the lists above. -/
theorem posts_onErr {α : Type} {c c' : Channel H} {n : Nat}
    (h : Posts (List.replicate n .onErr) c c') {f : Task H → Option α} (hf : f .onErr = none) :
    c'.postedTasks.filterMap f = c.postedTasks.filterMap f := by
  have hnone : (List.replicate n (.onErr : Task H)).filterMap f = [] := by
    rw [List.filterMap_eq_nil_iff]
    intro t ht
    rw [List.eq_of_mem_replicate ht, hf]
  rw [h.filterMap f, hnone, List.append_nil]

/-! ## A dispatch -/

/-- The dispatch of an unexpected response makes one attempt to send, and one post. -/
theorem unexpected_dispatch_eq (env : Env) {c : Channel H} {m : MsgIn}
    (hlive : c.channelErrCodeOrOk = none) (hun : c.Unexpected m) :
    c.rcvStructNewMsgInIsNextExpected env m =
      ((c.log (.isNextExpected m)).sendCore env (c.unexpectedResponseMdt env m) none
        true).1.handlersPost env (.onUnexpectedResponse m) := by
  have hnone : (c.log (.isNextExpected m)).channelErrCodeOrOk.isNone = true := by
    simp [log, hlive]
  rw [rcvStructNewMsgInIsNextExpected_inform env c hun.1 hun.2]
  simp only [rcvStructInformOfUnexpectedResponse, hnone, if_true]
  rfl

/-- What the dispatch of an unexpected response sends: the internal message, or nothing. -/
theorem unexpected_dispatch_sends (env : Env) {c : Channel H} {m : MsgIn}
    (hneg : c.protoNegErrCodeOrOk = none) (hlive : c.channelErrCodeOrOk = none)
    (hun : c.Unexpected m) :
    (c.rcvStructNewMsgInIsNextExpected env m).sentMsgs =
        c.sentMsgs ++
          (if c.takesInternalMsg env then [(c.unexpectedResponseMdt env m, none)] else []) ∧
      (c.rcvStructNewMsgInIsNextExpected env m).channel =
        if c.takesInternalMsg env then
          c.channel.accept (framePipe env none)
            (.payload ⟨none, env.capnp.writeMdt (c.unexpectedResponseMdt env m)⟩)
        else c.channel := by
  have hbefore : (c.log (.isNextExpected m)).sentMsgs = c.sentMsgs :=
    sentMsgs_eq rfl (by simp [Event.sent?])
  have hsends := sendCore_internal env (c := c.log (.isNextExpected m))
    (c.unexpectedResponseMdt env m) hneg
  rw [hbefore] at hsends
  rw [unexpected_dispatch_eq env hlive hun]
  exact ⟨(sentMsgs_eq rfl sent?_assertion).trans hsends.1, hsends.2⟩

/-- An unexpected response is posted, and one internal message that names it is attempted. -/
theorem unexpected_dispatch (env : Env) {c : Channel H} {m : MsgIn} (hr : c.Receiving)
    (hlive : c.channelErrCodeOrOk = none) (hready : c.DispatchReady m) (hun : c.Unexpected m) :
    Posts [.onUnexpectedResponse m] c (c.rcvStructNewMsgInIsNextExpected env m) ∧
      Attempt env c (c.unexpectedResponseMdt env m, none)
        (c.rcvStructNewMsgInIsNextExpected env m) := by
  have hposts := (rcvStructNewMsgInIsNextExpected_posts env c m).2
  have htasks : c.dispatchTasks m = [.onUnexpectedResponse m] := by
    unfold dispatchTasks
    rw [if_pos hun.1, hun.2]
  rw [htasks] at hposts
  refine ⟨hposts, ?_⟩
  have hphase : c.phase = .loggedIn := hready.resolve_right hun.1
  have hr₁ : (c.log (.isNextExpected m)).Receiving := ⟨hr.1, hr.2, hr.3⟩
  have hatt := informPeer_attempt env (c.log (.isNextExpected m)) m hr₁ hphase
  have hbefore : (c.log (.isNextExpected m)).sentMsgs = c.sentMsgs :=
    sentMsgs_eq rfl (by simp [Event.sent?])
  rw [unexpected_dispatch_eq env hlive hun]
  change Attempt env (c.log (.isNextExpected m)) _ (sendCore env (c.log (.isNextExpected m))
    (c.unexpectedResponseMdt env m) none true).1 at hatt
  generalize (sendCore env (c.log (.isNextExpected m)) _ none true).1 = c₁ at hatt ⊢
  have hafter : (c₁.handlersPost env (.onUnexpectedResponse m)).sentMsgs = c₁.sentMsgs :=
    sentMsgs_eq rfl sent?_assertion
  cases hatt with
  | partly accepted part short channel sentMsgs startedOps negotiation phase hosed =>
      exact .partly accepted part short channel ((hafter.trans sentMsgs).trans hbefore) startedOps
        negotiation phase hosed
  | wholly negOk channel sentMsgs startedOps phase =>
      exact .wholly negOk channel (hafter.trans (by rw [sentMsgs, hbefore]; rfl)) startedOps phase

/-- The dispatch of any other message sends nothing. -/
theorem expected_dispatch (env : Env) {c : Channel H} {m : MsgIn} (hun : ¬ c.Unexpected m) :
    (c.rcvStructNewMsgInIsNextExpected env m).channel = c.channel ∧
      (c.rcvStructNewMsgInIsNextExpected env m).sentMsgs = c.sentMsgs := by
  have hlog : (c.log (.isNextExpected m)).sentMsgs = c.sentMsgs :=
    sentMsgs_eq rfl (by simp [Event.sent?])
  have hpost : ∀ t, ((c.log (.isNextExpected m)).handlersPost env t).sentMsgs = c.sentMsgs :=
    fun t => (sentMsgs_eq rfl sent?_assertion).trans hlog
  unfold rcvStructNewMsgInIsNextExpected
  simp only
  split
  · rename_i hrsp
    split
    · rename_i hlookup
      exact absurd ⟨hrsp, hlookup⟩ hun
    · rename_i exp _
      split
      · exact ⟨rfl, hpost (.onRsp exp.onMsgFunc m)⟩
      · exact ⟨rfl, hpost (.onRsp exp.onMsgFunc m)⟩
  · split
    · exact ⟨rfl, hlog⟩
    · rename_i exp _
      split
      · exact ⟨rfl, hpost (.onMsg exp.onMsgFunc m)⟩
      · exact ⟨rfl, hpost (.onMsg exp.onMsgFunc m)⟩

/-! ## What handling adds -/

/-- The accepted messages grow by those that were accepted on the way. -/
theorem Handles.acceptedMsgs {c c' : Channel H} {as : List MsgIn} {ds : List (Channel H × MsgIn)}
    {ns : List Nat} (h : Handles env c as ds ns c') : c'.acceptedMsgs = c.acceptedMsgs ++ as := by
  induction h with
  | quiet same => rw [same.acceptedMsgs, List.append_nil]
  | accept m => simp [Channel.acceptedMsgs, log, Event.accepted?]
  | @dispatch c m receiving live ready =>
      rw [(rcvStructNewMsgInIsNextExpected_sequence env ready).1.acceptedMsgs, List.append_nil]
  | @notify c id text =>
      rw [(handlersPost_rcvFrame env c (.onRemoteUnexpectedResponse id text)).acceptedMsgs,
        List.append_nil]
  | trans before after ih ih' => rw [ih', ih, List.append_assoc]

/-- The messages handed on grow by those that were dispatched. -/
theorem Handles.handedOn {c c' : Channel H} {as : List MsgIn} {ds : List (Channel H × MsgIn)}
    {ns : List Nat} (h : Handles env c as ds ns c') :
    c'.handedOn = c.handedOn ++ ds.map Prod.snd := by
  induction h with
  | quiet same => rw [same.handedOn, List.map_nil, List.append_nil]
  | accept m => simp [Channel.handedOn, log, Event.handedOn?]
  | @dispatch c m receiving live ready =>
      exact (rcvStructNewMsgInIsNextExpected_sequence env ready).1.handedOn
  | @notify c id text =>
      rw [(handlersPost_rcvFrame env c (.onRemoteUnexpectedResponse id text)).handedOn,
        List.map_nil, List.append_nil]
  | trans before after ih ih' => rw [ih', ih, List.append_assoc, List.map_append]

/-- Without a dispatch nothing is sent. -/
theorem Handles.silent {c c' : Channel H} {as : List MsgIn} {ds : List (Channel H × MsgIn)}
    {ns : List Nat} (h : Handles env c as ds ns c') (hnone : ds = []) :
    c'.channel = c.channel ∧ c'.sentMsgs = c.sentMsgs := by
  induction h with
  | quiet same => exact ⟨same.channel, same.sentMsgs⟩
  | accept m => exact ⟨rfl, sentMsgs_eq rfl (by simp [Event.sent?])⟩
  | dispatch m receiving live ready => cases hnone
  | notify id text => exact ⟨rfl, sentMsgs_eq rfl sent?_assertion⟩
  | trans before after ih ih' =>
      rcases List.append_eq_nil_iff.1 hnone with ⟨hds, hds'⟩
      exact ⟨(ih' hds').1.trans (ih hds).1, (ih' hds').2.trans (ih hds).2⟩

/-- Exactly the unexpected responses among the dispatched messages are posted as such. -/
theorem Handles.unexpectedMsgs {c c' : Channel H} {as : List MsgIn}
    {ds : List (Channel H × MsgIn)} {ns : List Nat} (h : Handles env c as ds ns c') :
    c'.unexpectedMsgs = c.unexpectedMsgs ++ unexpectedOf ds := by
  unfold Channel.unexpectedMsgs
  induction h with
  | quiet same =>
      rcases same.posts with ⟨n, hn⟩
      exact (posts_onErr hn rfl).trans (List.append_nil _).symm
  | @accept c m => exact (log_posts c rfl).filterMap _
  | @dispatch c m receiving live ready =>
      rw [(rcvStructNewMsgInIsNextExpected_posts env c m).2.filterMap]
      congr 1
      by_cases hrsp : m.originatingMsgIdOrNone = 0
      · cases hlookup : c.rcvExpectingMsgMap.lookup m.bodyWhich <;>
          simp [dispatchTasks, unexpectedOf, Unexpected, hrsp, hlookup, Task.unexpectedMsg?]
      · cases hlookup : c.rcvExpectingResponseMap.lookup m.originatingMsgIdOrNone <;>
          simp [dispatchTasks, unexpectedOf, Unexpected, hrsp, hlookup, Task.unexpectedMsg?]
  | @notify c id text => exact (handlersPost_posts env c _).filterMap _
  | trans before after ih ih' =>
      rw [ih', ih, List.append_assoc, unexpectedOf, unexpectedOf, unexpectedOf, List.filter_append,
        List.map_append]

/-- The notices of the peer grow by those that were posted. -/
theorem Handles.remoteNotices {c c' : Channel H} {as : List MsgIn}
    {ds : List (Channel H × MsgIn)} {ns : List Nat} (h : Handles env c as ds ns c') :
    c'.remoteNotices = c.remoteNotices ++ ns := by
  unfold Channel.remoteNotices
  induction h with
  | quiet same =>
      rcases same.posts with ⟨n, hn⟩
      exact (posts_onErr hn rfl).trans (List.append_nil _).symm
  | @accept c m => exact (log_posts c rfl).filterMap _
  | @dispatch c m receiving live ready =>
      rw [(rcvStructNewMsgInIsNextExpected_posts env c m).2.filterMap]
      congr 1
      by_cases hrsp : m.originatingMsgIdOrNone = 0
      · cases hlookup : c.rcvExpectingMsgMap.lookup m.bodyWhich <;>
          simp [dispatchTasks, hrsp, hlookup, Task.remoteNotice?]
      · cases hlookup : c.rcvExpectingResponseMap.lookup m.originatingMsgIdOrNone <;>
          simp [dispatchTasks, hrsp, hlookup, Task.remoteNotice?]
  | @notify c id text => exact (handlersPost_posts env c _).filterMap _
  | trans before after ih ih' => rw [ih', ih, List.append_assoc]

end Channel

/-- The ID of the response that an internal message names. -/
def SentMsg.informsOf? (f : SentMsg) : Option Nat :=
  match f.2 with
  | none => some (f.1.originatingMessageOrNull.getD 0)
  | some _ => none

namespace Channel

/-- The IDs that the internal messages named that were sent, in order. -/
def informedIds (c : Channel H) : List Nat :=
  c.sentMsgs.filterMap SentMsg.informsOf?

/-- The internal message names the response it is about. -/
theorem originating_unexpectedResponseMdt (env : Env) (c : Channel H) (m : MsgIn) :
    (c.unexpectedResponseMdt env m).originatingMessageOrNull.getD 0 = m.idOrNone := by
  by_cases hid : m.idOrNone = 0 <;>
    simp [unexpectedResponseMdt, StructuredMessage.initUnexpectedResponse, msgMdtOut, hid]

/-- The internal messages name unexpected responses, each at most once, in order. -/
theorem Handles.informedIds {c c' : Channel H} {as : List MsgIn}
    {ds : List (Channel H × MsgIn)} {ns : List Nat} (h : Handles env c as ds ns c') :
    ∃ ids, ids.Sublist ((unexpectedOf ds).map MsgIn.idOrNone) ∧
      c'.informedIds = c.informedIds ++ ids := by
  have hsame : ∀ {c c' : Channel H} {ds : List (Channel H × MsgIn)}, c'.sentMsgs = c.sentMsgs →
      ∃ ids, ids.Sublist ((unexpectedOf ds).map MsgIn.idOrNone) ∧
        c'.informedIds = c.informedIds ++ ids := by
    intro c c' ds hsent
    exact ⟨[], List.nil_sublist _, by rw [Channel.informedIds, hsent, List.append_nil,
      Channel.informedIds]⟩
  induction h with
  | quiet same => exact hsame same.sentMsgs
  | accept m => exact hsame (sentMsgs_eq rfl (by simp [Event.sent?]))
  | @dispatch c m receiving live ready =>
      by_cases hun : c.Unexpected m
      · have hatt := (unexpected_dispatch env receiving live ready hun).2
        cases hatt with
        | partly accepted part short channel sentMsgs startedOps negotiation phase hosed =>
            exact hsame sentMsgs
        | wholly negOk channel sentMsgs startedOps phase =>
            refine ⟨[m.idOrNone], by simp [unexpectedOf, hun], ?_⟩
            rw [Channel.informedIds, sentMsgs, List.filterMap_append, Channel.informedIds]
            simp [SentMsg.informsOf?, originating_unexpectedResponseMdt]
      · exact hsame (expected_dispatch env hun).2
  | notify id text => exact hsame (sentMsgs_eq rfl sent?_assertion)
  | trans before after ih ih' =>
      rcases ih with ⟨ids, hids, hc⟩
      rcases ih' with ⟨ids', hids', hc'⟩
      refine ⟨ids ++ ids', ?_, by rw [hc', hc, List.append_assoc]⟩
      rw [unexpectedOf, List.filter_append, List.map_append, List.map_append]
      exact hids.append hids'

end Channel
end StrucTransport
