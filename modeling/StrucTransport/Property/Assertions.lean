import StrucTransport.Channel.FuncRoles
import StrucTransport.Channel.Guarded
import StrucTransport.Net.LogIn
import StrucTransport.Net.OneOff
import StrucTransport.Property.Dispatch
import StrucTransport.Property.LogInGate

/-!
# The assertions of a run

Every state that a run leads to is guarded, so the assertions about logging in, about
queued messages and about what may be sent hold in every run.  The two about responses
that are expected hold unless, while logging in, a request leaves its expectation behind
without being sent.

Main results:

- Theorem {lit}`Reachable.guarded`: reachable states are guarded.
- Theorem {lit}`assertions_hold`: the assertions, over every run.
-/

namespace StrucTransport

variable {H : Type}

namespace Channel

variable {env : Env}

/-! ## What the effects keep -/

/-- Two IDs at most are generated before the channel is logged in. -/
def EarlyIds (c : Channel H) : Prop :=
  c.phase ≠ .loggedIn → c.sndMsgNextId = 1 ∨ c.sndMsgNextId = 2

/-- No effect generates a third ID before the log-in is over. -/
theorem Effect.earlyIds {p p' : Option MsgIn × Channel H} (h : Effect env p p')
    (hinv : p.2.EarlyIds) : p'.2.EarlyIds := by
  have hsame : p'.2.sndMsgNextId = p.2.sndMsgNextId → p'.2.EarlyIds := by
    intro hnext hphase'
    rw [hnext]
    exact hinv (h.phaseMove.phase_eq hphase' ▸ hphase')
  cases h with
  | startOps fresh =>
      rename_i c
      rcases startOps_spec env c fresh with ⟨t, ch, neg, hc, _⟩
      exact hsame (by rw [hc])
  | setRcvPipe slot pipe started negOk mayRead => cases slot <;> exact hsame rfl
  | negotiate v va receiving live fresh =>
      rename_i c
      rcases computeNegotiatedProtoVers_frame env c v va with ⟨ver, verAux, tr, hc, _⟩
      exact hsame (by rw [hc])
  | sendUser msg orig started live phase sendable logIn request =>
      rename_i c
      intro hphase'
      have hmove : PhaseMove c (c.sendUser env msg ((orig.map MsgIn.idOrNone).getD 0)) :=
        (Effect.sendUser msg orig started live phase sendable logIn request).phaseMove
      have hfirst : c.sndMsgNextId = 1 :=
        phase.resolve_right fun hphase => hphase' (hmove.loggedIn hphase).1
      right
      rw [sendUser_sndMsgNextId env c msg _ sendable, hfirst]
  | informPeer m receiving live phase =>
      rename_i c
      rcases informPeer_frame env c m receiving.protoNegOk phase with ⟨t, ch, tr, hc, _⟩
      exact hsame (by rw [hc])
  | skip t rest polling unset => cases t <;> exact hsame rfl
  | afterHandler t rest polling => cases t <;> exact hsame rfl
  | _ => exact hsame rfl

/-- A client that is logging in has no token and was handed nothing. -/
structure ClientEntry (p : Option MsgIn × Channel H) : Prop extends ClientLogIn p where
  token : p.2.phase = .cliLogIn → p.2.sessionToken.isNil = true
  handedOn : p.2.phase = .cliLogIn → p.2.handedOn = []

/-- What a client takes in while logging in logs it in, or hoses it. -/
theorem Effect.clientEntry {p p' : Option MsgIn × Channel H} (h : Effect env p p')
    (hinv : ClientEntry p) : ClientEntry p' := by
  have hphase : p'.2.phase = .cliLogIn → p.2.phase = .cliLogIn := by
    intro hphase'
    rw [← h.phaseMove.phase_eq (by simp [hphase']), hphase']
  refine ⟨h.clientLogIn hinv.toClientLogIn, ?_, ?_⟩
  · intro hphase'
    cases h.phaseMove with
    | same phase token => exact token ▸ hinv.token (hphase hphase')
    | server before phase token => simp [phase] at hphase'
    | client before phase token => simp [phase] at hphase'
  · intro hphase'
    have hnone := hinv.handedOn (hphase hphase')
    cases h.handMove with
    | quiet hand queue handedOn => exact handedOn.trans hnone
    | next m hand admitted queue handedOn => exact handedOn.trans hnone
    | later m hand token emplaced handedOn => exact handedOn.trans hnone
    | bridge id m hand first queue handedOn => exact handedOn.trans hnone
    | handOn m hand hand' queue handedOn =>
        exact absurd (hphase hphase') (hinv.hand (by rw [hand]; rfl))

/-- A server that is logging in caches one message at most, the log-in request. -/
structure ServerEntry (p : Option MsgIn × Channel H) : Prop where
  pending : p.2.phase = .srvLogIn → p.2.rcvPendingMsgs.keys.length ≤ 1
  hand : p.2.phase = .srvLogIn → p.1.isSome →
    p.2.rcvPendingMsgs.keys = [] ∧ 1 < p.2.rcvMsgNextId
  first : p.2.phase = .srvLogIn → p.2.rcvMsgNextId ≤ 1 → p.2.rcvPendingMsgs.keys = []

/-- Nothing is to be shown of a channel that is not logging in as a server. -/
theorem ServerEntry.of_phase {p : Option MsgIn × Channel H} (h : p.2.phase ≠ .srvLogIn) :
    ServerEntry p where
  pending hsrv := absurd hsrv h
  hand hsrv := absurd hsrv h
  first hsrv := absurd hsrv h

/-- A change that caches nothing and takes no message in hand. -/
theorem ServerEntry.of_same {p p' : Option MsgIn × Channel H} (h : ServerEntry p)
    (hphase : PhaseMove p.2 p'.2) (hpending : p'.2.rcvPendingMsgs = p.2.rcvPendingMsgs)
    (hnext : p.2.rcvMsgNextId ≤ p'.2.rcvMsgNextId) (hhand : p'.1.isSome → p.1.isSome) :
    ServerEntry p' := by
  have hbefore : p'.2.phase = .srvLogIn → p.2.phase = .srvLogIn := by
    intro hsrv
    rw [← hphase.phase_eq (by simp [hsrv]), hsrv]
  constructor
  · intro hsrv
    rw [hpending]
    exact h.pending (hbefore hsrv)
  · intro hsrv hsome
    rcases h.hand (hbefore hsrv) (hhand hsome) with ⟨hkeys, hpos⟩
    rw [hpending]
    exact ⟨hkeys, Nat.lt_of_lt_of_le hpos hnext⟩
  · intro hsrv hfirst
    rw [hpending]
    exact h.first (hbefore hsrv) (Nat.le_trans hnext hfirst)

/-- An insertion adds one key at most. -/
theorem keys_length_insert_le {β : MsgWhich → Type} (map : AList β) (which : MsgWhich)
    (b : β which) : (map.insert which b).keys.length ≤ map.keys.length + 1 := by
  rw [AList.keys_insert, List.length_cons]
  exact Nat.succ_le_succ List.length_erase_le

/-- Taking queued messages queues none under another {lit}`Msg_which`. -/
theorem takePending_keys_length_le (c : Channel H) (which : MsgWhich) (oneOff : Bool)
    (q : List MsgIn) (hmem : which ∈ c.rcvPendingMsgs) :
    (c.takePending which oneOff q).1.rcvPendingMsgs.keys.length ≤
      c.rcvPendingMsgs.keys.length := by
  have hleft : ∀ left : List MsgIn, (if left.isEmpty then c.rcvPendingMsgs.erase which
      else c.rcvPendingMsgs.insert which left).keys.length ≤ c.rcvPendingMsgs.keys.length := by
    intro left
    split
    · rw [AList.keys_erase]
      exact List.length_erase_le
    · have hkeys : which ∈ c.rcvPendingMsgs.keys := AList.mem_keys.1 hmem
      have hpos := List.length_pos_of_mem hkeys
      rw [AList.keys_insert, List.length_cons, List.length_erase_of_mem hkeys]
      omega
  exact hleft _

/-- The only message a server takes in while logging in is the log-in request. -/
theorem Effect.serverEntry {p p' : Option MsgIn × Channel H} (h : Effect env p p')
    (hinv : ServerEntry p) : ServerEntry p' := by
  have hsame := hinv.of_same h.phaseMove
  cases h with
  | startOps fresh =>
      rename_i c
      rcases startOps_spec env c fresh with ⟨t, ch, neg, hc, _⟩
      exact hsame (by rw [hc]) (by rw [hc]) id
  | setRcvPipe slot pipe started negOk mayRead =>
      cases slot <;> exact hsame rfl (Nat.le_refl _) id
  | negotiate v va receiving live fresh =>
      rename_i c
      rcases computeNegotiatedProtoVers_frame env c v va with ⟨ver, verAux, tr, hc, _⟩
      exact hsame (by rw [hc]) (by rw [hc]) id
  | sendUser msg orig started live phase sendable logIn request =>
      rename_i c
      rcases sendUser_cases c msg ((orig.map MsgIn.idOrNone).getD 0) sendable with
        ⟨e, t, accepted, _, hc⟩ | ⟨t, _, _, hc⟩ | ⟨t, _, _, _, hc⟩ <;>
        exact hsame (by rw [hc]) (by rw [hc]) id
  | informPeer m receiving live phase =>
      rename_i c
      rcases informPeer_frame env c m receiving.protoNegOk phase with ⟨t, ch, tr, hc, _⟩
      exact hsame (by rw [hc]) (by rw [hc]) id
  | takePending which oneOff q fresh some' live =>
      rename_i c
      have hsub := takePending_keys_length_le c which oneOff q
        (AList.lookup_isSome.1 (by rw [some']; rfl))
      have hnil : c.rcvPendingMsgs.keys = [] →
          (c.takePending which oneOff q).1.rcvPendingMsgs.keys = [] := by
        intro hkeys
        rw [hkeys] at hsub
        exact List.length_eq_zero_iff.1 (Nat.le_zero.1 hsub)
      exact ⟨fun hsrv => Nat.le_trans hsub (hinv.pending hsrv), by simp,
        fun hsrv hfirst => hnil (hinv.first hsrv hfirst)⟩
  | acceptNext m token phase receiving live id idPos admitted =>
      cases admitted with
      | loggedIn phase token => exact .of_phase (by simp [log])
      | client phase token first rsp requested => exact .of_phase (by simp [log])
      | server phase token first unsolicited expected =>
          rename_i c
          have hkeys := hinv.first phase first
          refine ⟨fun _ => ?_, fun _ _ => ⟨hkeys, ?_⟩, fun _ _ => hkeys⟩
          · simp only [log]
            rw [hkeys]
            exact Nat.zero_le 1
          · simp only [log]
            omega
  | bridge m receiving live phase first => exact .of_phase (by simp [phase])
  | pend m receiving unsolicited unexpected =>
      rename_i c
      refine ⟨fun hsrv => ?_, by simp, fun hsrv hfirst => ?_⟩
      · have hle := keys_length_insert_le c.rcvPendingMsgs m.bodyWhich
          ((c.rcvPendingMsgs.lookup m.bodyWhich).getD [] ++ [m])
        rw [(hinv.hand hsrv rfl).1] at hle
        exact hle
      · have hpos : 1 < c.rcvMsgNextId := (hinv.hand hsrv rfl).2
        exact absurd hfirst (Nat.not_le_of_lt hpos)
  | countNext receiving phase => exact hsame rfl (Nat.le_succ _) id
  | skip t rest polling unset => cases t <;> exact hsame rfl (Nat.le_refl _) (by simp)
  | afterHandler t rest polling => cases t <;> exact hsame rfl (Nat.le_refl _) (by simp)
  | postRsp m exp receiving rsp expected => exact hsame rfl (Nat.le_refl _) (by simp)
  | postUnexpected m receiving rsp unexpected => exact hsame rfl (Nat.le_refl _) (by simp)
  | postMsg m exp receiving unsolicited expected => exact hsame rfl (Nat.le_refl _) (by simp)
  | _ => exact hsame rfl (Nat.le_refl _) (fun hsome => hsome)

/-! ## What a server expects -/

/-- A change after which no more messages are expected, and that starts no log-in. -/
structure FewerMsgs (c c' : Channel H) : Prop where
  phaseLogInStarted : c'.phaseLogInStarted = c.phaseLogInStarted
  msgs : c'.rcvExpectingMsgMap.keys.length ≤ c.rcvExpectingMsgMap.keys.length

namespace FewerMsgs

/-- A change of other members. -/
theorem of_same {c c' : Channel H} (hstarted : c'.phaseLogInStarted = c.phaseLogInStarted)
    (hmsgs : c'.rcvExpectingMsgMap = c.rcvExpectingMsgMap) : FewerMsgs c c' :=
  ⟨hstarted, Nat.le_of_eq (by rw [hmsgs])⟩

/-- No change at all. -/
theorem refl (c : Channel H) : FewerMsgs c c :=
  .of_same rfl rfl

/-- Two changes after which no more messages are expected. -/
theorem trans {c₁ c₂ c₃ : Channel H} (h : FewerMsgs c₁ c₂) (h' : FewerMsgs c₂ c₃) :
    FewerMsgs c₁ c₃ :=
  ⟨h'.phaseLogInStarted.trans h.phaseLogInStarted, Nat.le_trans h'.msgs h.msgs⟩

end FewerMsgs

/-- What a read does besides handling messages. -/
theorem ReadMove.fewerMsgs {falsy : Bool} {c c' : Channel H} (h : ReadMove env falsy c c') :
    FewerMsgs c c' := by
  cases h with
  | setRcvPipe slot pipe => cases slot <;> exact .of_same rfl rfl
  | negotiate v va =>
      rcases computeNegotiatedProtoVers_frame env c v va with ⟨ver, verAux, tr, hframe, _⟩
      rw [hframe]
      exact .of_same rfl rfl
  | _ => exact .of_same rfl rfl

/-- The tasks of a poll register nothing themselves. -/
theorem runHandlers_fewerMsgs (c : Channel H) (ts : List (Task H)) :
    FewerMsgs c (c.runHandlers ts) := by
  induction ts generalizing c with
  | nil => exact .of_same rfl rfl
  | cons t rest ih =>
      unfold runHandlers
      split
      · exact .of_same rfl rfl
      · apply FewerMsgs.trans ?_ (ih _)
        cases t <;> exact .of_same rfl rfl

/-- The poll that runs the tasks registers nothing itself. -/
theorem handlersPoll_fewerMsgs (c : Channel H) : FewerMsgs c c.handlersPoll := by
  unfold handlersPoll
  split
  · exact .refl c
  · have hset : FewerMsgs c { c with
        syncIoHandlers := [], polling := some ⟨none, c.syncIoHandlers⟩ } := .of_same rfl rfl
    exact hset.trans (runHandlers_fewerMsgs _ _)

/-- The rest of a poll registers nothing itself. -/
theorem handlerReturned_fewerMsgs (c : Channel H) (t : Task H) (rest : List (Task H)) :
    FewerMsgs c (c.handlerReturned t rest) := by
  unfold handlerReturned
  apply FewerMsgs.trans ?_ (runHandlers_fewerMsgs _ _)
  cases t <;> exact .of_same rfl rfl

/-- A send concerns no expectation of messages. -/
theorem sendCore_fewerMsgs (env : Env) (c : Channel H) (mdt : StructuredMessage)
    (msg : Option MsgOut) (ignoreErr : Bool) :
    FewerMsgs c (c.sendCore env mdt msg ignoreErr).1 := by
  have hout := sendCore_outcome env c mdt msg ignoreErr
  generalize c.sendCore env mdt msg ignoreErr = r at hout
  cases hout <;> exact .of_same rfl rfl

/-- A request expects responses, not messages. -/
theorem sendOrRequest_fewerMsgs (env : Env) (c : Channel H) (msg : MsgOut) (orig : Option MsgIn)
    (f : Option H) (out : Option Nat) : FewerMsgs c (c.sendOrRequest env msg orig f out).1 := by
  have hset : ∀ (c : Channel H) n, FewerMsgs c { c with sndMsgNextId := n } :=
    fun _ _ => .of_same rfl rfl
  have hregistered : ∀ c : Channel H, ∀ id, FewerMsgs c (c.registerRequest id f out) := by
    intro c id
    cases f <;> exact .of_same rfl rfl
  have hlog : ∀ (c : Channel H) r, FewerMsgs c (c.logEmitted r) := by
    intro c r
    unfold logEmitted
    split <;> exact .of_same rfl rfl
  unfold sendOrRequest
  split
  · exact .refl c
  · apply FewerMsgs.trans ?_ (hlog _ _)
    unfold sendImpl
    simp only
    split
    · exact .of_same rfl rfl
    · split
      · exact .of_same rfl rfl
      · have hready := (hset c (c.sndMsgNextId + 1)).trans (hregistered _ c.sndMsgNextId)
        split
        · exact hready.trans (hset _ _)
        · exact hready.trans (sendCore_fewerMsgs env _ _ _ _)

/-- A dispatch may meet an expectation. -/
theorem rcvStructNewMsgInIsNextExpected_fewerMsgs (env : Env) (c : Channel H) (m : MsgIn) :
    FewerMsgs c (c.rcvStructNewMsgInIsNextExpected env m) := by
  have hlog : FewerMsgs c (c.log (.isNextExpected m)) := .of_same rfl rfl
  have hpost : ∀ (c : Channel H) t, FewerMsgs c (c.handlersPost env t) :=
    fun _ _ => .of_same rfl rfl
  unfold rcvStructNewMsgInIsNextExpected
  simp only
  split
  · split
    · unfold rcvStructInformOfUnexpectedResponse
      simp only
      split
      · exact (hlog.trans (sendCore_fewerMsgs env _ _ _ _)).trans (hpost _ _)
      · exact hlog.trans (hpost _ _)
    · split <;> exact .of_same rfl rfl
  · split
    · exact .of_same rfl rfl
    · split
      · exact ⟨rfl, keys_length_erase_le _ m.bodyWhich⟩
      · exact .of_same rfl rfl

/-- A complete in-message ends expectations, and begins none. -/
theorem rcvStructNewMsgIn_fewerMsgs (env : Env) (c : Channel H) (m : MsgIn) :
    FewerMsgs c (c.rcvStructNewMsgIn env m).1 := by
  apply (rcvStructNewMsgIn_intake env c m).preserves (FewerMsgs c)
  · intro c₁ c₂ hframe hc₁
    exact hc₁.trans (.of_same (by rw [hframe.rest]) (by rw [hframe.rest]))
  · intro c₁ e hc₁
    exact hc₁.trans (.of_same rfl rfl)
  · intro c₁ id text hc₁
    exact hc₁.trans (.of_same rfl rfl)
  · intro c₁ m₁ hc₁
    exact hc₁.trans (rcvStructNewMsgInIsNextExpected_fewerMsgs env c₁ m₁)
  · exact .refl c

/-- A completed read ends expectations, and begins none. -/
theorem onRecv_fewerMsgs (env : Env) (c : Channel H) (slot : PipeSlot) (pipe : MsgInPipe)
    (kind : ReadKind) (result : RcvResult) :
    FewerMsgs c (c.onRecv env slot pipe kind result) := by
  apply (onRecv_receipt c slot pipe kind result).preserves (FewerMsgs c) (FewerMsgs c)
  · intro c₁ c₂ hmove hc₁
    exact hc₁.trans hmove.fewerMsgs
  · intro c₁ hc₁
    exact hc₁.trans (handlersPoll_fewerMsgs c₁)
  · exact fun _ hc₁ => hc₁
  · exact .refl c
  · intro p m _ _ _
    exact rcvStructNewMsgIn_fewerMsgs env c m

/-- An expectation call adds one expectation at most. -/
theorem expectMsgsImpl_msgs (env : Env) (c : Channel H) (oneOff : Bool) (which : MsgWhich) (f : H) :
    (c.expectMsgsImpl env oneOff which f).1.phaseLogInStarted = c.phaseLogInStarted ∧
      (c.expectMsgsImpl env oneOff which f).1.rcvExpectingMsgMap.keys.length ≤
        c.rcvExpectingMsgMap.keys.length + 1 := by
  have hinsert := keys_length_insert_le c.rcvExpectingMsgMap which ⟨oneOff, f⟩
  unfold expectMsgsImpl
  split
  · exact ⟨rfl, Nat.le_succ _⟩
  · simp only
    split
    · split
      · have herr : ∀ (c₁ : Channel H) e,
            (c₁.handleNewError env e).phaseLogInStarted = c₁.phaseLogInStarted ∧
              (c₁.handleNewError env e).rcvExpectingMsgMap = c₁.rcvExpectingMsgMap :=
          fun _ _ => ⟨rfl, rfl⟩
        rw [(herr _ _).1, (herr _ _).2]
        exact ⟨rfl, hinsert⟩
      · exact ⟨rfl, hinsert⟩
    · rename_i q _
      have htake : ∀ c₁ : Channel H,
          (c₁.takePending which oneOff q).1.phaseLogInStarted = c₁.phaseLogInStarted ∧
            (c₁.takePending which oneOff q).1.rcvExpectingMsgMap = c₁.rcvExpectingMsgMap :=
        fun _ => ⟨rfl, rfl⟩
      rw [(htake _).1, (htake _).2]
      cases oneOff with
      | true => exact ⟨rfl, Nat.le_succ _⟩
      | false => exact ⟨rfl, hinsert⟩

/-- A server that is logging in expects the log-in request at most, once it was told to. -/
def ExpectsLogInAtMost (c : Channel H) : Prop :=
  c.phase = .srvLogIn → c.rcvExpectingMsgMap.keys.length ≤ if c.phaseLogInStarted then 1 else 0

/--
Only {lit}`expect_log_in_request()` adds an expectation before the log-in is over, and
only once.
-/
theorem ExpectsLogInAtMost.step {c c' : Channel H} {l : Label H} (h : c.ExpectsLogInAtMost)
    (hw : c.WellFormed) (hstep : Channel.step env c l = some c') : c'.ExpectsLogInAtMost := by
  intro hphase'
  have hmove := step_phaseMove hw hstep
  have hphase : c.phase = .srvLogIn := by
    rw [← hmove.phase_eq (by simp [hphase']), hphase']
  have hfewer : FewerMsgs c c' →
      c'.rcvExpectingMsgMap.keys.length ≤ if c'.phaseLogInStarted then 1 else 0 := by
    intro hfewer
    rw [hfewer.phaseLogInStarted]
    exact Nat.le_trans hfewer.msgs (h hphase)
  rcases step_cases hstep with ⟨x, _, hc'⟩ |
    ⟨slot, result, pipe, kind, _, _, _, _, _, rfl⟩ | ⟨t, rest, _, _, rfl⟩
  · have hkind := call_kind env c x
    rw [← hc'] at hkind
    cases hkind with
    | plain x c' change => exact hfewer ⟨change.phaseLogInStarted, change.msgs⟩
    | startAndPoll f =>
        apply hfewer
        apply startAndPoll_preserves (FewerMsgs c)
        · exact fun _ _ hmove hc₁ => hc₁.trans hmove.fewerMsgs
        · exact .refl c
        · exact .of_same rfl rfl
    | send msg orig => exact hfewer (sendOrRequest_fewerMsgs env c msg orig none none)
    | asyncRequest msg orig out f =>
        exact hfewer (sendOrRequest_fewerMsgs env c msg orig (some f) out)
    | expect x oneOff which f phase => simp [phase] at hphase
    | expectLogIn which f phase fresh =>
        rcases expectMsgsImpl_msgs env ({ c with phaseLogInStarted := true } : Channel H) true
          which f with ⟨hstarted, hle⟩
        have hnone := h hphase
        rw [fresh] at hnone
        rw [hstarted]
        exact Nat.le_trans hle (Nat.succ_le_succ hnone)
  · exact hfewer (onRecv_fewerMsgs env c slot pipe kind result)
  · exact hfewer (handlerReturned_fewerMsgs c t rest)

/-! ## The responses that are expected -/

/-- While logging in, a request leaves its expectation behind without being sent. -/
def LeavesExpectation (env : Env) (c : Channel H) : Label H → Prop
  | .call (.asyncRequest msg orig _ f) =>
      c.phase ≠ .loggedIn ∧ RegistersSend env c msg (some f) ∧
        (logInRefuses c.phase orig = true ∨ MeetsEndOfSending env c msg)
  | _ => False

/-- A request that leaves no expectation behind registers none, or takes the next ID. -/
theorem asyncRequest_registered {c : Channel H} {msg : MsgOut} {orig : Option MsgIn}
    (out : Option Nat) {f : H}
    (hnot : ¬ LeavesExpectation env c (.call (.asyncRequest msg orig out f))) :
    (c.asyncRequest env msg orig out f).1.rcvExpectingResponseMap = c.rcvExpectingResponseMap ∨
      (c.asyncRequest env msg orig out f).1.sndMsgNextId = c.sndMsgNextId + 1 ∧
        ((c.asyncRequest env msg orig out f).1.phase = .srvLogIn →
          (c.asyncRequest env msg orig out f).1.channelErrCodeOrOk ≠ none) := by
  unfold asyncRequest
  by_cases hreg : RegistersSend env c msg (some f)
  · right
    have hlog : logInRefuses c.phase orig = false := by
      apply eq_false_of_ne_true
      intro hrefuses
      refine hnot ⟨?_, hreg, Or.inl hrefuses⟩
      intro hphase
      simp [logInRefuses, hphase] at hrefuses
    rcases sendOrRequest_of_attempted out hreg hlog with ⟨map, tr, heq⟩
    rw [heq]
    simp only
    let c₁ : Channel H := { c with sndMsgNextId := c.sndMsgNextId + 1
                                   rcvExpectingResponseMap := map, trace := tr }
    let mdt := c.userMdt env msg ((orig.map MsgIn.idOrNone).getD 0)
    have hopen : (c₁.sendCore env mdt (some msg) false).2.1 = false → c.phase = .loggedIn := by
      intro hfalse
      by_contra hphase
      exact hnot ⟨hphase, hreg, Or.inr ((sendCore_ret_eq_false_iff env c₁ mdt msg).1 hfalse)⟩
    have hout := sendCore_outcome env c₁ mdt (some msg) false
    change ((c₁.sendCore env mdt (some msg) false).1.logEmitted
        ⟨(c₁.sendCore env mdt (some msg) false).2.1, (c₁.sendCore env mdt (some msg) false).2.2,
          _⟩).sndMsgNextId = c.sndMsgNextId + 1 ∧
      (((c₁.sendCore env mdt (some msg) false).1.logEmitted
        ⟨(c₁.sendCore env mdt (some msg) false).2.1, (c₁.sendCore env mdt (some msg) false).2.2,
          _⟩).phase = .srvLogIn →
        ((c₁.sendCore env mdt (some msg) false).1.logEmitted
          ⟨(c₁.sendCore env mdt (some msg) false).2.1, (c₁.sendCore env mdt (some msg) false).2.2,
            _⟩).channelErrCodeOrOk ≠ none)
    generalize c₁.sendCore env mdt (some msg) false = r at hout hopen
    cases hout with
    | negotiationError e saved => exact ⟨rfl, fun _ => by simp [logEmitted, log]⟩
    | failed e t accepted asserts negOk part known cause =>
        exact ⟨rfl, fun _ => by simp [logEmitted, log]⟩
    | finished t negOk ended =>
        refine ⟨rfl, fun hphase => ?_⟩
        have hsame : c.phase = .srvLogIn := hphase
        simp [hopen rfl] at hsame
    | sent t negOk serializable notEnded =>
        refine ⟨rfl, fun hphase => ?_⟩
        have hsame : (if c.phase = .srvLogIn then Phase.loggedIn else c.phase) = .srvLogIn := hphase
        split at hsame
        · cases hsame
        · contradiction
  · rcases sendOrRequest_of_not_registers orig out hreg with ⟨tr, heq⟩
    left
    rw [heq]

/-- A step takes back no ID. -/
theorem step_next_mono {c c' : Channel H} {l : Label H} (hw : c.WellFormed)
    (hstep : step env c l = some c') : c.sndMsgNextId ≤ c'.sndMsgNextId := by
  cases l with
  | call x =>
      have hcall : c.call env x = c' := (step_call_eq_some.1 hstep).2.symm
      exact hcall ▸ call_next_mono env c x
  | _ =>
      cases step_requests hw id hstep with
      | moves none' moves => exact moves.next_le
      | request exp some' map next responses => cases some'

/-- What requests keep of which none leaves its expectation behind. -/
structure ExpectsSent (c : Channel H) : Prop where
  below : ∀ id ∈ c.rcvExpectingResponseMap, id < c.sndMsgNextId
  server : c.phase = .srvLogIn → c.channelErrCodeOrOk = none →
    ∀ id, id ∉ c.rcvExpectingResponseMap

/-- A response that is newly expected is that to a request with the next ID. -/
theorem step_newly_expected {c c' : Channel H} {l : Label H}
    (hnot : ¬ LeavesExpectation env c l) (hstep : step env c l = some c') {id : Nat}
    (hid : id ∈ c'.rcvExpectingResponseMap) :
    id ∈ c.rcvExpectingResponseMap ∨ id = c.sndMsgNextId ∧
      c'.sndMsgNextId = c.sndMsgNextId + 1 ∧
        (c'.phase = .srvLogIn → c'.channelErrCodeOrOk ≠ none) := by
  rcases step_responses hstep id hid with hmem | ⟨x, rfl, hmem⟩
  · exact Or.inl hmem
  · have hcall : c.call env x = c' := (step_call_eq_some.1 hstep).2.symm
    subst hcall
    cases x with
    | asyncRequest msg orig out f =>
        rcases asyncRequest_registered out hnot with hmap | hnext
        · left
          have hid' : id ∈ (c.asyncRequest env msg orig out f).1.rcvExpectingResponseMap := hid
          rw [hmap] at hid'
          exact hid'
        · exact Or.inr ⟨List.mem_singleton.1 hmem, hnext⟩
    | _ => simp [requestIds] at hmem

/-- A request that does not leave its expectation behind is sent under a fresh ID. -/
theorem ExpectsSent.step {c c' : Channel H} {l : Label H} (h : c.ExpectsSent) (hw : c.WellFormed)
    (hnot : ¬ LeavesExpectation env c l) (hstep : Channel.step env c l = some c') :
    c'.ExpectsSent := by
  constructor
  · intro id hid
    rcases step_newly_expected hnot hstep hid with hmem | ⟨rfl, hnext, _⟩
    · exact Nat.lt_of_lt_of_le (h.below id hmem) (step_next_mono hw hstep)
    · rw [hnext]
      exact Nat.lt_succ_self _
  · intro hphase' hlive' id hid
    rcases step_newly_expected hnot hstep hid with hmem | ⟨_, _, hhosed⟩
    · have hphase : c.phase = .srvLogIn := by
        rw [← (step_phaseMove hw hstep).phase_eq (by simp [hphase']), hphase']
      have hlive : c.channelErrCodeOrOk = none := by
        by_contra hhosed
        exact Hosed.step hw hstep hhosed hlive'
      exact h.server hphase hlive id hmem
    · exact hhosed hphase' hlive'

/-! ## Every run -/

/-- Reachable states are guarded, if no request left its expectation behind. -/
theorem Reachable.guarded {c : Channel H} {rsps : Bool} (h : Reachable env c)
    (hmsgs : c.ExpectsLogInAtMost) (hrsps : rsps = true → c.ExpectsSent) : Guarded rsps c := by
  have hearly : c.EarlyIds := by
    apply h.invariant (fun p => p.2.EarlyIds) ?_ (fun _ _ hinv heff => heff.earlyIds hinv)
    intro args _
    cases args <;> exact Or.inl rfl
  have hclient : ClientEntry (none, c) := by
    apply h.invariant ClientEntry ?_ (fun _ _ hinv heff => heff.clientEntry hinv)
    intro args
    cases args with
    | loggedIn token nonNil => exact ⟨.of_phase (by simp [ctor]), by simp [ctor], by simp [ctor]⟩
    | server token => exact ⟨.of_phase (by simp [ctor]), by simp [ctor], by simp [ctor]⟩
    | client =>
        exact ⟨⟨by simp, by simp [ctor], by simp [ctor, sentUserMsgs, sentMsgs]⟩, fun _ => rfl,
          fun _ => rfl⟩
  have hserver : ServerEntry (none, c) := by
    apply h.invariant ServerEntry ?_ (fun _ _ hinv heff => heff.serverEntry hinv)
    intro args
    cases args <;> exact ⟨fun _ => Nat.zero_le 1, by simp, fun _ _ => rfl⟩
  have hfiled : Filed (none, c) :=
    h.invariant Filed filed_ctor (fun _ _ hinv heff => heff.filed hinv)
  constructor
  · intro hphase
    refine ⟨hclient.token hphase, hclient.only hphase, ?_⟩
    intro hlive
    have hkeys := (h.counted hlive).resequenced.delivered_keys
    rw [hclient.handedOn hphase] at hkeys
    have hnext : c.resequencer.next ≤ 1 := by
      by_contra hlt
      simp at hkeys
      omega
    exact hnext
  · exact hearly
  · exact hmsgs
  · exact hserver.pending
  · intro which q hq
    exact (hfiled.queued which q hq).nonempty
  · intro htrue hmem
    exact Nat.lt_irrefl _ ((hrsps htrue).below _ hmem)
  · intro htrue hphase hlive
    apply List.eq_nil_iff_forall_not_mem.2
    intro id hid
    exact (hrsps htrue).server hphase hlive id (AList.mem_keys.2 hid)

/-- No assertion that is looked at was recorded as failed. -/
def AssertionsHeld (rsps : Bool) (c : Channel H) : Prop :=
  ∀ a, a.watched rsps = true → .assertFailed a ∉ c.trace

/-- No failure before the change and none by it. -/
theorem FailsNone.held {rsps : Bool} {c c' : Channel H} (h : FailsNone rsps c c')
    (hheld : AssertionsHeld rsps c) : AssertionsHeld rsps c' := by
  rcases h with ⟨tr, htr, hnot⟩
  intro a ha hmem
  rw [htr] at hmem
  rcases List.mem_append.1 hmem with hmem | hmem
  · exact hheld a ha hmem
  · exact hnot a ha hmem

/-- The assertions of a run of which no step leaves an expectation behind, if they look at that. -/
theorem assertionsHeld_of_run {rsps : Bool} {args : CtorArgs} {ls : List (Label H)} {c : Channel H}
    (hmeets : Transition.Meets (step env) (fun c l => rsps = true → ¬ LeavesExpectation env c l)
      (ctor args) ls)
    (hrun : run env (ctor args) ls = some c) : AssertionsHeld rsps c := by
  let Inv : Channel H → Prop := fun c =>
    Reachable env c ∧ c.ExpectsLogInAtMost ∧ (rsps = true → c.ExpectsSent) ∧ AssertionsHeld rsps c
  have hstep : ∀ c l c', Inv c → (rsps = true → ¬ LeavesExpectation env c l) →
      step env c l = some c' → Inv c' := by
    rintro c l c' ⟨hreach, hmsgs, hrsps, hheld⟩ hnot hstep
    have hw := hreach.wellFormed
    have hnone := (hreach.guarded hmsgs hrsps).failsNone hw hstep
    exact ⟨hreach.step hstep, hmsgs.step hw hstep,
      fun htrue => (hrsps htrue).step hw (hnot htrue) hstep, hnone.held hheld⟩
  have hinit : Inv (ctor args) := by
    refine ⟨⟨args, [], rfl⟩, ?_, ?_, ?_⟩
    · intro _
      cases args <;> exact Nat.zero_le _
    · intro _
      cases args <;> exact ⟨by simp [ctor], by simp [ctor]⟩
    · intro a _
      cases args <;> simp [ctor]
  exact (hmeets.invariant Inv hstep hinit hrun).2.2.2

/--
In every run the assertions hold about what is sent, received and cached while logging
in; and those about the responses that are expected hold as well, unless a request that
was refused while logging in left its expectation behind.
-/
theorem assertions_hold {args : CtorArgs} {ls : List (Label H)} {c : Channel H}
    (hrun : run env (ctor args) ls = some c) :
    (∀ a, a.ofPhases = true → .assertFailed a ∉ c.trace) ∧
      (Transition.Meets (step env) (fun c l => ¬ LeavesExpectation env c l) (ctor args) ls →
        ∀ a, a.ofResponses = true → .assertFailed a ∉ c.trace) := by
  constructor
  · have hall : Transition.Meets (step env) (fun _ _ => True) (ctor args) ls :=
      Transition.meets_of_forall (step env) (ctor args) fun _ _ => trivial
    have hmeets := hall.imp (Q := fun c l => false = true → ¬ LeavesExpectation env c l)
      (fun _ => True) (fun _ _ _ _ _ _ => trivial) (fun _ _ _ _ hfalse => by cases hfalse) trivial
    intro a ha
    exact assertionsHeld_of_run hmeets hrun a (by simp [Assertion.watched, ha])
  · intro hmeets
    have hmeets' := hmeets.imp (Q := fun c l => true = true → ¬ LeavesExpectation env c l)
      (fun _ => True) (fun _ _ _ _ _ _ => trivial) (fun _ _ _ hnot _ => hnot) trivial
    intro a ha
    exact assertionsHeld_of_run hmeets' hrun a (by simp [Assertion.watched, ha])

/-- A client logs in, and no assertion about that fails. -/
theorem assertions_hold_client :
    ∃ c : Channel Unit,
      run (.reference .blobPipeOnly) (ctor .client) (logInRun ++ [.rcv .front (.ok ⟨none, [7]⟩)]) =
        some c ∧
      c.phase = .loggedIn ∧ .assertFailed .logInRequestNotExpecting ∉ c.trace ∧
      .assertFailed .responseExpectationDuplicate ∉ c.trace := by
  let ls : List (Label Unit) := logInRun ++ [.rcv .front (.ok ⟨none, [7]⟩)]
  let P : Channel Unit → Label Unit → Prop := fun c l =>
    c.channel.sendingEnded = false ∧ l.requestsUnsolicited = true ∧ c.phase ≠ .srvLogIn
  have hplain : Transition.Meets (step (.reference .blobPipeOnly)) P (ctor .client) ls := by
    decide +kernel
  have hmeets : Transition.Meets (step (.reference .blobPipeOnly))
      (fun c l => ¬ LeavesExpectation (.reference .blobPipeOnly) c l) (ctor .client) ls := by
    apply hplain.imp (fun _ => True) (fun _ _ _ _ _ _ => trivial) ?_ trivial
    rintro c l _ ⟨hopen, hrequest, hphase⟩ hleaves
    cases l with
    | call x =>
        cases x with
        | asyncRequest msg orig out f =>
            rcases hleaves.2.2 with hrefuses | hend
            · have horig : orig.isNone = true := hrequest
              simp [logInRefuses, hphase, Option.isNone_iff_eq_none.1 horig] at hrefuses
            · simp [hend.2.2.2] at hopen
        | _ => exact hleaves
    | _ => exact hleaves
  have hrun : ((run (.reference .blobPipeOnly) (ctor .client) ls).any fun c =>
      c.phase = .loggedIn) = true := by
    decide +kernel
  rcases (Option.any_eq_true _ _).1 hrun with ⟨c, hc, hphase⟩
  have hheld := assertions_hold hc
  exact ⟨c, hc, of_decide_eq_true hphase, hheld.1 _ rfl, hheld.2 hmeets _ rfl⟩

end Channel
end StrucTransport
