import StrucTransport.Channel.EffectStep

/-!
# What a refused send changes

{lit}`send()` and {lit}`async_request()` may return false at six places.  Some
of them come after the ID was generated, the response expectation registered and
{lit}`*id_unless_one_off` written, and each undoes what it thinks of.

Main results:

- Theorem {lit}`refused_send_noop_iff`: a call that is refused is a no-op exactly
  if no registration of it shows, and it did not get as far as the owned channel.
-/

namespace StrucTransport
namespace Channel

variable {H : Type} (env : Env)

/-! ## The places a call is refused at -/

/-- The call passes every check made before anything is registered. -/
def RegistersSend (c : Channel H) (msg : MsgOut) (onRspFuncOrNull : Option H) : Prop :=
  sendPrecluded env c msg = false ∧ (c.sndMsgNextId = 1 ∨ c.phase = .loggedIn) ∧
    (c.phase = .cliLogIn → onRspFuncOrNull.isSome)

/-- Registering the request adds an expectation or changes what the out-arg holds. -/
def RegistrationShows (c : Channel H) (onRspFuncOrNull : Option H) (idUnlessOneOff : Option Nat) :
    Prop :=
  onRspFuncOrNull.isSome ∧
    (c.sndMsgNextId ∉ c.rcvExpectingResponseMap ∨
      ∃ id, idUnlessOneOff = some id ∧ id ≠ c.sndMsgNextId)

/-- The message gets as far as the owned channel, on which sending was ended. -/
def MeetsEndOfSending (c : Channel H) (msg : MsgOut) : Prop :=
  c.protoNegErrCodeOrOk = none ∧ env.mdtEmitError c.tick = none ∧ msg.emitError = none ∧
    c.channel.sendingEnded = true

/-- Where the call is refused, if it is, it is refused before it left a mark. -/
def RefusedEarly (c : Channel H) (msg : MsgOut) (originatingMsgOrNull : Option MsgIn)
    (onRspFuncOrNull : Option H) (idUnlessOneOff : Option Nat) : Prop :=
  RegistersSend env c msg onRspFuncOrNull →
    if logInRefuses c.phase originatingMsgOrNull then
      ¬ RegistrationShows c onRspFuncOrNull idUnlessOneOff
    else ¬ MeetsEndOfSending env c msg

/-- What a refused call is to leave alone. -/
structure SendUnchanged (c c' : Channel H) : Prop where
  sndMsgNextId : c'.sndMsgNextId = c.sndMsgNextId
  rcvExpectingResponseMap : c'.rcvExpectingResponseMap = c.rcvExpectingResponseMap
  phase : c'.phase = c.phase
  channelErrCodeOrOk : c'.channelErrCodeOrOk = c.channelErrCodeOrOk

/--
The call does nothing if it returns false: no code, the out-arg and the channel
as they were, and the same result from trying it again.
-/
def RefusalNoOp (attempt : Channel H → Channel H × SendResult) (c : Channel H)
    (idUnlessOneOff : Option Nat) : Prop :=
  (attempt c).2.ret = false →
    (attempt c).2.errCode = none ∧ (attempt c).2.idUnlessOneOff = idUnlessOneOff ∧
      SendUnchanged c (attempt c).1 ∧ (attempt (attempt c).1).2 = (attempt c).2

variable {env} {c : Channel H} {msg : MsgOut} {orig : Option MsgIn} {f : Option H}
  {out : Option Nat}

/-- Before anything is registered, a refusal leaves a record at most. -/
theorem sendOrRequest_of_not_registers (orig : Option MsgIn) (out : Option Nat)
    (h : ¬ RegistersSend env c msg f) :
    ∃ tr, c.sendOrRequest env msg orig f out = ({ c with trace := tr }, ⟨false, none, out⟩) := by
  unfold sendOrRequest
  split
  · exact ⟨c.trace, rfl⟩
  · rename_i hpre
    have hpre₁ : sendPrecluded env c msg = false := by simpa using hpre
    unfold sendImpl
    simp only
    split
    · exact ⟨_, rfl⟩
    · rename_i hid
      have hid₁ : c.sndMsgNextId = 1 ∨ c.phase = .loggedIn := by
        by_contra hnot
        exact hid (not_or.1 hnot)
      split
      · exact ⟨c.trace, rfl⟩
      · rename_i hcli
        refine absurd ⟨hpre₁, hid₁, ?_⟩ h
        intro hphase
        by_contra hnone
        exact hcli ⟨by simpa using hnone, hphase⟩

/-- The log-in phases refuse only after the request was registered. -/
theorem sendOrRequest_of_logInRefuses (out : Option Nat) (h : RegistersSend env c msg f)
    (hlog : logInRefuses c.phase orig = true) :
    c.sendOrRequest env msg orig f out =
      (c.registerRequest c.sndMsgNextId f out,
        ⟨false, none, idUnlessOneOffAfter c.sndMsgNextId f out⟩) := by
  rcases h with ⟨hpre, hid, hcli⟩
  have hid₁ : ¬ (c.sndMsgNextId ≠ 1 ∧ c.phase ≠ .loggedIn) := not_and_or.2 (by simpa using hid)
  have hcli₁ : ¬ (f.isNone = true ∧ c.phase = .cliLogIn) := by
    rintro ⟨hnone, hphase⟩
    have hsome := hcli hphase
    simp_all
  have hphase : (c.registerRequest c.sndMsgNextId f out).phase = c.phase := by
    cases f <;> rfl
  simp only [sendOrRequest, hpre, sendImpl]
  rw [if_neg hid₁, if_neg hcli₁, registerRequest_counted]
  simp only [hphase, hlog, if_true, Bool.false_eq_true, if_false]
  cases f <;> rfl

/-- What {lit}`send_impl()` hands on to {lit}`send_core()`. -/
theorem sendOrRequest_of_attempted (out : Option Nat) (h : RegistersSend env c msg f)
    (hlog : logInRefuses c.phase orig = false) :
    ∃ m tr, c.sendOrRequest env msg orig f out =
      let c₁ : Channel H := { c with sndMsgNextId := c.sndMsgNextId + 1
                                     rcvExpectingResponseMap := m, trace := tr }
      let r := c₁.sendCore env (c.userMdt env msg ((orig.map MsgIn.idOrNone).getD 0))
        (some msg) false
      let result : SendResult := ⟨r.2.1, r.2.2, idUnlessOneOffAfter c.sndMsgNextId f out⟩
      (r.1.logEmitted result, result) := by
  rcases h with ⟨hpre, hid, hcli⟩
  have hid₁ : ¬ (c.sndMsgNextId ≠ 1 ∧ c.phase ≠ .loggedIn) := not_and_or.2 (by simpa using hid)
  have hcli₁ : ¬ (f.isNone = true ∧ c.phase = .cliLogIn) := by
    rintro ⟨hnone, hphase⟩
    have hsome := hcli hphase
    simp_all
  rcases registerRequest_frame c c.sndMsgNextId f out with ⟨m, tr, hframe, _⟩
  refine ⟨m, c.trace ++ tr, ?_⟩
  simp only [sendOrRequest, hpre, sendImpl]
  rw [if_neg hid₁, if_neg hcli₁, registerRequest_counted, hframe]
  simp only [hlog, Bool.false_eq_true, if_false]
  rfl

/-- As long as sending was not ended no low-level send says that it was. -/
theorem sendBlobsOut_open {c : Channel H} (mdt : StructuredMessage) (msg : Option MsgOut)
    (blobsOut : List Blob) (ignoreErr : Bool) (hopen : c.channel.sendingEnded = false) :
    (c.sendBlobsOut env mdt msg blobsOut ignoreErr).2.1 = true := by
  unfold sendBlobsOut
  simp only
  split
  · rename_i heq
    rcases sendPayloads_spec env
      (c.assertThat (env.pipes.hasNativeHandlePipe || (msg.bind MsgOut.nativeHandleOrNull).isNone)
        .handleWithoutHandlesPipe)
      (outPipeFor env.pipes (msg.bind MsgOut.nativeHandleOrNull))
      (payloads (hndlFor env.pipes (msg.bind MsgOut.nativeHandleOrNull)) blobsOut) with
      ⟨t, accepted, _, _, _, hfinished, _⟩
    rw [heq] at hfinished
    have hended : c.channel.sendingEnded = true := (hfinished rfl).2
    simp [hopen] at hended
  · rfl
  · rfl

/-- Only the end of sending has {lit}`send_core()` refuse a user message. -/
theorem sendCore_ret_eq_false_iff (env : Env) (c : Channel H) (mdt : StructuredMessage)
    (msg : MsgOut) :
    (c.sendCore env mdt (some msg) false).2.1 = false ↔ MeetsEndOfSending env c msg := by
  unfold sendCore MeetsEndOfSending
  cases hneg : c.protoNegErrCodeOrOk with
  | some e => simp
  | none =>
      cases hmdt : env.mdtEmitError c.tick with
      | some e => simp
      | none =>
          cases hser : msg.emitError with
          | some e => simp [msgBlobs, MsgOut.emitSerialization, hser]
          | none =>
              simp only [msgBlobs, MsgOut.emitSerialization, hser, true_and]
              cases hended : c.channel.sendingEnded with
              | true =>
                  simp [sendBlobsOut, payloads, sendPayloads, lowLevelSend, assertThat, tickUp,
                    hended]
              | false =>
                  rw [sendBlobsOut_open]
                  · simp
                  · simpa [assertThat, tickUp] using hended

/-- A refusal by {lit}`send_core()` comes with a code. -/
theorem sendCore_errCode_of_refused {c : Channel H} {mdt : StructuredMessage} {msg : MsgOut}
    (h : (c.sendCore env mdt (some msg) false).2.1 = false) :
    (c.sendCore env mdt (some msg) false).2.2 = some .sendsFinishedCannotSend := by
  have hout := sendCore_outcome env c mdt (some msg) false
  generalize sendCore env c mdt (some msg) false = r at hout h
  cases hout with
  | negotiationError e saved => simp at h
  | failed e t accepted asserts negOk part known cause => simp at h
  | finished t negOk ended => rfl
  | sent t negOk serializable notEnded => simp at h

/-- Registering a request shows nowhere exactly if it was registered under its ID before. -/
theorem registerRequest_unchanged_iff (c : Channel H) (f : Option H) (out : Option Nat) :
    ((c.registerRequest c.sndMsgNextId f out).rcvExpectingResponseMap =
        c.rcvExpectingResponseMap ∧ idUnlessOneOffAfter c.sndMsgNextId f out = out) ↔
      ¬ RegistrationShows c f out := by
  cases f with
  | none => simp [registerRequest, idUnlessOneOffAfter, RegistrationShows]
  | some f =>
      have hmap : (c.registerRequest c.sndMsgNextId (some f) out).rcvExpectingResponseMap =
          c.rcvExpectingResponseMap ↔ c.sndMsgNextId ∈ c.rcvExpectingResponseMap := by
        rw [registerRequest, emplaceResponse_rcvExpectingResponseMap]
        by_cases hmem : c.sndMsgNextId ∈ c.rcvExpectingResponseMap
        · simp [hmem]
        · rw [if_neg hmem]
          refine iff_of_false ?_ hmem
          intro heq
          rw [← heq] at hmem
          exact hmem ((AList.mem_insert _).2 (Or.inl rfl))
      rw [hmap]
      cases out with
      | none => simp [idUnlessOneOffAfter, RegistrationShows]
      | some id =>
          simp only [idUnlessOneOffAfter, RegistrationShows, Option.isSome_some, true_and,
            Option.some.injEq, exists_eq_left', not_or, not_not]
          rw [eq_comm (a := id)]

/-! ## When a refusal is a no-op -/

/-- A send or request that returns false changes nothing exactly if it was refused early. -/
theorem sendOrRequest_noop_iff (c : Channel H) (msg : MsgOut) (orig : Option MsgIn) (f : Option H)
    (out : Option Nat) :
    RefusalNoOp (fun c => c.sendOrRequest env msg orig f out) c out ↔
      RefusedEarly env c msg orig f out := by
  by_cases hreg : RegistersSend env c msg f
  · cases hlog : logInRefuses c.phase orig with
    | true =>
        have hcall := sendOrRequest_of_logInRefuses out hreg hlog
        have hearly : RefusedEarly env c msg orig f out ↔ ¬ RegistrationShows c f out := by
          simp [RefusedEarly, hreg, hlog]
        rw [hearly, ← registerRequest_unchanged_iff]
        constructor
        · intro hnoop
          have hres := hnoop (by simp only [hcall])
          simp only [hcall] at hres
          exact ⟨hres.2.2.1.rcvExpectingResponseMap, hres.2.1⟩
        · rintro ⟨hmap, hout⟩ _
          rcases registerRequest_frame c c.sndMsgNextId f out with ⟨m, tr, hframe, _⟩
          have hm : m = c.rcvExpectingResponseMap := by
            rw [hframe] at hmap
            exact hmap
          subst hm
          rw [hframe] at hcall
          simp only [hcall]
          refine ⟨trivial, hout, ⟨rfl, rfl, rfl, rfl⟩, ?_⟩
          have hreg₁ : RegistersSend env ({ c with trace := c.trace ++ tr } : Channel H) msg f :=
            hreg
          rw [sendOrRequest_of_logInRefuses out hreg₁ hlog]
    | false =>
        have hearly : RefusedEarly env c msg orig f out ↔ ¬ MeetsEndOfSending env c msg := by
          simp [RefusedEarly, hreg, hlog]
        rcases sendOrRequest_of_attempted out hreg hlog with ⟨m, tr, hcall⟩
        rw [hearly]
        constructor
        · intro hnoop hended
          have hrefused := (sendCore_ret_eq_false_iff env
            ({ c with sndMsgNextId := c.sndMsgNextId + 1, rcvExpectingResponseMap := m
                      trace := tr } : Channel H)
            (c.userMdt env msg ((orig.map MsgIn.idOrNone).getD 0)) msg).2 hended
          have hres := hnoop (by simp only [hcall]; exact hrefused)
          simp only [hcall] at hres
          have hcode := sendCore_errCode_of_refused hrefused
          exact absurd (hcode.symm.trans hres.1) (by simp)
        · intro hopen hret
          simp only [hcall] at hret
          exact absurd ((sendCore_ret_eq_false_iff env _ _ _).1 hret) hopen
  · refine iff_of_true ?_ (fun hreg₁ => absurd hreg₁ hreg)
    intro _
    rcases sendOrRequest_of_not_registers orig out hreg with ⟨tr, hcall⟩
    simp only [hcall]
    refine ⟨trivial, trivial, ⟨rfl, rfl, rfl, rfl⟩, ?_⟩
    have hreg₁ : ¬ RegistersSend env ({ c with trace := tr } : Channel H) msg f := hreg
    rcases sendOrRequest_of_not_registers orig out hreg₁ with ⟨tr₁, hcall₁⟩
    rw [hcall₁]

/--
A {lit}`send()` or {lit}`async_request()` that is refused is a no-op exactly if
it was refused before it left a mark.
-/
theorem refused_send_noop_iff (env : Env) (c : Channel H) (msg : MsgOut) (orig : Option MsgIn) :
    (RefusalNoOp (fun c => c.send env msg orig) c none ↔ RefusedEarly env c msg orig none none) ∧
      ∀ (out : Option Nat) (f : H),
        RefusalNoOp (fun c => c.asyncRequest env msg orig out f) c out ↔
          RefusedEarly env c msg orig (some f) out :=
  ⟨sendOrRequest_noop_iff c msg orig none none,
    fun out f => sendOrRequest_noop_iff c msg orig (some f) out⟩

/--
A send after {lit}`async_end_sending()` returns false with a code, and a refused
log-in response that was sent as a request stays registered.
-/
theorem refused_send_leaves_marks :
    (∃ c : Channel Unit, Reachable (.reference .blobPipeOnly) c ∧
      ¬ RefusalNoOp (fun c => c.send (.reference .blobPipeOnly) (ReferenceCapnp.msgOut none 7) none)
        c none) ∧
    ∃ c : Channel Unit, Reachable (.reference .blobPipeOnly) c ∧
      ¬ RefusalNoOp (fun c => c.asyncRequest (.reference .blobPipeOnly)
        (ReferenceCapnp.msgOut none 7) none none ()) c none := by
  constructor
  · have hrun : ((run (.reference .blobPipeOnly) (ctor .reference : Channel Unit)
        [.call .startOps, .call .asyncEndSending]).any fun c =>
          (c.send (.reference .blobPipeOnly) (ReferenceCapnp.msgOut none 7) none).2 =
            ⟨false, some .sendsFinishedCannotSend, none⟩) = true := by
      decide +kernel
    rcases (Option.any_eq_true _ _).1 hrun with ⟨c, hc, hres⟩
    have hres₁ := of_decide_eq_true hres
    refine ⟨c, ⟨_, _, hc⟩, ?_⟩
    intro hnoop
    have hcode := (hnoop (by simp only [hres₁])).1
    simp only [hres₁] at hcode
    simp at hcode
  · have hrun : ((run (.reference .blobPipeOnly)
        (ctor (.server ReferenceCapnp.token) : Channel Unit) [.call .startOps]).any fun c =>
          let r := c.asyncRequest (.reference .blobPipeOnly) (ReferenceCapnp.msgOut none 7)
            none none ()
          r.2.ret = false ∧ c.rcvExpectingResponseMap.keys = [] ∧
            r.1.rcvExpectingResponseMap.keys = [1]) = true := by
      decide +kernel
    rcases (Option.any_eq_true _ _).1 hrun with ⟨c, hc, hres⟩
    rcases of_decide_eq_true hres with ⟨hret, hbefore, hafter⟩
    refine ⟨c, ⟨_, _, hc⟩, ?_⟩
    intro hnoop
    rw [(hnoop hret).2.2.1.rcvExpectingResponseMap, hbefore] at hafter
    simp at hafter

end Channel
end StrucTransport
