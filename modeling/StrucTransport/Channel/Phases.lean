import StrucTransport.Channel.EffectStep
import StrucTransport.Channel.Sequence

/-!
# Phases and tokens

The phase changes together with what it stands for: the server keeps its token
when it logs the client in, and the client takes over a token when it is logged
in.  Nothing else touches either of them.

Main results:

- Theorem {lit}`Effect.phaseMove`: the three ways an effect can concern the
  phase and the token.
- Theorem {lit}`step_phaseMove`: the same for a step.
-/

namespace StrucTransport

variable {H : Type}

namespace Channel

variable {env : Env}

/-- How the phase and the session token change: not at all, or at the end of the log-in. -/
inductive PhaseMove (c c' : Channel H) : Prop where
  | same (phase : c'.phase = c.phase) (token : c'.sessionToken = c.sessionToken)
  | server (before : c.phase = .srvLogIn) (phase : c'.phase = .loggedIn)
      (token : c'.sessionToken = c.sessionToken)
  | client (before : c.phase = .cliLogIn) (phase : c'.phase = .loggedIn)
      (token : c'.sessionToken.isNil = false)

namespace PhaseMove

/-- No change at all. -/
theorem refl (c : Channel H) : PhaseMove c c :=
  .same rfl rfl

/-- The log-in ends once. -/
theorem trans {c₁ c₂ c₃ : Channel H} (h : PhaseMove c₁ c₂) (h' : PhaseMove c₂ c₃) :
    PhaseMove c₁ c₃ := by
  cases h with
  | same phase token =>
      cases h' with
      | same phase' token' => exact .same (phase'.trans phase) (token'.trans token)
      | server before' phase' token' =>
          exact .server (phase ▸ before') phase' (token'.trans token)
      | client before' phase' token' => exact .client (phase ▸ before') phase' token'
  | server before phase token =>
      cases h' with
      | same phase' token' => exact .server before (phase'.trans phase) (token'.trans token)
      | server before' phase' token' => simp [phase] at before'
      | client before' phase' token' => simp [phase] at before'
  | client before phase token =>
      cases h' with
      | same phase' token' => exact .client before (phase'.trans phase) (token' ▸ token)
      | server before' phase' token' => simp [phase] at before'
      | client before' phase' token' => simp [phase] at before'

/-- A phase in which the channel is not logged in was there before. -/
theorem phase_eq {c c' : Channel H} (h : PhaseMove c c') (hphase : c'.phase ≠ .loggedIn) :
    c'.phase = c.phase := by
  cases h with
  | same phase token => exact phase
  | server before phase token => exact absurd phase hphase
  | client before phase token => exact absurd phase hphase

/-- A channel that is logged in stays logged in, with its token. -/
theorem loggedIn {c c' : Channel H} (h : PhaseMove c c') (hphase : c.phase = .loggedIn) :
    c'.phase = .loggedIn ∧ c'.sessionToken = c.sessionToken := by
  cases h with
  | same phase token => exact ⟨phase.trans hphase, token⟩
  | server before phase token => simp [hphase] at before
  | client before phase token => simp [hphase] at before

end PhaseMove

/-- No effect concerns the phase or the token but the two that end the log-in. -/
theorem Effect.phaseMove {p p' : Option MsgIn × Channel H} (h : Effect env p p') :
    PhaseMove p.2 p'.2 := by
  cases h with
  | startOps fresh =>
      rename_i c
      rcases startOps_spec env c fresh with ⟨t, ch, neg, hc, _⟩
      rw [hc]
      exact .same rfl rfl
  | setRcvPipe slot pipe started negOk mayRead => cases slot <;> exact .same rfl rfl
  | negotiate v va receiving live fresh =>
      rename_i c
      rcases computeNegotiatedProtoVers_frame env c v va with ⟨ver, verAux, tr, hc, _⟩
      rw [hc]
      exact .same rfl rfl
  | sendUser msg orig started live phase sendable logIn request =>
      rename_i c
      rcases sendUser_cases c msg ((orig.map MsgIn.idOrNone).getD 0) sendable with
        ⟨e, t, accepted, _, hc⟩ | ⟨t, _, _, hc⟩ | ⟨t, _, _, _, hc⟩ <;> rw [hc]
      · exact .same rfl rfl
      · exact .same rfl rfl
      · by_cases hsrv : c.phase = .srvLogIn
        · exact .server hsrv (if_pos hsrv) rfl
        · exact .same (if_neg hsrv) rfl
  | informPeer m receiving live phase =>
      rename_i c
      rcases informPeer_frame env c m receiving.protoNegOk phase with ⟨t, ch, tr, hc, _⟩
      rw [hc]
      exact .same rfl rfl
  | acceptNext m token phase receiving live id idPos admitted =>
      cases admitted with
      | loggedIn phase token => exact .same phase.symm rfl
      | server phase token first unsolicited expected => exact .same phase.symm rfl
      | client phase token first rsp requested => exact .client phase rfl token
  | skip t rest polling unset => cases t <;> exact .same rfl rfl
  | afterHandler t rest polling => cases t <;> exact .same rfl rfl
  | _ => exact .same rfl rfl

/-- A sequence of effects ends the log-in at most once. -/
theorem Effects.phaseMove {p p' : Option MsgIn × Channel H} (h : Effects env p p') :
    PhaseMove p.2 p'.2 :=
  h.invariant (fun p' => PhaseMove p.2 p'.2) (fun _ _ hinv heff => hinv.trans heff.phaseMove)
    (.refl p.2)

/-- A step changes phase and token only by logging in. -/
theorem step_phaseMove {c c' : Channel H} {l : Label H} (hw : c.WellFormed)
    (h : step env c l = some c') : PhaseMove c c' :=
  (step_effects hw h).phaseMove

end Channel
end StrucTransport
