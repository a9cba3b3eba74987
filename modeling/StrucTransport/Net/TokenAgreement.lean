import StrucTransport.Net.Duplex
import StrucTransport.Property.Tokens

/-!
# Session-token agreement

The server knows the session token from the start, and is logged in as soon as
its response, which carries it, is on a pipe.  The client learns the token from
that response.  So whenever the client is logged in, the server is, and they have
one token.

Main results:

- Theorem {lit}`Agrees.step`: every step of either peer keeps the agreement.
- Theorem {lit}`session_token_agreement`: phases, tokens and dispatched messages
  of a channel with any peer, and the agreement of the two ends of a connection.
-/

namespace StrucTransport

variable {H : Type}

namespace Duplex

variable {conn : Connection} {token : SessionToken}

/-- A server that draws the token, and a client. -/
def logInArgs (token : SessionToken) : Side → CtorArgs
  | .left => .server token
  | .right => .client

/-- The client is logged in only if the server is, and has its token. -/
structure Agrees (conn : Connection) (token : SessionToken) (d : Duplex H) : Prop where
  server : Channel.Owns (conn.env .left) token (d.peer .left)
  client : (d.peer .right).phase = .loggedIn →
    (d.peer .left).phase = .loggedIn ∧ (d.peer .right).sessionToken = token

/-- The message that logs the client in was sent by the server. -/
theorem Projected.logsIn {ls : List (Side × Label H)} {l : Label H} {d : Duplex H} {c : Channel H}
    {args : Side → CtorArgs} (h : Projected conn args (ls ++ [(.right, l)]) d)
    (hserver : Channel.Owns (conn.env .left) token (d.peer .left))
    (hrun : Channel.run (conn.env .right) (Channel.ctor (args .right)) (labelsOf .right ls) = some c)
    {slot : PipeSlot} {m : MsgIn} (hm : c.passedOn (conn.env .right) slot l = some m) :
    (d.peer .left).sentMsgs ≠ [] ∧ m.sessionToken = token := by
  rcases passedMsgs_sent h .right slot with ⟨fs, hfs, hpassed⟩
  rw [labelsOf_append, if_pos rfl, Channel.passedMsgs_concat hrun, hm] at hpassed
  have hlast : m ∈ Channel.passedMsgs (conn.env .right) slot (Channel.ctor (args .right))
      (labelsOf .right ls) ++ [m] := by simp
  rcases List.mem_iff_getElem.1 hlast with ⟨i, hi, hget⟩
  have hlt : i < fs.length := hpassed.length_eq ▸ hi
  rcases (List.forall₂_iff_get.1 hpassed).2 i hlt hi with ⟨token', hheader, harrives⟩
  have hmem : fs[i] ∈ (d.peer .left).sentMsgs := by
    rcases hfs with rfl | ⟨pipe, _, hpfx⟩
    · cases hlt
    · exact List.mem_of_mem_filter (hpfx.subset (List.getElem_mem hlt))
  have htoken : token' = token := hheader.token_eq (hserver.headers _ hmem)
  refine ⟨List.ne_nil_of_mem hmem, ?_⟩
  have hm' : m = arrival (conn.env .left) token' fs[i] := hget.symm.trans harrives
  rw [hm', ← htoken]
  unfold arrival Channel.withBody
  split <;> rfl

/-- A client is never in the phase of a server that logs in. -/
theorem Projected.client_phase {ls : List (Side × Label H)} {d : Duplex H}
    (h : Projected conn (logInArgs token) ls d) : (d.peer .right).phase ≠ .srvLogIn := by
  intro hsrv
  have hmove := Channel.run_phaseMove (Channel.wellFormed_ctor .client) (h.run .right)
  have hkept := hmove.phase_eq (by simp [hsrv])
  rw [hsrv] at hkept
  cases hkept

/-- Every step of either peer keeps the agreement. -/
theorem Agrees.step {ls : List (Side × Label H)} {l : Side × Label H} {d d' : Duplex H}
    (h : Agrees conn token d) (hproj : Projected conn (logInArgs token) ls d)
    (hstep : d.step conn l = some d') : Agrees conn token d' := by
  rcases l with ⟨side, l⟩
  have hproj' := hproj.step hstep
  rcases step_cases hstep with ⟨hstepped, _⟩
  cases side with
  | left =>
      have htrans := Channel.transmitting_of_run (hproj.run .left)
      have hserver' := h.server.step htrans hstepped.peer
      refine ⟨hserver', ?_⟩
      intro hclient
      have hsame : d'.peer .right = d.peer .right := hstepped.other
      rw [hsame] at hclient ⊢
      rcases h.client hclient with ⟨hphase, htoken⟩
      have hmove := Channel.step_phaseMove htrans.wellFormed hstepped.peer
      exact ⟨(hmove.loggedIn hphase).1, htoken⟩
  | right =>
      have hsame : d'.peer .left = d.peer .left := hstepped.other
      have hserver' : Channel.Owns (conn.env .left) token (d'.peer .left) := by
        rw [hsame]
        exact h.server
      refine ⟨hserver', ?_⟩
      intro hclient
      have hmove := Channel.step_phaseMove (hproj.reachable .right).wellFormed hstepped.peer
      cases hmove with
      | same phase token =>
          rw [hsame, token]
          exact h.client (phase.symm.trans hclient)
      | server before phase token => exact absurd before hproj.client_phase
      | client before phase token =>
          rcases Channel.step_logsIn hstepped.peer before hclient with ⟨slot, m, hm, htoken⟩
          rcases hproj'.logsIn hserver' (hproj.run .right) hm with ⟨hsent, hcarried⟩
          exact ⟨hserver'.loggedIn hsent, htoken.trans hcarried⟩

/-- Before the log-in the client has no token. -/
theorem agrees_ctor (conn : Connection) (token : SessionToken) :
    Agrees conn token (ctor (logInArgs token) : Duplex H) where
  server := by
    have hown : (CtorArgs.server token).ownToken = some token := rfl
    exact Channel.owns_ctor (conn.env .left) hown
  client := by simp [ctor, logInArgs, Channel.ctor]

/-- After every run the client has no token, or that of the server. -/
theorem agrees_of_run {ls : List (Side × Label H)} {d : Duplex H}
    (hrun : run conn (ctor (logInArgs token)) ls = some d) : Agrees conn token d := by
  refine Transition.run_history (fun _ d => Agrees conn token d) (agrees_ctor conn token) ?_ hrun
  intro ls d l d' hrun hinv hstep
  exact hinv.step (projected_of_run hrun) hstep

/--
After any run against any peer, given that a server draws a token that is not
nil: the token is nil exactly while a client logs in; from here on the phase and
the token change at most once; and the messages that a step hands on while logged
in carry the token.  And of a server and a client connected to each other: when
the client is logged in, so is the server, and both have the same token.
-/
theorem session_token_agreement :
    (∀ (env : Env) (args : CtorArgs) (ls : List (Label H)) (c : Channel H),
      (∀ token, args = .server token → token.isNil = false) →
      Channel.run env (Channel.ctor args) ls = some c →
      (c.sessionToken.isNil = true ↔ c.phase = .cliLogIn) ∧
      (∀ ls' c', Channel.run env c ls' = some c' → c.PhaseOnce c' ∧ c.TokenOnce c') ∧
      ∀ l c', Channel.step env c l = some c' → ∃ ms, c'.handedOn = c.handedOn ++ ms ∧
        (c'.phase = .loggedIn → ∀ m ∈ ms, m.sessionToken = c'.sessionToken)) ∧
    ∀ (conn : Connection) (token : SessionToken) (ls : List (Side × Label H)) (d : Duplex H),
      token.isNil = false → run conn (ctor (logInArgs token)) ls = some d →
      (d.peer .right).phase = .loggedIn →
      (d.peer .left).phase = .loggedIn ∧
        (d.peer .right).sessionToken = (d.peer .left).sessionToken ∧
        (d.peer .left).sessionToken.isNil = false := by
  refine ⟨?_, ?_⟩
  · intro env args ls c hserver hrun
    have hreach : Channel.Reachable env c := ⟨args, ls, hrun⟩
    have hfits : c.TokenFits :=
      (Channel.run_phaseMove (Channel.wellFormed_ctor args) hrun).tokenFits
        (Channel.tokenFits_ctor hserver)
    refine ⟨hfits, ?_, ?_⟩
    · intro ls' c' hrun'
      have hmove := Channel.run_phaseMove hreach.wellFormed hrun'
      exact ⟨hmove.phaseOnce, hmove.tokenOnce hfits⟩
    · intro l c' hstep
      exact Channel.step_handsOn hreach hstep
  · intro conn token ls d nonNil hrun hclient
    have hagrees := agrees_of_run hrun
    rcases hagrees.client hclient with ⟨hphase, htoken⟩
    have hown := hagrees.server.sessionToken
    exact ⟨hphase, htoken.trans hown.symm, by rw [hown, nonNil]⟩

/-- The log-in request and its response, over a blob pipe. -/
def logInRequest : SentMsg :=
  (msgMdtOut .little .null 0 1 1, some (ReferenceCapnp.msgOut none 5))

/-- The log-in response that the server sends. -/
def logInResponse : SentMsg :=
  (msgMdtOut .little ReferenceCapnp.token 1 1 1, some (ReferenceCapnp.msgOut none 6))

/-- What a peer receives: the negotiation message, and the message that was sent. -/
def receipts (side : Side) (f : SentMsg) : List (Side × Label Unit) :=
  (Channel.protoNegPayload (.reference .blobPipeOnly) ::
    (f.frame (.reference .blobPipeOnly)).items).map fun p => (side, .rcv .front (.ok p))

/-- The client makes its request, and the server responds to it in its handler. -/
def logInExchange : List (Side × Label Unit) :=
  [(.right, .call .startOps), (.right, .call (.startAndPoll ())),
    (.right, .call (.asyncRequest (ReferenceCapnp.msgOut none 5) none none ())),
    (.left, .call .startOps), (.left, .call (.expectLogInRequest 5 ())),
    (.left, .call (.startAndPoll ()))] ++ receipts .left logInRequest ++
  [(.left, .call (.send (ReferenceCapnp.msgOut none 6)
      (some (arrival (.reference .blobPipeOnly) .null logInRequest)))),
    (.left, .handlerReturned)] ++ receipts .right logInResponse

/-- After the exchange both peers are logged in, and they agree on the token. -/
theorem session_token_agreement_exchanged :
    ∃ d : Duplex Unit, run (.reference .blobPipeOnly) (ctor (logInArgs ReferenceCapnp.token))
        logInExchange = some d ∧
      (d.peer .right).phase = .loggedIn ∧ (d.peer .left).phase = .loggedIn ∧
      (d.peer .right).sessionToken = (d.peer .left).sessionToken ∧
      (d.peer .left).sessionToken.isNil = false ∧
      ((d.peer .left).sessionToken.isNil = true ↔ (d.peer .left).phase = .cliLogIn) := by
  have hruns : ((run (.reference .blobPipeOnly) (ctor (logInArgs ReferenceCapnp.token))
      logInExchange).any fun d => (d.peer .right).phase = .loggedIn) = true := by
    decide +kernel
  rcases (Option.any_eq_true _ _).1 hruns with ⟨d, hrun, hd⟩
  have hclient : (d.peer .right).phase = .loggedIn := of_decide_eq_true hd
  have hagreement := session_token_agreement (H := Unit)
  rcases hagreement.2 _ _ _ d (by decide) hrun hclient with ⟨hserver, htoken, hnil⟩
  have hproj := projected_of_run hrun
  have hown : ∀ token, logInArgs ReferenceCapnp.token .left = .server token →
      token.isNil = false := by
    intro token heq
    cases heq
    decide
  exact ⟨d, hrun, hclient, hserver, htoken, hnil,
    (hagreement.1 _ _ _ _ hown (hproj.run .left)).1⟩

end Duplex
end StrucTransport
