import StrucTransport.Channel.Outstanding

/-!
# Negotiation comes first

The first message on each pipe is the peer's negotiation.  The first of them to
be processed has both negotiators compute their versions; the one on the other
pipe finds the version known, or the channel hosed.  The invariant says which of
the three happened so far, and that a pipe reads structured messages only if the
negotiators succeeded.

Main results:

- Theorem {lit}`Reachable.negotiatedFirst`: the invariant holds in every
  reachable state.
- Theorem {lit}`negotiation_first`: over whole runs, no structured message is
  processed on a pipe before negotiation, which each negotiator does once, and
  none is dispatched at all if it fails.
-/

namespace StrucTransport

variable {H : Type}

/-- The negotiator that was asked to compute the version, and the remote maximum it was given. -/
def Event.computed? : Event H → Option (Bool × Option Int)
  | .computedProtoVer aux remote => some (aux, remote)
  | _ => none

namespace Channel

variable {env : Env}

/-- The computations the negotiators were asked for, in order. -/
def computed (c : Channel H) : List (Bool × Option Int) :=
  c.trace.filterMap Event.computed?

/-- A change that does not concern negotiation computes no version. -/
theorem NegFrame.computed {c c' : Channel H} (h : NegFrame c c') : c'.computed = c.computed := by
  rcases h.trace with ⟨tr, htr, hneg⟩
  have hnone : tr.filterMap Event.computed? = [] := by
    rw [List.filterMap_eq_nil_iff]
    intro ev hev
    have hquiet := hneg ev hev
    cases ev <;> first | rfl | simp [isNegotiation] at hquiet
  rw [Channel.computed, htr, List.filterMap_append, hnone, List.append_nil]
  rfl

/-- A change that does not concern negotiation records no refusal of a negotiator. -/
theorem NegFrame.notRefused {c c' : Channel H} (h : NegFrame c c')
    (hnot : .assertFailed .negotiatorRefused ∉ c.trace) :
    .assertFailed .negotiatorRefused ∉ c'.trace := by
  rcases h.trace with ⟨tr, htr, hneg⟩
  intro hmem
  rw [htr] at hmem
  rcases List.mem_append.1 hmem with hmem | hmem
  · exact hnot hmem
  · have hquiet := hneg _ hmem
    simp [isNegotiation] at hquiet

/-! ## The invariant -/

/-- What became of negotiation so far. -/
inductive Negotiation (env : Env) (c : Channel H) : Prop where
  | pending (ver : c.negotiatedProtoVer = none) (verAux : c.negotiatedProtoVerAux = none)
      (computed : c.computed = [])
  | succeeded (v va : Option Int) (ver verAux : Int) (main : env.negotiate v = .ok ver)
      (aux : env.negotiate va = .ok verAux) (known : c.negotiatedProtoVer = some ver)
      (knownAux : c.negotiatedProtoVerAux = some verAux)
      (computed : c.computed = [(false, v), (true, va)])
  | mainFailed (v : Option Int) (e : ErrorCode) (hosed : c.Hosed)
      (main : env.negotiate v = .error e) (verAux : c.negotiatedProtoVerAux = none)
      (computed : c.computed = [(false, v)])
  | auxFailed (v va : Option Int) (e : ErrorCode) (hosed : c.Hosed)
      (aux : env.negotiate va = .error e) (verAux : c.negotiatedProtoVerAux = none)
      (computed : c.computed = [(false, v), (true, va)])

/-- A pipe reads structured messages only after both negotiators succeeded. -/
structure NegotiatedFirst (env : Env) (c : Channel H) : Prop where
  negotiation : Negotiation env c
  notRefused : .assertFailed .negotiatorRefused ∉ c.trace
  undispatched : c.negotiatedProtoVerAux = none → c.handedOn = [] ∧ c.acceptedMsgs = []
  reading : ∀ slot pipe kind, c.rcvPipe slot = some pipe → pipe.outstanding = some kind →
    kind ≠ .protoNeg → c.negotiatedProtoVerAux.isSome

namespace Negotiation

/-- A change that does not concern negotiation keeps what is known of it. -/
theorem of_frame {c c' : Channel H} (h : Negotiation env c) (hf : NegFrame c c')
    (herr : c.Hosed → c'.Hosed) : Negotiation env c' := by
  cases h with
  | pending ver verAux computed =>
      exact .pending (hf.negotiatedProtoVer.trans ver) (hf.negotiatedProtoVerAux.trans verAux)
        (hf.computed.trans computed)
  | succeeded v va ver verAux main aux known knownAux computed =>
      exact .succeeded v va ver verAux main aux (hf.negotiatedProtoVer.trans known)
        (hf.negotiatedProtoVerAux.trans knownAux) (hf.computed.trans computed)
  | mainFailed v e hosed main verAux computed =>
      exact .mainFailed v e (herr hosed) main (hf.negotiatedProtoVerAux.trans verAux)
        (hf.computed.trans computed)
  | auxFailed v va e hosed aux verAux computed =>
      exact .auxFailed v va e (herr hosed) aux (hf.negotiatedProtoVerAux.trans verAux)
        (hf.computed.trans computed)

/-- The auxiliary version is known only together with the main one. -/
theorem ver_isSome {c : Channel H} (h : Negotiation env c)
    (haux : c.negotiatedProtoVerAux.isSome) : c.negotiatedProtoVer.isSome := by
  cases h with
  | pending ver verAux computed => simp [verAux] at haux
  | succeeded v va ver verAux main aux known knownAux computed => simp [known]
  | mainFailed v e hosed main verAux computed => simp [verAux] at haux
  | auxFailed v va e hosed aux verAux computed => simp [verAux] at haux

/-- While the channel is live, the main version is known only together with the auxiliary one. -/
theorem aux_isSome {c : Channel H} (h : Negotiation env c) (hlive : c.channelErrCodeOrOk = none)
    (hver : c.negotiatedProtoVer.isSome) : c.negotiatedProtoVerAux.isSome := by
  cases h with
  | pending ver verAux computed => simp [ver] at hver
  | succeeded v va ver verAux main aux known knownAux computed => simp [knownAux]
  | mainFailed v e hosed main verAux computed => exact absurd hlive hosed
  | auxFailed v va e hosed aux verAux computed => exact absurd hlive hosed

/-- While the channel is live and the main version is not known, nothing was computed. -/
theorem pending_of_live {c : Channel H} (h : Negotiation env c)
    (hlive : c.channelErrCodeOrOk = none) (hver : c.negotiatedProtoVer = none) :
    c.negotiatedProtoVerAux = none ∧ c.computed = [] := by
  cases h with
  | pending ver verAux computed => exact ⟨verAux, computed⟩
  | succeeded v va ver verAux main aux known knownAux computed => simp [known] at hver
  | mainFailed v e hosed main verAux computed => exact absurd hlive hosed
  | auxFailed v va e hosed aux verAux computed => exact absurd hlive hosed

/-- Each negotiator was asked at most once. -/
theorem once {c : Channel H} (h : Negotiation env c) (aux : Bool) :
    c.computed.countP (fun x => x.1 = aux) ≤ 1 := by
  cases h with
  | pending ver verAux computed => simp [computed]
  | succeeded v va ver verAux main aux' known knownAux computed => cases aux <;> simp [computed]
  | mainFailed v e hosed main verAux computed => cases aux <;> simp [computed]
  | auxFailed v va e hosed aux' verAux computed => cases aux <;> simp [computed]

end Negotiation

/-! ## Computing the versions -/

/-- The outcomes of asking the negotiators for the first time. -/
theorem computeNegotiatedProtoVers_cases (env : Env) {c : Channel H} (v va : Option Int)
    (hver : c.negotiatedProtoVer = none) (haux : c.negotiatedProtoVerAux = none) :
    (∃ ver verAux, env.negotiate v = .ok ver ∧ env.negotiate va = .ok verAux ∧
      c.computeNegotiatedProtoVers env v va =
        ({ c with negotiatedProtoVer := some ver, negotiatedProtoVerAux := some verAux
                  trace := c.trace ++ [.computedProtoVer false v, .computedProtoVer true va] },
          none)) ∨
    (∃ e, env.negotiate v = .error e ∧
      c.computeNegotiatedProtoVers env v va =
        ({ c with trace := c.trace ++ [.computedProtoVer false v] }, some e)) ∨
    (∃ ver e, env.negotiate v = .ok ver ∧ env.negotiate va = .error e ∧
      c.computeNegotiatedProtoVers env v va =
        ({ c with negotiatedProtoVer := some ver
                  trace := c.trace ++ [.computedProtoVer false v, .computedProtoVer true va] },
          some e)) := by
  unfold computeNegotiatedProtoVers
  cases hmain : env.negotiate v with
  | error e => exact Or.inr (Or.inl ⟨e, rfl, by simp [assertThat, log, hver]⟩)
  | ok ver =>
      cases hsecond : env.negotiate va with
      | error e =>
          exact Or.inr (Or.inr ⟨ver, e, rfl, rfl, by simp [assertThat, log, hver, haux]⟩)
      | ok verAux =>
          exact Or.inl ⟨ver, verAux, rfl, rfl, by simp [assertThat, log, hver, haux]⟩

/-- Ending a read chain and polling. -/
theorem stopReading_negFrame (c : Channel H) (slot : PipeSlot) (pipe : MsgInPipe) :
    NegFrame c (c.stopReading slot pipe).handlersPoll :=
  (setRcvPipe_negFrame _ _ _).trans (handlersPoll_chainFrame _).toNegFrame

/-- Issuing a read. -/
theorem issueRead_negFrame (c : Channel H) (slot : PipeSlot) (pipe : MsgInPipe)
    (kind : ReadKind) : NegFrame c (c.issueRead slot pipe kind) :=
  (assertReadyToRead_negFrame c pipe kind).trans (setRcvPipe_negFrame _ _ _)

/-- A completed read does not concern negotiation, or it is the first one to be processed. -/
theorem Receipt.negotiation {c c' : Channel H} {slot : PipeSlot} {pipe : MsgInPipe}
    {kind : ReadKind} {result : RcvResult} (h : Receipt env c slot pipe kind result c') :
    NegFrame c c' ∨
    ∃ p c₁ e, kind = .protoNeg ∧ result = .ok p ∧ c.channelErrCodeOrOk = none ∧
      c.negotiatedProtoVer = none ∧
      c.computeNegotiatedProtoVers env (remoteProtoVers env p).1 (remoteProtoVers env p).2 =
        (c₁, e) ∧
      NegFrame c₁ c' ∧ (e.isSome → c'.Hosed) := by
  have herr : ∀ (c : Channel H) e, NegFrame c (c.handleNewError env e) :=
    fun c e => (handleNewError_chainFrame env c e).toNegFrame
  have htaken : ∀ {c₁ : Channel H} {m : MsgIn} {ok : Bool}, c.rcvStructNewMsgIn env m = (c₁, ok) →
      NegFrame c c₁ := by
    intro c₁ m ok htaken
    have hframe := rcvStructNewMsgIn_chainFrame env c m
    rw [htaken] at hframe
    exact hframe.toNegFrame
  have htick : ∀ c : Channel H, NegFrame c c.tickUp := fun c => (tickUp_chainFrame c).toNegFrame
  have hread : ∀ (c : Channel H) pipe kind,
      NegFrame c (c.issueRead slot pipe kind).handlersPoll := by
    intro c pipe kind
    exact (issueRead_negFrame c slot pipe kind).trans (handlersPoll_chainFrame _).toNegFrame
  cases h with
  | hosed kind result hosed => exact Or.inl (stopReading_negFrame c slot pipe)
  | error kind e live => exact Or.inl ((herr c e).trans (stopReading_negFrame _ slot pipe))
  | negotiatedBefore p live known => exact Or.inl (issueRead_negFrame c slot pipe .lead)
  | negotiated p c₁ live fresh computed =>
      exact Or.inr ⟨p, c₁, none, rfl, rfl, live, fresh, computed,
        issueRead_negFrame c₁ slot pipe .lead, by simp⟩
  | notNegotiated p c₁ e live fresh computed =>
      refine Or.inr ⟨p, c₁, some e, rfl, rfl, live, fresh, computed,
        (herr c₁ e).trans (stopReading_negFrame _ slot pipe), ?_⟩
      intro _
      rw [Hosed, stopReading_channelErr]
      simp
  | malformed kind p pipe' e live message stored =>
      exact Or.inl ((herr c e).trans (stopReading_negFrame _ slot pipe'))
  | segment kind p pipe₁ live message stored more allocated =>
      exact Or.inl ((htick c).trans (hread _ _ _))
  | noSegment kind p pipe₁ pipe' live message stored more notAllocated =>
      exact Or.inl (((htick c).trans (herr _ _)).trans (stopReading_negFrame _ slot pipe'))
  | refused kind p pipe₁ c₁ live message stored whole taken =>
      exact Or.inl ((htaken taken).trans (stopReading_negFrame _ slot pipe₁))
  | handled kind p pipe₁ c₁ live message stored whole taken allocated =>
      exact Or.inl (((htaken taken).trans (htick c₁)).trans (hread _ _ _))
  | handledNoSegment kind p pipe₁ pipe' c₁ live message stored whole taken notAllocated =>
      exact Or.inl ((((htaken taken).trans (htick c₁)).trans (herr _ _)).trans
        (stopReading_negFrame _ slot pipe'))

/-- A completed read of a negotiation message hands no message on. -/
theorem Receipt.protoNeg_seqFrame {c c' : Channel H} {slot : PipeSlot} {pipe : MsgInPipe}
    {result : RcvResult} (h : Receipt env c slot pipe .protoNeg result c') : SeqFrame c c' := by
  have hcomputed : ∀ {c₁ : Channel H} {v va : Option Int} {e : Option ErrorCode},
      c.computeNegotiatedProtoVers env v va = (c₁, e) → SeqFrame c c₁ := by
    intro c₁ v va e hcomputed
    have hframe := negotiate_rcvFrame env c v va
    rw [hcomputed] at hframe
    exact hframe.toSeqFrame
  have herr : ∀ (c : Channel H) e, SeqFrame c (c.handleNewError env e) :=
    fun c e => (handleNewError_rcvFrame c e).toSeqFrame
  cases h with
  | hosed kind result hosed => exact stopReading_seqFrame c slot pipe
  | error kind e live => exact (herr c e).trans (stopReading_seqFrame _ slot pipe)
  | negotiatedBefore p live known => exact issueRead_seqFrame c slot pipe .lead
  | negotiated p c₁ live fresh computed =>
      exact (hcomputed computed).trans (issueRead_seqFrame c₁ slot pipe .lead)
  | notNegotiated p c₁ e live fresh computed =>
      exact ((hcomputed computed).trans (herr c₁ e)).trans (stopReading_seqFrame _ slot pipe)
  | malformed kind p pipe' e live message stored => exact absurd rfl message
  | segment kind p pipe₁ live message stored more allocated => exact absurd rfl message
  | noSegment kind p pipe₁ pipe' live message stored more notAllocated => exact absurd rfl message
  | refused kind p pipe₁ c₁ live message stored whole taken => exact absurd rfl message
  | handled kind p pipe₁ c₁ live message stored whole taken allocated => exact absurd rfl message
  | handledNoSegment kind p pipe₁ pipe' c₁ live message stored whole taken notAllocated =>
      exact absurd rfl message

/-- A pipe that reads on after a completed read reads a structured message, both versions known. -/
theorem Receipt.readsOn {c c' : Channel H} {slot : PipeSlot} {pipe : MsgInPipe}
    {kind : ReadKind} {result : RcvResult} (h : Receipt env c slot pipe kind result c')
    (hinv : NegotiatedFirst env c) (hpipe : c.rcvPipe slot = some pipe)
    (hkind : pipe.outstanding = some kind) {pipe' : MsgInPipe} {kind' : ReadKind}
    (hpipe' : c'.rcvPipe slot = some pipe') (hkind' : pipe'.outstanding = some kind') :
    kind' ≠ .protoNeg ∧ c.channelErrCodeOrOk = none ∧ (∃ p, result = .ok p) ∧
      c'.negotiatedProtoVerAux.isSome := by
  have hstopped : ∀ {c : Channel H} {pipe : MsgInPipe}, c' = (c.stopReading slot pipe).handlersPoll →
      False := by
    intro c pipe hc
    rw [hc, rcvPipe_stopReading] at hpipe'
    cases hpipe'
    simp at hkind'
  have hissued : ∀ {c : Channel H} {pipe : MsgInPipe} {kind : ReadKind},
      c'.rcvPipe slot = (c.issueRead slot pipe kind).rcvPipe slot → kind' = kind := by
    intro c pipe kind hc
    rw [hc, rcvPipe_issueRead] at hpipe'
    cases hpipe'
    exact (Option.some.inj hkind').symm
  have hknown : kind ≠ .protoNeg → c'.negotiatedProtoVerAux.isSome := by
    intro hmessage
    rcases h.negotiation with hframe | ⟨p, c₁, e, hneg, _⟩
    · rw [hframe.negotiatedProtoVerAux]
      exact hinv.reading slot pipe kind hpipe hkind hmessage
    · exact absurd hneg hmessage
  cases h with
  | hosed kind result hosed => exact (hstopped rfl).elim
  | error kind e live => exact (hstopped rfl).elim
  | negotiatedBefore p live known =>
      refine ⟨by simp [hissued rfl], live, ⟨p, rfl⟩, ?_⟩
      rw [(issueRead_negFrame c slot pipe .lead).negotiatedProtoVerAux]
      exact hinv.negotiation.aux_isSome live known
  | negotiated p c₁ live fresh computed =>
      refine ⟨by simp [hissued rfl], live, ⟨p, rfl⟩, ?_⟩
      rw [(issueRead_negFrame c₁ slot pipe .lead).negotiatedProtoVerAux]
      have haux := (hinv.negotiation.pending_of_live live fresh).1
      rcases computeNegotiatedProtoVers_cases env (remoteProtoVers env p).1
        (remoteProtoVers env p).2 fresh haux with
        ⟨ver, verAux, _, _, hc⟩ | ⟨e, _, hc⟩ | ⟨ver, e, _, _, hc⟩ <;> rw [hc] at computed <;>
        cases computed
      rfl
  | notNegotiated p c₁ e live fresh computed => exact (hstopped rfl).elim
  | malformed kind p pipe' e live message stored => exact (hstopped rfl).elim
  | segment kind p pipe₁ live message stored more allocated =>
      refine ⟨?_, live, ⟨p, rfl⟩, hknown message⟩
      rw [hissued ((handlersPoll_chainFrame _).rcvPipe slot)]
      simp
  | noSegment kind p pipe₁ pipe' live message stored more notAllocated =>
      exact (hstopped rfl).elim
  | refused kind p pipe₁ c₁ live message stored whole taken => exact (hstopped rfl).elim
  | handled kind p pipe₁ c₁ live message stored whole taken allocated =>
      refine ⟨?_, live, ⟨p, rfl⟩, hknown message⟩
      rw [hissued ((handlersPoll_chainFrame _).rcvPipe slot)]
      simp
  | handledNoSegment kind p pipe₁ pipe' c₁ live message stored whole taken notAllocated =>
      exact (hstopped rfl).elim

/-! ## The steps keep the invariant -/

/-- A step does not concern negotiation, or it processes the first negotiation message. -/
theorem step_negotiation {c c' : Channel H} {l : Label H} (h : step env c l = some c') :
    NegFrame c c' ∨
    ∃ slot p pipe c₁ e, l = .rcv slot (.ok p) ∧ c.rcvPipe slot = some pipe ∧
      pipe.outstanding = some .protoNeg ∧ c.channelErrCodeOrOk = none ∧
      c.negotiatedProtoVer = none ∧
      c.computeNegotiatedProtoVers env (remoteProtoVers env p).1 (remoteProtoVers env p).2 =
        (c₁, e) ∧
      NegFrame c₁ c' ∧ (e.isSome → c'.Hosed) := by
  rcases step_cases h with ⟨x, _, rfl⟩ |
    ⟨slot, result, pipe, kind, rfl, _, hpipe, hkind, _, rfl⟩ | ⟨t, rest, _, _, rfl⟩
  · exact Or.inl (.of_callFrame (call_frame env c x))
  · rcases (onRecv_receipt c slot pipe kind result).negotiation with
      hframe | ⟨p, c₁, e, rfl, rfl, hlive, hver, hcomputed, hframe, herr⟩
    · exact Or.inl hframe
    · exact Or.inr ⟨slot, p, pipe, c₁, e, rfl, hpipe, hkind, hlive, hver, hcomputed, hframe, herr⟩
  · exact Or.inl (handlerReturned_chainFrame c t rest).toNegFrame

/-- What negotiation came to after a step. -/
theorem Negotiation.step {c c' : Channel H} {l : Label H} (h : Negotiation env c)
    (hstep : Channel.step env c l = some c') (herr : c.Hosed → c'.Hosed) :
    Negotiation env c' := by
  rcases step_negotiation hstep with hframe |
    ⟨slot, p, pipe, c₁, e, _, _, _, hlive, hver, hcomputed, hframe, hfailed⟩
  · exact h.of_frame hframe herr
  · rcases h.pending_of_live hlive hver with ⟨haux, hnone⟩
    have htr : ∀ tr : List (Event H), (c.trace ++ tr).filterMap Event.computed? =
        tr.filterMap Event.computed? := by
      intro tr
      rw [List.filterMap_append]
      have hold : c.trace.filterMap Event.computed? = [] := hnone
      rw [hold, List.nil_append]
    rcases computeNegotiatedProtoVers_cases env (remoteProtoVers env p).1
      (remoteProtoVers env p).2 hver haux with
      ⟨ver, verAux, hmain, hsecond, hc⟩ | ⟨e', hmain, hc⟩ | ⟨ver, e', hmain, hsecond, hc⟩ <;>
      rw [hc] at hcomputed <;> cases hcomputed
    · exact .succeeded _ _ ver verAux hmain hsecond hframe.negotiatedProtoVer
        hframe.negotiatedProtoVerAux (hframe.computed.trans (htr _))
    · exact .mainFailed _ e' (hfailed rfl) hmain (hframe.negotiatedProtoVerAux.trans haux)
        (hframe.computed.trans (htr _))
    · exact .auxFailed _ _ e' (hfailed rfl) hsecond (hframe.negotiatedProtoVerAux.trans haux)
        (hframe.computed.trans (htr _))

/-- The auxiliary version stays known. -/
theorem Negotiation.aux_kept {c c' : Channel H} {l : Label H} (h : Negotiation env c)
    (hstep : Channel.step env c l = some c') (haux : c.negotiatedProtoVerAux.isSome) :
    c'.negotiatedProtoVerAux.isSome := by
  rcases step_negotiation hstep with hframe | ⟨slot, p, pipe, c₁, e, _, _, _, hlive, hver, _⟩
  · rw [hframe.negotiatedProtoVerAux]
    exact haux
  · simp [(h.pending_of_live hlive hver).1] at haux

/-- A step that dispatches a message takes it from a pipe that reads structured messages. -/
theorem step_dispatches {c c' : Channel H} {l : Label H} (h : step env c l = some c') :
    SeqFrame c c' ∨ ∃ slot pipe kind, c.rcvPipe slot = some pipe ∧
      pipe.outstanding = some kind ∧ kind ≠ .protoNeg := by
  rcases step_cases h with ⟨x, _, rfl⟩ |
    ⟨slot, result, pipe, kind, rfl, _, hpipe, hkind, _, rfl⟩ | ⟨t, rest, _, _, rfl⟩
  · exact Or.inl (call_seqFrame env c x)
  · by_cases hneg : kind = .protoNeg
    · subst hneg
      exact Or.inl (onRecv_receipt c slot pipe .protoNeg result).protoNeg_seqFrame
    · exact Or.inr ⟨slot, pipe, kind, hpipe, hkind, hneg⟩
  · exact Or.inl (handlerReturned_rcvFrame c t rest).toSeqFrame

/-- Every step keeps the invariant. -/
theorem NegotiatedFirst.step {c c' : Channel H} {l : Label H} (h : NegotiatedFirst env c)
    (hstep : Channel.step env c l = some c') (herr : c.Hosed → c'.Hosed) :
    NegotiatedFirst env c' where
  negotiation := h.negotiation.step hstep herr
  notRefused := by
    rcases step_negotiation hstep with hframe |
      ⟨slot, p, pipe, c₁, e, _, _, _, hlive, hver, hcomputed, hframe, _⟩
    · exact hframe.notRefused h.notRefused
    · have haux := (h.negotiation.pending_of_live hlive hver).1
      refine hframe.notRefused ?_
      rcases computeNegotiatedProtoVers_cases env (remoteProtoVers env p).1
        (remoteProtoVers env p).2 hver haux with
        ⟨ver, verAux, _, _, hc⟩ | ⟨e', _, hc⟩ | ⟨ver, e', _, _, hc⟩ <;>
        rw [hc] at hcomputed <;> cases hcomputed <;> simp [h.notRefused]
  undispatched := by
    intro haux
    have haux₀ : c.negotiatedProtoVerAux = none := by
      by_contra hsome
      have hkept := h.negotiation.aux_kept hstep (Option.ne_none_iff_isSome.1 hsome)
      simp [haux] at hkept
    rcases step_dispatches hstep with hframe | ⟨slot, pipe, kind, hpipe, hkind, hneg⟩
    · rw [hframe.handedOn, hframe.acceptedMsgs]
      exact h.undispatched haux₀
    · have hknown := h.reading slot pipe kind hpipe hkind hneg
      simp [haux₀] at hknown
  reading := by
    intro slot pipe kind hpipe hkind hneg
    rcases step_pipe hstep slot with ⟨_, hsame⟩ | ⟨f, _, _, hbegun⟩ |
      ⟨result, pipe₀, kind₀, _, _, hpipe₀, hkind₀, _, hreceipt⟩
    · rw [hsame] at hpipe
      exact h.negotiation.aux_kept hstep (h.reading slot pipe kind hpipe hkind hneg)
    · rcases hbegun with hsame | ⟨pipe', hpipe', hout⟩
      · rw [hsame] at hpipe
        exact h.negotiation.aux_kept hstep (h.reading slot pipe kind hpipe hkind hneg)
      · rw [hpipe'] at hpipe
        cases hpipe
        rcases hout with ⟨hnone, _⟩ | ⟨mode, rfl⟩
        · simp [hnone] at hkind
        · exact absurd (Option.some.inj hkind).symm hneg
    · exact (hreceipt.readsOn h hpipe₀ hkind₀ hpipe hkind).2.2.2

/-- A new channel knows no version, and reads nothing. -/
theorem negotiatedFirst_ctor (env : Env) (args : CtorArgs) :
    NegotiatedFirst env (ctor args : Channel H) := by
  cases args <;> exact {
    negotiation := .pending rfl rfl rfl
    notRefused := by simp [ctor]
    undispatched := fun _ => ⟨rfl, rfl⟩
    reading := by
      intro slot pipe kind hpipe
      cases slot <;> simp [ctor, rcvPipe] at hpipe }

/-- A hosed channel stays hosed. -/
theorem Hosed.step {c c' : Channel H} {l : Label H} (hw : c.WellFormed)
    (hstep : Channel.step env c l = some c') (h : c.Hosed) : c'.Hosed := by
  rcases Option.ne_none_iff_exists'.1 h with ⟨e, he⟩
  have hrun : run env c [l] = some c' := by
    simp [run, hstep]
  rw [Hosed, run_errorKept hw hrun he]
  simp

/-- The invariant holds in every reachable state. -/
theorem Reachable.negotiatedFirst {c : Channel H} (h : Reachable env c) :
    NegotiatedFirst env c := by
  rcases h with ⟨args, ls, hrun⟩
  have hinv : c.WellFormed ∧ NegotiatedFirst env c := by
    refine Transition.run_invariant (fun c => c.WellFormed ∧ NegotiatedFirst env c) ?_
      ⟨wellFormed_ctor args, negotiatedFirst_ctor env args⟩ hrun
    intro s l s' hs hstep
    exact ⟨(step_effects hs.1 hstep).wellFormed hs.1, hs.2.step hstep (Hosed.step hs.1 hstep)⟩
  exact hinv.2

/-! ## Over whole runs -/

/-- The first message of the pipe was taken as negotiation, by a channel that was not hosed. -/
def NegotiationConsumed (env : Env) (args : CtorArgs) (slot : PipeSlot) (ls : List (Label H)) :
    Prop :=
  ∃ ls₁ p ls₂ c₁ pipe, ls = ls₁ ++ .rcv slot (.ok p) :: ls₂ ∧ receivedOn slot ls₁ = [] ∧
    run env (ctor args) ls₁ = some c₁ ∧
    c₁.pendingRead slot (.ok p) = some (pipe, .protoNeg) ∧ c₁.channelErrCodeOrOk = none

/-- The first read of the pipe stays the first. -/
theorem NegotiationConsumed.concat {args : CtorArgs} {slot : PipeSlot} {ls : List (Label H)}
    (h : NegotiationConsumed env args slot ls) (l : Label H) :
    NegotiationConsumed env args slot (ls ++ [l]) := by
  rcases h with ⟨ls₁, p, ls₂, c₁, pipe, rfl, hfirst, hrun, hpending, hlive⟩
  exact ⟨ls₁, p, ls₂ ++ [l], c₁, pipe, by simp, hfirst, hrun, hpending, hlive⟩

/-- A pipe has received nothing until its negotiation message, and reads on only after it. -/
structure PipeHistory (env : Env) (args : CtorArgs) (slot : PipeSlot) (ls : List (Label H))
    (c : Channel H) : Prop where
  unset : c.rcvPipe slot = none → receivedOn slot ls = []
  first : ∀ pipe, c.rcvPipe slot = some pipe → pipe.outstanding = some .protoNeg →
    receivedOn slot ls = []
  later : ∀ pipe kind, c.rcvPipe slot = some pipe → pipe.outstanding = some kind →
    kind ≠ .protoNeg → NegotiationConsumed env args slot ls

/-- A new channel has received nothing. -/
theorem pipeHistory_ctor (env : Env) (args : CtorArgs) (slot : PipeSlot) :
    PipeHistory env args slot [] (ctor args : Channel H) where
  unset _ := rfl
  first _ _ _ := rfl
  later pipe kind hpipe := by
    cases args <;> cases slot <;> simp [ctor, rcvPipe] at hpipe

/-- A step that leaves the pipe alone. -/
theorem PipeHistory.of_same {args : CtorArgs} {slot : PipeSlot} {ls : List (Label H)} {l : Label H}
    {c c' : Channel H} (h : PipeHistory env args slot ls c)
    (hother : ∀ result, l ≠ .rcv slot result) (hsame : c'.rcvPipe slot = c.rcvPipe slot) :
    PipeHistory env args slot (ls ++ [l]) c' := by
  have hls : receivedOn slot (ls ++ [l]) = receivedOn slot ls := by
    rw [receivedOn_append, receivedOn_other hother, List.append_nil]
  constructor
  · rw [hsame, hls]
    exact h.unset
  · rw [hsame, hls]
    exact h.first
  · rw [hsame]
    intro pipe kind hpipe hkind hneg
    exact (h.later pipe kind hpipe hkind hneg).concat l

/-- Every step extends the history of a pipe. -/
theorem PipeHistory.step {args : CtorArgs} {slot : PipeSlot} {ls : List (Label H)} {l : Label H}
    {c c' : Channel H} (h : PipeHistory env args slot ls c)
    (hrun : run env (ctor args) ls = some c) (hstep : Channel.step env c l = some c') :
    PipeHistory env args slot (ls ++ [l]) c' := by
  have hreach : Reachable env c := ⟨args, ls, hrun⟩
  rcases step_pipe hstep slot with ⟨hother, hsame⟩ | ⟨f, rfl, rfl, hbegun⟩ |
    ⟨result, pipe, kind, rfl, hpoll, hpipe, hkind, hposs, hreceipt⟩
  · exact h.of_same hother hsame
  · by_cases hprecluded : c.startPrecluded = true
    · refine h.of_same (by simp) ?_
      simp [startAndPoll, hprecluded]
    · have hover := (step_call_eq_some.1 hstep).1
      have hnone := hreach.rcvPipe_of_starting (by simpa using hprecluded) hover slot
      rcases hbegun with hsame | ⟨pipe, hpipe, hout⟩
      · exact h.of_same (by simp) hsame
      · have hls : receivedOn slot (ls ++ [.call (.startAndPoll f)]) = [] := by
          rw [receivedOn_append, receivedOn_other (by simp), h.unset hnone, List.append_nil]
        refine ⟨fun _ => hls, fun _ _ _ => hls, ?_⟩
        intro pipe' kind hpipe' hkind hneg
        rw [hpipe] at hpipe'
        cases hpipe'
        rcases hout with ⟨hstopped, _⟩ | ⟨mode, rfl⟩
        · simp [hstopped] at hkind
        · exact absurd (Option.some.inj hkind).symm hneg
  · have hreads := fun pipe' kind' (hpipe' : c'.rcvPipe slot = some pipe')
      (hkind' : pipe'.outstanding = some kind') =>
        hreceipt.readsOn hreach.negotiatedFirst hpipe hkind hpipe' hkind'
    constructor
    · intro hnone
      rcases hreceipt.rcvPipe_isSome with ⟨pipe', hpipe'⟩
      simp [hnone] at hpipe'
    · intro pipe' hpipe' hkind'
      exact absurd rfl (hreads pipe' .protoNeg hpipe' hkind').1
    · intro pipe' kind' hpipe' hkind' _
      rcases hreads pipe' kind' hpipe' hkind' with ⟨_, hlive, ⟨p, rfl⟩, _⟩
      by_cases hneg : kind = .protoNeg
      · subst hneg
        refine ⟨ls, p, [], c, pipe, rfl, h.first pipe hpipe hkind, hrun, ?_, hlive⟩
        simp [pendingRead, hpoll, hpipe, hkind, hposs]
      · exact (h.later pipe kind hpipe hkind hneg).concat _

/-- The history of each pipe, over every run. -/
theorem pipeHistory_of_run {args : CtorArgs} {ls : List (Label H)} {c : Channel H}
    (hrun : run env (ctor args) ls = some c) (slot : PipeSlot) :
    PipeHistory env args slot ls c :=
  Transition.run_history (fun ls c => PipeHistory env args slot ls c)
    (pipeHistory_ctor env args slot)
    (fun _ _ _ _ hrun hinv hstep => hinv.step hrun hstep) hrun

/-- One of the negotiators rejects the versions that the message gives. -/
def Unacceptable (env : Env) (p : Payload) : Prop :=
  (∃ e, env.negotiate (remoteProtoVers env p).1 = .error e) ∨
    ∃ e, env.negotiate (remoteProtoVers env p).2 = .error e

/-- The first negotiation message to be processed was given to the negotiators. -/
theorem computed_of_first {c c' : Channel H} {slot : PipeSlot} {pipe : MsgInPipe} {p : Payload}
    (hinv : NegotiatedFirst env c) (hlive : c.channelErrCodeOrOk = none) (hnone : c.computed = [])
    (hreceipt : Receipt env c slot pipe .protoNeg (.ok p) c') :
    (false, (remoteProtoVers env p).1) ∈ c'.computed ∧
      ((∃ ver, env.negotiate (remoteProtoVers env p).1 = .ok ver) →
        (true, (remoteProtoVers env p).2) ∈ c'.computed) := by
  have hver : c.negotiatedProtoVer = none := by
    cases hinv.negotiation with
    | pending ver verAux computed => exact ver
    | succeeded v va ver verAux main aux known knownAux computed => simp [hnone] at computed
    | mainFailed v e hosed main verAux computed => exact absurd hlive hosed
    | auxFailed v va e hosed aux verAux computed => exact absurd hlive hosed
  have haux := (hinv.negotiation.pending_of_live hlive hver).1
  have hcomputed : ∃ c₁ e, c.computeNegotiatedProtoVers env (remoteProtoVers env p).1
      (remoteProtoVers env p).2 = (c₁, e) ∧ NegFrame c₁ c' := by
    cases hreceipt with
    | hosed kind result hosed => exact absurd hlive hosed
    | negotiatedBefore p live known => simp [hver] at known
    | negotiated p c₁ live fresh computed =>
        exact ⟨c₁, none, computed, issueRead_negFrame c₁ slot pipe .lead⟩
    | notNegotiated p c₁ e live fresh computed =>
        exact ⟨c₁, some e, computed,
          (handleNewError_chainFrame env c₁ e).toNegFrame.trans (stopReading_negFrame _ slot pipe)⟩
    | malformed kind p pipe' e live message stored => exact absurd rfl message
    | segment kind p pipe₁ live message stored more allocated => exact absurd rfl message
    | noSegment kind p pipe₁ pipe' live message stored more notAllocated => exact absurd rfl message
    | refused kind p pipe₁ c₁ live message stored whole taken => exact absurd rfl message
    | handled kind p pipe₁ c₁ live message stored whole taken allocated => exact absurd rfl message
    | handledNoSegment kind p pipe₁ pipe' c₁ live message stored whole taken notAllocated =>
        exact absurd rfl message
  rcases hcomputed with ⟨c₁, e, hcomputed, hframe⟩
  rw [hframe.computed]
  rcases computeNegotiatedProtoVers_cases env (remoteProtoVers env p).1
    (remoteProtoVers env p).2 hver haux with
    ⟨ver, verAux, hmain, _, hc⟩ | ⟨e', hmain, hc⟩ | ⟨ver, e', hmain, _, hc⟩ <;>
    rw [hc] at hcomputed <;> cases hcomputed <;>
    simp [computed, Event.computed?, hmain]

/-- What the negotiators were asked for stays recorded. -/
theorem computed_kept {c c' : Channel H} {ls : List (Label H)} (hw : c.WellFormed)
    (hrun : run env c ls = some c') : c.computed ⊆ c'.computed :=
  ((run_trace_mono hw hrun).filterMap Event.computed?).subset

/--
Over every run: a structured message is processed on a pipe only after the
pipe's own first message was taken as negotiation and both negotiators
succeeded; each of them is asked at most once and never refuses; and if the
first negotiation message to be processed is unacceptable, the channel is hosed
and no user message is accepted or dispatched, before or after.
-/
theorem negotiation_first {args : CtorArgs} {ls : List (Label H)} {c : Channel H}
    (hrun : run env (ctor args) ls = some c) :
    (∀ slot result pipe kind, c.pendingRead slot result = some (pipe, kind) →
      kind ≠ .protoNeg → NegotiationConsumed env args slot ls ∧
        c.negotiatedProtoVer.isSome ∧ c.negotiatedProtoVerAux.isSome) ∧
    (∀ aux, c.computed.countP (fun x => x.1 = aux) ≤ 1) ∧
    .assertFailed .negotiatorRefused ∉ c.trace ∧
    (∀ ls₁ slot p ls₂ c₁ pipe, ls = ls₁ ++ .rcv slot (.ok p) :: ls₂ →
      run env (ctor args) ls₁ = some c₁ →
      c₁.pendingRead slot (.ok p) = some (pipe, .protoNeg) → c₁.channelErrCodeOrOk = none →
      c₁.computed = [] → Unacceptable env p →
      c.Hosed ∧ c.handedOn = [] ∧ c.acceptedMsgs = []) := by
  have hreach : Reachable env c := ⟨args, ls, hrun⟩
  have hinv := hreach.negotiatedFirst
  refine ⟨?_, hinv.negotiation.once, hinv.notRefused, ?_⟩
  · intro slot result pipe kind hpending hneg
    rcases pendingRead_eq_some hpending with ⟨_, hpipe, hkind, _⟩
    have haux := hinv.reading slot pipe kind hpipe hkind hneg
    exact ⟨(pipeHistory_of_run hrun slot).later pipe kind hpipe hkind hneg,
      hinv.negotiation.ver_isSome haux, haux⟩
  · intro ls₁ slot p ls₂ c₁ pipe hls hrun₁ hpending hlive hnone hbad
    have hreach₁ : Reachable env c₁ := ⟨args, ls₁, hrun₁⟩
    rcases pendingRead_eq_some hpending with ⟨_, hpipe, hkind, _⟩
    rw [hls] at hrun
    rcases Transition.run_append_eq_some.1 hrun with ⟨t, ht, hrest⟩
    rw [run] at hrun₁
    rw [hrun₁] at ht
    cases ht
    rcases Transition.run_cons_eq_some.1 hrest with ⟨c₂, hstep, hrest₂⟩
    have hc₂ : c₂ = c₁.onRecv env slot pipe .protoNeg (.ok p) := by
      simpa [step, hpending] using hstep.symm
    have hreceipt : Receipt env c₁ slot pipe .protoNeg (.ok p) c₂ := by
      rw [hc₂]
      exact onRecv_receipt c₁ slot pipe .protoNeg (.ok p)
    have hreach₂ : Reachable env c₂ :=
      ⟨args, ls₁ ++ [.rcv slot (.ok p)],
        Transition.run_append_eq_some.2 ⟨c₁, hrun₁, by simp [hstep]⟩⟩
    have hkept := computed_kept hreach₂.wellFormed hrest₂
    rcases computed_of_first hreach₁.negotiatedFirst hlive hnone hreceipt with ⟨hmain, hsecond⟩
    have hfailed : c.Hosed ∧ c.negotiatedProtoVerAux = none := by
      cases hinv.negotiation with
      | pending ver verAux computed =>
          have hmem := hkept hmain
          simp [computed] at hmem
      | succeeded v va ver verAux main aux known knownAux computed =>
          have hmem := hkept hmain
          simp only [computed, List.mem_cons, Prod.mk.injEq, true_and, Bool.false_eq_true,
            false_and, List.not_mem_nil, or_false] at hmem
          rw [← hmem] at main
          have hmem₂ := hkept (hsecond ⟨ver, main⟩)
          simp only [computed, List.mem_cons, Prod.mk.injEq, true_and, Bool.true_eq_false,
            false_and, List.not_mem_nil, or_false, false_or] at hmem₂
          rw [← hmem₂] at aux
          rcases hbad with ⟨e, he⟩ | ⟨e, he⟩
          · simp [main] at he
          · simp [aux] at he
      | mainFailed v e hosed main verAux computed => exact ⟨hosed, verAux⟩
      | auxFailed v va e hosed aux verAux computed => exact ⟨hosed, verAux⟩
    exact ⟨hfailed.1, hinv.undispatched hfailed.2⟩

/-- A channel with two pipes, started. -/
def twoPipesStart : List (Label Unit) :=
  [.call .startOps, .call (.startAndPoll ())]

/-- A negotiation message whose first version is accepted and whose second is not. -/
def refusedNegPayload : Payload :=
  ⟨none, ReferenceCapnp.capnp.writeNeg ⟨1, 0⟩⟩

/--
Over two pipes: after good negotiation on one of them that pipe reads structured
messages; after a message with an auxiliary version that is refused the channel is hosed.
-/
theorem negotiation_first_two_pipes :
    (∃ c : Channel Unit,
      run (.reference .twoPipes) (ctor .reference) (twoPipesStart ++
        .rcv .back (.ok (protoNegPayload (.reference .twoPipes))) :: []) = some c ∧
      c.negotiatedProtoVer.isSome ∧ c.negotiatedProtoVerAux.isSome) ∧
    (∃ c : Channel Unit,
      run (.reference .twoPipes) (ctor .reference) (twoPipesStart ++
        .rcv .back (.ok refusedNegPayload) :: []) = some c ∧ c.Hosed ∧ c.handedOn = []) := by
  constructor
  · have hrun : ((run (.reference .twoPipes) (ctor .reference) (twoPipesStart ++
        .rcv .back (.ok (protoNegPayload (.reference .twoPipes))) :: [])).any fun c =>
        (c.pendingRead .back (.ok ⟨none, [7]⟩)).map Prod.snd = some ReadKind.lead) = true := by
      decide +kernel
    rcases (Option.any_eq_true _ _).1 hrun with ⟨c, hc, hpending⟩
    rcases Option.map_eq_some_iff.1 (of_decide_eq_true hpending) with ⟨⟨pipe, kind⟩, hp, rfl⟩
    rcases (negotiation_first hc).1 _ _ _ _ hp (by simp) with ⟨_, hver, haux⟩
    exact ⟨c, hc, hver, haux⟩
  · have hstart : ((run (.reference .twoPipes) (ctor .reference) twoPipesStart).any fun c =>
        (c.pendingRead .back (.ok refusedNegPayload)).map Prod.snd = some ReadKind.protoNeg ∧
        c.channelErrCodeOrOk = none ∧ c.computed = [] ∧
        (run (.reference .twoPipes) (ctor .reference) (twoPipesStart ++
          .rcv .back (.ok refusedNegPayload) :: [])).isSome) = true := by
      decide +kernel
    rcases (Option.any_eq_true _ _).1 hstart with ⟨c₁, hc₁, hfacts⟩
    rcases of_decide_eq_true hfacts with ⟨hpending, hlive, hnone, hruns⟩
    rcases Option.map_eq_some_iff.1 hpending with ⟨⟨pipe, kind⟩, hp, rfl⟩
    rcases Option.isSome_iff_exists.1 hruns with ⟨c, hc⟩
    have hbad : Unacceptable (.reference .twoPipes) refusedNegPayload :=
      Or.inr ⟨.other 0, by decide⟩
    have hfailed := (negotiation_first hc).2.2.2 _ _ _ _ _ _ rfl hc₁ hp hlive hnone hbad
    exact ⟨c, hc, hfailed.1, hfailed.2.1⟩

end Channel
end StrucTransport
