import StrucTransport.Async.Ledger

/-!
# A blocking request returns its own result

The state of the {lit}`sync_request()` that waits is one cell, and every response
handler it ever registered may still be called.  A handler knows its sync-op ID,
and the IDs do not repeat, so only the one of the wait under way loads a result:
the response to that very request, once.  The one error task finds the wait, or
the error handler, or neither twice.

Main results:

- Theorem {lit}`AsyncChannel.step_syncOps`: what every step keeps.
- Theorem {lit}`AsyncChannel.sync_request_own_result`: what the blocking requests of
  a run return.
-/

namespace StrucTransport

variable {F : Type}

namespace AsyncChannel

/-- The responses that {lit}`sync_request()`s returned, in order. -/
def returnedResponses (a : AsyncChannel F) : List MsgIn :=
  a.trace.filterMap AsyncEvent.response?

/-- What the blocking requests of a run return. -/
structure OwnResults (a : AsyncChannel F) : Prop where
  /-- The result is a response to the request that the call sent. -/
  own : ∀ id outMsgId rsp, .syncRequestReturned id outMsgId (.response rsp) ∈ a.trace →
    rsp.originatingMsgIdOrNone = outMsgId
  /-- No response is returned by two calls. -/
  once : a.returnedResponses.Nodup
  /-- The response to a call that timed out is never returned. -/
  late : ∀ id outMsgId, .syncRequestReturned id outMsgId .timeout ∈ a.trace →
    ∀ rsp ∈ a.returnedResponses, rsp.originatingMsgIdOrNone ≠ outMsgId
  /-- {lit}`m_op_done_signal` is set at most once. -/
  signal : ∀ s, a.syncOpState = some s → s.opDoneSignal ≤ 1
  asserts : ∀ x ∈ syncOpAssertions, .assertFailed x ∉ a.trace
  /-- The error is reported by one call, or to the error handler, or not yet. -/
  reported : a.trace.countP AsyncEvent.reportsErr ≤ 1

variable {env : Env}

/-! ## The invariant -/

/-- The out-messages of the {lit}`sync_request()`s that waited and returned. -/
def waitedIds (a : AsyncChannel F) : List Nat :=
  a.trace.filterMap AsyncEvent.waited?

/-- A {lit}`sync_request()` waits; {lit}`n` of them were begun. -/
structure Waiting (n : Nat) (a : AsyncChannel F) (w : SyncOpWait) (s : SyncOpState) : Prop where
  begun : w.id < n
  sent : w.outMsgId < a.syncIo.sndMsgNextId
  later : ∀ id ∈ a.waitedIds, id < w.outMsgId
  oneOff : a.syncIo.OneOff (SyncIoFunc.isOp w.id) (some w.outMsgId)
  held : Held w (a.syncIo.invokedCalls.countP (opCall w.id)) s

/-- After {lit}`n` calls of {lit}`sync_request()`. -/
structure SyncOps (n : Nat) (a : AsyncChannel F) : Prop where
  count : a.syncOpStateId = n
  fresh : ∀ id, n ≤ id → a.syncIo.OneOff (SyncIoFunc.isOp id) none
  waiting : ∀ w s, a.syncOpWait = some w → a.syncOpState = some s → Waiting n a w s
  waited : a.waitedIds.Pairwise (· < ·)
  waitedSent : ∀ id ∈ a.waitedIds, id < a.syncIo.sndMsgNextId
  own : ∀ id outMsgId rsp, .syncRequestReturned id outMsgId (.response rsp) ∈ a.trace →
    rsp.originatingMsgIdOrNone = outMsgId
  asserts : ∀ x ∈ syncOpAssertions, .assertFailed x ∉ a.trace

/-- New events of which some are returns of requests that waited. -/
theorem waitedIds_append {a a' : AsyncChannel F} {evs : List (AsyncEvent F)}
    (h : a'.trace = a.trace ++ evs) :
    a'.waitedIds = a.waitedIds ++ evs.filterMap AsyncEvent.waited? := by
  rw [waitedIds, h, List.filterMap_append]
  rfl

/-- The record of what was returned grows by the events. -/
theorem SyncOps.own_append {n : Nat} {a a' : AsyncChannel F} (h : SyncOps n a)
    {evs : List (AsyncEvent F)} (htrace : a'.trace = a.trace ++ evs)
    (hevs : ∀ id outMsgId rsp, .syncRequestReturned id outMsgId (.response rsp) ∈ evs →
      rsp.originatingMsgIdOrNone = outMsgId) (id outMsgId : Nat) (rsp : MsgIn)
    (hmem : .syncRequestReturned id outMsgId (.response rsp) ∈ a'.trace) :
    rsp.originatingMsgIdOrNone = outMsgId := by
  rw [htrace] at hmem
  rcases List.mem_append.1 hmem with hmem | hmem
  · exact h.own id outMsgId rsp hmem
  · exact hevs id outMsgId rsp hmem

/-- New events none of which is a failed assertion about the wait. -/
theorem SyncOps.asserts_append {n : Nat} {a a' : AsyncChannel F} (h : SyncOps n a)
    {evs : List (AsyncEvent F)} (htrace : a'.trace = a.trace ++ evs)
    (hevs : ∀ x ∈ syncOpAssertions, .assertFailed x ∉ evs) :
    ∀ x ∈ syncOpAssertions, .assertFailed x ∉ a'.trace := by
  intro x hx hmem
  rw [htrace] at hmem
  rcases List.mem_append.1 hmem with hmem | hmem
  · exact h.asserts x hx hmem
  · exact hevs x hx hmem

/-- A change that leaves the core, the IDs and the wait as they were. -/
theorem SyncOps.change {n : Nat} {a a' : AsyncChannel F} (h : SyncOps n a)
    (hp : SyncOpPaired a) (hsyncIo : a'.syncIo = a.syncIo)
    (hid : a'.syncOpStateId = a.syncOpStateId) (hwait : a'.syncOpWait = a.syncOpWait)
    {evs : List (AsyncEvent F)} (htrace : a'.trace = a.trace ++ evs)
    (hevs : ∀ ev ∈ evs, ev.waited? = none ∧ ∀ x ∈ syncOpAssertions, ev ≠ .assertFailed x)
    (hheld : ∀ w m s s', a.syncOpState = some s → a'.syncOpState = some s' →
      Held w m s → Held w m s') : SyncOps n a' := by
  have hwaited : a'.waitedIds = a.waitedIds := by
    have hnone : evs.filterMap AsyncEvent.waited? = [] :=
      List.filterMap_eq_nil_iff.2 fun ev hev => (hevs ev hev).1
    rw [waitedIds_append htrace, hnone, List.append_nil]
  constructor
  · rw [hid]
    exact h.count
  · rw [hsyncIo]
    exact h.fresh
  · intro w s' hw hs'
    rw [hwait] at hw
    rcases SyncOpPaired.cases hp with ⟨hnone, _⟩ | ⟨w', s, hw', hs⟩
    · rw [hnone] at hw
      cases hw
    · rw [hw', Option.some.injEq] at hw
      subst hw
      have hwaiting := h.waiting w' s hw' hs
      refine ⟨hwaiting.begun, ?_, ?_, ?_, ?_⟩
      · rw [hsyncIo]
        exact hwaiting.sent
      · rw [hwaited]
        exact hwaiting.later
      · rw [hsyncIo]
        exact hwaiting.oneOff
      · rw [hsyncIo]
        exact hheld w' _ s s' hs hs' hwaiting.held
  · rw [hwaited]
    exact h.waited
  · rw [hwaited, hsyncIo]
    exact h.waitedSent
  · apply h.own_append htrace
    intro id outMsgId rsp hmem
    have hnone := (hevs _ hmem).1
    simp [AsyncEvent.waited?] at hnone
  · apply h.asserts_append htrace
    intro x hx hmem
    exact (hevs _ hmem).2 x hx rfl

/-- A change that is about no request and no error. -/
theorem SyncOps.frame {n : Nat} {a a' : AsyncChannel F} (h : SyncOps n a) (hp : SyncOpPaired a)
    (hf : NeutralFrame a a') : SyncOps n a' := by
  rcases hf.trace with ⟨evs, htrace, hneutral⟩
  apply h.change hp hf.syncIo hf.stateId hf.wait htrace
  · exact fun ev hev => ⟨(hneutral ev hev).1, (hneutral ev hev).2.2⟩
  · intro w m s s' hs hs' held
    rw [hf.state, hs, Option.some.injEq] at hs'
    exact hs' ▸ held

/-! ## The core -/

/-- A public method of the core that registers no response handler of a {lit}`sync_request()`. -/
theorem SyncOps.coreCall {n : Nat} {a : AsyncChannel F} (h : SyncOps n a)
    (x : Call (SyncIoFunc F)) (hx : ∀ msg orig out f, x = .asyncRequest msg orig out f →
      ∀ id, f.isOp id = false) :
    SyncOps n { a with syncIo := a.syncIo.call env x } := by
  have hnext := Channel.call_next_mono env a.syncIo x
  have hkept : ∀ {id : Nat} {request : Option Nat},
      a.syncIo.OneOff (SyncIoFunc.isOp id) request →
        (a.syncIo.call env x).OneOff (SyncIoFunc.isOp id) request := by
    intro id request hone
    exact hone.call x fun msg orig out f hreq => hx msg orig out f hreq id
  constructor
  · exact h.count
  · exact fun id hid => hkept (h.fresh id hid)
  · intro w s hw hs
    have hwaiting := h.waiting w s hw hs
    refine ⟨hwaiting.begun, Nat.lt_of_lt_of_le hwaiting.sent hnext, hwaiting.later,
      hkept hwaiting.oneOff, ?_⟩
    change Held w ((a.syncIo.call env x).invokedCalls.countP (opCall w.id)) s
    rw [Channel.call_invokedCalls]
    exact hwaiting.held
  · exact h.waited
  · exact fun id hid => Nat.lt_of_lt_of_le (h.waitedSent id hid) hnext
  · exact h.own
  · exact h.asserts

/-- The responses that a function was invoked with were posted for it. -/
theorem invokedCalls_countP_le (c : Channel (SyncIoFunc F)) (id : Nat) :
    c.invokedCalls.countP (opCall id) ≤ c.responses.countP fun r => r.1.isOp id := by
  have hinvoked : c.invokedCalls.countP (opCall id) ≤
      ((c.trace.filterMap Event.task?).filterMap Task.rsp?).countP fun r => r.1.isOp id := by
    rw [Channel.invokedCalls, List.countP_filterMap, List.countP_filterMap, List.countP_filterMap]
    apply List.countP_mono_left
    intro ev _ hev
    cases ev with
    | invoked t f e => cases t <;> simp_all [Event.invoked?, Event.task?, opCall, Task.rsp?]
    | _ => simp [Event.invoked?] at hev
  refine Nat.le_trans hinvoked ?_
  rw [Channel.responses, Channel.postedTasks, List.append_assoc, List.filterMap_append,
    List.countP_append]
  exact Nat.le_add_right _ _

/-- A response that a function was invoked with was posted for it. -/
theorem mem_responses_of_invoked {c : Channel (SyncIoFunc F)}
    {call : HandlerCall (SyncIoFunc F)} (h : call ∈ c.invokedCalls) {f : SyncIoFunc F} {m : MsgIn}
    (htask : call.1 = .onRsp f m) : (f, m) ∈ c.responses := by
  rcases List.mem_filterMap.1 h with ⟨ev, hev, hcall⟩
  have hposted : call.1 ∈ c.postedTasks := by
    rw [Channel.postedTasks, List.append_assoc]
    apply List.mem_append_left
    apply List.mem_filterMap.2
    refine ⟨ev, hev, ?_⟩
    cases ev with
    | invoked t f' e =>
        have heq : (t, f', e) = call := Option.some.inj hcall
        rw [← heq]
        rfl
    | _ => simp [Event.invoked?] at hcall
  rw [htask] at hposted
  exact List.mem_filterMap.2 ⟨_, hposted, rfl⟩

/-- What reads do to the result of the wait. -/
theorem SyncOps.readState {n : Nat} {a a' : AsyncChannel F} (h : SyncOps n a)
    (hledger : ErrorLedger env a) {calls : List (HandlerCall (SyncIoFunc F))}
    (hreads : Reads env a calls a') :
    a'.trace = a.trace ∧ ∀ w s', a.syncOpWait = some w → a'.syncOpState = some s' →
      a'.syncIo.OneOff (SyncIoFunc.isOp w.id) (some w.outMsgId) ∧
        Held w (a'.syncIo.invokedCalls.countP (opCall w.id)) s' := by
  have htrace : a'.trace = (a.takeCalls calls).trace := by rw [hreads.taken]
  have hstate : a'.syncOpState = (a.takeCalls calls).syncOpState := by rw [hreads.taken]
  rcases SyncOpPaired.cases hledger.paired with ⟨hwait, hnone⟩ | ⟨w, s, hwait, hs⟩
  · rw [htrace, (takeCalls_none hreads.own hnone).1, hwait]
    exact ⟨rfl, by simp⟩
  · have hwaiting := h.waiting w s hwait hs
    have hone : a'.syncIo.OneOff (SyncIoFunc.isOp w.id) (some w.outMsgId) :=
      hwaiting.oneOff.readsTo hledger.core.wellFormed hreads.ran
    have honce : a.syncIo.invokedCalls.countP (opCall w.id) + calls.countP (opCall w.id) ≤ 1 := by
      rw [← List.countP_append, ← hreads.invoked]
      exact Nat.le_trans (invokedCalls_countP_le a'.syncIo w.id) hone.once
    have horig : ∀ call ∈ calls, ∀ f m, call.1 = .onRsp f m → f.isOp w.id = true →
        m.originatingMsgIdOrNone = w.outMsgId := by
      intro call hcall f m htask hop
      have hinvoked : call ∈ a'.syncIo.invokedCalls := by
        rw [hreads.invoked]
        exact List.mem_append_right _ hcall
      have hposted := hone.posted (f, m) (mem_responses_of_invoked hinvoked htask) hop
      exact (Option.some.inj hposted).symm
    rcases takeCalls_held hreads.own hs hwaiting.held honce horig with ⟨hsame, s', hs', held⟩
    rw [htrace, hsame, hstate, hs', hwait]
    refine ⟨rfl, ?_⟩
    rintro w' s'' hw' hs''
    cases hw'
    cases hs''
    refine ⟨hone, ?_⟩
    rw [hreads.invoked, List.countP_append]
    exact held

/-- Reads may load the result of the wait, once. -/
theorem SyncOps.reads {n : Nat} {a a' : AsyncChannel F} (h : SyncOps n a)
    (hledger : ErrorLedger env a) {calls : List (HandlerCall (SyncIoFunc F))}
    (hreads : Reads env a calls a') : SyncOps n a' := by
  have hw := hledger.core.wellFormed
  have hands := hreads.handsOver
  have hnext : a.syncIo.sndMsgNextId ≤ a'.syncIo.sndMsgNextId :=
    (hreads.ran.responseMoves hw).next_le
  rcases h.readState hledger hreads with ⟨htrace, hheld⟩
  have hwaited : a'.waitedIds = a.waitedIds := by rw [waitedIds, htrace, waitedIds]
  constructor
  · exact hands.stateId.trans h.count
  · exact fun id hid => (h.fresh id hid).readsTo hw hreads.ran
  · intro w s' hwait hs'
    have hbefore : a.syncOpWait = some w := hands.wait ▸ hwait
    rcases SyncOpPaired.cases hledger.paired with ⟨hnone, _⟩ | ⟨w', s, hwait', hs⟩
    · rw [hnone] at hbefore
      cases hbefore
    · rw [hwait', Option.some.injEq] at hbefore
      subst hbefore
      have hwaiting := h.waiting w' s hwait' hs
      rcases hheld w' s' hwait' hs' with ⟨hone, held⟩
      exact ⟨hwaiting.begun, Nat.lt_of_lt_of_le hwaiting.sent hnext, hwaited ▸ hwaiting.later,
        hone, held⟩
  · exact hwaited ▸ h.waited
  · rw [hwaited]
    exact fun id hid => Nat.lt_of_lt_of_le (h.waitedSent id hid) hnext
  · rw [htrace]
    exact h.own
  · rw [htrace]
    exact h.asserts

/-! ## A call of {lit}`sync_request()` -/

/-- The request of a {lit}`sync_request()`, which passes its own response handler to the core. -/
theorem SyncOps.requested {n : Nat} {a : AsyncChannel F} (h : SyncOps n a)
    (hn : n + 1 < 2 ^ 32) (hnone : a.syncOpState = none) (msg : MsgOut) (orig : Option MsgIn) :
    SyncOps (n + 1) { a with
      syncOpStateId := (a.syncOpStateId + 1) % 2 ^ 32
      syncIo := a.syncIo.call env (.asyncRequest msg orig none (.syncOpRspFunc a.syncOpStateId)) }
    := by
  let x : Call (SyncIoFunc F) :=
    .asyncRequest msg orig none (.syncOpRspFunc a.syncOpStateId)
  have hnext := Channel.call_next_mono env a.syncIo x
  constructor
  · change (a.syncOpStateId + 1) % 2 ^ 32 = n + 1
    rw [h.count, Nat.mod_eq_of_lt hn]
  · intro id hid
    apply (h.fresh id (Nat.le_of_succ_le hid)).call x
    intro msg' orig' out' f' hreq
    simp only [x, Call.asyncRequest.injEq] at hreq
    rw [← hreq.2.2.2, h.count]
    simp only [SyncIoFunc.isOp, decide_eq_false_iff_not]
    omega
  · intro w s _ hs
    rw [hnone] at hs
    cases hs
  · exact h.waited
  · exact fun id hid => Nat.lt_of_lt_of_le (h.waitedSent id hid) hnext
  · exact h.own
  · exact h.asserts

/-- {lit}`sync_request()` up to its wait. -/
theorem SyncOps.syncRequest {n : Nat} {a : AsyncChannel F} (h : SyncOps n a)
    (hp : SyncOpPaired a) (hn : n + 1 < 2 ^ 32) (hfree : a.syncOpWait = none) (msg : MsgOut)
    (orig : Option MsgIn) (noTimeout : Bool) :
    SyncOps (n + 1) (a.syncRequest env msg orig noTimeout) := by
  have hnone : a.syncOpState = none := by
    rcases SyncOpPaired.cases hp with ⟨_, hnone⟩ | ⟨w, s, hwait, _⟩
    · exact hnone
    · rw [hfree] at hwait
      cases hwait
  have hrequested := @requested _ env _ _ h hn hnone msg orig
  have hone : (a.syncIo.call env
      (.asyncRequest msg orig none (.syncOpRspFunc a.syncOpStateId))).OneOff
        (SyncIoFunc.isOp n) (some a.syncIo.sndMsgNextId) :=
    (h.fresh n (Nat.le_refl n)).registered msg orig _
  have hnext : (a.syncIo.asyncRequest env msg orig none (.syncOpRspFunc a.syncOpStateId)).2.ret =
      true → (a.syncIo.asyncRequest env msg orig none
        (.syncOpRspFunc a.syncOpStateId)).1.sndMsgNextId = a.syncIo.sndMsgNextId + 1 :=
    Channel.asyncRequest_next
  simp only [Channel.call] at hrequested hone
  unfold AsyncChannel.syncRequest
  rw [hnone]
  simp only [assertThat, Option.isNone_none, if_true]
  generalize a.syncIo.asyncRequest env msg orig none (.syncOpRspFunc a.syncOpStateId) = r
    at hrequested hone hnext
  split
  · refine hrequested.frame hp ⟨rfl, rfl, hnone.symm, rfl, ⟨[_], rfl, ?_⟩, rfl⟩
    simp [Neutral, AsyncEvent.waited?, AsyncEvent.reportsErr]
  · rename_i hsent
    have hret : r.2.ret = true := by
      by_contra hret
      exact hsent (by simp [hret])
    constructor
    · exact hrequested.count
    · exact hrequested.fresh
    · intro w s hw hs
      cases hw
      cases hs
      refine ⟨?_, ?_, ?_, ?_, ?_⟩
      · rw [h.count]
        exact Nat.lt_succ_self n
      · change a.syncIo.sndMsgNextId < r.1.sndMsgNextId
        rw [hnext hret]
        exact Nat.lt_succ_self _
      · exact h.waitedSent
      · rw [h.count]
        exact hone
      · exact Held.fresh _ _
    · exact h.waited
    · exact hrequested.waitedSent
    · exact h.own
    · exact h.asserts

/-- {lit}`sync_request()` from its wait on. -/
theorem SyncOps.wakes {n : Nat} {a : AsyncChannel F} (h : SyncOps n a) (hp : SyncOpPaired a)
    {w : SyncOpWait} (hwait : a.syncOpWait = some w) : SyncOps n (a.syncRequestWakes w) := by
  rcases SyncOpPaired.cases hp with ⟨hnone, _⟩ | ⟨w', s, hwait', hs⟩
  · rw [hnone] at hwait
    cases hwait
  rw [hwait', Option.some.injEq] at hwait
  subst hwait
  have hwaiting := h.waiting w' s hwait' hs
  let ev : AsyncEvent F :=
    .syncRequestReturned w'.id w'.outMsgId (syncOpOutcome s.resultIfAny)
  have heq : a.syncRequestWakes w' =
      { a with syncOpState := none, syncOpWait := none, trace := a.trace ++ [ev] } := by
    rw [syncRequestWakes, hs]
    rfl
  have hwaited : ({ a with syncOpState := none, syncOpWait := none, trace := a.trace ++ [ev] } :
      AsyncChannel F).waitedIds = a.waitedIds ++ [w'.outMsgId] := by
    rw [waitedIds_append rfl]
    cases hresult : s.resultIfAny <;> simp [ev, hresult, syncOpOutcome, AsyncEvent.waited?]
  rw [heq]
  constructor
  · exact h.count
  · exact h.fresh
  · intro w s hw
    cases hw
  · rw [hwaited, List.pairwise_append]
    refine ⟨h.waited, List.pairwise_singleton _ _, ?_⟩
    intro id hid id' hid'
    rw [List.mem_singleton.1 hid']
    exact hwaiting.later id hid
  · rw [hwaited]
    apply List.forall_mem_append.2 ⟨h.waitedSent, ?_⟩
    intro id hid
    rw [List.mem_singleton.1 hid]
    exact hwaiting.sent
  · apply h.own_append rfl
    intro id outMsgId rsp hmem
    rw [List.mem_singleton] at hmem
    cases hresult : s.resultIfAny with
    | requestResult rsp' =>
        simp only [ev, hresult, syncOpOutcome, AsyncEvent.syncRequestReturned.injEq,
          SyncOpOutcome.response.injEq] at hmem
        rw [hmem.2.1, hmem.2.2]
        exact (hwaiting.held.response rsp' hresult).1
    | _ => simp [ev, hresult, syncOpOutcome] at hmem
  · apply h.asserts_append rfl
    intro x _ hmem
    simp [ev] at hmem

/-- The error task leaves a response as the result, and an error loads it once. -/
theorem SyncOps.runOnErr {n : Nat} {a : AsyncChannel F} (h : SyncOps n a)
    (hledger : ErrorLedger env a) {f : F} {e : Option ErrorCode} {rest : List (WorkerTask F)}
    (hworker : a.worker = .onErr f e :: rest) :
    SyncOps n (({ a with worker := rest } : AsyncChannel F).runOnErr f e) := by
  let b : AsyncChannel F := { a with worker := rest }
  have hinvoked : SyncOps n (b.invoke f [] (.onErr f e)) := by
    refine h.change hledger.paired rfl rfl rfl
      (show _ = a.trace ++ [AsyncEvent.onErr f e] from rfl) ?_ ?_
    · intro ev hev
      rw [List.mem_singleton.1 hev]
      exact ⟨rfl, by simp⟩
    · intro w m s s' hs hs' held
      have heq : s = s' := Option.some.inj (hs.symm.trans hs')
      exact heq ▸ held
  change SyncOps n (b.runOnErr f e)
  rcases hstate : b.syncOpState with _ | s
  · rw [runOnErr_free hstate]
    exact hinvoked
  · have hs : a.syncOpState = some s := hstate
    cases hresult : s.resultIfAny with
    | monostate =>
        rw [runOnErr_waits hstate hresult]
        refine h.change hledger.paired rfl rfl rfl (List.append_nil _).symm (by simp) ?_
        intro w m s₁ s' hs₁ hs' held
        have heq : s = s₁ := Option.some.inj (hs.symm.trans hs₁)
        subst heq
        cases hs'
        have hsignal := held.signal
        rw [hresult, if_pos rfl] at hsignal
        exact ⟨held.id, by simp [hsignal], by simp⟩
    | errorCode e' =>
        -- The error of the wait and the one of this task would be two reports.
        have hone := hledger.le_one
        rw [errorsTaken, errTasks, hworker, List.filter_cons_of_pos rfl, hs, Option.any_some,
          SyncOpState.failed, hresult, if_pos rfl, List.length_cons] at hone
        omega
    | requestResult rsp =>
        rw [runOnErr_responded hstate hresult]
        exact hinvoked

/-! ## Every step -/

/-- No request was made on a new channel. -/
theorem ctor_syncOps (env : Env) (args : CtorArgs) :
    SyncOps 0 (ctor env args : AsyncChannel F) := by
  have hnew : SyncOps 0 ({ syncIo := Channel.ctor args } : AsyncChannel F) := by
    constructor
    · rfl
    · exact fun id _ => Channel.oneOff_ctor args
    · intro w s hw
      cases hw
    · exact List.Pairwise.nil
    · simp [waitedIds]
    · simp
    · simp
  exact hnew.coreCall .startOps (by simp)

/-- What every step keeps, as long as the sync-op IDs do not repeat. -/
theorem step_syncOps {n : Nat} {a a' : AsyncChannel F} {l : AsyncLabel F} (h : SyncOps n a)
    (hledger : ErrorLedger env a) (hn : n + (if l.isSyncRequest then 1 else 0) < 2 ^ 32)
    (hstep : a.step env l = some a') : SyncOps (n + if l.isSyncRequest then 1 else 0) a' := by
  have hmove : WaitMove env a l a' := step_waitMove hledger.idle hstep
  cases hmove with
  | core x a₁ a' calls frame reads =>
      have hcalled : SyncOps n { a with syncIo := a.syncIo.call env x.core } :=
        h.coreCall x.core fun _ _ _ _ hreq id => AsyncCall.core_registers hreq id
      have hover : a.syncIo.startsOver x.core = false := (step_call_eq_some.1 hstep).1
      have hledger₁ := (hledger.coreCall hover fun _ hf => AsyncCall.core_starts hf).frame frame
      simp only [AsyncLabel.isSyncRequest, Bool.false_eq_true, if_false, Nat.add_zero]
      exact (hcalled.frame hledger.paired frame).reads hledger₁ reads
  | reads l a' calls other reads =>
      simp only [other, Bool.false_eq_true, if_false, Nat.add_zero]
      exact h.reads hledger reads
  | neutral l a' other frame =>
      simp only [other, Bool.false_eq_true, if_false, Nat.add_zero]
      exact h.frame hledger.paired frame
  | syncRequest msg orig noTimeout free =>
      exact h.syncRequest hledger.paired hn free msg orig noTimeout
  | wakes w wait => exact h.wakes hledger.paired wait
  | onErr f e rest queue => exact h.runOnErr hledger queue

/-! ## Runs -/

/-- Two events of the record that give the same are one, if nothing is given twice. -/
theorem eq_of_filterMap_nodup {α β : Type*} {f : α → Option β} {l : List α}
    (h : (l.filterMap f).Nodup) {x y : α} {b : β} (hx : x ∈ l) (hy : y ∈ l) (hfx : f x = some b)
    (hfy : f y = some b) : x = y := by
  induction l with
  | nil => cases hx
  | cons z l ih =>
      have hrest : (l.filterMap f).Nodup := by
        cases hz : f z with
        | none => rwa [List.filterMap_cons_none hz] at h
        | some c =>
            rw [List.filterMap_cons_some hz] at h
            exact (List.nodup_cons.1 h).2
      have hhead : ∀ {x' y' : α}, x' = z → y' ∈ l → f x' = some b → f y' = some b → False := by
        rintro x' y' rfl hy' hfx' hfy'
        rw [List.filterMap_cons_some hfx'] at h
        exact (List.nodup_cons.1 h).1 (List.mem_filterMap.2 ⟨y', hy', hfy'⟩)
      rcases List.mem_cons.1 hx with hxz | hx
      · rcases List.mem_cons.1 hy with hyz | hy
        · rw [hxz, hyz]
        · exact (hhead hxz hy hfx hfy).elim
      · rcases List.mem_cons.1 hy with hyz | hy
        · exact (hhead hyz hx hfy hfx).elim
        · exact ih hrest hx hy

/-- Keys of what one reading of a record gives, among those another one gives. -/
theorem map_filterMap_sublist {α β γ : Type*} {f : α → Option β} {g : α → Option γ} {k : β → γ}
    {l : List α} (h : ∀ x ∈ l, ∀ b, f x = some b → g x = some (k b)) :
    ((l.filterMap f).map k).Sublist (l.filterMap g) := by
  induction l with
  | nil => exact List.nil_sublist _
  | cons x l ih =>
      rcases List.forall_mem_cons.1 h with ⟨hx, hl⟩
      cases hf : f x with
      | none =>
          rw [List.filterMap_cons_none hf]
          apply (ih hl).trans
          exact (List.sublist_cons_self x l).filterMap g
      | some b =>
          rw [List.filterMap_cons_some hf, List.filterMap_cons_some (hx b hf), List.map_cons]
          exact (ih hl).cons_cons _

/-- The invariant says what the blocking requests return. -/
theorem SyncOps.ownResults {n : Nat} {a : AsyncChannel F} (h : SyncOps n a)
    (hledger : ErrorLedger env a) : OwnResults a := by
  have hnodup : a.waitedIds.Nodup := h.waited.imp Nat.ne_of_lt
  have hresponse : ∀ rsp ∈ a.returnedResponses,
      ∃ id outMsgId, .syncRequestReturned id outMsgId (.response rsp) ∈ a.trace := by
    intro rsp hrsp
    rcases List.mem_filterMap.1 hrsp with ⟨ev, hev, hret⟩
    cases ev with
    | syncRequestReturned id outMsgId outcome =>
        cases outcome with
        | response rsp' =>
            cases hret
            exact ⟨id, outMsgId, hev⟩
        | _ => cases hret
    | _ => cases hret
  constructor
  · exact h.own
  · -- The originating IDs are IDs of different out-messages.
    have hsub : (a.returnedResponses.map MsgIn.originatingMsgIdOrNone).Sublist a.waitedIds := by
      apply map_filterMap_sublist
      intro ev hev rsp hret
      cases ev with
      | syncRequestReturned id outMsgId outcome =>
          cases outcome with
          | response rsp' =>
              cases hret
              exact congrArg some (h.own id outMsgId rsp hev).symm
          | _ => cases hret
      | _ => cases hret
    exact (hnodup.sublist hsub).of_map _
  · intro id outMsgId htimeout rsp hrsp horig
    rcases hresponse rsp hrsp with ⟨id', outMsgId', hret⟩
    have hout : outMsgId' = outMsgId := (h.own id' outMsgId' rsp hret).symm.trans horig
    have heq := eq_of_filterMap_nodup hnodup htimeout hret rfl
      (congrArg some hout : some outMsgId' = some outMsgId)
    simp at heq
  · intro s hs
    rcases SyncOpPaired.cases hledger.paired with ⟨_, hnone⟩ | ⟨w, s', hwait, hs'⟩
    · rw [hnone] at hs
      cases hs
    · exact (h.waiting w s hwait hs).held.signal_le_one
  · exact h.asserts
  · have hone := hledger.le_one
    rw [errorsTaken] at hone
    omega

/-- The number of calls of {lit}`sync_request()` in a run. -/
def syncRequests (ls : List (AsyncLabel F)) : Nat :=
  ls.countP AsyncLabel.isSyncRequest

/-- What is known of the requests after every run with few enough of them. -/
theorem run_syncOps {args : CtorArgs} {ls : List (AsyncLabel F)} {a : AsyncChannel F}
    (hrun : run env (ctor env args) ls = some a) (hcalls : syncRequests ls < 2 ^ 32) :
    SyncOps (syncRequests ls) a := by
  refine Transition.run_history (fun ls a => syncRequests ls < 2 ^ 32 → SyncOps (syncRequests ls) a)
    (fun _ => ctor_syncOps env args) ?_ hrun hcalls
  intro ls a l a' hrun hinv hstep hcalls
  have hcount : syncRequests (ls ++ [l]) =
      syncRequests ls + if l.isSyncRequest then 1 else 0 := by
    rw [syncRequests, List.countP_append, List.countP_singleton]
    rfl
  rw [hcount] at hcalls ⊢
  exact step_syncOps (hinv (Nat.lt_of_le_of_lt (Nat.le_add_right _ _) hcalls)) (run_ledger hrun)
    hcalls hstep

/--
With fewer than 2^32 calls of {lit}`sync_request()`, each returns its own response or
none, and the hosing error is reported once.
-/
theorem sync_request_own_result {args : CtorArgs} {ls : List (AsyncLabel F)} {a : AsyncChannel F}
    (hrun : run env (ctor env args) ls = some a) (hcalls : syncRequests ls < 2 ^ 32) :
    OwnResults a :=
  (run_syncOps hrun hcalls).ownResults (run_ledger hrun)

/-- A response to the request with the ID is read. -/
def readResponse (originatingMsgId id : Nat) : List (AsyncLabel Nat) :=
  [.onActiveEv .front (.ok ⟨none, ReferenceCapnp.capnp.writeMdt
      (msgMdtOut .little ReferenceCapnp.token originatingMsgId id 1)⟩),
    .onActiveEv .front (.ok ⟨none, [7]⟩)]

/-- A {lit}`sync_request()` times out, and its response comes in during the next one. -/
def lateResponse : List (AsyncLabel Nat) :=
  [.call (.start 1 []),
    .onActiveEv .front (.ok (Channel.protoNegPayload (.reference .blobPipeOnly))),
    .syncRequest (ReferenceCapnp.msgOut none 7) none false, .syncRequestWakes,
    .syncRequest (ReferenceCapnp.msgOut none 7) none false] ++
  readResponse 1 1 ++ readResponse 2 2 ++ [.syncRequestWakes]

/-- The late response is dropped, and the second call returns its own. -/
theorem sync_request_own_result_late :
    ∃ a : AsyncChannel Nat, run (.reference .blobPipeOnly)
        (ctor (.reference .blobPipeOnly) .reference) lateResponse = some a ∧
      a.trace.length = 2 ∧
      a.returnedResponses.map MsgIn.originatingMsgIdOrNone = [2] ∧ OwnResults a := by
  have hruns : ((run (.reference .blobPipeOnly) (ctor (.reference .blobPipeOnly) .reference)
      lateResponse).any fun a => a.trace.length = 2 ∧
        a.returnedResponses.map MsgIn.originatingMsgIdOrNone = [2]) = true := by
    decide +kernel
  rcases (Option.any_eq_true _ _).1 hruns with ⟨a, hrun, ha⟩
  rcases of_decide_eq_true ha with ⟨htrace, hreturned⟩
  exact ⟨a, hrun, htrace, hreturned, sync_request_own_result hrun (by decide)⟩

end AsyncChannel
end StrucTransport
