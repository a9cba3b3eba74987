import StrucTransport.Async.Wait
import StrucTransport.Channel.Departure
import StrucTransport.Channel.FuncRoles
import StrucTransport.Property.Inert

/-!
# The messages that are given to user handlers

Thread W is a queue: the messages whose handlers were invoked, those left of the
batch that is being given, and those in the tasks that wait are one list, to which
a step only adds at the end.  What it adds has just left the core.

Main results:

- Theorem {lit}`AsyncChannel.step_given`: what a step adds left the core in that step.
- Theorem {lit}`AsyncChannel.run_given`: in every run the messages given and to be given
  are those the core brought to thread W, which left the core in this order.
-/

namespace StrucTransport

variable {F : Type}

/-- What the functions that are passed to {lit}`m_sync_io` are passed for. -/
def SyncIoFunc.isFor : FuncRole → SyncIoFunc F → Bool
  | .onMsg, .realOnMsgFunc _ => true
  | .onRsp, .realOnRspFunc _ => true
  | .onRsp, .syncOpRspFunc _ => true
  | .onUnexpectedResponse, .realOnUnexpectedFunc _ => true
  | .onRemoteUnexpectedResponse, .realOnRemoteUnexpectedFunc _ => true
  | .onErr, .onErrWrapper _ => true
  | _, _ => false

/-- A public method passes a function for its use. -/
theorem AsyncCall.core_passes (x : AsyncCall F) :
    ∀ p, x.core.passes = some p → p.2.isFor p.1 = true := by
  intro p hp
  cases x <;> first | exact Option.some.inj hp ▸ rfl | cases hp

/-- The messages a task gives to its handler. -/
def WorkerTask.departures : WorkerTask F → List Departure
  | .onMsg _ m => [(.expected, m)]
  | .onQdMsgs _ ms => ms.map fun m => (.queued, m)
  | .onRsp _ m => [(.expected, m)]
  | .onUnexpectedResponse _ m => [(.unexpectedResponse, m)]
  | _ => []

/-- The message the user handler was invoked with. -/
def AsyncEvent.departure? : AsyncEvent F → Option Departure
  | .onMsg _ m => some (.expected, m)
  | .onQdMsg _ m => some (.queued, m)
  | .onRsp _ m => some (.expected, m)
  | .onUnexpectedResponse _ m => some (.unexpectedResponse, m)
  | _ => none

namespace AsyncChannel

variable {env : Env}

/-- The messages that user handlers were invoked with, in order. -/
def handled (a : AsyncChannel F) : List Departure :=
  a.trace.filterMap AsyncEvent.departure?

/-- The messages that are left of the task that is running. -/
def beingGiven (a : AsyncChannel F) : List Departure :=
  ((a.running.map RunningTask.qdMsgsLeft).getD []).map fun m => (.queued, m)

/-- The messages that user handlers were invoked with, or will be. -/
def given (a : AsyncChannel F) : List Departure :=
  a.handled ++ a.beingGiven ++ a.worker.flatMap WorkerTask.departures

/-! ## Thread W -/

/-- Events that are no invocations with a message, and tasks that are posted. -/
theorem given_append {a a' : AsyncChannel F} {evs : List (AsyncEvent F)} {ts : List (WorkerTask F)}
    (htrace : a'.trace = a.trace ++ evs) (hevs : ∀ ev ∈ evs, ev.departure? = none)
    (hrunning : a'.running = a.running) (hworker : a'.worker = a.worker ++ ts) :
    a'.given = a.given ++ ts.flatMap WorkerTask.departures := by
  rw [given, handled, htrace, List.filterMap_append, List.filterMap_eq_nil_iff.2 hevs,
    List.append_nil, beingGiven, hrunning, hworker, List.flatMap_append, ← List.append_assoc]
  rfl

/-- Tasks without a message give nothing. -/
theorem given_quiet {a a' : AsyncChannel F} (evs : List (AsyncEvent F)) (ts : List (WorkerTask F))
    (htrace : a'.trace = a.trace ++ evs) (hevs : ∀ ev ∈ evs, ev.departure? = none)
    (hrunning : a'.running = a.running) (hworker : a'.worker = a.worker ++ ts)
    (hts : ts.flatMap WorkerTask.departures = []) : a'.given = a.given := by
  rw [given_append htrace hevs hrunning hworker, hts, List.append_nil]

/-- A task that begins gives its messages in order. -/
theorem invoke_given (a : AsyncChannel F) (f : F) (left : List MsgIn) (ev : AsyncEvent F) :
    (a.invoke f left ev).given =
      a.handled ++ (ev.departure?.toList ++ left.map fun m => (.queued, m)) ++
        a.worker.flatMap WorkerTask.departures := by
  have hhandled : (a.invoke f left ev).handled = a.handled ++ ev.departure?.toList := by
    change (a.trace ++ [ev]).filterMap AsyncEvent.departure? = _
    rw [List.filterMap_append]
    cases h : ev.departure? with
    | none => rw [List.filterMap_cons_none h]; rfl
    | some d => rw [List.filterMap_cons_some h]; rfl
  rw [given, hhandled, List.append_assoc a.handled]
  rfl

/-- While no handler runs, what was given is what was handled and what thread W will. -/
theorem given_idle {a : AsyncChannel F} (hidle : a.running = none) :
    a.given = a.handled ++ a.worker.flatMap WorkerTask.departures := by
  rw [given, beingGiven, hidle]
  simp

/-- Thread W begins the first task that waits. -/
theorem runTask_given {a : AsyncChannel F} {t : WorkerTask F} {rest : List (WorkerTask F)}
    (hidle : a.running = none) (hworker : a.worker = t :: rest) :
    (({ a with worker := rest } : AsyncChannel F).runTask t).given = a.given := by
  let b : AsyncChannel F := { a with worker := rest }
  have hb : b.running = none := hidle
  have hbefore : a.given = b.handled ++ (t.departures ++ rest.flatMap WorkerTask.departures) := by
    rw [given_idle hidle, hworker, List.flatMap_cons]
    rfl
  have hinvoked : ∀ (b : AsyncChannel F) f left ev, b.running = none →
      ev.departure?.toList ++ left.map (fun m => ((.queued, m) : Departure)) = t.departures →
      b.handled = a.handled → b.worker = rest → (b.invoke f left ev).given = a.given := by
    intro b f left ev hb htask hhandled hrest
    rw [invoke_given b, htask, hbefore, hrest, hhandled, List.append_assoc]
    rfl
  have hquiet : ∀ b' : AsyncChannel F, b'.running = none → b'.handled = a.handled →
      b'.worker = rest → t.departures = [] → b'.given = a.given := by
    intro b' hb' hhandled hrest htask
    rw [given_idle hb', hhandled, hrest, hbefore, htask]
    rfl
  change (b.runTask t).given = a.given
  cases t with
  | onMsg f m => exact hinvoked b f [] _ hb rfl rfl rfl
  | onRsp f m => exact hinvoked b f [] _ hb rfl rfl rfl
  | onUnexpectedResponse f m => exact hinvoked b f [] _ hb rfl rfl rfl
  | onRemoteUnexpectedResponse f id text => exact hinvoked b f [] _ hb rfl rfl rfl
  | onQdMsgs f ms =>
      cases ms with
      | nil => exact hquiet b hb rfl rfl rfl
      | cons m ms => exact hinvoked b f ms _ hb rfl rfl rfl
  | onErr f e =>
      change (b.runOnErr f e).given = a.given
      unfold runOnErr
      split
      · exact hinvoked b f [] _ hb rfl rfl rfl
      · split
        · exact hquiet _ hb rfl rfl rfl
        · refine hinvoked _ f [] _ hb rfl ?_ rfl
          simp [assertThat, log, handled, List.filterMap_append, AsyncEvent.departure?, b]
        · exact hinvoked b f [] _ hb rfl rfl rfl
  | endSendingDone e =>
      simp only [runTask]
      split
      · refine hquiet _ hb ?_ rfl rfl
        simp [log, handled, List.filterMap_append, AsyncEvent.departure?, b]
      · exact hinvoked _ _ [] _ hb rfl rfl rfl

/-- The running task goes on. -/
theorem handlerReturned_given {a : AsyncChannel F} {r : RunningTask F}
    (hrunning : a.running = some r) : (a.handlerReturned r).given = a.given := by
  rcases r with ⟨f, _ | ⟨m, left⟩⟩
  · change ({ a with running := none } : AsyncChannel F).given = a.given
    simp [given, handled, beingGiven, hrunning]
  · change (a.invoke f left (.onQdMsg f m)).given = a.given
    simp [given, handled, beingGiven, hrunning, invoke, log, List.filterMap_append,
      AsyncEvent.departure?]

/-! ## What leaves the core -/

/-- The messages that the event brings to the queue of thread W. -/
def delivered (ev : Event (SyncIoFunc F)) : List Departure :=
  ((ev.invoked?.toList.flatMap callPosts).flatMap WorkerTask.departures) ++
    ev.handedOutMsgs.map fun m => (.queued, m)

/-- The messages that the core brought to the queue of thread W, in order. -/
def deliveries (c : Channel (SyncIoFunc F)) : List Departure :=
  c.trace.flatMap delivered

/-- Invocations bring what they post. -/
theorem deliveries_invoked {c c' : Channel (SyncIoFunc F)}
    {calls : List (HandlerCall (SyncIoFunc F))} (tr : List (Event (SyncIoFunc F)))
    (htrace : c'.trace = c.trace ++ tr) (hcalls : tr.filterMap Event.invoked? = calls)
    (hout : c'.handedOutMsgs = c.handedOutMsgs) :
    deliveries c' = deliveries c ++ (calls.flatMap callPosts).flatMap WorkerTask.departures := by
  have hnone : tr.flatMap Event.handedOutMsgs = [] := by
    rw [Channel.handedOutMsgs, htrace, List.flatMap_append] at hout
    exact List.append_right_eq_self.1 hout
  rw [deliveries, htrace, List.flatMap_append, ← hcalls]
  congr 1
  clear htrace hout hcalls
  induction tr with
  | nil => rfl
  | cons ev tr ih =>
      rw [List.flatMap_cons, List.append_eq_nil_iff] at hnone
      have hone : (ev :: tr).filterMap Event.invoked? =
          ev.invoked?.toList ++ tr.filterMap Event.invoked? := by
        cases h : ev.invoked? <;> simp [h]
      rw [List.flatMap_cons, ih hnone.2, hone, List.flatMap_append, List.flatMap_append, delivered,
        hnone.1, List.map_nil, List.append_nil]

/-- A public method brings what it hands out. -/
theorem deliveries_handedOut {c c' : Channel (SyncIoFunc F)} {ms : List MsgIn}
    (tr : List (Event (SyncIoFunc F))) (htrace : c'.trace = c.trace ++ tr)
    (hnone : tr.filterMap Event.invoked? = []) (hout : c'.handedOutMsgs = c.handedOutMsgs ++ ms) :
    deliveries c' = deliveries c ++ ms.map fun m => (.queued, m) := by
  have hms : tr.flatMap Event.handedOutMsgs = ms := by
    rw [Channel.handedOutMsgs, htrace, List.flatMap_append] at hout
    exact List.append_cancel_left hout
  rw [deliveries, htrace, List.flatMap_append, ← hms, List.map_flatMap]
  congr 1
  apply List.flatMap_congr
  intro ev hev
  rw [List.filterMap_eq_nil_iff] at hnone
  rw [delivered, hnone ev hev]
  rfl

/-- An invocation posts the message of its task, if it posts any. -/
theorem callPosts_departures (call : HandlerCall (SyncIoFunc F)) :
    ((callPosts call).flatMap WorkerTask.departures).Sublist call.1.departure?.toList := by
  rcases call with ⟨t, f, e⟩
  cases f <;> cases t <;> simp [callPosts, SyncIoFunc.workerTask, WorkerTask.departures,
    Task.departure?]

/-- The messages of the invocations are messages of tasks that were started. -/
theorem invoked_departures (tr : List (Event (SyncIoFunc F))) :
    (((tr.filterMap Event.invoked?).flatMap callPosts).flatMap WorkerTask.departures).Sublist
      ((tr.filterMap Event.task?).filterMap Task.departure?) := by
  induction tr with
  | nil => exact List.nil_sublist _
  | cons ev tr ih =>
      have hone : (((ev.invoked?.toList).flatMap callPosts).flatMap WorkerTask.departures).Sublist
          ((ev.task?.toList).filterMap Task.departure?) := by
        cases ev with
        | invoked t f e =>
            have hcall := callPosts_departures (t, f, e)
            cases h : t.departure? <;> simpa [Event.invoked?, Event.task?, h] using hcall
        | _ => exact List.nil_sublist _
      have hinvoked : (ev :: tr).filterMap Event.invoked? =
          ev.invoked?.toList ++ tr.filterMap Event.invoked? := by
        cases h : ev.invoked? <;> simp [h]
      have hstarted : (ev :: tr).filterMap Event.task? =
          ev.task?.toList ++ tr.filterMap Event.task? := by
        cases h : ev.task? <;> simp [h]
      rw [hinvoked, hstarted, List.flatMap_append, List.flatMap_append, List.filterMap_append]
      exact hone.append ih

/-- Between the steps all messages that were posted belong to tasks that were started. -/
theorem postedDepartures_idle {c : Channel (SyncIoFunc F)} (h : Channel.Reachable env c)
    (hidle : c.polling = none) : c.postedDepartures =
      (c.trace.filterMap Event.task?).filterMap Task.departure? := by
  have hnone : c.syncIoHandlers.filterMap Task.departure? = [] := by
    rw [List.filterMap_eq_nil_iff]
    intro t ht
    rw [h.syncIoHandlers t ht]
    rfl
  rw [Channel.postedDepartures, Channel.postedTasks, Channel.batchRest, hidle,
    List.filterMap_append, hnone, List.append_nil]
  simp

/-- A run of the core lets messages go in order. -/
theorem readsTo_departs {c c' : Channel (SyncIoFunc F)} (h : Channel.Reachable env c)
    (hreads : Channel.ReadsTo env c c') :
    Channel.Reachable env c' ∧ ∃ ds, Channel.Departs (none, c) ds (none, c') := by
  apply hreads.invariant fun c' =>
    Channel.Reachable env c' ∧ ∃ ds, Channel.Departs (none, c) ds (none, c')
  · rintro c₁ l c₂ _ hstep ⟨hreach, ds, hds⟩
    rcases Channel.step_departs hreach hstep with ⟨ds', hds'⟩
    exact ⟨hreach.step hstep, ds ++ ds', hds.trans hds'⟩
  · exact ⟨h, [], .refl _⟩

/-- What a batch brings left the core, in this order. -/
theorem Reads.departs {a a' : AsyncChannel F} {calls : List (HandlerCall (SyncIoFunc F))}
    (h : Reads env a calls a') (hreach : Channel.Reachable env a.syncIo)
    (hidle : a.syncIo.polling = none) :
    Channel.Reachable env a'.syncIo ∧
      deliveries a'.syncIo =
        deliveries a.syncIo ++ (calls.flatMap callPosts).flatMap WorkerTask.departures ∧
      ∃ ds, Channel.Departs (none, a.syncIo) ds (none, a'.syncIo) ∧
        ((calls.flatMap callPosts).flatMap WorkerTask.departures).Sublist ds := by
  rcases readsTo_departs hreach h.ran with ⟨hreach', ds, hds⟩
  have hout : a'.syncIo.handedOutMsgs = a.syncIo.handedOutMsgs := h.ran.handedOut
  rcases h.ran with ⟨ls, _, hrun⟩
  rcases Channel.run_trace_mono hreach.wellFormed hrun with ⟨tr, htr⟩
  have hcalls : tr.filterMap Event.invoked? = calls := by
    have hinvoked := h.invoked
    rw [Channel.invokedCalls, ← htr, List.filterMap_append] at hinvoked
    exact List.append_cancel_left hinvoked
  refine ⟨hreach', deliveries_invoked tr htr.symm hcalls hout, ds, hds, ?_⟩
  have hstarted : (tr.filterMap Event.task?).filterMap Task.departure? =
      ds.filter fun d => d.1 ≠ .queued := by
    have hposted := hds.posted
    simp only at hposted
    rw [postedDepartures_idle hreach' h.idle, postedDepartures_idle hreach hidle, ← htr,
      List.filterMap_append, List.filterMap_append] at hposted
    exact List.append_cancel_left hposted
  have hsub := invoked_departures tr
  rw [hcalls, hstarted] at hsub
  exact hsub.trans List.filter_sublist

/-! ## Public methods -/

/-- The tasks that a public method posts give the messages its call of the core hands out. -/
theorem queued_departures (a : AsyncChannel F) (x : AsyncCall F) :
    (queued env a x).flatMap WorkerTask.departures =
      (Channel.callHandsOut env a.syncIo x.core).map fun m => (.queued, m) := by
  have hone : ∀ (f : F) (qdMsg : Option (Option MsgIn)),
      (qdMsgPost f qdMsg).flatMap WorkerTask.departures =
        (qdMsg.getD none).toList.map fun m => (.queued, m) := by
    intro f qdMsg
    rcases qdMsg with _ | _ | m <;> rfl
  have hall : ∀ (f : F) (qdMsgs : List MsgIn),
      (qdMsgsPost f qdMsgs).flatMap WorkerTask.departures = qdMsgs.map fun m => (.queued, m) := by
    intro f qdMsgs
    cases qdMsgs <;> simp [qdMsgsPost, WorkerTask.departures]
  cases x with
  | expectMsg which f => exact hone f _
  | expectLogInRequest which f => exact hone f _
  | expectMsgs which f => exact hall f _
  | _ => rfl

/-- A call of the core brings what it hands out, which left the core. -/
theorem core_departs {c : Channel (SyncIoFunc F)} {x : Call (SyncIoFunc F)}
    (hover : c.startsOver x = false) (hreach : Channel.Reachable env c) :
    Channel.Reachable env (c.call env x) ∧
      deliveries (c.call env x) =
        deliveries c ++ (Channel.callHandsOut env c x).map (fun m => (.queued, m)) ∧
      ∃ ds, Channel.Departs (none, c) ds (none, c.call env x) ∧
        ((Channel.callHandsOut env c x).map fun m => ((.queued, m) : Departure)).Sublist ds := by
  have hstep : Channel.step env c (.call x) = some (c.call env x) :=
    Channel.step_call_eq_some.2 ⟨hover, rfl⟩
  have hout : (c.call env x).handedOutMsgs = c.handedOutMsgs ++ Channel.callHandsOut env c x :=
    Channel.call_handedOut env c x
  rcases Channel.step_departs hreach hstep with ⟨ds, hds⟩
  refine ⟨hreach.step hstep, ?_, ds, hds, ?_⟩
  · rcases (Channel.call_frame env c x).trace with ⟨tr, htr, hby⟩
    apply deliveries_handedOut tr htr _ hout
    rw [List.filterMap_eq_nil_iff]
    intro ev hev
    have hcall := hby ev hev
    cases ev <;> simp [Event.byCall, Event.invoked?] at hcall ⊢
  · have hsnd : (ds.filter fun d => d.1 = .queued).map Prod.snd = Channel.callHandsOut env c x :=
      List.append_cancel_left (hds.handedOut.symm.trans hout)
    have hfst : (ds.filter fun d => d.1 = .queued) =
        (Channel.callHandsOut env c x).map fun m => (.queued, m) := by
      rw [← hsnd, List.map_map]
      symm
      apply (List.map_congr_left _).trans (List.map_id _)
      intro d hd
      have hqd : d.1 = .queued := by simpa using (List.mem_filter.1 hd).2
      exact Prod.ext hqd.symm rfl
    rw [← hfst]
    exact List.filter_sublist

/-- A public method other than an expectation call brings nothing. -/
theorem core_quiet {c : Channel (SyncIoFunc F)} {x : Call (SyncIoFunc F)}
    (hover : c.startsOver x = false) (hnone : Channel.callHandsOut env c x = [])
    (hreach : Channel.Reachable env c) :
    Channel.Reachable env (c.call env x) ∧ deliveries (c.call env x) = deliveries c ∧
      ∃ ds, Channel.Departs (none, c) ds (none, c.call env x) := by
  rcases core_departs hover hreach with ⟨hreach', hdelivered, ds, hds, _⟩
  rw [hnone, List.map_nil, List.append_nil] at hdelivered
  exact ⟨hreach', hdelivered, ds, hds⟩

/-! ## Steps -/

/--
Thread W has given, or will give, just what the core brought to its queue, in that
order; and that left the core in order.
-/
structure Given (env : Env) (a : AsyncChannel F) : Prop where
  core : Channel.Reachable env a.syncIo
  idle : a.syncIo.polling = none
  held : Channel.Held SyncIoFunc.isFor a.syncIo
  given : a.given = deliveries a.syncIo
  departed : ∃ ds, Channel.Departed ds (none, a.syncIo) ∧ (deliveries a.syncIo).Sublist ds

/-- What the core brings is given. -/
theorem Given.of_departs {a a' : AsyncChannel F} (h : Given env a)
    (hcore : Channel.Reachable env a'.syncIo) (hidle : a'.syncIo.polling = none)
    (hheld : Channel.Held SyncIoFunc.isFor a'.syncIo) {ds new : List Departure}
    (hds : Channel.Departs (none, a.syncIo) ds (none, a'.syncIo))
    (hgiven : a'.given = a.given ++ new)
    (hdelivered : deliveries a'.syncIo = deliveries a.syncIo ++ new) (hnew : new.Sublist ds) :
    Given env a' := by
  rcases h.departed with ⟨ds₀, hds₀, hsub⟩
  refine ⟨hcore, hidle, hheld, ?_, ds₀ ++ ds, hds.ordered ds₀ hds₀, ?_⟩
  · rw [hgiven, hdelivered, h.given]
  · rw [hdelivered]
    exact hsub.append hnew

/-- The core stays as it is. -/
theorem Given.of_same {a a' : AsyncChannel F} (h : Given env a) (hcore : a'.syncIo = a.syncIo)
    (hgiven : a'.given = a.given) : Given env a' := by
  refine ⟨?_, ?_, ?_, ?_, ?_⟩
  · rw [hcore]
    exact h.core
  · rw [hcore]
    exact h.idle
  · rw [hcore]
    exact h.held
  · rw [hcore, hgiven]
    exact h.given
  · rw [hcore]
    exact h.departed

/-- The core is called, and nothing is given. -/
theorem Given.of_call {a a' : AsyncChannel F} (h : Given env a) {x : Call (SyncIoFunc F)}
    (hover : a.syncIo.startsOver x = false) (hx : ∀ p, x.passes = some p → p.2.isFor p.1 = true)
    (hnone : Channel.callHandsOut env a.syncIo x = []) (hcore : a'.syncIo = a.syncIo.call env x)
    (hgiven : a'.given = a.given) : Given env a' := by
  have hidle : a'.syncIo.polling = none := by
    rw [hcore]
    exact (Channel.call_frame env a.syncIo x).polling.trans h.idle
  rcases core_quiet hover hnone h.core with ⟨hreach, hdelivered, ds, hds⟩
  have hheld : Channel.Held SyncIoFunc.isFor (a.syncIo.call env x) := h.held.call x hx
  rw [← hcore] at hreach hdelivered hds hheld
  exact h.of_departs hreach hidle hheld hds (hgiven.trans (List.append_nil _).symm)
    (hdelivered.trans (List.append_nil _).symm) (List.nil_sublist ds)

/-- Reads give what their batches post. -/
theorem Given.reads {a a' : AsyncChannel F} {calls : List (HandlerCall (SyncIoFunc F))}
    (h : Given env a) (hreads : Reads env a calls a') : Given env a' := by
  have hhands : HandsOver a a' := hreads.handsOver
  rcases hreads.departs h.core h.idle with ⟨hreach, hdelivered, ds, hds, hsub⟩
  rcases hhands.trace with ⟨evs, htrace, hall⟩
  refine h.of_departs hreach hreads.idle (h.held.readsTo hreads.ran) hds
    (given_append htrace ?_ hhands.running ?_) hdelivered hsub
  · intro ev hev
    rw [hall ev hev]
    rfl
  · rw [hreads.taken]
    exact takeCalls_worker a calls

/-- A public method gives the queued messages it posts. -/
theorem Given.called {a : AsyncChannel F} (h : Given env a) (x : AsyncCall F)
    (hover : a.syncIo.startsOver x.core = false) : Given env (called env a x) := by
  rcases core_departs hover h.core with ⟨hreach, hdelivered, ds, hds, hsub⟩
  have hqueued : (queued env a x).flatMap WorkerTask.departures =
      (Channel.callHandsOut env a.syncIo x.core).map fun m => (.queued, m) := queued_departures a x
  rw [← hqueued] at hdelivered hsub
  refine h.of_departs hreach ?_ (h.held.call x.core x.core_passes) hds
    (given_append (List.append_nil _).symm (by simp) rfl rfl) hdelivered hsub
  exact (Channel.call_frame env a.syncIo x.core).polling.trans h.idle

/-- The end of sending gives nothing. -/
theorem asyncEndSending_given {a a' : AsyncChannel F} {f : F} {result : EndSendingResult}
    (hmove : Move env a (.call (.asyncEndSending f result)) a') : a'.given = a.given := by
  have hquiet : ∀ ret, ∀ ev ∈ [(.asyncEndSendingReturned f ret : AsyncEvent F)],
      ev.departure? = none := by
    intro ret ev hmem
    rw [List.mem_singleton.1 hmem]
    rfl
  cases hmove with
  | calls x a' hands other eq => exact absurd rfl (other f result)
  | endSendingRefused f result c =>
      exact given_quiet _ [] rfl (hquiet false) rfl (List.append_nil _).symm rfl
  | endSendingBlocks f c free unended ended =>
      exact given_quiet _ [] rfl (hquiet true) rfl (List.append_nil _).symm rfl
  | endSendingDone f e c free unended ended =>
      exact given_quiet _ [.endSendingDone e] rfl (hquiet true) rfl rfl rfl

/-- Neither half of a {lit}`sync_request()` gives anything. -/
theorem syncOpFrame_given {a a' : AsyncChannel F} (h : SyncOpFrame a a') : a'.given = a.given := by
  rcases h.trace with ⟨evs, htrace, hall⟩
  apply given_quiet evs [] htrace _ h.running (h.worker.trans (List.append_nil _).symm) rfl
  intro ev hev
  rcases hall ev hev with ⟨x, rfl, _⟩ | ⟨id, outMsgId, outcome, rfl⟩ <;> rfl

/-- The call of the core that a {lit}`sync_request()` makes. -/
theorem syncRequest_core (a : AsyncChannel F) (msg : MsgOut) (orig : Option MsgIn)
    (noTimeout : Bool) : (a.syncRequest env msg orig noTimeout).syncIo =
      a.syncIo.call env (.asyncRequest msg orig none (.syncOpRspFunc a.syncOpStateId)) := by
  unfold syncRequest
  cases a.syncOpState <;> simp only <;> split <;> rfl

/-- What a step adds to what is given has left the core in that step. -/
theorem step_given {a a' : AsyncChannel F} {l : AsyncLabel F} (h : Given env a)
    (hstep : a.step env l = some a') : Given env a' := by
  have hmove : Move env a l a' := step_move hstep
  by_cases hend : ∃ f result, l = .call (.asyncEndSending f result)
  · rcases hend with ⟨f, result, rfl⟩
    have heq : (a.asyncEndSending env f result).1 = a' := (step_call_eq_some.1 hstep).2.symm
    have hgiven := asyncEndSending_given hmove
    rcases @asyncEndSending_called F env a f result with hsame | hcalled
    · exact h.of_same (heq ▸ hsame) hgiven
    · exact h.of_call (x := .asyncEndSending) rfl (by simp [Call.passes]) rfl (heq ▸ hcalled) hgiven
  cases hmove with
  | calls x a' hands other eq =>
      have hover := (step_call_eq_some.1 hstep).1
      subst eq
      rcases @call_reads F env a x other h.idle with ⟨calls, hreads⟩
      exact (h.called x hover).reads hreads
  | onActiveEv slot result a' hands idle eq =>
      rcases onActiveEv_reads eq with ⟨calls, hreads⟩
      exact h.reads hreads
  | syncRequest msg orig noTimeout free =>
      have hframe : SyncOpFrame a (a.syncRequest env msg orig noTimeout) :=
        syncRequest_frame a msg orig noTimeout
      refine h.of_call rfl ?_ rfl (syncRequest_core a msg orig noTimeout) (syncOpFrame_given hframe)
      intro p hp
      exact Option.some.inj hp ▸ rfl
  | wakes w wait can =>
      exact h.of_same (syncRequestWakes_syncIo a w) (syncOpFrame_given (syncRequestWakes_frame a w))
  | endSendingFinishes e idle unfinished =>
      refine h.of_same rfl ?_
      exact given_quiet [] [.endSendingDone e] (List.append_nil _).symm (by simp) rfl rfl rfl
  | runTask t rest idle queue =>
      exact h.of_same (runTask_syncIo _ t) (runTask_given idle queue)
  | handlerReturned r running =>
      exact h.of_same (handlerReturned_syncIo a r) (handlerReturned_given running)
  | endSendingRefused f result c => exact absurd ⟨f, result, rfl⟩ hend
  | endSendingBlocks f c free unended ended => exact absurd ⟨f, .wouldBlock, rfl⟩ hend
  | endSendingDone f e c free unended ended => exact absurd ⟨f, .finished e, rfl⟩ hend

/-- A new channel has given nothing. -/
theorem ctor_given (args : CtorArgs) : Given env (ctor env args : AsyncChannel F) := by
  have hnew : Given env ({ syncIo := Channel.ctor args } : AsyncChannel F) := by
    refine ⟨⟨args, [], rfl⟩, ?_, Channel.held_ctor args, ?_, [], ?_, ?_⟩
    · cases args <;> rfl
    · cases args <;> rfl
    · have hpending : (Channel.ctor args : Channel (SyncIoFunc F)).rcvPendingMsgs = ∅ := by
        cases args <;> rfl
      refine ⟨by simp, List.Pairwise.nil, fun _ => List.Pairwise.nil, by simp, ?_⟩
      simp [Channel.pendingMsgs, hpending]
    · cases args <;> exact List.nil_sublist []
  exact hnew.of_call (x := .startOps) rfl (by simp [Call.passes]) rfl rfl rfl

/-- In every run the messages given and to be given left the core in this order. -/
theorem run_given {args : CtorArgs} {ls : List (AsyncLabel F)} {a : AsyncChannel F}
    (hrun : run env (ctor env args) ls = some a) : Given env a :=
  Transition.run_invariant (Given env) (fun _ _ _ h hstep => step_given h hstep)
    (ctor_given args) hrun

end AsyncChannel
end StrucTransport
