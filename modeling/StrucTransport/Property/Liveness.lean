import StrucTransport.Lib.Rest
import StrucTransport.Net.Activity
import StrucTransport.Net.Enabled
import StrucTransport.Property.EndToEnd

/-!
# What was sent is handled

Two async-I/O channels over transports that do not fail, left alone: the users of
both make no more calls, reads complete, and thread W runs its tasks.  A read can
make a channel send an internal message, which is read in its turn, so that it is
not plain that this comes to an end.

Main results:

- Theorem {lit}`AsyncChannel.onActiveEv_workLeft`: what a read brings to thread W.
- Theorem {lit}`AsyncDuplex.lessLeft`: each step lowers what is left to do.
- Theorem {lit}`AsyncDuplex.comes_to_rest`: so the channels come to rest, and then
  every message has reached its place.
-/

namespace StrucTransport

variable {F : Type}

/-- What happens without the users: a payload is received, or thread W goes on. -/
def AsyncLabel.ofSystem : AsyncLabel F → Bool
  | .onActiveEv _ (.ok _) | .runTask | .handlerReturned => true
  | _ => false

namespace AsyncLabel

/-- The label is a read of a payload, or a move of thread W. -/
theorem ofSystem_cases {l : AsyncLabel F} (h : l.ofSystem = true) :
    (∃ slot p, l = .onActiveEv slot (.ok p)) ∨ l.ofWorker = true := by
  cases l with
  | onActiveEv slot result =>
      cases result with
      | ok p => exact Or.inl ⟨slot, p, rfl⟩
      | error e => cases h
  | runTask => exact Or.inr rfl
  | handlerReturned => exact Or.inr rfl
  | _ => cases h

/-- What thread W does happens without the users. -/
theorem ofSystem_of_ofWorker {l : AsyncLabel F} (h : l.ofWorker = true) : l.ofSystem = true := by
  cases l with
  | runTask => rfl
  | handlerReturned => rfl
  | _ => cases h

/-- What happens without the users loses nothing. -/
theorem lossless_of_ofSystem {l : AsyncLabel F} (h : l.ofSystem = true) : l.Lossless := by
  rcases ofSystem_cases h with ⟨slot, p, rfl⟩ | hworker
  · refine ⟨?_, trivial⟩
    intro read hread
    rw [List.mem_singleton.1 hread]
    rfl
  · cases l with
    | runTask => exact ⟨by simp [AsyncChannel.offeredReads], trivial⟩
    | handlerReturned => exact ⟨by simp [AsyncChannel.offeredReads], trivial⟩
    | _ => cases hworker

end AsyncLabel

/-! ## What a read brings to thread W -/

namespace AsyncChannel

variable {env : Env}

/-- The tasks of invocations take two moves at most each. -/
theorem callPosts_load (calls : List (HandlerCall (SyncIoFunc F))) :
    ((calls.flatMap callPosts).map WorkerTask.load).sum ≤ 2 * calls.length := by
  induction calls with
  | nil => exact Nat.le_refl _
  | cons call calls ih =>
      have hone : ((callPosts call).map WorkerTask.load).sum ≤ 2 := by
        rcases call with ⟨t, f, e⟩
        cases f <;> cases t <;> simp [callPosts, SyncIoFunc.workerTask, WorkerTask.load]
      rw [List.flatMap_cons, List.map_append, List.sum_append, List.length_cons]
      omega

/-- What is invoked was a task that started. -/
theorem invoked_tasks (tr : List (Event (SyncIoFunc F))) :
    ((tr.filterMap Event.invoked?).map Prod.fst).Sublist (tr.filterMap Event.task?) := by
  induction tr with
  | nil => exact List.Sublist.refl _
  | cons ev tr ih =>
      cases ev with
      | invoked t f e => exact ih.cons_cons t
      | skipped t => exact ih.cons t
      | _ => exact ih

/-- Reads that find no error invoke a function for a task that was posted in them. -/
theorem Reads.calls_le {a a' : AsyncChannel F} {calls : List (HandlerCall (SyncIoFunc F))}
    (h : Reads env a calls a') (htrace : a.syncIo.trace <+: a'.syncIo.trace)
    (hidle : a.syncIo.polling = none) (hempty : a.syncIo.syncIoHandlers = [])
    (hnoErr : ∀ call ∈ calls, Channel.isErrTask call.1 = false) :
    a.syncIo.userTasks + calls.length ≤ a'.syncIo.userTasks := by
  rcases htrace with ⟨tr, htr⟩
  have hcalls : tr.filterMap Event.invoked? = calls := by
    have hinvoked := h.invoked
    rw [Channel.invokedCalls, ← htr, List.filterMap_append] at hinvoked
    exact List.append_cancel_left hinvoked
  have hall : (calls.map Prod.fst).countP (fun t => !Channel.isErrTask t) = calls.length := by
    rw [List.countP_map, List.countP_eq_length.2]
    intro call hcall
    simp [hnoErr call hcall]
  have hstarted := (invoked_tasks tr).countP_le (p := fun t => !Channel.isErrTask t)
  rw [hcalls, hall] at hstarted
  have hbefore : a.syncIo.postedTasks = a.syncIo.trace.filterMap Event.task? := by
    simp [Channel.postedTasks, Channel.batchRest, hidle, hempty]
  rw [Channel.userTasks, Channel.userTasks, hbefore, Channel.postedTasks, ← htr,
    List.filterMap_append, List.append_assoc, List.append_assoc, List.countP_append,
    List.countP_append, List.countP_append]
  omega

/-- A channel that is not hosed has invoked no error handler. -/
theorem ErrorLedger.no_errCall {a : AsyncChannel F} (h : ErrorLedger env a)
    (hlive : a.syncIo.channelErrCodeOrOk = none) (htruthy : a.syncIo.falsyErrors = 0) :
    ∀ call ∈ a.syncIo.invokedCalls, Channel.isErrTask call.1 = false := by
  have hreports := h.core.reports
  rw [hlive, Option.isSome_none, if_neg Bool.false_ne_true, htruthy] at hreports
  have hcount : a.syncIo.errCalls = 0 := by omega
  rw [Channel.errCalls] at hcount
  intro call hcall
  have hnot := List.countP_eq_zero.1 hcount call hcall
  simpa [Channel.isErrCall] using hnot

/-- What a read hands on and posts, and what it brings to thread W. -/
theorem onActiveEv_workLeft {a a' : AsyncChannel F} {slot : PipeSlot}
    {result : Channel.RcvResult} (h : ErrorLedger env a) (h' : ErrorLedger env a')
    (hlive : a.syncIo.channelErrCodeOrOk = none) (hlive' : a'.syncIo.channelErrCodeOrOk = none)
    (htruthy' : a'.syncIo.falsyErrors = 0)
    (hread : a.onActiveEv env slot result = some a') {n k : Nat}
    (hyields : Channel.Yields n k a.syncIo a'.syncIo) :
    a'.workLeft ≤ a.workLeft + 2 * (n + k) := by
  rcases onActiveEv_reads hread with ⟨calls, hreads⟩
  have htrace := Channel.run_trace_mono h.core.wellFormed (onActiveEv_coreLabels hread)
  have hle := hreads.calls_le htrace h.idle (h.core.syncIoHandlers_live hlive) (by
    intro call hcall
    apply h'.no_errCall hlive' htruthy' call
    rw [hreads.invoked]
    exact List.mem_append_right _ hcall)
  have htasks := hyields.userTasks
  have hload := callPosts_load calls
  have hworker : a'.worker = a.worker ++ calls.flatMap callPosts := by
    rw [← takeCalls_worker, hreads.taken]
  have hrunning : a'.running = a.running := hreads.handsOver.running
  rw [workLeft, workLeft, hworker, hrunning, List.map_append, List.sum_append]
  omega

end AsyncChannel

/-! ## What is left to do -/

namespace Duplex

variable {H : Type} {conn : Connection}

/-- How many payloads of the pipe the side has not received yet. -/
def untakenOn (conn : Connection) (d : Duplex H) (side : Side) (slot : PipeSlot) : Nat :=
  (d.farPayloads conn side slot).length - d.taken side slot

/-- How many payloads the side has not received yet. -/
def untaken (conn : Connection) (d : Duplex H) (side : Side) : Nat :=
  d.untakenOn conn side .front + d.untakenOn conn side .back

/-- A payload that is received is no longer untaken. -/
theorem untaken_received {d : Duplex H} {side : Side} {slot : PipeSlot} {p : Payload}
    {c : Channel H} (hp : (d.farPayloads conn side slot)[d.taken side slot]? = some p) :
    (d.moved side c (Function.update (d.taken side) slot (d.taken side slot + 1))).untaken conn
      side + 1 = d.untaken conn side := by
  have hlt := (List.getElem?_eq_some_iff.1 hp).1
  cases slot <;> simp [untaken, untakenOn] <;> omega

/-- What a peer puts on its pipes is untaken at the other ends. -/
theorem untaken_other_le {d : Duplex H} {side : Side} {c : Channel H} {taken : PipeSlot → Nat}
    (hgrows : ∀ pipe, (d.peer side).payloadsOn pipe <+: c.payloadsOn pipe) :
    (d.moved side c taken).untaken conn side.other + (d.peer side).outLoad ≤
      d.untaken conn side.other + c.outLoad := by
  have hblob := (hgrows .blob).length_le
  have hhandle := (hgrows .nativeHandle).length_le
  have hne := side.other_ne
  cases hpipes : (conn.env side.other).pipes <;>
    simp only [untaken, untakenOn, farPayloads, farPipe, hpipes, linkedPipe, Side.other_other,
      moved, Function.update_self, Function.update_of_ne hne, Channel.outLoad,
      List.length_nil] <;>
    omega

end Duplex

namespace AsyncDuplex

variable {conn : Connection} {token : SessionToken}

/-- How many of the user messages sent to the side it has not handed on yet. -/
def notHandedOn (d : AsyncDuplex F) (side : Side) : Nat :=
  (d.peer side.other).syncIo.sentUserMsgs.length - (d.peer side).syncIo.handedOn.length

/--
What is left to do for a channel.  A message that is handed on can make the channel
send a payload, which then has to be received, and brings a task to thread W.
-/
def leftTo (conn : Connection) (d : AsyncDuplex F) (side : Side) : Nat :=
  3 * d.cores.untaken conn side + 5 * d.notHandedOn side + (d.peer side).workLeft

/-- What is left to do for both channels. -/
def left (conn : Connection) (d : AsyncDuplex F) : Nat :=
  d.leftTo conn .left + d.leftTo conn .right

/-- The work left, from the view of one side. -/
theorem left_eq (d : AsyncDuplex F) (side : Side) :
    d.left conn = d.leftTo conn side + d.leftTo conn side.other := by
  cases side with
  | left => rfl
  | right => exact Nat.add_comm _ _

/-! ## Channels in which nothing fails -/

/-- Two channels that are logged in with the token, in which nothing has failed. -/
structure Flowing (conn : Connection) (token : SessionToken) (d : AsyncDuplex F) : Prop where
  reached : ∃ (nonNil : token.isNil = false) (ls : List (Side × AsyncLabel F)),
    run conn (ctor conn fun _ => .loggedIn token nonNil) ls = some d ∧ ∀ l ∈ ls, l.2.Lossless
  exchanging : Duplex.Exchanging conn d.cores

namespace Flowing

variable {d d' : AsyncDuplex F}

/-- In each direction there are two peers that deliver. -/
theorem delivering (h : Flowing conn token d) (hrel : conn.Reliable) (side : Side) :
    Net.Peers (conn.link hrel side) token (d.cores.toward side) ∧
      Net.Delivering (conn.link hrel side) token (d.cores.toward side) := by
  rcases h.reached with ⟨nonNil, ls, hrun, hls⟩
  exact delivering_of_run hrel nonNil hrun hls h.exchanging side

/-- Each side accounts for its errors, of which there are none. -/
theorem ledger (h : Flowing conn token d) (side : Side) :
    AsyncChannel.ErrorLedger (conn.env side) (d.peer side) := by
  rcases h.reached with ⟨_, _, hrun, _⟩
  exact AsyncChannel.run_ledger (run_peer hrun side)

/-- Each side gives its handlers what they are for. -/
theorem given (h : Flowing conn token d) (side : Side) :
    AsyncChannel.Given (conn.env side) (d.peer side) := by
  rcases h.reached with ⟨_, _, hrun, _⟩
  exact AsyncChannel.run_given (run_peer hrun side)

/-- Neither side is hosed. -/
theorem live (h : Flowing conn token d) (hrel : conn.Reliable) (side : Side) :
    (d.peer side).syncIo.channelErrCodeOrOk = none := by
  rcases (h.delivering hrel side).2.attached with ⟨_, _, hatt⟩
  exact hatt.live

/-- Neither side has found an error with a falsy code. -/
theorem falsyErrors (h : Flowing conn token d) (hrel : conn.Reliable) (side : Side) :
    (d.peer side).syncIo.falsyErrors = 0 := by
  rcases h.delivering hrel side with ⟨hpeers, hdel⟩
  rcases hdel.attached with ⟨_, _, hatt⟩
  exact hatt.falsyErrors hpeers.receiver

/-- No side hands on more messages than were sent to it. -/
theorem handedOn_length_le (h : Flowing conn token d) (hrel : conn.Reliable) (side : Side) :
    (d.peer side).syncIo.handedOn.length ≤
      (d.peer side.other).syncIo.sentUserMsgs.length := by
  rcases (h.delivering hrel side).2.attached with ⟨_, _, hatt⟩
  have hprefix := hatt.arrivals.order.initial_segment.length_le
  rwa [List.length_map] at hprefix

/-- A step after which the users have sent no more, and nobody has closed. -/
theorem step (h : Flowing conn token d) {l : Side × AsyncLabel F} (hl : l.2.Lossless)
    (hstep : d.step conn l = some d')
    (hsent : ∀ side, (d'.peer side).syncIo.sentUserMsgs = (d.peer side).syncIo.sentUserMsgs)
    (hopen : ∀ side, (d'.peer side).syncIo.channel.sendingEnded =
      (d.peer side).syncIo.channel.sendingEnded) : Flowing conn token d' where
  reached := by
    rcases h.reached with ⟨nonNil, ls, hrun, hls⟩
    refine ⟨nonNil, ls ++ [l], Transition.run_append_eq_some.2 ⟨d, hrun, ?_⟩, ?_⟩
    · simp [hstep]
    · exact List.forall_mem_append.2 ⟨hls, List.forall_mem_singleton.2 hl⟩
  exchanging := by
    refine ⟨fun side u hu => h.exchanging.readable side u ?_, fun side => ?_⟩
    · exact hsent side ▸ hu
    · exact (hopen side).trans (h.exchanging.opened side)

end Flowing

/-! ## A step of the system -/

/-- A step without the users: thread W goes on, or the core reads and hands messages on. -/
structure Goes (conn : Connection) (d : AsyncDuplex F) (side : Side) (d' : AsyncDuplex F)
    (r n k : Nat) : Prop where
  other : d'.peer side.other = d.peer side.other
  yields : Channel.Yields n k (d.peer side).syncIo (d'.peer side).syncIo
  few : k = 0 ∨ n = 0 ∧ k ≤ 1
  received : d'.cores.untaken conn side + r = d.cores.untaken conn side
  sends : d'.cores.untaken conn side.other + (d.peer side).syncIo.outLoad ≤
    d.cores.untaken conn side.other + (d'.peer side).syncIo.outLoad
  works : r = 0 ∧ n = 0 ∧ k = 0 ∧ (d'.peer side).workLeft < (d.peer side).workLeft ∨
    r = 1 ∧ ∃ slot result,
      (d.peer side).onActiveEv (conn.env side) slot result = some (d'.peer side)

/-- A step without the users is of this kind. -/
theorem goes_of_step {d d' : AsyncDuplex F} {side : Side} {l : AsyncLabel F}
    (hw : (d.peer side).syncIo.WellFormed) (hl : l.ofSystem = true)
    (hstep : d.step conn (side, l) = some d') : ∃ r n k, Goes conn d side d' r n k := by
  rcases step_cases hstep with ⟨a, taken, ha, htaken, hd'⟩
  have hother : d'.peer side.other = d.peer side.other := by
    simp [hd', moved, side.other_ne]
  have hself : a = d'.peer side := by simp [hd', moved]
  have hcores : d'.cores = d.cores.moved side a.syncIo taken := by rw [hd', moved_cores]
  subst hself
  have hsends : (∀ pipe, (d.peer side).syncIo.payloadsOn pipe <+:
        (d'.peer side).syncIo.payloadsOn pipe) →
      d'.cores.untaken conn side.other + (d.peer side).syncIo.outLoad ≤
        d.cores.untaken conn side.other + (d'.peer side).syncIo.outLoad := by
    intro hgrows
    rw [hcores]
    exact Duplex.untaken_other_le hgrows
  rcases AsyncLabel.ofSystem_cases hl with ⟨slot, p, rfl⟩ | hworker
  · have hcore := AsyncChannel.step_coreLabels ha
    rcases Channel.read_yields hw (fun _ => AsyncChannel.mem_readLabels_tail) hcore with
      ⟨n, k, hyields, hfew⟩
    rw [completedReads_onActiveEv, takeReads] at htaken
    by_cases hnext : (d.cores.farPayloads conn side slot)[d.taken side slot]? = some p
    · rw [if_pos hnext, takeReads, Option.some.injEq] at htaken
      subst htaken
      have hmove : AsyncChannel.Move (conn.env side) (d.peer side) _ (d'.peer side) :=
        AsyncChannel.step_move ha
      have hread : (d.peer side).onActiveEv (conn.env side) slot (.ok p) =
          some (d'.peer side) := by
        cases hmove with
        | onActiveEv slot result a' hands idle eq => exact eq
      refine ⟨1, n, k, hother, hyields, hfew, ?_, hsends ?_, Or.inr ⟨rfl, slot, _, hread⟩⟩
      · rw [hcores]
        exact Duplex.untaken_received hnext
      · exact Channel.run_payloadsOn_prefix hw hcore
    · rw [if_neg hnext] at htaken
      cases htaken
  · have hcore : (d'.peer side).syncIo = (d.peer side).syncIo :=
      AsyncChannel.worker_syncIo hworker ha
    have hless := AsyncChannel.worker_workLeft hworker ha
    have hnone : (d.peer side).completedReads (conn.env side) l = [] := by
      cases l with
      | runTask => rfl
      | handlerReturned => rfl
      | _ => cases hworker
    rw [hnone, takeReads, Option.some.injEq] at htaken
    subst htaken
    refine ⟨0, 0, 0, hother, ?_, Or.inl rfl, ?_, hsends ?_, Or.inl ⟨rfl, rfl, rfl, hless⟩⟩
    · rw [hcore]
      exact .refl _
    · rw [hcores, hcore]
      exact congrArg (Duplex.untaken conn · side) (Duplex.moved_self d.cores side)
    · intro pipe
      simp only [hcore, List.prefix_rfl]

/-- A step without the users keeps the channels flowing. -/
theorem Flowing.goes {d d' : AsyncDuplex F} (h : Flowing conn token d) {side : Side}
    {l : AsyncLabel F} (hl : l.ofSystem = true) (hstep : d.step conn (side, l) = some d')
    {r n k : Nat} (hgoes : Goes conn d side d' r n k) : Flowing conn token d' := by
  apply h.step (AsyncLabel.lossless_of_ofSystem hl) hstep
  · intro side'
    rcases side.eq_or_eq_other side' with rfl | rfl
    · exact hgoes.yields.sentUserMsgs
    · rw [hgoes.other]
  · intro side'
    rcases side.eq_or_eq_other side' with rfl | rfl
    · exact hgoes.yields.sendingEnded
    · rw [hgoes.other]

/-- A step without the users lowers what is left to do. -/
theorem Goes.left_lt {d d' : AsyncDuplex F} {side : Side} {r n k : Nat}
    (hgoes : Goes conn d side d' r n k) (hrel : conn.Reliable) (h : Flowing conn token d)
    (h' : Flowing conn token d') : d'.left conn < d.left conn := by
  have hyields := hgoes.yields
  have hwork : (d'.peer side).workLeft + 1 ≤ (d.peer side).workLeft + 3 * r + 2 * n := by
    rcases hgoes.works with ⟨rfl, rfl, rfl, hless⟩ | ⟨rfl, slot, result, hread⟩
    · omega
    · have hload := AsyncChannel.onActiveEv_workLeft (h.ledger side) (h'.ledger side)
        (h.live hrel side) (h'.live hrel side) (h'.falsyErrors hrel side) hread hyields
      have hfew := hgoes.few
      omega
  have hhanded := hyields.handedOn
  have hsent := h'.handedOn_length_le hrel side
  have hout := hyields.outLoad
  have hreceived := hgoes.received
  have hsends := hgoes.sends
  have hother := hgoes.other
  have hlast : d'.notHandedOn side + n = d.notHandedOn side := by
    rw [hother] at hsent
    rw [notHandedOn, notHandedOn, hother]
    omega
  have hsame : d'.notHandedOn side.other = d.notHandedOn side.other := by
    rw [notHandedOn, notHandedOn, side.other_other, hother, hyields.sentUserMsgs]
  rw [left_eq d side, left_eq d' side, leftTo, leftTo, leftTo, leftTo, hother, hsame]
  omega

/-- Each step without the users lowers what is left to do. -/
theorem lessLeft (hrel : conn.Reliable) :
    Transition.LessLeft (step (F := F) conn) (fun l => l.2.ofSystem = true)
      (Flowing conn token) (left conn) where
  keep := by
    rintro d ⟨side, l⟩ d' hl h hstep
    rcases goes_of_step (h.ledger side).core.wellFormed hl hstep with ⟨r, n, k, hgoes⟩
    exact h.goes hl hstep hgoes
  less := by
    rintro d ⟨side, l⟩ d' hl h hstep
    rcases goes_of_step (h.ledger side).core.wellFormed hl hstep with ⟨r, n, k, hgoes⟩
    exact hgoes.left_lt hrel h (h.goes hl hstep hgoes)

/-! ## At rest -/

/-- Where the messages that were handed on are at rest. -/
def settled (a : AsyncChannel F) : List MsgIn :=
  a.syncIo.pendingMsgs ++ a.handled.map Prod.snd ++ a.syncOpRsps ++ a.syncIo.discardedMsgs

/-- The users of the channel are still, and nothing waits for it. -/
abbrev AtRest (conn : Connection) (d : AsyncDuplex F) : Prop :=
  Transition.Rests (step conn) (fun l : Side × AsyncLabel F => l.2.ofSystem = true) d

/-- At rest thread W has nothing to do. -/
theorem worker_of_rests {d : AsyncDuplex F} (h : AtRest conn d) (side : Side) :
    (d.peer side).running = none ∧ (d.peer side).worker = [] := by
  have hstopped := @AsyncChannel.worker_rests F (conn.env side) (d.peer side)
  apply hstopped
  intro l hl
  have hnone := h (side, l) (AsyncLabel.ofSystem_of_ofWorker hl)
  have hreads : (d.peer side).completedReads (conn.env side) l = [] := by
    cases l with
    | runTask => rfl
    | handlerReturned => rfl
    | _ => cases hl
  simp only [step, hreads, takeReads, Option.map_some] at hnone
  cases hstep : (d.peer side).step (conn.env side) l with
  | none => rfl
  | some a => simp [hstep] at hnone

/-- At rest a channel that has started has received all that was put on its pipes. -/
theorem drained_of_rests (hrel : conn.Reliable) {d : AsyncDuplex F} (h : Flowing conn token d)
    (hrests : AtRest conn d) {side : Side} (hstarted : (d.peer side).syncIo.onErrFunc ≠ none) :
    d.Drained conn side := by
  intro slot
  by_contra hsome
  rcases Option.ne_none_iff_exists'.1 hsome with ⟨p, hp⟩
  rcases h.delivering hrel side with ⟨hpeers, hdel⟩
  have hrcv := Duplex.exists_rcv hrel hpeers hdel (h.ledger side).idle hstarted hp
  have hs : Channel.Sending (conn.env side.other) token (d.peer side.other).syncIo :=
    hpeers.sender.sending
  rcases hdel.attached with ⟨_, _, hatt⟩
  have hhndl := hatt.positions.gotNoHndl hs (Duplex.nextItem_toward hrel hs hp)
  rcases exists_onActiveEv (worker_of_rests hrests side).1 hp hrcv (h.ledger side).core
    (h.falsyErrors hrel side) hhndl with ⟨d', hstep⟩
  rw [hrests (side, .onActiveEv slot (.ok p)) rfl] at hstep
  cases hstep

/-- The channels are at rest where nothing waits for them. -/
theorem atRest_of_drained {d : AsyncDuplex F}
    (hworker : ∀ side, (d.peer side).running = none ∧ (d.peer side).worker = [])
    (hdrained : ∀ side, d.Drained conn side) : AtRest conn d := by
  rintro ⟨side, l⟩ hl
  rcases hworker side with ⟨hidle, hempty⟩
  have hstep : (d.peer side).step (conn.env side) l = none ∨
      ∃ slot p, l = .onActiveEv slot (.ok p) := by
    rcases AsyncLabel.ofSystem_cases hl with hread | hworks
    · exact Or.inr hread
    · left
      cases l with
      | runTask => simp [AsyncChannel.step, hidle, hempty]
      | handlerReturned => simp [AsyncChannel.step, hidle]
      | _ => cases hworks
  rcases hstep with hnone | ⟨slot, p, rfl⟩
  · simp [step, hnone]
  · simp [step, completedReads_onActiveEv, takeReads, hdrained side slot]

/-- Without the users, nothing more is sent. -/
theorem sentTo_alone {d d' : AsyncDuplex F} (h : Flowing conn token d)
    {ls : List (Side × AsyncLabel F)}
    (halone : Transition.Alone (step conn) (fun l => l.2.ofSystem = true) d ls d') :
    Flowing conn token d' ∧ ∀ side, d'.sentTo conn token side = d.sentTo conn token side := by
  apply Transition.run_alone (fun d' => Flowing conn token d' ∧
    ∀ side, d'.sentTo conn token side = d.sentTo conn token side) ?_ ⟨h, fun _ => rfl⟩ halone
  rintro d₁ ⟨side, l⟩ d₂ hl ⟨hflow, hsame⟩ hstep
  rcases goes_of_step (hflow.ledger side).core.wellFormed hl hstep with ⟨r, n, k, hgoes⟩
  refine ⟨hflow.goes hl hstep hgoes, fun side' => ?_⟩
  have hsent : (d₂.peer side'.other).syncIo.sentUserMsgs =
      (d₁.peer side'.other).syncIo.sentUserMsgs := by
    rcases side.eq_or_eq_other side'.other with hside | hside
    · rw [hside]
      exact hgoes.yields.sentUserMsgs
    · rw [hside, hgoes.other]
  rw [← hsame side', sentTo, sentTo]
  exact congrArg (List.map _) hsent

/-- At rest each message that was sent is in its place. -/
theorem settled_of_rests (hrel : conn.Reliable) {d : AsyncDuplex F} (h : Flowing conn token d)
    (hrests : AtRest conn d) {side : Side} (hstarted : (d.peer side).syncIo.onErrFunc ≠ none) :
    (d.sentTo conn token side).Perm (settled (d.peer side)) := by
  rcases h.delivering hrel side with ⟨hpeers, hdel⟩
  rcases worker_of_rests hrests side with ⟨hidle, hempty⟩
  have hdrained := drained_of_rests hrel h hrests hstarted
  have hall := (handedOn_of_drained hrel hpeers hdel h.exchanging hdrained).1
  have hplaced := handedOn_placed (h.given side) (h.live hrel side)
  have hplaces : whereabouts (d.peer side) = settled (d.peer side) := by
    simp [whereabouts, settled, AsyncChannel.beingGiven, hidle, hempty]
  rwa [hall, hplaces] at hplaced

/--
Two async-I/O channels that are logged in with one token, over transports that do
not fail, neither of which ends sending: if the users of both make no more calls, the
channels come to rest, after no more steps than are left to do.  At rest, each message
that was sent to a started channel has been handled, or was passed to the response
function of a {lit}`sync_request()`, or is pending as nobody expects it, or is an
unexpected response that found no handler set.  A {lit}`sync_request()` that may return
counts as its user.
-/
theorem comes_to_rest (hrel : conn.Reliable) {token : SessionToken}
    (nonNil : token.isNil = false) {ls : List (Side × AsyncLabel F)} {d : AsyncDuplex F}
    (hrun : run conn (ctor conn fun _ => .loggedIn token nonNil) ls = some d)
    (hls : ∀ l ∈ ls, l.2.Lossless) (hopen : Duplex.Exchanging conn d.cores) :
    (∃ ls' d', Transition.Alone (step conn) (fun l => l.2.ofSystem = true) d ls' d' ∧
        AtRest conn d') ∧
      ∀ ls' d', Transition.Alone (step conn) (fun l => l.2.ofSystem = true) d ls' d' →
        ls'.length ≤ d.left conn ∧
          (AtRest conn d' → ∀ side, (d'.peer side).syncIo.onErrFunc ≠ none →
            (d.sentTo conn token side).Perm (settled (d'.peer side))) := by
  have h : Flowing conn token d := ⟨⟨nonNil, ls, hrun, hls⟩, hopen⟩
  refine ⟨(lessLeft hrel).exists_rest h, fun ls' d' halone => ⟨?_, fun hrests side hstarted => ?_⟩⟩
  · have hlength := (lessLeft hrel).length_le h halone
    omega
  · rcases sentTo_alone h halone with ⟨h', hsame⟩
    rw [← hsame side]
    exact settled_of_rests hrel h' hrests hstarted

/-- A {lit}`sync_request()` is sent, and the other peer expects its message. -/
def requestExpected : List (Side × AsyncLabel Nat) :=
  [(.left, .call (.start 1 [])), (.right, .call (.start 1 [])), (.right, .call (.expectMsg 5 2)),
    (.left, .syncRequest (ReferenceCapnp.msgOut none 5) none true)]

/-- The payloads of both sides are received, and thread W handles the request. -/
def requestHandled : List (Side × AsyncLabel Nat) :=
  let env : Env := .reference .blobPipeOnly
  receives .right
    (Channel.protoNegPayload env :: (Duplex.requestSent.frame env).items) ++
  receives .left [Channel.protoNegPayload env] ++ [(.right, .runTask), (.right, .handlerReturned)]

/-- The channels come to rest with the request handled. -/
theorem comes_to_rest_handled :
    ∃ d d' : AsyncDuplex Nat,
      run (.reference .blobPipeOnly) (ctor (.reference .blobPipeOnly) fun _ => .reference)
        requestExpected = some d ∧
      run (.reference .blobPipeOnly) d requestHandled = some d' ∧
      requestHandled.length ≤ d.left (.reference .blobPipeOnly) ∧
      (d'.peer .right).handled.length = 1 ∧
      (d.sentTo (.reference .blobPipeOnly) ReferenceCapnp.token .right).Perm
        (settled (d'.peer .right)) := by
  have hruns : ((run (.reference .blobPipeOnly) (ctor (.reference .blobPipeOnly) fun _ =>
      .reference) requestExpected).any fun d =>
        (∀ side ∈ [Side.left, .right], (d.peer side).syncIo.channel.sendingEnded = false ∧
          ∀ u ∈ (d.peer side).syncIo.sentUserMsgs,
            ReferenceCapnp.capnp.readBody u.2.segments = .ok u.2.bodyWhich) ∧
        (run (.reference .blobPipeOnly) d requestHandled).any fun d' =>
          (d'.peer .right).handled.length = 1 ∧ (d'.peer .right).syncIo.onErrFunc.isSome ∧
          ∀ side ∈ [Side.left, .right], ((d'.peer side).running.isNone ∧
            (d'.peer side).worker.isEmpty) ∧ ∀ slot ∈ [PipeSlot.front, .back],
              (d'.cores.farPayloads (.reference .blobPipeOnly) side slot)[d'.taken side slot]? =
                none) = true := by
    decide +kernel
  rcases (Option.any_eq_true _ _).1 hruns with ⟨d, hrun, hd⟩
  rcases of_decide_eq_true hd with ⟨hsides, hd'⟩
  rcases (Option.any_eq_true _ _).1 hd' with ⟨d', hrun', hlast⟩
  rcases of_decide_eq_true hlast with ⟨hone, hstarted, hrest⟩
  have hside : ∀ side, side ∈ [Side.left, Side.right] := by
    intro side
    cases side <;> simp
  have hslot : ∀ slot, slot ∈ [PipeSlot.front, PipeSlot.back] := by
    intro slot
    cases slot <;> simp
  have hopen : Duplex.Exchanging (.reference .blobPipeOnly) d.cores :=
    ⟨fun side => (hsides side (hside side)).2, fun side => (hsides side (hside side)).1⟩
  have hrests : AtRest (.reference .blobPipeOnly) d' := by
    apply atRest_of_drained
    · intro side
      have hworker := (hrest side (hside side)).1
      simpa using hworker
    · exact fun side slot => (hrest side (hside side)).2 slot (hslot slot)
  have halone : Transition.Alone (step (.reference .blobPipeOnly)) (fun l => l.2.ofSystem = true) d
      requestHandled d' := ⟨by decide +kernel, hrun'⟩
  have h := (comes_to_rest (Connection.reference_reliable _) (by decide) hrun (by decide +kernel)
    hopen).2 _ _ halone
  exact ⟨d, d', hrun, hrun', h.1, hone, h.2 hrests .right (by
    intro hnone
    simp [hnone] at hstarted)⟩

end AsyncDuplex
end StrucTransport
