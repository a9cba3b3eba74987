import StrucTransport.Net.Requests

/-!
# Notices of unexpected responses

Of a single channel: which of the responses it dispatched were unexpected, what
it told its peer about them, and what its peer told it.

Main results:

- Theorem {lit}`step_notices`: a step that does anything to messages handles the
  message it passes on.
- Theorem {lit}`noticed_of_run`: the unexpected responses are accepted messages,
  which were passed on; the internal messages name them, each at most once; and
  there is at most one notice for each internal message that was passed on.
-/

namespace StrucTransport
namespace Channel

variable {H : Type} {env : Env}

/-! ## A step -/

/-- A change that concerns neither unexpected responses nor in-messages. -/
structure NoticeFrame (c c' : Channel H) : Prop where
  acceptedMsgs : c'.acceptedMsgs = c.acceptedMsgs
  unexpectedMsgs : c'.unexpectedMsgs = c.unexpectedMsgs
  remoteNotices : c'.remoteNotices = c.remoteNotices
  informedIds : c'.informedIds = c.informedIds

/-- A quiet change of the receiver. -/
theorem RcvQuiet.noticeFrame {c c' : Channel H} (h : RcvQuiet c c') : NoticeFrame c c' := by
  rcases h.posts with ⟨n, hn⟩
  exact ⟨h.acceptedMsgs, posts_onErr hn rfl, posts_onErr hn rfl, h.requestFrame.informedIds⟩

/-- The public methods take in no notice. -/
theorem call_noticeFrame (env : Env) (c : Channel H) (x : Call H) :
    NoticeFrame c (c.call env x) := by
  rcases (call_frame env c x).posts with ⟨n, hn⟩
  refine ⟨(call_seqFrame env c x).acceptedMsgs, posts_onErr hn rfl, posts_onErr hn rfl, ?_⟩
  cases call_requests env c x with
  | refused refuses informed => exact informed
  | other none' frame => exact frame.informedIds
  | undo id none' mem map next informed => exact informed
  | request exp some' map next informed => exact informed

/-- The rest of a poll takes in no notice. -/
theorem handlerReturned_noticeFrame {c : Channel H} {t : Task H} {rest : List (Task H)}
    (hpoll : c.polling = some ⟨some t, rest⟩) : NoticeFrame c (c.handlerReturned t rest) := by
  have hposted := handlerReturned_postedTasks hpoll
  have hsent : (c.handlerReturned t rest).sentMsgs = c.sentMsgs := by
    rcases runHandlers_same ({ c.afterHandler t with polling := some ⟨none, rest⟩ } :
      Channel H) rest with ⟨_, hsent, _⟩
    exact hsent.trans (by cases t <;> rfl)
  exact ⟨(handlerReturned_rcvFrame c t rest).acceptedMsgs,
    by rw [unexpectedMsgs, hposted, unexpectedMsgs],
    by rw [remoteNotices, hposted, remoteNotices], by rw [informedIds, hsent, informedIds]⟩

/-- A step that does anything to messages handles the message it passes on. -/
theorem step_notices {c c' : Channel H} {l : Label H} (hw : c.WellFormed)
    (hstep : step env c l = some c') :
    NoticeFrame c c' ∨ ∃ slot m, c.passedOn env slot l = some m ∧ HandlesMsg env c m c' := by
  rcases step_cases hstep with ⟨x, _, rfl⟩ | ⟨slot, result, _, _, rfl, _⟩ | ⟨t, rest, _, hpoll, rfl⟩
  · exact Or.inl (call_noticeFrame env c x)
  · rcases step_readHandles hw hstep with hquiet | ⟨m, hm, hhandles⟩
    · exact Or.inl hquiet.noticeFrame
    · exact Or.inr ⟨slot, m, hm, hhandles⟩
  · exact Or.inl (handlerReturned_noticeFrame hpoll)

/-! ## Unexpected responses are accepted messages -/

/-- A started task about an unexpected response gives it to its handler or discards it. -/
theorem count_unexpected_le (m : MsgIn) (tr : List (Event H)) :
    ((tr.filterMap Event.task?).filterMap Task.unexpectedMsg?).count m ≤
      (tr.flatMap Event.givenOut).count m + (tr.flatMap Event.discarded).count m := by
  induction tr with
  | nil => simp
  | cons ev tr ih =>
      have hone : ((ev.task?.toList).filterMap Task.unexpectedMsg?).count m ≤
          ev.givenOut.count m + ev.discarded.count m := by
        cases ev with
        | invoked t f e =>
            cases t <;> simp [Event.task?, Task.unexpectedMsg?, Event.givenOut, Task.msg?,
              List.filterMap_cons]
        | skipped t =>
            cases t <;> simp [Event.task?, Task.unexpectedMsg?, Event.discarded,
              List.filterMap_cons]
        | _ => simp [Event.task?]
      have hsplit : (ev :: tr).filterMap Event.task? =
          ev.task?.toList ++ tr.filterMap Event.task? := by
        cases h : ev.task? <;> simp [h]
      rw [hsplit, List.filterMap_append, List.count_append, List.flatMap_cons, List.flatMap_cons,
        List.count_append, List.count_append]
      omega

/-- A posted task about an unexpected response carries it. -/
theorem unexpected_sublist_msgs (ts : List (Task H)) :
    (ts.filterMap Task.unexpectedMsg?).Sublist (ts.filterMap Task.msg?) := by
  induction ts with
  | nil => exact List.Sublist.refl _
  | cons t ts ih =>
      cases t with
      | onRsp f m => exact ih.cons m
      | onMsg f m => exact ih.cons m
      | onUnexpectedResponse m => exact ih.cons_cons m
      | onRemoteUnexpectedResponse id text => exact ih
      | onErr => exact ih

/-- The unexpected responses are among the places of the accepted messages. -/
theorem unexpectedMsgs_subperm_places (c : Channel H) :
    c.unexpectedMsgs.Subperm (c.places none) := by
  rw [List.subperm_ext_iff]
  intro m _
  have hstarted := count_unexpected_le m c.trace
  have hrest := (unexpected_sublist_msgs c.batchRest).count_le m
  have hwaiting := (unexpected_sublist_msgs c.syncIoHandlers).count_le m
  simp only [unexpectedMsgs, postedTasks, places, postedMsgs, pendingTasks, givenOutMsgs,
    discardedMsgs, List.filterMap_append, List.count_append]
  omega

/-- Every unexpected response is an accepted message, each at most once. -/
theorem Reachable.unexpectedMsgs_subperm {c : Channel H} (h : Reachable env c) :
    c.unexpectedMsgs.Subperm c.acceptedMsgs := by
  have hconserved : Conserved (none, c) :=
    h.invariant Conserved conserved_ctor (fun _ _ hinv heff => heff.conserves hinv)
  exact (unexpectedMsgs_subperm_places c).trans hconserved.symm.subperm

/-- No response is posted as unexpected twice. -/
theorem Reachable.unexpectedMsgs_nodup {c : Channel H} (h : Reachable env c) :
    (c.unexpectedMsgs.map MsgIn.idOrNone).Nodup := by
  rcases h.unexpectedMsgs_subperm with ⟨ms, hperm, hsub⟩
  have hnodup := (hsub.map MsgIn.idOrNone).nodup h.sequenced.nodup
  exact (hperm.map MsgIn.idOrNone).nodup_iff.1 hnodup

/-! ## A run -/

/-- The IDs that internal messages name, of the messages that were passed on. -/
def noticeIds (ms : List MsgIn) : List Nat :=
  (ms.filter fun m => m.idOrNone = 0).map MsgIn.originatingMsgIdOrNone

/-- What a run of the channel makes of the messages it passes on. -/
structure Noticed (env : Env) (c₀ : Channel H) (ls : List (Label H)) (c : Channel H) : Prop where
  accepted : ∀ m ∈ c.acceptedMsgs, ∃ slot which m₀, m₀ ∈ passedMsgs env slot c₀ ls ∧
    m₀.idOrNone ≠ 0 ∧ m = { m₀ with bodyWhich := which }
  informed : c.informedIds.Sublist (c.unexpectedMsgs.map MsgIn.idOrNone)
  notices : ∀ id, c.remoteNotices.count id ≤
    (noticeIds (passedMsgs env .front c₀ ls)).count id +
      (noticeIds (passedMsgs env .back c₀ ls)).count id

/-- A new channel has noticed nothing. -/
theorem noticed_ctor (env : Env) (args : CtorArgs) :
    Noticed env (ctor args) [] (ctor args : Channel H) := by
  cases args <;> exact ⟨by simp [ctor, acceptedMsgs], by simp [ctor, informedIds, sentMsgs],
    by simp [ctor, remoteNotices, postedTasks, batchRest]⟩

/-- A step adds to a run what the message it passes on amounts to. -/
theorem Noticed.step {c₀ c c' : Channel H} {ls : List (Label H)} {l : Label H}
    (h : Noticed env c₀ ls c) (hrun : run env c₀ ls = some c) (hw : c.WellFormed)
    (hstep : Channel.step env c l = some c') : Noticed env c₀ (ls ++ [l]) c' := by
  have hpassed : ∀ slot, passedMsgs env slot c₀ (ls ++ [l]) =
      passedMsgs env slot c₀ ls ++ (c.passedOn env slot l).toList := fun _ =>
    passedMsgs_concat hrun l
  have hids : ∀ slot id, (noticeIds (passedMsgs env slot c₀ (ls ++ [l]))).count id =
      (noticeIds (passedMsgs env slot c₀ ls)).count id +
        (noticeIds (c.passedOn env slot l).toList).count id := by
    intro slot id
    rw [hpassed, noticeIds, List.filter_append, List.map_append, List.count_append]
    rfl
  have hkept : ∀ m ∈ c.acceptedMsgs, ∃ slot which m₀, m₀ ∈ passedMsgs env slot c₀ (ls ++ [l]) ∧
      m₀.idOrNone ≠ 0 ∧ m = { m₀ with bodyWhich := which } := by
    intro m hm
    rcases h.accepted m hm with ⟨slot, which, m₀, hmem, hid, rfl⟩
    exact ⟨slot, which, m₀, by rw [hpassed]; exact List.mem_append_left _ hmem, hid, rfl⟩
  rcases step_notices hw hstep with hframe | ⟨slot, m, hm, hhandles⟩
  · refine ⟨?_, ?_, ?_⟩
    · rw [hframe.acceptedMsgs]
      exact hkept
    · rw [hframe.informedIds, hframe.unexpectedMsgs]
      exact h.informed
    · intro id
      have hbefore := h.notices id
      rw [hframe.remoteNotices, hids, hids]
      omega
  · cases hhandles with
    | user which as ds id accepted handles =>
        refine ⟨?_, ?_, ?_⟩
        · rw [handles.acceptedMsgs]
          refine List.forall_mem_append.2 ⟨hkept, ?_⟩
          intro m' hm'
          have hmem : m' ∈ [{ m with bodyWhich := which }] := accepted.subset hm'
          refine ⟨slot, which, m, ?_, id, List.mem_singleton.1 hmem⟩
          rw [hpassed, hm]
          exact List.mem_append_right _ (List.mem_singleton.2 rfl)
        · rcases handles.informedIds with ⟨ids, hsub, hinformed⟩
          rw [hinformed, handles.unexpectedMsgs, List.map_append]
          exact h.informed.append hsub
        · intro id
          have hbefore := h.notices id
          rw [handles.remoteNotices, List.append_nil, hids, hids]
          omega
    | internal ns id notices handles =>
        refine ⟨?_, ?_, ?_⟩
        · rw [handles.acceptedMsgs, List.append_nil]
          exact hkept
        · rcases handles.informedIds with ⟨ids, hsub, hinformed⟩
          have hnil : ids = [] := List.sublist_nil.1 hsub
          rw [hinformed, hnil, List.append_nil, handles.unexpectedMsgs]
          change c.informedIds.Sublist ((c.unexpectedMsgs ++ []).map MsgIn.idOrNone)
          rw [List.append_nil]
          exact h.informed
        · intro i
          have hbefore := h.notices i
          have hnew : ns.count i ≤ (noticeIds (c.passedOn env slot l).toList).count i := by
            rw [hm]
            refine notices.sublist.count_le i |>.trans (Nat.le_of_eq ?_)
            simp [noticeIds, id]
          rw [handles.remoteNotices, List.count_append, hids, hids]
          cases slot with
          | front => omega
          | back => omega

/-- What every run makes of the messages it passes on. -/
theorem noticed_of_run {args : CtorArgs} {ls : List (Label H)} {c : Channel H}
    (hrun : run env (ctor args) ls = some c) : Noticed env (ctor args) ls c := by
  refine Transition.run_history (fun ls c => Noticed env (ctor args) ls c) (noticed_ctor env args)
    ?_ hrun
  intro ls c l c' hrun hinv hstep
  have hreach : Reachable env c := ⟨args, ls, hrun⟩
  exact hinv.step hrun hreach.wellFormed hstep

end Channel
end StrucTransport
