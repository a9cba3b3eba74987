import StrucTransport.Async.CoreRun
import StrucTransport.Async.Given
import StrucTransport.Net.Sends

/-!
# What makes a channel send a user message

A user message is sent by {lit}`send()`, {lit}`async_request()` or
{lit}`sync_request()` alone, with the ID of the message it responds to.

Main results:

- Theorem {lit}`Channel.sent_by_label`: a label of the run sent each user message.
- Theorem {lit}`AsyncChannel.sent_by_label`: so it is for the async-I/O channel.
-/

namespace StrucTransport

variable {F H : Type}

namespace Channel

variable {env : Env}

/-- The label was to send the message, as a response to the one with the originating ID. -/
def SentBy (l : Option (MsgOut × Option MsgIn)) (u : StructuredMessage × MsgOut) : Prop :=
  ∃ orig, l = some (u.2, orig) ∧
    u.1.originatingMessageOrNull.getD 0 = (orig.map MsgIn.idOrNone).getD 0

/-- A label of the run sent each user message that was not sent before. -/
theorem sent_by_label {c c' : Channel H} {ls : List (Label H)} (hw : c.WellFormed)
    (hrun : run env c ls = some c') : ∀ u ∈ c'.sentUserMsgs,
      u ∈ c.sentUserMsgs ∨ ∃ l ∈ ls, SentBy l.sends? u := by
  have hinv : c'.WellFormed ∧ ∀ u ∈ c'.sentUserMsgs,
      u ∈ c.sentUserMsgs ∨ ∃ l ∈ ls, SentBy l.sends? u := by
    refine Transition.run_history (fun ls (c' : Channel H) => c'.WellFormed ∧
      ∀ u ∈ c'.sentUserMsgs, u ∈ c.sentUserMsgs ∨ ∃ l ∈ ls, SentBy l.sends? u)
      ⟨hw, fun u hu => Or.inl hu⟩ ?_ hrun
    intro ls c₁ l c₂ _ hbefore hstep
    rcases hbefore with ⟨hw₁, hsent⟩
    refine ⟨(step_effects hw₁ hstep).wellFormed hw₁, ?_⟩
    have hlater : ∀ u ∈ c₁.sentUserMsgs,
        u ∈ c.sentUserMsgs ∨ ∃ l' ∈ ls ++ [l], SentBy l'.sends? u := by
      intro u hu
      rcases hsent u hu with hold | ⟨l', hl', hby⟩
      · exact Or.inl hold
      · exact Or.inr ⟨l', List.mem_append_left _ hl', hby⟩
    intro u hu
    rw [step_sends hw₁ hstep] at hu
    rcases List.mem_append.1 hu with hu | hu
    · exact hlater u hu
    · rcases List.mem_map.1 hu with ⟨s, hs, rfl⟩
      exact Or.inr ⟨l, List.mem_append_right _ List.mem_cons_self, s.originatingMsgOrNull,
        sends?_of_successfulSend? (Option.mem_toList.1 hs), s.userMsg_originatingMessage _ _⟩
  exact hinv.2

end Channel

/-! ## The async-I/O channel -/

/-- The message that a label is to send, and the one it responds to. -/
def AsyncLabel.sends? : AsyncLabel F → Option (MsgOut × Option MsgIn)
  | .call (.send msg orig) => some (msg, orig)
  | .call (.asyncRequest msg orig _ _) => some (msg, orig)
  | .syncRequest msg orig _ => some (msg, orig)
  | _ => none

namespace AsyncChannel

variable {env : Env}

/-- The core is to send what the label is to send. -/
theorem sends_coreLabels {a : AsyncChannel F} {l : AsyncLabel F} {l' : Label (SyncIoFunc F)}
    (h : l' ∈ coreLabels env a l) {s : MsgOut × Option MsgIn} (hs : l'.sends? = some s) :
    l.sends? = some s := by
  rcases mem_coreLabels h with ⟨x, hx, rfl⟩ | ⟨read, _, rfl⟩ | rfl
  · cases l with
    | call y =>
        have hcore : y.core = x := Option.some.inj hx
        subst hcore
        cases y <;> exact hs
    | syncRequest msg orig noTimeout =>
        have hcore := Option.some.inj hx
        subst hcore
        exact hs
    | _ => cases hx
  · cases hs
  · cases hs

/-- A label of the run sent each user message. -/
theorem sent_by_label {args : CtorArgs} {ls : List (AsyncLabel F)} {a : AsyncChannel F}
    (hrun : run env (ctor env args) ls = some a) :
    ∀ u ∈ a.syncIo.sentUserMsgs, ∃ l ∈ ls, Channel.SentBy l.sends? u := by
  refine Transition.run_history (fun ls (a : AsyncChannel F) =>
    ∀ u ∈ a.syncIo.sentUserMsgs, ∃ l ∈ ls, Channel.SentBy l.sends? u) ?_ ?_ hrun
  · intro u hu
    have hstart : Channel.run env (Channel.ctor args) [.call .startOps] =
        some (ctor (F := F) env args).syncIo :=
      rfl
    rcases Channel.sent_by_label (Channel.wellFormed_ctor args) hstart u hu with
      hold | ⟨l, hl, orig, hsends, _⟩
    · cases args <;> cases hold
    · rw [List.mem_singleton.1 hl] at hsends
      cases hsends
  · intro ls a l a' hrun hbefore hstep u hu
    have hw : a.syncIo.WellFormed := (run_given hrun).core.wellFormed
    rcases Channel.sent_by_label hw (step_coreLabels hstep) u hu with
      hold | ⟨l', hl', orig, hsends, heq⟩
    · rcases hbefore u hold with ⟨l', hl', hby⟩
      exact ⟨l', List.mem_append_left _ hl', hby⟩
    · exact ⟨l, List.mem_append_right _ List.mem_cons_self, orig, sends_coreLabels hl' hsends, heq⟩

end AsyncChannel
end StrucTransport
