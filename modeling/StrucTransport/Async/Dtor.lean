import StrucTransport.Async.Step

/-!
# The destruction of an async-I/O channel

{lit}`~Channel()` stops thread W, which finishes the handler it runs and keeps the
tasks it has not begun.  A transient thread then polls these tasks and the event
waits that are ready until none is left, and last it invokes a saved
graceful-sends-close completion handler.

An object is not used while it is destroyed: once the destructor was entered,
only the user handler that is running may call the public methods.
-/

namespace StrucTransport

variable {F : Type}

/-- How far {lit}`~Channel()` has come. -/
inductive DtorPhase where
  | notEntered
  /-- {lit}`m_worker.stop()` awaits the user handler that is running. -/
  | stopping
  /-- {lit}`task_engine->poll()`. -/
  | polling
  /-- The transient thread runs the saved {lit}`async_end_sending()` handler. -/
  | finishing
  | returned
deriving DecidableEq, Repr

/-- A channel, and how far its destructor has come. -/
structure AsyncObject (F : Type) where
  channel : AsyncChannel F
  dtor : DtorPhase := .notEntered

/-- What can happen next to a channel that may be destroyed. -/
inductive ObjectLabel (F : Type) where
  | channel (l : AsyncLabel F)
  /-- The destructor is entered. -/
  | dtor
  /-- {lit}`m_worker.stop()` returns, and {lit}`poll()` begins. -/
  | workerStopped
  /-- {lit}`poll()` finds nothing left to run. -/
  | pollReturned

namespace AsyncObject

variable (env : Env)

/-- A channel as its constructor leaves it. -/
def ctor (args : CtorArgs) : AsyncObject F where
  channel := AsyncChannel.ctor env args

/-- Whether the destructor, if it was entered, leaves room for the label. -/
def allows (o : AsyncObject F) : AsyncLabel F → Bool
  | .call _ | .syncRequest _ _ _ | .syncRequestWakes =>
      match o.dtor with
      | .notEntered => true
      | .returned => false
      | _ => o.channel.running.isSome
  | .onActiveEv _ _ | .endSendingFinishes _ | .runTask =>
      o.dtor = .notEntered || o.dtor = .polling
  | .handlerReturned =>
      match o.dtor with
      | .notEntered => true
      | .returned => false
      -- The handler does not return while it is in a sync_request().
      | _ => o.channel.syncOpWait.isNone

/-- Where the destructor is after a step of the channel: it returns after its last handler. -/
def dtorAfter (p : DtorPhase) (a : AsyncChannel F) : DtorPhase :=
  if p = .finishing ∧ a.running = none then .returned else p

/-- The end of the transient thread: the saved handler, which stays saved, is invoked. -/
def finish (a : AsyncChannel F) : AsyncObject F :=
  match a.sndEndSendingOnDoneFuncOrEmpty with
  | none => ⟨a, .returned⟩
  | some f =>
      ⟨a.invoke f [] (.endSendingDone f (some .objectShutdownAbortedCompletionHandler)), .finishing⟩

/-- One step; {lit}`none` if the label cannot happen in this state. -/
def step (o : AsyncObject F) : ObjectLabel F → Option (AsyncObject F)
  | .channel l =>
      if o.allows l then (o.channel.step env l).map fun a => ⟨a, dtorAfter o.dtor a⟩ else none
  | .dtor => if o.dtor = .notEntered then some { o with dtor := .stopping } else none
  | .workerStopped =>
      if o.dtor = .stopping ∧ o.channel.running = none ∧ o.channel.syncOpWait = none then
        some { o with dtor := .polling }
      else none
  | .pollReturned =>
      if o.dtor = .polling ∧ o.channel.running = none ∧ o.channel.worker = [] then
        some (finish o.channel)
      else none

/-- A run from the constructor on. -/
def run (o : AsyncObject F) (ls : List (ObjectLabel F)) : Option (AsyncObject F) :=
  Transition.run (step env) o ls

end AsyncObject
end StrucTransport
