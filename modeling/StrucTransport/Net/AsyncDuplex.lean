import StrucTransport.Async.CoreRun
import StrucTransport.Lib.Simulation
import StrucTransport.Net.Duplex

/-!
# Two async-I/O channels connected in both directions

Two objects of {lit}`struc::Channel`, each with its thread W and its users, whose
cores are connected as two {lit}`sync_io::Channel`s are.  What one core puts on an
out-pipe, the other one reads at the other end, in order.

Main results:

- Theorem {lit}`AsyncDuplex.follows_cores`: the two cores run as two connected
  {lit}`sync_io::Channel`s do.
- Theorem {lit}`AsyncDuplex.run_peer`: and each channel runs as it does alone.
-/

namespace StrucTransport

variable {F H : Type}

/-! ## Reads in the order of the pipes -/

/-- How far the pipes were read; {lit}`none` if a payload is not the next one of its pipe. -/
def takeReads (far : PipeSlot → List Payload) :
    (PipeSlot → Nat) → List (PipeSlot × Channel.RcvResult) → Option (PipeSlot → Nat)
  | taken, [] => some taken
  | taken, (slot, .ok p) :: reads =>
      if (far slot)[taken slot]? = some p then
        takeReads far (Function.update taken slot (taken slot + 1)) reads
      else none
  | taken, (_, .error _) :: reads => takeReads far taken reads

namespace Duplex

variable {conn : Connection}

/-- The state after one peer went on and read its pipes so far. -/
def moved (d : Duplex H) (side : Side) (c : Channel H) (taken : PipeSlot → Nat) : Duplex H where
  peer := Function.update d.peer side c
  taken := Function.update d.taken side taken

/-- A peer that is set to what it was. -/
theorem moved_self (d : Duplex H) (side : Side) :
    d.moved side (d.peer side) (d.taken side) = d := by
  simp [moved]

/-- The later of two changes of a peer. -/
theorem moved_moved (d : Duplex H) (side : Side) (c c' : Channel H)
    (taken taken' : PipeSlot → Nat) :
    (d.moved side c taken).moved side c' taken' = d.moved side c' taken' := by
  simp [moved]

/-- The peer that was set. -/
@[simp]
theorem moved_peer (d : Duplex H) (side : Side) (c : Channel H) (taken : PipeSlot → Nat) :
    (d.moved side c taken).peer side = c := by
  simp [moved]

/-- What it has received. -/
@[simp]
theorem moved_taken (d : Duplex H) (side : Side) (c : Channel H) (taken : PipeSlot → Nat) :
    (d.moved side c taken).taken side = taken := by
  simp [moved]

/-- What a peer may receive does not depend on its own state. -/
@[simp]
theorem moved_farPayloads (d : Duplex H) (side : Side) (c : Channel H) (taken : PipeSlot → Nat) :
    (d.moved side c taken).farPayloads conn side = d.farPayloads conn side := by
  ext1 slot
  simp [farPayloads, moved, side.other_ne]

/-- A label that is no read of a payload. -/
theorem step_moved {d : Duplex H} {side : Side} {l : Label H} {c : Channel H}
    (hno : ∀ slot p, l ≠ .rcv slot (.ok p))
    (hstep : Channel.step (conn.env side) (d.peer side) l = some c) :
    d.step conn (side, l) = some (d.moved side c (d.taken side)) := by
  have hmoved : some (d.stepped side c) = some (d.moved side c (d.taken side)) := by
    simp [stepped, moved]
  have hmap : (Channel.step (conn.env side) (d.peer side) l).map (d.stepped side) =
      some (d.moved side c (d.taken side)) := by
    rw [hstep, Option.map_some, hmoved]
  cases l with
  | rcv slot result =>
      cases result with
      | error e => exact hmap
      | ok p => exact absurd rfl (hno slot p)
  | _ => exact hmap

/-- One peer goes on alone, and reads the payloads of the other in their order. -/
theorem run_alone {d : Duplex H} {side : Side} {ls : List (Label H)} {c : Channel H}
    {taken : PipeSlot → Nat}
    (hrun : Channel.run (conn.env side) (d.peer side) ls = some c)
    (hreads : takeReads (d.farPayloads conn side) (d.taken side) (ls.filterMap Label.read?) =
      some taken) :
    Duplex.run conn d (ls.map fun l => (side, l)) = some (d.moved side c taken) := by
  induction ls generalizing d with
  | nil =>
      have hc : d.peer side = c := Option.some.inj hrun
      have htaken : d.taken side = taken := Option.some.inj hreads
      rw [← hc, ← htaken, moved_self]
      rfl
  | cons l ls ih =>
      rcases Transition.run_cons_eq_some.1 hrun with ⟨c₁, hstep, hrest⟩
      apply Transition.run_cons_eq_some.2
      by_cases hread : ∃ slot p, l = .rcv slot (.ok p)
      · rcases hread with ⟨slot, p, rfl⟩
        change takeReads _ _ ((slot, .ok p) :: ls.filterMap Label.read?) = some taken at hreads
        rw [takeReads] at hreads
        by_cases hnext : (d.farPayloads conn side slot)[d.taken side slot]? = some p
        · rw [if_pos hnext] at hreads
          let taken₁ := Function.update (d.taken side) slot (d.taken side slot + 1)
          refine ⟨d.moved side c₁ taken₁, ?_, ?_⟩
          · rw [step, if_pos hnext, hstep, Option.map_some]
            rfl
          · have hlast := ih (d := d.moved side c₁ taken₁) (by rwa [moved_peer])
              (by rwa [moved_farPayloads, moved_taken])
            rwa [moved_moved] at hlast
        · rw [if_neg hnext] at hreads
          cases hreads
      · have hno : ∀ slot p, l ≠ .rcv slot (.ok p) := fun slot p h => hread ⟨slot, p, h⟩
        have hskip : takeReads (d.farPayloads conn side) (d.taken side)
            (ls.filterMap Label.read?) = some taken := by
          cases l with
          | rcv slot result =>
              cases result with
              | error e => exact hreads
              | ok p => exact absurd rfl (hno slot p)
          | _ => exact hreads
        refine ⟨d.moved side c₁ (d.taken side), step_moved hno hstep, ?_⟩
        have hlast := ih (d := d.moved side c₁ (d.taken side)) (by rwa [moved_peer])
          (by rwa [moved_farPayloads, moved_taken])
        rwa [moved_moved] at hlast

end Duplex

/-! ## The two channels -/

/-- The two channels, and how many payloads each core has received on each pipe. -/
structure AsyncDuplex (F : Type) where
  peer : Side → AsyncChannel F
  taken : Side → PipeSlot → Nat

namespace AsyncDuplex

variable (conn : Connection)

/-- The two cores. -/
def cores (d : AsyncDuplex F) : Duplex (SyncIoFunc F) where
  peer side := (d.peer side).syncIo
  taken := d.taken

/-- The state after one channel went on and its core read its pipes so far. -/
def moved (d : AsyncDuplex F) (side : Side) (a : AsyncChannel F) (taken : PipeSlot → Nat) :
    AsyncDuplex F where
  peer := Function.update d.peer side a
  taken := Function.update d.taken side taken

/-- One step of one channel; its core receives the payloads of the other in their order. -/
def step (d : AsyncDuplex F) (l : Side × AsyncLabel F) : Option (AsyncDuplex F) :=
  ((d.peer l.1).step (conn.env l.1) l.2).bind fun a =>
    (takeReads (d.cores.farPayloads conn l.1) (d.taken l.1)
      ((d.peer l.1).completedReads (conn.env l.1) l.2)).map (d.moved l.1 a)

/-- A run of the two channels. -/
def run (d : AsyncDuplex F) (ls : List (Side × AsyncLabel F)) : Option (AsyncDuplex F) :=
  Transition.run (step conn) d ls

/-- Two channels as their constructors leave them. -/
def ctor (args : Side → CtorArgs) : AsyncDuplex F where
  peer side := AsyncChannel.ctor (conn.env side) (args side)
  taken _ _ := 0

/-- The labels of one channel. -/
def labelsOf (side : Side) (ls : List (Side × AsyncLabel F)) : List (AsyncLabel F) :=
  (ls.filter fun l => l.1 = side).map Prod.snd

/-- The labels of the cores in a step. -/
def coreLabels (d : AsyncDuplex F) (l : Side × AsyncLabel F) :
    List (Side × Label (SyncIoFunc F)) :=
  ((d.peer l.1).coreLabels (conn.env l.1) l.2).map fun x => (l.1, x)

variable {conn}

/-- The state after a step. -/
theorem step_cases {d d' : AsyncDuplex F} {l : Side × AsyncLabel F} (h : d.step conn l = some d') :
    ∃ a taken, (d.peer l.1).step (conn.env l.1) l.2 = some a ∧
      takeReads (d.cores.farPayloads conn l.1) (d.taken l.1)
        ((d.peer l.1).completedReads (conn.env l.1) l.2) = some taken ∧
      d' = d.moved l.1 a taken := by
  rcases Option.bind_eq_some_iff.1 h with ⟨a, ha, hmap⟩
  rcases Option.map_eq_some_iff.1 hmap with ⟨taken, htaken, rfl⟩
  exact ⟨a, taken, ha, htaken, rfl⟩

/-- The cores of two channels of which one was set. -/
theorem moved_cores (d : AsyncDuplex F) (side : Side) (a : AsyncChannel F)
    (taken : PipeSlot → Nat) :
    (d.moved side a taken).cores = d.cores.moved side a.syncIo taken := by
  have hpeer : (fun side' => (Function.update d.peer side a side').syncIo) =
      Function.update (fun side' => (d.peer side').syncIo) side a.syncIo := by
    ext1 side'
    by_cases h : side' = side
    · subst h
      simp
    · simp [h]
  rw [cores, Duplex.moved, moved, hpeer]
  rfl

/-- The two cores run as two connected {lit}`sync_io::Channel`s do. -/
theorem follows_cores : Transition.Follows (step (F := F) conn) (Duplex.step conn) (fun _ => True)
    (fun _ => True) cores (coreLabels conn) where
  keep _ _ _ _ _ _ := trivial
  run d l d' _ _ hstep := by
    rcases step_cases hstep with ⟨a, taken, ha, htaken, rfl⟩
    rw [moved_cores]
    exact Duplex.run_alone (d := d.cores) (AsyncChannel.step_coreLabels ha) htaken

/-- The cores of new channels have started their operations. -/
theorem ctor_cores (args : Side → CtorArgs) :
    Duplex.run conn (Duplex.ctor args) [(.left, .call .startOps), (.right, .call .startOps)] =
      some (ctor (F := F) conn args).cores := by
  apply Transition.run_cons_eq_some.2
  refine ⟨_, rfl, ?_⟩
  apply Transition.run_cons_eq_some.2
  refine ⟨_, rfl, ?_⟩
  have hpeers : (((Duplex.ctor args).stepped .left (((Channel.ctor (args .left) :
      Channel (SyncIoFunc F)).startOps (conn.env .left)).1)).stepped .right
      (((Channel.ctor (args .right)).startOps (conn.env .right)).1)).peer =
      (ctor (F := F) conn args).cores.peer := by
    ext1 side
    cases side <;> rfl
  exact congrArg some (congrArg (fun peer => (⟨peer, fun _ _ => 0⟩ : Duplex (SyncIoFunc F))) hpeers)

/-- The cores of two channels are reached by a run of two connected cores. -/
theorem run_cores {args : Side → CtorArgs} {ls : List (Side × AsyncLabel F)} {d : AsyncDuplex F}
    (hrun : run conn (ctor conn args) ls = some d) :
    Duplex.run conn (Duplex.ctor args)
      ([(.left, .call .startOps), (.right, .call .startOps)] ++
        Transition.image (step conn) (coreLabels conn) (ctor conn args) ls) = some d.cores := by
  apply Transition.run_append_eq_some.2
  exact ⟨_, ctor_cores args, follows_cores.run_image trivial (fun _ _ => trivial) hrun⟩

/-! ## Each channel alone -/

/-- A step of one channel leaves the other one alone. -/
theorem step_peer {d d' : AsyncDuplex F} {l : Side × AsyncLabel F} (h : d.step conn l = some d')
    (side : Side) : AsyncChannel.run (conn.env side) (d.peer side)
      (if l.1 = side then [l.2] else []) = some (d'.peer side) := by
  rcases step_cases h with ⟨a, taken, ha, _, rfl⟩
  by_cases hside : l.1 = side
  · subst hside
    rw [if_pos rfl]
    apply Transition.run_cons_eq_some.2
    exact ⟨a, ha, by simp [moved]⟩
  · have hne : side ≠ l.1 := fun heq => hside heq.symm
    rw [if_neg hside]
    simp [AsyncChannel.run, moved, hne]

/-- Each of the two channels runs as it does alone. -/
theorem run_peer {args : Side → CtorArgs} {ls : List (Side × AsyncLabel F)} {d : AsyncDuplex F}
    (hrun : run conn (ctor conn args) ls = some d) (side : Side) :
    AsyncChannel.run (conn.env side) (AsyncChannel.ctor (conn.env side) (args side))
      (labelsOf side ls) = some (d.peer side) := by
  refine Transition.run_history (fun ls (d : AsyncDuplex F) =>
    AsyncChannel.run (conn.env side) (AsyncChannel.ctor (conn.env side) (args side))
      (labelsOf side ls) = some (d.peer side)) rfl ?_ hrun
  intro ls d l d' _ hbefore hstep
  have hlabels : labelsOf side (ls ++ [l]) =
      labelsOf side ls ++ if l.1 = side then [l.2] else [] := by
    by_cases h : l.1 = side <;> simp [labelsOf, h]
  rw [hlabels]
  apply Transition.run_append_eq_some.2
  exact ⟨_, hbefore, step_peer hstep side⟩

end AsyncDuplex
end StrucTransport
