import Sounder.Lib.Machine
import Sounder.Ntp8230.Driver

/-!
# Sequences of work items

The work items of a bound driver, executed one after the other in any order, each on
the results left by the one before, and with any value of the flag. What each of them
got accepted is kept, item by item (`System.passes` is not part of the driver: it
says what was accepted when).

A condition on the results at the start of each item, with the same force as a
property of what the item got accepted, characterises the runs in which all items
have the property (`forall_passes_iff`).
-/

namespace Sounder.Ntp8230

open Retry

/-- The execution of a work item, and the flag it finds. -/
structure Item where
  work : Work
  earInject : Bool
  deriving DecidableEq

/-- An execution, and the messages it got accepted. -/
structure Pass where
  item : Item
  accepted : List Row
  deriving DecidableEq

/-- The driver, and the executions so far. -/
structure Passes where
  drv : State
  passes : List Pass

/-- The messages accepted since the trace `t`. -/
def acceptedSince (t : List Event) (s : State) : List Row :=
  accepted (s.board.trace.drop t.length)

/-- A work item is executed. -/
def Passes.step (s : Passes) (i : Item) : Option Passes :=
  (execWork i.work { s.drv with earInject := i.earInject }).map fun drv =>
    ⟨drv, s.passes ++ [⟨i, acceptedSince s.drv.board.trace drv⟩]⟩

/-- The work items of a driver with a client, from power-on. -/
def itemMachine (client : Client) (results : Stream' ℤ) (pins : Pin → Bool) :
    Machine Passes Item where
  init := ⟨⟨some client, true, .empty, false, ⟨results, [], pins⟩⟩, []⟩
  step := Passes.step

/-- What the messages of an item get accepted. -/
def acceptedOf (i : Item) (results : Stream' ℤ) : List Row :=
  Retry.accepted (attemptsEach 3 (sends i.work i.earInject) results)

variable {client : Client} {results : Stream' ℤ} {pins : Pin → Bool} {is : List Item}
  {s t : Passes} {i : Item}

theorem Passes.step_of_client (hc : s.drv.client = some client) :
    s.step i = some ⟨{ s.drv with
        earInject := i.earInject
        board := s.drv.board.sentEach client (sends i.work i.earInject) },
      s.passes ++ [⟨i, acceptedOf i s.drv.board.results⟩]⟩ := by
  have hex := execWork_of_client (w := i.work) (s := { s.drv with earInject := i.earInject }) hc
  rw [Passes.step, hex, Option.map_some, acceptedSince, Board.sentEach, List.drop_left,
    accepted_transfers]
  rfl

theorem client_of_run (hrun : (itemMachine client results pins).Run is s) :
    s.drv.client = some client := by
  refine Machine.Run.invariant (C := fun _ _ => True) (I := fun s => s.drv.client = some client)
    rfl (fun hc _ hst => ?_) hrun Machine.meets_true
  obtain rfl := Option.some.inj ((Passes.step_of_client hc).symm.trans hst)
  exact hc

/-- All items have a property of what they got accepted, exactly if each is executed
    on results that give it the property. -/
theorem forall_passes_iff {P : Pass → Prop} {C : Item → Stream' ℤ → Prop}
    (hPC : ∀ i results, P ⟨i, acceptedOf i results⟩ ↔ C i results)
    (hrun : (itemMachine client results pins).Run is s) :
    (∀ p ∈ s.passes, P p) ↔
      (itemMachine client results pins).Meets (fun s i => C i s.drv.board.results) is := by
  refine hrun.iff_meets (I := fun s => s.drv.client = some client)
    (P := fun s => ∀ p ∈ s.passes, P p) rfl (by simp [itemMachine]) fun hc hst => ?_
  obtain rfl := Option.some.inj ((Passes.step_of_client hc).symm.trans hst)
  refine ⟨hc, ?_⟩
  rw [← hPC, List.forall_mem_append, List.forall_mem_singleton]

end Sounder.Ntp8230
