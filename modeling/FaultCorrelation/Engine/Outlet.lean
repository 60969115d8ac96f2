import FaultCorrelation.Situation.Basic

/-! # Outlets

Situations that a tick hands out go to the outlet registered last. An outlet queues them until its
owner takes them; once it is closed, what is sent to it is lost.
-/

namespace FaultCorrelation

/-- A queue of situations on their way to an owner. -/
structure Outlet where
  queue : List Situation := []
  isOpen : Bool := true

/-- All outlets ever registered; the last one receives. -/
structure Outlets where
  all : Array Outlet := #[]

namespace Outlets

/-- Register a new outlet; and its number, counted from zero. -/
def register (outlets : Outlets) : Outlets × Nat :=
  (⟨outlets.all.push {}⟩, outlets.all.size)

/-- Whether any outlet was registered. -/
def hasReceiver (outlets : Outlets) : Bool := !outlets.all.isEmpty

/-- Hand situations to the outlet registered last. -/
def deliver (outlets : Outlets) (situations : List Situation) : Outlets :=
  ⟨outlets.all.modify (outlets.all.size - 1) fun outlet =>
    if outlet.isOpen then { outlet with queue := outlet.queue ++ situations } else outlet⟩

/-- Take what an outlet has queued, if there is such an outlet. -/
def take? (outlets : Outlets) (number : Nat) : Option (Outlets × List Situation) :=
  outlets.all[number]?.map fun outlet =>
    (⟨outlets.all.modify number fun outlet => { outlet with queue := [] }⟩, outlet.queue)

/-- Close an outlet; what it has queued is lost. -/
def close (outlets : Outlets) (number : Nat) : Outlets :=
  ⟨outlets.all.modify number fun _ => { queue := [], isOpen := false }⟩

end Outlets
end FaultCorrelation
