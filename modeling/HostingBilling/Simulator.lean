import HostingBilling.World

/-!
# The simulated machine backend

It walks the steps create, boot and network, the first twice as long as the others, and derives a
stable host name and address from the service. It stops as soon as it is told to.
-/

namespace HostingBilling

/-- When work is told to stop, in milliseconds after its start: the signal may be set from the start,
may be set later, and counts as set once its sender is gone. -/
structure StopSignal where
  initially : Bool
  setAt : Option Nat
  droppedAt : Option Nat
  deriving DecidableEq, Repr, Inhabited

namespace StopSignal

def never : StopSignal := ⟨false, none, none⟩

/-- The first time at which the signal is set or its sender goes away. -/
def time? (s : StopSignal) : Option Nat :=
  match s.setAt, s.droppedAt with
  | some a, some b => some (min a b)
  | some a, none => some a
  | none, b => b

/-- Whether the signal already stands when a step starts. -/
def isSetBefore (s : StopSignal) (time : Nat) : Bool := s.initially || s.setAt.any (· < time)

end StopSignal

namespace Simulator

/-- The steps and how long they take. -/
def steps (delay : Nat) : List (String × Nat) :=
  [("create", 2 * delay), ("boot", delay), ("network", delay)]

def machineOf (serviceId : Uuid) : Machine where
  hostname := "vps-" ++ String.ofList (serviceId.digits.take 8) ++ ".example.com"
  address := "192.168." ++ toString (serviceId.byte 14 % 254 + 1) ++ "." ++
    toString (serviceId.byte 15 % 254 + 1)

/-- Walks the steps from a time on, and gives the time at which it ended. -/
def walk (signal : StopSignal) (start : Nat) : List (String × Nat) → Except Failure Unit × Nat
  | [] => (.ok (), start)
  | (step, length) :: rest =>
    if signal.isSetBefore start then (.error (.provider ("cancelled before " ++ step)), start)
    else match signal.time? with
      | none => walk signal (start + length) rest
      | some c =>
        if c < start + length then (.error (.provider ("cancelled during " ++ step)), max start c)
        else walk signal (start + length) rest

/-- Builds the machine of a service, and gives the time it took. -/
def provision (delay : Nat) (signal : StopSignal) (serviceId : Uuid) :
    Except Failure Machine × Nat :=
  let (r, time) := walk signal 0 (steps delay)
  (r.map fun _ => machineOf serviceId, time)

end Simulator

end HostingBilling
