import HostingBilling.TaskQueue

/-!
# The scan schedule

Two timers fire sweeps at the multiples of their intervals, the first after one whole interval. One
submission holds up both: a multiple missed meanwhile fires once, late, and the next one is the next
multiple after that. A firing that is only a little late counts as on time, so that the multiple after
it is not passed over.
-/

namespace HostingBilling

namespace Schedule

/-- A timer and the multiple of its interval at which it is due, in milliseconds. -/
structure Timer where
  interval : Nat
  deadline : Nat
  deriving DecidableEq, Repr

namespace Timer

def start (interval : Nat) : Timer := ⟨interval, interval⟩

/-- Milliseconds by which a firing may be late and still count as on time. -/
def grace : Nat := 5

/-- The timer after it fired. On time, it is due one interval later; late, at the next multiple. -/
def rearm (grace : Nat) (t : Timer) (now : Nat) : Timer :=
  if t.deadline + grace < now then
    { t with deadline := t.deadline + t.interval * ((now - t.deadline) / t.interval + 1) }
  else { t with deadline := t.deadline + t.interval }

end Timer

/-- The sweeps that are fired. -/
inductive Sweep where
  | expiry
  | renewal
  deriving DecidableEq, Repr

def Sweep.kind : Sweep → TaskKind
  | expiry => .expireService
  | renewal => .renewalReminder

structure State where
  clock : Nat
  expiry : Timer
  renewal : Timer
  /-- Submissions so far. -/
  count : Nat
  deriving DecidableEq, Repr

def State.start (expireEvery renewalEvery : Nat) : State :=
  ⟨0, .start expireEvery, .start renewalEvery, 0⟩

def State.timer (s : State) : Sweep → Timer
  | .expiry => s.expiry
  | .renewal => s.renewal

/-- A submission, when it started, and the multiple of the interval that it was due for. -/
structure Firing where
  time : Nat
  sweep : Sweep
  due : Nat
  deriving DecidableEq, Repr

def Firing.kind (f : Firing) : TaskKind := f.sweep.kind

/-- What the intervals do not settle. -/
structure Course where
  /-- By how much a firing may be late and still count as on time. -/
  grace : Nat
  /-- Which of two timers goes first when both are due. -/
  expiryFirst : State → Bool
  /-- The time that the submission at each position takes. -/
  takes : Nat → Nat

/-- When a timer is due that has not fired yet. -/
def State.wake (s : State) : Nat := max s.clock (min s.expiry.deadline s.renewal.deadline)

/-- The sweep that is fired next. -/
def State.turn (c : Course) (s : State) : Sweep :=
  if s.wake < s.expiry.deadline then .renewal
  else if s.wake < s.renewal.deadline then .expiry
  else if c.expiryFirst s then .expiry
  else .renewal

/-- When the next submission starts, of which sweep, and what it is due for. -/
def State.next (c : Course) (s : State) : Firing := ⟨s.wake, s.turn c, (s.timer (s.turn c)).deadline⟩

/-- Fires the timer of a submission, which takes some time. Its outcome changes nothing. -/
def State.fire (c : Course) (s : State) (f : Firing) : State :=
  let rearmed := (s.timer f.sweep).rearm c.grace f.time
  let s := { s with clock := f.time + c.takes s.count, count := s.count + 1 }
  match f.sweep with
  | .expiry => { s with expiry := rearmed }
  | .renewal => { s with renewal := rearmed }

/-- The submissions that start before `stop`, at most `fuel` of them. -/
def State.runFor (c : Course) (stop : Nat) : Nat → State → List Firing
  | 0, _ => []
  | fuel + 1, s =>
    let f := s.next c
    if f.time < stop then f :: (s.fire c f).runFor c stop fuel else []

/-- Submits a sweep at each firing. That a submission is refused is only logged. -/
def State.submitFor (o : Outside) (c : Course) (stop : Nat) : Nat → State → Action (List Firing)
  | 0, _ => return []
  | fuel + 1, s => do
    let f := s.next c
    if f.time < stop then
      let _ ← (TaskQueue.submit o (.scan f.kind)).attempt
      return f :: (← (s.fire c f).submitFor o c stop fuel)
    else return []

/-- Enough for all submissions before `stop`: a timer fires at most once per interval. -/
def fuel (expireEvery renewalEvery stop : Nat) : Nat := stop / expireEvery + stop / renewalEvery + 2

/-- The submissions before `stop`. -/
def firings (c : Course) (expireEvery renewalEvery stop : Nat) : List Firing :=
  (State.start expireEvery renewalEvery).runFor c stop (fuel expireEvery renewalEvery stop)

/-- Submits the sweeps that are due before `stop`. -/
def submissions (o : Outside) (c : Course) (expireEvery renewalEvery stop : Nat) : Action (List Firing) :=
  (State.start expireEvery renewalEvery).submitFor o c stop (fuel expireEvery renewalEvery stop)

/-- The submissions before `stop`, if of two timers that are due the one with the earlier deadline goes
first; the submission at each position takes the time `takes` gives. -/
def run (expireEvery renewalEvery stop : Nat) (takes : Nat → Nat) : List Firing :=
  firings ⟨Timer.grace, fun s => s.expiry.deadline ≤ s.renewal.deadline, takes⟩ expireEvery renewalEvery stop

end Schedule

end HostingBilling
