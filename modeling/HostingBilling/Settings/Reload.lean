import HostingBilling.World

/-!
# Reloading the settings

A reload replaces the whole snapshot at once. A listener reloads whenever another process announces a
change and whenever it has connected again; while it cannot connect it waits twice as long each time, up
to a minute.
-/

namespace HostingBilling

namespace Settings

/-- Takes a fresh snapshot from the store. -/
def reload : Action Settings := do
  let rows ← ask .loadSettings fun _ s => s.settings.map fun r => (r.key, r.value)
  let w ← get
  let fresh := choose rows w.defaults
  set { w with settings := fresh }
  return fresh

/-- Tells every listening process to reload. -/
def announce : Action Unit := ask .announceSettings fun _ _ => ()

/-- A reload whose failure is only logged: the old snapshot stays. -/
def tryReload (w : World) : World := (reload.run w).2

/-- Reloads until one goes through. Only a fault can keep a reload from it. -/
def reloadUntil (w : World) : World :=
  loop (w.faults.length + 1) w
where
  loop : Nat → World → World
    | 0, w => w
    | fuel + 1, w => match reload.run w with
      | (.ok _, w) => w
      | (.error _, w) => loop fuel w

/-- How long a listener still waits, in milliseconds, and how many seconds it waits next time. -/
structure Backoff where
  remaining : Nat
  nextDelay : Nat
  deriving DecidableEq, Repr

namespace Backoff

def longestDelay : Nat := 60

/-- After the first failure. -/
def start : Backoff := ⟨1000, 2⟩

/-- After one more failure. -/
def again (b : Backoff) : Backoff := ⟨b.nextDelay * 1000, min (b.nextDelay * 2) longestDelay⟩

/-- The attempts made while some time passes with no success. -/
def elapse (b : Backoff) (millis : Nat) : Nat × Backoff :=
  loop (millis / 1000 + 2) b millis
where
  loop : Nat → Backoff → Nat → Nat × Backoff
    | 0, b, _ => (0, b)
    | fuel + 1, b, millis =>
      if b.remaining ≤ millis then
        let (n, b') := loop fuel b.again (millis - b.remaining)
        (n + 1, b')
      else (0, { b with remaining := b.remaining - millis })

/-- The attempts made in each of several waits. -/
def elapseEach (b : Backoff) : List Nat → List Nat × Backoff
  | [] => ([], b)
  | wait :: rest =>
    let (n, b) := b.elapse wait
    let (ns, b) := b.elapseEach rest
    (n :: ns, b)

end Backoff

inductive Listener where
  | stopped
  | listening
  | waiting (b : Backoff)
  deriving DecidableEq, Repr, Inhabited

namespace Listener

/-- Connects and reloads, since anything announced before was missed. -/
def connect (w : World) : Listener × World := (.listening, tryReload w)

/-- Announces a change; a listener that is connected reloads. -/
def hear (l : Listener) (w : World) : Bool × World :=
  match l with
  | .listening => (true, tryReload w)
  | _ => (false, w)

/-- The connection breaks and cannot be made again while `waits` pass: the attempts in each of them. -/
def breakFor (waits : List Nat) : List Nat × Listener :=
  let (tried, b) := Backoff.start.elapseEach waits
  (tried, .waiting b)

/-- Time passes and connecting is possible again. -/
def recover (l : Listener) (millis : Nat) (w : World) : Listener × World :=
  match l with
  | .waiting b => if b.remaining ≤ millis then connect w else (.waiting (b.elapse millis).2, w)
  | l => (l, w)

end Listener

end Settings

end HostingBilling
