import HostingBilling.Proofs.Rows
import HostingBilling.Proofs.Runs
import HostingBilling.Store.Services

/-!
# What becomes of a terminated service

The statements that write services are called in any order, with any arguments and at any times, as handlers
call them that looked at the service some time before. Each of them names the statuses that it may leave, but
for the one that activates: a service that was terminated while its machine was being built is active afterwards.

Main statement: a terminated service is terminated after any calls just if every activation of it among them is
followed by another termination, and a cancellation that is stamped keeps its stamp whatever is called.
-/

namespace HostingBilling

namespace Services

/-- A call of one of the statements that write services. -/
inductive Call where
  | ensure (userId : Uuid) (item : ItemRow) (expiresAt : Instant)
  | start (id : Uuid)
  | activate (id : Uuid) (machine : Machine)
  | suspend (id : Uuid) (reason : String)
  | terminate (id : Uuid)
  | expire (id : Uuid)
  | takeBack (id : Uuid)

namespace Call

/-- The call, its answer let go. -/
def action : Call → Action Unit
  | ensure userId item expiresAt => do let _ ← Services.ensure userId item expiresAt
  | start id => Services.start id
  | activate id machine => Services.activate id machine
  | suspend id reason => do let _ ← Services.suspend id reason
  | terminate id => do let _ ← Services.terminate id
  | expire id => do let _ ← Services.expire id
  | takeBack id => do let _ ← Services.takeBack id

def activates (service : Uuid) : Call → Bool
  | activate id _ => id == service
  | _ => false

def terminates (service : Uuid) : Call → Bool
  | terminate id => id == service
  | _ => false

end Call

/-- A call, and when it is made. -/
abbrev Timed := Instant × Call

/-- The world after a call. One that is struck by a fault changes no row. -/
def call (w : World) (c : Timed) : World := (c.2.action.run { w with now := c.1 }).2

def run (w : World) (calls : List Timed) : World := calls.foldl call w

/-- Every activation of the service is followed by a termination of it. -/
def Closed (service : Uuid) (calls : List Timed) : Prop :=
  ∀ before c after, calls = before ++ c :: after → c.2.activates service = true →
    ∃ end_ ∈ after, end_.2.terminates service = true

/-- When the service is terminated for the first time. -/
def firstTermination (service : Uuid) (calls : List Timed) : Option Instant :=
  (calls.find? fun c => c.2.terminates service).map (·.1)

/-! ## One call -/

variable {w w' : World} {r r' : ServiceRow} {id : Uuid} {now : Instant} {c : Call}
variable {selects : ServiceRow → Bool} {writes : ServiceRow → ServiceRow}

/-- What a call that goes through makes of the row of a service, as far as its end is concerned. -/
structure Written (now : Instant) (c : Call) (r r' : ServiceRow) : Prop where
  id : r'.id = r.id
  terminated : r'.status = .terminated ↔
    c.terminates r.id = true ∨ r.status = .terminated ∧ c.activates r.id = false
  cancelledAt : r'.cancelledAt =
    if c.terminates r.id then some (r.cancelledAt.getD now) else r.cancelledAt

/-- The row of a service is still there after a call, as the call writes it, or as it was if faults were
waiting. -/
def Called (id : Uuid) (w w' : World) (now : Instant) (c : Call) (r : ServiceRow) : Prop :=
  (w.faults = [] → w'.faults = []) ∧
    ∃ r', w'.store.service? id = some r' ∧ (Written now c r r' ∨ w.faults ≠ [] ∧ r' = r)

/-- A call about something else writes nothing that matters here. -/
theorem Written.refl (ends : c.terminates r.id = false) (revives : c.activates r.id = false) :
    Written now c r r where
  id := rfl
  terminated := by simp [ends, revives]
  cancelledAt := by simp [ends]

/-- A statement that selects no terminated service, and terminates none, leaves each as it is. -/
theorem Written.guarded (ends : c.terminates r.id = false) (revives : c.activates r.id = false)
    (guard : selects r = true → r.status ≠ .terminated) (same : (writes r).id = r.id)
    (sets : (writes r).status ≠ .terminated) (keeps : (writes r).cancelledAt = r.cancelledAt) :
    Written now c r (if selects r then writes r else r) := by
  split
  · next selected => exact ⟨same, by simp [ends, sets, guard selected], by simp [ends, keeps]⟩
  · exact .refl ends revives

/-- A statement that selects a service by its name alone. -/
theorem Written.named {name : Uuid} (this : name = r.id → Written now c r (writes r))
    (ends : c.terminates r.id = true → name = r.id) (revives : c.activates r.id = true → name = r.id) :
    Written now c r (if r.id == name then writes r else r) := by
  split
  · next is => exact this (eq_of_beq is).symm
  · next other =>
    have apart : name ≠ r.id := fun is => other (by simp [is])
    exact .refl (eq_false_of_ne_true (mt ends apart)) (eq_false_of_ne_true (mt revives apart))

theorem id_of_service? (found : w.store.service? id = some r) : r.id = id := by
  simpa using List.find?_some found

theorem service?_changeServices (same : ∀ r, (writes r).id = r.id) (s : Store) (id : Uuid) :
    (s.changeServices selects writes).2.service? id =
      (s.service? id).map fun r => if selects r then writes r else r :=
  find?_changeRows fun r => by rw [same]

/-- A statement that changes selected services writes the row that was found. -/
theorem called_of_change {α : Type} {st : Statement} {f : Instant → Store → α × Store}
    (is : (f w.now w.store).2 = (w.store.changeServices selects writes).2)
    (same : ∀ r, (writes r).id = r.id) (found : w.store.service? id = some r)
    (written : Written now c r (if selects r then writes r else r)) :
    Called id w ((HostingBilling.change st f).run w).2 now c r := by
  have after : (f w.now w.store).2.service? id = some (if selects r then writes r else r) := by
    rw [is, service?_changeServices same, found, Option.map_some]
  by_cases calm : w.faults = []
  · rw [run_change calm]
    exact ⟨fun _ => calm, _, after, .inl written⟩
  · refine ⟨fun is => absurd is calm, ?_⟩
    rcases Action.store_change st f w with kept | done
    · exact ⟨r, by rw [kept]; exact found, .inr ⟨calm, rfl⟩⟩
    · exact ⟨_, by rw [done]; exact after, .inl written⟩

/-- A service that is there is none that is added. -/
theorem ensure_found (id userId : Uuid) (item : ItemRow) (expiresAt : Instant) :
    (Services.ensure userId item expiresAt).Keeps
      fun s s' => ∀ r, s.service? id = some r → s'.service? id = some r := by
  have chain : Chain fun s s' : Store => ∀ r, s.service? id = some r → s'.service? id = some r :=
    ⟨fun _ _ found => found, fun first rest r found => rest r (first r found)⟩
  refine chain.bind chain.freshId fun new => chain.bind (chain.change _ ?_) fun _ => chain.execute _ ?_
  · intro now s r found
    unfold Store.insertService
    split
    · exact found
    · rw [Store.service?, List.find?_append, show s.services.find? (fun r => r.id == id) = some r from found,
        Option.some_or]
  · intro now s x s' read r found
    split at read
    · cases read
      exact found
    · cases read

theorem call_row (found : w.store.service? id = some r) (now : Instant) (c : Call) :
    Called id w (call w (now, c)) now c r := by
  have is := id_of_service? found
  subst is
  cases c with
  | ensure userId item expiresAt =>
    have follows := ensure_found r.id userId item expiresAt { w with now := now }
    rw [← Action.run_answer _ fun _ => ()] at follows
    exact ⟨follows.calm, r, follows.store r found, .inl (.refl rfl rfl)⟩
  | start id =>
    refine called_of_change (w := { w with now := now }) rfl (fun _ => rfl) found ?_
    apply Written.guarded rfl rfl _ rfl _ rfl
    · intro selected terminated
      simp [terminated] at selected
    · simp
  | activate id machine =>
    refine called_of_change (w := { w with now := now }) rfl (fun _ => rfl) found ?_
    apply Written.named
    · rintro rfl
      exact ⟨rfl, by simp [Call.terminates, Call.activates], rfl⟩
    · simp [Call.terminates]
    · simp [Call.activates]
  | suspend id reason =>
    rw [call, Call.action, Action.run_answer]
    refine called_of_change (w := { w with now := now }) rfl (fun _ => rfl) found ?_
    apply Written.guarded rfl rfl _ rfl _ rfl
    · intro selected terminated
      simp [terminated] at selected
    · simp
  | terminate id =>
    rw [call, Call.action, Action.run_answer]
    refine called_of_change (w := { w with now := now }) rfl (fun _ => rfl) found ?_
    apply Written.named
    · rintro rfl
      exact ⟨rfl, by simp [Call.terminates], by simp [Call.terminates]⟩
    · simp [Call.terminates]
    · simp [Call.activates]
  | expire id =>
    rw [call, Call.action, Action.run_answer]
    refine called_of_change (w := { w with now := now }) rfl (fun _ => rfl) found ?_
    apply Written.guarded rfl rfl _ rfl _ rfl
    · intro selected terminated
      simp [Store.isExpired, terminated] at selected
    · simp
  | takeBack id =>
    rw [call, Call.action, Action.run_answer]
    refine called_of_change (w := { w with now := now }) rfl (fun _ => rfl) found ?_
    apply Written.guarded rfl rfl _ rfl _ rfl
    · intro selected terminated
      simp [terminated] at selected
    · simp

/-! ## Any number of calls -/

theorem closed_nil (service : Uuid) : Closed service [] := by
  simp [Closed]

theorem closed_cons {service : Uuid} {c : Timed} {rest : List Timed} : Closed service (c :: rest) ↔
    (c.2.activates service = true → ∃ end_ ∈ rest, end_.2.terminates service = true) ∧
      Closed service rest := by
  constructor
  · intro closed
    exact ⟨closed [] c rest rfl, fun before x after is => closed (c :: before) x after (by rw [is]; rfl)⟩
  · rintro ⟨here, there⟩ before x after is
    cases before with
    | nil => cases is; exact here
    | cons first before => cases is; exact there before x after rfl

theorem firstTermination_cons (service : Uuid) (c : Timed) (rest : List Timed) :
    firstTermination service (c :: rest) =
      if c.2.terminates service then some c.1 else firstTermination service rest := by
  rw [firstTermination, List.find?_cons]
  cases c.2.terminates service <;> rfl

/-- What calls that have all gone through make of the row of a service. -/
structure Ended (calls : List Timed) (r r' : ServiceRow) : Prop where
  terminated : r'.status = .terminated ↔
    Closed r.id calls ∧ (r.status = .terminated ∨ ∃ c ∈ calls, c.2.terminates r.id = true)
  cancelledAt : r'.cancelledAt = r.cancelledAt.or (firstTermination r.id calls)

theorem Ended.nil : Ended [] r r where
  terminated := by simp [closed_nil]
  cancelledAt := by simp [firstTermination]

theorem Ended.cons {r₁ : ServiceRow} {calls : List Timed} (first : Written now c r r₁) (rest : Ended calls r₁ r') :
    Ended ((now, c) :: calls) r r' where
  terminated := by
    rw [rest.terminated, first.id, closed_cons, first.terminated]
    simp only [List.mem_cons, exists_eq_or_imp]
    -- no call does both
    have apart : c.terminates r.id = true → c.activates r.id = false := by
      cases c <;> simp [Call.terminates, Call.activates]
    grind
  cancelledAt := by
    rw [rest.cancelledAt, first.id, first.cancelledAt, firstTermination_cons]
    cases c.terminates r.id <;> cases r.cancelledAt <;> simp

/-- The calls that are not struck make what becomes of a service. -/
theorem run_row (found : w.store.service? id = some r) (calls : List Timed) :
    ∃ r' done, (run w calls).store.service? id = some r' ∧ done.Sublist calls ∧
      (w.faults = [] → done = calls) ∧ Ended done r r' := by
  induction calls generalizing w r with
  | nil => exact ⟨r, [], found, .slnil, fun _ => rfl, .nil⟩
  | cons c rest ih =>
    obtain ⟨calm, r₁, found₁, written | ⟨faulty, rfl⟩⟩ := call_row found c.1 c.2
    · obtain ⟨r', done, found', sub, all, ended⟩ := ih found₁
      exact ⟨r', c :: done, found', sub.cons_cons c, fun is => by rw [all (calm is)], .cons written ended⟩
    · obtain ⟨r', done, found', sub, -, ended⟩ := ih found₁
      exact ⟨r', done, found', sub.cons c, fun is => absurd is faulty, ended⟩

/-- **A terminated service is revived by activations, and by nothing else.** While no activation of it is called,
a terminated service stays terminated, whatever else is called, in any order and with faults or without. A
cancellation that is stamped keeps its stamp, activations or not. Without faults the service is terminated at the
end just if every activation of it is followed by a termination, and the first termination stamps a cancellation
that has no stamp. -/
theorem terminated_until_activated (found : w.store.service? id = some r) (terminated : r.status = .terminated)
    (calls : List Timed) :
    ∃ r', (run w calls).store.service? id = some r' ∧
      ((∀ c ∈ calls, c.2.activates id = false) → r'.status = .terminated) ∧
      (∀ t, r.cancelledAt = some t → r'.cancelledAt = some t) ∧
      (w.faults = [] → (r'.status = .terminated ↔ Closed id calls) ∧
        r'.cancelledAt = r.cancelledAt.or (firstTermination id calls)) := by
  obtain ⟨r', done, found', sub, all, ended⟩ := run_row found calls
  have is := id_of_service? found
  subst is
  refine ⟨r', found', fun quiet => ?_, fun t stamped => ?_, fun calm => ?_⟩
  · refine ended.terminated.mpr ⟨fun before c after is revives => ?_, .inl terminated⟩
    rw [quiet c (sub.subset (by simp [is]))] at revives
    cases revives
  · rw [ended.cancelledAt, stamped, Option.some_or]
  · rw [all calm] at ended
    exact ⟨by rw [ended.terminated]; simp [terminated], ended.cancelledAt⟩

/-- A service that was terminated while its machine was being built. -/
def endedService : ServiceRow where
  id := .ofNat 1
  userId := .ofNat 2
  itemId := .ofNat 3
  planId := .ofNat 4
  status := .terminated
  hostname := none
  address := none
  expiresAt := some ⟨2592000, 0⟩
  cancelledAt := some ⟨60, 0⟩
  metadata := .object []
  createdAt := ⟨0, 0⟩
  updatedAt := ⟨60, 0⟩

def endedWorld : World := World.start { Store.empty with services := [endedService] } ⟨60, 0⟩ 100 ⟨"", "", ""⟩

/-- The machine is ready, and the service is activated. -/
def lateActivation : Timed := (⟨90, 0⟩, .activate (.ofNat 1) ⟨"vps-1", "10.0.0.1"⟩)

/-- A second termination ends the service again, and keeps the stamp of the first one. -/
theorem terminated_until_activated_terminatedAgain :
    endedWorld.store.service? (.ofNat 1) = some endedService ∧ endedService.status = .terminated ∧
      ∃ r', (run endedWorld [lateActivation, (⟨120, 0⟩, .terminate (.ofNat 1))]).store.service? (.ofNat 1) =
          some r' ∧ r'.status = .terminated ∧ r'.cancelledAt = some ⟨60, 0⟩ := by
  have found : endedWorld.store.service? (.ofNat 1) = some endedService := rfl
  obtain ⟨r', found', -, stamped, exact_⟩ := terminated_until_activated found rfl
    [lateActivation, (⟨120, 0⟩, .terminate (.ofNat 1))]
  have closed : Closed (.ofNat 1) [lateActivation, (⟨120, 0⟩, .terminate (.ofNat 1))] :=
    closed_cons.mpr ⟨fun _ => ⟨_, List.mem_singleton_self _, rfl⟩, closed_cons.mpr ⟨nofun, closed_nil _⟩⟩
  exact ⟨found, rfl, r', found', (exact_ rfl).1.mpr closed, stamped _ rfl⟩

/-- A terminated service is active after a call. -/
theorem terminated_service_activated : ¬ ∀ (w : World) (calls : List Timed) (id : Uuid) (r : ServiceRow),
    w.store.service? id = some r → r.status = .terminated →
      ∃ r', (run w calls).store.service? id = some r' ∧ r'.status = .terminated ∧
        r'.cancelledAt = r.cancelledAt := by
  intro claimed
  obtain ⟨r', found, terminated, -⟩ := claimed endedWorld [lateActivation] (.ofNat 1) endedService rfl rfl
  have active : ((run endedWorld [lateActivation]).store.service? (.ofNat 1)).map (·.status) = some .active := by
    decide
  rw [found, Option.map_some, terminated] at active
  cases active

end Services

end HostingBilling
