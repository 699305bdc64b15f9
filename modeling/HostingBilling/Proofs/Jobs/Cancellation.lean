import HostingBilling.Proofs.Jobs.Work
import HostingBilling.Proofs.Recovery.Submissions
import HostingBilling.Simulator

/-!
# Work that is told to stop

The simulated backend walks its steps until it is told to stop. Main statement: it stops when the signal comes, in
the step that is then in progress, and a request whose signal comes before the last step has ended activates
nothing: its job is failed, nothing but jobs has changed, and its task waits for another attempt.
-/

namespace HostingBilling

/-! ## The walk -/

namespace Simulator

variable {signal : StopSignal} {start c : Nat}

/-- The step that is in progress at a time, of steps that begin at `start`. -/
def inProgress (start c : Nat) : List (String × Nat) → Option String
  | [] => none
  | (step, length) :: rest => if c < start + length then some step else inProgress (start + length) c rest

theorem not_isSetBefore (unset : signal.initially = false) (told : ∀ c, signal.time? = some c → start ≤ c) :
    signal.isSetBefore start = false := by
  obtain ⟨initially, setAt, droppedAt⟩ := signal
  cases unset
  cases setAt with
  | none => rfl
  | some a =>
    have ahead : start ≤ a := by
      cases droppedAt with
      | none => exact told a rfl
      | some b => exact Nat.le_trans (told _ rfl) (Nat.min_le_left a b)
    simpa [StopSignal.isSetBefore] using ahead

/-- A walk is stopped in the step that is in progress, or goes to its end if no step is. -/
theorem walk_told (unset : signal.initially = false) (told : signal.time? = some c) (ahead : start ≤ c)
    (steps : List (String × Nat)) : walk signal start steps =
      match inProgress start c steps with
      | some step => (.error (.provider ("cancelled during " ++ step)), c)
      | none => (.ok (), start + (steps.map (·.2)).sum) := by
  induction steps generalizing start with
  | nil => rfl
  | cons entry rest ih =>
    obtain ⟨step, length⟩ := entry
    have clear : signal.isSetBefore start = false := not_isSetBefore unset fun c' told' => by
      rw [Option.some.inj (told'.symm.trans told)]
      exact ahead
    rw [walk, clear, told, inProgress]
    by_cases within : c < start + length
    · simp [within, Nat.max_eq_right ahead]
    · -- the step ends before the signal comes, which is still ahead of the rest
      simp only [within, Bool.false_eq_true, if_false]
      rw [ih (Nat.not_lt.mp within), List.map_cons, List.sum_cons, Nat.add_assoc]

/-- A walk that is not told to stop goes to its end. -/
theorem walk_untold (unset : signal.initially = false) (untold : signal.time? = none)
    (steps : List (String × Nat)) : walk signal start steps = (.ok (), start + (steps.map (·.2)).sum) := by
  induction steps generalizing start with
  | nil => rfl
  | cons entry rest ih =>
    obtain ⟨step, length⟩ := entry
    have clear : signal.isSetBefore start = false := not_isSetBefore unset fun c told => by
      rw [untold] at told
      cases told
    rw [walk, clear, untold]
    simp only [Bool.false_eq_true, if_false]
    rw [ih, List.map_cons, List.sum_cons, Nat.add_assoc]

theorem sum_steps (delay : Nat) : 0 + ((steps delay).map (·.2)).sum = 4 * delay := by
  simp only [steps, List.map_cons, List.map_nil, List.sum_cons, List.sum_nil]
  omega

/-- The step that is in progress at a time before the end. -/
def stepAt (delay c : Nat) : String :=
  if c < 2 * delay then "create" else if c < 3 * delay then "boot" else "network"

theorem inProgress_steps (delay c : Nat) :
    inProgress 0 c (steps delay) = if c < 4 * delay then some (stepAt delay c) else none := by
  simp only [steps, inProgress, stepAt]
  grind

section provision

variable {delay : Nat}

theorem provision_set (set : signal.initially = true) (id : Uuid) :
    provision delay signal id = (.error (.provider "cancelled before create"), 0) := by
  rw [provision, steps, walk, StopSignal.isSetBefore, set]
  rfl

theorem provision_stopped (unset : signal.initially = false) (told : signal.time? = some c)
    (early : c < 4 * delay) (id : Uuid) :
    provision delay signal id = (.error (.provider ("cancelled during " ++ stepAt delay c)), c) := by
  rw [provision, walk_told unset told (Nat.zero_le c), inProgress_steps, if_pos early]
  rfl

theorem provision_finished (unset : signal.initially = false) (late : ∀ c, signal.time? = some c → 4 * delay ≤ c)
    (id : Uuid) : provision delay signal id = (.ok (machineOf id), 4 * delay) := by
  have walked : walk signal 0 (steps delay) = (.ok (), 4 * delay) := by
    cases told : signal.time? with
    | none => rw [walk_untold unset told, sum_steps]
    | some c =>
      rw [walk_told unset told (Nat.zero_le c), inProgress_steps, if_neg (Nat.not_lt.mpr (late c told)), sum_steps]
  rw [provision, walked]
  rfl

end provision

end Simulator

/-- The signal stands from the start or comes before the last step has ended. -/
def StopSignal.Early (delay : Nat) (s : StopSignal) : Prop :=
  s.initially = true ∨ ∃ c, s.time? = some c ∧ c < 4 * delay

theorem StopSignal.Early.stops {delay : Nat} {s : StopSignal} (h : s.Early delay) (id : Uuid) :
    ∃ text, (Simulator.provision delay s id).1 = .error (.provider text) := by
  cases initially : s.initially with
  | true => exact ⟨_, congrArg Prod.fst (Simulator.provision_set initially id)⟩
  | false =>
    obtain ⟨c, told, early⟩ := h.resolve_left (by simp [initially])
    exact ⟨_, congrArg Prod.fst (Simulator.provision_stopped initially told early id)⟩

/-! ## A request whose backend fails -/

/-- Nothing but jobs has changed. -/
def Store.OnlyJobs (a b : Store) : Prop := b = { a with jobs := b.jobs }

theorem Store.OnlyJobs.chain : Chain Store.OnlyJobs where
  refl _ := rfl
  trans hab hbc := by
    rw [Store.OnlyJobs] at hab hbc ⊢
    rw [hbc, hab]

namespace Provisioning

variable {o : Outside} {p : ProvisionPayload} {w : World} {r : ServiceRow} {j : JobRow}

/-- The backend builds nothing. -/
def Down (o : Outside) : Prop := ∀ request, ∃ e, o.provision request = .error e

theorem attempt_down (down : Down o) (service : ServiceView) (job : JobRow) : ∃ e : Failure,
    attempt o service job = (do Jobs.start job.id; Jobs.fail job.id e.message; throw e) := by
  obtain ⟨e, failed⟩ := down ⟨service.id, service.planId, service.userId⟩
  refine ⟨e, ?_⟩
  rw [attempt, failed]

/-- Where the backend builds nothing, an attempt changes nothing but jobs. -/
theorem attempt_onlyJobs (down : Down o) (service : ServiceView) (job : JobRow) :
    (attempt o service job).Keeps Store.OnlyJobs := by
  obtain ⟨e, is⟩ := attempt_down down service job
  rw [is]
  have chain := Store.OnlyJobs.chain
  exact chain.bind (Jobs.start_keeps chain (fun _ _ => rfl) job.id) fun _ =>
    chain.bind (chain.change _ fun _ _ => rfl) fun _ => chain.throw _

theorem provision_onlyJobs (down : Down o) (p : ProvisionPayload) : (provision o p).Keeps Store.OnlyJobs :=
  provision_keeps Store.OnlyJobs.chain (attempt_onlyJobs down) p

theorem proceed_not_activated (down : Down o) (service : ServiceView) (job : Option JobRow) (w : World)
    (machine : Machine) : ((proceed o service job).run w).1 ≠ .ok (.activated machine) := by
  unfold proceed
  cases isDone service job with
  | true => exact nofun
  | false =>
    cases service.status.isTerminal with
    | true => exact nofun
    | false =>
      cases job with
      | none => exact nofun
      | some job =>
        intro activated
        obtain ⟨built, w₁, attempted, -⟩ := Action.run_bind_ok (Action.run_eq_of_fst activated)
        obtain ⟨e, is⟩ := attempt_down down service job
        rw [is] at attempted
        obtain ⟨_, _, -, failed⟩ := Action.run_bind_ok attempted
        obtain ⟨_, _, -, thrown⟩ := Action.run_bind_ok failed
        cases thrown

/-- Where the backend builds nothing, no request activates its service. -/
theorem provision_not_activated (down : Down o) (p : ProvisionPayload) (w : World) (machine : Machine) :
    ((provision o p).run w).1 ≠ .ok (.activated machine) := by
  intro activated
  obtain ⟨service, w₁, -, found⟩ := Action.run_bind_ok (Action.run_eq_of_fst activated)
  obtain ⟨job, w₂, -, proceeded⟩ := Action.run_bind_ok found
  exact proceed_not_activated down service job w₂ machine (congrArg Prod.fst proceeded)

/-- The job of a failed attempt has failed. -/
theorem failedStore_job (hj : j ∈ w.store.jobs) (e : Failure) : ∃ x ∈ (failedStore w.now j e w.store).jobs,
    x.id = j.id ∧ x.status = .failed ∧ x.lastError = some e.message := by
  refine ⟨_, mem_changeRows.mpr ⟨j, hj, rfl⟩, ?_⟩
  rw [if_pos (beq_self_eq_true _)]
  exact ⟨rfl, rfl, rfl⟩

end Provisioning

namespace Worker

variable {o : Outside} {w : World} {t : TaskRow}

/-- A task whose handler fails in a way that may be mended is tried again later, while attempts are left. -/
theorem run_retry {w' : World} {e : Failure} (worked : (work o t).run w = (.error e, w'))
    (mended : e.isPermanent = false) (records : Records w')
    (fits : ∀ x ∈ w'.store.tasks, x.id = t.id → TaskQueue.waitFits x = true) :
    (run o t).run w = (.ok (), { w' with store := { w'.store with
      tasks := changeRows (fun x => x.id == t.id) (TaskQueue.failedRow w'.now e.message) w'.store.tasks } }) := by
  rw [run_run, worked]
  rcases record_cases records t.id (.error e) with recorded | ⟨⟨x, hx, is, long⟩, -⟩
  · rw [recorded, judged_retry mended]
  · rw [fits x hx is] at long
    cases long

end Worker

/-! ## Cancellation -/

open Provisioning (Asks failedStore)

/-- **Work that is told to stop builds nothing.** A signal that stands from the start ends the walk at once. One
that comes later ends it when it comes, in the step that is then in progress; without one that comes before the
last step has ended the machine is there when that step ends. Where the signal is that early, no request activates
its service and nothing but jobs changes, whatever statements fail. A request that asks for the machine then
fails its job, and its task is tried again while attempts are left. -/
theorem cancelled_builds_nothing (delay : Nat) (signal : StopSignal) :
    (signal.initially = true → ∀ id,
      Simulator.provision delay signal id = (.error (.provider "cancelled before create"), 0)) ∧
    (signal.initially = false → ∀ id,
      (∀ c, signal.time? = some c → c < 4 * delay → Simulator.provision delay signal id =
        (.error (.provider ("cancelled during " ++ Simulator.stepAt delay c)), c)) ∧
      ((∀ c, signal.time? = some c → 4 * delay ≤ c) →
        Simulator.provision delay signal id = (.ok (Simulator.machineOf id), 4 * delay))) ∧
    ∀ o : Outside, (∀ r, o.provision r = (Simulator.provision delay signal r.serviceId).1) → signal.Early delay →
      (∀ (p : ProvisionPayload) (w : World),
        (∀ machine, ((Provisioning.provision o p).run w).1 ≠ .ok (.activated machine)) ∧
        w.store.OnlyJobs ((Provisioning.provision o p).run w).2.store) ∧
      ∀ (p : ProvisionPayload) (w : World) (r : ServiceRow) (j : JobRow), w.faults = [] → w.store.Linked →
        Asks w.store p r j → ∃ e, (Simulator.provision delay signal r.id).1 = .error e ∧ e.isPermanent = false ∧
          (Provisioning.provision o p).run w = (.error e, { w with store := failedStore w.now j e w.store }) ∧
          (∃ x ∈ (failedStore w.now j e w.store).jobs,
            x.id = j.id ∧ x.status = .failed ∧ x.lastError = some e.message) ∧
          ∀ t : TaskRow, t.kind = TaskKind.provisionVps.name →
            Payload.decode .provisionVps t.payload = .ok (.provision p) →
            (∀ x ∈ w.store.tasks, x.id = t.id → TaskQueue.waitFits x = true) →
            (Worker.run o t).run w = (.ok (), { w with store := { failedStore w.now j e w.store with
              tasks := changeRows (fun x => x.id == t.id) (TaskQueue.failedRow w.now e.message) w.store.tasks } }) := by
  refine ⟨Simulator.provision_set, fun unset id => ⟨fun c told early => ?_, fun late => ?_⟩,
    fun o simulated early => ⟨fun p w => ?_, fun p w r j calm linked asks => ?_⟩⟩
  · exact Simulator.provision_stopped unset told early id
  · exact Simulator.provision_finished unset late id
  · have down : Provisioning.Down o := fun request => by
      obtain ⟨text, stopped⟩ := early.stops request.serviceId
      exact ⟨_, (simulated request).trans stopped⟩
    exact ⟨Provisioning.provision_not_activated down p w, (Provisioning.provision_onlyJobs down p w).store⟩
  · obtain ⟨text, stopped⟩ := early.stops r.id
    have failed := Provisioning.provision_fails (o := o) calm linked asks ((simulated _).trans stopped)
    refine ⟨_, stopped, rfl, failed, Provisioning.failedStore_job (Store.latestJob_some asks.latest).1 _,
      fun t kind payload fits => ?_⟩
    have worked : (Worker.work o t).run w =
        (.error (.provider text), { w with store := failedStore w.now j (.provider text) w.store }) := by
      rw [Worker.work_provision kind payload, Action.run_bind_of_error failed]
    exact Worker.run_retry worked rfl (Worker.records_of_calm calm) fits

open CommittedJob (dueStore dueWorld) in
/-- The worker stops while a machine boots. -/
theorem cancelled_builds_nothing_booting :
    let signal : StopSignal := ⟨false, some 25, some 70⟩
    let o : Outside :=
      { Operations.sampleOutside true with provision := fun r => (Simulator.provision 10 signal r.serviceId).1 }
    let p : ProvisionPayload := ⟨.ofNat 4, .ofNat 1, .ofNat 8, .ofNat 9⟩
    let t := TaskQueue.newRow ⟨1000, 0⟩ (.ofNat 50) (.provision p)
    let w : World := { dueWorld with store := { dueStore with tasks := [t] } }
    Simulator.provision 10 signal (.ofNat 4) = (.error (.provider "cancelled during boot"), 25) ∧
      w.faults = [] ∧ w.store.Linked ∧ signal.Early 10 ∧ ∃ w', (Worker.run o t).run w = (.ok (), w') ∧
        w'.store.services = w.store.services ∧
        w'.store.tasks = [TaskQueue.failedRow ⟨1000, 0⟩ "provider: cancelled during boot" t] ∧
        ∃ x ∈ w'.store.jobs, x.id = .ofNat 6 ∧ x.status = .failed := by
  intro signal o p t w
  have linked : w.store.Linked := by decide
  have early : signal.Early 10 := .inr ⟨25, rfl, by decide⟩
  obtain ⟨r, j, asks, is⟩ : ∃ r j, Asks w.store p r j ∧ j.id = .ofNat 6 :=
    ⟨w.store.services[0], w.store.jobs[0],
      ⟨⟨List.mem_cons_self, rfl, by decide, by decide⟩, by decide, by decide⟩, rfl⟩
  obtain ⟨-, walked, handled⟩ := cancelled_builds_nothing 10 signal
  have stopped := (walked rfl (.ofNat 4)).1 25 rfl (by decide)
  obtain ⟨-, asked⟩ := handled o (fun _ => rfl) early
  obtain ⟨e, is_e, -, -, ⟨x, hx, own, failed, -⟩, ran⟩ := asked p w r j rfl linked asks
  obtain rfl : e = .provider "cancelled during boot" := by
    rw [asks.is, stopped] at is_e
    exact (Except.error.inj is_e).symm
  exact ⟨stopped, rfl, linked, early, _, ran t rfl (Payload.decode_provision p) (by decide), rfl, rfl,
    x, hx, own.trans is, failed⟩

end HostingBilling
