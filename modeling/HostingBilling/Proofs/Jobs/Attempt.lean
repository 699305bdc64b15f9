import HostingBilling.Proofs.Jobs.Law
import HostingBilling.Provisioning

/-!
# One attempt on a service

A request to build a machine names a service. The attempt takes the latest job of that service, whatever
its status and whatever the status of its order, unless the service is terminated or is active with that
job completed.
-/

namespace HostingBilling

/-- An attempt on this service goes ahead, with this job. -/
structure Store.Ready (s : Store) (r : ServiceRow) (j : JobRow) : Prop where
  service : r ∈ s.services
  latest : s.latestJob r.id .provisionVps = some j
  alive : r.status ≠ .terminated
  undone : r.status = .active → j.status ≠ .completed

/-- A service with the line that it was bought on, and the order of that line. -/
structure Store.Bought (s : Store) (r : ServiceRow) (item : ItemRow) (order : OrderRow) : Prop where
  service : r ∈ s.services
  line : item ∈ s.items
  bought : item.id = r.itemId
  ordered : order ∈ s.orders
  owner : order.id = item.orderId

theorem Store.Linked.bought {s : Store} (linked : s.Linked) {r : ServiceRow} (hr : r ∈ s.services) :
    ∃ item order, s.Bought r item order := by
  obtain ⟨item, hi, same⟩ := List.mem_map.mp (linked.serviceItem (List.mem_map_of_mem hr))
  obtain ⟨order, ho, owner⟩ := List.mem_map.mp (linked.itemOrder (List.mem_map_of_mem hi))
  exact ⟨item, order, hr, hi, same, ho, owner⟩

/-- A job that is done. -/
def JobRow.done (now : Instant) (r : JobRow) : JobRow := { r with
  status := .completed
  lastError := none
  completedAt := some now
  updatedAt := now }

/-- A service on its new machine. -/
def ServiceRow.activated (now : Instant) (machine : Machine) (r : ServiceRow) : ServiceRow := { r with
  status := .active
  hostname := some machine.hostname
  address := some machine.address
  metadata := r.metadata.merge [Store.stamp "provisioned_at" now]
  updatedAt := now }

namespace Provisioning

/-- A request that comes to ask the backend for the machine of a service, for this job. -/
structure Asks (s : Store) (p : ProvisionPayload) (r : ServiceRow) (j : JobRow) : Prop extends s.Ready r j where
  is : r.id = p.serviceId
  alone : s.hasOtherLive j = false

/-- What a request for a service comes to: nothing is done, the attempt fails, or the machine is built. -/
inductive Works (o : Outside) (serviceId : Uuid) (w : World) : World → Prop
  | left (idle : ∀ r j, r.id = serviceId → ¬ w.store.Ready r j) : Works o serviceId w w
  | failed {r : ServiceRow} {j : JobRow} {e : Failure} (is : r.id = serviceId) (ready : w.store.Ready r j)
      (down : o.provision ⟨r.id, r.planId, r.userId⟩ = .error e) :
      Works o serviceId w { w with store := { w.store with
        jobs := changeRows (fun x => x.id == j.id)
          (fun x => Store.failed w.now e.message (x.started w.now)) w.store.jobs } }
  | built {r : ServiceRow} {j : JobRow} {machine : Machine} {item : ItemRow} (is : r.id = serviceId)
      (ready : w.store.Ready r j) (up : o.provision ⟨r.id, r.planId, r.userId⟩ = .ok machine)
      (line : item ∈ w.store.items) (bought : item.id = r.itemId) :
      Works o serviceId w { w with store := { w.store with
        orders := changeRows (fun x => x.id == item.orderId && x.status == .provisioning)
          (fun x => { x with status := .active, updatedAt := w.now }) w.store.orders
        services := changeRows (fun x => x.id == r.id) (ServiceRow.activated w.now machine)
          w.store.services
        jobs := changeRows (fun x => x.id == j.id) (fun x => (x.started w.now).done w.now)
          w.store.jobs } }

variable {o : Outside} {w w' : World} {owed : List CommittedJob} {s : Store}

/-! ## The service of a request -/

/-- The details of a service are those of its row and its line. -/
theorem detail?_eq_some {id : Uuid} {d : ServiceView} (h : s.detail? id = some d) :
    ∃ r ∈ s.services, r.id = id ∧ d.id = id ∧ d.planId = r.planId ∧ d.userId = r.userId ∧
      d.status = r.status ∧ ∃ item ∈ s.items, item.id = r.itemId ∧ d.orderId = item.orderId := by
  simp only [Store.detail?, Option.bind_eq_bind, Option.bind_eq_some_iff] at h
  obtain ⟨r, found, item, line, order, -, h⟩ := h
  cases h
  have is : r.id = id := by simpa using List.find?_some found
  have bought : item.id = r.itemId := by simpa using List.find?_some line
  exact ⟨r, List.mem_of_find?_eq_some found, is, is, rfl, rfl, rfl, item,
    List.mem_of_find?_eq_some line, bought, rfl⟩

/-- A service with its line and order, as it is looked up. -/
def viewed (r : ServiceRow) (item : ItemRow) (order : OrderRow) : ServiceView where
  id := r.id
  userId := r.userId
  planId := r.planId
  orderId := item.orderId
  status := r.status
  cycle := item.cycle
  unitPriceCents := item.unitPriceCents
  currency := order.currency
  expiresAt := r.expiresAt

/-- A service that is there has details: every service has its line, and every line its order. -/
theorem detail?_of_bought (linked : s.Linked) {r : ServiceRow} {item : ItemRow} {order : OrderRow}
    (h : s.Bought r item order) : s.detail? r.id = some (viewed r item order) := by
  have service : s.service? r.id = some r := find?_key linked.services h.service
  have line : s.item? r.itemId = some item := h.bought ▸ find?_key linked.items h.line
  have of : s.order? item.orderId = some order := h.owner ▸ find?_key linked.orders h.ordered
  simp [Store.detail?, service, line, of, viewed]

theorem require_of_some (calm : w.faults = []) {id : Uuid} {d : ServiceView}
    (found : w.store.detail? id = some d) : (Services.require id).run w = (.ok d, w) := by
  have looked : (Services.detail id).run w = (.ok (w.store.detail? id), w) := run_ask calm _ _
  rw [Services.require, Action.run_bind_of_ok looked, found]
  rfl

theorem require_of_none (calm : w.faults = []) {id : Uuid} (missing : w.store.detail? id = none) :
    (Services.require id).run w = (.error (serviceNotFound id), w) := by
  have looked : (Services.detail id).run w = (.ok (w.store.detail? id), w) := run_ask calm _ _
  rw [Services.require, Action.run_bind_of_ok looked, missing]
  rfl

/-! ## Going ahead -/

/-- Success activates the service, completes the job, and moves an order that is still provisioning. -/
theorem finish_run (calm : w.faults = []) (keys : (w.store.orders.map (·.id)).Nodup)
    (service : ServiceView) (job : JobRow) (machine : Machine) :
    (finish service job machine).run w = (.ok (), { w with
      store := ((((w.store.activateService w.now service.id machine).2.completeJob w.now job.id).2).moveOrder
        w.now service.orderId .provisioning .active).2 }) := by
  let done : World :=
    { w with store := ((w.store.activateService w.now service.id machine).2.completeJob w.now job.id).2 }
  have activated : (Services.activate service.id machine).run w =
      (.ok (), { w with store := (w.store.activateService w.now service.id machine).2 }) :=
    run_change calm _ _
  have completed : (Jobs.complete job.id).run
      { w with store := (w.store.activateService w.now service.id machine).2 } = (.ok (), done) :=
    run_change (by exact calm) _ _
  have asked : (Orders.status service.orderId).run done =
      (.ok ((done.store.order? service.orderId).map (·.status)), done) := run_ask (by exact calm) _ _
  rw [finish, Action.run_bind_of_ok activated, Action.run_bind_of_ok completed,
    Action.run_bind_of_ok asked]
  split
  · have moved : (Orders.move service.orderId .provisioning .active).run done =
        (.ok (done.store.moveOrder done.now service.orderId .provisioning .active).1, { done with
          store := (done.store.moveOrder done.now service.orderId .provisioning .active).2 }) := by
      have becomes : OrderStatus.provisioning.become .active = .ok .active := rfl
      rw [Orders.move, becomes, Action.run_bind_of_ok (Action.run_ofExcept_ok _ _)]
      exact run_change (w := done) calm _ _
    rw [Action.run_bind_of_ok moved]
    rfl
  · next elsewhere =>
    have stays := Orders.moveOrder_of_ne (s := done.store) keys elsewhere w.now .active
    rw [show ((w.store.activateService w.now service.id machine).2.completeJob w.now job.id).2 =
      done.store from rfl, stays]
    rfl

/-- The tables after an attempt that the backend failed. -/
def failedStore (now : Instant) (j : JobRow) (e : Failure) (s : Store) : Store := { s with
  jobs := changeRows (fun x => x.id == j.id) (fun x => Store.failed now e.message (x.started now)) s.jobs }

/-- The tables after an attempt that built the machine. -/
def builtStore (now : Instant) (d : ServiceView) (j : JobRow) (machine : Machine) (s : Store) : Store := { s with
  orders := changeRows (fun x => x.id == d.orderId && x.status == .provisioning)
    (fun x => { x with status := .active, updatedAt := now }) s.orders
  services := changeRows (fun x => x.id == d.id) (ServiceRow.activated now machine) s.services
  jobs := changeRows (fun x => x.id == j.id) (fun x => (x.started now).done now) s.jobs }

/-- An attempt on a job ends as the backend answers, unless another live job stands in its way. -/
theorem attempt_run (calm : w.faults = []) (linked : w.store.Linked) {j : JobRow} (hj : j ∈ w.store.jobs)
    (alone : w.store.hasOtherLive j = false) (d : ServiceView) : (attempt o d j).run w =
      match o.provision ⟨d.id, d.planId, d.userId⟩ with
      | .error e => (.error e, { w with store := failedStore w.now j e w.store })
      | .ok machine => (.ok machine, { w with store := builtStore w.now d j machine w.store }) := by
  let under : World :=
    { w with store := (w.store.changeJobs (fun x => x.id == j.id) (JobRow.started w.now)).2 }
  have calm' : under.faults = [] := calm
  have started : (Jobs.start j.id).run w = (.ok (), under) := by
    rw [Jobs.start, run_execute calm, Store.startJob_of_alone linked.jobs hj alone]
  have twice (close : JobRow → JobRow) :
      changeRows (fun x => x.id == j.id) close (changeRows (fun x => x.id == j.id) (JobRow.started w.now)
        w.store.jobs) = changeRows (fun x => x.id == j.id) (fun x => close (x.started w.now)) w.store.jobs :=
    changeRows_changeRows (fun _ _ same => same) fun _ _ other => other
  rw [attempt, Action.run_bind_of_ok started]
  cases o.provision ⟨d.id, d.planId, d.userId⟩ with
  | error e =>
    have failed : (Jobs.fail j.id e.message).run under =
        (.ok (), { under with store := (under.store.failJob w.now j.id e.message).2 }) :=
      run_change calm' _ _
    dsimp only
    rw [Action.run_bind_of_ok failed, failedStore, ← twice]
    rfl
  | ok machine =>
    dsimp only
    rw [Action.run_bind, Action.run_transaction, finish_run calm' linked.orders, builtStore, ← twice]
    rfl

/-- A request, once the service and its latest job have been looked up. -/
def proceed (o : Outside) (service : ServiceView) (job : Option JobRow) : Action ProvisionOutcome := do
  if isDone service job then return .alreadyActive
  if service.status.isTerminal then
    throw (.validation ("service " ++ service.id.toText ++ " is terminated"))
  let some job := job |
    throw (.notFound ("provisioning job for service " ++ service.id.toText))
  return .activated (← attempt o service job)

/-- A job is not started beside another live one. -/
theorem attempt_beside (calm : w.faults = []) (linked : w.store.Linked) {j : JobRow} (hj : j ∈ w.store.jobs)
    (beside : w.store.hasOtherLive j = true) (d : ServiceView) : (attempt o d j).run w =
      (.error (.database (.duplicateKey "uq_provisioning_jobs_live")), w) := by
  have here : w.store.job? j.id = some j := find?_key linked.jobs hj
  have refused : (Jobs.start j.id).run w =
      (.error (.database (.duplicateKey "uq_provisioning_jobs_live")), w) := by
    rw [Jobs.start, run_execute calm, Store.startJob, here, Option.any_some, beside]
    rfl
  rw [attempt, Action.run_bind_of_error refused]

section bought

variable {r : ServiceRow} {item : ItemRow} {order : OrderRow} {j : JobRow} (calm : w.faults = [])
  (linked : w.store.Linked) (bought : w.store.Bought r item order)

include calm linked bought

theorem provision_run {p : ProvisionPayload} (is : r.id = p.serviceId) : (provision o p).run w =
    (proceed o (viewed r item order) (w.store.latestJob r.id .provisionVps)).run w := by
  have found := detail?_of_bought linked bought
  have latest : (Jobs.latest r.id .provisionVps).run w = (.ok (w.store.latestJob r.id .provisionVps), w) :=
    run_ask calm _ _
  rw [provision, ← is, Action.run_bind_of_ok (require_of_some calm found)]
  exact Action.run_bind_of_ok latest _

/-- An attempt goes ahead with the latest job. -/
theorem provision_ready {p : ProvisionPayload} (is : r.id = p.serviceId) (ready : w.store.Ready r j) :
    (provision o p).run w =
      (do return .activated (← attempt o (viewed r item order) j) : Action ProvisionOutcome).run w := by
  have notDone : isDone (viewed r item order) (some j) = false := by
    cases active : r.status == .active with
    | false => simp [isDone, viewed, active]
    | true => simpa [isDone, viewed, active] using ready.undone (beq_iff_eq.mp active)
  have open_ : (viewed r item order).status.isTerminal = false := by
    simpa [ServiceStatus.isTerminal, viewed] using ready.alive
  rw [provision_run calm linked bought is, ready.latest, proceed, notDone, open_]
  rfl

/-- A request is left when no attempt on its service can go ahead. -/
theorem provision_left {p : ProvisionPayload} (is : r.id = p.serviceId) (idle : ∀ j, ¬ w.store.Ready r j) :
    ∃ answer, (∀ machine, answer ≠ .ok (.activated machine)) ∧ (∀ text, answer ≠ .error (.provider text)) ∧
      (provision o p).run w = (answer, w) := by
  rw [provision_run calm linked bought is]
  unfold proceed
  cases done : isDone (viewed r item order) (w.store.latestJob r.id .provisionVps) with
  | true => exact ⟨.ok .alreadyActive, nofun, nofun, rfl⟩
  | false =>
    cases closed : (viewed r item order).status.isTerminal with
    | true => exact ⟨.error (.validation _), nofun, nofun, rfl⟩
    | false =>
      cases latest : w.store.latestJob r.id .provisionVps with
      | none => exact ⟨.error (.notFound _), nofun, nofun, rfl⟩
      | some j =>
        refine absurd ⟨bought.service, latest, ?_, fun active completed => ?_⟩ (idle j)
        · simpa [ServiceStatus.isTerminal, viewed] using closed
        · simp [isDone, latest, viewed, active, completed] at done

end bought

section run

variable {p : ProvisionPayload} {r : ServiceRow} {j : JobRow} (calm : w.faults = []) (linked : w.store.Linked)

include calm linked

/-- A request that does not ask the backend changes nothing. -/
theorem provision_unasked (unasked : ∀ r j, ¬ Asks w.store p r j) : ∃ answer,
    (∀ machine, answer ≠ .ok (.activated machine)) ∧ (∀ text, answer ≠ .error (.provider text)) ∧
      (provision o p).run w = (answer, w) := by
  cases found : w.store.detail? p.serviceId with
  | none =>
    refine ⟨.error (serviceNotFound p.serviceId), nofun, nofun, ?_⟩
    rw [provision, Action.run_bind_of_error (require_of_none calm found)]
  | some d =>
    obtain ⟨r, hr, is, -⟩ := detail?_eq_some found
    obtain ⟨item, order, bought⟩ := linked.bought hr
    by_cases goes : ∃ j, w.store.Ready r j
    · obtain ⟨j, ready⟩ := goes
      have beside : w.store.hasOtherLive j = true := by
        by_contra alone
        exact unasked r j ⟨ready, is, Bool.not_eq_true _ ▸ alone⟩
      have hj := (Store.latestJob_some ready.latest).1
      refine ⟨.error (.database (.duplicateKey "uq_provisioning_jobs_live")), nofun, nofun, ?_⟩
      rw [provision_ready calm linked bought is ready,
        Action.run_bind_of_error (attempt_beside calm linked hj beside _)]
    · exact provision_left calm linked bought is fun j ready => goes ⟨j, ready⟩

/-- A request for which the backend fails. -/
theorem provision_fails (asks : Asks w.store p r j) {e : Failure}
    (down : o.provision ⟨r.id, r.planId, r.userId⟩ = .error e) :
    (provision o p).run w = (.error e, { w with store := failedStore w.now j e w.store }) := by
  obtain ⟨item, order, bought⟩ := linked.bought asks.service
  have hj := (Store.latestJob_some asks.latest).1
  have ran := attempt_run (o := o) calm linked hj asks.alone (viewed r item order)
  have down : o.provision ⟨(viewed r item order).id, (viewed r item order).planId,
      (viewed r item order).userId⟩ = .error e := down
  rw [down] at ran
  rw [provision_ready calm linked bought asks.is asks.toReady, Action.run_bind_of_error ran]

/-- A request for which the backend builds the machine. -/
theorem provision_builds (asks : Asks w.store p r j) {machine : Machine}
    (up : o.provision ⟨r.id, r.planId, r.userId⟩ = .ok machine) : ∃ item order, w.store.Bought r item order ∧
    (provision o p).run w = (.ok (.activated machine),
      { w with store := builtStore w.now (viewed r item order) j machine w.store }) := by
  obtain ⟨item, order, bought⟩ := linked.bought asks.service
  have hj := (Store.latestJob_some asks.latest).1
  have ran := attempt_run (o := o) calm linked hj asks.alone (viewed r item order)
  have up : o.provision ⟨(viewed r item order).id, (viewed r item order).planId,
      (viewed r item order).userId⟩ = .ok machine := up
  rw [up] at ran
  refine ⟨item, order, bought, ?_⟩
  rw [provision_ready calm linked bought asks.is asks.toReady, Action.run_bind_of_ok ran]
  rfl

end run

/-- A request for a service is left when no attempt on it can go ahead. -/
theorem provision_works (law : JobLaw owed w) (p : ProvisionPayload) :
    Works o p.serviceId w ((provision o p).run w).2 := by
  by_cases asked : ∃ r j, Asks w.store p r j
  · obtain ⟨r, j, asks⟩ := asked
    cases answer : o.provision ⟨r.id, r.planId, r.userId⟩ with
    | error e =>
      rw [provision_fails law.calm law.linked asks answer]
      exact .failed asks.is asks.toReady answer
    | ok machine =>
      obtain ⟨item, order, bought, ran⟩ := provision_builds law.calm law.linked asks answer
      rw [ran]
      exact .built asks.is asks.toReady answer bought.line bought.bought
  · obtain ⟨answer, -, -, ran⟩ := provision_unasked (o := o) law.calm law.linked
      fun r j asks => asked ⟨r, j, asks⟩
    rw [ran]
    exact .left fun r j is ready => asked ⟨r, j, ready, is, law.alone rfl ready.latest⟩

end Provisioning

end HostingBilling
