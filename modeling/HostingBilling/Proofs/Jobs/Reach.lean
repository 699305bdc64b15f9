import HostingBilling.Proofs.Checkout.Fulfilment
import HostingBilling.Proofs.Jobs.Commitment
import HostingBilling.Proofs.Jobs.Work

/-!
# Live jobs and their tasks

Main statement: whatever whole operations have run, in whatever order, a service has at most one live job,
which is the one created last, and an unfinished task will come to it unless its service is terminated.
-/

namespace HostingBilling

namespace Operations

/-- One whole operation. Where jobs are submitted, a task that is accepted becomes a row. -/
inductive Step (w : World) : World → Prop
  | deliver (o : Outside) (e : GatewayEvent) (durable : o.durable = true) :
      Step w ((Delivery.process o e).run w).2
  | reprovision (o : Outside) (serviceId : Uuid) (durable : o.durable = true) :
      Step w ((Reprovision.service o serviceId).run w).2
  | poll (o : Outside) (tick : Nat) : Step w ((Worker.poll o tick).run w).2
  | reap : Step w (Worker.reap w)
  | enqueue (t : TaskDraft) : Step w ((TaskQueue.enqueue t).run w).2
  | wait (now : Instant) (later : w.now ≤ now) : Step w { w with now := now }

/-- What operations make of a store without jobs and tasks. No fault strikes, and identifiers do not run
out. -/
inductive Reachable : World → Prop
  | start {w : World} (calm : w.faults = []) (linked : w.store.Linked) (fresh : w.Fresh)
      (jobs : w.store.jobs = []) (tasks : w.store.tasks = []) : Reachable w
  | next {w w' : World} (before : Reachable w) (step : Step w w') (room : w'.nextId ≤ Uuid.limit) :
      Reachable w'

theorem step_law {w w' : World} {owed : List CommittedJob} (law : JobLaw owed w) (step : Step w w')
    (room : w'.nextId ≤ Uuid.limit) : JobLaw owed w' := by
  cases step with
  | deliver o e durable => exact (Delivery.process_upholds durable e w).2 owed law room
  | reprovision o id durable => exact (Reprovision.service_upholds durable id w).2 owed law room
  | poll o tick => exact Worker.pollQueues_law law _
  | reap => exact Worker.reap_law law
  | enqueue t => exact TaskQueue.enqueue_law law t room
  | wait now later => exact law.wait later

theorem reachable_law {w : World} (h : Reachable w) : JobLaw [] w := by
  induction h with
  | start calm linked fresh jobs tasks =>
    refine ⟨⟨calm, linked, by simp [tasks], fresh.numbered, ?_, ?_, ?_⟩, ?_, ?_⟩
    · simp [jobs]
    · simp [jobs]
    · simp [jobs]
    · simp
    · simp [jobs]
  | next _ step room law => exact step_law law step room

/-- **Live jobs and their tasks.** After any operations, a service has at most one live job of a kind; the
live job is the one that a worker finds as the latest, so that starting the latest never meets another
live one; and while its service is not terminated, an unfinished task builds the machine of that
service. -/
theorem live_jobs_backed {w : World} (h : Reachable w) :
    (∀ serviceId kind, w.store.jobs.countP (Store.isLiveJob serviceId kind) ≤ 1) ∧
    (∀ j ∈ w.store.jobs, j.status.isLive = true →
      ∃ kind : JobKind, j.kind = kind.name ∧ w.store.latestJob j.serviceId kind = some j) ∧
    (∀ s : Store, s.jobs = w.store.jobs → ∀ serviceId kind j now,
      s.latestJob serviceId kind = some j → ∃ s', s.startJob now j.id = .ok ((), s')) ∧
    (∀ j ∈ w.store.jobs, j.status.isLive = true → ∀ r ∈ w.store.services, r.id = j.serviceId →
      r.status ≠ .terminated → w.store.Served j.serviceId) := by
  have law := reachable_law h
  refine ⟨fun serviceId kind => ?_, fun j hj live => ?_, ?_, fun j hj live r hr service open_ => ?_⟩
  · apply countP_le_one (List.Nodup.of_map _ law.linked.jobs)
    intro a ha b hb liveA liveB
    obtain ⟨ofA, kindA, liveA⟩ := isLiveJob_iff.mp liveA
    obtain ⟨ofB, kindB, liveB⟩ := isLiveJob_iff.mp liveB
    exact law.oneLive a ha b hb (ofA.trans ofB.symm) (kindA.trans kindB.symm) liveA liveB
  · exact ⟨.provisionVps, law.kinds j hj, law.latestJob hj live⟩
  · intro s same serviceId kind j now found
    cases kind
    exact ⟨_, law.startJob same found now⟩
  · exact (law.backed j hj live r hr service open_).resolve_left (by simp)

/-- The event that pays the order of `Checkout.sampleStore`. -/
def sampleEvent : GatewayEvent where
  id := ⟨"evt_1"⟩
  kind := "checkout.session.completed"
  payload := .object [
    ("data", .object [("object", .object [
      ("id", .text "cs_1"),
      ("metadata", .object [("order_id", .text "00000000-0000-0000-0000-000000000001")]),
      ("payment_intent", .text "pi_1")])]),
    ("id", .text "evt_1"),
    ("type", .text "checkout.session.completed")]

/-- A queue that accepts every task, a webhook that answers and a machine backend that may be down. -/
def sampleOutside (down : Bool) : Outside where
  durable := true
  refuses _ := false
  deliver _ _ _ := .ok ()
  provision _ := if down then .error (.provider "down") else .ok ⟨"host", "address"⟩

/-- The order is paid, the backend is down for the first attempt, and an operator asks for a fresh job:
the task of the first job will come to the second. -/
def sampleRun : World :=
  let paid := ((Delivery.process (sampleOutside true) sampleEvent).run Checkout.sampleWorld).2
  let tried := ((Worker.poll (sampleOutside true) 0).run paid).2
  ((Reprovision.service (sampleOutside true) (.ofNat 105)).run tried).2

theorem reachable_sampleWorld : Reachable Checkout.sampleWorld := by
  have linked : Checkout.sampleWorld.store.Linked := by decide
  exact .start rfl linked (by decide) rfl rfl

theorem reachable_sampleRun : Reachable sampleRun := by
  have paid := reachable_sampleWorld.next (.deliver (sampleOutside true) sampleEvent rfl)
    (by decide +kernel)
  have tried := paid.next (.poll (sampleOutside true) 0) (by decide +kernel)
  exact tried.next (.reprovision (sampleOutside true) (.ofNat 105) rfl) (by decide +kernel)

theorem live_jobs_backed_after_retry : sampleRun.store.jobs.length = 2 ∧
    ∃ j ∈ sampleRun.store.jobs, j.status.isLive = true ∧
      sampleRun.store.jobs.countP (Store.isLiveJob j.serviceId j.kind) ≤ 1 ∧
      sampleRun.store.latestJob j.serviceId .provisionVps = some j ∧
      sampleRun.store.Served j.serviceId := by
  have live : sampleRun.store.jobs.any (fun j => j.status.isLive) = true := by decide +kernel
  have open_ : ∀ r ∈ sampleRun.store.services, r.status ≠ .terminated := by decide +kernel
  obtain ⟨one, latest, -, backed⟩ := live_jobs_backed reachable_sampleRun
  obtain ⟨j, hj, live⟩ := List.any_eq_true.mp live
  obtain ⟨r, hr, service⟩ := List.mem_map.mp
    ((reachable_law reachable_sampleRun).linked.jobService (List.mem_map_of_mem hj))
  obtain ⟨kind, -, isLatest⟩ := latest j hj live
  cases kind
  exact ⟨by decide +kernel, j, hj, live, one _ _, isLatest, backed j hj live r hr service (open_ r hr)⟩

end Operations

end HostingBilling
