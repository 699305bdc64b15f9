import HostingBilling.Proofs.Operations.Moves

/-!
# Paid orders

An order waits in paid, between its payment and the commit of its jobs or after their submission was
refused, so nothing should be under way for it. Main statement: no job of a paid order is live; and a job
of it is completed only if a worker came to its service, with a task of an earlier job, while the order
was already paid.
-/

namespace HostingBilling

open Checkout (Carried)
open Provisioning (Works)
open Reprovision (Prepared)

/-- An order that waits for its payment has no service, and the jobs of a paid one have failed, except
that one may be completed where a worker strayed to its service. -/
structure Store.Idle (strayed : Uuid → Uuid → Prop) (s : Store) : Prop where
  waiting : ∀ x ∈ s.orders, x.status = .draft ∨ x.status = .pendingPayment →
    ∀ r ∈ s.services, s.isLineOf x.id r.itemId = false
  paid : ∀ x ∈ s.orders, x.status = .paid → ∀ r ∈ s.services, s.isLineOf x.id r.itemId = true →
    ∀ j ∈ s.jobs, j.serviceId = r.id → j.status = .failed ∨ j.status = .completed ∧ strayed x.id r.id

namespace Operations

variable {strayed : Uuid → Uuid → Prop} {op : Operation} {v w w' : World} {owed : List CommittedJob}

/-- Where no service is new, the services of an order are the ones it had. -/
theorem idle_of {a b : Store} (h : a.Idle strayed) (items : b.items = a.items)
    (services : List.Forall₂ ServiceRow.Continues a.services b.services)
    (waiting : ∀ x' ∈ b.orders, x'.status = .draft ∨ x'.status = .pendingPayment →
      ∃ x ∈ a.orders, x.id = x'.id ∧ (x.status = .draft ∨ x.status = .pendingPayment))
    (paid : ∀ x' ∈ b.orders, x'.status = .paid → ∀ r ∈ a.services,
      a.isLineOf x'.id r.itemId = true → ∀ j ∈ b.jobs, j.serviceId = r.id →
        j.status = .failed ∨ j.status = .completed ∧ strayed x'.id r.id) : b.Idle strayed := by
  have line (orderId itemId : Uuid) : b.isLineOf orderId itemId = a.isLineOf orderId itemId := by
    rw [Store.isLineOf, items, ← Store.isLineOf]
  constructor
  · intro x' hx' waits r' hr'
    obtain ⟨x, hx, id, waits⟩ := waiting x' hx' waits
    obtain ⟨r, hr, same⟩ := exists_left_of_forall₂ services hr'
    rw [line, same.itemId, ← id]
    exact h.waiting x hx waits r hr
  · intro x' hx' isPaid r' hr' of j hj service
    obtain ⟨r, hr, same⟩ := exists_left_of_forall₂ services hr'
    rw [line, same.itemId] at of
    rw [same.id] at service ⊢
    exact paid x' hx' isPaid r hr of j hj service

theorem declined_idle (h : w.store.Idle strayed) (step : Store.Declines w.store w'.store) :
    w'.store.Idle strayed := by
  refine idle_of h step.items step.quiet.services (fun x' hx' waits => ?_) fun x' hx' paid r hr of => ?_
  · obtain ⟨x, hx, rfl | ⟨-, now, rfl⟩⟩ := exists_left_of_forall₂ step.orders hx'
    · exact ⟨x', hx, rfl, waits⟩
    · rcases waits with waits | waits <;> cases waits
  · obtain ⟨x, hx, rfl | ⟨-, now, rfl⟩⟩ := exists_left_of_forall₂ step.orders hx'
    · rw [step.jobs]
      exact h.paid x' hx paid r hr of
    · cases paid

/-- A checkout leaves its order paid only if it committed no job for it. -/
theorem paid_of_onward {s : OrderStatus} {tasks : List CommittedJob}
    (h : s.settled.onward tasks = .paid) : s.settled = .paid ∧ tasks = [] := by
  unfold OrderStatus.onward at h
  split at h
  · cases h
  · next stays =>
    refine ⟨h, ?_⟩
    rw [h] at stays
    simpa using stays

theorem carried_idle {order : OrderRow} {tasks : List CommittedJob} (linked : w.store.Linked)
    (linked' : w'.store.Linked) (h : w.store.Idle strayed) (carried : Carried order w tasks w') :
    w'.store.Idle strayed := by
  have line (orderId itemId : Uuid) : w'.store.isLineOf orderId itemId = w.store.isLineOf orderId itemId := by
    rw [Store.isLineOf, carried.items, ← Store.isLineOf]
  -- the services of another order are the ones it had
  have old {x : OrderRow} (other : x.id ≠ order.id) {r : ServiceRow} (hr : r ∈ w'.store.services)
      (of : w'.store.isLineOf x.id r.itemId = true) : r ∈ w.store.services := by
    rcases carried.services r hr with hr | ⟨-, -, mine⟩
    · exact hr
    · exact absurd (linked'.order_of_line of mine) other
  constructor
  · intro x hx waits r hr
    rcases carried.order_cases linked'.orders hx with ⟨hx, other⟩ | ⟨-, status⟩
    · by_contra of
      have of : w'.store.isLineOf x.id r.itemId = true := by simpa using of
      have none_ := h.waiting x hx waits r (old other hr of)
      rw [← line, of] at none_
      cases none_
    · have settled : x.status.isSettled = true := by
        rw [status, OrderStatus.onward]
        split
        · rfl
        · rcases carried.payable with settled | pending
          · rw [OrderStatus.settled, if_pos settled]
            exact settled
          · rw [pending]
            rfl
      rcases waits with waits | waits <;> · rw [waits] at settled; cases settled
  · intro x hx paid r hr of j hj service
    rcases carried.order_cases linked'.orders hx with ⟨hx, other⟩ | ⟨is, status⟩
    · rw [carried.jobs] at hj
      rcases List.mem_append.mp hj with hj | new
      · rw [line] at of
        exact h.paid x hx paid r (old other hr (line _ _ ▸ of)) of j hj service
      · obtain ⟨t, ht, rfl⟩ := List.mem_map.mp new
        obtain ⟨r', hr', ofJob, mine⟩ := carried.ofOrder t ht
        obtain rfl := eq_of_key linked'.services hr hr' (service.symm.trans ofJob.symm)
        exact absurd (linked'.order_of_line of mine) other
    · obtain ⟨settled, rfl⟩ := paid_of_onward (status.symm.trans paid)
      rw [carried.jobs, List.map_nil, List.append_nil] at hj
      obtain ⟨r₀, hr₀, id, item⟩ := carried.service_before linked linked' hj hr service
      rw [line, is, ← item] at of
      rw [is, ← id]
      rcases carried.payable with isSettled | pending
      · rw [OrderStatus.settled, if_pos isSettled] at settled
        exact h.paid order carried.here settled r₀ hr₀ of j hj (service.trans id.symm)
      · have none_ := h.waiting order carried.here (.inr pending) r₀ hr₀
        rw [of] at none_
        cases none_

/-- An operator's request takes a paid order out of paid. -/
theorem prepared_idle {id : Uuid} {detail : ServiceView} {task : CommittedJob} (linked : w.store.Linked)
    (h : w.store.Idle strayed) (found : w.store.detail? id = some detail)
    (prepared : Prepared detail w task w') : w'.store.Idle strayed := by
  obtain ⟨r₀, hr₀, is, id, -, -, -, item, line, bought, order⟩ := Provisioning.detail?_eq_some found
  have mine : w.store.isLineOf detail.orderId r₀.itemId = true :=
    Store.mem_isLineOf.mpr ⟨item, Store.mem_itemsOf.mpr ⟨line, order.symm⟩, bought⟩
  refine idle_of h prepared.items prepared.continues (fun x' hx' waits => ?_)
    fun x' hx' paid r hr of j hj service => ?_ <;> rw [prepared.orders] at hx'
  · obtain ⟨x, hx, rfl⟩ := mem_changeRows.mp hx'
    split at waits
    · rcases waits with waits | waits <;> cases waits
    · next other =>
      rw [if_neg other]
      exact ⟨x, hx, rfl, waits⟩
  · obtain ⟨x, hx, rfl⟩ := mem_changeRows.mp hx'
    split at paid
    · cases paid
    · next other =>
      rw [if_neg other] at of ⊢
      rw [prepared.jobs] at hj
      rcases List.mem_append.mp hj with hj | new
      · exact h.paid x hx paid r hr of j hj service
      · obtain rfl := List.mem_singleton.mp new
        obtain rfl := eq_of_key linked.services hr hr₀ (service.symm.trans (id.trans is.symm))
        have same := linked.order_of_line of mine
        simp [same, paid] at other

/-- An order is taken back to paid only when all of its jobs have failed. -/
theorem takenBack_idle {t : CommittedJob} {reason : String} {now : Instant} {s : Store}
    (linked : (CommittedJob.takenBack now t reason s).Linked) (h : s.Idle strayed) :
    (CommittedJob.takenBack now t reason s).Idle strayed := by
  have services := CommittedJob.takenBack_continues now t reason s
  have before (x : OrderRow) (hx : x ∈ s.orders) (paid : x.status = .paid) (r : ServiceRow)
      (hr : r ∈ s.services) (of : s.isLineOf x.id r.itemId = true) (j : JobRow)
      (hj : j ∈ (CommittedJob.takenBack now t reason s).jobs) (service : j.serviceId = r.id) :
      j.status = .failed ∨ j.status = .completed ∧ strayed x.id r.id := by
    rw [CommittedJob.takenBack_jobs] at hj
    obtain ⟨k, hk, rfl⟩ := mem_changeRows.mp hj
    split
    · exact .inl rfl
    · next other =>
      rw [if_neg other] at service
      exact h.paid x hx paid r hr of k hk service
  rcases CommittedJob.takenBack_orders now t reason s with same | ⟨orders, failed⟩
  · exact idle_of h (CommittedJob.takenBack_items _ _ _ _) services
      (fun x hx waits => ⟨x, same ▸ hx, rfl, waits⟩) fun x hx => before x (same ▸ hx)
  · refine idle_of h (CommittedJob.takenBack_items _ _ _ _) services (fun x' hx' waits => ?_)
      fun x' hx' paid r hr of j hj service => ?_ <;> rw [orders] at hx'
    · obtain ⟨x, hx, rfl⟩ := mem_changeRows.mp hx'
      split at waits
      · rcases waits with waits | waits <;> cases waits
      · next other =>
        rw [if_neg other]
        exact ⟨x, hx, rfl, waits⟩
    · obtain ⟨x, hx, rfl⟩ := mem_changeRows.mp hx'
      split at paid
      · next selected =>
        rw [if_pos selected] at of
        simp only [Bool.and_eq_true, beq_iff_eq] at selected
        obtain ⟨r', hr', same⟩ := exists_right_of_forall₂ services hr
        refine .inl (failed j hj ?_)
        rw [service, ← same.id, Checkout.isServiceOf_of_linked linked hr', same.itemId, Store.isLineOf,
          CommittedJob.takenBack_items, ← Store.isLineOf, ← selected.1]
        exact of
      · next other =>
        rw [if_neg other] at of ⊢
        exact before x hx paid r hr of j hj service

/-- A worker completes a job whatever the status of the order; if that is paid, it strayed. -/
theorem worked_idle {o : Outside} {serviceId : Uuid} (linked : w.store.Linked) (h : w.store.Idle strayed)
    (works : Works o serviceId w w')
    (strays : ∀ x ∈ w.store.orders, x.status = .paid → strayed x.id serviceId) :
    w'.store.Idle strayed := by
  have services := (works.eases linked).store.services
  cases works with
  | left => exact h
  | failed is ready down =>
    refine idle_of h rfl services (fun x hx waits => ⟨x, hx, rfl, waits⟩)
      fun x hx paid r hr of j hj service => ?_
    obtain ⟨k, hk, rfl⟩ := mem_changeRows.mp hj
    split
    · exact .inl rfl
    · next other =>
      rw [if_neg other] at service
      exact h.paid x hx paid r hr of k hk service
  | @built r₀ j₀ machine item is ready up line bought =>
    obtain ⟨hj₀, ofJob, -⟩ := Store.latestJob_some ready.latest
    have unmoved {x' : OrderRow} (hx' : x' ∈ changeRows
        (fun x => x.id == item.orderId && x.status == .provisioning)
        (fun x => { x with status := .active, updatedAt := w.now }) w.store.orders) :
        x' ∈ w.store.orders ∨ x'.status = .active := by
      obtain ⟨x, hx, rfl⟩ := mem_changeRows.mp hx'
      split
      · exact .inr rfl
      · exact .inl hx
    refine idle_of h rfl services (fun x' hx' waits => ?_) fun x' hx' paid r hr of j hj service => ?_
    · rcases unmoved hx' with hx | active
      · exact ⟨x', hx, rfl, waits⟩
      · rw [active] at waits
        rcases waits with waits | waits <;> cases waits
    · rcases unmoved hx' with hx | active
      · obtain ⟨k, hk, rfl⟩ := mem_changeRows.mp hj
        split
        · next selected =>
          rw [if_pos selected] at service
          have same : k = j₀ := eq_of_key linked.jobs hk hj₀ (by simpa using selected)
          have : r.id = serviceId := by
            rw [← is, ← ofJob, ← same]
            exact service.symm
          exact .inr ⟨rfl, this ▸ strays x' hx paid⟩
        · next other =>
          rw [if_neg other] at service
          exact h.paid x' hx paid r hr of k hk service
      · rw [active] at paid
        cases paid

theorem move_idle {owed' : List CommittedJob} (move : Move op v owed w owed' w') (law : JobLaw owed w)
    (law' : JobLaw owed' w')
    (strays : ∀ x ∈ v.store.orders, x.status = .paid → ∀ serviceId, op.ComesTo v serviceId →
      strayed x.id serviceId) (h : w.store.Idle strayed) : w'.store.Idle strayed := by
  cases move with
  | decline step => exact declined_idle h step.store
  | carry _ carried => exact carried_idle law.linked law'.linked h carried
  | prepare _ found prepared => exact prepared_idle law.linked h found prepared
  | accept | proceed | enqueue | wait => exact ⟨h.waiting, h.paid⟩
  | refuse => exact takenBack_idle law'.linked h
  | work is took serves works =>
    refine worked_idle law.linked h works fun x hx paid => strays x hx paid _ ?_
    rw [is]
    exact ⟨_, took, serves⟩

/-- **Paid orders.** In every run from the opening, a paid order has no live job, and every job of its
services has failed, except for one that was completed because a worker came to its service when the
order was already paid. -/
theorem paid_idle {w : World} {ops : List Operation} (opening : w.Opening) (runs : Runs w ops)
    {x : OrderRow} (hx : x ∈ (runAll ops w).store.orders) (paid : x.status = .paid) {j : JobRow}
    (hj : j ∈ (runAll ops w).store.jobs)
    (of : (runAll ops w).store.isServiceOf x.id j.serviceId = true) :
    j.status = .failed ∨ j.status = .completed ∧ ∃ before op after, ops = before ++ op :: after ∧
      op.ComesTo (runAll before w) j.serviceId ∧
      ∃ y ∈ (runAll before w).store.orders, y.id = x.id ∧ y.status = .paid := by
  let strayed (orderId serviceId : Uuid) : Prop := ∃ before op after, ops = before ++ op :: after ∧
    op.ComesTo (runAll before w) serviceId ∧
    ∃ y ∈ (runAll before w).store.orders, y.id = orderId ∧ y.status = .paid
  have start : w.store.Idle strayed := by
    constructor
    · simp [opening.services]
    · simp [opening.services]
  have idle : (runAll ops w).store.Idle strayed := by
    refine runs.keeps (I := fun w => w.store.Idle strayed) (reachable_law opening.reachable) start
      fun before op after split law moved h => ?_
    refine moved.keeps (I := fun _ w => w.store.Idle strayed) law h fun move law law' => ?_
    refine move_idle move law law' fun y hy paid serviceId comes => ?_
    exact ⟨before, op, after, split, comes, y, hy, rfl, paid⟩
  have linked := (reachable_law (runs.reachable opening.reachable)).linked
  obtain ⟨r, hr, service⟩ := List.mem_map.mp (linked.jobService (List.mem_map_of_mem hj))
  rw [← service, Checkout.isServiceOf_of_linked linked hr] at of
  rw [← service]
  exact idle.paid x hx paid r hr of j hj service.symm

/-- The backend is down for the first job, the event comes again under another name, and the queue refuses
the second job. The task of the first job is tried again. -/
def strayRun : List Operation := [
  .deliver (sampleOutside true) sampleEvent,
  .poll (sampleOutside true) 0,
  .deliver refusing repeatedEvent,
  .wait ⟨1002, 0⟩,
  .poll (sampleOutside false) 0]

theorem strayRun_runs : Runs openingWorld strayRun := by decide +kernel

theorem strayRun_builds : ∃ x ∈ (runAll strayRun openingWorld).store.orders, x.status = .paid ∧
    (∃ r ∈ (runAll strayRun openingWorld).store.services,
      (runAll strayRun openingWorld).store.isLineOf x.id r.itemId = true ∧ r.status = .active) ∧
    ∃ j ∈ (runAll strayRun openingWorld).store.jobs,
      (runAll strayRun openingWorld).store.isServiceOf x.id j.serviceId = true ∧
        j.status = .completed := by
  decide +kernel

theorem paid_idle_strayRun : ∃ x ∈ (runAll strayRun openingWorld).store.orders, x.status = .paid ∧
    ∃ j ∈ (runAll strayRun openingWorld).store.jobs, ∃ before op after,
      strayRun = before ++ op :: after ∧ op.ComesTo (runAll before openingWorld) j.serviceId ∧
      ∃ y ∈ (runAll before openingWorld).store.orders, y.id = x.id ∧ y.status = .paid := by
  obtain ⟨x, hx, paid, -, j, hj, of, completed⟩ := strayRun_builds
  have strayed := (paid_idle opening_openingWorld strayRun_runs hx paid hj of).resolve_left
    (by simp [completed])
  exact ⟨x, hx, paid, j, hj, strayed.2⟩

/-- The order stays paid with its service on a machine and the job completed. -/
theorem paid_order_built : openingWorld.Opening ∧ Runs openingWorld strayRun ∧
    ∃ x ∈ (runAll strayRun openingWorld).store.orders, x.status = .paid ∧
      (∃ r ∈ (runAll strayRun openingWorld).store.services,
        (runAll strayRun openingWorld).store.isLineOf x.id r.itemId = true ∧ r.status = .active) ∧
      ∃ j ∈ (runAll strayRun openingWorld).store.jobs,
        (runAll strayRun openingWorld).store.isServiceOf x.id j.serviceId = true ∧
          j.status = .completed :=
  ⟨opening_openingWorld, strayRun_runs, strayRun_builds⟩

end Operations

end HostingBilling
