import HostingBilling.Proofs.Operations.PaidOrders

/-!
# Refunded orders

A refund should be the end of an order. Main statement: after the refund a service of the order becomes
active only when a worker comes to it, and only by a task that was left over when the order was refunded,
or that an operator or someone who enqueues tasks has asked for since.
-/

namespace HostingBilling

open Provisioning (Works)

/-- Someone sends a worker to a service: an operator asks to build it anew, or a task for it is
enqueued. -/
def Operation.Sends (serviceId : Uuid) : Operation → Prop
  | reprovision _ id => id = serviceId
  | enqueue t => t.kind = .provisionVps ∧
    ∃ p, Payload.decode .provisionVps t.payload = .ok (.provision p) ∧ p.serviceId = serviceId
  | _ => False

/-- A refunded order, while some jobs are committed: a worker is on the way only to those of its services
that one was sent to. -/
structure Store.Shut (orderId : Uuid) (sent : Uuid → Prop) (owed : List CommittedJob) (s : Store) :
    Prop where
  refunded : ∃ x ∈ s.orders, x.id = orderId ∧ x.status = .refunded
  served : ∀ r ∈ s.services, s.isLineOf orderId r.itemId = true → s.Served r.id → sent r.id
  owing : ∀ t ∈ owed, ∀ r ∈ s.services, r.id = t.serviceId → s.isLineOf orderId r.itemId = true →
    sent r.id

namespace Operations

variable {op : Operation} {v w w' : World} {owed owed' : List CommittedJob}

/-! ## How a service becomes active -/

/-- The service was there, and it was active or a worker has come to it. -/
def Started (op : Operation) (v : World) (r : ServiceRow) : Prop :=
  ∃ r₀ ∈ v.store.services, r₀.id = r.id ∧ r₀.itemId = r.itemId ∧
    (r₀.status = .active ∨ op.ComesTo v r.id)

theorem move_started (move : Move op v owed w owed' w')
    (h : ∀ r ∈ w.store.services, r.status = .active → Started op v r) :
    ∀ r ∈ w'.store.services, r.status = .active → Started op v r := by
  -- rows that the change leaves inactive cannot be the ones in question
  have changed {selects : ServiceRow → Bool} {change : ServiceRow → ServiceRow} {rows : List ServiceRow}
      (old : ∀ r ∈ rows, r.status = .active → Started op v r)
      (inactive : ∀ r, (change r).status ≠ .active) :
      ∀ r ∈ changeRows selects change rows, r.status = .active → Started op v r := by
    intro r' hr' active
    obtain ⟨r, hr, rfl⟩ := mem_changeRows.mp hr'
    split at active
    · exact absurd active (inactive r)
    · next other =>
      rw [if_neg other]
      exact old r hr active
  cases move with
  | decline step =>
    intro r' hr' active
    obtain ⟨r, hr, lapses⟩ := exists_left_of_forall₂ step.store.services hr'
    have : r.status = .active := by
      rcases lapses.status with same | closed | closed
      · rw [← same, active]
      · rw [closed] at active; cases active
      · rw [closed] at active; cases active
    obtain ⟨r₀, hr₀, id, item, how⟩ := h r hr this
    exact ⟨r₀, hr₀, id.trans lapses.id.symm, item.trans lapses.itemId.symm, lapses.id ▸ how⟩
  | carry _ carried =>
    intro r hr active
    rcases carried.services r hr with hr | ⟨building, -⟩
    · exact h r hr active
    · rw [building] at active
      cases active
  | prepare _ _ prepared =>
    rw [prepared.services]
    exact changed h fun _ => ServiceStatus.noConfusion
  | refuse =>
    rw [CommittedJob.takenBack_services]
    exact changed h fun _ => ServiceStatus.noConfusion
  | work is took serves works =>
    cases works with
    | left | failed => exact h
    | @built r₀ j machine item id ready =>
      intro r' hr' active
      obtain ⟨r, hr, rfl⟩ := mem_changeRows.mp hr'
      split
      · next selected =>
        refine ⟨r, hr, rfl, rfl, .inr ?_⟩
        rw [is]
        have : r.id = r₀.id := by simpa using selected
        exact ⟨_, took, this.trans id ▸ serves⟩
      · next other =>
        rw [if_neg other] at active
        exact h r hr active
  | accept | proceed | enqueue | wait => exact h

/-- An operation activates a service only by sending a worker to it. -/
theorem moves_started (moves : Moves op v [] v [] w) (law : JobLaw [] v) :
    ∀ r ∈ w.store.services, r.status = .active → Started op v r := by
  refine moves.keeps (I := fun _ w => ∀ r ∈ w.store.services, r.status = .active → Started op v r) law
    (fun r hr active => ⟨r, hr, rfl, rfl, .inl active⟩) fun move _ _ h => move_started move h

/-! ## Who sends a worker -/

variable {orderId : Uuid} {sent : Uuid → Prop}

/-- Where no service and no task is new, no worker is sent. -/
theorem shut_of {a b : Store} (h : a.Shut orderId sent owed)
    (orders : ∀ x ∈ a.orders, x.status = .refunded → x ∈ b.orders) (items : b.items = a.items)
    (services : List.Forall₂ ServiceRow.Continues a.services b.services)
    (tasks : ∀ id, b.Served id → a.Served id) : b.Shut orderId sent owed := by
  have line (itemId : Uuid) : b.isLineOf orderId itemId = a.isLineOf orderId itemId := by
    rw [Store.isLineOf, items, ← Store.isLineOf]
  obtain ⟨⟨x, hx, is, refunded⟩, served, owing⟩ := h
  refine ⟨⟨x, orders x hx refunded, is, refunded⟩, fun r' hr' of isServed => ?_,
    fun t ht r' hr' service of => ?_⟩
  · obtain ⟨r, hr, same⟩ := exists_left_of_forall₂ services hr'
    rw [line, same.itemId] at of
    rw [same.id] at isServed ⊢
    exact served r hr of (tasks r.id isServed)
  · obtain ⟨r, hr, same⟩ := exists_left_of_forall₂ services hr'
    rw [line, same.itemId] at of
    rw [same.id] at service ⊢
    exact owing t ht r hr service of

theorem shut_weaken {s : Store} (h : s.Shut orderId sent owed) (fewer : owed' ⊆ owed) :
    s.Shut orderId sent owed' :=
  ⟨h.refunded, h.served, fun t ht => h.owing t (fewer ht)⟩

/-- A new task serves a service that a worker was sent to. -/
theorem shut_addTask {s : Store} (h : s.Shut orderId sent owed) {t : TaskRow}
    (serves : ∀ r ∈ s.services, s.isLineOf orderId r.itemId = true → t.Serves r.id → sent r.id) :
    { s with tasks := s.tasks ++ [t] }.Shut orderId sent owed := by
  refine ⟨h.refunded, fun r hr of ⟨x, hx, served⟩ => ?_, h.owing⟩
  rcases List.mem_append.mp hx with old | new
  · exact h.served r hr of ⟨x, old, served⟩
  · obtain rfl := List.mem_singleton.mp new
    exact serves r hr of served

/-- A checkout of a refunded order is refused, so what is carried out is another one. -/
theorem carried_shut {order : OrderRow} {tasks : List CommittedJob} (linked : w.store.Linked)
    (linked' : w'.store.Linked) (h : w.store.Shut orderId sent [])
    (carried : Checkout.Carried order w tasks w') : w'.store.Shut orderId sent tasks := by
  have line (id itemId : Uuid) : w'.store.isLineOf id itemId = w.store.isLineOf id itemId := by
    rw [Store.isLineOf, carried.items, ← Store.isLineOf]
  obtain ⟨⟨x, hx, is, refunded⟩, served, -⟩ := h
  have other : x.id ≠ order.id := by
    intro same
    have payable := carried.payable
    rw [← eq_of_key linked.orders hx carried.here same, refunded] at payable
    rcases payable with payable | payable <;> cases payable
  have apart {itemId : Uuid} (mine : w'.store.isLineOf order.id itemId = true)
      (of : w'.store.isLineOf orderId itemId = true) : False :=
    other (is.trans (linked'.order_of_line of mine))
  refine ⟨⟨x, ?_, is, refunded⟩, fun r hr of isServed => ?_, fun t ht r hr service of => ?_⟩
  · have : x ∈ w'.store.orders.filter fun r => r.id != order.id := by
      rw [carried.otherOrders]
      exact List.mem_filter.mpr ⟨hx, by simpa using other⟩
    exact (List.mem_filter.mp this).1
  · rcases carried.services r hr with hr | ⟨-, -, mine⟩
    · rw [line] at of
      rw [Store.Served, carried.taskRows] at isServed
      exact served r hr of isServed
    · exact (apart mine of).elim
  · obtain ⟨r', hr', ofTask, mine⟩ := carried.ofOrder t ht
    obtain rfl := eq_of_key linked'.services hr hr' (service.trans ofTask.symm)
    exact (apart mine of).elim

/-- A change of orders that stand elsewhere leaves the refunded ones. -/
theorem refunded_kept {change : OrderRow → OrderRow} {id : Uuid} {source : OrderStatus}
    (elsewhere : source ≠ .refunded) {rows : List OrderRow} {x : OrderRow} (hx : x ∈ rows)
    (refunded : x.status = .refunded) :
    x ∈ changeRows (fun x => x.id == id && x.status == source) change rows :=
  mem_changeRows.mpr ⟨x, hx, by rw [if_neg (by simp [refunded, elsewhere.symm])]⟩

theorem move_shut (move : Move op v owed w owed' w') (law : JobLaw owed w) (law' : JobLaw owed' w')
    (sends : ∀ serviceId, op.Sends serviceId → sent serviceId) (h : w.store.Shut orderId sent owed) :
    w'.store.Shut orderId sent owed' := by
  cases move with
  | decline step =>
    have quiet := step.store.quiet
    refine shut_of h (fun x hx refunded => ?_) quiet.items quiet.services fun id served => ?_
    · obtain ⟨x', hx', rfl | ⟨paid, -⟩⟩ := exists_right_of_forall₂ step.store.orders hx
      · exact hx'
      · rw [refunded] at paid
        cases paid
    · rwa [Store.Served, quiet.tasks] at served
  | carry _ carried => exact carried_shut law.linked law'.linked h carried
  | prepare is found prepared =>
    obtain ⟨r₀, -, -, same, -⟩ := Provisioning.detail?_eq_some found
    have after : w'.store.Shut orderId sent [] := by
      refine shut_of h (fun x hx refunded => ?_) prepared.items prepared.continues fun id served => ?_
      · exact prepared.orders ▸ refunded_kept (by decide) hx refunded
      · rwa [Store.Served, prepared.tasks] at served
    refine ⟨after.refunded, after.served, fun t ht r hr service of => sends _ ?_⟩
    obtain rfl := List.mem_singleton.mp ht
    rw [is, service, prepared.committed]
    exact same.symm
  | accept =>
    refine shut_weaken (shut_addTask h fun r hr of serves => ?_) (List.subset_cons_self _ _)
    exact h.owing _ List.mem_cons_self r hr ((CommittedJob.newRow_serves_iff _ _ _ _).mp serves) of
  | refuse =>
    refine shut_weaken (shut_of h (fun x hx refunded => ?_) (CommittedJob.takenBack_items _ _ _ _)
      (CommittedJob.takenBack_continues _ _ _ _) fun id served => ?_) (List.subset_cons_self _ _)
    · rcases CommittedJob.takenBack_orders w.now _ _ w.store with same | ⟨orders, -⟩
      · exact same ▸ hx
      · exact orders ▸ refunded_kept (by decide) hx refunded
    · rwa [Store.Served, CommittedJob.takenBack_tasks] at served
  | proceed rows =>
    refine shut_of h (fun x hx _ => hx) rfl (Store.Quiet.refl _).services fun id => ?_
    rintro ⟨t', ht', served⟩
    obtain ⟨t, ht, proceeds⟩ := exists_left_of_forall₂ rows ht'
    exact ⟨t, ht, proceeds.serves served⟩
  | work is took serves works =>
    have eases := (works.eases law.linked).store
    refine shut_of h (fun x hx refunded => ?_) eases.items eases.services fun id served => ?_
    · cases works with
      | left | failed => exact hx
      | built => exact refunded_kept (by decide) hx refunded
    · rwa [Store.Served, eases.tasks] at served
  | enqueue is =>
    refine shut_addTask h fun r hr of serves => sends _ ?_
    rw [is]
    have kind := serves.kind
    refine ⟨?_, serves.payload⟩
    exact Worker.name_injective kind
  | wait => exact ⟨h.refunded, h.served, h.owing⟩

/-- **Refunded orders.** Once an order is refunded, an operation makes a service of it active only by
sending a worker to that service, with a task that was left over at the refund or after someone has sent a
worker there since. -/
theorem refunded_activation {w : World} {ops : List Operation} {op : Operation}
    (reachable : Reachable w) (runs : Runs w (ops ++ [op])) {x : OrderRow} (hx : x ∈ w.store.orders)
    (refunded : x.status = .refunded) {r : ServiceRow}
    (hr : r ∈ (op.run (runAll ops w)).store.services)
    (of : (op.run (runAll ops w)).store.isServiceOf x.id r.id = true) (active : r.status = .active) :
    (∃ r₀ ∈ (runAll ops w).store.services, r₀.id = r.id ∧ r₀.status = .active) ∨
      op.ComesTo (runAll ops w) r.id ∧ (w.store.Served r.id ∨ ∃ op' ∈ ops, op'.Sends r.id) := by
  let sent (id : Uuid) : Prop := w.store.Served id ∨ ∃ op' ∈ ops, op'.Sends id
  obtain ⟨runs, allowed, room, -⟩ := runs_append.mp runs
  have start : w.store.Shut x.id sent [] := by
    refine ⟨⟨x, hx, rfl, refunded⟩, fun r _ _ served => .inl served, fun t ht => ?_⟩
    cases ht
  have shut : (runAll ops w).store.Shut x.id sent [] := by
    refine runs.keeps (I := fun w => w.store.Shut x.id sent []) (reachable_law reachable) start
      fun before op after split law moved h => ?_
    refine moved.keeps (I := fun owed w => w.store.Shut x.id sent owed) law h
      fun move law law' => move_shut move law law' fun serviceId sends => .inr ⟨op, ?_, sends⟩
    rw [split]
    exact List.mem_append_right _ List.mem_cons_self
  have law := reachable_law (runs.reachable reachable)
  have moved := moves allowed law room
  obtain ⟨r₀, hr₀, id, item, how⟩ := moves_started moved law r hr active
  rcases how with active | comes
  · exact .inl ⟨r₀, hr₀, id, active⟩
  · refine .inr ⟨comes, ?_⟩
    rw [Checkout.isServiceOf_of_linked (step_law law (Operation.step allowed) room).linked hr,
      Store.isLineOf, moved.items, ← Store.isLineOf, ← item] at of
    cases op with
    | poll o tick =>
      obtain ⟨t, took, serves⟩ := comes
      rw [← id] at serves ⊢
      exact shut.served r₀ hr₀ of ⟨t, (Worker.nextTask_some took).1, serves⟩
    | deliver | reprovision | reap | enqueue | wait => exact comes.elim

/-- The gateway reports that the payment of the sample was refunded. -/
def refundEvent : GatewayEvent where
  id := ⟨"evt_3"⟩
  kind := "charge.refunded"
  payload := .object [
    ("data", .object [("object", .object [
      ("payment_intent", .text "pi_1"),
      ("refunds", .object [("data", .array [
        .object [("amount", .int 1000), ("id", .text "re_1"), ("status", .text "succeeded")]])])])]),
    ("id", .text "evt_3"),
    ("type", .text "charge.refunded")]

/-- The order of the sample is paid, its first job fails and its second is refused; then it is refunded. -/
def refundedRun : List Operation := strayRun.take 3 ++ [.deliver (sampleOutside true) refundEvent]

theorem refundedRun_runs : Runs openingWorld refundedRun := by decide +kernel

/-- The world that the refund leaves. -/
def refundedWorld : World := runAll refundedRun openingWorld

theorem reachable_refundedWorld : Reachable refundedWorld :=
  refundedRun_runs.reachable opening_openingWorld.reachable

/-- The task of the first job becomes due again. -/
def laterRun : List Operation := [.wait ⟨1002, 0⟩]

/-- A poll while the backend is up. -/
def upPoll : Operation := .poll (sampleOutside false) 0

theorem laterRun_runs : Runs refundedWorld (laterRun ++ [upPoll]) := by decide +kernel

theorem laterRun_activates : ∃ x ∈ refundedWorld.store.orders, x.status = .refunded ∧
    (∃ r ∈ refundedWorld.store.services,
      refundedWorld.store.isServiceOf x.id r.id = true ∧ r.status = .pending) ∧
    ∃ r ∈ (upPoll.run (runAll laterRun refundedWorld)).store.services,
      (upPoll.run (runAll laterRun refundedWorld)).store.isServiceOf x.id r.id = true ∧
        r.status = .active := by
  decide +kernel

theorem refunded_activation_leftover : ∃ x ∈ refundedWorld.store.orders, x.status = .refunded ∧
    ∃ r ∈ (upPoll.run (runAll laterRun refundedWorld)).store.services, r.status = .active ∧
      upPoll.ComesTo (runAll laterRun refundedWorld) r.id ∧
      (refundedWorld.store.Served r.id ∨ ∃ op ∈ laterRun, op.Sends r.id) := by
  have inactive : ∀ r ∈ (runAll laterRun refundedWorld).store.services, r.status ≠ .active := by
    decide +kernel
  obtain ⟨x, hx, refunded, -, r, hr, of, active⟩ := laterRun_activates
  refine ⟨x, hx, refunded, r, hr, active, ?_⟩
  rcases refunded_activation reachable_refundedWorld laterRun_runs hx refunded hr of active with
    ⟨r₀, hr₀, -, before⟩ | sent
  · exact absurd before (inactive r₀ hr₀)
  · exact sent

/-- The order is refunded with its service waiting, and ends up with that service on a machine. -/
theorem refunded_order_built : openingWorld.Opening ∧
    Runs openingWorld (refundedRun ++ laterRun ++ [upPoll]) ∧
    ∃ x ∈ refundedWorld.store.orders, x.status = .refunded ∧
      (∃ r ∈ refundedWorld.store.services,
        refundedWorld.store.isServiceOf x.id r.id = true ∧ r.status = .pending) ∧
      ∃ r ∈ (upPoll.run (runAll laterRun refundedWorld)).store.services,
        (upPoll.run (runAll laterRun refundedWorld)).store.isServiceOf x.id r.id = true ∧
          r.status = .active := by
  refine ⟨opening_openingWorld, ?_, laterRun_activates⟩
  rw [List.append_assoc]
  exact runs_append.mpr ⟨refundedRun_runs, laterRun_runs⟩

end Operations

end HostingBilling
