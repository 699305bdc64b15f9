import HostingBilling.Proofs.Checkout.Progress
import HostingBilling.Proofs.Jobs.Answers
import HostingBilling.Proofs.Jobs.Reach
import HostingBilling.Proofs.Ledger.Deliveries

/-!
# Deliveries converge

The queue may refuse any of the tasks that a checkout submits, and the gateway delivers the event again.
Main statement: a delivery with a refusal fails; the first one without leaves the order provisioning,
billed once, and each line with one service, one live job and one accepted task, whatever was refused
before; and every delivery after that is a duplicate that is only counted.
-/

namespace HostingBilling

namespace Delivery

open Checkout (Unbilled Billed Completes Stands)

/-! ## Deliveries one after the other -/

namespace Attempt

variable (a : Attempt) (e : GatewayEvent) (w : World)

/-- The tasks that the delivery offers to the queue. -/
def offers : List TaskDraft := (a.deliver e w).2.offered.drop w.offered.length

/-- The queue refuses a task of the delivery. -/
def Refused : Prop := ∃ i < (a.offers e w).length, a.outside.refuses (w.offered.length + i) = true

instance : Decidable (a.Refused e w) :=
  inferInstanceAs (Decidable (∃ i < (a.offers e w).length, a.outside.refuses (w.offered.length + i) = true))

/-- The tasks of the delivery that the queue accepts. -/
def accepted : List TaskDraft := a.outside.accepted w.offered.length (a.offers e w)

end Attempt

/-- The world after some deliveries. -/
def deliverAll (e : GatewayEvent) (attempts : List Attempt) (w : World) : World :=
  attempts.foldl (fun w a => (a.deliver e w).2) w

/-- The tasks that are accepted over some deliveries together. -/
def acceptedIn (e : GatewayEvent) : List Attempt → World → List TaskDraft
  | [], _ => []
  | a :: rest, w => a.accepted e w ++ acceptedIn e rest (a.deliver e w).2

/-- Every one of some deliveries has a refusal. -/
def AllRefused (e : GatewayEvent) : List Attempt → World → Prop
  | [], _ => True
  | a :: rest, w => a.Refused e w ∧ AllRefused e rest (a.deliver e w).2

instance decidableAllRefused (e : GatewayEvent) :
    (attempts : List Attempt) → (w : World) → Decidable (AllRefused e attempts w)
  | [], _ => inferInstanceAs (Decidable True)
  | _ :: rest, _ => @instDecidableAnd _ _ _ (decidableAllRefused e rest _)

/-- A service is being built: one job of it is live, any other has failed, and one task was accepted. -/
structure Assigned (accepted : List TaskDraft) (s : Store) (r : ServiceRow) : Prop where
  status : r.status = .provisioning
  live : s.jobs.countP (Store.isLiveJob r.id JobKind.provisionVps.name) = 1
  others : ∀ j ∈ s.jobs, j.serviceId = r.id →
    Store.isLiveJob r.id JobKind.provisionVps.name j = true ∨ j.status = .failed
  task : accepted.countP (TaskDraft.builds r.id) = 1

/-- The order is provisioning and billed once, and each of its lines has one service, which is being
built. -/
structure Converged (orderId : Uuid) (items : List ItemRow) (accepted : List TaskDraft) (s : Store) :
    Prop where
  order : (s.order? orderId).map (·.status) = some .provisioning
  services : ∀ item ∈ items, s.services.countP (fun r => r.itemId == item.id) = 1
  assigned : ∀ item ∈ items, ∀ r ∈ s.services, r.itemId = item.id → Assigned accepted s r
  invoice : s.invoices.countP (fun r => r.orderId == orderId && r.kind == .initial) = 1
  payment : s.payments.countP (fun r => r.orderId == some orderId) = 1

/-! ## One delivery -/

theorem deliverAll_counts (e : GatewayEvent) (attempts : List Attempt) (w : World) :
    w.nextId ≤ (deliverAll e attempts w).nextId := by
  induction attempts generalizing w with
  | nil => exact Nat.le_refl _
  | cons a rest ih => exact Nat.le_trans (process_counts a.outside e { w with now := a.now }).nextId (ih _)

variable {a : Attempt} {e : GatewayEvent} {c : Checkout} {orderId : Uuid} {order : OrderRow}
  {items : List ItemRow} {accepted : List TaskDraft} {w v : World} {tasks : List CommittedJob}

/-- The order is waiting, paid or half way, and some line has nobody working on it: what a delivery that
was refused leaves to the next one. -/
structure Converging (c : Checkout) (orderId : Uuid) (items : List ItemRow) (accepted : List TaskDraft)
    (w : World) : Prop where
  calm : w.faults = []
  linked : w.store.Linked
  numbered : w.Numbered
  lines : w.store.itemsOf orderId = items
  order : ∃ order ∈ w.store.orders, order.id = orderId ∧
    (order.status = .pendingPayment ∨ order.status = .paid ∨ order.status = .provisioning) ∧
    order.Priced items ∧ (Unbilled c order w ∨ Billed c order w.store)
  underway : Underway orderId accepted [] w.store
  waits : ∃ item ∈ items, w.store.awaits item.id = true

/-- What a delivery does that is given its event: the checkout commits some jobs and all of them are
submitted, and the row of the event is marked with how that went. -/
structure Delivers (a : Attempt) (e : GatewayEvent) (c : Checkout) (order : OrderRow) (w : World)
    (tasks : List CommittedJob) (v : World) (row : EventRow) (error : Option String) : Prop where
  completes : Completes c order { w with
    now := a.now
    nextId := w.nextId + 1
    store := { w.store with events := v.store.events } } tasks v
  found : Ledger.rowOf e v.store.events = some row
  left : (a.deliver e w).2 = recorded row.id error (CommittedJob.allAnswered a.outside tasks v)
  answer : (∀ i < tasks.length, a.outside.refuses (w.offered.length + i) = false) ∧ error = none ∧
      (a.deliver e w).1 = .ok .processed ∨
    (∃ i < tasks.length, a.outside.refuses (w.offered.length + i) = true) ∧ ∃ m, error = some m ∧
      (a.deliver e w).1 = .error (.eventFailed e.id.text m)

/-- The checkout of a delivery that is given its event goes through. -/
theorem Converging.delivers (h : Converging c orderId items accepted w)
    (parsed : e.parse = .ok (.checkout c)) (reference : c.orderId = .ok orderId)
    (claimable : Ledger.Claimable a.now e w.store.events)
    (room : (a.deliver e w).2.nextId ≤ Uuid.limit) :
    ∃ order tasks v row error, order.id = orderId ∧ Delivers a e c order w tasks v row error := by
  obtain ⟨order, here, rfl, status, priced, billing⟩ := h.order
  obtain ⟨row, ranClaim, found⟩ := Ledger.claim_granted (w := { w with now := a.now }) h.calm claimable
  generalize (Ledger.claimRow a.now (.ofNat w.nextId) e w.store.events).2 = rows at ranClaim found
  let claimed : World := { w with
    now := a.now
    nextId := w.nextId + 1
    store := { w.store with events := rows } }
  have quiet := (Ledger.claim_still e).quiet.follows ranClaim
  have payable : order.status.isSettled = true ∨ order.status = .pendingPayment := by
    rcases status with is | is | is <;> simp [is, OrderStatus.isSettled]
  obtain ⟨tasks, v, ranCheckout, completes⟩ := Checkout.carryOut_goes (w := claimed) h.calm
    (quiet.store.linked h.linked)
    (quiet.eases.numbered ⟨h.numbered.services, h.numbered.jobs, h.numbered.tasks⟩) here reference
    payable (h.lines ▸ priced) (billing.imp (fun new => ⟨new.invoices, new.payments, new.intent,
      new.session, new.keys, fun r hr => Nat.lt_succ_of_lt (new.numbered r hr)⟩)
      fun billed => billed.congr rfl rfl)
  have calm := ((Checkout.carryOut_counts c).follows ranCheckout).calm h.calm
  obtain ⟨error, result, ran, answer⟩ :=
    process_checkout (o := a.outside) parsed ranClaim ranCheckout calm
  have ran : a.deliver e w = (result, recorded row.id error (CommittedJob.allAnswered a.outside tasks v)) :=
    ran
  rw [ran] at room
  have completes := completes (Nat.le_trans (CommittedJob.allAnswered_counts a.outside tasks v) room)
  have events : v.store.events = rows := by rw [completes.rest]
  have offered : v.offered = w.offered := by rw [completes.rest]
  rw [offered] at answer
  refine ⟨order, tasks, v, row, error, rfl, ?_, events ▸ found, congrArg (·.2) ran, ?_⟩
  · rw [events]
    exact completes
  · rw [ran]
    exact answer

theorem assigned_of_building {promised : List TaskDraft} {owed : List CommittedJob} {s : Store}
    {r : ServiceRow} {j : JobRow} (h : Building promised owed s.services s.jobs r j) (linked : s.Linked) :
    Assigned promised s r where
  status := h.status
  live := by
    refine countP_eq_one (.of_map _ linked.jobs) h.job h.live fun k hk live => ?_
    obtain ⟨of, -, open_⟩ := isLiveJob_iff.mp live
    refine (h.others k hk of).resolve_right fun failed => ?_
    rw [failed] at open_
    cases open_
  others k hk of := by
    rcases h.others k hk of with rfl | failed
    · exact .inl h.live
    · exact .inr failed
  task := h.once

/-- The tasks were added to the queue, in this order and with no others. -/
def Enqueued (accepted : List TaskDraft) (s s' : Store) : Prop :=
  ∃ rows, s'.tasks = s.tasks ++ rows ∧ List.Forall₂ TaskDraft.Queued accepted rows

theorem Enqueued.trans {more : List TaskDraft} {s₁ s₂ s₃ : Store} (h : Enqueued accepted s₁ s₂)
    (next : Enqueued more s₂ s₃) : Enqueued (accepted ++ more) s₁ s₃ := by
  obtain ⟨rows, added, queued⟩ := h
  obtain ⟨rows', added', queued'⟩ := next
  exact ⟨rows ++ rows', by rw [added', added, List.append_assoc], List.rel_append queued queued'⟩

section step

variable {row : EventRow} {error : Option String}

theorem Delivers.offered (d : Delivers a e c order w tasks v row error) : v.offered = w.offered := by
  rw [d.completes.rest]

theorem Delivers.offers (d : Delivers a e c order w tasks v row error) :
    a.offers e w = tasks.map (·.draft) := by
  rw [Attempt.offers, d.left]
  change (CommittedJob.allAnswered a.outside tasks v).offered.drop _ = _
  rw [CommittedJob.allAnswered_offered, d.offered, List.drop_left]
  rfl

theorem Delivers.refused (d : Delivers a e c order w tasks v row error) : a.Refused e w ↔
    ∃ i < tasks.length, a.outside.refuses (w.offered.length + i) = true := by
  rw [Attempt.Refused, d.offers, List.length_map]

theorem Delivers.failed (d : Delivers a e c order w tasks v row error) (refused : a.Refused e w) :
    ∃ m, error = some m ∧ (a.deliver e w).1 = .error (.eventFailed e.id.text m) := by
  obtain ⟨i, below, refused⟩ := d.refused.mp refused
  refine (d.answer.resolve_left fun ⟨none_, _⟩ => ?_).2
  rw [none_ i below] at refused
  cases refused

theorem Delivers.processed (d : Delivers a e c order w tasks v row error)
    (accepted : ¬ a.Refused e w) : error = none ∧ (a.deliver e w).1 = .ok .processed :=
  (d.answer.resolve_right fun ⟨refused, _⟩ => accepted (d.refused.mpr refused)).2

/-- What the queue accepts of a delivery becomes the last rows of a durable queue. -/
theorem Delivers.enqueued (d : Delivers a e c order w tasks v row error) (durable : a.outside.durable = true) :
    Enqueued (a.accepted e w) w.store (a.deliver e w).2.store := by
  obtain ⟨rows, added, queued⟩ := CommittedJob.allAnswered_rows durable tasks v
  refine ⟨rows, ?_, ?_⟩
  · rw [d.left]
    change (CommittedJob.allAnswered a.outside tasks v).store.tasks = _
    rw [added, d.completes.taskRows]
  · rw [Attempt.accepted, d.offers, ← d.offered]
    exact queued

theorem onward_provisioning {status : OrderStatus} (some_ : tasks ≠ [])
    (h : status = .pendingPayment ∨ status = .paid ∨ status = .provisioning) :
    status.settled.onward tasks = .provisioning := by
  rcases h with rfl | rfl | rfl <;> simp [OrderStatus.settled, OrderStatus.isSettled,
    OrderStatus.onward, some_]

variable (h : Converging c order.id items accepted w) (d : Delivers a e c order w tasks v row error)

include h d

/-- The order is provisioning once the jobs are committed. -/
theorem Converging.stands : order.Priced items ∧ Stands v.store order .provisioning := by
  obtain ⟨order', here, is, status, priced, -⟩ := h.order
  obtain rfl := eq_of_key h.linked.orders here d.completes.here is
  have some_ : tasks ≠ [] := by
    rintro rfl
    obtain ⟨item, hi, waits⟩ := h.waits
    rw [← h.lines] at hi
    obtain ⟨t, none_, -⟩ := exists_right_of_forall₂ d.completes.commits (List.mem_filter.mpr ⟨hi, waits⟩)
    cases none_
  have stands := d.completes.stands
  rw [onward_provisioning some_ status] at stands
  exact ⟨priced, stands⟩

/-- After the checkout has committed its jobs, every line is being built. -/
theorem Converging.committed : (∀ item ∈ items, ∃ r j, r.itemId = item.id ∧
      Building (accepted ++ tasks.map (·.draft)) tasks v.store.services v.store.jobs r j) ∧
    Underway order.id accepted tasks v.store := by
  have apart : w.store.Apart { w.store with events := v.store.events } := ⟨rfl, rfl, rfl, rfl, rfl⟩
  have underway : Underway order.id accepted [] { w.store with events := v.store.events } :=
    ⟨h.underway.lines, h.underway.owing, h.underway.known⟩
  have lines : v.store.itemsOf order.id = items :=
    (Checkout.itemsOf_congr d.completes.items order.id).trans h.lines
  rw [← lines]
  exact underway.committed (apart.still.quiet.linked h.linked) d.completes.toCarried

/-- A delivery with a refusal leaves the order to the next one, which will be given the event. -/
theorem Converging.again (refused : a.Refused e w) :
    Converging c order.id items (accepted ++ a.accepted e w) (a.deliver e w).2 ∧
      ∀ now, Ledger.Claimable now e (a.deliver e w).2.store.events := by
  obtain ⟨m, rfl, -⟩ := d.failed refused
  obtain ⟨priced, stands⟩ := h.stands d
  obtain ⟨answered, stalls⟩ := (h.committed d).2.answered a.outside d.completes.linked
  have spares := CommittedJob.allAnswered_spares a.outside tasks v
  have linked := CommittedJob.allAnswered_linked a.outside tasks d.completes.linked
  have numbered := CommittedJob.allAnswered_numbered a.outside tasks d.completes.numbered
  obtain ⟨status, is, updatedAt, there⟩ := CommittedJob.allAnswered_stands a.outside tasks stands
  have billed := d.completes.billed.congr spares.invoices spares.payments
  have lines : (CommittedJob.allAnswered a.outside tasks v).store.itemsOf order.id = items := by
    rw [Checkout.itemsOf_congr spares.items, Checkout.itemsOf_congr d.completes.items]
    exact h.lines
  have found : Ledger.rowOf e (CommittedJob.allAnswered a.outside tasks v).store.events = some row := by
    rw [spares.events, d.found]
  rw [d.offered, ← d.offers] at answered
  have apart : (CommittedJob.allAnswered a.outside tasks v).store.Apart
      (recorded row.id (some m) (CommittedJob.allAnswered a.outside tasks v)).store :=
    ⟨rfl, rfl, rfl, rfl, rfl⟩
  rw [d.left]
  refine ⟨?_, fun now => Ledger.claimable_markRow found m now⟩
  constructor
  · change (CommittedJob.allAnswered a.outside tasks v).faults = []
    rw [spares.faults, d.completes.rest]
    exact h.calm
  · exact apart.still.quiet.linked linked
  · exact ⟨numbered.services, numbered.jobs, numbered.tasks⟩
  · exact lines
  · refine ⟨_, there, rfl, .inr is, ⟨priced.prices, priced.subtotal, priced.total⟩, .inr ?_⟩
    exact ⟨billed.found, billed.invoice, billed.keys, billed.payment⟩
  · exact ⟨answered.lines, answered.owing, answered.known⟩
  · rw [← lines]
    exact answered.awaits linked (stalls (.inr (d.offered ▸ d.refused.mp refused)))

/-- A delivery without a refusal leaves the order provisioning, and the event finished. -/
theorem Converging.arrives (all : ¬ a.Refused e w) :
    Converged order.id items (accepted ++ a.accepted e w) (a.deliver e w).2.store ∧
      (a.deliver e w).2.faults = [] ∧ Ledger.Closed e (a.deliver e w).2.store.events := by
  obtain ⟨rfl, -⟩ := d.processed all
  have none_ : ∀ i < tasks.length, a.outside.refuses (w.offered.length + i) = false := by
    simpa [d.refused] using all
  have same : a.accepted e w = tasks.map (·.draft) := by
    rw [Attempt.accepted, d.offers, Outside.accepted_all (by simpa using none_)]
  obtain ⟨-, updatedAt, there⟩ := h.stands d
  obtain ⟨building, -⟩ := h.committed d
  obtain ⟨queue, left⟩ := CommittedJob.allAnswered_accepted (w := v) (d.offered ▸ none_)
  have linked := d.completes.linked
  have spares := CommittedJob.allAnswered_spares a.outside tasks v
  rw [d.left, same]
  refine ⟨?_, ?_, ?_⟩
  · unfold recorded
    rw [left]
    constructor
    · have found : v.store.order? order.id = some { order with
          status := .provisioning
          updatedAt := updatedAt } := find?_key linked.orders there
      exact congrArg (Option.map (·.status)) found
    · intro item hi
      obtain ⟨r, j, line, building⟩ := building item hi
      refine countP_eq_one (.of_map _ linked.services) building.here (by simp [line]) fun x hx is => ?_
      exact eq_of_key linked.serviceItems hx building.here ((beq_iff_eq.mp is).trans line.symm)
    · intro item hi r hr line
      obtain ⟨x, j, lineX, building⟩ := building item hi
      obtain rfl := eq_of_key linked.serviceItems hr building.here (line.trans lineX.symm)
      have assigned := assigned_of_building building linked
      exact ⟨assigned.status, assigned.live, assigned.others, assigned.task⟩
    · exact d.completes.billed.invoice
    · exact d.completes.billed.payment
  · change (CommittedJob.allAnswered a.outside tasks v).faults = []
    rw [spares.faults, d.completes.rest]
    exact h.calm
  · exact Ledger.closed_markRow (by rw [spares.events, d.found])

end step

/-- A delivery of a finished event is counted, and does nothing else. -/
theorem deliver_closed {notification : Notification} (parsed : e.parse = .ok notification)
    (calm : w.faults = []) (closed : Ledger.Closed e w.store.events) (a : Attempt) :
    a.deliver e w = (.ok .duplicate, { w with
      now := a.now
      nextId := w.nextId + 1
      store := { w.store with events := Ledger.countDelivery e.id.text w.store.events } }) := by
  have claimed := Ledger.claim_closed (w := { w with now := a.now }) calm closed
  rw [Attempt.deliver, process, parsed, Action.run_bind_of_ok (Action.run_ofExcept_ok _ _),
    Action.run_bind_of_ok claimed]
  rfl

/-! ## All deliveries -/

section run

variable {attempts : List Attempt} (parsed : e.parse = .ok (.checkout c))

include parsed

theorem closed_run (calm : w.faults = []) (closed : Ledger.Closed e w.store.events) :
    (deliverAll e attempts w).faults = [] ∧ Ledger.Closed e (deliverAll e attempts w).store.events := by
  induction attempts generalizing w with
  | nil => exact ⟨calm, closed⟩
  | cons a rest ih =>
    have ran := deliver_closed parsed calm closed a
    have calm₁ : (a.deliver e w).2.faults = [] := by rw [ran]; exact calm
    have closed₁ : Ledger.Closed e (a.deliver e w).2.store.events := by
      rw [ran]
      exact Ledger.closed_countDelivery closed _
    exact ih calm₁ closed₁

variable (reference : c.orderId = .ok orderId)

include reference

/-- Deliveries with refusals leave the order to the next one. -/
theorem refused_run (h : Converging c orderId items accepted w)
    (claimable : ∀ x ∈ attempts, Ledger.Claimable x.now e w.store.events)
    (room : (deliverAll e attempts w).nextId ≤ Uuid.limit) (all : AllRefused e attempts w) :
    Converging c orderId items (accepted ++ acceptedIn e attempts w) (deliverAll e attempts w) ∧
    (∀ now, Ledger.Claimable now e w.store.events →
      Ledger.Claimable now e (deliverAll e attempts w).store.events) ∧
    ((∀ x ∈ attempts, x.outside.durable = true) →
      Enqueued (acceptedIn e attempts w) w.store (deliverAll e attempts w).store) := by
  induction attempts generalizing w accepted with
  | nil =>
    rw [acceptedIn, List.append_nil]
    exact ⟨h, fun _ => id, fun _ => ⟨[], (List.append_nil _).symm, .nil⟩⟩
  | cons a rest ih =>
    have room₁ := Nat.le_trans (deliverAll_counts e rest _) room
    obtain ⟨order, tasks, v, row, error, rfl, d⟩ :=
      h.delivers parsed reference (claimable a List.mem_cons_self) room₁
    obtain ⟨again, open_⟩ := h.again d all.1
    obtain ⟨converging, goesOn, enqueued⟩ := ih again (fun x _ => open_ x.now) room all.2
    rw [List.append_assoc] at converging
    exact ⟨converging, fun now _ => goesOn now (open_ now), fun durable =>
      (d.enqueued (durable a List.mem_cons_self)).trans (enqueued fun x hx => durable x (List.mem_cons_of_mem _ hx))⟩

/-- Once a delivery had no refusal, the event is finished. -/
theorem finished_run (h : Converging c orderId items accepted w)
    (claimable : ∀ x ∈ attempts, Ledger.Claimable x.now e w.store.events)
    (room : (deliverAll e attempts w).nextId ≤ Uuid.limit) (some_ : ¬ AllRefused e attempts w) :
    (deliverAll e attempts w).faults = [] ∧ Ledger.Closed e (deliverAll e attempts w).store.events := by
  induction attempts generalizing w accepted with
  | nil => exact absurd trivial some_
  | cons a rest ih =>
    have room₁ := Nat.le_trans (deliverAll_counts e rest _) room
    obtain ⟨order, tasks, v, row, error, rfl, d⟩ :=
      h.delivers parsed reference (claimable a List.mem_cons_self) room₁
    by_cases refused : a.Refused e w
    · obtain ⟨again, open_⟩ := h.again d refused
      exact ih again (fun x _ => open_ x.now) room fun all => some_ ⟨refused, all⟩
    · obtain ⟨-, calm, closed⟩ := h.arrives d refused
      exact closed_run (w := (a.deliver e w).2) parsed calm closed

end run

theorem acceptedIn_concat (attempts : List Attempt) (a : Attempt) (w : World) :
    acceptedIn e (attempts ++ [a]) w = acceptedIn e attempts w ++ a.accepted e (deliverAll e attempts w) := by
  induction attempts generalizing w with
  | nil => exact List.append_nil _
  | cons x rest ih =>
    rw [List.cons_append, acceptedIn, ih, acceptedIn, List.append_assoc]
    rfl

/-- An order with lines that waits for its payment, with amounts that fit, and for which nothing has been
done yet. -/
structure Awaited (c : Checkout) (order : OrderRow) (w : World) : Prop where
  here : order ∈ w.store.orders
  waiting : order.status = .pendingPayment
  lines : w.store.itemsOf order.id ≠ []
  unserved : ∀ r ∈ w.store.services, w.store.isLineOf order.id r.itemId = false
  unbilled : Unbilled c order w
  priced : order.Priced (w.store.itemsOf order.id)

theorem Awaited.converging (h : Awaited c order w) (calm : w.faults = []) (linked : w.store.Linked)
    (numbered : w.Numbered) : Converging c order.id (w.store.itemsOf order.id) [] w := by
  have halted : ∀ item ∈ w.store.itemsOf order.id, ∀ r ∈ w.store.services, r.itemId = item.id →
      Halted [] w.store.jobs r := by
    intro item hi r hr line
    have unserved := h.unserved r hr
    rw [Store.mem_isLineOf.mpr ⟨item, hi, line.symm⟩] at unserved
    cases unserved
  obtain ⟨item, hi⟩ := List.exists_mem_of_ne_nil _ h.lines
  exact {
    calm := calm
    linked := linked
    numbered := numbered
    lines := rfl
    order := ⟨order, h.here, rfl, .inl h.waiting, h.priced, .inl h.unbilled⟩
    underway := {
      lines := fun item hi => .inr (halted item hi)
      owing := fun _ none_ => nomatch none_
      known := fun _ none_ => nomatch none_ }
    waits := ⟨item, hi, halted_awaits (halted item hi)⟩ }

/-- However the queue refuses, a delivery with a refusal fails, the first one without leaves the order
provisioning with one service, one live job and one accepted task for each line, and every later one is a
duplicate that is only counted. -/
theorem deliveries_converge (calm : w.faults = []) (linked : w.store.Linked) (numbered : w.Numbered)
    (awaited : Awaited c order w) (parsed : e.parse = .ok (.checkout c))
    (reference : c.orderId = .ok order.id) (attempts : List Attempt) (a : Attempt)
    (claimable : ∀ x ∈ attempts ++ [a], Ledger.Claimable x.now e w.store.events)
    (room : (deliverAll e (attempts ++ [a]) w).nextId ≤ Uuid.limit) :
    let v := deliverAll e attempts w
    (a.Refused e v → ∃ m, (a.deliver e v).1 = .error (.eventFailed e.id.text m)) ∧
    (AllRefused e attempts w → ¬ a.Refused e v → (a.deliver e v).1 = .ok .processed ∧
      Converged order.id (w.store.itemsOf order.id) (acceptedIn e (attempts ++ [a]) w)
        (a.deliver e v).2.store ∧
      ((∀ x ∈ attempts ++ [a], x.outside.durable = true) →
        Enqueued (acceptedIn e (attempts ++ [a]) w) w.store (a.deliver e v).2.store)) ∧
    (¬ AllRefused e attempts w → (a.deliver e v).1 = .ok .duplicate ∧
      (a.deliver e v).2.store =
        { v.store with events := Ledger.countDelivery e.id.text v.store.events }) := by
  intro v
  have last : deliverAll e (attempts ++ [a]) w = (a.deliver e v).2 := List.foldl_concat ..
  rw [last] at room
  have room₁ : v.nextId ≤ Uuid.limit :=
    Nat.le_trans (process_counts a.outside e { v with now := a.now }).nextId room
  have h := awaited.converging calm linked numbered
  have before : ∀ x ∈ attempts, Ledger.Claimable x.now e w.store.events :=
    fun x hx => claimable x (List.mem_append_left _ hx)
  by_cases all : AllRefused e attempts w
  · obtain ⟨converging, goesOn, enqueued⟩ := refused_run parsed reference h before room₁ all
    have open_ := goesOn a.now (claimable a (List.mem_append_right _ (List.mem_singleton_self a)))
    obtain ⟨_, tasks, v', row, error, is, d⟩ := converging.delivers parsed reference open_ room
    rw [acceptedIn_concat]
    rw [← is] at converging ⊢
    refine ⟨fun refused => ?_, fun _ accepted => ⟨(d.processed accepted).2, ?_, fun durable => ?_⟩,
      fun some_ => absurd all some_⟩
    · obtain ⟨m, -, failed⟩ := d.failed refused
      exact ⟨m, failed⟩
    · exact (converging.arrives d accepted).1
    · exact (enqueued fun x hx => durable x (List.mem_append_left _ hx)).trans
        (d.enqueued (durable a (List.mem_append_right _ (List.mem_singleton_self a))))
  · obtain ⟨calm, closed⟩ := finished_run parsed reference h before room₁ all
    have ran := deliver_closed parsed calm closed a
    have none_ : a.offers e v = [] := by
      rw [Attempt.offers, ran]
      exact List.drop_length
    refine ⟨fun ⟨i, below, _⟩ => ?_, fun refused => absurd refused all, fun _ => ?_⟩
    · rw [none_] at below
      exact absurd below (Nat.not_lt_zero i)
    · rw [ran]
      exact ⟨rfl, rfl⟩

/-! ### A run -/

open Operations (sampleEvent sampleOutside)

/-- An order of two lines that waits to be paid, with no service. -/
def awaitedWorld : World := World.start { Checkout.sampleStore with services := [] } ⟨1000, 0⟩ 100 ⟨"", "", ""⟩

/-- The queue refuses the second task that it is offered. -/
def halfRefused : Attempt := ⟨{ sampleOutside true with refuses := (· == 1) }, ⟨1001, 0⟩⟩

def allTaken : Attempt := ⟨sampleOutside true, ⟨1002, 0⟩⟩

theorem awaited_awaitedWorld : ∃ order, order.id = .ofNat 1 ∧
    Awaited Checkout.sampleCheckout order awaitedWorld :=
  ⟨⟨.ofNat 1, .ofNat 9, .pendingPayment, "USD", 1000, ⟨1000, 0⟩, ⟨1000, 0⟩⟩, rfl, {
    here := List.mem_singleton_self _
    waiting := rfl
    lines := by decide
    unserved := fun _ hr => nomatch hr
    unbilled := {
      invoices := fun _ hr => nomatch hr
      payments := fun _ hr => nomatch hr
      intent := fun _ _ _ hr => nomatch hr
      session := fun _ hr => nomatch hr
      keys := .nil
      numbered := fun _ hr => nomatch hr }
    priced := ⟨by decide, by decide, by decide⟩ }⟩

/-- One task is accepted by the first delivery and the other by the second. -/
theorem deliveries_converge_halfRefused : halfRefused.Refused sampleEvent awaitedWorld ∧
    Converged (.ofNat 1) (awaitedWorld.store.itemsOf (.ofNat 1))
      (acceptedIn sampleEvent [halfRefused, allTaken] awaitedWorld)
      (allTaken.deliver sampleEvent (deliverAll sampleEvent [halfRefused] awaitedWorld)).2.store := by
  obtain ⟨order, is, awaited⟩ := awaited_awaitedWorld
  have linked : awaitedWorld.store.Linked :=
    ⟨by decide, by decide, by decide, by decide, by decide, by decide, by decide, by decide⟩
  have fresh : awaitedWorld.Fresh := by decide
  have refused : AllRefused sampleEvent [halfRefused] awaitedWorld := by decide +kernel
  have reference : Checkout.sampleCheckout.orderId = .ok order.id := by
    rw [is]
    decide +kernel
  have runs := deliveries_converge (e := sampleEvent) rfl linked fresh.numbered awaited rfl reference
    [halfRefused] allTaken (fun _ _ _ found => nomatch found) (by decide +kernel)
  rw [is] at runs
  exact ⟨refused.1, (runs.2.1 refused (by decide +kernel)).2.1⟩

end Delivery

end HostingBilling
