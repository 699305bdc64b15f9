import HostingBilling.Proofs.Checkout.Progress
import HostingBilling.Proofs.Ledger.Deliveries
import HostingBilling.Proofs.Payments.Charges
import Mathlib.Order.Bounds.Basic

/-!
# How far one event takes a payment

The statuses of a payment are ordered. Main statement: what an event about a payment leaves is the greatest
of the status that was there and the one the event lifts it to, and unless the payment is refunded then, the
same checkouts go through as before.
-/

namespace HostingBilling

namespace PaymentStatus

/-- How far a payment has come. -/
def rank : PaymentStatus → Nat
  | pending => 0
  | failed => 1
  | succeeded => 2
  | refunded => 3

theorem rank_injective : Function.Injective rank := by
  intro a b
  cases a <;> cases b <;> decide

instance : PartialOrder PaymentStatus := PartialOrder.lift rank rank_injective

instance (a b : PaymentStatus) : Decidable (a ≤ b) := inferInstanceAs (Decidable (a.rank ≤ b.rank))

theorem le_refunded (s : PaymentStatus) : s ≤ refunded := by cases s <;> decide

/-- A refunded payment rises no further. -/
theorem eq_refunded {s : PaymentStatus} (h : refunded ≤ s) : s = refunded := le_antisymm (le_refunded s) h

theorem le_succeeded {s : PaymentStatus} (open_ : s ≠ refunded) : s ≤ succeeded := by
  cases s <;> first | decide | exact absurd rfl open_

theorem failed_le {s : PaymentStatus} (begun : s ≠ pending) : failed ≤ s := by
  cases s <;> first | decide | exact absurd rfl begun

end PaymentStatus

/-! ## Which checkouts go through -/

/-- An order that a checkout settles, or finds settled. -/
def OrderStatus.IsPayable (s : OrderStatus) : Prop := s.isSettled = true ∨ s = .pendingPayment

/-- A checkout that goes through and records this payment: its order is there, payable and within the
bounds, and its intent and session are on no other payment. -/
structure Checkout.Ready (c : Checkout) (paymentId : Uuid) (s : Store) : Prop where
  order : ∃ order, c.orderId = .ok order.id ∧ s.order? order.id = some order ∧ order.status.IsPayable ∧
    ∃ priced total, priceItems Money.zero (s.itemsOf order.id) = .ok priced ∧
      Money.ofCents order.totalCents = .ok total
  keys : s.checkPaymentKeys paymentId (c.intent.map (·.text)) c.sessionId = .ok ()

/-- The same order later on, and as payable. -/
structure OrderRow.StaysPayable (a b : OrderRow) : Prop where
  id : b.id = a.id
  totalCents : b.totalCents = a.totalCents
  payable : b.status.IsPayable ↔ a.status.IsPayable

theorem OrderRow.StaysPayable.refl (r : OrderRow) : r.StaysPayable r := ⟨rfl, rfl, Iff.rfl⟩

/-- What checkouts look at beside one payment is as it was. -/
structure Store.Beside (paymentId : Uuid) (a b : Store) : Prop where
  orders : List.Forall₂ OrderRow.StaysPayable a.orders b.orders
  items : b.items = a.items
  others : b.payments.filter (·.id != paymentId) = a.payments.filter (·.id != paymentId)

namespace Store.Beside

variable {paymentId : Uuid} {a b c : Store}

theorem of_same (orders : b.orders = a.orders) (items : b.items = a.items)
    (payments : b.payments = a.payments) : a.Beside paymentId b where
  orders := orders ▸ List.forall₂_same.mpr fun r _ => .refl r
  items := items
  others := by rw [payments]

theorem trans (h : a.Beside paymentId b) (k : b.Beside paymentId c) : a.Beside paymentId c where
  orders := forall₂_trans (fun h k => ⟨k.id.trans h.id, k.totalCents.trans h.totalCents,
    k.payable.trans h.payable⟩) h.orders k.orders
  items := k.items.trans h.items
  others := k.others.trans h.others

theorem symm (h : a.Beside paymentId b) : b.Beside paymentId a where
  orders := h.orders.flip.imp fun _ _ k => ⟨k.id.symm, k.totalCents.symm, k.payable.symm⟩
  items := h.items.symm
  others := h.others.symm

/-- An order is moved between payable statuses. -/
theorem moveOrder {source target : OrderStatus} (before : source.IsPayable) (after : target.IsPayable)
    (now : Instant) (id : Uuid) (s : Store) : s.Beside paymentId (s.moveOrder now id source target).2 where
  orders := by
    refine forall₂_changeRows .refl fun r _ selected => ⟨rfl, rfl, ?_⟩
    simp only [Bool.and_eq_true, beq_iff_eq] at selected
    rw [selected.2]
    exact iff_of_true after before
  items := rfl
  others := rfl

theorem serves (paymentId : Uuid) : Store.Serves (Beside paymentId) where
  refl _ := of_same rfl rfl rfl
  trans := trans
  moves {source target} edge settled now id s := by
    refine moveOrder ?_ (.inl settled) now id s
    unfold OrderStatus.IsPayable
    revert edge settled
    cases source <;> cases target <;> decide
  services _ _ := of_same rfl rfl rfl
  jobs _ _ := of_same rfl rfl rfl
  tasks _ _ := of_same rfl rfl rfl
  audits _ _ := of_same rfl rfl rfl
  invoices _ _ := of_same rfl rfl rfl
  lines _ _ := of_same rfl rfl rfl

theorem revertOrder (now : Instant) (id : Uuid) (s : Store) :
    s.Beside paymentId (s.revertOrder now id .paid).2 := by
  unfold Store.revertOrder
  split
  · exact of_same rfl rfl rfl
  · exact moveOrder (.inl rfl) (.inl rfl) now id s

/-- The payment itself may change. -/
theorem changePayment {change : PaymentRow → PaymentRow} (same : ∀ r, (change r).id = r.id) (s : Store) :
    s.Beside paymentId { s with payments := changeRows (fun r => r.id == paymentId) change s.payments } where
  orders := List.forall₂_same.mpr fun r _ => .refl r
  items := rfl
  others := by
    apply filter_changeRows_of_not
    · intro r _ other
      simpa using other
    · intro r _ _
      rw [same]

/-- Where the other payments are the same, the same intents and sessions are free. -/
theorem checkPaymentKeys (h : a.Beside paymentId b) {intent : Option String} {session : String}
    (free : a.checkPaymentKeys paymentId intent session = .ok ()) :
    b.checkPaymentKeys paymentId intent session = .ok () := by
  obtain ⟨intents, sessions⟩ := Payments.checkPaymentKeys_ok.mp free
  have old : ∀ r ∈ b.payments, r.id ≠ paymentId → r ∈ a.payments := by
    intro r hr other
    have listed : r ∈ b.payments.filter (·.id != paymentId) :=
      List.mem_filter.mpr ⟨hr, by simpa using other⟩
    rw [h.others] at listed
    exact (List.mem_filter.mp listed).1
  apply Payments.checkPaymentKeys_ok.mpr
  constructor
  · intro r hr other
    exact intents r (old r hr other) other
  · intro r hr other
    exact sessions r (old r hr other) other

theorem order? (h : a.Beside paymentId b) {id : Uuid} {order : OrderRow} (found : a.order? id = some order) :
    ∃ order', b.order? id = some order' ∧ order.StaysPayable order' :=
  find?_of_forall₂ (fun k => by rw [k.id]) h.orders (by exact found)

end Store.Beside

namespace Checkout

variable {c : Checkout} {paymentId : Uuid} {a b : Store}

theorem Ready.beside (h : c.Ready paymentId a) (same : a.Beside paymentId b) : c.Ready paymentId b := by
  obtain ⟨order, reference, found, payable, priced⟩ := h.order
  obtain ⟨order', found', stays⟩ := same.order? found
  refine ⟨⟨order', ?_, ?_, stays.payable.mpr payable, ?_⟩, same.checkPaymentKeys h.keys⟩
  · rw [stays.id]
    exact reference
  · rw [stays.id]
    exact found'
  · rw [stays.id, stays.totalCents, itemsOf_congr same.items]
    exact priced

/-- The same checkouts are ready as long as what lies beside the payment stays. -/
theorem ready_iff (same : a.Beside paymentId b) : c.Ready paymentId b ↔ c.Ready paymentId a :=
  ⟨fun h => h.beside same.symm, fun h => h.beside same⟩

variable {w w' : World} {intent : IntentId} {p : PaymentRow} {order : OrderRow} {tasks : List CommittedJob}

/-- A checkout finds its payment by the intent, once the steps before have left the payments alone. -/
theorem paymentOf_of_found (about : c.intent = some intent) (found : a.paymentByIntent intent.text = some p)
    (same : b.payments = a.payments) (order : OrderRow) (invoiceId : Uuid) :
    b.paymentOf (c.payment order invoiceId) = some p := by
  rw [Store.paymentOf, payment, about, Option.bind_some, Store.paymentByIntent, same, ← Store.paymentByIntent,
    found, Option.some_or]

/-- If the checkout is ready, it records the payment. -/
theorem Ready.records (h : c.Ready p.id a) (about : c.intent = some intent)
    (found : a.paymentByIntent intent.text = some p) (calm : w.faults = [])
    (same : w.store.payments = a.payments) (order : OrderRow) (invoiceId : Uuid) :
    ∃ outcome payments, (Payments.record (c.payment order invoiceId)).run w =
      (.ok outcome, { w with store := { w.store with payments := payments } }) := by
  have mine := paymentOf_of_found about found same order invoiceId
  by_cases refunded : p.status = .refunded
  · exact ⟨_, _, Payments.record_kept calm mine refunded⟩
  · refine ⟨_, _, Payments.record_updated calm mine refunded ?_⟩
    have free := h.keys
    rw [about] at free
    rw [payment, about, Store.checkPaymentKeys, Store.intentTaken, Store.sessionTaken, same]
    exact free

/-- A checkout that is ready goes through. -/
theorem Ready.goes (h : c.Ready p.id w.store) (calm : w.faults = []) (about : c.intent = some intent)
    (found : w.store.paymentByIntent intent.text = some p) :
    ∃ tasks w', c.carryOut.run w = (.ok tasks, w') := by
  obtain ⟨order, reference, there, payable, priced⟩ := h.order
  obtain ⟨status, orders, ranOrder⟩ := settleOrder_goes calm payable
  let paid : World := { w with store := { w.store with orders := orders } }
  have known : (paid.store.order? order.id).isSome = true := by
    obtain ⟨order', there', -⟩ :=
      ((settleOrder_serves (Store.Beside.serves p.id) order).follows ranOrder).store.order? there
    rw [there']
    rfl
  obtain ⟨invoiceId, n, invoices, lines, ranInvoice⟩ :=
    Invoices.ensureInitial_goes (w := paid) calm known priced
  let invoiced : World := { paid with
    nextId := n
    store := { paid.store with invoices := invoices, invoiceLines := lines } }
  obtain ⟨outcome, payments, ranPayment⟩ := h.records about found (w := invoiced) calm rfl order invoiceId
  let recorded : World := { invoiced with store := { invoiced.store with payments := payments } }
  obtain ⟨tasks, n', services, jobs, ranItems⟩ :=
    prepareItems_goes (w := recorded) calm (w.store.itemsOf order.id)
  let prepared : World := { recorded with
    nextId := n'
    store := { recorded.store with services := services, jobs := jobs } }
  obtain ⟨orders', ranMove⟩ := moveOn_goes (w := prepared) calm status tasks
  let steps : Steps c order w tasks { prepared with store := { prepared.store with orders := orders' } } :=
    ⟨status, invoiceId, outcome, paid, invoiced, recorded, prepared, ranOrder, ranInvoice, ranPayment,
      ranItems, ranMove⟩
  have settled := Action.run_transaction_of_ok (steps.run calm there)
  rw [carryOut, reference, Action.run_bind_of_ok (Action.run_ofExcept_ok _ _)]
  exact ⟨_, _, settled⟩

/-- What a checkout that has gone through did to its payment: nothing if that was refunded. Else the
checkout was ready, and the payment has succeeded. -/
theorem Steps.recording (steps : Steps c order w tasks w') (calm : w.faults = [])
    (reference : c.orderId = .ok order.id) (there : w.store.order? order.id = some order)
    (about : c.intent = some intent) (found : w.store.paymentByIntent intent.text = some p) :
    w.store.Beside p.id w'.store ∧
      (p.status = .refunded ∧ w'.store.payments = w.store.payments ∨
        p.status ≠ .refunded ∧ c.Ready p.id w.store ∧
          ∃ now, w'.store.payments = changeRows (fun r => r.id == p.id)
            (Store.settled now (c.payment order steps.invoiceId)) w.store.payments) := by
  have before := steps.before (Store.Beside.serves p.id)
  have after := (steps.after (Store.Beside.serves p.id)).store
  have payments := (steps.before Store.samePayments).store
  have payments' := (steps.after Store.samePayments).store
  have mine := paymentOf_of_found about found payments order steps.invoiceId
  rcases Payments.record_cases (before.calm calm) steps.ranPayment with
    ⟨none_, -, -⟩ | ⟨r, is, ⟨refunded, kept⟩ | ⟨open_, free, changed⟩⟩
  · rw [mine] at none_
    cases none_
  · cases mine.symm.trans is
    rw [kept] at after payments'
    exact ⟨before.store.trans after, .inl ⟨refunded, payments'.trans payments⟩⟩
  · cases mine.symm.trans is
    rw [changed] at after payments'
    let s := steps.invoiced.store
    let settled := Store.settled steps.invoiced.now (c.payment order steps.invoiceId)
    have recorded : s.Beside p.id { s with
        payments := changeRows (fun r => r.id == p.id) settled s.payments } :=
      .changePayment (by exact fun _ => rfl) s
    have items := ((settleOrder_serves (Store.Beside.serves p.id) order).follows steps.ranOrder).store.items
    have priced := Invoices.ensureInitial_priced steps.ranInvoice
    rw [itemsOf_congr items] at priced
    refine ⟨(before.store.trans recorded).trans after,
      .inr ⟨open_, ⟨⟨order, reference, there, ?_, priced⟩, ?_⟩, steps.invoiced.now, ?_⟩⟩
    · exact (settleOrder_status steps.ranOrder).2
    · rw [payment, about] at free
      rw [about]
      exact before.store.symm.checkPaymentKeys free
    · rw [payments', payments]

end Checkout

/-! ## What events lift a payment to -/

namespace Store

/-- The payment carries the intent and has this status. -/
def Holds (s : Store) (intent : IntentId) (id : Uuid) (status : PaymentStatus) : Prop :=
  ∃ p, s.paymentByIntent intent.text = some p ∧ p.id = id ∧ p.status = status

instance (s : Store) (intent : IntentId) (id : Uuid) (status : PaymentStatus) :
    Decidable (s.Holds intent id status) :=
  decidable_of_iff ((s.paymentByIntent intent.text).map (fun p => (p.id, p.status)) = some (id, status))
    (by simp [Holds])

theorem Holds.congr {a b : Store} {intent : IntentId} {id : Uuid} {status : PaymentStatus}
    (h : a.Holds intent id status) (payments : b.payments = a.payments) : b.Holds intent id status := by
  rw [Holds, paymentByIntent, payments]
  exact h

/-- What comes of a payment that some events lift to some statuses: it has the greatest of these and its
own, and what lies beside it is as before, unless it is refunded. -/
structure Rises (lifts : Set PaymentStatus) (intent : IntentId) (id : Uuid) (status : PaymentStatus)
    (s s' : Store) : Prop where
  ids : s'.payments.map (·.id) = s.payments.map (·.id)
  lifted : ∃ status', s'.Holds intent id status' ∧ IsGreatest (insert status lifts) status' ∧
    (status' ≠ .refunded → s.Beside id s')

namespace Rises

variable {lifts : Set PaymentStatus} {intent : IntentId} {id : Uuid} {status : PaymentStatus}
  {s s' s'' : Store}

/-- A payment that is lifted no further stays. -/
theorem stays (holds : s.Holds intent id status) (payments : s'.payments = s.payments)
    (below : ∀ x ∈ lifts, x ≤ status) (beside : status ≠ .refunded → s.Beside id s') :
    Rises lifts intent id status s s' := by
  refine ⟨by rw [payments], status, holds.congr payments, ⟨Set.mem_insert _ _, ?_⟩, beside⟩
  rintro x (rfl | lifted)
  · exact le_refl _
  · exact below x lifted

/-- A payment that is lifted to one status, which is not below, moves there. -/
theorem moves (target : PaymentStatus) (ids : s'.payments.map (·.id) = s.payments.map (·.id))
    (holds : s'.Holds intent id target) (le : status ≤ target) (only : ∀ x, x ∈ lifts ↔ x = target)
    (beside : target ≠ .refunded → s.Beside id s') : Rises lifts intent id status s s' := by
  refine ⟨ids, target, holds, ⟨.inr ((only target).mpr rfl), ?_⟩, beside⟩
  rintro x (rfl | other)
  · exact le
  · exact le_of_eq ((only x).mp other)

/-- What a delivery does before and after may touch anything but what events look at. -/
theorem earlier (h : Rises lifts intent id status s' s'') (payments : s'.payments = s.payments)
    (beside : s.Beside id s') : Rises lifts intent id status s s'' := by
  obtain ⟨status', holds, greatest, same⟩ := h.lifted
  refine ⟨by rw [h.ids, payments], status', holds, greatest, ?_⟩
  intro open_
  exact beside.trans (same open_)

theorem later (h : Rises lifts intent id status s s') (payments : s''.payments = s'.payments)
    (beside : s'.Beside id s'') : Rises lifts intent id status s s'' := by
  obtain ⟨status', holds, greatest, same⟩ := h.lifted
  refine ⟨by rw [payments, h.ids], status', holds.congr payments, greatest, ?_⟩
  intro open_
  exact (same open_).trans beside

/-- What lifts a refunded payment does not matter. -/
theorem of_refunded {others : Set PaymentStatus} (h : Rises lifts intent id .refunded s s') :
    Rises others intent id .refunded s s' := by
  obtain ⟨status', holds, greatest, same⟩ := h.lifted
  obtain rfl := PaymentStatus.eq_refunded (greatest.2 (Set.mem_insert _ _))
  refine ⟨h.ids, .refunded, holds, ⟨Set.mem_insert _ _, ?_⟩, same⟩
  intro x _
  exact PaymentStatus.le_refunded x

/-- Two liftings in a row are one by all that lifts. -/
theorem trans {more : Set PaymentStatus} (h : Rises lifts intent id status s s')
    (k : ∀ status', s'.Holds intent id status' → status ≤ status' →
      (status' ≠ .refunded → s.Beside id s') → Rises more intent id status' s' s'') :
    Rises (lifts ∪ more) intent id status s s'' := by
  obtain ⟨status₁, holds₁, ⟨from₁, above₁⟩, same₁⟩ := h.lifted
  have le₁ := above₁ (Set.mem_insert _ _)
  have risen := k status₁ holds₁ le₁ same₁
  obtain ⟨status₂, holds₂, ⟨from₂, above₂⟩, same₂⟩ := risen.lifted
  have le₂ := above₂ (Set.mem_insert _ _)
  refine ⟨risen.ids.trans h.ids, status₂, holds₂, ⟨?_, ?_⟩, ?_⟩
  · rcases from₂ with rfl | lifted
    · exact from₁.imp_right .inl
    · exact .inr (.inr lifted)
  · rintro x (rfl | lifted | lifted)
    · exact le_trans le₁ le₂
    · exact le_trans (above₁ (.inr lifted)) le₂
    · exact above₂ (.inr lifted)
  · intro open_
    have open₁ : status₁ ≠ .refunded := by
      rintro rfl
      exact open_ (PaymentStatus.eq_refunded le₂)
    exact (same₁ open₁).trans (same₂ open_)

end Rises

end Store

namespace Notification

/-- The event is about the purchase with this intent. -/
def About (intent : IntentId) : Notification → Prop
  | .checkout c => c.intent = some intent
  | .paymentFailed i => i = intent
  | .refund r => r.intent = some intent
  | .dispute d => d.intent = some intent
  | .unhandled => False

/-- What the event lifts its payment to, where the checkouts that go through are these. -/
def lifts (ready : Checkout → Prop) : Notification → Set PaymentStatus
  | .checkout c => {status | ready c ∧ status = .succeeded}
  | .paymentFailed _ => {.failed}
  | .refund r => {status | r.marksRefunded = true ∧ status = .refunded}
  | .dispute _ => ∅
  | .unhandled => ∅

end Notification

namespace Reversal

variable {w : World} {intent : IntentId} {id : Uuid} {status : PaymentStatus}

theorem withFailure_rises (now : Instant) {s : Store} (holds : s.Holds intent id status) :
    Store.Rises {.failed} intent id status s (s.withFailure now intent) := by
  obtain ⟨p, found, rfl, rfl⟩ := holds
  by_cases pending : p.status = .pending
  · rw [Store.withFailure_of_some (Store.failing_eq_some.mpr ⟨found, pending⟩)]
    apply Store.Rises.moves .failed
    · exact map_changeRows _ fun _ => rfl
    · exact ⟨_, Store.setPaymentStatus_found found now .failed, rfl, rfl⟩
    · rw [pending]
      decide
    · exact fun x => Iff.rfl
    · exact fun _ => .changePayment (by exact fun _ => rfl) s
  · have none_ : s.failing intent = none := by
      apply Option.eq_none_iff_forall_ne_some.mpr
      intro q is
      obtain ⟨same, waits⟩ := Store.failing_eq_some.mp is
      cases found.symm.trans same
      exact pending waits
    rw [Store.withFailure_of_none none_]
    refine .stays ⟨p, found, rfl, rfl⟩ rfl ?_ fun _ => .of_same rfl rfl rfl
    intro x is
    cases is
    exact PaymentStatus.failed_le pending

theorem withRefund_rises (now : Instant) {r : RefundReport} {s : Store} (about : r.intent = some intent)
    (holds : s.Holds intent id status) :
    Store.Rises {x | r.marksRefunded = true ∧ x = .refunded} intent id status s (s.withRefund now r) := by
  obtain ⟨p, found, rfl, rfl⟩ := holds
  by_cases refunds : r.marksRefunded = true ∧ p.status ≠ .refunded
  · have refunding : s.refunding r = some p :=
      Store.refunding_eq_some.mpr ⟨⟨intent, about, found⟩, refunds⟩
    rw [Store.withRefund_of_some refunding]
    have payments := Store.refundPayment_payments now p s
    apply Store.Rises.moves .refunded
    · rw [payments]
      exact map_changeRows _ fun _ => rfl
    · have found' := Store.setPaymentStatus_found found now .refunded
      rw [Store.paymentByIntent, ← payments, ← Store.paymentByIntent] at found'
      exact ⟨_, found', rfl, rfl⟩
    · exact PaymentStatus.le_refunded _
    · intro x
      simp [refunds.1]
    · intro open_
      exact absurd rfl open_
  · have none_ : s.refunding r = none := by
      apply Option.eq_none_iff_forall_ne_some.mpr
      intro q is
      obtain ⟨⟨i, aboutIt, same⟩, marks, open_⟩ := Store.refunding_eq_some.mp is
      cases about.symm.trans aboutIt
      cases found.symm.trans same
      exact refunds ⟨marks, open_⟩
    rw [Store.withRefund_of_none none_]
    refine .stays ⟨p, found, rfl, rfl⟩ rfl ?_ fun _ => .of_same rfl rfl rfl
    rintro x ⟨marks, rfl⟩
    have refunded : p.status = .refunded := by
      by_contra open_
      exact refunds ⟨marks, open_⟩
    exact le_of_eq refunded.symm

end Reversal

namespace Checkout

variable {c : Checkout} {w w' : World} {intent : IntentId} {id : Uuid} {status : PaymentStatus}
  {result : Except Failure (List CommittedJob)}

theorem carryOut_rises (calm : w.faults = []) (keys : (w.store.payments.map (·.id)).Nodup)
    (about : c.intent = some intent) (holds : w.store.Holds intent id status)
    (ran : c.carryOut.run w = (result, w')) :
    Store.Rises {x | c.Ready id w.store ∧ x = .succeeded} intent id status w.store w'.store := by
  obtain ⟨p, found, rfl, rfl⟩ := holds
  cases result with
  | error failure =>
    obtain ⟨_, _, rfl⟩ := carryOut_failed ran
    refine .stays ⟨p, found, rfl, rfl⟩ rfl ?_ fun _ => .of_same rfl rfl rfl
    rintro x ⟨ready, -⟩
    obtain ⟨_, _, goes⟩ := ready.goes calm about found
    rw [ran] at goes
    cases goes
  | ok tasks =>
    obtain ⟨order, reference, there, ⟨steps⟩⟩ := carryOut_ok calm ran
    obtain ⟨beside, ⟨refunded, payments⟩ | ⟨open_, ready, now, payments⟩⟩ :=
      steps.recording calm reference there about found
    · refine .stays ⟨p, found, rfl, rfl⟩ payments ?_ fun _ => beside
      intro x _
      rw [refunded]
      exact PaymentStatus.le_refunded x
    · apply Store.Rises.moves .succeeded
      · rw [payments]
        exact map_changeRows _ fun _ => rfl
      · have carries : p.intent = some intent.text := by simpa using List.find?_some found
        have found' : w'.store.paymentByIntent intent.text =
            some (Store.settled now (c.payment order steps.invoiceId) p) := by
          rw [Store.paymentByIntent, payments, find?_changeRows_of_mem, ← Store.paymentByIntent, found]
          · simp
          · intro r hr is
            have is : r.id = p.id := by simpa using is
            obtain rfl : r = p := eq_of_key keys hr (Store.mem_of_paymentByIntent found) is
            simp [Store.settled, payment, about, carries]
        exact ⟨_, found', rfl, rfl⟩
      · exact PaymentStatus.le_succeeded open_
      · intro x
        exact ⟨And.right, fun is => ⟨ready, is⟩⟩
      · exact fun _ => beside

end Checkout

namespace Notification

variable {n : Notification} {w : World} {intent : IntentId} {id : Uuid} {status : PaymentStatus}

/-- What an event about a payment leaves. -/
theorem handle_rises (o : Outside) (calm : w.faults = []) (keys : (w.store.payments.map (·.id)).Nodup)
    (about : n.About intent) (holds : w.store.Holds intent id status) :
    Store.Rises (n.lifts fun c => c.Ready id w.store) intent id status w.store
      ((Delivery.handle o n).run w).2.store := by
  cases n with
  | checkout c =>
    rw [Delivery.handle, Action.run_bind]
    rcases ran : c.carryOut.run w with ⟨failure | tasks, w'⟩
    · exact Checkout.carryOut_rises calm keys about holds ran
    · have submitted := CommittedJob.submitAll_payments o tasks w'
      have beside := CommittedJob.submitAll_keeps (Store.Beside.serves id).toChain
        (Store.Beside.serves id).jobs (Store.Beside.serves id).services Store.Beside.revertOrder
        (Store.Beside.serves id).tasks o tasks w'
      dsimp only
      rw [Action.run_answer]
      exact (Checkout.carryOut_rises calm keys about holds ran).later submitted.store beside.store
  | paymentFailed i =>
    cases about
    rw [Delivery.handle, Action.run_answer, Reversal.failPayment_run calm intent]
    exact Reversal.withFailure_rises w.now holds
  | refund r =>
    rw [Delivery.handle, Action.run_answer, Reversal.refund_run calm r]
    exact (Reversal.withRefund_rises w.now about holds).later rfl (.of_same rfl rfl rfl)
  | dispute d =>
    rw [Delivery.handle, Action.run_answer, Reversal.dispute_run calm d]
    exact .stays holds rfl (fun _ lifted => lifted.elim) fun _ => .of_same rfl rfl rfl
  | unhandled => exact about.elim

end Notification

end HostingBilling
