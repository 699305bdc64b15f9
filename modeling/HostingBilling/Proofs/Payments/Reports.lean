import HostingBilling.Proofs.Footprints
import HostingBilling.Proofs.Rows

/-!
# What reports do to payments

Apart from checkouts only the reports of the gateway write payments: a failure fails a payment that is
still pending, a refund refunds its payment and, the first time, the order of it. Main results: the
equations of the three reports in a world without faults.
-/

namespace HostingBilling

namespace Store

/-- The payment that a report of a failure marks failed. -/
def failing (intent : IntentId) (s : Store) : Option PaymentRow :=
  (s.paymentByIntent intent.text).filter fun p => p.status.canBecome .failed

/-- The payment that a report of refunds marks refunded. -/
def refunding (r : RefundReport) (s : Store) : Option PaymentRow :=
  (r.intent.bind fun intent => s.paymentByIntent intent.text).filter fun p =>
    r.marksRefunded && p.status != .refunded

/-- The payment that a report names by its intent. -/
def reported (intent : Option IntentId) (s : Store) : Option PaymentRow :=
  intent.bind fun i => s.paymentByIntent i.text

/-- The refunds that a report records, each with its payment. -/
def refundsOf (r : RefundReport) (s : Store) : List (Uuid × Refund) :=
  match s.reported r.intent with
  | some p => r.refunds.map fun x => (p.id, x)
  | none => []

/-- The dispute that a report records, with its payment. The intent has done its part. -/
def disputesOf (d : Dispute) (s : Store) : List (Uuid × Dispute) :=
  match s.reported d.intent with
  | some p => [(p.id, { d with intent := none })]
  | none => []

/-- Records one after another, under the numbers from `n` on. -/
def recordAll {α : Type} (record : Uuid → Uuid → α → Store → Store) : Nat → List (Uuid × α) → Store → Store
  | _, [], s => s
  | n, x :: rest, s => recordAll record (n + 1) rest (record (.ofNat n) x.1 x.2 s)

/-- The store once a payment is marked refunded, and its order with it if that is paid. -/
def refundPayment (now : Instant) (p : PaymentRow) (s : Store) : Store :=
  let marked := s.setPaymentStatus now p.id .refunded
  match p.orderId with
  | none => marked
  | some orderId =>
    if (s.order? orderId).map (·.status) = some .paid then
      (marked.moveOrder now orderId .paid .refunded).2
    else marked

/-- The store after a report of a failure. -/
def withFailure (now : Instant) (intent : IntentId) (s : Store) : Store :=
  match s.failing intent with
  | none => s
  | some p => s.setPaymentStatus now p.id .failed

/-- The store after a report of refunds, but for the refunds themselves. -/
def withRefund (now : Instant) (r : RefundReport) (s : Store) : Store :=
  match s.refunding r with
  | none => s
  | some p => s.refundPayment now p

theorem mem_of_paymentByIntent {intent : String} {s : Store} {p : PaymentRow}
    (found : s.paymentByIntent intent = some p) : p ∈ s.payments := List.mem_of_find?_eq_some found

/-- A report is about a payment with its intent. -/
theorem mem_of_reported {intent : Option IntentId} {s : Store} {p : PaymentRow}
    (found : s.reported intent = some p) :
    p ∈ s.payments ∧ ∃ i, intent = some i ∧ p.intent = some i.text := by
  obtain ⟨i, about, found⟩ := Option.bind_eq_some_iff.mp found
  exact ⟨mem_of_paymentByIntent found, i, about, by simpa using List.find?_some found⟩

theorem reported_eq_none {intent : Option IntentId} {s : Store} :
    s.reported intent = none ↔ ∀ i, intent = some i → ∀ p ∈ s.payments, p.intent ≠ some i.text := by
  simp [reported, paymentByIntent]

theorem failing_eq_some {intent : IntentId} {s : Store} {p : PaymentRow} :
    s.failing intent = some p ↔ s.paymentByIntent intent.text = some p ∧ p.status = .pending := by
  rw [failing, Option.filter_eq_some_iff]
  apply and_congr_right
  intro _
  cases p.status <;> decide

theorem refunding_eq_some {r : RefundReport} {s : Store} {p : PaymentRow} :
    s.refunding r = some p ↔ (∃ intent, r.intent = some intent ∧ s.paymentByIntent intent.text = some p) ∧
      r.marksRefunded = true ∧ p.status ≠ .refunded := by
  rw [refunding, Option.filter_eq_some_iff, Option.bind_eq_some_iff]
  simp

variable {s : Store} {p : PaymentRow}

theorem withFailure_of_none {intent : IntentId} (h : s.failing intent = none) (now : Instant) :
    s.withFailure now intent = s := by rw [withFailure, h]

theorem withFailure_of_some {intent : IntentId} (h : s.failing intent = some p) (now : Instant) :
    s.withFailure now intent = s.setPaymentStatus now p.id .failed := by rw [withFailure, h]

theorem withRefund_of_none {r : RefundReport} (h : s.refunding r = none) (now : Instant) :
    s.withRefund now r = s := by rw [withRefund, h]

theorem withRefund_of_some {r : RefundReport} (h : s.refunding r = some p) (now : Instant) :
    s.withRefund now r = s.refundPayment now p := by rw [withRefund, h]

/-- A payment is refunded once. -/
theorem refunding_of_refunded {r : RefundReport} {intent : IntentId} (about : r.intent = some intent)
    (found : s.paymentByIntent intent.text = some p) (refunded : p.status = .refunded) :
    s.refunding r = none := by
  rw [refunding, about, Option.bind_some, found, Option.filter_some, if_neg (by simp [refunded])]

theorem recordAll_refunds (now : Instant) (n : Nat) (records : List (Uuid × Refund)) (s : Store) :
    s.recordAll (Store.recordRefund now) n records =
      { s with refunds := (s.recordAll (Store.recordRefund now) n records).refunds } := by
  induction records generalizing n s with
  | nil => rfl
  | cons x rest ih =>
    rw [recordAll, ih]
    unfold recordRefund
    split <;> rfl

theorem recordDispute_rest (now : Instant) (id paymentId : Uuid) (x : Dispute) (s : Store) :
    s.recordDispute now id paymentId x =
      { s with disputes := (s.recordDispute now id paymentId x).disputes } := by
  unfold recordDispute
  split <;> rfl

theorem refundPayment_payments (now : Instant) (p : PaymentRow) (s : Store) :
    (s.refundPayment now p).payments = (s.setPaymentStatus now p.id .refunded).payments := by
  unfold refundPayment
  split
  · rfl
  · split <;> rfl

/-- A report of a failure writes payments. -/
theorem withFailure_rest (now : Instant) (intent : IntentId) (s : Store) :
    s.withFailure now intent = { s with payments := (s.withFailure now intent).payments } := by
  unfold withFailure
  split <;> rfl

/-- A report of refunds writes payments and orders, beside the refunds. -/
theorem withRefund_rest (now : Instant) (r : RefundReport) (s : Store) :
    s.withRefund now r = { s with
      payments := (s.withRefund now r).payments
      orders := (s.withRefund now r).orders } := by
  unfold withRefund
  split
  · rfl
  · unfold refundPayment
    split
    · rfl
    · dsimp only
      split <;> rfl

theorem setPaymentStatus_found {intent : String} (found : s.paymentByIntent intent = some p) (now : Instant)
    (status : PaymentStatus) : (s.setPaymentStatus now p.id status).paymentByIntent intent =
      some { p with status := status, updatedAt := now } := by
  rw [paymentByIntent] at found ⊢
  rw [setPaymentStatus, find?_changeRows (by exact fun _ => rfl), found, Option.map_some,
    if_pos (beq_self_eq_true _)]

/-- After a refund the order of the payment is not paid. -/
theorem not_paid_refundPayment {s : Store} (keys : (s.orders.map (·.id)).Nodup) (now : Instant)
    {p : PaymentRow} : ∀ x ∈ (s.refundPayment now p).orders, p.orderId = some x.id → x.status ≠ .paid := by
  intro x hx own paid
  simp only [refundPayment, own] at hx
  split at hx
  · obtain ⟨y, -, is⟩ := mem_changeRows.mp hx
    split at is
    · rw [is] at paid
      cases paid
    · next other =>
      subst is
      simp [paid] at other
  · next elsewhere =>
    have found : s.order? x.id = some x := find?_key keys hx
    rw [found] at elsewhere
    exact elsewhere (congrArg some paid)

end Store

namespace Reversal

variable {w : World} (calm : w.faults = [])

include calm

private theorem byIntent_run (intent : IntentId) :
    (Payments.byIntent intent).run w = (.ok (w.store.paymentByIntent intent.text), w) := run_ask calm _ _

private theorem setStatus_run (id : Uuid) (status : PaymentStatus) : (Payments.setStatus id status).run w =
    (.ok (), { w with store := w.store.setPaymentStatus w.now id status }) := run_change calm _ _

theorem failPayment_run (intent : IntentId) : (failPayment intent).run w = (.ok (), { w with
    store := w.store.withFailure w.now intent }) := by
  apply Action.run_transaction_of_ok
  rw [Action.run_bind_of_ok (byIntent_run calm intent), Store.withFailure, Store.failing]
  cases w.store.paymentByIntent intent.text with
  | none => rfl
  | some p =>
    dsimp only
    cases fails : p.status.canBecome .failed with
    | true =>
      rw [Option.filter_some, if_pos fails, if_pos rfl]
      exact setStatus_run calm _ _
    | false =>
      rw [if_neg Bool.false_ne_true, Option.filter_some, if_neg (by simp [fails])]
      rfl

theorem recordRefund_run (paymentId : Uuid) (x : Refund) :
    (Payments.recordRefund paymentId x).run w = (.ok (), { w with
      nextId := w.nextId + 1
      store := w.store.recordRefund w.now (.ofNat w.nextId) paymentId x }) := by
  rw [Payments.recordRefund, Action.run_bind_of_ok (Action.run_freshId w), run_change (by exact calm)]

theorem recordRefunds_run (paymentId : Uuid) (refunds : List Refund) :
    (recordRefunds paymentId refunds).run w = (.ok (), { w with
      nextId := w.nextId + refunds.length
      store := w.store.recordAll (Store.recordRefund w.now) w.nextId
        (refunds.map fun x => (paymentId, x)) }) := by
  induction refunds generalizing w with
  | nil => rfl
  | cons x rest ih =>
    rw [recordRefunds, Action.run_bind_of_ok (recordRefund_run calm paymentId x), ih (by exact calm)]
    simp only [List.map_cons, List.length_cons, Store.recordAll, Nat.add_assoc, Nat.add_comm 1]

theorem refundOrder_run (orderId : Uuid) : (refundOrder orderId).run w = (.ok (), { w with
    store := if (w.store.order? orderId).map (·.status) = some .paid then
        (w.store.moveOrder w.now orderId .paid .refunded).2
      else w.store }) := by
  have read : (Orders.status orderId).run w = (.ok ((w.store.order? orderId).map (·.status)), w) :=
    run_ask calm _ _
  rw [refundOrder, Action.run_bind_of_ok read]
  by_cases paid : (w.store.order? orderId).map (·.status) = some .paid
  · have moved : (Orders.move orderId .paid .refunded).run w =
        (.ok (w.store.moveOrder w.now orderId .paid .refunded).1,
          { w with store := (w.store.moveOrder w.now orderId .paid .refunded).2 }) := by
      rw [Orders.move, show OrderStatus.paid.become .refunded = .ok .refunded from rfl,
        Action.run_bind_of_ok (Action.run_ofExcept_ok _ _), run_change calm]
    rw [if_pos paid, if_pos paid, Action.run_bind_of_ok moved]
    rfl
  · rw [if_neg paid, if_neg paid]
    rfl

/-- A report of refunds goes through. It records the refunds, and may refund the payment. -/
theorem refund_run (r : RefundReport) : (refund r).run w = (.ok (), { w with
    nextId := w.nextId + (w.store.refundsOf r).length
    store := { w.store.withRefund w.now r with
      refunds := (w.store.recordAll (Store.recordRefund w.now) w.nextId (w.store.refundsOf r)).refunds } }) := by
  unfold refund Store.withRefund Store.refunding Store.refundsOf Store.reported
  cases r.intent with
  | none => rfl
  | some intent =>
    rw [Option.bind_some]
    cases found : w.store.paymentByIntent intent.text with
    | none =>
      apply Action.run_transaction_of_ok
      rw [Action.run_bind_of_ok (byIntent_run calm intent), found]
      rfl
    | some p =>
      have recorded := recordRefunds_run calm p.id r.refunds
      rw [Store.recordAll_refunds] at recorded
      apply Action.run_transaction_of_ok
      rw [Action.run_bind_of_ok (byIntent_run calm intent), found]
      dsimp only
      rw [Action.run_bind_of_ok recorded, List.length_map]
      cases marks : r.marksRefunded && p.status != .refunded with
      | false =>
        rw [if_neg Bool.false_ne_true, Option.filter_some, if_neg (by simp [marks])]
        rfl
      | true =>
        rw [Option.filter_some, if_pos marks, if_pos rfl]
        rw [Action.run_bind_of_ok (setStatus_run (by exact calm) _ _)]
        dsimp only
        unfold Store.refundPayment
        cases p.orderId with
        | none => rfl
        | some orderId =>
          refine (refundOrder_run (by exact calm) orderId).trans ?_
          by_cases paid : (w.store.order? orderId).map (·.status) = some .paid
          · rw [if_pos (by exact paid)]
            simp only [if_pos paid]
            rfl
          · rw [if_neg (by exact paid)]
            simp only [if_neg paid]
            rfl

theorem recordDispute_run (paymentId : Uuid) (x : Dispute) :
    (Payments.recordDispute paymentId x).run w = (.ok (), { w with
      nextId := w.nextId + 1
      store := w.store.recordDispute w.now (.ofNat w.nextId) paymentId x }) := by
  rw [Payments.recordDispute, Action.run_bind_of_ok (Action.run_freshId w), run_change (by exact calm)]

/-- A report of a dispute goes through, and records it if its payment is there. -/
theorem dispute_run (d : Dispute) : (dispute d).run w = (.ok (), { w with
    nextId := w.nextId + (w.store.disputesOf d).length
    store := { w.store with
      disputes :=
        (w.store.recordAll (Store.recordDispute w.now) w.nextId (w.store.disputesOf d)).disputes } }) := by
  unfold dispute Store.disputesOf Store.reported
  cases d.intent with
  | none => rfl
  | some intent =>
    rw [Option.bind_some]
    cases found : w.store.paymentByIntent intent.text with
    | none =>
      apply Action.run_transaction_of_ok
      rw [Action.run_bind_of_ok (byIntent_run calm intent), found]
      rfl
    | some p =>
      apply Action.run_transaction_of_ok
      rw [Action.run_bind_of_ok (byIntent_run calm intent), found]
      refine (recordDispute_run calm p.id d).trans ?_
      rw [Store.recordDispute_rest]
      rfl

end Reversal

end HostingBilling
