import HostingBilling.Proofs.Operations.OrderLife
import HostingBilling.Proofs.Operations.RefundedOrders
import HostingBilling.Proofs.Payments.Charges

/-!
# Refunded payments

The refund that first marks a payment refunded takes the order of the payment along, if that is paid; no
later one looks at the order again. Main statement: after a refund its payment is refunded, and the order
of the payment is not paid, unless the payment was refunded before and a compensation has taken the order
back to paid since.
-/

namespace HostingBilling

namespace OrderStatus

/-- The order has not been paid for. -/
def Waits (s : OrderStatus) : Prop := s = .draft ∨ s = .pendingPayment

theorem waits_of_canBecome {a b : OrderStatus} (edge : a.canBecome b = true) (waits : b.Waits ∨ b = .paid) :
    a.Waits := by
  unfold Waits at waits ⊢
  revert edge waits
  cases a <;> cases b <;> decide

theorem Leads.waits {a b : OrderStatus} (h : a.Leads b) (waits : b.Waits) : a.Waits := by
  induction h with
  | refl => exact waits
  | tail _ edge ih => exact ih (waits_of_canBecome edge (.inl waits))

/-- Only from where it waits an order becomes paid. -/
theorem Leads.paid {a b : OrderStatus} (h : a.Leads b) (paid : b = .paid) : a.Waits ∨ a = .paid := by
  rcases h.cases_tail with same | ⟨c, path, edge⟩
  · exact .inr (same.symm.trans paid)
  · exact .inl (Leads.waits path (waits_of_canBecome edge (.inr paid)))

theorem not_waits_of_isSettled {s : OrderStatus} (settled : s.isSettled = true) : ¬ s.Waits := by
  rintro (rfl | rfl) <;> cases settled

end OrderStatus

namespace OrderRow

variable {a b : OrderRow} {reason : Uuid → Prop}

theorem Advances.waits (h : a.Advances b) (waits : b.status.Waits) : a.status.Waits := h.path.waits waits

theorem Returns.waits (h : a.Returns reason b) (waits : b.status.Waits) : a.status.Waits := by
  rcases h.status with same | ⟨-, paid, -⟩
  · exact same ▸ waits
  · rw [paid] at waits
    rcases waits with no | no <;> cases no

end OrderRow

/-! ## Orders -/

namespace Operation

/-- The operation takes the order back to paid: a job that it has committed is refused. -/
def TakesBack (op : Operation) (w : World) (orderId : Uuid) : Prop :=
  ∃ o tasks v, op.Commits w o tasks v ∧ CommittedJob.Compensated o tasks v orderId

/-- An order that was past waiting still is, and it is paid only if it was, or is taken back. -/
theorem Lives.origin {op : Operation} {w : World} (h : op.Lives w) {b : OrderRow}
    (hb : b ∈ (op.run w).store.orders) : ∃ a ∈ w.store.orders, a.id = b.id ∧
      (b.status.Waits → a.status.Waits) ∧
      (b.status = .paid → a.status.Waits ∨ a.status = .paid ∨ op.TakesBack w a.id) := by
  by_cases commits : ∃ o tasks v, op.Commits w o tasks v
  · obtain ⟨o, tasks, v, commits⟩ := commits
    obtain ⟨forward, back⟩ := h.back o tasks v commits
    obtain ⟨x, hx, returns⟩ := exists_left_of_forall₂ back hb
    obtain ⟨a, ha, advances⟩ := exists_left_of_forall₂ forward hx
    refine ⟨a, ha, (returns.id.trans advances.id).symm, ?_, ?_⟩
    · exact fun waits => advances.waits (returns.waits waits)
    · intro paid
      rcases returns.status with same | ⟨-, -, compensated⟩
      · exact (advances.path.paid (same.symm.trans paid)).imp_right .inl
      · exact .inr (.inr ⟨o, tasks, v, commits, advances.id ▸ compensated⟩)
  · have forward := h.forward fun o tasks v yes => commits ⟨o, tasks, v, yes⟩
    obtain ⟨a, ha, advances⟩ := exists_left_of_forall₂ forward hb
    exact ⟨a, ha, advances.id.symm, advances.waits, fun paid => (advances.path.paid paid).imp_right .inl⟩

/-- Payments are written by deliveries alone. -/
theorem run_payments {op : Operation} (other : ∀ o e, op ≠ .deliver o e) (w : World) :
    (op.run w).store.payments = w.store.payments ∧ w.nextId ≤ (op.run w).nextId ∧
      (w.faults = [] → (op.run w).faults = []) := by
  have of {w' : World} (follows : Follows (fun a b => b.payments = a.payments) w w') :
      w'.store.payments = w.store.payments ∧ w.nextId ≤ w'.nextId ∧ (w.faults = [] → w'.faults = []) :=
    ⟨follows.store, follows.nextId, follows.calm⟩
  have serves := Store.samePayments
  cases op with
  | deliver o e => exact absurd rfl (other o e)
  | reprovision o id => exact of (Reprovision.service_serves serves Store.payments_revertOrder o id w)
  | poll o tick => exact of (Worker.pollQueues_serves serves o _ w)
  | reap => exact of (Worker.reap_serves serves w)
  | enqueue t => exact of (TaskQueue.enqueue_keeps serves.toChain serves.tasks t w)
  | wait now => exact ⟨rfl, Nat.le_refl _, id⟩

/-- Identifiers are used up, and no fault appears. -/
theorem run_counts (op : Operation) (w : World) :
    w.nextId ≤ (op.run w).nextId ∧ (w.faults = [] → (op.run w).faults = []) := by
  by_cases delivers : ∃ o e, op = .deliver o e
  · obtain ⟨o, e, rfl⟩ := delivers
    have counts := Delivery.process_counts o e w
    exact ⟨counts.nextId, counts.calm⟩
  · exact (run_payments (fun o e is => delivers ⟨o, e, is⟩) w).2

end Operation

/-! ## Payments -/

/-- Where a payment comes from, in a step that leaves these orders: it is as before, it was refunded and its
order is not paid, or it was paid and its order waits no more. -/
inductive PaymentRow.Origin (before : List PaymentRow) (orders : List OrderRow) (p : PaymentRow) : Prop
  | kept {q : PaymentRow} (hq : q ∈ before) (id : q.id = p.id) (owner : q.orderId = p.orderId)
      (status : p.status = .refunded → q.status = .refunded)
  | refunded {q : PaymentRow} (hq : q ∈ before) (id : q.id = p.id) (owner : q.orderId = p.orderId)
      (unpaid : ∀ x ∈ orders, p.orderId = some x.id → x.status ≠ .paid)
  | charged (open_ : p.status ≠ .refunded)
      (begun : ∀ x ∈ orders, p.orderId = some x.id → ¬ x.status.Waits)

/-- Payments that can be told apart, with numbers that are used up. -/
structure World.Accounts (w : World) : Prop where
  calm : w.faults = []
  orders : (w.store.orders.map (·.id)).Nodup
  payments : (w.store.payments.map (·.id)).Nodup
  numbered : ∀ p ∈ w.store.payments, p.id.val < w.nextId

/-- What an operation, or a part of one, makes of the payments. -/
structure World.Charges (w w' : World) : Prop where
  payments : (w'.store.payments.map (·.id)).Nodup
  numbered : ∀ p ∈ w'.store.payments, p.id.val < w'.nextId
  origin : ∀ p ∈ w'.store.payments, p.Origin w.store.payments w'.store.orders

namespace World.Charges

variable {w w' : World}

theorem of_same (h : w.Accounts) (same : w'.store.payments = w.store.payments)
    (counted : w.nextId ≤ w'.nextId) : w.Charges w' := by
  constructor
  · exact same ▸ h.payments
  · exact fun p hp => Nat.lt_of_lt_of_le (h.numbered p (same ▸ hp)) counted
  · exact fun p hp => .kept (same ▸ hp) rfl rfl id

/-- A change of the status of a payment leaves what it is. -/
theorem of_status (h : w.Accounts) {now : Instant} {id : Uuid} {status : PaymentStatus}
    (counted : w.nextId ≤ w'.nextId)
    (changed : w'.store.payments = (w.store.setPaymentStatus now id status).payments)
    (owner : status = .refunded → ∀ p ∈ w.store.payments, p.id = id →
      ∀ x ∈ w'.store.orders, p.orderId = some x.id → x.status ≠ .paid) : w.Charges w' := by
  constructor
  · rw [changed]
    exact nodup_changeRows h.payments fun _ => rfl
  · intro p hp
    rw [changed] at hp
    obtain ⟨q, hq, is⟩ := mem_changeRows.mp hp
    have := Nat.lt_of_lt_of_le (h.numbered q hq) counted
    rw [is]
    split <;> exact this
  · intro p hp
    rw [changed] at hp
    obtain ⟨q, hq, is⟩ := mem_changeRows.mp hp
    split at is
    · next selected =>
      subst is
      by_cases refunds : status = .refunded
      · exact .refunded hq rfl rfl (owner refunds q hq (by simpa using selected))
      · exact .kept hq rfl rfl fun refunded => absurd refunded refunds
    · exact .kept hq (is ▸ rfl) (is ▸ rfl) fun refunded => is ▸ refunded

end World.Charges

open World (Accounts Charges)

/-- Once a checkout has gone through, its order waits no more. -/
theorem Checkout.Steps.begun {c : Checkout} {order : OrderRow} {w w' : World} {tasks : List CommittedJob}
    (steps : Steps c order w tasks w') (calm : w.faults = []) (keys : (w.store.orders.map (·.id)).Nodup)
    (here : order ∈ w.store.orders) : ∀ x ∈ w'.store.orders, x.id = order.id → ¬ x.status.Waits := by
  have serves := Store.Advances.serves
  have settled := settleOrder_ok calm keys here steps.ranOrder
  have records := (Payments.record_keeps serves.toChain (fun _ _ => .of_eq rfl) _).follows steps.ranPayment
  have later : steps.paid.store.Advances w'.store :=
    serves.trans (serves.trans (steps.bills serves).store records.store) (steps.after serves).store
  intro x hx is waits
  obtain ⟨y, hy, advances⟩ := exists_left_of_forall₂ later hx
  obtain ⟨updatedAt, there⟩ := settled.stands
  rw [eq_of_key settled.keys hy there (advances.id.symm.trans is)] at advances
  exact OrderStatus.not_waits_of_isSettled settled.isSettled (advances.waits waits)

namespace Delivery

variable {w : World}

theorem handle_charges (o : Outside) (notification : Notification) (h : w.Accounts)
    (room : ((handle o notification).run w).2.nextId ≤ Uuid.limit) :
    w.Charges ((handle o notification).run w).2 := by
  have counted := (handle_counts o notification w).nextId
  cases notification with
  | checkout c =>
    rcases ran : c.carryOut.run w with ⟨failure | tasks, v⟩
    · obtain ⟨nextId, faults, rfl⟩ := Checkout.carryOut_failed ran
      rw [handle, Action.run_bind_of_error ran] at counted ⊢
      exact .of_same h rfl counted
    · have submits := CommittedJob.submitAll_payments o tasks v
      have back := CommittedJob.submitEach_returns o tasks v
      rw [← CommittedJob.submitAll_world] at back
      rw [handle, Action.run_bind_of_ok ran, Action.run_answer] at room ⊢
      obtain ⟨order, -, found, ⟨steps⟩⟩ := Checkout.carryOut_ok h.calm ran
      have charged := steps.charged h.calm h.payments h.numbered (Nat.le_trans submits.nextId room)
      have begun := steps.begun h.calm h.orders (List.mem_of_find?_eq_some found)
      constructor
      · exact submits.store ▸ charged.keys
      · exact fun p hp =>
          Nat.lt_of_lt_of_le (charged.numbered p (submits.store ▸ hp)) submits.nextId
      · intro p hp
        rcases charged.rows p (submits.store ▸ hp) with old | ⟨owner, succeeded⟩
        · exact .kept old rfl rfl id
        · apply PaymentRow.Origin.charged
          · simp [succeeded]
          · intro x hx own waits
            obtain ⟨y, hy, returns⟩ := exists_left_of_forall₂ back hx
            have is : y.id = order.id := returns.id.symm.trans (Option.some.inj (own.symm.trans owner))
            exact begun y hy is (returns.waits waits)
  | paymentFailed intent =>
    rw [handle, Action.run_bind_of_ok (Reversal.failPayment_run h.calm intent)] at counted ⊢
    cases fails : w.store.failing intent with
    | none => exact .of_same h (congrArg Store.payments (Store.withFailure_of_none fails w.now)) counted
    | some p =>
      apply World.Charges.of_status h counted
      · exact congrArg Store.payments (Store.withFailure_of_some fails w.now)
      · intro refunded
        cases refunded
  | refund r =>
    rw [handle, Action.run_bind_of_ok (Reversal.refund_run h.calm r)] at counted ⊢
    cases marks : w.store.refunding r with
    | none =>
      rw [Store.withRefund_of_none marks] at counted ⊢
      exact .of_same h rfl counted
    | some p =>
      obtain ⟨⟨intent, -, found⟩, -, -⟩ := Store.refunding_eq_some.mp marks
      rw [Store.withRefund_of_some marks] at counted ⊢
      apply World.Charges.of_status h counted
      · exact Store.refundPayment_payments w.now p w.store
      · intro _ q hq is x hx own
        have same : q = p := eq_of_key h.payments hq (Store.mem_of_paymentByIntent found) is
        exact Store.not_paid_refundPayment h.orders w.now x hx (same ▸ own)
  | dispute d =>
    rw [handle, Action.run_bind_of_ok (Reversal.dispute_run h.calm d)] at counted ⊢
    exact .of_same h rfl counted
  | unhandled => exact .of_same h rfl counted

theorem process_charges (o : Outside) (e : GatewayEvent) (h : w.Accounts)
    (room : ((process o e).run w).2.nextId ≤ Uuid.limit) : w.Charges ((process o e).run w).2 := by
  cases told : e.parse with
  | error failure =>
    rw [process, told]
    exact .of_same h rfl (Nat.le_refl _)
  | ok notification =>
    by_cases claimable : Ledger.Claimable w.now e w.store.events
    · obtain ⟨r, error, -, left⟩ := process_given h.calm claimable told o
      rw [left] at room ⊢
      have accounts : (claimed e w).Accounts :=
        ⟨h.calm, h.orders, h.payments, fun p hp => Nat.lt_succ_of_lt (h.numbered p hp)⟩
      have charges := handle_charges o notification accounts room
      exact ⟨charges.payments, charges.numbered, charges.origin⟩
    · rw [process_refused h.calm claimable told]
      exact .of_same h rfl (Nat.le_succ _)

end Delivery

theorem Operation.run_charges (op : Operation) {w : World} (h : w.Accounts)
    (room : (op.run w).nextId ≤ Uuid.limit) : w.Charges (op.run w) := by
  by_cases delivers : ∃ o e, op = .deliver o e
  · obtain ⟨o, e, rfl⟩ := delivers
    exact Delivery.process_charges o e h room
  · obtain ⟨same, counted, -⟩ := run_payments (fun o e is => delivers ⟨o, e, is⟩) w
    exact .of_same h same counted

/-! ## Runs -/

/-- The order of a payment waits no more, and if the payment is refunded the order is paid for a reason. -/
structure World.Repaid (reason : Uuid → Uuid → Prop) (w : World) : Prop extends w.Accounts where
  begun : ∀ p ∈ w.store.payments, ∀ x ∈ w.store.orders, p.orderId = some x.id → ¬ x.status.Waits
  paid : ∀ p ∈ w.store.payments, p.status = .refunded →
    ∀ x ∈ w.store.orders, p.orderId = some x.id → x.status = .paid → reason p.id x.id

theorem World.Repaid.run {reason : Uuid → Uuid → Prop} {w : World} (h : w.Repaid reason) (op : Operation)
    (room : (op.run w).nextId ≤ Uuid.limit)
    (takes : ∀ p ∈ w.store.payments, p.status = .refunded → ∀ orderId, p.orderId = some orderId →
      op.TakesBack w orderId → reason p.id orderId) : (op.run w).Repaid reason := by
  have lives := Operations.lives op w
  have charges := op.run_charges h.toAccounts room
  constructor
  · constructor
    · exact (op.run_counts w).2 h.calm
    · exact map_eq_of_forall₂ (fun rests => rests.id) lives.rests ▸ h.orders
    · exact charges.payments
    · exact charges.numbered
  · intro p hp x hx own waits
    obtain ⟨a, ha, id, waits', -⟩ := lives.origin hx
    cases charges.origin p hp with
    | kept hq _ owner _ => exact h.begun _ hq a ha (id ▸ owner.trans own) (waits' waits)
    | refunded hq _ owner _ => exact h.begun _ hq a ha (id ▸ owner.trans own) (waits' waits)
    | charged _ begun => exact begun x hx own waits
  · intro p hp refunded x hx own paid
    obtain ⟨a, ha, id, -, paid'⟩ := lives.origin hx
    cases charges.origin p hp with
    | @kept q hq isId owner status =>
      have owner : q.orderId = some a.id := id ▸ owner.trans own
      have refunded := status refunded
      rw [← isId, ← id]
      rcases paid' paid with waits | paid | back
      · exact absurd waits (h.begun q hq a ha owner)
      · exact h.paid q hq refunded a ha owner paid
      · exact takes q hq refunded a.id owner back
    | refunded _ _ _ unpaid => exact absurd paid (unpaid x hx own)
    | charged open_ _ => exact absurd refunded open_

namespace Operations

variable {w : World} {ops : List Operation}

theorem runAll_nextId (ops : List Operation) (w : World) : w.nextId ≤ (runAll ops w).nextId := by
  induction ops generalizing w with
  | nil => exact Nat.le_refl _
  | cons op ops ih => exact Nat.le_trans (op.run_counts w).1 (ih _)

/-- What every operation keeps, where it begins, all of them keep. -/
theorem runAll_keeps {I : World → Prop} (start : I w)
    (keep : ∀ before op after, ops = before ++ op :: after → I (runAll before w) →
      I (op.run (runAll before w))) : I (runAll ops w) := by
  induction ops generalizing w with
  | nil => exact start
  | cons op ops ih =>
    apply ih (keep [] op ops rfl start)
    intro before op' after split
    exact keep (op :: before) op' after (by rw [split]; rfl)

/-- A compensation took the order back to paid when the payment was refunded already. -/
def TakenBack (ops : List Operation) (w : World) (paymentId orderId : Uuid) : Prop :=
  ∃ before op after, ops = before ++ op :: after ∧ op.TakesBack (runAll before w) orderId ∧
    ∃ p ∈ (runAll before w).store.payments, p.id = paymentId ∧ p.orderId = some orderId ∧
      p.status = .refunded

theorem repaid_runAll (opening : w.Opening) (unpaid : w.store.payments = [])
    (room : (runAll ops w).nextId ≤ Uuid.limit) : (runAll ops w).Repaid (TakenBack ops w) := by
  have start : w.Repaid (TakenBack ops w) := by
    refine ⟨⟨opening.calm, opening.linked.orders, ?_, ?_⟩, ?_, ?_⟩ <;> simp [unpaid]
  apply runAll_keeps start
  intro before op after split h
  have ends : runAll ops w = runAll after (op.run (runAll before w)) := by
    rw [split, runAll_append]
    rfl
  apply h.run op
  · rw [ends] at room
    exact Nat.le_trans (runAll_nextId after _) room
  · intro p hp refunded orderId owner back
    exact ⟨before, op, after, split, back, p, hp, rfl, owner, refunded⟩

/-- **Refunded payments.** Whatever operations have run, a refund that is reported by a new event is
processed and leaves its payment refunded. Afterwards the order of the payment is not paid, unless the
payment was refunded before and a compensation has taken the order back to paid since. -/
theorem refunded_order (opening : w.Opening) (unpaid : w.store.payments = [])
    (room : (runAll ops w).nextId ≤ Uuid.limit) (o : Outside) {e : GatewayEvent} {r : RefundReport}
    (told : e.parse = .ok (.refund r)) (marks : r.marksRefunded = true)
    (new : Ledger.rowOf e (runAll ops w).store.events = none) {intent : IntentId}
    (about : r.intent = some intent) {p : PaymentRow}
    (found : (runAll ops w).store.paymentByIntent intent.text = some p) {orderId : Uuid}
    (owner : p.orderId = some orderId) :
    ∃ v, (Delivery.process o e).run (runAll ops w) = (.ok .processed, v) ∧
      (∃ p', v.store.paymentByIntent intent.text = some p' ∧ p'.id = p.id ∧ p'.status = .refunded) ∧
      ∀ x ∈ v.store.orders, x.id = orderId → x.status = .paid →
        p.status = .refunded ∧ x ∈ (runAll ops w).store.orders ∧ TakenBack ops w p.id orderId := by
  have h := repaid_runAll opening unpaid room
  have hp := Store.mem_of_paymentByIntent found
  obtain ⟨row, claimed, -⟩ := Ledger.claim_granted h.calm (Ledger.claimable_of_none new)
  have ran := Reversal.refund_run (w := Delivery.claimed e (runAll ops w)) h.calm r
  have handled := Action.run_bind_of_ok ran fun _ => pure DeliveryOutcome.processed
  refine ⟨_, (Delivery.process_granted told claimed handled).trans
    (Delivery.conclude_ok (by exact h.calm) _ _), ?_⟩
  let s : Store := (Delivery.claimed e (runAll ops w)).store
  by_cases refunded : p.status = .refunded
  · have marksNone : s.refunding r = none := Store.refunding_of_refunded about found refunded
    rw [Store.withRefund_of_none marksNone]
    refine ⟨⟨p, found, rfl, refunded⟩, fun x hx is paid => ⟨refunded, hx, ?_⟩⟩
    have owner : p.orderId = some x.id := is ▸ owner
    exact is ▸ h.paid p hp refunded x hx owner paid
  · have marksIt : s.refunding r = some p :=
      Store.refunding_eq_some.mpr ⟨⟨intent, about, found⟩, marks, refunded⟩
    rw [Store.withRefund_of_some marksIt]
    refine ⟨⟨{ p with status := .refunded, updatedAt := (runAll ops w).now }, ?_, rfl, rfl⟩,
      fun x hx is paid => ?_⟩
    · rw [← Store.setPaymentStatus_found (s := s) found, Store.paymentByIntent, Store.paymentByIntent,
        ← Store.refundPayment_payments]
      rfl
    · exact absurd paid (Store.not_paid_refundPayment (s := s) h.orders _ x hx (is ▸ owner))

/-- The sample is paid and its first job fails; then the payment is refunded, and the second job of the
order is refused. -/
def compensatedRun : List Operation := [
  .deliver (sampleOutside true) sampleEvent,
  .poll (sampleOutside true) 0,
  .deliver (sampleOutside true) refundEvent,
  .deliver refusing repeatedEvent]

theorem compensatedRun_runs : Runs openingWorld compensatedRun := by decide +kernel

/-- The refund is reported once more. -/
def refundedAgain : GatewayEvent := { refundEvent with id := ⟨"evt_4"⟩ }

def sampleRefund : RefundReport where
  intent := some ⟨"pi_1"⟩
  refunds := [⟨"re_1", 1000, none, .succeeded⟩]
  wholeCharge := true

theorem refundedAgain_tells : refundedAgain.parse = .ok (.refund sampleRefund) := rfl

/-- The world that the second refund finds. -/
def compensatedWorld : World := runAll compensatedRun openingWorld

/-- The world that the second refund leaves. -/
def refundedAgainWorld : World := ((Delivery.process (sampleOutside true) refundedAgain).run compensatedWorld).2

theorem refundedAgain_processed :
    ((Delivery.process (sampleOutside true) refundedAgain).run compensatedWorld).1 = .ok .processed := by
  decide +kernel

theorem refundedAgain_new : Ledger.rowOf refundedAgain compensatedWorld.store.events = none :=
  Option.isNone_iff_eq_none.mp (by decide +kernel)

/-- The second refund is processed and leaves the order paid. -/
theorem refunded_order_paid : openingWorld.Opening ∧ openingWorld.store.payments = [] ∧
    Runs openingWorld compensatedRun ∧ refundedAgain.parse = .ok (.refund sampleRefund) ∧
    sampleRefund.marksRefunded = true ∧
    Ledger.rowOf refundedAgain compensatedWorld.store.events = none ∧
    ((Delivery.process (sampleOutside true) refundedAgain).run compensatedWorld).1 = .ok .processed ∧
    ∃ p ∈ refundedAgainWorld.store.payments, p.intent = some "pi_1" ∧ p.status = .refunded ∧
      ∃ x ∈ refundedAgainWorld.store.orders, p.orderId = some x.id ∧ x.status = .paid := by
  refine ⟨opening_openingWorld, rfl, compensatedRun_runs, refundedAgain_tells, rfl, refundedAgain_new,
    refundedAgain_processed, ?_⟩
  decide +kernel

/-- A compensation came between the two refunds. -/
theorem refunded_order_compensated : ∃ p ∈ compensatedWorld.store.payments, p.status = .refunded ∧
    TakenBack compensatedRun openingWorld p.id (.ofNat 1) := by
  have room : compensatedWorld.nextId ≤ Uuid.limit := by decide +kernel
  have owned : (compensatedWorld.store.paymentByIntent (IntentId.mk "pi_1").text).bind (·.orderId) =
      some (.ofNat 1) := by decide +kernel
  have paid : ∃ x ∈ refundedAgainWorld.store.orders, x.id = .ofNat 1 ∧ x.status = .paid := by
    decide +kernel
  obtain ⟨p, found, owner⟩ := Option.bind_eq_some_iff.mp owned
  obtain ⟨x, hx, is, paid⟩ := paid
  have law := @refunded_order openingWorld compensatedRun opening_openingWorld rfl
  rw [← compensatedWorld] at law
  obtain ⟨v, ran, -, only⟩ := law room (sampleOutside true) refundedAgain_tells rfl refundedAgain_new rfl
    found owner
  have left : refundedAgainWorld = v := by rw [refundedAgainWorld, ran]
  obtain ⟨refunded, -, back⟩ := only x (left ▸ hx) is paid
  exact ⟨p, Store.mem_of_paymentByIntent found, refunded, back⟩

end Operations

end HostingBilling
