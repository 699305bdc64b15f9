import HostingBilling.Delivery
import HostingBilling.Proofs.Runs

/-!
# Handlers do not see the ledger

The ledger decides whether a delivery is given its event; what the delivery then does with it is the same
whatever stands in the ledger. Main statement: with another ledger, a handler gives the same answer and
leaves the same world, up to that ledger.
-/

namespace HostingBilling

/-- A store with another ledger. -/
def Store.withLedger (rows : List EventRow) (s : Store) : Store := { s with events := rows }

/-- A world with another ledger. -/
def World.withLedger (rows : List EventRow) (w : World) : World :=
  { w with store := w.store.withLedger rows }

/-- With another ledger the action answers the same and leaves the same world, up to that ledger. -/
def Action.Oblivious {α : Type} (a : Action α) : Prop :=
  ∀ w rows, a.run (w.withLedger rows) = ((a.run w).1, (a.run w).2.withLedger rows)

namespace Action.Oblivious

variable {α β : Type}

theorem pure (a : α) : (Pure.pure a : Action α).Oblivious := fun _ _ => rfl

theorem throw (e : Failure) : (MonadExcept.throw e : Action α).Oblivious := fun _ _ => rfl

theorem now : Action.now.Oblivious := fun _ _ => rfl

theorem freshId : Action.freshId.Oblivious := fun _ _ => rfl

theorem ofExcept (x : Except Failure α) : (Action.ofExcept x).Oblivious := by
  cases x
  · exact throw _
  · exact pure _

theorem bind {a : Action α} {f : α → Action β} (first : a.Oblivious) (rest : ∀ x, (f x).Oblivious) :
    (a >>= f).Oblivious := by
  intro w rows
  rw [Action.run_bind, Action.run_bind, first w rows]
  rcases a.run w with ⟨e | x, w₁⟩
  · rfl
  · exact rest x w₁ rows

theorem attempt {a : Action α} (h : a.Oblivious) : a.attempt.Oblivious := by
  intro w rows
  rw [Action.run_attempt, Action.run_attempt, h w rows]

theorem ite {c : Prop} [Decidable c] {a b : Action α} (ha : a.Oblivious) (hb : b.Oblivious) :
    (if c then a else b).Oblivious := by
  split
  · exact ha
  · exact hb

theorem transaction {a : Action α} (h : a.Oblivious) : (HostingBilling.transaction a).Oblivious := by
  intro w rows
  rw [Action.run_transaction, Action.run_transaction, h w rows]
  rcases a.run w with ⟨e | x, w₁⟩ <;> rfl

theorem execute (s : Statement) {f : Instant → Store → Except DatabaseFailure (α × Store)}
    (same : ∀ now store rows,
      f now (store.withLedger rows) = (f now store).map fun x => (x.1, x.2.withLedger rows)) :
    (HostingBilling.execute s f).Oblivious := by
  intro w rows
  unfold HostingBilling.execute Action.run
  dsimp only [World.withLedger]
  cases (strike s w.faults).1
  · simp only [Bool.false_eq_true, if_false, same]
    rcases f w.now w.store with e | ⟨x, store⟩ <;> rfl
  · rfl

theorem change (s : Statement) {f : Instant → Store → α × Store}
    (same : ∀ now store rows,
      f now (store.withLedger rows) = ((f now store).1, (f now store).2.withLedger rows)) :
    (HostingBilling.change s f).Oblivious :=
  execute s fun now store rows => congrArg Except.ok (same now store rows)

theorem ask (s : Statement) {f : Instant → Store → α}
    (same : ∀ now store rows, f now (store.withLedger rows) = f now store) :
    (HostingBilling.ask s f).Oblivious :=
  execute s fun now store rows => congrArg (fun x => Except.ok (x, store.withLedger rows)) (same now store rows)

end Action.Oblivious

open HostingBilling.Action (Oblivious)

/-! ## The statements of the handlers -/

namespace Orders

theorem lock_oblivious (id : Uuid) : (lock id).Oblivious := .ask _ fun _ _ _ => rfl

theorem items_oblivious (id : Uuid) : (items id).Oblivious := .ask _ fun _ _ _ => rfl

theorem status_oblivious (id : Uuid) : (status id).Oblivious := .ask _ fun _ _ _ => rfl

theorem move_oblivious (id : Uuid) (source target : OrderStatus) : (move id source target).Oblivious :=
  .bind (.ofExcept _) fun _ => .change _ fun _ _ _ => rfl

theorem takeBack_oblivious (id : Uuid) : (takeBack id).Oblivious := by
  apply Oblivious.bind (.ofExcept _)
  intro target
  apply Oblivious.change
  intro now s rows
  have same : (s.withLedger rows).hasWorkDone id = s.hasWorkDone id := rfl
  simp only [Store.revertOrder, same]
  split <;> rfl

end Orders

theorem Store.insertInvoice_withLedger (r : InvoiceRow) (s : Store) (rows : List EventRow) :
    (s.withLedger rows).insertInvoice r =
      (s.insertInvoice r).map fun x => (x.1, x.2.withLedger rows) := by
  have same : (s.withLedger rows).order? r.orderId = s.order? r.orderId := rfl
  unfold insertInvoice
  rw [same]
  split <;> rfl

theorem Store.insertInitial_withLedger (r : InvoiceRow) (s : Store) (rows : List EventRow) :
    (s.withLedger rows).insertInitial r =
      (s.insertInitial r).map fun x => (x.1, x.2.withLedger rows) := by
  have same : (s.withLedger rows).initialInvoice? r.orderId = s.initialInvoice? r.orderId := rfl
  unfold insertInitial
  rw [same, insertInvoice_withLedger]
  split
  · rfl
  · cases s.insertInvoice r <;> rfl

namespace Invoices

theorem insertLine_oblivious (id : Uuid) (text : String) (quantity unit amount : Int) :
    (insertLine id text quantity unit amount).Oblivious :=
  .bind .freshId fun _ => .change _ fun _ _ _ => rfl

theorem insertLines_oblivious (id : Uuid) (priced : List PricedItem) :
    (insertLines id priced).Oblivious := by
  induction priced with
  | nil => exact .pure _
  | cons p rest ih => exact .bind (insertLine_oblivious _ _ _ _ _) fun _ => ih

theorem ensureInitial_oblivious (order : OrderRow) (items : List ItemRow) :
    (ensureInitial order items).Oblivious := by
  apply Oblivious.bind (.ofExcept _)
  intro priced
  apply Oblivious.bind (.ofExcept _)
  intro total
  apply Oblivious.bind .now
  intro now
  apply Oblivious.bind .freshId
  intro id
  apply Oblivious.bind (.execute _ fun _ s rows => Store.insertInitial_withLedger _ s rows)
  intro created
  apply Oblivious.ite
  · exact .bind (insertLines_oblivious _ _) fun _ => .pure _
  · apply Oblivious.execute
    intro now s rows
    have same : (s.withLedger rows).initialInvoice? order.id = s.initialInvoice? order.id := rfl
    rw [same]
    cases s.initialInvoice? order.id <;> rfl

end Invoices

namespace Payments

theorem byIntent_oblivious (intent : IntentId) : (byIntent intent).Oblivious := .ask _ fun _ _ _ => rfl

theorem bySession_oblivious (session : String) : (bySession session).Oblivious := .ask _ fun _ _ _ => rfl

theorem ofCheckout_oblivious (p : SettledPayment) : (ofCheckout p).Oblivious := by
  unfold ofCheckout
  cases p.intent with
  | none =>
    apply Oblivious.bind (.pure _)
    intro found
    cases found
    · exact bySession_oblivious _
    · exact .pure _
  | some intent =>
    apply Oblivious.bind (byIntent_oblivious intent)
    intro found
    cases found
    · exact bySession_oblivious _
    · exact .pure _

theorem record_oblivious (p : SettledPayment) : (record p).Oblivious := by
  apply Oblivious.bind (ofCheckout_oblivious p)
  rintro (_ | r)
  · apply Oblivious.bind .freshId
    intro id
    apply Oblivious.bind _ fun _ => .pure _
    apply Oblivious.execute
    intro now s rows
    have same : (s.withLedger rows).checkPaymentKeys id (p.intent.map (·.text)) p.session =
      s.checkPaymentKeys id (p.intent.map (·.text)) p.session := rfl
    simp only [Store.insertPayment, same]
    cases s.checkPaymentKeys id (p.intent.map (·.text)) p.session <;> rfl
  · apply Oblivious.ite (.pure _)
    apply Oblivious.bind _ fun _ => .pure _
    apply Oblivious.execute
    intro now s rows
    have same : (s.withLedger rows).checkPaymentKeys r.id ((p.intent.map (·.text)) <|> r.intent) p.session =
      s.checkPaymentKeys r.id ((p.intent.map (·.text)) <|> r.intent) p.session := rfl
    simp only [Store.updatePayment, same]
    cases s.checkPaymentKeys r.id ((p.intent.map (·.text)) <|> r.intent) p.session <;> rfl

theorem setStatus_oblivious (id : Uuid) (status : PaymentStatus) : (setStatus id status).Oblivious :=
  .change _ fun _ _ _ => rfl

theorem recordRefund_oblivious (paymentId : Uuid) (x : Refund) : (recordRefund paymentId x).Oblivious := by
  apply Oblivious.bind .freshId
  intro id
  apply Oblivious.change
  intro now s rows
  cases known : s.refunds.any fun r => r.refundId == x.id <;>
    simp [Store.recordRefund, Store.withLedger, known]

theorem recordDispute_oblivious (paymentId : Uuid) (x : Dispute) :
    (recordDispute paymentId x).Oblivious := by
  apply Oblivious.bind .freshId
  intro id
  apply Oblivious.change
  intro now s rows
  cases known : s.disputes.any fun r => r.disputeId == x.id <;>
    simp [Store.recordDispute, Store.withLedger, known]

end Payments

namespace Services

theorem ensure_oblivious (userId : Uuid) (item : ItemRow) (expiresAt : Instant) :
    (ensure userId item expiresAt).Oblivious := by
  apply Oblivious.bind .freshId
  intro id
  apply Oblivious.bind
  · apply Oblivious.change
    intro now s rows
    cases served : s.services.any fun r => r.itemId == item.id <;>
      simp [Store.insertService, Store.withLedger, served]
  · intro _
    apply Oblivious.execute
    intro now s rows
    have same : (s.withLedger rows).services = s.services := rfl
    rw [same]
    cases s.services.find? fun r => r.itemId == item.id <;> rfl

theorem start_oblivious (id : Uuid) : (start id).Oblivious := .change _ fun _ _ _ => rfl

theorem takeBack_oblivious (id : Uuid) : (takeBack id).Oblivious := .change _ fun _ _ _ => rfl

end Services

namespace Jobs

theorem create_oblivious (serviceId : Uuid) (kind : JobKind) : (create serviceId kind).Oblivious := by
  apply Oblivious.bind .freshId
  intro id
  apply Oblivious.change
  intro now s rows
  cases live : s.jobs.any (Store.isLiveJob serviceId kind.name) <;>
    simp [Store.createJob, Store.withLedger, live]

theorem abandon_oblivious (id : Uuid) (error : String) : (abandon id error).Oblivious :=
  .change _ fun _ _ _ => rfl

end Jobs

namespace TaskQueue

theorem enqueue_oblivious (t : TaskDraft) : (enqueue t).Oblivious := by
  have inserts : (insert t).Oblivious := .bind .freshId fun _ => .change _ fun _ _ _ => rfl
  apply Oblivious.bind inserts.attempt
  rintro (e | id)
  · exact .throw _
  · exact .pure _

theorem submit_oblivious (o : Outside) (t : TaskDraft) : (submit o t).Oblivious := by
  intro w rows
  have answers : (receive o.durable (o.refusal? w.offered.length t) t).Oblivious := by
    cases o.refusal? w.offered.length t with
    | some e => exact .throw e
    | none => exact .ite (enqueue_oblivious t) .freshId
  rw [submit_run, submit_run]
  exact answers { w with offered := w.offered ++ [t] } rows

end TaskQueue

/-! ## The handlers -/

namespace CommittedJob

theorem stepError_oblivious (label : String) (id : Uuid) {step : Action Bool} (h : step.Oblivious) :
    (stepError label id step).Oblivious := by
  apply Oblivious.bind h.attempt
  rintro (e | _) <;> exact .pure _

theorem retract_oblivious (t : CommittedJob) (reason : String) : (t.retract reason).Oblivious :=
  .bind (stepError_oblivious _ _ (Jobs.abandon_oblivious _ _)) fun _ =>
    .bind (stepError_oblivious _ _ (Services.takeBack_oblivious _)) fun _ =>
      .bind (stepError_oblivious _ _ (Orders.takeBack_oblivious _)) fun _ => .pure _

theorem submit_oblivious (o : Outside) (t : CommittedJob) : (t.submit o).Oblivious := by
  apply Oblivious.bind (TaskQueue.submit_oblivious o _).attempt
  rintro (e | id)
  · exact .bind (retract_oblivious t _) fun _ => .pure _
  · exact .pure _

theorem submitEach_oblivious (o : Outside) (tasks : List CommittedJob) :
    (submitEach o tasks).Oblivious := by
  induction tasks with
  | nil => exact .pure _
  | cons t rest ih => exact .bind (submit_oblivious o t) fun _ => .bind ih fun _ => .pure _

theorem submitAll_oblivious (o : Outside) (tasks : List CommittedJob) : (submitAll o tasks).Oblivious := by
  apply Oblivious.bind (submitEach_oblivious o tasks)
  intro result
  exact .ite (.pure _) (.throw _)

end CommittedJob

namespace Checkout

theorem prepareItem_oblivious (order : OrderRow) (item : ItemRow) :
    (prepareItem order item).Oblivious := by
  apply Oblivious.bind .now
  intro now
  apply Oblivious.bind (Services.ensure_oblivious _ _ _)
  intro service
  apply Oblivious.ite (.pure _)
  apply Oblivious.bind (Services.start_oblivious _)
  intro _
  apply Oblivious.bind (Jobs.create_oblivious _ _)
  rintro (_ | jobId) <;> exact .pure _

theorem prepareItems_oblivious (order : OrderRow) (items : List ItemRow) :
    (prepareItems order items).Oblivious := by
  induction items with
  | nil => exact .pure _
  | cons item rest ih => exact .bind (prepareItem_oblivious order item) fun _ => .bind ih fun _ => .pure _

theorem settle_oblivious (c : Checkout) (orderId : Uuid) : (c.settle orderId).Oblivious := by
  apply Oblivious.bind (Orders.lock_oblivious _)
  rintro (_ | order)
  · exact .throw _
  · apply Oblivious.bind (.ite (.pure _) (.bind (Orders.move_oblivious _ _ _) fun _ => .pure _))
    intro status
    apply Oblivious.bind (Orders.items_oblivious _)
    intro items
    apply Oblivious.bind (Invoices.ensureInitial_oblivious _ _)
    intro invoiceId
    apply Oblivious.bind (Payments.record_oblivious _)
    intro _
    apply Oblivious.bind (prepareItems_oblivious _ _)
    intro created
    exact .ite (.bind (Orders.move_oblivious _ _ _) fun _ => .pure _) (.pure _)

theorem carryOut_oblivious (c : Checkout) : c.carryOut.Oblivious :=
  .bind (.ofExcept _) fun orderId => .transaction (settle_oblivious c orderId)

end Checkout

namespace Reversal

theorem failPayment_oblivious (intent : IntentId) : (failPayment intent).Oblivious := by
  apply Oblivious.transaction
  apply Oblivious.bind (Payments.byIntent_oblivious intent)
  rintro (_ | payment)
  · exact .pure _
  · exact .ite (Payments.setStatus_oblivious _ _) (.pure _)

theorem recordRefunds_oblivious (paymentId : Uuid) (refunds : List Refund) :
    (recordRefunds paymentId refunds).Oblivious := by
  induction refunds with
  | nil => exact .pure _
  | cons r rest ih => exact .bind (Payments.recordRefund_oblivious _ _) fun _ => ih

theorem refundOrder_oblivious (orderId : Uuid) : (refundOrder orderId).Oblivious := by
  apply Oblivious.bind (Orders.status_oblivious _)
  intro status
  exact .ite (.bind (Orders.move_oblivious _ _ _) fun _ => .pure _) (.pure _)

theorem refund_oblivious (r : RefundReport) : (refund r).Oblivious := by
  unfold refund
  split
  · apply Oblivious.transaction
    apply Oblivious.bind (Payments.byIntent_oblivious _)
    rintro (_ | payment)
    · exact .pure _
    · apply Oblivious.bind (recordRefunds_oblivious _ _)
      intro _
      apply Oblivious.ite _ (.pure _)
      apply Oblivious.bind (Payments.setStatus_oblivious _ _)
      intro _
      split
      · exact refundOrder_oblivious _
      · exact .pure _
  · exact .pure _

theorem dispute_oblivious (d : Dispute) : (dispute d).Oblivious := by
  unfold dispute
  split
  · apply Oblivious.transaction
    apply Oblivious.bind (Payments.byIntent_oblivious _)
    rintro (_ | payment)
    · exact .pure _
    · exact Payments.recordDispute_oblivious _ _
  · exact .pure _

end Reversal

/-- **Handlers do not see the ledger.** -/
theorem Delivery.handle_oblivious (o : Outside) (notification : Notification) :
    (handle o notification).Oblivious := by
  cases notification with
  | checkout c =>
    exact .bind (Checkout.carryOut_oblivious c) fun tasks =>
      .bind (CommittedJob.submitAll_oblivious o tasks) fun _ => .pure _
  | paymentFailed intent => exact .bind (Reversal.failPayment_oblivious intent) fun _ => .pure _
  | refund r => exact .bind (Reversal.refund_oblivious r) fun _ => .pure _
  | dispute d => exact .bind (Reversal.dispute_oblivious d) fun _ => .pure _
  | unhandled => exact .pure _

end HostingBilling
