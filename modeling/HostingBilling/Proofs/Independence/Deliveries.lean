import HostingBilling.Proofs.Independence.Statements

/-!
# Deliveries within a purchase

A delivery stays within the purchase that its event is about: it finds, adds and changes rows of that
purchase only, whichever way it ends.
-/

namespace HostingBilling

/-! ## The keys of an event -/

namespace Notification

/-- The intent that an event names. -/
def intent : Notification → Option String
  | checkout c => c.intent.map (·.text)
  | paymentFailed i => some i.text
  | refund r => r.intent.map (·.text)
  | dispute d => d.intent.map (·.text)
  | unhandled => none

def session : Notification → Option String
  | checkout c => some c.sessionId
  | _ => none

/-- The order that an event names. -/
def order : Notification → Option Uuid
  | checkout c => c.orderId.toOption
  | _ => none

def refundIds : Notification → List String
  | refund r => r.refunds.map (·.id)
  | _ => []

def disputeId : Notification → Option String
  | dispute d => some d.id
  | _ => none

end Notification

/-- The keys that an event names are keys of the purchase. -/
structure Purchase.Covers (F : Purchase) (n : Notification) : Prop where
  intent : ∀ i, n.intent = some i → F.intents i = true
  session : ∀ x, n.session = some x → F.sessions x = true
  order : ∀ id, n.order = some id → F.orders id = true
  refunds : ∀ x ∈ n.refundIds, F.refunds x = true
  dispute : ∀ x, n.disputeId = some x → F.disputes x = true

/-- A job of the purchase, with its service and its order. -/
structure Purchase.Commits (F : Purchase) (t : CommittedJob) : Prop where
  job : F.jobs t.jobId = true
  service : F.services t.serviceId = true
  order : F.orders t.orderId = true

variable {F : Comparison}

/-! ## Submitting jobs -/

namespace CommittedJob

theorem stepError_within {given : Prop} {post : Bool → Prop} (label : String) (id : Uuid)
    {step : Action Bool} (h : step.Within F given post) :
    (stepError label id step).Within F given fun _ => True := by
  apply Action.Agrees.andThen h.attempt
  rintro (e | _) <;> exact .pure fun _ => trivial

theorem retract_within (t : CommittedJob) (reason : String) :
    (t.retract reason).Within F (F.Commits t) fun _ => True := by
  have job := (Jobs.abandon_within (F := F) t.jobId ("enqueue failed: " ++ reason)).when Purchase.Commits.job
  have service := (Services.takeBack_within (F := F) t.serviceId).when Purchase.Commits.service
  have takenBack : (Orders.takeBack t.orderId).Within F (F.orders t.orderId = true) fun _ => True :=
    Orders.takeBack_within
  have order := takenBack.when Purchase.Commits.order
  apply Action.Agrees.andThen (stepError_within _ _ job)
  intro first
  apply Action.Agrees.andThen (stepError_within _ _ service)
  intro second
  apply Action.Agrees.andThen (stepError_within _ _ order)
  intro third
  exact .pure fun _ => trivial

theorem submit_agrees (t : CommittedJob) :
    (t.submit F.queue).Agrees F (F.Commits t) (t.submit F.queue') fun _ => True := by
  apply Action.Agrees.andThen (TaskQueue.submit_agrees _).attempt
  rintro (e | id)
  · exact .andThen (retract_within t _) fun _ => .pure fun _ => trivial
  · exact .pure fun _ => trivial

theorem submitEach_agrees (tasks : List CommittedJob) :
    (submitEach F.queue tasks).Agrees F (∀ t ∈ tasks, F.Commits t) (submitEach F.queue' tasks)
      fun _ => True := by
  induction tasks with
  | nil => exact .pure fun _ => trivial
  | cons t rest ih =>
    apply Action.Agrees.andThen ((submit_agrees t).when fun commits => commits t List.mem_cons_self)
    intro errors
    apply Action.Agrees.andThen (ih.when fun commits u hu => commits u (List.mem_cons_of_mem t hu))
    intro result
    exact .pure fun _ => trivial

theorem submitAll_agrees (tasks : List CommittedJob) :
    (submitAll F.queue tasks).Agrees F (∀ t ∈ tasks, F.Commits t) (submitAll F.queue' tasks)
      fun _ => True := by
  apply Action.Agrees.andThen (submitEach_agrees tasks)
  intro result
  exact .ite (.pure fun _ => trivial) (.throw _)

end CommittedJob

/-! ## Checkouts -/

namespace Checkout

theorem prepareItem_within (order : OrderRow) (item : ItemRow) :
    (prepareItem order item).Within F (F.orders order.id = true ∧ F.isItem item.id = true)
      fun x => ∀ t, x = some t → F.Commits t := by
  apply Action.Agrees.andThen .now
  intro now
  apply Action.Agrees.bind ((Services.ensure_within _ _ _).when And.right)
  intro service
  apply Action.Agrees.ite (.pure fun _ _ => nofun)
  apply Action.Agrees.andThen ((Services.start_within service.id).when fun known => known.1.2)
  intro _
  apply Action.Agrees.bind ((Jobs.create_within service.id .provisionVps).when fun known => known.1.2)
  rintro (_ | jobId)
  · exact .pure fun _ _ => nofun
  · apply Action.Agrees.pure
    intro known t is
    exact Option.some.inj is ▸ ⟨known.2 jobId rfl, known.1.1.2, known.1.1.1.1⟩

theorem prepareItems_within (order : OrderRow) (items : List ItemRow) :
    (prepareItems order items).Within F (F.orders order.id = true ∧ ∀ item ∈ items, F.isItem item.id = true)
      fun tasks => ∀ t ∈ tasks, F.Commits t := by
  induction items with
  | nil => exact .pure fun _ _ ht => nomatch ht
  | cons item rest ih =>
    apply Action.Agrees.bind
      ((prepareItem_within order item).when fun known => ⟨known.1, known.2 item List.mem_cons_self⟩)
    intro first
    apply Action.Agrees.bind
      (ih.when fun known => ⟨known.1.1, fun x hx => known.1.2 x (List.mem_cons_of_mem item hx)⟩)
    intro later
    apply Action.Agrees.pure
    intro known t ht
    rcases List.mem_append.mp ht with ht | ht
    · exact known.1.2 t (Option.mem_toList.mp ht)
    · exact known.2 t ht

theorem settleOrder_within (order : OrderRow) :
    (settleOrder order).Within F (F.orders order.id = true) fun _ => True := by
  apply Action.Agrees.ite (.pure fun _ => trivial)
  exact .andThen ((Orders.move_within _ _).when And.left) fun _ => .pure fun _ => trivial

theorem settle_within (c : Checkout) (orderId : Uuid) :
    (c.settle orderId).Within F (F.Covers (.checkout c) ∧ F.orders orderId = true)
      fun tasks => ∀ t ∈ tasks, F.Commits t := by
  apply Action.Agrees.bind (Orders.lock_within.when And.right)
  rintro (_ | order)
  · exact .throw _
  · have own : ((F.Covers (.checkout c) ∧ F.orders orderId = true) ∧ ∀ o, some order = some o → o.id = orderId) →
        F.orders order.id = true := by
      rintro ⟨⟨-, here⟩, is⟩
      rw [is order rfl]
      exact here
    apply Action.Agrees.andThen ((settleOrder_within order).when own)
    intro status
    apply Action.Agrees.bind (Orders.items_within.when own)
    intro items
    apply Action.Agrees.andThen ((Invoices.ensureInitial_within _ _).when fun known => own known.1)
    intro invoiceId
    apply Action.Agrees.andThen
    · apply (Payments.record_within _).when
      rintro ⟨known, -⟩
      constructor
      · intro i is
        exact known.1.1.intent i.text (Option.map_eq_some_iff.mpr ⟨i, is, rfl⟩)
      · exact known.1.1.session _ rfl
      · exact own known
    intro _
    apply Action.Agrees.bind ((prepareItems_within _ _).when fun known => ⟨own known.1, known.2⟩)
    intro created
    apply Action.Agrees.ite
    · exact .bind ((Orders.move_within _ _).when fun known => own known.1.1.1) fun _ => .pure fun known => known.1.1.2
    · exact .pure fun known => known.1.2

theorem carryOut_within (c : Checkout) :
    c.carryOut.Within F (F.Covers (.checkout c)) fun tasks => ∀ t ∈ tasks, F.Commits t := by
  apply Action.Agrees.bind (.ofExcept _)
  intro orderId
  apply Action.Agrees.transaction
  apply (settle_within c orderId).when
  rintro ⟨covers, named⟩
  refine ⟨covers, covers.order orderId ?_⟩
  rw [Notification.order, named]
  rfl

end Checkout

/-! ## Failed payments, refunds and disputes -/

namespace Reversal

theorem failPayment_within (intent : IntentId) :
    (failPayment intent).Within F (F.Covers (.paymentFailed intent)) fun _ => True := by
  apply Action.Agrees.transaction
  apply Action.Agrees.bind ((Payments.byIntent_within intent).when fun covers => covers.intent _ rfl)
  rintro (_ | payment)
  · exact .pure fun _ => trivial
  · apply Action.Agrees.ite
    · exact (Payments.setStatus_within _ _).when fun known => (known.1.2 payment rfl).1
    · exact .pure fun _ => trivial

theorem recordRefunds_within (paymentId : Uuid) (refunds : List Refund) :
    (recordRefunds paymentId refunds).Within F (∀ x ∈ refunds, F.refunds x.id = true) fun _ => True := by
  induction refunds with
  | nil => exact .pure fun _ => trivial
  | cons r rest ih =>
    apply Action.Agrees.andThen
      ((Payments.recordRefund_within paymentId r).when fun known => known r List.mem_cons_self)
    intro _
    exact ih.when fun known x hx => known x (List.mem_cons_of_mem r hx)

theorem refundOrder_within (orderId : Uuid) :
    (refundOrder orderId).Within F (F.orders orderId = true) fun _ => True := by
  apply Action.Agrees.andThen Orders.status_within
  intro status
  apply Action.Agrees.ite
  · exact .andThen ((Orders.move_within _ _).when And.left) fun _ => .pure fun _ => trivial
  · exact .pure fun _ => trivial

theorem refund_within (r : RefundReport) : (refund r).Within F (F.Covers (.refund r)) fun _ => True := by
  unfold refund
  split
  · next intent named =>
    apply Action.Agrees.transaction
    apply Action.Agrees.bind ((Payments.byIntent_within intent).when fun covers =>
      covers.intent _ (by simp [Notification.intent, named]))
    rintro (_ | payment)
    · exact .pure fun _ => trivial
    · apply Action.Agrees.andThen ((recordRefunds_within _ _).when fun known x hx =>
        known.1.refunds x.id (List.mem_map_of_mem hx))
      intro _
      apply Action.Agrees.ite _ (.pure fun _ => trivial)
      apply Action.Agrees.andThen
        ((Payments.setStatus_within _ _).when fun known => (known.1.2 payment rfl).1)
      intro _
      cases owner : payment.orderId with
      | none => exact .pure fun _ => trivial
      | some orderId =>
        exact (refundOrder_within orderId).when fun known => (known.1.2 payment rfl).2.order orderId owner
  · exact .pure fun _ => trivial

theorem dispute_within (d : Dispute) : (dispute d).Within F (F.Covers (.dispute d)) fun _ => True := by
  unfold dispute
  split
  · next intent named =>
    apply Action.Agrees.transaction
    apply Action.Agrees.bind ((Payments.byIntent_within intent).when fun covers =>
      covers.intent _ (by simp [Notification.intent, named]))
    rintro (_ | payment)
    · exact .pure fun _ => trivial
    · exact (Payments.recordDispute_within _ _).when fun known => known.1.dispute _ rfl
  · exact .pure fun _ => trivial

end Reversal

/-! ## Deliveries -/

namespace Delivery

theorem handle_agrees (n : Notification) :
    (handle F.queue n).Agrees F (F.Covers n) (handle F.queue' n) fun _ => True := by
  cases n with
  | checkout c =>
    apply Action.Agrees.bind (Checkout.carryOut_within c)
    intro tasks
    exact .andThen ((CommittedJob.submitAll_agrees tasks).when And.right) fun _ => .pure fun _ => trivial
  | paymentFailed intent => exact .andThen (Reversal.failPayment_within intent) fun _ => .pure fun _ => trivial
  | refund r => exact .andThen (Reversal.refund_within r) fun _ => .pure fun _ => trivial
  | dispute d => exact .andThen (Reversal.dispute_within d) fun _ => .pure fun _ => trivial
  | unhandled => exact .pure fun _ => trivial

theorem conclude_within (e : GatewayEvent) (row : Uuid) (result : Except Failure DeliveryOutcome) :
    (conclude e row result).Within F (F.events row = true) fun _ => True := by
  cases result with
  | ok outcome => exact .andThen (Ledger.mark_within _ _ _) fun _ => .pure fun _ => trivial
  | error failure => exact .andThen (Ledger.mark_within _ _ _).attempt fun _ => .throw _

/-- **A delivery stays within the purchase that its event is about**, and does the same there whatever the
other rows are. -/
theorem process_agrees (e : GatewayEvent) : (process F.queue e).Agrees F
    (e.id.text = F.eventId ∧ ∀ n, e.parse = .ok n → F.Covers n) (process F.queue' e) fun _ => True := by
  apply Action.Agrees.bind (.ofExcept _)
  intro n
  apply Action.Agrees.bind (Ledger.claim_within.when fun known => known.1.1)
  rintro (_ | row)
  · exact .pure fun _ => trivial
  · apply Action.Agrees.andThen ((handle_agrees n).when fun known => known.1.1.2 n known.1.2).attempt
    intro result
    exact (conclude_within e row result).when fun known => known.2 row rfl

end Delivery

end HostingBilling
