import HostingBilling.Delivery
import HostingBilling.Proofs.Runs
import HostingBilling.Reprovision
import HostingBilling.Worker

/-!
# Which tables a step writes

A relation between stores that holds along statements on some tables is kept by every step that writes no
other table. One lemma for each step of a checkout says which tables those are; what a step leaves alone
follows by choosing the relation.
-/

namespace HostingBilling

variable {R : Store → Store → Prop} (chain : Chain R)

namespace Orders

include chain

/-- An order is moved along an edge, or not at all. -/
theorem move_keeps {source target : OrderStatus} (id : Uuid)
    (moves : source.canBecome target = true → ∀ now s, R s (s.moveOrder now id source target).2) :
    (move id source target).Keeps R := by
  unfold move OrderStatus.become
  split
  · next edge =>
    change (pure target >>= fun target => change _ _ : Action Bool).Keeps _
    rw [pure_bind]
    exact chain.change _ fun now s => moves edge now s
  · exact chain.throw _

theorem takeBack_keeps (id : Uuid) (reverts : ∀ now s, R s (s.revertOrder now id .paid).2) :
    (takeBack id).Keeps R := by
  change (pure OrderStatus.paid >>= fun target => change _ _ : Action Bool).Keeps _
  rw [pure_bind]
  exact chain.change _ reverts

end Orders

/-! ## Invoices and payments -/

theorem Store.rows_insertInvoice {r : InvoiceRow} {s s' : Store}
    (h : s.insertInvoice r = .ok ((), s')) : ∃ rows, s' = { s with invoices := rows } := by
  unfold insertInvoice at h
  split at h
  · cases h
    exact ⟨_, rfl⟩
  · cases h

theorem Store.rows_insertInitial {r : InvoiceRow} {s s' : Store} {created : Bool}
    (h : s.insertInitial r = .ok (created, s')) : ∃ rows, s' = { s with invoices := rows } := by
  unfold insertInitial at h
  split at h
  · cases h
    exact ⟨_, rfl⟩
  · cases inserted : s.insertInvoice r with
    | error e => simp [inserted, bind, Except.bind] at h
    | ok x =>
      simp only [inserted, bind, Except.bind] at h
      cases h
      exact rows_insertInvoice inserted

namespace Invoices

variable (invoices : ∀ s rows, R s { s with invoices := rows })
  (lines : ∀ s rows, R s { s with invoiceLines := rows })

include chain

section lines

include lines

theorem insertLine_keeps (id : Uuid) (text : String) (quantity unit amount : Int) :
    (insertLine id text quantity unit amount).Keeps R :=
  chain.bind chain.freshId fun _ => chain.change _ fun _ s => lines s _

theorem insertLines_keeps (id : Uuid) (priced : List PricedItem) : (insertLines id priced).Keeps R := by
  induction priced with
  | nil => exact chain.pure _
  | cons p rest ih => exact chain.bind (insertLine_keeps chain lines _ _ _ _ _) fun _ => ih

end lines

include invoices lines

theorem ensureInitial_keeps (order : OrderRow) (items : List ItemRow) :
    (ensureInitial order items).Keeps R := by
  refine chain.bind (chain.ofExcept _) fun priced => chain.bind (chain.ofExcept _) fun total =>
    chain.bind chain.now fun now => chain.bind chain.freshId fun id => ?_
  apply chain.bind
  · apply chain.execute
    intro _ s created s' inserted
    obtain ⟨rows, rfl⟩ := Store.rows_insertInitial inserted
    exact invoices s rows
  · intro created
    split
    · exact chain.bind (insertLines_keeps chain lines _ _) fun _ => chain.pure _
    · apply chain.execute
      intro _ s a s' found
      split at found
      · cases found
        exact chain.refl s
      · cases found

theorem issueRenewal_keeps (r : Renewal) : (issueRenewal r).Keeps R := by
  refine chain.bind (chain.ofExcept _) fun _ => chain.bind chain.now fun _ =>
    chain.bind chain.freshId fun _ => ?_
  apply chain.bind
  · apply chain.execute
    intro _ s _ s' inserted
    obtain ⟨rows, rfl⟩ := Store.rows_insertInvoice inserted
    exact invoices s rows
  · intro _
    exact chain.bind (insertLine_keeps chain lines _ _ _ _ _) fun _ => chain.pure _

end Invoices

namespace Payments

include chain

theorem ofCheckout_keeps (p : SettledPayment) : (ofCheckout p).Keeps R := by
  unfold ofCheckout
  cases p.intent with
  | none =>
    apply chain.bind (chain.pure _)
    intro found
    cases found
    · exact chain.ask _ _
    · exact chain.pure _
  | some intent =>
    apply chain.bind (chain.ask _ _)
    intro found
    cases found
    · exact chain.ask _ _
    · exact chain.pure _

theorem record_keeps (payments : ∀ s rows, R s { s with payments := rows }) (p : SettledPayment) :
    (record p).Keeps R := by
  have checked {s s' : Store} {check : Except DatabaseFailure Unit} {rows : List PaymentRow}
      (h : (do check; return ((), { s with payments := rows })) = Except.ok ((), s')) : R s s' := by
    cases check with
    | error e => cases h
    | ok _ =>
      cases h
      exact payments s rows
  apply chain.bind (ofCheckout_keeps chain p)
  rintro (_ | r)
  · apply chain.bind chain.freshId
    intro id
    exact chain.bind (chain.execute _ fun _ _ _ _ h => checked h) fun _ => chain.pure _
  · apply Action.Keeps.ite (chain.pure _)
    exact chain.bind (chain.execute _ fun _ _ _ _ h => checked h) fun _ => chain.pure _

theorem recordDispute_keeps (disputes : ∀ s rows, R s { s with disputes := rows }) (id : Uuid) (x : Dispute) :
    (recordDispute id x).Keeps R := by
  apply chain.bind chain.freshId
  intro rowId
  apply chain.change
  intro now s
  dsimp only [Store.recordDispute]
  split <;> exact disputes _ _

end Payments

theorem Reversal.dispute_keeps (chain : Chain R) (disputes : ∀ s rows, R s { s with disputes := rows })
    (d : Dispute) : (dispute d).Keeps R := by
  unfold dispute
  split
  · apply chain.transaction
    apply chain.bind (chain.ask _ _)
    rintro (_ | payment)
    · exact chain.pure _
    · exact Payments.recordDispute_keeps chain disputes _ _
  · exact chain.pure _

/-! ## The ledger -/

section ledger

variable (events : ∀ s rows, R s { s with events := rows })

include chain events

theorem Ledger.claim_keeps (e : GatewayEvent) : (claim e).Keeps R := by
  apply chain.bind chain.freshId
  intro id
  apply chain.bind (chain.change _ fun _ s => events s _)
  intro claimed
  dsimp only
  split
  · exact chain.bind (chain.change _ fun _ s => events s _) fun _ => chain.pure _
  · exact chain.pure _

theorem Delivery.conclude_keeps (e : GatewayEvent) (row : Uuid) (result : Except Failure DeliveryOutcome) :
    (conclude e row result).Keeps R := by
  cases result with
  | ok outcome => exact chain.bind (chain.change _ fun _ s => events s _) fun _ => chain.pure _
  | error failure =>
    have recorded : (Ledger.recordError row failure.message).Keeps R := chain.change _ fun _ s => events s _
    exact chain.bind recorded.attempt fun _ => chain.throw _

end ledger

/-! ## Services and jobs -/

section prepare

include chain

theorem Jobs.create_keeps (jobs : ∀ s rows, R s { s with jobs := rows }) (serviceId : Uuid) (kind : JobKind) :
    (create serviceId kind).Keeps R := by
  apply chain.bind chain.freshId
  intro id
  apply chain.change
  intro now s
  unfold Store.createJob
  split
  · exact chain.refl s
  · exact jobs s _

theorem Services.start_keeps (services : ∀ s rows, R s { s with services := rows }) (id : Uuid) :
    (start id).Keeps R := chain.change _ fun _ s => services s _

theorem Services.ensure_keeps (services : ∀ s rows, R s { s with services := rows }) (userId : Uuid)
    (item : ItemRow) (expiresAt : Instant) : (ensure userId item expiresAt).Keeps R := by
  apply chain.bind chain.freshId
  intro id
  apply chain.bind
  · apply chain.change
    intro now s
    unfold Store.insertService
    split
    · exact chain.refl s
    · exact services s _
  · intro _
    apply chain.execute
    intro _ s r s' found
    split at found
    · cases found
      exact chain.refl s
    · cases found

variable (services : ∀ s rows, R s { s with services := rows }) (jobs : ∀ s rows, R s { s with jobs := rows })

include services jobs

theorem Checkout.prepareItem_keeps (order : OrderRow) (item : ItemRow) :
    (prepareItem order item).Keeps R := by
  apply chain.bind chain.now
  intro now
  apply chain.bind (Services.ensure_keeps chain services _ _ _)
  intro service
  apply Action.Keeps.ite (chain.pure _)
  apply chain.bind (Services.start_keeps chain services _)
  intro _
  apply chain.bind (Jobs.create_keeps chain jobs _ _)
  rintro (_ | jobId) <;> exact chain.pure _

theorem Checkout.prepareItems_keeps (order : OrderRow) (items : List ItemRow) :
    (prepareItems order items).Keeps R := by
  induction items with
  | nil => exact chain.pure _
  | cons item rest ih =>
    apply chain.bind (prepareItem_keeps chain services jobs order item)
    intro task
    exact chain.bind ih fun _ => chain.pure _

end prepare

/-! ## Submissions -/

namespace TaskQueue

include chain

theorem enqueue_keeps (tasks : ∀ s rows, R s { s with tasks := rows }) (t : TaskDraft) :
    (enqueue t).Keeps R := by
  have inserts : (insert t).Keeps R := chain.bind chain.freshId fun _ => chain.change _ fun _ s => tasks s _
  apply chain.bind inserts.attempt
  rintro (_ | _)
  · exact chain.throw _
  · exact chain.pure _

theorem receive_keeps (tasks : ∀ s rows, R s { s with tasks := rows }) (durable : Bool)
    (refusal : Option Failure) (t : TaskDraft) : (receive durable refusal t).Keeps R := by
  cases refusal with
  | some e => exact chain.throw e
  | none => exact Action.Keeps.ite (enqueue_keeps chain tasks t) chain.freshId

theorem submit_keeps (tasks : ∀ s rows, R s { s with tasks := rows }) (o : Outside) (t : TaskDraft) :
    (submit o t).Keeps R := by
  intro w
  have offered : Follows R w { w with offered := w.offered ++ [t] } :=
    ⟨rfl, Nat.le_refl _, fun _ spared => spared, chain.refl _⟩
  rw [submit_run]
  exact chain.follows_trans offered (receive_keeps chain tasks _ _ _ _)

end TaskQueue

namespace CommittedJob

include chain

theorem stepError_keeps {step : Action Bool} (h : step.Keeps R) (label : String) (id : Uuid) :
    (stepError label id step).Keeps R := by
  apply chain.bind h.attempt
  rintro (_ | _) <;> exact chain.pure _

theorem failJobStep_keeps (jobs : ∀ s rows, R s { s with jobs := rows }) (t : CommittedJob)
    (reason : String) : (t.failJobStep reason).Keeps R :=
  stepError_keeps chain (chain.change _ fun _ s => jobs s _) _ _

theorem revertServiceStep_keeps (services : ∀ s rows, R s { s with services := rows }) (t : CommittedJob) :
    t.revertServiceStep.Keeps R := stepError_keeps chain (chain.change _ fun _ s => services s _) _ _

variable (jobs : ∀ s rows, R s { s with jobs := rows }) (services : ∀ s rows, R s { s with services := rows })
  (orders : ∀ now id s, R s (s.revertOrder now id .paid).2)

include jobs services orders

theorem retract_keeps (t : CommittedJob) (reason : String) : (t.retract reason).Keeps R := by
  apply chain.bind (failJobStep_keeps chain jobs t reason)
  intro _
  apply chain.bind (revertServiceStep_keeps chain services t)
  intro _
  apply chain.bind (stepError_keeps chain (Orders.takeBack_keeps chain _ fun now s => orders now _ s) _ _)
  intro _
  exact chain.pure _

variable (tasks : ∀ s rows, R s { s with tasks := rows })

include tasks

theorem submit_keeps (o : Outside) (t : CommittedJob) : (t.submit o).Keeps R := by
  apply chain.bind (TaskQueue.submit_keeps chain tasks o _).attempt
  rintro (e | _)
  · exact chain.bind (retract_keeps chain jobs services orders t _) fun _ => chain.pure _
  · exact chain.pure _

theorem submitEach_keeps (o : Outside) (jobsDue : List CommittedJob) : (submitEach o jobsDue).Keeps R := by
  induction jobsDue with
  | nil => exact chain.pure _
  | cons t rest ih =>
    apply chain.bind (submit_keeps chain jobs services orders tasks o t)
    intro _
    exact chain.bind ih fun _ => chain.pure _

theorem submitAll_keeps (o : Outside) (jobsDue : List CommittedJob) : (submitAll o jobsDue).Keeps R := by
  apply chain.bind (submitEach_keeps chain jobs services orders tasks o jobsDue)
  intro result
  exact Action.Keeps.ite (chain.pure _) (chain.throw _)

end CommittedJob

/-! ## Lifecycle and renewals -/

/-- A relation that holds along the statements of sweeps and of the requests for one service. -/
structure Store.Tends (R : Store → Store → Prop) : Prop extends Chain R where
  suspends : ∀ now id reason s, R s (s.suspendService now id reason).2
  terminates : ∀ now id s, R s (s.terminateService now id).2
  expires : ∀ now id s, R s (s.expireService now id).2
  audits : ∀ s rows, R s { s with audits := rows }
  invoices : ∀ s rows, R s { s with invoices := rows }
  lines : ∀ s rows, R s { s with invoiceLines := rows }

include chain in
theorem Services.require_keeps (id : Uuid) : (require id).Keeps R := by
  apply chain.bind (chain.ask _ _)
  rintro (_ | d)
  · exact chain.throw _
  · exact chain.pure _

include chain in
theorem TaskQueue.withLease_keeps {α : Type} (name : String) (skipped : α) {sweep : Action α}
    (h : sweep.Keeps R) : (withLease name skipped sweep).Keeps R := by
  apply chain.bind (chain.ask _ _)
  intro _ w
  change Follows R w ((if w.leases.contains name then pure skipped else sweep : Action α).run w).2
  exact Action.Keeps.ite (chain.pure _) h w

namespace Lifecycle

variable (h : Store.Tends R)

include h

theorem suspend_keeps (p : SuspendPayload) : (suspend p).Keeps R := by
  apply h.bind (h.change _ fun now s => h.suspends now _ _ s)
  intro changed
  apply Action.Keeps.ite (h.pure _)
  exact h.bind (Services.require_keeps h.toChain _) fun _ => h.pure _

theorem terminate_keeps (p : TerminatePayload) : (terminate p).Keeps R := by
  apply h.bind (h.change _ fun now s => h.terminates now _ s)
  intro changed
  exact Action.Keeps.ite (h.pure _) (h.throw _)

theorem expireEach_keeps (report : ExpiryReport) (ids : List Uuid) : (expireEach report ids).Keeps R := by
  induction ids generalizing report with
  | nil => exact h.pure _
  | cons id rest ih =>
    have expired : (Services.expire id).Keeps R := h.change _ fun now s => h.expires now _ s
    exact h.bind expired.attempt fun _ => ih _

theorem expire_keeps (p : ExpirePayload) : (expire p).Keeps R := by
  unfold expire
  split
  · apply h.bind (Services.require_keeps h.toChain _)
    intro _
    exact h.bind (h.change _ fun now s => h.expires now _ s) fun _ => h.pure _
  · exact TaskQueue.withLease_keeps h.toChain _ _
      (h.bind (h.ask _ _) fun _ => expireEach_keeps h _ _)

end Lifecycle

namespace Renewal

variable (h : Store.Tends R)

include h

theorem insertAudit_keeps (e : AuditEntry) : (Audits.insert e).Keeps R :=
  h.bind h.freshId fun _ => h.change _ fun _ s => h.audits s _

theorem deliver_keeps (o : Outside) (notice : Reminder) : (deliver o notice).Keeps R := by
  intro w
  unfold deliver
  rw [Action.run_bind_of_ok (show (get : Action World).run w = (.ok w, w) from rfl)]
  cases w.settings.webhookUrl with
  | none => exact h.follows_refl w
  | some url => exact ⟨rfl, Nat.le_refl _, fun _ spared => spared, h.refl _⟩

theorem send_keeps (o : Outside) (serviceId userId : Uuid) (daysLeft : Int) :
    (send o serviceId userId daysLeft).Keeps R := by
  apply h.bind h.now
  intro now
  apply h.bind (deliver_keeps h o _)
  intro sending
  apply h.bind (insertAudit_keeps h _)
  intro _
  split
  · exact h.throw _
  · exact h.pure _

theorem remindService_keeps (o : Outside) (r : ServiceRow) (daysLeft : Int) (report : Report) :
    (remindService o r daysLeft report).Keeps R := by
  apply h.bind (Action.Keeps.attempt (h.ask _ _))
  intro reminded
  split
  · exact h.pure _
  · exact h.pure _
  · apply h.bind (send_keeps h o _ _ _).attempt
    intro sent
    split <;> exact h.pure _

theorem remindEach_keeps (o : Outside) (report : Report) (rows : List ServiceRow) :
    (remindEach o report rows).Keeps R := by
  induction rows generalizing report with
  | nil => exact h.pure _
  | cons r rest ih =>
    apply h.bind h.now
    intro now
    apply Action.Keeps.ite (ih report)
    apply h.bind (remindService_keeps h o r _ report)
    intro one
    exact h.bind (ih _) fun _ => h.pure _

theorem remind_keeps (o : Outside) (p : ReminderPayload) : (remind o p).Keeps R := by
  unfold remind
  split
  · apply h.bind (Services.require_keeps h.toChain _)
    intro service
    apply h.bind h.now
    intro now
    exact h.bind (send_keeps h o _ _ _) fun _ => h.pure _
  · apply TaskQueue.withLease_keeps h.toChain
    apply h.bind (h.ask _ _)
    intro rows
    apply h.bind (remindEach_keeps h o _ _)
    intro report
    exact Action.Keeps.ite (h.pure _) (h.throw _)

theorem invoice_keeps (p : InvoicePayload) : (invoice p).Keeps R :=
  h.bind (Services.require_keeps h.toChain _) fun _ => h.bind h.now fun _ =>
    h.transaction (Invoices.issueRenewal_keeps h.toChain h.invoices h.lines _)

end Renewal

/-! ## Handlers -/

/-- A relation that holds along the statements of handlers: an order takes an edge of its life to paid or
past it, and the other tables of the work are written freely. Handlers leave the task table alone. -/
structure Store.Handles (R : Store → Store → Prop) : Prop extends Chain R where
  moves : ∀ {source target : OrderStatus}, source.canBecome target = true → target.isSettled = true →
    ∀ now id s, R s (s.moveOrder now id source target).2
  services : ∀ s rows, R s { s with services := rows }
  jobs : ∀ s rows, R s { s with jobs := rows }
  audits : ∀ s rows, R s { s with audits := rows }
  invoices : ∀ s rows, R s { s with invoices := rows }
  lines : ∀ s rows, R s { s with invoiceLines := rows }

theorem Store.Handles.tends (h : Store.Handles R) : Store.Tends R where
  toChain := h.toChain
  suspends _ _ _ s := h.services s _
  terminates _ _ s := h.services s _
  expires _ _ s := h.services s _
  audits := h.audits
  invoices := h.invoices
  lines := h.lines

section attempts

variable (chain : Chain R)

include chain

theorem Jobs.start_keeps (jobs : ∀ s rows, R s { s with jobs := rows }) (id : Uuid) : (start id).Keeps R := by
  apply chain.execute
  intro now s _ s' found
  unfold Store.startJob at found
  split at found
  · cases found
  · cases found
    exact jobs s _

/-- A request keeps what an attempt on the job of its service keeps. -/
theorem Provisioning.provision_keeps {o : Outside}
    (attempts : ∀ service job, (attempt o service job).Keeps R) (p : ProvisionPayload) :
    (provision o p).Keeps R := by
  apply chain.bind (Services.require_keeps chain _)
  intro service
  apply chain.bind (chain.ask _ _)
  intro job
  apply Action.Keeps.ite (chain.pure _)
  cases job with
  | none => exact Action.Keeps.ite (chain.bind (chain.throw _) fun _ => chain.throw _) (chain.throw _)
  | some job =>
    have attempted := chain.bind (attempts service job) fun machine =>
      chain.pure (ProvisionOutcome.activated machine)
    exact Action.Keeps.ite (chain.bind (chain.throw _) fun _ => attempted) attempted

end attempts

section handlers

variable (h : Store.Handles R)

include h

theorem Orders.move_handles (id : Uuid) (source : OrderStatus) {target : OrderStatus}
    (settled : target.isSettled = true) : (move id source target).Keeps R :=
  move_keeps h.toChain id fun edge now s => h.moves edge settled now id s

namespace Provisioning

theorem finish_handles (service : ServiceView) (job : JobRow) (machine : Machine) :
    (finish service job machine).Keeps R := by
  apply h.bind (h.change _ fun _ s => h.services s _)
  intro _
  apply h.bind (h.change _ fun _ s => h.jobs s _)
  intro _
  apply h.bind (h.ask _ _)
  intro status
  apply Action.Keeps.ite _ (h.pure _)
  exact h.bind (Orders.move_handles h _ _ rfl) fun _ => h.pure _

theorem attempt_handles (o : Outside) (service : ServiceView) (job : JobRow) :
    (attempt o service job).Keeps R := by
  apply h.bind (Jobs.start_keeps h.toChain h.jobs job.id)
  intro _
  split
  · exact h.bind (h.change _ fun _ s => h.jobs s _) fun _ => h.throw _
  · exact h.bind (h.transaction (finish_handles h _ _ _)) fun _ => h.pure _

theorem provision_handles (o : Outside) (p : ProvisionPayload) : (provision o p).Keeps R :=
  provision_keeps h.toChain (attempt_handles h o) p

end Provisioning

theorem Worker.handle_keeps (o : Outside) (kind : TaskKind) (payload : Json) :
    (handle o kind payload).Keeps R := by
  apply h.bind (h.ofExcept _)
  intro task
  cases task with
  | provision p => exact h.bind (Provisioning.provision_handles h o p) fun _ => h.pure _
  | suspend p => exact Lifecycle.suspend_keeps h.tends p
  | terminate p => exact Lifecycle.terminate_keeps h.tends p
  | expire p => exact h.bind (Lifecycle.expire_keeps h.tends p) fun _ => h.pure _
  | reminder p => exact h.bind (Renewal.remind_keeps h.tends o p) fun _ => h.pure _
  | invoice p => exact h.bind (Renewal.invoice_keeps h.tends p) fun _ => h.pure _

end handlers

theorem Store.sameTasks : Store.Handles fun a b => b.tasks = a.tasks where
  refl _ := rfl
  trans hab hbc := hbc.trans hab
  moves _ _ _ _ _ := rfl
  services _ _ := rfl
  jobs _ _ := rfl
  audits _ _ := rfl
  invoices _ _ := rfl
  lines _ _ := rfl

/-! ## Whole operations -/

/-- A relation that holds along the statements that serve orders forward. -/
structure Store.Serves (R : Store → Store → Prop) : Prop extends Store.Handles R where
  tasks : ∀ s rows, R s { s with tasks := rows }

theorem Store.Serves.all : Store.Serves fun _ _ => True where
  toChain := Chain.all
  moves _ _ _ _ _ := trivial
  services _ _ := trivial
  jobs _ _ := trivial
  tasks _ _ := trivial
  audits _ _ := trivial
  invoices _ _ := trivial
  lines _ _ := trivial

variable (h : Store.Serves R)

include h

namespace Checkout

theorem settleOrder_serves (order : OrderRow) : (settleOrder order).Keeps R :=
  Action.Keeps.ite (h.pure _) (h.bind (Orders.move_handles h.toHandles _ _ rfl) fun _ => h.pure _)

theorem settle_serves (payments : ∀ s rows, R s { s with payments := rows }) (c : Checkout) (orderId : Uuid) :
    (c.settle orderId).Keeps R := by
  apply h.bind (h.ask _ _)
  rintro (_ | order)
  · exact h.throw _
  · apply h.bind (settleOrder_serves h order)
    intro status
    apply h.bind (h.ask _ _)
    intro items
    apply h.bind (Invoices.ensureInitial_keeps h.toChain h.invoices h.lines order items)
    intro invoiceId
    apply h.bind (Payments.record_keeps h.toChain payments _)
    intro _
    apply h.bind (prepareItems_keeps h.toChain h.services h.jobs order items)
    intro created
    apply Action.Keeps.ite _ (h.pure _)
    exact h.bind (Orders.move_handles h.toHandles _ _ rfl) fun _ => h.pure _

theorem carryOut_serves (payments : ∀ s rows, R s { s with payments := rows }) (c : Checkout) :
    c.carryOut.Keeps R :=
  h.bind (h.ofExcept _) fun orderId => h.transaction (settle_serves h payments c orderId)

end Checkout

theorem Reprovision.prepare_serves (detail : ServiceView) : (prepare detail).Keeps R := by
  apply h.bind (h.ask _ _)
  rintro (_ | order)
  · exact h.throw _
  · apply h.bind (h.ask _ _)
    rintro (_ | status)
    · exact h.throw _
    · apply h.bind (h.ofExcept _)
      intro _
      apply h.bind (Jobs.create_keeps h.toChain h.jobs _ _)
      rintro (_ | jobId)
      · exact h.throw _
      · apply h.bind (Services.start_keeps h.toChain h.services _)
        intro _
        apply Action.Keeps.ite _ (h.pure _)
        exact h.bind (Orders.move_handles h.toHandles _ _ rfl) fun _ => h.pure _

theorem Reprovision.service_serves (reverts : ∀ now id s, R s (s.revertOrder now id .paid).2) (o : Outside)
    (id : Uuid) : (service o id).Keeps R := by
  apply h.bind (Services.require_keeps h.toChain id)
  intro detail
  apply h.bind (h.transaction (prepare_serves h detail))
  intro task
  apply h.bind (CommittedJob.submitAll_keeps h.toChain h.jobs h.services reverts h.tasks o [task])
  intro _
  exact h.pure _

namespace Worker

theorem record_serves (id : Uuid) (result : Except Failure Unit) : (record id result).Keeps R := by
  cases result with
  | ok _ => exact h.change _ fun _ s => h.tasks s _
  | error e =>
    apply Action.Keeps.ite
    · exact h.change _ fun _ s => h.tasks s _
    · apply h.execute
      intro now s _ s' found
      cases rows : TaskQueue.failRow now id e.message s.tasks with
      | error failure => simp [rows, bind, Except.bind] at found
      | ok tasks =>
        simp only [rows, bind, Except.bind, pure, Except.pure] at found
        cases found
        exact h.tasks s _

theorem pollQueues_serves (o : Outside) (queues : List QueueName) : (pollQueues o queues).Keeps R := by
  induction queues with
  | nil => exact h.pure _
  | cons q rest ih =>
    apply h.bind (h.transaction (h.change _ fun _ s => h.tasks s _))
    rintro (_ | t)
    · exact ih
    · have handled : (do handle o (← Action.ofExcept (TaskKind.ofName t.kind)) t.payload : Action Unit).Keeps
          R := h.bind (h.ofExcept _) fun kind => handle_keeps h.toHandles o kind t.payload
      exact h.bind (h.bind handled.attempt fun _ => record_serves h _ _) fun _ => h.pure _

theorem reap_serves (w : World) : Follows R w (reap w) :=
  h.change .reapTasks (fun _ s => h.tasks s _) w

end Worker

end HostingBilling
