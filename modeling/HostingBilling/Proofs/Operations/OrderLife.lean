import HostingBilling.Proofs.Ledger.Deliveries
import HostingBilling.Proofs.Operations.Moves
import Mathlib.Logic.Relation

/-!
# The life of an order

Five places move orders, two of them along two edges within one operation, and one takes an order back.
Main statement: in every run, from any store and with any faults, the part of an operation up to the
commit of its jobs takes an order along edges of its life; the submission of those jobs leaves it there or
takes it back from provisioning to paid, which only the compensation of a refused job does, at a moment
when every job of the order has failed; and an order that is active, cancelled or refunded stays so.
-/

namespace HostingBilling

open Store (Apart Declines)

namespace OrderStatus

/-- A path of edges of an order's life. -/
def Leads : OrderStatus → OrderStatus → Prop := Relation.ReflTransGen fun a b => a.canBecome b = true

theorem isTerminal_iff {s : OrderStatus} :
    s.isTerminal = true ↔ s = .active ∨ s = .cancelled ∨ s = .refunded := by
  cases s <;> decide

/-- No edge leaves a terminal status. -/
theorem not_canBecome {s : OrderStatus} (terminal : s.isTerminal = true) (t : OrderStatus) :
    s.canBecome t = false := by
  rcases isTerminal_iff.mp terminal with rfl | rfl | rfl <;> cases t <;> rfl

/-- No path leaves a terminal status. -/
theorem Leads.of_terminal {a b : OrderStatus} (h : a.Leads b) (terminal : a.isTerminal = true) : b = a := by
  rcases h.cases_head with same | ⟨c, edge, -⟩
  · exact same.symm
  · rw [not_canBecome terminal c] at edge
    cases edge

end OrderStatus

/-- The same order later on, further along its life. -/
structure OrderRow.Advances (a b : OrderRow) : Prop where
  id : b.id = a.id
  path : a.status.Leads b.status

/-- The same order later on, where it was or, for a reason, back from provisioning in paid. -/
structure OrderRow.Returns (reason : Uuid → Prop) (a b : OrderRow) : Prop where
  id : b.id = a.id
  status : b.status = a.status ∨ a.status = .provisioning ∧ b.status = .paid ∧ reason a.id

/-- Statements that take orders along the edges of their life, if they move them at all. -/
def Store.Advances (a b : Store) : Prop := List.Forall₂ OrderRow.Advances a.orders b.orders

theorem OrderRow.Advances.refl (r : OrderRow) : r.Advances r := ⟨rfl, .refl⟩

theorem OrderRow.Advances.trans {a b c : OrderRow} (hab : a.Advances b) (hbc : b.Advances c) :
    a.Advances c := ⟨hbc.id.trans hab.id, hab.path.trans hbc.path⟩

/-- A refund takes one edge. -/
theorem OrderRow.Stays.advances {a b : OrderRow} (h : a.Stays b) : a.Advances b := by
  rcases h with rfl | ⟨paid, now, rfl⟩
  · exact .refl b
  · constructor
    · rfl
    · apply Relation.ReflTransGen.single
      rw [paid]
      rfl

namespace OrderRow.Returns

variable {reason : Uuid → Prop} {a b c : OrderRow}

theorem refl (reason : Uuid → Prop) (r : OrderRow) : r.Returns reason r := ⟨rfl, .inl rfl⟩

theorem imp {reason' : Uuid → Prop} (h : a.Returns reason b) (weaker : ∀ id, reason id → reason' id) :
    a.Returns reason' b :=
  ⟨h.id, h.status.imp_right fun ⟨before, after, why⟩ => ⟨before, after, weaker _ why⟩⟩

/-- The edge is taken once: an order that is back in paid stays there. -/
theorem trans (hab : a.Returns reason b) (hbc : b.Returns reason c) : a.Returns reason c := by
  constructor
  · exact hbc.id.trans hab.id
  · rcases hbc.status with same | ⟨before, after, why⟩
    · rw [same]
      exact hab.status
    · rcases hab.status with same | ⟨-, paid, -⟩
      · exact .inr ⟨same.symm.trans before, after, hab.id ▸ why⟩
      · cases paid.symm.trans before

end OrderRow.Returns

namespace Store.Advances

theorem of_eq {a b : Store} (same : b.orders = a.orders) : a.Advances b := by
  unfold Store.Advances
  rw [same]
  exact List.forall₂_same.mpr fun r _ => .refl r

theorem chain : Chain Store.Advances where
  refl _ := of_eq rfl
  trans := forall₂_trans fun h k => h.trans k

end Store.Advances

theorem Store.Apart.advances {a b : Store} (h : a.Apart b) : a.Advances b := .of_eq h.orders

theorem Store.Declines.advances {a b : Store} (h : a.Declines b) : a.Advances b :=
  h.orders.imp fun _ _ stays => stays.advances

private abbrev advances : Chain Store.Advances := Store.Advances.chain

/-- Orders are moved along edges, and elsewhere there is nothing to see of them. -/
theorem Store.Advances.serves : Store.Serves Store.Advances where
  toChain := chain
  moves edge _ now id s := by
    apply forall₂_changeRows OrderRow.Advances.refl
    intro r _ selected
    simp only [Bool.and_eq_true, beq_iff_eq] at selected
    constructor
    · rfl
    · apply Relation.ReflTransGen.single
      rw [selected.2]
      exact edge
  services _ _ := .of_eq rfl
  jobs _ _ := .of_eq rfl
  tasks _ _ := .of_eq rfl
  audits _ _ := .of_eq rfl
  invoices _ _ := .of_eq rfl
  lines _ _ := .of_eq rfl

theorem Checkout.carryOut_advances (c : Checkout) : c.carryOut.Keeps Store.Advances :=
  carryOut_serves Store.Advances.serves (fun _ _ => .of_eq rfl) c

theorem Reprovision.prepare_advances (detail : ServiceView) :
    (transaction (prepare detail)).Keeps Store.Advances :=
  advances.transaction (prepare_serves Store.Advances.serves detail)

/-! ## What takes an order back -/

namespace CommittedJob

/-- The world in which only the order of a refused job is left to be taken back. -/
def unbuilt (t : CommittedJob) (reason : String) (w : World) : World :=
  ((do let _ ← t.failJobStep reason; t.revertServiceStep).run w).2

/-- Of the jobs that were committed in the world `v` one of this order was refused. When only the order was
left to be taken back it stood in provisioning, with every job of it failed, and then it was paid. -/
inductive Compensated (o : Outside) (tasks : List CommittedJob) (v : World) (orderId : Uuid) : Prop
  | intro {done rest : List CommittedJob} {t : CommittedJob} {failure : Failure} {w : World}
      (split : tasks = done ++ t :: rest) (own : t.orderId = orderId)
      (refused : (TaskQueue.submit o (TaskDraft.provision t.payload)).run ((submitEach o done).run v).2 =
        (.error failure, w))
      (stands : ∃ x ∈ (t.unbuilt failure.message w).store.orders,
        x.id = orderId ∧ x.status = .provisioning)
      (failed : ∀ j ∈ (t.unbuilt failure.message w).store.jobs,
        (t.unbuilt failure.message w).store.isServiceOf orderId j.serviceId = true → j.status = .failed)
      (taken : ∃ x ∈ (t.revertOrderStep.run (t.unbuilt failure.message w)).2.store.orders,
        x.id = orderId ∧ x.status = .paid)

variable {o : Outside} {t : CommittedJob} {w : World}

private theorem sameOrders : Chain fun a b : Store => b.orders = a.orders where
  refl _ := rfl
  trans hab hbc := hbc.trans hab

/-- The queue leaves the orders alone. -/
theorem orders_submit (o : Outside) (draft : TaskDraft) (w : World) :
    ((TaskQueue.submit o draft).run w).2.store.orders = w.store.orders :=
  (TaskQueue.submit_keeps sameOrders (fun _ _ => rfl) o draft w).store

theorem orders_unbuilt (t : CommittedJob) (reason : String) (w : World) :
    (t.unbuilt reason w).store.orders = w.store.orders :=
  (sameOrders.bind (failJobStep_keeps sameOrders (fun _ _ => rfl) t reason)
    (fun _ => revertServiceStep_keeps sameOrders (fun _ _ => rfl) t) w).store

/-- The order is taken back last. -/
theorem retract_world (t : CommittedJob) (reason : String) (w : World) :
    ((t.retract reason).run w).2 = (t.revertOrderStep.run (t.unbuilt reason w)).2 := by
  obtain ⟨first, w₁, ranFirst⟩ := stepError_total "job" t.jobId
    (Jobs.abandon t.jobId ("enqueue failed: " ++ reason)) w
  obtain ⟨second, w₂, ranSecond⟩ := stepError_total "service" t.serviceId (Services.takeBack t.serviceId) w₁
  have ranFirst : (t.failJobStep reason).run w = (.ok first, w₁) := ranFirst
  have ranSecond : t.revertServiceStep.run w₁ = (.ok second, w₂) := ranSecond
  have left : t.unbuilt reason w = w₂ := by
    rw [unbuilt, Action.run_bind_of_ok ranFirst, ranSecond]
  rw [retract, Action.run_bind_of_ok ranFirst, Action.run_bind_of_ok ranSecond, left]
  exact Action.run_answer _ _ w₂

/-- The order is left where it is, or it is taken back and no job of it is live or completed. -/
theorem revertOrderStep_cases (t : CommittedJob) (w : World) :
    (t.revertOrderStep.run w).2.store.orders = w.store.orders ∨
      w.store.hasWorkDone t.orderId = false ∧ (t.revertOrderStep.run w).2.store =
        (w.store.moveOrder w.now t.orderId .provisioning .paid).2 := by
  have ran : (t.revertOrderStep.run w).2 = ((change .revertOrder fun now s =>
      s.revertOrder now t.orderId .paid : Action Bool).run w).2 := by
    rw [revertOrderStep, stepError, Action.run_bind_of_ok (Action.run_attempt _ _)]
    cases ((Orders.takeBack t.orderId).run w).1 <;> rfl
  rw [ran]
  rcases Action.store_change .revertOrder (fun now s => s.revertOrder now t.orderId .paid) w with
    same | reverted
  · exact .inl (congrArg Store.orders same)
  · cases done : w.store.hasWorkDone t.orderId with
    | true =>
      left
      rw [reverted, Store.revertOrder, if_pos done]
    | false =>
      right
      rw [reverted, Store.revertOrder, if_neg (by simp [done])]
      exact ⟨rfl, rfl⟩

/-- Work that is not done has failed. -/
theorem failed_of_hasWorkDone {s : Store} {orderId : Uuid} (none_ : s.hasWorkDone orderId = false) :
    ∀ j ∈ s.jobs, s.isServiceOf orderId j.serviceId = true → j.status = .failed := by
  intro j hj own
  have idle := List.any_eq_false.mp none_ j hj
  cases status : j.status <;> simp [status, own, JobStatus.isLive] at idle
  rfl

/-- What becomes of one submission takes an order back at most. -/
theorem submit_returns (o : Outside) (t : CommittedJob) (rest : List CommittedJob) (w : World) :
    List.Forall₂ (OrderRow.Returns (Compensated o (t :: rest) w)) w.store.orders
      ((t.submit o).run w).2.store.orders := by
  have same {rows : List OrderRow} (is : rows = w.store.orders) :
      List.Forall₂ (OrderRow.Returns (Compensated o (t :: rest) w)) w.store.orders rows :=
    is ▸ List.forall₂_same.mpr fun r _ => .refl _ r
  have left := orders_submit o (TaskDraft.provision t.payload) w
  rw [submit, Action.run_bind_of_ok (Action.run_attempt _ _)]
  rcases ran : (TaskQueue.submit o (TaskDraft.provision t.payload)).run w with ⟨failure | id, w₁⟩
  · rw [ran] at left
    dsimp only
    rw [Action.run_answer, retract_world]
    have kept := (orders_unbuilt t failure.message w₁).trans left
    rcases revertOrderStep_cases t (t.unbuilt failure.message w₁) with stays | ⟨none_, moved⟩
    · exact same (stays.trans kept)
    · rw [moved, ← kept]
      apply forall₂_changeRows (.refl _)
      intro r hr selected
      have is := selected
      simp only [Bool.and_eq_true, beq_iff_eq] at is
      refine ⟨rfl, .inr ⟨is.2, rfl, ?_⟩⟩
      have split : t :: rest = [] ++ t :: rest := rfl
      refine .intro split is.1.symm ran ⟨r, hr, rfl, is.2⟩ ?_ ?_
      · rw [is.1]
        exact failed_of_hasWorkDone none_
      · rw [moved]
        exact ⟨_, mem_changeRows.mpr ⟨r, hr, rfl⟩, by rw [if_pos selected], by rw [if_pos selected]⟩
  · rw [ran] at left
    exact same left

theorem submitEach_cons (o : Outside) (t : CommittedJob) (rest : List CommittedJob) (w : World) :
    ((submitEach o (t :: rest)).run w).2 = ((submitEach o rest).run ((t.submit o).run w).2).2 := by
  obtain ⟨errors, w₁, ran⟩ := submit_total o t w
  rw [submitEach, Action.run_bind_of_ok ran, ran]
  exact Action.run_answer _ _ w₁

/-- Submitting jobs takes orders back at most, each by a compensation. -/
theorem submitEach_returns (o : Outside) (tasks : List CommittedJob) (w : World) :
    List.Forall₂ (OrderRow.Returns (Compensated o tasks w)) w.store.orders
      ((submitEach o tasks).run w).2.store.orders := by
  induction tasks generalizing w with
  | nil => exact List.forall₂_same.mpr fun r _ => .refl _ r
  | cons t rest ih =>
    have first := submit_returns o t rest w
    -- what befalls a later job, befalls it among all of them
    have later (id : Uuid) (h : Compensated o rest ((t.submit o).run w).2 id) :
        Compensated o (t :: rest) w id := by
      obtain ⟨split, own, refused, stands, failed, taken⟩ := h
      rw [split]
      refine .intro (List.cons_append ..).symm own ?_ stands failed taken
      rw [submitEach_cons]
      exact refused
    rw [submitEach_cons]
    exact forall₂_trans (fun hab hbc => hab.trans hbc) first
      ((ih _).imp fun _ _ h => h.imp later)

theorem submitAll_world (o : Outside) (tasks : List CommittedJob) (w : World) :
    ((submitAll o tasks).run w).2 = ((submitEach o tasks).run w).2 := by
  obtain ⟨⟨accepted, errors⟩, w₁, ran⟩ := submitEach_total o tasks w
  rw [submitAll, Action.run_bind_of_ok ran, ran]
  cases errors <;> rfl

end CommittedJob

/-! ## Whole operations -/

/-- In the world `v` an operation has committed jobs and is about to submit them to this queue: the checkout
of an event that it was given went through, or a job was prepared for a service. -/
inductive Operation.Commits : Operation → World → Outside → List CommittedJob → World → Prop
  | checkout {o : Outside} {e : GatewayEvent} {c : Checkout} {row : Uuid} {w w₁ v : World}
      {tasks : List CommittedJob} (told : e.parse = .ok (.checkout c))
      (claimed : (Ledger.claim e).run w = (.ok (some row), w₁))
      (carried : c.carryOut.run w₁ = (.ok tasks, v)) : Commits (.deliver o e) w o tasks v
  | job {o : Outside} {id : Uuid} {detail : ServiceView} {w w₁ v : World} {task : CommittedJob}
      (found : (Services.require id).run w = (.ok detail, w₁))
      (prepared : (transaction (Reprovision.prepare detail)).run w₁ = (.ok task, v)) :
      Commits (.reprovision o id) w o [task] v

/-- What an operation does to the orders. Up to the commit of its jobs, if it commits any, it takes them
along the edges of their life; after that it takes them back at most, by compensations. -/
structure Operation.Lives (op : Operation) (w : World) : Prop where
  forward : (∀ o tasks v, ¬ op.Commits w o tasks v) → w.store.Advances (op.run w).store
  back : ∀ o tasks v, op.Commits w o tasks v → w.store.Advances v.store ∧
    List.Forall₂ (OrderRow.Returns (CommittedJob.Compensated o tasks v)) v.store.orders
      (op.run w).store.orders

namespace Delivery

/-- What an event asks for takes orders forward, unless it is a checkout that goes through. -/
theorem handle_advances (o : Outside) {notification : Notification} {w : World}
    (other : ∀ c tasks v, notification = .checkout c → c.carryOut.run w ≠ (.ok tasks, v)) :
    w.store.Advances ((handle o notification).run w).2.store := by
  have declines {a : Action Unit} (h : a.Keeps Declines) :
      w.store.Advances ((a >>= fun _ => pure DeliveryOutcome.processed).run w).2.store := by
    rw [Action.run_answer]
    exact (h w).store.advances
  cases notification with
  | checkout c =>
    have carries := (Checkout.carryOut_advances c w).store
    rcases ran : c.carryOut.run w with ⟨failure | tasks, v⟩
    · rw [ran] at carries
      rw [handle, Action.run_bind_of_error ran]
      exact carries
    · exact absurd ran (other c tasks v rfl)
  | paymentFailed intent => exact declines (Reversal.failPayment_declines intent)
  | refund r => exact declines (Reversal.refund_declines r)
  | dispute d => exact declines (Reversal.dispute_declines d)
  | unhandled => exact advances.refl _

theorem handle_checkout {o : Outside} {c : Checkout} {w v : World} {tasks : List CommittedJob}
    (carried : c.carryOut.run w = (.ok tasks, v)) :
    ((handle o (.checkout c)).run w).2 = ((CommittedJob.submitEach o tasks).run v).2 := by
  rw [handle, Action.run_bind_of_ok carried, Action.run_answer, CommittedJob.submitAll_world]

theorem orders_conclude (e : GatewayEvent) (row : Uuid) (r : Except Failure DeliveryOutcome) (w : World) :
    ((conclude e row r).run w).2.store.orders = w.store.orders := (conclude_apart e row r w).store.orders

end Delivery

namespace Operations

theorem deliver_lives (o : Outside) (e : GatewayEvent) (w : World) : (Operation.deliver o e).Lives w := by
  have claims := (Ledger.claim_apart e w).store.advances
  constructor
  · intro commits
    change w.store.Advances ((Delivery.process o e).run w).2.store
    cases told : e.parse with
    | error failure =>
      rw [Delivery.process, told]
      exact advances.refl _
    | ok notification =>
      rcases claimed : (Ledger.claim e).run w with ⟨failure | claim, w₁⟩
      · rw [claimed] at claims
        rw [Delivery.process, told, Action.run_bind_of_ok (Action.run_ofExcept_ok _ _),
          Action.run_bind_of_error claimed]
        exact claims
      · rw [claimed] at claims
        cases claim with
        | none =>
          rw [Delivery.process, told, Action.run_bind_of_ok (Action.run_ofExcept_ok _ _),
            Action.run_bind_of_ok claimed]
          exact claims
        | some row =>
          have handles : w₁.store.Advances ((Delivery.handle o notification).run w₁).2.store := by
            apply Delivery.handle_advances
            intro c tasks v is carried
            exact commits o tasks v (.checkout (is ▸ told) claimed carried)
          rw [Delivery.process_granted told claimed (Prod.eta _).symm]
          exact advances.trans (advances.trans claims handles) (.of_eq (Delivery.orders_conclude e row _ _))
  · intro o tasks v commits
    cases commits with
    | @checkout _ _ c row _ w₁ _ _ told claimed carried =>
      have carries := (Checkout.carryOut_advances c w₁).store
      rw [claimed] at claims
      rw [carried] at carries
      constructor
      · exact advances.trans claims carries
      · change List.Forall₂ _ _ ((Delivery.process o e).run w).2.store.orders
        rw [Delivery.process_granted told claimed (Prod.eta _).symm, Delivery.orders_conclude,
          Delivery.handle_checkout carried]
        exact CommittedJob.submitEach_returns o tasks v

theorem reprovision_lives (o : Outside) (id : Uuid) (w : World) : (Operation.reprovision o id).Lives w := by
  have requires := (Services.require_keeps advances id w).store
  constructor
  · intro commits
    change w.store.Advances ((Reprovision.service o id).run w).2.store
    rcases found : (Services.require id).run w with ⟨failure | detail, w₁⟩
    · rw [found] at requires
      rw [Reprovision.service, Action.run_bind_of_error found]
      exact requires
    · have prepares := (Reprovision.prepare_advances detail w₁).store
      rw [found] at requires
      rw [Reprovision.service, Action.run_bind_of_ok found]
      rcases prepared : (transaction (Reprovision.prepare detail)).run w₁ with ⟨failure | task, v⟩
      · rw [prepared] at prepares
        rw [Action.run_bind_of_error prepared]
        exact advances.trans requires prepares
      · exact absurd (.job found prepared) (commits o [task] v)
  · intro o tasks v commits
    cases commits with
    | @job _ _ detail _ w₁ _ task found prepared =>
      have prepares := (Reprovision.prepare_advances detail w₁).store
      rw [found] at requires
      rw [prepared] at prepares
      constructor
      · exact advances.trans requires prepares
      · change List.Forall₂ _ _ ((Reprovision.service o id).run w).2.store.orders
        rw [Reprovision.service, Action.run_bind_of_ok found, Action.run_bind_of_ok prepared,
          Action.run_answer, CommittedJob.submitAll_world]
        exact CommittedJob.submitEach_returns o [task] v

/-- Where no job is committed, orders go forward. -/
theorem lives_of_advances {op : Operation} {w : World} (none_ : ∀ o tasks v, ¬ op.Commits w o tasks v)
    (h : w.store.Advances (op.run w).store) : op.Lives w :=
  ⟨fun _ => h, fun o tasks v commits => absurd commits (none_ o tasks v)⟩

theorem lives (op : Operation) (w : World) : op.Lives w := by
  cases op with
  | deliver o e => exact deliver_lives o e w
  | reprovision o id => exact reprovision_lives o id w
  | poll o tick =>
    apply lives_of_advances
    · intro _ _ _ commits
      cases commits
    · exact (Worker.pollQueues_serves Store.Advances.serves o _ w).store
  | reap =>
    apply lives_of_advances
    · intro _ _ _ commits
      cases commits
    · exact (Worker.reap_serves Store.Advances.serves w).store
  | enqueue t =>
    apply lives_of_advances
    · intro _ _ _ commits
      cases commits
    · exact (TaskQueue.enqueue_keeps advances (fun _ _ => .of_eq rfl) t w).store
  | wait now =>
    apply lives_of_advances
    · intro _ _ _ commits
      cases commits
    · exact advances.refl _

end Operations

/-! ## Terminal orders -/

/-- The same order later on, still where it was if that is a terminal status. -/
structure OrderRow.Rests (a b : OrderRow) : Prop where
  id : b.id = a.id
  terminal : a.status = .active ∨ a.status = .cancelled ∨ a.status = .refunded → b.status = a.status

namespace OrderRow

variable {a b c : OrderRow}

theorem Rests.trans (hab : a.Rests b) (hbc : b.Rests c) : a.Rests c := by
  constructor
  · exact hbc.id.trans hab.id
  · intro terminal
    have same := hab.terminal terminal
    rw [← same] at terminal ⊢
    exact hbc.terminal terminal

theorem Advances.rests (h : a.Advances b) : a.Rests b :=
  ⟨h.id, fun terminal => h.path.of_terminal (OrderStatus.isTerminal_iff.mpr terminal)⟩

theorem Returns.rests {reason : Uuid → Prop} (h : a.Returns reason b) : a.Rests b := by
  constructor
  · exact h.id
  · intro terminal
    rcases h.status with same | ⟨provisioning, -⟩
    · exact same
    · simp [provisioning] at terminal

end OrderRow

/-- One operation leaves a terminal order where it is. -/
theorem Operation.Lives.rests {op : Operation} {w : World} (h : op.Lives w) :
    List.Forall₂ OrderRow.Rests w.store.orders (op.run w).store.orders := by
  by_cases commits : ∃ o tasks v, op.Commits w o tasks v
  · obtain ⟨o, tasks, v, commits⟩ := commits
    obtain ⟨forward, back⟩ := h.back o tasks v commits
    exact forall₂_trans (fun hab hbc => hab.trans hbc) (forward.imp fun _ _ h => h.rests)
      (back.imp fun _ _ h => h.rests)
  · have advances := h.forward fun o tasks v yes => commits ⟨o, tasks, v, yes⟩
    exact advances.imp fun _ _ h => h.rests

namespace Operations

theorem rests_runAll (ops : List Operation) (w : World) :
    List.Forall₂ OrderRow.Rests w.store.orders (runAll ops w).store.orders := by
  induction ops generalizing w with
  | nil => exact List.forall₂_same.mpr fun _ _ => ⟨rfl, fun _ => rfl⟩
  | cons op ops ih => exact forall₂_trans (fun hab hbc => hab.trans hbc) (lives op w).rests (ih (op.run w))

/-- **Orders keep to their life.** In a run from any world each operation takes orders along the edges of
their life, and after the commit of its jobs at most back from provisioning to paid, by the compensation of
a refused job at a moment when every job of the order has failed. From any moment of the run on, an order
that is active, cancelled or refunded stays so. -/
theorem orders_live (ops : List Operation) (w : World) :
    (∀ before op after, ops = before ++ op :: after → op.Lives (runAll before w)) ∧
      ∀ before after, ops = before ++ after →
        List.Forall₂ OrderRow.Rests (runAll before w).store.orders (runAll ops w).store.orders := by
  constructor
  · intro before op after _
    exact lives op _
  · intro before after split
    rw [split, runAll_append]
    exact rests_runAll after _

end Operations

end HostingBilling
