import HostingBilling.Proofs.Checkout.Committing
import HostingBilling.Proofs.Jobs.Reach

/-!
# What an operation is made of

A whole operation is a sequence of few kinds of moves: something declines, a checkout or an operator
commits jobs, the queue answers for a job that was committed, tasks proceed, a request for a service is
worked on. The moves say everything that operations do to orders, services, jobs and tasks, so an
invariant of the moves is one of the operations and of their runs.
-/

namespace HostingBilling

open Store (Apart Declines)

/-- The same task later on: what it asks for stays, and a finished one stays finished. -/
structure TaskRow.Proceeds (a b : TaskRow) : Prop where
  kind : b.kind = a.kind
  payload : b.payload = a.payload
  unfinished : b.status = .pending ∨ b.status = .processing → a.status = .pending ∨ a.status = .processing

theorem TaskRow.Proceeds.serves {a b : TaskRow} (h : a.Proceeds b) {serviceId : Uuid}
    (serves : b.Serves serviceId) : a.Serves serviceId := by
  obtain ⟨unfinished, kind, p, read, is⟩ := serves
  exact ⟨h.unfinished unfinished, h.kind.symm.trans kind, p, h.payload ▸ read, is⟩

/-- Changed rows proceed if the change leaves alone what they ask for and the changed ones were
unfinished. -/
theorem TaskRow.proceeds_changeRows {selects : TaskRow → Bool} {change : TaskRow → TaskRow}
    {rows : List TaskRow} (same : ∀ t, (change t).kind = t.kind ∧ (change t).payload = t.payload)
    (unfinished : ∀ t ∈ rows, selects t = true → t.status = .pending ∨ t.status = .processing) :
    List.Forall₂ TaskRow.Proceeds rows (changeRows selects change rows) :=
  forall₂_changeRows (fun _ => ⟨rfl, rfl, fun unfinished => unfinished⟩) fun t ht selected =>
    ⟨(same t).1, (same t).2, fun _ => unfinished t ht selected⟩

/-- One whole operation. -/
inductive Operation where
  | deliver (o : Outside) (e : GatewayEvent)
  | reprovision (o : Outside) (serviceId : Uuid)
  | poll (o : Outside) (tick : Nat)
  | reap
  | enqueue (t : TaskDraft)
  | wait (now : Instant)

namespace Operation

/-- The world that an operation leaves, whether it fails or not. -/
def run : Operation → World → World
  | deliver o e, w => ((Delivery.process o e).run w).2
  | reprovision o serviceId, w => ((Reprovision.service o serviceId).run w).2
  | poll o tick, w => ((Worker.poll o tick).run w).2
  | reap, w => Worker.reap w
  | enqueue t, w => ((TaskQueue.enqueue t).run w).2
  | wait now, w => { w with now := now }

/-- Where jobs are submitted, a task that is accepted becomes a row; and the clock does not go back. -/
def Allowed (w : World) : Operation → Prop
  | deliver o _ => o.durable = true
  | reprovision o _ => o.durable = true
  | wait now => w.now ≤ now
  | _ => True

/-- A worker comes to a service: the task that the poll takes serves it. -/
def ComesTo (w : World) (serviceId : Uuid) : Operation → Prop
  | poll _ tick => ∃ t, Worker.nextTask w (QueueName.visits tick) = some t ∧ t.Serves serviceId
  | _ => False

instance (w : World) (op : Operation) : Decidable (op.Allowed w) :=
  match op with
  | deliver o _ => inferInstanceAs (Decidable (o.durable = true))
  | reprovision o _ => inferInstanceAs (Decidable (o.durable = true))
  | poll _ _ => .isTrue trivial
  | reap => .isTrue trivial
  | enqueue _ => .isTrue trivial
  | wait now => inferInstanceAs (Decidable (w.now ≤ now))

theorem step {op : Operation} {w : World} (allowed : op.Allowed w) : Operations.Step w (op.run w) := by
  cases op with
  | deliver o e => exact .deliver o e allowed
  | reprovision o serviceId => exact .reprovision o serviceId allowed
  | poll o tick => exact .poll o tick
  | reap => exact .reap
  | enqueue t => exact .enqueue t
  | wait now => exact .wait now allowed

end Operation

namespace Operations

/-- One move of an operation that began in the world `v`. The jobs in front are committed and wait for
the answer of the queue. -/
inductive Move (op : Operation) (v : World) :
    List CommittedJob → World → List CommittedJob → World → Prop
  | decline {owed : List CommittedJob} {w w' : World} (step : Follows Declines w w') :
      Move op v owed w owed w'
  | carry {o : Outside} {e : GatewayEvent} {order : OrderRow} {w w' : World} {tasks : List CommittedJob}
      (is : op = .deliver o e) (carried : Checkout.Carried order w tasks w') : Move op v [] w tasks w'
  | prepare {o : Outside} {id : Uuid} {detail : ServiceView} {w w' : World} {task : CommittedJob}
      (is : op = .reprovision o id) (found : w.store.detail? id = some detail)
      (prepared : Reprovision.Prepared detail w task w') : Move op v [] w [task] w'
  | accept {owed : List CommittedJob} {t : CommittedJob} {w : World} :
      Move op v (t :: owed) w owed { w with
        offered := w.offered ++ [.provision t.payload]
        nextId := w.nextId + 1
        store := { w.store with tasks :=
          w.store.tasks ++ [TaskQueue.newRow w.now (.ofNat w.nextId) (.provision t.payload)] } }
  | refuse {owed : List CommittedJob} {t : CommittedJob} {w : World} (reason : String) :
      Move op v (t :: owed) w owed { w with
        offered := w.offered ++ [.provision t.payload]
        store := CommittedJob.takenBack w.now t reason w.store }
  | proceed {owed : List CommittedJob} {w : World} {rows : List TaskRow}
      (h : List.Forall₂ TaskRow.Proceeds w.store.tasks rows) :
      Move op v owed w owed { w with store := { w.store with tasks := rows } }
  | work {o : Outside} {tick : Nat} {t : TaskRow} {serviceId : Uuid} {w' : World} (is : op = .poll o tick)
      (took : Worker.nextTask v (QueueName.visits tick) = some t) (serves : t.Serves serviceId)
      (works : Provisioning.Works o serviceId (Worker.claimed v t) w') :
      Move op v [] (Worker.claimed v t) [] w'
  | enqueue {t : TaskDraft} {w : World} (is : op = .enqueue t) :
      Move op v [] w [] { w with
        nextId := w.nextId + 1
        store := { w.store with
          tasks := w.store.tasks ++ [TaskQueue.newRow w.now (.ofNat w.nextId) t] } }
  | wait {now : Instant} {w : World} : Move op v [] w [] { w with now := now }

/-- A sequence of moves. The law of jobs holds after each of them. -/
inductive Moves (op : Operation) (v : World) :
    List CommittedJob → World → List CommittedJob → World → Prop
  | done {owed : List CommittedJob} {w : World} : Moves op v owed w owed w
  | next {owed owed₁ owed₂ : List CommittedJob} {w w₁ w₂ : World} (move : Move op v owed w owed₁ w₁)
      (law : JobLaw owed₁ w₁) (rest : Moves op v owed₁ w₁ owed₂ w₂) : Moves op v owed w owed₂ w₂

variable {op : Operation} {v w w' : World} {owed : List CommittedJob}

theorem Moves.append {owed₁ owed₂ : List CommittedJob} {w₁ w₂ : World}
    (first : Moves op v owed w owed₁ w₁) (then_ : Moves op v owed₁ w₁ owed₂ w₂) :
    Moves op v owed w owed₂ w₂ := by
  induction first with
  | done => exact then_
  | next move law _ ih => exact .next move law (ih then_)

/-- What each move keeps, all of them keep. -/
theorem Moves.keeps {I : List CommittedJob → World → Prop} {owed' : List CommittedJob}
    (h : Moves op v owed w owed' w') (law : JobLaw owed w) (start : I owed w)
    (keep : ∀ {owed w owed' w'}, Move op v owed w owed' w' → JobLaw owed w → JobLaw owed' w' →
      I owed w → I owed' w') : I owed' w' := by
  induction h with
  | done => exact start
  | next move law₁ _ ih => exact ih law₁ (keep move law law₁ start)

/-- No operation changes the lines of orders. -/
theorem Move.items {owed' : List CommittedJob} (move : Move op v owed w owed' w') :
    w'.store.items = w.store.items := by
  cases move with
  | decline step => exact step.store.items
  | carry _ carried => exact carried.items
  | prepare _ _ prepared => exact prepared.items
  | refuse => exact CommittedJob.takenBack_items _ _ _ _
  | work _ _ _ works => cases works <;> rfl
  | accept | proceed | enqueue | wait => rfl

theorem Moves.items {owed' : List CommittedJob} (h : Moves op v owed w owed' w') :
    w'.store.items = w.store.items := by
  induction h with
  | done => rfl
  | next move _ _ ih => exact ih.trans move.items

theorem Moves.decline (law : JobLaw owed w) (step : Follows Declines w w') : Moves op v owed w owed w' :=
  .next (.decline step) (law.quiet (step.mono Declines.quiet)) .done

/-! ## Each operation is made of moves -/

theorem answered_moves {o : Outside} (durable : o.durable = true) {tasks : List CommittedJob}
    (law : JobLaw (tasks ++ owed) w)
    (room : (CommittedJob.allAnswered o tasks w).nextId ≤ Uuid.limit) :
    Moves op v (tasks ++ owed) w owed (CommittedJob.allAnswered o tasks w) := by
  induction tasks generalizing w with
  | nil => exact .done
  | cons t rest ih =>
    have counted := CommittedJob.allAnswered_counts o rest (t.answered o w)
    have law₁ := CommittedJob.answered_law durable law (Nat.le_trans counted room)
    refine .next ?_ law₁ (ih law₁ room)
    cases answer : o.refuses w.offered.length with
    | true => exact CommittedJob.answered_refused answer ▸ .refuse _
    | false => exact CommittedJob.answered_accepted durable answer ▸ .accept

theorem submitAll_moves {o : Outside} (durable : o.durable = true) {tasks : List CommittedJob}
    (law : JobLaw tasks w) (room : ((CommittedJob.submitAll o tasks).run w).2.nextId ≤ Uuid.limit) :
    Moves op v tasks w [] ((CommittedJob.submitAll o tasks).run w).2 := by
  obtain ⟨r, ran, -⟩ := CommittedJob.submitAll_run law.calm o tasks
  rw [ran] at room ⊢
  have moves : Moves op v (tasks ++ []) w [] (CommittedJob.allAnswered o tasks w) :=
    answered_moves durable (tasks.append_nil.symm ▸ law) room
  rwa [List.append_nil] at moves

theorem handle_moves {o : Outside} {e : GatewayEvent} (is : op = .deliver o e) (durable : o.durable = true)
    (law : JobLaw [] w) (notification : Notification)
    (room : ((Delivery.handle o notification).run w).2.nextId ≤ Uuid.limit) :
    Moves op v [] w [] ((Delivery.handle o notification).run w).2 := by
  have declines {a : Action Unit} (h : a.Keeps Declines) :
      Moves op v [] w [] ((a >>= fun _ => pure DeliveryOutcome.processed).run w).2 := by
    rw [Action.run_answer]
    exact .decline law (h w)
  cases notification with
  | checkout c =>
    rw [Delivery.handle, Action.run_bind] at room ⊢
    rcases ran : c.carryOut.run w with ⟨e | tasks, w₁⟩
    · rw [ran] at room
      have apart := Checkout.carryOut_carried law.calm law.linked law.numbered ran room
      exact .decline law (apart.mono Apart.declines)
    · rw [ran] at room
      dsimp only at room ⊢
      rw [Action.run_answer] at room ⊢
      have room₁ := Nat.le_trans (CommittedJob.submitAll_counts o tasks w₁).nextId room
      obtain ⟨order, -, carried⟩ := Checkout.carryOut_carried law.calm law.linked law.numbered ran room₁
      have law₁ : JobLaw (tasks ++ []) w₁ := Checkout.carryOut_law law ran room₁
      rw [List.append_nil] at law₁
      exact .next (.carry is carried) law₁ (submitAll_moves durable law₁ room)
  | paymentFailed intent => exact declines (Reversal.failPayment_declines intent)
  | refund r => exact declines (Reversal.refund_declines r)
  | dispute d => exact declines (Reversal.dispute_declines d)
  | unhandled => exact .done

theorem deliver_moves {o : Outside} {e : GatewayEvent} (is : op = .deliver o e)
    (durable : o.durable = true) (law : JobLaw [] w)
    (room : ((Delivery.process o e).run w).2.nextId ≤ Uuid.limit) :
    Moves op v [] w [] ((Delivery.process o e).run w).2 := by
  have apart {w w' : World} (h : Follows Apart w w') : Follows Declines w w' := h.mono Apart.declines
  cases parsed : e.parse with
  | error failure =>
    rw [Delivery.process, parsed]
    exact .done
  | ok notification =>
    have claims := Ledger.claim_apart e w
    rw [Delivery.process, parsed, Action.run_bind_of_ok (Action.run_ofExcept_ok _ _), Action.run_bind]
      at room ⊢
    rcases ran : (Ledger.claim e).run w with ⟨failure | claim, w₁⟩ <;> rw [ran] at room claims
    · exact .decline law (apart claims)
    · cases claim with
      | none => exact .decline law (apart claims)
      | some row =>
        have law₁ := law.quiet ((apart claims).mono Declines.quiet)
        dsimp only at room ⊢
        rw [Action.run_bind_of_ok (Action.run_attempt _ _)] at room ⊢
        have concludes := Delivery.conclude_apart e row ((Delivery.handle o notification).run w₁).1
          ((Delivery.handle o notification).run w₁).2
        have room₁ := Nat.le_trans concludes.nextId room
        have law₂ := (Delivery.handle_upholds durable notification w₁).2 [] law₁ room₁
        exact ((Moves.decline law (apart claims)).append
          (handle_moves is durable law₁ notification room₁)).append (.decline law₂ (apart concludes))

theorem reprovision_moves {o : Outside} {id : Uuid} (is : op = .reprovision o id)
    (durable : o.durable = true) (law : JobLaw [] w)
    (room : ((Reprovision.service o id).run w).2.nextId ≤ Uuid.limit) :
    Moves op v [] w [] ((Reprovision.service o id).run w).2 := by
  cases found : w.store.detail? id with
  | none =>
    rw [Reprovision.service, Action.run_bind_of_error (Provisioning.require_of_none law.calm found)]
    exact .done
  | some detail =>
    rw [Reprovision.service, Action.run_bind_of_ok (Provisioning.require_of_some law.calm found),
      Action.run_bind] at room ⊢
    rcases ran : (transaction (Reprovision.prepare detail)).run w with ⟨e | task, w₁⟩
    · exact .decline law ((Reprovision.prepare_plain detail).undone Declines.chain ran)
    · rw [ran] at room
      dsimp only at room ⊢
      rw [Action.run_answer] at room ⊢
      have ran := Action.run_transaction_ok ran
      have room₁ := Nat.le_trans (CommittedJob.submitAll_counts o [task] w₁).nextId room
      have law₁ := Reprovision.prepare_law law ran room₁
      exact .next (.prepare is found (Reprovision.prepare_ok law.calm law.linked.orders ran)) law₁
        (submitAll_moves durable law₁ room)

theorem poll_moves {o : Outside} {tick : Nat} (is : op = .poll o tick) (law : JobLaw [] v) :
    Moves op v [] v [] ((Worker.poll o tick).run v).2 := by
  rw [Worker.poll, Worker.pollQueues_run law.calm]
  cases took : Worker.nextTask v (QueueName.visits tick) with
  | none => exact .done
  | some t =>
    obtain ⟨ht, pending⟩ := Worker.nextTask_some took
    have law₁ := Worker.claimed_law law t
    have claim : Move op v [] v [] (Worker.claimed v t) := by
      refine .proceed (TaskRow.proceeds_changeRows (fun _ => ⟨rfl, rfl⟩) fun x hx selected => .inl ?_)
      rw [eq_of_key law.tasks hx ht (by simpa using selected)]
      exact pending
    obtain ⟨eases, rest⟩ := Worker.work_atRest (o := o) law₁ pending
    have law₂ := law₁.eases eases
    have worked : Move op v [] (Worker.claimed v t) [] ((Worker.work o t).run (Worker.claimed v t)).2 := by
      rcases Worker.work_cases (o := o) law₁ pending with ⟨serviceId, serves, works⟩ | ⟨-, declines⟩
      · exact .work is took serves works
      · exact .decline declines
    dsimp only
    rw [Worker.run_run]
    have atRest : ∀ x ∈ ((Worker.work o t).run (Worker.claimed v t)).2.store.tasks, x.id = t.id →
        ∀ serviceId, x.Serves serviceId →
          ((Worker.work o t).run (Worker.claimed v t)).2.store.AtRest serviceId := by
      intro x hx is serviceId serves
      rw [eases.store.tasks] at hx
      rw [Worker.claimed_row law.tasks ht hx is] at serves
      exact rest serviceId ⟨.inl pending, serves.kind, serves.payload⟩
    have law₃ := Worker.record_law law₂ atRest ((Worker.work o t).run (Worker.claimed v t)).1
    obtain ⟨change, same, ran, -⟩ := Worker.record_run (Worker.records_of_calm law₂.calm) t.id
      ((Worker.work o t).run (Worker.claimed v t)).1
    have recorded : Move op v [] ((Worker.work o t).run (Worker.claimed v t)).2 []
        ((Worker.record t.id ((Worker.work o t).run (Worker.claimed v t)).1).run
          ((Worker.work o t).run (Worker.claimed v t)).2).2 := by
      rw [ran]
      refine .proceed (TaskRow.proceeds_changeRows (fun t => (same t).2) fun x hx selected => .inr ?_)
      rw [eases.store.tasks] at hx
      rw [Worker.claimed_row law.tasks ht hx (by simpa using selected)]
    exact .next claim law₁ (.next worked law₂ (.next recorded law₃ .done))

/-- **An operation is made of moves.** -/
theorem moves (allowed : op.Allowed v) (law : JobLaw [] v) (room : (op.run v).nextId ≤ Uuid.limit) :
    Moves op v [] v [] (op.run v) := by
  have after := step_law law (Operation.step allowed) room
  cases op with
  | deliver o e => exact deliver_moves rfl allowed law room
  | reprovision o id => exact reprovision_moves rfl allowed law room
  | poll o tick => exact poll_moves rfl law
  | reap =>
    refine .next ?_ after .done
    rw [Operation.run, Worker.reap_run law.calm]
    refine .proceed (TaskRow.proceeds_changeRows (fun _ => ⟨rfl, rfl⟩) fun x _ stale => .inr ?_)
    simp only [TaskQueue.isStale, Bool.and_eq_true, beq_iff_eq] at stale
    exact stale.1
  | enqueue t =>
    refine .next ?_ after .done
    rw [Operation.run, TaskQueue.enqueue_run law.calm]
    exact .enqueue rfl
  | wait now => exact .next .wait after .done

/-! ## Runs -/

/-- The world after some operations. -/
def runAll (ops : List Operation) (w : World) : World := ops.foldl (fun w op => op.run w) w

theorem runAll_append (ops more : List Operation) (w : World) :
    runAll (ops ++ more) w = runAll more (runAll ops w) := List.foldl_append ..

/-- A run: each operation is allowed where it begins, and identifiers do not run out. -/
def Runs (w : World) : List Operation → Prop
  | [] => True
  | op :: ops => op.Allowed w ∧ (op.run w).nextId ≤ Uuid.limit ∧ Runs (op.run w) ops

def decidableRuns : (w : World) → (ops : List Operation) → Decidable (Runs w ops)
  | _, [] => .isTrue trivial
  | w, op :: ops =>
    have := decidableRuns (op.run w) ops
    inferInstanceAs (Decidable (_ ∧ _ ∧ _))

instance (w : World) (ops : List Operation) : Decidable (Runs w ops) := decidableRuns w ops

theorem Runs.reachable {ops : List Operation} (h : Runs w ops) (reachable : Reachable w) :
    Reachable (runAll ops w) := by
  induction ops generalizing w with
  | nil => exact reachable
  | cons op ops ih =>
    obtain ⟨allowed, room, rest⟩ := h
    exact ih rest (reachable.next (Operation.step allowed) room)

theorem runs_append {ops more : List Operation} :
    Runs w (ops ++ more) ↔ Runs w ops ∧ Runs (runAll ops w) more := by
  induction ops generalizing w with
  | nil => exact (iff_of_eq (true_and (Runs w more))).symm
  | cons op ops ih =>
    constructor
    · rintro ⟨allowed, room, rest⟩
      obtain ⟨first, then_⟩ := ih.mp rest
      exact ⟨⟨allowed, room, first⟩, then_⟩
    · rintro ⟨⟨allowed, room, first⟩, then_⟩
      exact ⟨allowed, room, ih.mpr ⟨first, then_⟩⟩

/-- What every operation of a run keeps, where it begins, the run keeps. -/
theorem Runs.keeps {I : World → Prop} {ops : List Operation} (h : Runs w ops) (law : JobLaw [] w)
    (start : I w)
    (keep : ∀ before op after, ops = before ++ op :: after →
      JobLaw [] (runAll before w) →
      Moves op (runAll before w) [] (runAll before w) [] (op.run (runAll before w)) →
      I (runAll before w) → I (op.run (runAll before w))) : I (runAll ops w) := by
  induction ops generalizing w with
  | nil => exact start
  | cons op ops ih =>
    obtain ⟨allowed, room, rest⟩ := h
    have moved := moves allowed law room
    apply ih rest (step_law law (Operation.step allowed) room) (keep [] op ops rfl law moved start)
    intro before op' after split
    exact keep (op :: before) op' after (by rw [split]; rfl)

end Operations

/-- Nothing has begun: orders wait for their payment, and there is no service, job or task. -/
structure World.Opening (w : World) : Prop where
  calm : w.faults = []
  linked : w.store.Linked
  fresh : w.Fresh
  waiting : ∀ x ∈ w.store.orders, x.status = .draft ∨ x.status = .pendingPayment
  services : w.store.services = []
  jobs : w.store.jobs = []
  tasks : w.store.tasks = []

theorem World.Opening.reachable {w : World} (h : w.Opening) : Operations.Reachable w :=
  .start h.calm h.linked h.fresh h.jobs h.tasks

namespace Operations

/-- An order of one line that waits to be paid. -/
def openingWorld : World := World.start { Checkout.sampleStore with
  items := Checkout.sampleStore.items.take 1
  services := [] } ⟨1000, 0⟩ 100 ⟨"", "", ""⟩

theorem opening_openingWorld : openingWorld.Opening where
  calm := rfl
  linked := ⟨by decide, by decide, by decide, by decide, by decide, by decide, by decide, by decide⟩
  fresh := by decide
  waiting := by decide
  services := rfl
  jobs := rfl
  tasks := rfl

/-- The sample event, delivered as another one. -/
def repeatedEvent : GatewayEvent := { sampleEvent with id := ⟨"evt_2"⟩ }

/-- A queue that refuses every task. -/
def refusing : Outside := { sampleOutside true with refuses := fun _ => true }

end Operations

end HostingBilling
