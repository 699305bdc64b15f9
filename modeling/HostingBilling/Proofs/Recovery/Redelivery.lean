import HostingBilling.Proofs.Jobs.Reach
import HostingBilling.Proofs.Recovery.Stranded

/-!
# Delivering again what was cut off

A delivery may stop for good between any two of its commits. Main statement: when the same checkout is
delivered again, it secures its order exactly if no service was stranded before the first delivery and
every job that the first one left unsubmitted has an older unfinished task of its service.
-/

namespace HostingBilling

open Store (Quiet Still Eases)

namespace CommittedJob

/-- The steps of taking a job back, each committed by itself. -/
def stepsBack (t : CommittedJob) (reason : String) : List (Action (List String)) :=
  [t.failJobStep reason, t.revertServiceStep, t.revertOrderStep]

def runSteps : List (Action (List String)) → Action (List String)
  | [] => return []
  | step :: rest => do return (← step) ++ (← runSteps rest)

/-- Taking a job back is running all of its steps. -/
theorem retract_eq_runSteps (t : CommittedJob) (reason : String) :
    t.retract reason = runSteps (t.stepsBack reason) := by
  simp only [retract, stepsBack, runSteps, bind_assoc, pure_bind, List.append_nil, List.append_assoc]

theorem runSteps_keeps {R : Store → Store → Prop} (chain : Chain R) {steps : List (Action (List String))}
    (h : ∀ a ∈ steps, a.Keeps R) : (runSteps steps).Keeps R := by
  induction steps with
  | nil => exact chain.pure _
  | cons a rest ih =>
    refine chain.bind (h a List.mem_cons_self) fun _ => chain.bind ?_ fun _ => chain.pure _
    exact ih fun b hb => h b (List.mem_cons_of_mem _ hb)

end CommittedJob

namespace Recovery

open CommittedJob (stepsBack runSteps submitEach)

/-- What is left of a delivery that is cut off: the jobs that it committed and did not submit, and the
world. A job whose submission was refused is still there while no step of taking it back has run. -/
inductive Cut (o : Outside) (e : GatewayEvent) (w : World) : List CommittedJob → World → Prop
  | claimed {row : Uuid} {w₁ : World} (claim : (Ledger.claim e).run w = (.ok (some row), w₁)) :
      Cut o e w [] w₁
  | submitting {c : Checkout} {row : Uuid} {w₁ w₂ w₃ : World} {done left : List CommittedJob}
      {result : Nat × List String} (parsed : e.parse = .ok (.checkout c))
      (claim : (Ledger.claim e).run w = (.ok (some row), w₁))
      (committed : c.carryOut.run w₁ = (.ok (done ++ left), w₂))
      (submitted : (submitEach o done).run w₂ = (.ok result, w₃)) : Cut o e w left w₃
  | takingBack {c : Checkout} {row : Uuid} {w₁ w₂ w₃ w₄ : World} {done left : List CommittedJob}
      {t : CommittedJob} {result : Nat × List String} {failure : Failure} (n : Nat)
      (parsed : e.parse = .ok (.checkout c))
      (claim : (Ledger.claim e).run w = (.ok (some row), w₁))
      (committed : c.carryOut.run w₁ = (.ok (done ++ t :: left), w₂))
      (submitted : (submitEach o done).run w₂ = (.ok result, w₃))
      (refused : (TaskQueue.submit o (.provision t.payload)).run w₃ = (.error failure, w₄)) :
      Cut o e w (if n = 0 then t :: left else left)
        ((runSteps ((t.stepsBack failure.message).take n)).run w₄).2

/-- What whole operations and deliveries that are cut off make of a store without jobs and tasks. -/
inductive Reachable : World → Prop
  | whole {w : World} (h : Operations.Reachable w) : Reachable w
  | next {w w' : World} (before : Reachable w) (step : Operations.Step w w')
      (room : w'.nextId ≤ Uuid.limit) : Reachable w'
  | cut {o : Outside} {e : GatewayEvent} {w w' : World} {left : List CommittedJob}
      (before : Reachable w) (durable : o.durable = true) (cut : Cut o e w left w')
      (room : w'.nextId ≤ Uuid.limit) : Reachable w'

/-! ## What a cut leaves -/

section cut

variable {o : Outside} {e : GatewayEvent} {c : Checkout} {row orderId : Uuid}
variable {w w₁ w₂ w₃ : World} {done left owed : List CommittedJob} {result : Nat × List String}

theorem committed_law (law : JobLaw owed w) (claim : (Ledger.claim e).run w = (.ok (some row), w₁))
    (committed : c.carryOut.run w₁ = (.ok left, w₂)) (room : w₂.nextId ≤ Uuid.limit) :
    JobLaw (left ++ owed) w₂ :=
  Checkout.carryOut_law (law.quiet ((Ledger.claim_still e).quiet.follows claim)) committed room

theorem submitted_law (durable : o.durable = true) (law : JobLaw owed w)
    (claim : (Ledger.claim e).run w = (.ok (some row), w₁))
    (committed : c.carryOut.run w₁ = (.ok (done ++ left), w₂))
    (submitted : (submitEach o done).run w₂ = (.ok result, w₃)) (room : w₃.nextId ≤ Uuid.limit) :
    JobLaw (left ++ owed) w₃ := by
  have counted := ((CommittedJob.submitEach_counts o done).follows submitted).nextId
  have owes := committed_law law claim committed (Nat.le_trans counted room)
  rw [List.append_assoc] at owes
  exact CommittedJob.submitEach_law durable owes submitted room

theorem committed_made (law : JobLaw owed w) (reference : c.orderId = .ok orderId)
    (claim : (Ledger.claim e).run w = (.ok (some row), w₁))
    (committed : c.carryOut.run w₁ = (.ok left, w₂)) (room : w₂.nextId ≤ Uuid.limit) :
    Checkout.Commitment orderId w.store left w₂.store :=
  have still := (Ledger.claim_still e).follows claim
  have law₁ := law.quiet ((Ledger.claim_still e).quiet.follows claim)
  (Checkout.carryOut_commitment law₁ reference committed room).still still.store (Still.chain.refl _)

/-- Submitting the first jobs ends it for their services and leaves the other jobs live. -/
theorem submitted_stranded (durable : o.durable = true) (law : JobLaw owed w)
    (reference : c.orderId = .ok orderId)
    (claim : (Ledger.claim e).run w = (.ok (some row), w₁))
    (committed : c.carryOut.run w₁ = (.ok (done ++ left), w₂))
    (submitted : (submitEach o done).run w₂ = (.ok result, w₃)) (room : w₃.nextId ≤ Uuid.limit) :
    (∀ id, w₃.store.Stranded orderId id ↔
      w₂.store.Stranded orderId id ∧ ∀ t ∈ done, id ≠ t.serviceId) ∧
    ∀ t ∈ left, w₃.store.Due t := by
  have counted := ((CommittedJob.submitEach_counts o done).follows submitted).nextId
  have room₂ := Nat.le_trans counted room
  have made := committed_made law reference claim committed room₂
  have owes := committed_law law claim committed room₂
  rw [List.append_assoc] at owes
  have apart := made.apart
  rw [List.map_append, List.nodup_append] at apart
  obtain ⟨stranded, due⟩ := CommittedJob.submitEach_stranded durable owes apart.1
    (fun t ht => made.due t (List.mem_append_left _ ht)) submitted room
  constructor
  · exact stranded orderId
  · intro t ht
    apply due t (made.due t (List.mem_append_right _ ht))
    intro x hx same
    exact apart.2.2 _ (List.mem_map_of_mem hx) _ (List.mem_map_of_mem ht) same.symm

theorem refused_still (durable : o.durable = true) (calm : w.faults = []) {draft : TaskDraft}
    {failure : Failure} (refused : (TaskQueue.submit o draft).run w = (.error failure, w₁)) :
    Follows Still w w₁ := by
  cases answer : o.refuses w.offered.length with
  | true =>
    rw [TaskQueue.submit_refused answer] at refused
    cases refused
    exact ⟨rfl, Nat.le_refl _, fun _ spared => spared, Still.chain.refl _⟩
  | false =>
    rw [TaskQueue.submit_accepted calm durable answer] at refused
    cases refused

theorem stepsBack_eases (t : CommittedJob) (reason : String) (n : Nat) :
    (runSteps ((t.stepsBack reason).take n)).Keeps Eases := by
  apply CommittedJob.runSteps_keeps Eases.chain
  intro a ha
  have among := List.mem_of_mem_take ha
  simp only [stepsBack, List.mem_cons, List.not_mem_nil, or_false] at among
  rcases among with rfl | rfl | rfl
  · exact CommittedJob.stepError_keeps Eases.chain (CommittedJob.abandon_eases _ _) _ _
  · exact CommittedJob.revertServiceStep_eases t
  · exact CommittedJob.revertOrderStep_eases t

/-- The steps after the first. -/
theorem laterSteps_keeps {R : Store → Store → Prop} (chain : Chain R) {t : CommittedJob}
    (service : t.revertServiceStep.Keeps R) (order : t.revertOrderStep.Keeps R) (n : Nat) :
    (runSteps ([t.revertServiceStep, t.revertOrderStep].take n)).Keeps R := by
  apply CommittedJob.runSteps_keeps chain
  intro a ha
  have among := List.mem_of_mem_take ha
  simp only [List.mem_cons, List.not_mem_nil, or_false] at among
  rcases among with rfl | rfl
  · exact service
  · exact order

/-- The world after the first step of taking a job back and some of the others. -/
theorem runSteps_succ (calm : w.faults = []) (t : CommittedJob) (reason : String) (n : Nat) :
    ((runSteps ((t.stepsBack reason).take (n + 1))).run w).2 =
      ((runSteps ([t.revertServiceStep, t.revertOrderStep].take n)).run
        ((t.failJobStep reason).run w).2).2 := by
  rw [stepsBack, List.take_succ_cons, runSteps,
    Action.run_bind_of_ok (CommittedJob.failJobStep_run calm t reason),
    CommittedJob.failJobStep_run calm t reason, Action.run_bind]
  rcases (runSteps ([t.revertServiceStep, t.revertOrderStep].take n)).run _ with ⟨_ | _, _⟩ <;> rfl

theorem cut_law (durable : o.durable = true) (law : JobLaw owed w) (cut : Cut o e w left w₁)
    (room : w₁.nextId ≤ Uuid.limit) : JobLaw (left ++ owed) w₁ := by
  cases cut with
  | claimed claim => exact law.quiet ((Ledger.claim_still e).quiet.follows claim)
  | submitting parsed claim committed submitted =>
    exact submitted_law durable law claim committed submitted room
  | @takingBack _ _ _ _ w₃ w₄ _ left t _ failure n parsed claim committed submitted refused =>
    have counted₄ := (stepsBack_eases t failure.message n w₄).nextId
    have counted₃ := (TaskQueue.submit_counts o _).follows refused |>.nextId
    have law₃ := submitted_law durable law claim committed submitted
      (Nat.le_trans (Nat.le_trans counted₃ counted₄) room)
    have law₄ := law₃.quiet (refused_still durable law₃.calm refused).quiet
    cases n with
    | zero => exact law₄
    | succ n =>
      rw [runSteps_succ law₄.calm]
      exact (CommittedJob.failJobStep_law law₄ failure.message).eases (laterSteps_keeps Eases.chain
        (CommittedJob.revertServiceStep_eases t) (CommittedJob.revertOrderStep_eases t) n _)

theorem cut_stranded (durable : o.durable = true) (law : JobLaw owed w)
    (parsed : e.parse = .ok (.checkout c)) (reference : c.orderId = .ok orderId)
    (cut : Cut o e w left w₁) (room : w₁.nextId ≤ Uuid.limit) (id : Uuid) :
    w₁.store.Stranded orderId id ↔
      w.store.Stranded orderId id ∨ ∃ t ∈ left, t.serviceId = id ∧ ¬ w.store.Served id := by
  cases cut with
  | claimed claim =>
    rw [((Ledger.claim_still e).follows claim).store.leaves.stranded]
    simp
  | submitting parsed' claim committed submitted =>
    rw [parsed] at parsed'
    cases parsed'
    have counted := ((CommittedJob.submitEach_counts o _).follows submitted).nextId
    exact (committed_made law reference claim committed (Nat.le_trans counted room)).left
      (submitted_stranded durable law reference claim committed submitted room).1 id
  | @takingBack _ _ _ _ w₃ w₄ _ left t _ failure n parsed' claim committed submitted refused =>
    rw [parsed] at parsed'
    cases parsed'
    have counted₄ := (stepsBack_eases t failure.message n w₄).nextId
    have counted₃ := (TaskQueue.submit_counts o _).follows refused |>.nextId
    have room₃ := Nat.le_trans (Nat.le_trans counted₃ counted₄) room
    have counted₂ := ((CommittedJob.submitEach_counts o _).follows submitted).nextId
    have made := committed_made law reference claim committed (Nat.le_trans counted₂ room₃)
    have law₃ := submitted_law durable law claim committed submitted room₃
    obtain ⟨stranded, due⟩ := submitted_stranded durable law reference claim committed submitted room₃
    have still := refused_still durable law₃.calm refused
    cases n with
    | zero =>
      change w₄.store.Stranded orderId id ↔ _
      rw [still.store.leaves.stranded]
      exact made.left stranded id
    | succ n =>
      have law₄ := law₃.quiet still.quiet
      have due₄ := still.store.leaves.due.mpr (due t List.mem_cons_self)
      have failed := CommittedJob.failed_discharges law₄ due₄ ("enqueue failed: " ++ failure.message)
      have rest := (laterSteps_keeps Store.Leaves.chain (CommittedJob.revertServiceStep_leaves t)
        (CommittedJob.revertOrderStep_leaves t) n ((t.failJobStep failure.message).run w₄).2).store
      rw [CommittedJob.failJobStep_run law₄.calm] at rest
      rw [runSteps_succ law₄.calm, CommittedJob.failJobStep_run law₄.calm]
      -- a job that was failed counts with those that were submitted
      rw [List.append_cons] at made
      refine made.left (fun id => ?_) id
      rw [rest.stranded, failed.stranded, still.store.leaves.stranded, stranded, List.forall_mem_append,
        and_assoc]
      simp

end cut

/-! ## Delivering again -/

/-- The steps of a checkout's delivery that has gone through. -/
structure Delivered (o : Outside) (e : GatewayEvent) (c : Checkout) (w w' : World) : Type where
  row : Uuid
  tasks : List CommittedJob
  result : Nat × List String
  claimed : World
  committed : World
  submitted : World
  ranClaim : (Ledger.claim e).run w = (.ok (some row), claimed)
  ranCheckout : c.carryOut.run claimed = (.ok tasks, committed)
  ranTasks : (submitEach o tasks).run committed = (.ok result, submitted)
  finished : Follows Still submitted w'

theorem delivered {o : Outside} {e : GatewayEvent} {c : Checkout} {w w' : World}
    (parsed : e.parse = .ok (.checkout c))
    (ran : (Delivery.process o e).run w = (.ok .processed, w')) : Nonempty (Delivered o e c w w') := by
  rw [Delivery.process, parsed, Action.run_bind_of_ok (Action.run_ofExcept_ok _ _)] at ran
  obtain ⟨claim, w₁, ranClaim, ran⟩ := Action.run_bind_ok ran
  cases claim with
  | none => cases ran
  | some row =>
    dsimp only at ran
    rw [Action.run_bind_of_ok (Action.run_attempt _ _)] at ran
    rcases handled : (Delivery.handle o (.checkout c)).run w₁ with ⟨failure | outcome, w₂⟩
    · rw [handled] at ran
      obtain ⟨_, _, _, last⟩ := Action.run_bind_ok ran
      cases last
    · rw [handled] at ran
      obtain ⟨tasks, w₃, ranCheckout, rest⟩ := Action.run_bind_ok handled
      obtain ⟨_, _, ranTasks, last⟩ := Action.run_bind_ok rest
      cases last
      obtain ⟨result, w₄, ranEach, last⟩ := Action.run_bind_ok ranTasks
      have same : w₄ = w₂ := by
        dsimp only at last
        split at last
        · cases last
          rfl
        · cases last
      subst same
      exact ⟨⟨row, tasks, result, w₁, w₃, w₄, ranClaim, ranCheckout, ranEach,
        (Delivery.conclude_still e row (.ok .processed)).follows ran⟩⟩

/-- A delivery that goes through strands nothing, and provides for every line. -/
theorem delivered_stranded {o : Outside} {e : GatewayEvent} {c : Checkout} {orderId : Uuid}
    {w w' : World} {owed : List CommittedJob} (durable : o.durable = true)
    (accepts : ∀ n, o.refuses n = false) (law : JobLaw owed w) (reference : c.orderId = .ok orderId)
    (steps : Delivered o e c w w') (room : w'.nextId ≤ Uuid.limit) :
    (∀ id, w'.store.Stranded orderId id ↔ w.store.Stranded orderId id) ∧
      (w'.store.Secured orderId ↔ ∀ id, ¬ w'.store.Stranded orderId id) := by
  obtain ⟨row, tasks, result, claimed, committed, submitted, ranClaim, ranCheckout, ranTasks, finished⟩ :=
    steps
  have all : c.carryOut.run claimed = (.ok (tasks ++ []), committed) := tasks.append_nil.symm ▸ ranCheckout
  have room₃ := Nat.le_trans finished.nextId room
  have room₂ := Nat.le_trans ((CommittedJob.submitEach_counts o tasks).follows ranTasks).nextId room₃
  have law₂ := committed_law law ranClaim ranCheckout room₂
  have law₃ := submitted_law durable law ranClaim all ranTasks room₃
  have made := committed_made law reference ranClaim all room₂
  have stranded := (submitted_stranded durable law reference ranClaim all ranTasks room₃).1
  obtain ⟨n, errors, ranEach, -⟩ := CommittedJob.submitEach_run law₂.calm o tasks
  rw [ranTasks] at ranEach
  obtain rfl := congrArg Prod.snd ranEach
  have accepted : ∃ rows, (CommittedJob.allAnswered o tasks committed).store =
      { committed.store with tasks := rows } := CommittedJob.allAnswered_accepted fun _ _ => accepts _
  obtain ⟨rows, rest⟩ := accepted
  refine ⟨fun id => ?_, ?_⟩
  · rw [finished.store.leaves.stranded, made.left stranded]
    simp
  · apply Store.secured_iff (finished.store.quiet.linked law₃.linked)
    intro item hi
    rw [Store.itemsOf, finished.store.items, rest] at hi
    refine Checkout.provided_later (made.provided item hi) (fun r hr => ⟨r, ?_, .inl rfl⟩) fun j hj => ?_
    · rw [finished.store.services, rest]
      exact hr
    · rw [finished.store.jobs, rest]
      exact hj

theorem reachable_law {w : World} (h : Reachable w) : ∃ owed, JobLaw owed w := by
  induction h with
  | whole h => exact ⟨[], Operations.reachable_law h⟩
  | next _ step room law =>
    obtain ⟨owed, law⟩ := law
    exact ⟨owed, Operations.step_law law step room⟩
  | cut _ durable cut room law =>
    obtain ⟨owed, law⟩ := law
    exact ⟨_, cut_law durable law cut room⟩

/-- Whole operations strand no service. -/
theorem not_stranded {w : World} (h : Operations.Reachable w) (orderId id : Uuid) :
    ¬ w.store.Stranded orderId id := by
  rintro ⟨⟨r, hr, rfl, -, notDone⟩, live, unserved⟩
  obtain ⟨j, hj, isLive⟩ := List.any_eq_true.mp live
  obtain ⟨of, -, isLive⟩ := isLiveJob_iff.mp isLive
  have alive : r.status ≠ .terminated := by
    intro terminated
    rw [terminated] at notDone
    cases notDone
  rcases (Operations.reachable_law h).backed j hj isLive r hr of.symm alive with ⟨_, hd, -⟩ | served
  · cases hd
  · exact unserved (of ▸ served)

/-- **What delivering again repairs.** A delivery of a checkout was cut off, and later the same event is
delivered again and processed, with a queue that accepts every task. Then the order is secured exactly if
none of its services was stranded before the delivery that was cut off, and every job which that one left
behind has an older unfinished task of its service. A job that is left behind counts as one that is taken
care of, so nothing else will ever submit it. -/
theorem redelivery_secures_iff {o o' : Outside} {e : GatewayEvent} {c : Checkout} {orderId : Uuid}
    {w w₁ w₂ : World} {left : List CommittedJob} {now : Instant} (reachable : Reachable w)
    (parsed : e.parse = .ok (.checkout c)) (reference : c.orderId = .ok orderId)
    (durable : o.durable = true) (cut : Cut o e w left w₁) (later : w₁.now ≤ now)
    (durable' : o'.durable = true) (accepts : ∀ n, o'.refuses n = false)
    (ran : (Delivery.process o' e).run { w₁ with now := now } = (.ok .processed, w₂))
    (room : w₂.nextId ≤ Uuid.limit) :
    w₂.store.Secured orderId ↔
      (∀ id, ¬ w.store.Stranded orderId id) ∧ ∀ t ∈ left, w.store.Served t.serviceId := by
  obtain ⟨owed, law⟩ := reachable_law reachable
  have counted := (Delivery.process_upholds durable' e { w₁ with now := now }).1
  rw [ran] at counted
  have room₁ : w₁.nextId ≤ Uuid.limit := Nat.le_trans counted room
  have law₁ := (cut_law durable law cut room₁).wait later
  obtain ⟨steps⟩ := delivered parsed ran
  obtain ⟨same, secured⟩ := delivered_stranded durable' accepts law₁ reference steps room
  have before (id : Uuid) := cut_stranded durable law parsed reference cut room₁ id
  rw [secured]
  constructor
  · intro none_
    constructor
    · exact fun id stranded => none_ id ((same id).mpr ((before id).mpr (.inl stranded)))
    · intro t ht
      by_contra unserved
      exact none_ t.serviceId ((same _).mpr ((before _).mpr (.inr ⟨t, ht, rfl, unserved⟩)))
  · rintro ⟨none_, served⟩ id stranded
    rcases (before id).mp ((same id).mp stranded) with old | ⟨t, ht, rfl, unserved⟩
    · exact none_ id old
    · exact unserved (served t ht)

open Operations (sampleEvent sampleOutside)

/-- The event of the sample has been claimed. -/
def sampleClaimed : World := ((Ledger.claim sampleEvent).run Checkout.sampleWorld).2

/-- The checkout of the sample is committed, and its job is not submitted. -/
def sampleCommitted : World := (Checkout.sampleCheckout.carryOut.run sampleClaimed).2

/-- The event of the sample is delivered again. -/
def sampleAgain (w : World) : World :=
  ((Delivery.process (sampleOutside false) sampleEvent).run { w with now := ⟨1121, 0⟩ }).2

theorem sampleEvent_parse : sampleEvent.parse = .ok (.checkout Checkout.sampleCheckout) := rfl

theorem sampleEvent_claim : (Ledger.claim sampleEvent).run Checkout.sampleWorld =
    (.ok (some (.ofNat 100)), sampleClaimed) := Action.run_eq_of_fst (by decide +kernel)

theorem redelivery_secures_claimed : Cut (sampleOutside false) sampleEvent Checkout.sampleWorld []
      sampleClaimed ∧ (sampleAgain sampleClaimed).store.Secured (.ofNat 1) := by
  have cut : Cut (sampleOutside false) sampleEvent Checkout.sampleWorld [] sampleClaimed :=
    .claimed sampleEvent_claim
  have ran : (Delivery.process (sampleOutside false) sampleEvent).run
      { sampleClaimed with now := ⟨1121, 0⟩ } = (.ok .processed, sampleAgain sampleClaimed) := by
    unfold sampleAgain
    exact Action.run_eq_of_fst (by decide +kernel)
  have room : (sampleAgain sampleClaimed).nextId ≤ Uuid.limit := by decide +kernel
  have later : sampleClaimed.now ≤ ⟨1121, 0⟩ := by decide +kernel
  have reference : Checkout.sampleCheckout.orderId = .ok (.ofNat 1) := by decide +kernel
  refine ⟨cut, (redelivery_secures_iff (.whole Operations.reachable_sampleWorld) sampleEvent_parse
    reference rfl cut later rfl (fun _ => rfl) ran room).mpr ?_⟩
  exact ⟨not_stranded Operations.reachable_sampleWorld _, by simp⟩

/-- The job is committed and its delivery cut off before the job is submitted. Delivered again more than
two minutes later, the event is processed, and still no task will come to the live job. -/
theorem redelivery_strands : ∃ left,
    Reachable Checkout.sampleWorld ∧
    Cut (sampleOutside false) sampleEvent Checkout.sampleWorld left sampleCommitted ∧
    sampleCommitted.now.addSeconds Ledger.claimSeconds < ⟨1121, 0⟩ ∧
    (Delivery.process (sampleOutside false) sampleEvent).run { sampleCommitted with now := ⟨1121, 0⟩ } =
      (.ok .processed, sampleAgain sampleCommitted) ∧
    ¬ (sampleAgain sampleCommitted).store.Secured (.ofNat 1) := by
  have goes : (Checkout.sampleCheckout.carryOut.run sampleClaimed).1.isOk = true := by decide +kernel
  have building : (sampleAgain sampleCommitted).store.services.any (fun r =>
      (sampleAgain sampleCommitted).store.isLineOf (.ofNat 1) r.itemId &&
        r.status == .provisioning) = true := by decide +kernel
  have untasked : (sampleAgain sampleCommitted).store.tasks.length = 0 := by decide +kernel
  have ran : (Delivery.process (sampleOutside false) sampleEvent).run
      { sampleCommitted with now := ⟨1121, 0⟩ } = (.ok .processed, sampleAgain sampleCommitted) := by
    unfold sampleAgain
    exact Action.run_eq_of_fst (by decide +kernel)
  obtain ⟨left, committed⟩ := Action.exists_of_isOk goes
  have committed : Checkout.sampleCheckout.carryOut.run sampleClaimed =
      (.ok ([] ++ left), sampleCommitted) := Action.run_eq_of_fst committed
  have cut : Cut (sampleOutside false) sampleEvent Checkout.sampleWorld left sampleCommitted :=
    .submitting sampleEvent_parse sampleEvent_claim committed rfl
  refine ⟨left, .whole Operations.reachable_sampleWorld, cut, by decide +kernel, ran, fun secured => ?_⟩
  obtain ⟨r, hr, is⟩ := List.any_eq_true.mp building
  simp only [Bool.and_eq_true, beq_iff_eq] at is
  rcases secured r hr is.1 with active | terminated | ⟨-, t, ht, -⟩
  · rw [is.2] at active
    cases active
  · rw [is.2] at terminated
    cases terminated
  · rw [List.length_eq_zero_iff.mp untasked] at ht
    cases ht

end Recovery

end HostingBilling
