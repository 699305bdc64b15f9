import HostingBilling.Proofs.Constraints

/-!
# The rows of one purchase

A purchase has rows in most tables, and keys tell them from all other rows: its orders, the intents and
sessions of its payments, its event, and what hangs on these. An action stays within a purchase if it looks
at no other row and changes no other row: it answers the same, and does the same to the rows of the
purchase, when there are no other rows at all. What is put together from such actions is such an action.
-/

namespace HostingBilling

/-- Tells the rows of a purchase by their keys, and the identifiers that its new rows may get. -/
structure Purchase where
  /-- The lines of all orders. -/
  items : List ItemRow
  orders : Uuid → Bool
  services : Uuid → Bool
  jobs : Uuid → Bool
  payments : Uuid → Bool
  intents : String → Bool
  sessions : String → Bool
  events : Uuid → Bool
  eventId : String
  refunds : String → Bool
  disputes : String → Bool
  /-- New rows are numbered from here on, -/
  first : Nat
  /-- and below this. -/
  last : Nat
  room : last ≤ Uuid.limit
  serviceDrawn : ∀ n, first ≤ n → n < last → services (.ofNat n) = true
  jobDrawn : ∀ n, first ≤ n → n < last → jobs (.ofNat n) = true
  paymentDrawn : ∀ n, first ≤ n → n < last → payments (.ofNat n) = true
  eventDrawn : ∀ n, first ≤ n → n < last → events (.ofNat n) = true

namespace Purchase

variable (F : Purchase)

/-- An identifier for a new row. -/
def Draws (id : Uuid) : Prop := ∃ n, F.first ≤ n ∧ n < F.last ∧ id = .ofNat n

/-- Whether an identifier is one of those for new rows. -/
def draws (id : Uuid) : Bool := F.first ≤ id.val && id.val < F.last

/-- Whether a line belongs to one of the orders. -/
def isItem (id : Uuid) : Bool := F.items.any fun r => r.id == id && F.orders r.orderId

/-- The rows of the purchase. The lines of orders stay, as they never change. -/
def own (s : Store) : Store := { s with
  orders := s.orders.filter fun r => F.orders r.id
  invoices := s.invoices.filter fun r => F.orders r.orderId
  invoiceLines := s.invoiceLines.filter fun r => F.draws r.id
  payments := s.payments.filter fun r => F.payments r.id
  events := s.events.filter fun r => F.events r.id
  services := s.services.filter fun r => F.services r.id
  jobs := s.jobs.filter fun r => F.jobs r.id
  refunds := s.refunds.filter fun r => F.refunds r.refundId
  disputes := s.disputes.filter fun r => F.disputes r.disputeId
  tasks := s.tasks.filter fun r => F.draws r.id }

/-- All other rows. -/
def rest (s : Store) : Store := { s with
  orders := s.orders.filter fun r => !F.orders r.id
  invoices := s.invoices.filter fun r => !F.orders r.orderId
  invoiceLines := s.invoiceLines.filter fun r => !F.draws r.id
  payments := s.payments.filter fun r => !F.payments r.id
  events := s.events.filter fun r => !F.events r.id
  services := s.services.filter fun r => !F.services r.id
  jobs := s.jobs.filter fun r => !F.jobs r.id
  refunds := s.refunds.filter fun r => !F.refunds r.refundId
  disputes := s.disputes.filter fun r => !F.disputes r.disputeId
  tasks := s.tasks.filter fun r => !F.draws r.id }

/-- A payment with keys of the purchase only. -/
structure Pays (r : PaymentRow) : Prop where
  intent : ∀ i, r.intent = some i → F.intents i = true
  session : ∀ x, r.session = some x → F.sessions x = true
  order : ∀ id, r.orderId = some id → F.orders id = true

/-- The rows are told apart by identifiers as they are by references and keys. -/
structure Holds (s : Store) : Prop where
  items : s.items = F.items
  services : ∀ r ∈ s.services, F.services r.id = F.isItem r.itemId
  jobs : ∀ r ∈ s.jobs, F.jobs r.id = F.services r.serviceId
  events : ∀ r ∈ s.events, F.events r.id = (r.eventId == F.eventId)
  payments : ∀ r ∈ s.payments, F.payments r.id = (r.intent.any F.intents || r.session.any F.sessions)
  pays : ∀ r ∈ s.payments, F.payments r.id = true → F.Pays r

end Purchase

/-- Which of the tasks that were submitted from the one world to the other the queue refuses, and with what
failures. -/
def Outside.Answers (o : Outside) (refuses : TaskDraft → Option Failure) (w w' : World) : Prop :=
  ∀ i, w.offered.length ≤ i → ∀ t, w'.offered[i]? = some t → o.refusal? i t = refuses t

section answers

variable {o : Outside} {refuses : TaskDraft → Option Failure} {w w₁ w₂ : World}

/-- The first tasks of a run are refused as all its tasks are. -/
theorem Outside.Answers.earlier (answers : o.Answers refuses w w₂) (before : w₁.offered <+: w₂.offered) :
    o.Answers refuses w w₁ := by
  intro i hi t ht
  obtain ⟨later, whole⟩ := before
  apply answers i hi t
  rw [← whole, List.getElem?_append_left (List.getElem?_eq_some_iff.mp ht).1]
  exact ht

theorem Outside.Answers.later (answers : o.Answers refuses w w₂) (after : w.offered <+: w₁.offered) :
    o.Answers refuses w₁ w₂ :=
  fun i hi t ht => answers i (Nat.le_trans after.length_le hi) t ht

end answers

/-! ## Runs that differ in what is not the purchase's -/

/-- A purchase, and the queues of two runs that are compared. Both refuse the same tasks with the same failures. -/
structure Comparison extends Purchase where
  refuses : TaskDraft → Option Failure
  queue : Outside
  queue' : Outside
  durable : queue'.durable = queue.durable

/-- Two worlds with the same rows of the purchase. -/
structure Comparison.Relates (F : Comparison) (w w' : World) : Prop where
  own : F.own w'.store = F.own w.store
  holds : F.Holds w.store
  holds' : F.Holds w'.store
  now : w'.now = w.now
  nextId : w'.nextId = w.nextId
  faults : w'.faults = w.faults

/-- How two runs end that stay within the purchase: with the same answer and the same rows of the purchase,
and with all other rows as they were. -/
structure Comparison.Ends (F : Comparison) {α : Type} (post : α → Prop) (w w' : World)
    (run run' : Except Failure α × World) : Prop where
  answer : run'.1 = run.1
  relates : F.Relates run.2 run'.2
  rest : F.rest run.2.store = F.rest w.store
  rest' : F.rest run'.2.store = F.rest w'.store
  post : ∀ x, run.1 = .ok x → post x

/-- Where their condition is met, both actions stay within the purchase and do the same there, as long as
there are identifiers left for its new rows; what they answer is the purchase's, too. -/
structure Action.Agrees {α : Type} (F : Comparison) (given : Prop) (a a' : Action α) (post : α → Prop) :
    Prop where
  counts : ∀ w, w.nextId ≤ (a.run w).2.nextId
  grows : ∀ w, w.offered <+: (a.run w).2.offered
  grows' : ∀ w, w.offered <+: (a'.run w).2.offered
  ends : given → ∀ w w', F.Relates w w' → F.first ≤ w.nextId → (a.run w).2.nextId ≤ F.last →
    F.queue.Answers F.refuses w (a.run w).2 → F.queue'.Answers F.refuses w' (a'.run w').2 →
    F.Ends post w w' (a.run w) (a'.run w')

/-- The action stays within the purchase. -/
abbrev Action.Within {α : Type} (F : Comparison) (given : Prop) (a : Action α) (post : α → Prop) : Prop :=
  a.Agrees F given a post

namespace Action.Agrees

variable {α β : Type} {F : Comparison} {given : Prop} {a a' : Action α} {post : α → Prop}

theorem imp {given' : Prop} {post' : α → Prop} (h : a.Agrees F given a' post) (met : given' → given)
    (weaker : ∀ x, post x → post' x) : a.Agrees F given' a' post' where
  counts := h.counts
  grows := h.grows
  grows' := h.grows'
  ends g w w' relates begun room answers answers' :=
    have ends := h.ends (met g) w w' relates begun room answers answers'
    ⟨ends.answer, ends.relates, ends.rest, ends.rest', fun x hx => weaker x (ends.post x hx)⟩

theorem when {given' : Prop} (h : a.Agrees F given a' post) (met : given' → given) :
    a.Agrees F given' a' post := h.imp met fun _ hx => hx

theorem forget (h : a.Agrees F given a' post) : a.Agrees F given a' fun _ => True :=
  h.imp id fun _ _ => trivial

theorem pure {x : α} (h : given → post x) : (Pure.pure x : Action α).Within F given post where
  counts _ := Nat.le_refl _
  grows _ := List.prefix_refl _
  grows' _ := List.prefix_refl _
  ends g _ _ relates _ _ _ _ := ⟨rfl, relates, rfl, rfl, fun _ is => Except.ok.inj is ▸ h g⟩

theorem throw (e : Failure) : (MonadExcept.throw e : Action α).Within F given post where
  counts _ := Nat.le_refl _
  grows _ := List.prefix_refl _
  grows' _ := List.prefix_refl _
  ends _ _ _ relates _ _ _ _ := ⟨rfl, relates, rfl, rfl, nofun⟩

theorem ofExcept (x : Except Failure α) : (Action.ofExcept x).Within F given fun y => x = .ok y := by
  cases x with
  | error e => exact throw e
  | ok y => exact pure fun _ => rfl

theorem now : Action.now.Within F given fun _ => True where
  counts _ := Nat.le_refl _
  grows _ := List.prefix_refl _
  grows' _ := List.prefix_refl _
  ends _ _ _ relates _ _ _ _ :=
    ⟨congrArg Except.ok relates.now, relates, rfl, rfl, fun _ _ => trivial⟩

/-- What may become the identifier of a new row. -/
theorem freshId : Action.freshId.Within F given F.Draws where
  counts _ := Nat.le_succ _
  grows _ := List.prefix_refl _
  grows' _ := List.prefix_refl _
  ends _ w _ relates begun room _ _ :=
    ⟨congrArg (fun n => Except.ok (Uuid.ofNat n)) relates.nextId,
      ⟨relates.own, relates.holds, relates.holds', relates.now, congrArg Nat.succ relates.nextId, relates.faults⟩,
      rfl, rfl, fun _ is => Except.ok.inj is ▸ ⟨w.nextId, begun, room, rfl⟩⟩

theorem bind {f f' : α → Action β} {post' : β → Prop} (first : a.Agrees F given a' post)
    (rest : ∀ x, (f x).Agrees F (given ∧ post x) (f' x) post') : (a >>= f).Agrees F given (a' >>= f') post' := by
  have counts (w : World) : (a.run w).2.nextId ≤ ((a >>= f).run w).2.nextId := by
    rw [Action.run_bind]
    rcases a.run w with ⟨e | x, w₁⟩
    · exact Nat.le_refl _
    · exact (rest x).counts w₁
  have grows (w : World) : (a.run w).2.offered <+: ((a >>= f).run w).2.offered := by
    rw [Action.run_bind]
    rcases a.run w with ⟨e | x, w₁⟩
    · exact List.prefix_refl _
    · exact (rest x).grows w₁
  have grows' (w : World) : (a'.run w).2.offered <+: ((a' >>= f').run w).2.offered := by
    rw [Action.run_bind]
    rcases a'.run w with ⟨e | x, w₁⟩
    · exact List.prefix_refl _
    · exact (rest x).grows' w₁
  constructor
  · intro w
    exact Nat.le_trans (first.counts w) (counts w)
  · intro w
    exact (first.grows w).trans (grows w)
  · intro w
    exact (first.grows' w).trans (grows' w)
  · intro g w w' relates begun room answers answers'
    have counted := first.counts w
    have before := first.ends g w w' relates begun (Nat.le_trans (counts w) room) (answers.earlier (grows w))
      (answers'.earlier (grows' w'))
    have later := answers.later (first.grows w)
    have later' := answers'.later (first.grows' w')
    rcases ran : a.run w with ⟨e | x, w₁⟩ <;> rcases ran' : a'.run w' with ⟨e' | x', w₁'⟩ <;>
      rw [ran, ran'] at before <;> cases before.answer
    · rw [Action.run_bind_of_error ran, Action.run_bind_of_error ran']
      exact ⟨rfl, before.relates, before.rest, before.rest', nofun⟩
    · rw [Action.run_bind_of_ok ran] at room later ⊢
      rw [Action.run_bind_of_ok ran'] at later' ⊢
      rw [ran] at counted later
      rw [ran'] at later'
      have after := (rest x).ends ⟨g, before.post x rfl⟩ w₁ w₁' before.relates (Nat.le_trans begun counted) room
        later later'
      exact ⟨after.answer, after.relates, after.rest.trans before.rest, after.rest'.trans before.rest', after.post⟩

/-- What comes before has done its part. -/
theorem andThen {f f' : α → Action β} {post' : β → Prop} (first : a.Agrees F given a' post)
    (rest : ∀ x, (f x).Agrees F given (f' x) post') : (a >>= f).Agrees F given (a' >>= f') post' :=
  first.bind fun x => (rest x).when And.left

theorem attempt (h : a.Agrees F given a' post) :
    a.attempt.Agrees F given a'.attempt fun r => ∀ x, r = .ok x → post x where
  counts := h.counts
  grows := h.grows
  grows' := h.grows'
  ends g w w' relates begun room answers answers' :=
    have ends := h.ends g w w' relates begun room answers answers'
    ⟨congrArg Except.ok ends.answer, ends.relates, ends.rest, ends.rest', fun _ is => Except.ok.inj is ▸ ends.post⟩

theorem transaction (h : a.Agrees F given a' post) :
    (HostingBilling.transaction a).Agrees F given (HostingBilling.transaction a') post := by
  have run (b : Action α) (w : World) : ((HostingBilling.transaction b).run w).2.nextId = (b.run w).2.nextId ∧
      ((HostingBilling.transaction b).run w).2.offered = (b.run w).2.offered := by
    rw [Action.run_transaction]
    rcases b.run w with ⟨e | x, w₁⟩ <;> exact ⟨rfl, rfl⟩
  constructor
  · intro w
    rw [(run a w).1]
    exact h.counts w
  · intro w
    rw [(run a w).2]
    exact h.grows w
  · intro w
    rw [(run a' w).2]
    exact h.grows' w
  · intro g w w' relates begun room answers answers'
    rw [(run a w).1] at room
    unfold Outside.Answers at answers answers'
    rw [(run a w).2] at answers
    rw [(run a' w').2] at answers'
    have ends := h.ends g w w' relates begun room answers answers'
    rw [Action.run_transaction, Action.run_transaction]
    rcases ran : a.run w with ⟨e | x, w₁⟩ <;> rcases ran' : a'.run w' with ⟨e' | x', w₁'⟩ <;>
      rw [ran, ran'] at ends <;> cases ends.answer
    · exact ⟨rfl, ⟨relates.own, relates.holds, relates.holds', ends.relates.now, ends.relates.nextId,
        ends.relates.faults⟩, rfl, rfl, nofun⟩
    · exact ends

theorem ite {c : Prop} [Decidable c] {b b' : Action α} (ha : a.Agrees F (given ∧ c) a' post)
    (hb : b.Agrees F (given ∧ ¬ c) b' post) :
    (if c then a else b).Agrees F given (if c then a' else b') post := by
  split
  · next holds => exact ha.when fun g => ⟨g, holds⟩
  · next fails => exact hb.when fun g => ⟨g, fails⟩

end Action.Agrees

/-! ## Statements within a purchase -/

/-- What one statement may make of a store. -/
structure Purchase.Steps (F : Purchase) (s s' : Store) : Prop where
  holds : F.Holds s'
  rest : F.rest s' = F.rest s

theorem Purchase.Steps.refl {F : Purchase} {s : Store} (h : F.Holds s) : F.Steps s s := ⟨h, rfl⟩

namespace Action.Agrees

variable {α : Type} {F : Comparison} {given : Prop} {post : α → Prop}

/-- A statement that answers and does the same to the rows of the purchase when there are no other rows. -/
theorem execute (st : Statement) {f : Instant → Store → Except DatabaseFailure (α × Store)}
    (owned : given → ∀ now s, F.Holds s → f now (F.own s) = (f now s).map fun x => (x.1, F.own x.2))
    (steps : given → ∀ now s, F.Holds s → ∀ x s', f now s = .ok (x, s') → F.Steps s s' ∧ post x) :
    (HostingBilling.execute st f).Within F given post := by
  have offered (w : World) : ((HostingBilling.execute st f).run w).2.offered = w.offered := by
    obtain ⟨_, _, _, left⟩ := (Action.Plain.execute st f).frame w
    rw [left]
  have grows (w : World) : w.offered <+: ((HostingBilling.execute st f).run w).2.offered := by
    rewrite [offered]
    exact List.prefix_refl _
  refine ⟨fun w => ((Action.Plain.execute st f).counts w).nextId, grows, grows, ?_⟩
  intro g w w' relates _ _ _ _
  have same := (owned g w.now w'.store relates.holds').symm.trans
    ((congrArg (f w.now) relates.own).trans (owned g w.now w.store relates.holds))
  have step := steps g w.now w.store relates.holds
  have step' := steps g w.now w'.store relates.holds'
  unfold HostingBilling.execute Action.run
  dsimp only
  rw [relates.faults, relates.now]
  cases (strike st w.faults).1 with
  | true => exact ⟨rfl, ⟨relates.own, relates.holds, relates.holds', rfl, relates.nextId, rfl⟩, rfl, rfl, nofun⟩
  | false =>
    rcases answer : f w.now w.store with e | ⟨x, s⟩ <;> rcases answer' : f w.now w'.store with e' | ⟨x', s'⟩ <;>
      rw [answer, answer'] at same
    · cases same
      exact ⟨rfl, ⟨relates.own, relates.holds, relates.holds', rfl, relates.nextId, rfl⟩, rfl, rfl, nofun⟩
    · cases same
    · cases same
    · obtain ⟨rfl, own⟩ := Prod.mk.inj (Except.ok.inj same)
      obtain ⟨kept, is⟩ := step x' s answer
      obtain ⟨kept', -⟩ := step' x' s' answer'
      exact ⟨rfl, ⟨own, kept.holds, kept'.holds, rfl, relates.nextId, rfl⟩, kept.rest, kept'.rest,
        fun _ same => Except.ok.inj same ▸ is⟩

theorem change (st : Statement) {f : Instant → Store → α × Store}
    (owned : given → ∀ now s, F.Holds s → f now (F.own s) = ((f now s).1, F.own (f now s).2))
    (steps : given → ∀ now s, F.Holds s → F.Steps s (f now s).2 ∧ post (f now s).1) :
    (HostingBilling.change st f).Within F given post := by
  apply execute
  · intro g now s holds
    exact congrArg Except.ok (owned g now s holds)
  · intro g now s holds x s' answer
    have step := steps g now s holds
    rw [(Except.ok.inj answer : f now s = (x, s'))] at step
    exact step

/-- A statement whose answer tells nothing of rows. -/
theorem alter (st : Statement) {f : Instant → Store → α × Store}
    (owned : given → ∀ now s, F.Holds s → f now (F.own s) = ((f now s).1, F.own (f now s).2))
    (steps : given → ∀ now s, F.Holds s → F.Steps s (f now s).2) :
    (HostingBilling.change st f).Within F given fun _ => True :=
  change st owned fun g now s holds => ⟨steps g now s holds, trivial⟩

theorem ask (st : Statement) {f : Instant → Store → α}
    (owned : given → ∀ now s, F.Holds s → f now (F.own s) = f now s)
    (answers : given → ∀ now s, F.Holds s → post (f now s)) :
    (HostingBilling.ask st f).Within F given post := by
  apply execute
  · intro g now s holds
    exact congrArg (fun x => Except.ok (x, F.own s)) (owned g now s holds)
  · intro g now s holds x s' answer
    cases answer
    exact ⟨.refl holds, answers g now s holds⟩

end Action.Agrees

namespace Purchase

variable {F : Purchase} {s : Store} {id : Uuid}

theorem Draws.draws (h : F.Draws id) : F.draws id = true := by
  obtain ⟨n, begun, room, rfl⟩ := h
  rw [Purchase.draws, Uuid.val_ofNat (Nat.lt_of_lt_of_le room F.room)]
  simp [begun, room]

theorem Draws.service (h : F.Draws id) : F.services id = true := by
  obtain ⟨n, begun, room, rfl⟩ := h
  exact F.serviceDrawn n begun room

theorem Draws.job (h : F.Draws id) : F.jobs id = true := by
  obtain ⟨n, begun, room, rfl⟩ := h
  exact F.jobDrawn n begun room

theorem Draws.payment (h : F.Draws id) : F.payments id = true := by
  obtain ⟨n, begun, room, rfl⟩ := h
  exact F.paymentDrawn n begun room

theorem Draws.event (h : F.Draws id) : F.events id = true := by
  obtain ⟨n, begun, room, rfl⟩ := h
  exact F.eventDrawn n begun room

/-! ### Steps in one table -/

/-- Other tables than those of payments, events, services and jobs are free to change. -/
theorem Holds.elsewhere {s' : Store} (h : F.Holds s) (items : s'.items = s.items)
    (services : s'.services = s.services) (jobs : s'.jobs = s.jobs) (events : s'.events = s.events)
    (payments : s'.payments = s.payments) : F.Holds s' where
  items := items ▸ h.items
  services := services ▸ h.services
  jobs := jobs ▸ h.jobs
  events := events ▸ h.events
  payments := payments ▸ h.payments
  pays := payments ▸ h.pays

theorem Holds.steps_payments (h : F.Holds s) {rows : List PaymentRow}
    (holds : ∀ r ∈ rows, F.payments r.id = (r.intent.any F.intents || r.session.any F.sessions))
    (pays : ∀ r ∈ rows, F.payments r.id = true → F.Pays r)
    (rest : (rows.filter fun r => !F.payments r.id) = s.payments.filter fun r => !F.payments r.id) :
    F.Steps s { s with payments := rows } :=
  ⟨⟨h.items, h.services, h.jobs, h.events, holds, pays⟩, by simp only [Purchase.rest, rest]⟩

theorem Holds.steps_events (h : F.Holds s) {rows : List EventRow}
    (holds : ∀ r ∈ rows, F.events r.id = (r.eventId == F.eventId))
    (rest : (rows.filter fun r => !F.events r.id) = s.events.filter fun r => !F.events r.id) :
    F.Steps s { s with events := rows } :=
  ⟨⟨h.items, h.services, h.jobs, holds, h.payments, h.pays⟩, by simp only [Purchase.rest, rest]⟩

theorem Holds.steps_services (h : F.Holds s) {rows : List ServiceRow}
    (holds : ∀ r ∈ rows, F.services r.id = F.isItem r.itemId)
    (rest : (rows.filter fun r => !F.services r.id) = s.services.filter fun r => !F.services r.id) :
    F.Steps s { s with services := rows } :=
  ⟨⟨h.items, holds, h.jobs, h.events, h.payments, h.pays⟩, by simp only [Purchase.rest, rest]⟩

theorem Holds.steps_jobs (h : F.Holds s) {rows : List JobRow}
    (holds : ∀ r ∈ rows, F.jobs r.id = F.services r.serviceId)
    (rest : (rows.filter fun r => !F.jobs r.id) = s.jobs.filter fun r => !F.jobs r.id) :
    F.Steps s { s with jobs := rows } :=
  ⟨⟨h.items, h.services, holds, h.events, h.payments, h.pays⟩, by simp only [Purchase.rest, rest]⟩

/-- Rows of a key are rows of the purchase if the key is. -/
theorem inside_of_key {ρ κ : Type} [BEq κ] [LawfulBEq κ] {rows : List ρ} {key : ρ → κ} {k : κ}
    {own : κ → Bool} (h : own k = true) : ∀ r ∈ rows, (key r == k) = true → own (key r) = true := by
  intro r _ same
  rw [eq_of_beq same]
  exact h

theorem inside_of_key_and {ρ κ : Type} [BEq κ] [LawfulBEq κ] {rows : List ρ} {key : ρ → κ} {k : κ}
    {own : κ → Bool} {also : ρ → Bool} (h : own k = true) :
    ∀ r ∈ rows, (key r == k && also r) = true → own (key r) = true := by
  intro r hr selected
  exact inside_of_key h r hr (Bool.and_eq_true_iff.mp selected).1

end Purchase

end HostingBilling
