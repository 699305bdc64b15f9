import HostingBilling.Delivery
import HostingBilling.Proofs.Independence.Purchases

/-!
# Statements within a purchase

The statements of a delivery find rows by a key, or by a reference from a row that was found. Main
statements: given keys of a purchase, each of them stays within the purchase, and the rows and identifiers
that it answers are the purchase's, too.
-/

namespace HostingBilling

/-! ## Orders -/

namespace Store

variable {F : Purchase} {s : Store} {id : Uuid}

theorem order?_own (here : F.orders id = true) (s : Store) : (F.own s).order? id = s.order? id :=
  find?_filter_of (fun r : OrderRow => F.orders r.id) (Purchase.inside_of_key here)

theorem moveOrder_own (here : F.orders id = true) (now : Instant) (source target : OrderStatus) (s : Store) :
    (F.own s).moveOrder now id source target =
      ((s.moveOrder now id source target).1, F.own (s.moveOrder now id source target).2) := by
  have inside : ∀ r ∈ s.orders, (r.id == id && r.status == source) = true → F.orders r.id = true :=
    Purchase.inside_of_key_and here
  simp only [moveOrder, Purchase.own]
  rw [any_filter_of _ inside, filter_changeRows]
  exact fun _ => rfl

theorem moveOrder_steps (here : F.orders id = true) (now : Instant) (source target : OrderStatus)
    (holds : F.Holds s) : F.Steps s (s.moveOrder now id source target).2 := by
  refine ⟨holds.elsewhere rfl rfl rfl rfl rfl, ?_⟩
  have inside : ∀ r ∈ s.orders, (r.id == id && r.status == source) = true → F.orders r.id = true :=
    Purchase.inside_of_key_and here
  simp only [moveOrder, Purchase.rest]
  rw [filter_not_changeRows _ inside]
  exact fun _ => rfl

/-- A service of an order of the purchase is a service of the purchase. -/
theorem isServiceOf_inside (holds : F.Holds s) (here : F.orders id = true) {serviceId : Uuid}
    (belongs : s.isServiceOf id serviceId = true) : F.services serviceId = true := by
  unfold isServiceOf at belongs
  cases found : s.service? serviceId with
  | none => simp [found] at belongs
  | some r =>
    cases line : s.item? r.itemId with
    | none => simp [found, line] at belongs
    | some item =>
      have hr : r ∈ s.services := List.mem_of_find?_eq_some found
      have same : r.id = serviceId := by simpa using List.find?_some found
      have hitem : item ∈ s.items := List.mem_of_find?_eq_some line
      have named : item.id = r.itemId := by simpa using List.find?_some line
      have of : item.orderId = id := by simpa [found, line] using belongs
      rw [← same, holds.services r hr]
      refine List.any_eq_true.mpr ⟨item, holds.items ▸ hitem, ?_⟩
      simp [named, of, here]

theorem isServiceOf_own {serviceId : Uuid} (own : F.services serviceId = true) (s : Store) (orderId : Uuid) :
    (F.own s).isServiceOf orderId serviceId = s.isServiceOf orderId serviceId := by
  have services : (F.own s).service? serviceId = s.service? serviceId :=
    find?_filter_of (fun r : ServiceRow => F.services r.id) (Purchase.inside_of_key own)
  unfold isServiceOf
  rw [services]
  rfl

/-- The work on an order is the work of its purchase. -/
theorem hasWorkDone_own (holds : F.Holds s) (here : F.orders id = true) :
    (F.own s).hasWorkDone id = s.hasWorkDone id := by
  have inside : ∀ j ∈ s.jobs, ((j.status.isLive || j.status == .completed) &&
      s.isServiceOf id j.serviceId) = true → F.jobs j.id = true := by
    intro j hj works
    rw [holds.jobs j hj]
    exact isServiceOf_inside holds here (Bool.and_eq_true_iff.mp works).2
  unfold hasWorkDone
  rw [← any_filter_of (fun j : JobRow => F.jobs j.id) inside]
  have same : ∀ j ∈ s.jobs.filter (fun j => F.jobs j.id),
      (F.own s).isServiceOf id j.serviceId = s.isServiceOf id j.serviceId := by
    intro j hj
    obtain ⟨hj, own⟩ := List.mem_filter.mp hj
    exact isServiceOf_own (holds.jobs j hj ▸ own) s id
  rw [Bool.eq_iff_iff, List.any_eq_true, List.any_eq_true]
  constructor
  · rintro ⟨j, hj, works⟩
    exact ⟨j, hj, same j hj ▸ works⟩
  · rintro ⟨j, hj, works⟩
    exact ⟨j, hj, by rw [same j hj]; exact works⟩

end Store

namespace Orders

variable {F : Comparison} {id : Uuid}

theorem lock_within : (lock id).Within F (F.orders id = true) fun x => ∀ o, x = some o → o.id = id := by
  apply Action.Agrees.ask
  · intro here now s _
    exact Store.order?_own here s
  · intro _ now s _ o found
    simpa using List.find?_some found

theorem items_within : (items id).Within F (F.orders id = true) fun x => ∀ r ∈ x, F.isItem r.id = true := by
  apply Action.Agrees.ask
  · intro _ now s _
    rfl
  · intro here now s holds r hr
    obtain ⟨hr, of⟩ := Store.mem_itemsOf.mp hr
    refine List.any_eq_true.mpr ⟨r, holds.items ▸ hr, ?_⟩
    simp [of, here]

theorem status_within : (status id).Within F (F.orders id = true) fun _ => True := by
  apply Action.Agrees.ask
  · intro here now s _
    rw [Store.order?_own here s]
  · intro _ _ _ _
    trivial

theorem move_within (source target : OrderStatus) :
    (move id source target).Within F (F.orders id = true) fun _ => True := by
  apply Action.Agrees.andThen (.ofExcept _)
  intro target
  apply Action.Agrees.alter
  · intro here now s _
    exact Store.moveOrder_own here now source target s
  · intro here now s holds
    exact Store.moveOrder_steps here now source target holds

theorem takeBack_within : (takeBack id).Within F (F.orders id = true) fun _ => True := by
  apply Action.Agrees.andThen (.ofExcept _)
  intro target
  apply Action.Agrees.alter
  · intro here now s holds
    simp only [Store.revertOrder, Store.hasWorkDone_own holds here]
    split
    · rfl
    · exact Store.moveOrder_own here now .provisioning target s
  · intro here now s holds
    unfold Store.revertOrder
    split
    · exact .refl holds
    · exact Store.moveOrder_steps here now .provisioning target holds

end Orders

/-! ## Invoices -/

namespace Store

variable {F : Purchase} {s : Store}

theorem initialInvoice?_own {id : Uuid} (here : F.orders id = true) (s : Store) :
    (F.own s).initialInvoice? id = s.initialInvoice? id := by
  apply find?_filter_of
  intro r _ selected
  have of : r.orderId = id := by simpa using (Bool.and_eq_true_iff.mp selected).1
  rw [of]
  exact here

theorem insertInvoice_own {r : InvoiceRow} (here : F.orders r.orderId = true) (s : Store) :
    (F.own s).insertInvoice r = (s.insertInvoice r).map fun x => (x.1, F.own x.2) := by
  unfold insertInvoice
  rw [order?_own here]
  split
  · simp [Except.map, Purchase.own, here]
  · rfl

theorem insertInvoice_steps {r : InvoiceRow} (here : F.orders r.orderId = true) (holds : F.Holds s) {x : Unit}
    {s' : Store} (inserted : s.insertInvoice r = .ok (x, s')) : F.Steps s s' := by
  unfold insertInvoice at inserted
  split at inserted
  · cases inserted
    refine ⟨holds.elsewhere rfl rfl rfl rfl rfl, ?_⟩
    simp [Purchase.rest, here]
  · cases inserted

theorem insertInitial_own {r : InvoiceRow} (here : F.orders r.orderId = true) (s : Store) :
    (F.own s).insertInitial r = (s.insertInitial r).map fun x => (x.1, F.own x.2) := by
  unfold insertInitial
  rw [initialInvoice?_own here, insertInvoice_own here]
  split
  · rfl
  · cases s.insertInvoice r <;> rfl

theorem insertInitial_steps {r : InvoiceRow} (here : F.orders r.orderId = true) (holds : F.Holds s) {x : Bool}
    {s' : Store} (inserted : s.insertInitial r = .ok (x, s')) : F.Steps s s' := by
  unfold insertInitial at inserted
  split at inserted
  · cases inserted
    exact .refl holds
  · rcases added : s.insertInvoice r with e | ⟨u, s₁⟩
    · rw [added] at inserted
      cases inserted
    · rw [added] at inserted
      cases inserted
      exact insertInvoice_steps here holds added

end Store

namespace Invoices

variable {F : Comparison} {given : Prop}

theorem insertLine_within (id : Uuid) (text : String) (quantity unit amount : Int) :
    (insertLine id text quantity unit amount).Within F given fun _ => True := by
  apply Action.Agrees.bind .freshId
  intro lineId
  apply Action.Agrees.alter
  · intro drawn now s _
    simp [Store.insertInvoiceLine, Purchase.own, drawn.2.draws]
  · intro drawn now s holds
    refine ⟨holds.elsewhere rfl rfl rfl rfl rfl, ?_⟩
    simp [Store.insertInvoiceLine, Purchase.rest, drawn.2.draws]

theorem insertLines_within (id : Uuid) (priced : List PricedItem) :
    (insertLines id priced).Within F given fun _ => True := by
  induction priced with
  | nil => exact .pure fun _ => trivial
  | cons p rest ih => exact .andThen (insertLine_within _ _ _ _ _) fun _ => ih

theorem ensureInitial_within (order : OrderRow) (items : List ItemRow) :
    (ensureInitial order items).Within F (F.orders order.id = true) fun _ => True := by
  apply Action.Agrees.andThen (.ofExcept _)
  intro priced
  apply Action.Agrees.andThen (.ofExcept _)
  intro total
  apply Action.Agrees.andThen .now
  intro now
  apply Action.Agrees.andThen .freshId
  intro id
  apply Action.Agrees.andThen
  · apply Action.Agrees.execute
    · intro here _ s _
      exact Store.insertInitial_own here s
    · intro here _ s holds created s' inserted
      exact ⟨Store.insertInitial_steps here holds inserted, trivial⟩
  intro created
  apply Action.Agrees.ite
  · exact .andThen (insertLines_within _ _) fun _ => .pure fun _ => trivial
  apply Action.Agrees.execute
  · intro here _ s _
    rw [Store.initialInvoice?_own here.1]
    cases s.initialInvoice? order.id <;> rfl
  · intro _ _ s holds x s' found
    split at found
    · cases found
      exact ⟨.refl holds, trivial⟩
    · cases found

end Invoices

/-! ## Payments -/

/-- What a settled checkout says about its payment has keys of the purchase. -/
structure Purchase.Settles (F : Purchase) (p : SettledPayment) : Prop where
  intent : ∀ i, p.intent = some i → F.intents i.text = true
  session : F.sessions p.session = true
  order : F.orders p.orderId = true

namespace Purchase.Settles

variable {F : Purchase} {p : SettledPayment}

/-- The intent that a settled payment has is its old one or the one of the checkout. -/
theorem intents (settles : F.Settles p) {old : Option String} (known : ∀ i, old = some i → F.intents i = true) :
    ∀ i, ((p.intent.map (·.text)) <|> old) = some i → F.intents i = true := by
  intro i is
  cases given : p.intent with
  | none =>
    rw [given] at is
    exact known i is
  | some intent =>
    rw [given] at is
    cases is
    exact settles.intent intent given

theorem intents_new (settles : F.Settles p) : ∀ i, p.intent.map (·.text) = some i → F.intents i = true := by
  intro i is
  obtain ⟨intent, given, rfl⟩ := Option.map_eq_some_iff.mp is
  exact settles.intent intent given

/-- A payment with keys of the checkout has keys of the purchase. -/
theorem pays (settles : F.Settles p) {r : PaymentRow} (intents : ∀ i, r.intent = some i → F.intents i = true)
    (session : r.session = some p.session) (order : r.orderId = some p.orderId) : F.Pays r where
  intent := intents
  session x is := by
    cases session.symm.trans is
    exact settles.session
  order orderId is := by
    cases order.symm.trans is
    exact settles.order

end Purchase.Settles

namespace Store

variable {F : Purchase} {s : Store}

theorem paymentOfIntent_inside (holds : F.Holds s) {intent : String} (here : F.intents intent = true) :
    ∀ r ∈ s.payments, (r.intent == some intent) = true → F.payments r.id = true := by
  intro r hr is
  have is : r.intent = some intent := by simpa using is
  rw [holds.payments r hr, is]
  simp [here]

theorem paymentOfSession_inside (holds : F.Holds s) {session : String} (here : F.sessions session = true) :
    ∀ r ∈ s.payments, (r.session == some session) = true → F.payments r.id = true := by
  intro r hr is
  have is : r.session = some session := by simpa using is
  rw [holds.payments r hr, is]
  simp [here]

theorem checkPaymentKeys_own (holds : F.Holds s) {intent : Option String} {session : String}
    (intents : ∀ i, intent = some i → F.intents i = true) (sessions : F.sessions session = true) (id : Uuid) :
    (F.own s).checkPaymentKeys id intent session = s.checkPaymentKeys id intent session := by
  have taken : (F.own s).intentTaken id intent = s.intentTaken id intent := by
    cases intent with
    | none => rfl
    | some i =>
      unfold intentTaken
      congr 1
      apply any_filter_of
      intro r hr is
      exact paymentOfIntent_inside holds (intents i rfl) r hr (Bool.and_eq_true_iff.mp is).2
  have used : (F.own s).sessionTaken id session = s.sessionTaken id session := by
    apply any_filter_of
    intro r hr is
    exact paymentOfSession_inside holds sessions r hr (Bool.and_eq_true_iff.mp is).2
  unfold checkPaymentKeys
  rw [taken, used]

/-- A payment with the session of the purchase and no keys of others. -/
theorem pays_any {r : PaymentRow} {session : String} (is : r.session = some session)
    (here : F.sessions session = true) : (r.intent.any F.intents || r.session.any F.sessions) = true := by
  simp [is, here]

theorem insertPayment_own {p : SettledPayment} {id : Uuid} (settles : F.Settles p) (drawn : F.Draws id)
    (holds : F.Holds s) (now : Instant) :
    (F.own s).insertPayment now id p = (s.insertPayment now id p).map fun x => (x.1, F.own x.2) := by
  simp only [insertPayment, checkPaymentKeys_own holds settles.intents_new settles.session]
  cases s.checkPaymentKeys id (p.intent.map (·.text)) p.session with
  | error e => rfl
  | ok u => simp [Except.map, bind, Except.bind, pure, Except.pure, Purchase.own, drawn.payment]

theorem updatePayment_own {p : SettledPayment} {r : PaymentRow} (settles : F.Settles p) (pays : F.Pays r)
    (holds : F.Holds s) (now : Instant) :
    (F.own s).updatePayment now r p = (s.updatePayment now r p).map fun x => (x.1, F.own x.2) := by
  simp only [updatePayment, checkPaymentKeys_own holds (settles.intents pays.intent) settles.session]
  cases s.checkPaymentKeys r.id ((p.intent.map (·.text)) <|> r.intent) p.session with
  | error e => rfl
  | ok u =>
    simp only [Except.map, bind, Except.bind, pure, Except.pure, Purchase.own]
    rw [filter_changeRows]
    exact fun _ => rfl

theorem insertPayment_steps {p : SettledPayment} {id : Uuid} (settles : F.Settles p) (drawn : F.Draws id)
    (holds : F.Holds s) {now : Instant} {x : Unit} {s' : Store}
    (inserted : s.insertPayment now id p = .ok (x, s')) : F.Steps s s' := by
  cases free : s.checkPaymentKeys id (p.intent.map (·.text)) p.session with
  | error e =>
    simp only [insertPayment, free] at inserted
    cases inserted
  | ok u =>
    simp only [insertPayment, free] at inserted
    cases inserted
    apply holds.steps_payments
    · intro r hr
      rcases List.mem_append.mp hr with hr | hr
      · exact holds.payments r hr
      · rw [List.mem_singleton.mp hr, drawn.payment, pays_any rfl settles.session]
    · intro r hr own
      rcases List.mem_append.mp hr with hr | hr
      · exact holds.pays r hr own
      · rw [List.mem_singleton.mp hr]
        exact settles.pays settles.intents_new rfl rfl
    · simp [drawn.payment]

theorem updatePayment_steps {p : SettledPayment} {r : PaymentRow} (settles : F.Settles p)
    (here : F.payments r.id = true) (holds : F.Holds s) {now : Instant} {x : Unit} {s' : Store}
    (updated : s.updatePayment now r p = .ok (x, s')) : F.Steps s s' := by
  cases free : s.checkPaymentKeys r.id ((p.intent.map (·.text)) <|> r.intent) p.session with
  | error e =>
    simp only [updatePayment, free] at updated
    cases updated
  | ok u =>
    simp only [updatePayment, free] at updated
    cases updated
    apply holds.steps_payments
    · intro row hrow
      obtain ⟨x, hx, rfl⟩ := mem_changeRows.mp hrow
      split
      · next same =>
        change F.payments x.id = _
        rw [eq_of_beq same, here, pays_any rfl settles.session]
      · exact holds.payments x hx
    · intro row hrow own
      obtain ⟨x, hx, rfl⟩ := mem_changeRows.mp hrow
      split
      · next same =>
        have pays : F.Pays x := holds.pays x hx (by rw [eq_of_beq same, here])
        exact settles.pays (settles.intents pays.intent) rfl rfl
      · next other =>
        rw [if_neg other] at own
        exact holds.pays x hx own
    · exact filter_not_changeRows _ (Purchase.inside_of_key here) fun _ => rfl

theorem setPaymentStatus_steps {id : Uuid} (here : F.payments id = true) (holds : F.Holds s) (now : Instant)
    (status : PaymentStatus) : F.Steps s (s.setPaymentStatus now id status) := by
  apply holds.steps_payments
  · intro row hrow
    obtain ⟨x, hx, rfl⟩ := mem_changeRows.mp hrow
    split <;> exact holds.payments x hx
  · intro row hrow
    obtain ⟨x, hx, rfl⟩ := mem_changeRows.mp hrow
    split
    · exact fun own => ⟨(holds.pays x hx own).intent, (holds.pays x hx own).session, (holds.pays x hx own).order⟩
    · exact holds.pays x hx
  · exact filter_not_changeRows _ (Purchase.inside_of_key here) fun _ => rfl

end Store

namespace Payments

variable {F : Comparison}

/-- A payment looked for by a key of the purchase is one of the purchase. -/
theorem find_within (st : Statement) {given : Prop} {selects : PaymentRow → Bool}
    (inside : given → ∀ s, F.Holds s → ∀ r ∈ s.payments, selects r = true → F.payments r.id = true) :
    (ask st fun _ s => s.payments.find? selects).Within F given
      fun x => ∀ r, x = some r → F.payments r.id = true ∧ F.Pays r := by
  apply Action.Agrees.ask
  · intro here now s holds
    exact find?_filter_of _ (inside here s holds)
  · intro here now s holds r found
    have hr : r ∈ s.payments := List.mem_of_find?_eq_some found
    have own := inside here s holds r hr (List.find?_some found)
    exact ⟨own, holds.pays r hr own⟩

theorem byIntent_within (intent : IntentId) : (byIntent intent).Within F (F.intents intent.text = true)
    fun x => ∀ r, x = some r → F.payments r.id = true ∧ F.Pays r :=
  find_within _ fun here _ holds => Store.paymentOfIntent_inside holds here

theorem bySession_within (session : String) : (bySession session).Within F (F.sessions session = true)
    fun x => ∀ r, x = some r → F.payments r.id = true ∧ F.Pays r :=
  find_within _ fun here _ holds => Store.paymentOfSession_inside holds here

theorem ofCheckout_within (p : SettledPayment) : (ofCheckout p).Within F (F.Settles p)
    fun x => ∀ r, x = some r → F.payments r.id = true ∧ F.Pays r := by
  unfold ofCheckout
  cases given : p.intent with
  | none =>
    have asksNothing : (pure none : Action (Option PaymentRow)).Within F (F.Settles p) (· = none) :=
      .pure fun _ => rfl
    apply asksNothing.bind
    rintro (_ | r)
    · exact (bySession_within p.session).when fun known => known.1.session
    · exact .pure fun known => nomatch known.2
  | some intent =>
    apply Action.Agrees.bind ((byIntent_within intent).when fun settles => settles.intent intent given)
    rintro (_ | r)
    · exact (bySession_within p.session).when fun known => known.1.session
    · exact .pure fun known => known.2

theorem record_within (p : SettledPayment) : (record p).Within F (F.Settles p) fun _ => True := by
  apply Action.Agrees.bind (ofCheckout_within p)
  rintro (_ | r)
  · apply Action.Agrees.bind .freshId
    intro id
    apply Action.Agrees.andThen
    · apply Action.Agrees.execute
      · intro known now s holds
        exact Store.insertPayment_own known.1.1 known.2 holds now
      · intro known now s holds x s' inserted
        exact ⟨Store.insertPayment_steps known.1.1 known.2 holds inserted, trivial⟩
    · exact fun _ => .pure fun _ => trivial
  · apply Action.Agrees.ite (.pure fun _ => trivial)
    apply Action.Agrees.andThen
    · apply Action.Agrees.execute
      · intro known now s holds
        exact Store.updatePayment_own known.1.1 (known.1.2 r rfl).2 holds now
      · intro known now s holds x s' updated
        exact ⟨Store.updatePayment_steps known.1.1 (known.1.2 r rfl).1 holds updated, trivial⟩
    · exact fun _ => .pure fun _ => trivial

theorem setStatus_within (id : Uuid) (status : PaymentStatus) :
    (setStatus id status).Within F (F.payments id = true) fun _ => True := by
  apply Action.Agrees.alter
  · intro _ now s _
    simp only [Store.setPaymentStatus, Purchase.own]
    rw [filter_changeRows]
    exact fun _ => rfl
  · intro here now s holds
    exact Store.setPaymentStatus_steps here holds now status

theorem recordRefund_within (paymentId : Uuid) (x : Refund) :
    (recordRefund paymentId x).Within F (F.refunds x.id = true) fun _ => True := by
  apply Action.Agrees.andThen .freshId
  intro id
  apply Action.Agrees.alter
  · intro here now s _
    have known : (F.own s).refunds.any (fun r => r.refundId == x.id) = s.refunds.any fun r => r.refundId == x.id :=
      any_filter_of (fun r : RefundRow => F.refunds r.refundId) (Purchase.inside_of_key here)
    unfold Store.recordRefund
    rw [known]
    split
    · simp only [Purchase.own]
      rw [filter_changeRows]
      exact fun _ => rfl
    · simp [Purchase.own, here]
  · intro here now s holds
    unfold Store.recordRefund
    split
    · refine ⟨holds.elsewhere rfl rfl rfl rfl rfl, ?_⟩
      simp only [Purchase.rest]
      rw [filter_not_changeRows _ (Purchase.inside_of_key here)]
      exact fun _ => rfl
    · refine ⟨holds.elsewhere rfl rfl rfl rfl rfl, ?_⟩
      simp [Purchase.rest, here]

theorem recordDispute_within (paymentId : Uuid) (x : Dispute) :
    (recordDispute paymentId x).Within F (F.disputes x.id = true) fun _ => True := by
  apply Action.Agrees.andThen .freshId
  intro id
  apply Action.Agrees.alter
  · intro here now s _
    have known : (F.own s).disputes.any (fun r => r.disputeId == x.id) =
        s.disputes.any fun r => r.disputeId == x.id :=
      any_filter_of (fun r : DisputeRow => F.disputes r.disputeId) (Purchase.inside_of_key here)
    unfold Store.recordDispute
    rw [known]
    split
    · simp only [Purchase.own]
      rw [filter_changeRows]
      exact fun _ => rfl
    · simp [Purchase.own, here]
  · intro here now s holds
    unfold Store.recordDispute
    split
    · refine ⟨holds.elsewhere rfl rfl rfl rfl rfl, ?_⟩
      simp only [Purchase.rest]
      rw [filter_not_changeRows _ (Purchase.inside_of_key here)]
      exact fun _ => rfl
    · refine ⟨holds.elsewhere rfl rfl rfl rfl rfl, ?_⟩
      simp [Purchase.rest, here]

end Payments

/-! ## Services and jobs -/

namespace Store

variable {F : Purchase} {s : Store} {selects : ServiceRow → Bool} {change : ServiceRow → ServiceRow}

theorem changeServices_own (inside : ∀ r ∈ s.services, selects r = true → F.services r.id = true)
    (id : ∀ r, (change r).id = r.id) : (F.own s).changeServices selects change =
      ((s.changeServices selects change).1, F.own (s.changeServices selects change).2) := by
  simp only [changeServices, Purchase.own]
  rw [any_filter_of _ inside, filter_changeRows]
  exact fun r => by rw [id]

theorem changeServices_steps (holds : F.Holds s)
    (inside : ∀ r ∈ s.services, selects r = true → F.services r.id = true) (id : ∀ r, (change r).id = r.id)
    (item : ∀ r, (change r).itemId = r.itemId) : F.Steps s (s.changeServices selects change).2 := by
  apply holds.steps_services
  · intro row hrow
    obtain ⟨r, hr, rfl⟩ := mem_changeRows.mp hrow
    split
    · rw [id, item]
      exact holds.services r hr
    · exact holds.services r hr
  · exact filter_not_changeRows _ inside fun r => by rw [id]

end Store

namespace Services

variable {F : Comparison}

theorem served_inside {s : Store} (holds : F.Holds s) {itemId : Uuid} (here : F.isItem itemId = true) :
    ∀ r ∈ s.services, (r.itemId == itemId) = true → F.services r.id = true := by
  intro r hr is
  rw [holds.services r hr, eq_of_beq is, here]

theorem ensure_within (userId : Uuid) (item : ItemRow) (expiresAt : Instant) :
    (ensure userId item expiresAt).Within F (F.isItem item.id = true) fun r => F.services r.id = true := by
  apply Action.Agrees.bind .freshId
  intro id
  apply Action.Agrees.andThen
  · apply Action.Agrees.alter
    · intro known now s holds
      have served : (F.own s).services.any (fun r => r.itemId == item.id) =
          s.services.any fun r => r.itemId == item.id := any_filter_of _ (served_inside holds known.1)
      unfold Store.insertService
      rw [served]
      split
      · rfl
      · simp [Purchase.own, known.2.service]
    · intro known now s holds
      unfold Store.insertService
      split
      · exact .refl holds
      · apply holds.steps_services
        · intro r hr
          rcases List.mem_append.mp hr with hr | hr
          · exact holds.services r hr
          · rw [List.mem_singleton.mp hr, known.1, known.2.service]
        · simp [known.2.service]
  · intro _
    apply Action.Agrees.execute
    · intro known now s holds
      have found : ((F.own s).services.find? fun r => r.itemId == item.id) =
          s.services.find? fun r => r.itemId == item.id := find?_filter_of _ (served_inside holds known.1)
      rw [found]
      cases s.services.find? fun r => r.itemId == item.id <;> rfl
    · intro known now s holds r s' answer
      cases found : s.services.find? fun r => r.itemId == item.id with
      | none =>
        rw [found] at answer
        cases answer
      | some row =>
        rw [found] at answer
        cases answer
        have is : (r.itemId == item.id) = true := by simpa using List.find?_some found
        exact ⟨.refl holds, served_inside holds known.1 r (List.mem_of_find?_eq_some found) is⟩

theorem start_within (id : Uuid) : (start id).Within F (F.services id = true) fun _ => True := by
  have inside (here : F.services id = true) (s : Store) : ∀ r ∈ s.services,
      (r.id == id && r.status != .active && r.status != .terminated) = true → F.services r.id = true := by
    intro r hr selected
    rw [Bool.and_assoc] at selected
    exact Purchase.inside_of_key here r hr (Bool.and_eq_true_iff.mp selected).1
  apply Action.Agrees.alter
  · intro here now s _
    have part : (F.own s).startService now id = ((s.startService now id).1, F.own (s.startService now id).2) :=
      Store.changeServices_own (inside here s) fun _ => rfl
    exact congrArg (fun x => ((), x.2)) part
  · intro here now s holds
    exact Store.changeServices_steps holds (inside here s) (fun _ => rfl) fun _ => rfl

theorem takeBack_within (id : Uuid) : (takeBack id).Within F (F.services id = true) fun _ => True := by
  have inside (here : F.services id = true) (s : Store) :
      ∀ r ∈ s.services, (r.id == id && r.status == .provisioning) = true → F.services r.id = true :=
    Purchase.inside_of_key_and here
  apply Action.Agrees.alter
  · intro here now s _
    exact Store.changeServices_own (inside here s) fun _ => rfl
  · intro here now s holds
    exact Store.changeServices_steps holds (inside here s) (fun _ => rfl) fun _ => rfl

end Services

namespace Jobs

variable {F : Comparison}

theorem liveJob_inside {s : Store} (holds : F.Holds s) {serviceId : Uuid} (here : F.services serviceId = true)
    (kind : String) : ∀ r ∈ s.jobs, Store.isLiveJob serviceId kind r = true → F.jobs r.id = true := by
  intro r hr live
  rw [holds.jobs r hr, (isLiveJob_iff.mp live).1, here]

theorem create_within (serviceId : Uuid) (kind : JobKind) :
    (create serviceId kind).Within F (F.services serviceId = true) fun x => ∀ id, x = some id → F.jobs id = true := by
  apply Action.Agrees.bind .freshId
  intro id
  apply Action.Agrees.change
  · intro known now s holds
    have live : (F.own s).jobs.any (Store.isLiveJob serviceId kind.name) =
        s.jobs.any (Store.isLiveJob serviceId kind.name) := any_filter_of _ (liveJob_inside holds known.1 _)
    unfold Store.createJob
    rw [live]
    split
    · rfl
    · simp [Purchase.own, known.2.job]
  · intro known now s holds
    unfold Store.createJob
    split
    · exact ⟨.refl holds, fun _ => nofun⟩
    · refine ⟨holds.steps_jobs ?_ ?_, fun x is => Option.some.inj is ▸ known.2.job⟩
      · intro r hr
        rcases List.mem_append.mp hr with hr | hr
        · exact holds.jobs r hr
        · rw [List.mem_singleton.mp hr, known.1, known.2.job]
      · simp [known.2.job]

theorem abandon_within (id : Uuid) (error : String) :
    (abandon id error).Within F (F.jobs id = true) fun _ => True := by
  have inside (here : F.jobs id = true) (s : Store) :
      ∀ r ∈ s.jobs, (r.id == id && r.status.isLive) = true → F.jobs r.id = true :=
    Purchase.inside_of_key_and here
  apply Action.Agrees.alter
  · intro here now s _
    simp only [Store.abandonJob, Store.changeJobs, Purchase.own]
    rw [any_filter_of _ (inside here s), filter_changeRows]
    exact fun _ => rfl
  · intro here now s holds
    apply holds.steps_jobs
    · intro row hrow
      obtain ⟨r, hr, rfl⟩ := mem_changeRows.mp hrow
      split <;> exact holds.jobs r hr
    · exact filter_not_changeRows _ (inside here s) fun _ => rfl

end Jobs

/-! ## The queue -/

namespace TaskQueue

variable {F : Comparison} {given : Prop}

theorem insert_within (t : TaskDraft) : (insert t).Within F given fun _ => True := by
  apply Action.Agrees.bind .freshId
  intro id
  apply Action.Agrees.alter
  · intro drawn now s _
    simp [onTasks, Purchase.own, newRow, drawn.2.draws]
  · intro drawn now s holds
    refine ⟨holds.elsewhere rfl rfl rfl rfl rfl, ?_⟩
    simp [onTasks, Purchase.rest, newRow, drawn.2.draws]

theorem enqueue_within (t : TaskDraft) : (enqueue t).Within F given fun _ => True := by
  apply Action.Agrees.andThen (insert_within t).attempt
  rintro (e | id)
  · exact .throw _
  · exact .pure fun _ => trivial

theorem receive_within (durable : Bool) (refusal : Option Failure) (t : TaskDraft) :
    (receive durable refusal t).Within F given fun _ => True := by
  cases refusal with
  | some e => exact .throw e
  | none => exact .ite (enqueue_within t) (.forget .freshId)

theorem receive_offered (durable : Bool) (refusal : Option Failure) (t : TaskDraft) (w : World) :
    ((receive durable refusal t).run w).2.offered = w.offered := by
  have inserts : (insert t).Plain := .bind .freshId fun _ => .change _ _
  obtain ⟨_, _, _, left⟩ := inserts.frame w
  cases refusal with
  | some e => rfl
  | none =>
    cases durable with
    | false => rfl
    | true =>
      change ((enqueue t).run w).2.offered = w.offered
      rw [enqueue, Action.run_bind, Action.run_attempt, left]
      rcases ((insert t).run w).1 with e | id <;> rfl

/-- Whether the queue refuses a task, and with what failure, it tells by what the task asks for. -/
theorem submit_answer {o : Outside} {refuses : TaskDraft → Option Failure} {t : TaskDraft} {w : World}
    (answers : o.Answers refuses w ((submit o t).run w).2) : o.refusal? w.offered.length t = refuses t := by
  rw [submit_run] at answers
  apply answers _ (Nat.le_refl _)
  rw [receive_offered]
  simp

/-- Both queues take the task, or both refuse it. -/
theorem submit_agrees (t : TaskDraft) :
    (submit F.queue t).Agrees F given (submit F.queue' t) fun _ => True where
  counts w := by
    rw [submit_run]
    have within : (receive F.queue.durable (F.queue.refusal? w.offered.length t) t).Within F given fun _ => True :=
      receive_within _ _ t
    exact within.counts { w with offered := w.offered ++ [t] }
  grows w := by
    rw [submit_run, receive_offered]
    exact List.prefix_append _ _
  grows' w := by
    rw [submit_run, receive_offered]
    exact List.prefix_append _ _
  ends g w w' relates begun room answers answers' := by
    have answer := submit_answer answers
    have answer' := submit_answer answers'
    rw [submit_run, answer] at answers room
    rw [submit_run, answer', F.durable] at answers'
    rw [submit_run, submit_run, answer, answer', F.durable]
    have ends := (receive_within (F := F) F.queue.durable (F.refuses t) t).ends g { w with offered := w.offered ++ [t] }
      { w' with offered := w'.offered ++ [t] }
      ⟨relates.own, relates.holds, relates.holds', relates.now, relates.nextId, relates.faults⟩ begun room
      (answers.later (List.prefix_append _ _)) (answers'.later (List.prefix_append _ _))
    exact ⟨ends.answer, ends.relates, ends.rest, ends.rest', ends.post⟩

end TaskQueue

/-! ## The ledger -/

namespace Ledger

variable {F : Comparison} {e : GatewayEvent}

theorem event_inside {s : Store} (holds : F.Holds s) (here : e.id.text = F.eventId) :
    ∀ r ∈ s.events, (r.eventId == e.id.text) = true → F.events r.id = true := by
  intro r hr is
  rw [holds.events r hr, ← here, is]

/-- The ledger with some rows changed that keep what event they are of. -/
theorem changeEvents_own {s : Store} {selects : EventRow → Bool} {change : EventRow → EventRow}
    (id : ∀ r, (change r).id = r.id) : { F.own s with events := changeRows selects change (F.own s).events } =
      F.own { s with events := changeRows selects change s.events } := by
  simp only [Purchase.own]
  rw [filter_changeRows]
  exact fun r => by rw [id]

theorem changeEvents_steps {s : Store} {selects : EventRow → Bool} {change : EventRow → EventRow}
    (holds : F.Holds s) (inside : ∀ r ∈ s.events, selects r = true → F.events r.id = true)
    (id : ∀ r, (change r).id = r.id) (eventId : ∀ r, (change r).eventId = r.eventId) :
    F.Steps s { s with events := changeRows selects change s.events } := by
  apply holds.steps_events
  · intro row hrow
    obtain ⟨r, hr, rfl⟩ := mem_changeRows.mp hrow
    split
    · rw [id, eventId]
      exact holds.events r hr
    · exact holds.events r hr
  · exact filter_not_changeRows _ inside fun r => by rw [id]

section claim

variable {s : Store} {now : Instant} {id : Uuid} (holds : F.Holds s) (here : e.id.text = F.eventId)
  (drawn : F.Draws id)

include holds here drawn

theorem claimRow_own : onEvents (claimRow now id e) (F.own s) =
    ((onEvents (claimRow now id e) s).1, F.own (onEvents (claimRow now id e) s).2) := by
  have found : ((F.own s).events.find? fun r => r.eventId == e.id.text) =
      s.events.find? fun r => r.eventId == e.id.text := find?_filter_of _ (event_inside holds here)
  simp only [onEvents, claimRow, found]
  cases s.events.find? fun r => r.eventId == e.id.text with
  | none => simp [Purchase.own, newRow, drawn.event]
  | some r =>
    dsimp only
    split
    · exact congrArg (Prod.mk _) (changeEvents_own fun _ => rfl)
    · rfl

theorem claimRow_steps : F.Steps s (onEvents (claimRow now id e) s).2 := by
  unfold onEvents claimRow
  cases found : s.events.find? fun r => r.eventId == e.id.text with
  | none =>
    apply holds.steps_events
    · intro r hr
      rcases List.mem_append.mp hr with hr | hr
      · exact holds.events r hr
      · rw [List.mem_singleton.mp hr]
        simp [newRow, drawn.event, here]
    · simp [newRow, drawn.event]
  | some r =>
    dsimp only
    split
    · exact changeEvents_steps holds (event_inside holds here) (fun _ => rfl) fun _ => rfl
    · exact .refl holds

theorem claimRow_inside {row : Uuid} (claimed : (onEvents (claimRow now id e) s).1 = some row) :
    F.events row = true := by
  unfold onEvents claimRow at claimed
  cases found : s.events.find? fun r => r.eventId == e.id.text with
  | none =>
    simp only [found, Option.some.injEq] at claimed
    exact claimed ▸ drawn.event
  | some r =>
    have is : (r.eventId == e.id.text) = true := by simpa using List.find?_some found
    have own := event_inside holds here r (List.mem_of_find?_eq_some found) is
    simp only [found] at claimed
    split at claimed
    · exact Option.some.inj claimed ▸ own
    · cases claimed

end claim

theorem countDelivery_within : (HostingBilling.change .countDelivery fun _ =>
    onEvents fun rows => ((), countDelivery e.id.text rows)).Within F (e.id.text = F.eventId) fun _ => True := by
  apply Action.Agrees.alter
  · intro _ _ s _
    exact congrArg (Prod.mk _) (changeEvents_own fun _ => rfl)
  · intro here _ s holds
    exact changeEvents_steps holds (event_inside holds here) (fun _ => rfl) fun _ => rfl

theorem claim_within :
    (claim e).Within F (e.id.text = F.eventId) fun x => ∀ row, x = some row → F.events row = true := by
  apply Action.Agrees.bind .freshId
  intro id
  have claims : (HostingBilling.change .claimEvent fun now => onEvents (claimRow now id e)).Within F
      (e.id.text = F.eventId ∧ F.Draws id) fun x => ∀ row, x = some row → F.events row = true := by
    apply Action.Agrees.change
    · intro known now s holds
      exact claimRow_own holds known.1 known.2
    · intro known now s holds
      exact ⟨claimRow_steps holds known.1 known.2, fun row is => claimRow_inside holds known.1 known.2 is⟩
  apply claims.bind
  intro claimed
  apply Action.Agrees.ite
  · exact (countDelivery_within.when fun known => known.1.1.1).bind fun _ => .pure fun known => known.1.1.2
  · exact .pure fun known => known.1.2

/-- Recording how an attempt ended. -/
theorem mark_within (st : Statement) (id : Uuid) (error : Option String) :
    (HostingBilling.change st fun now => onEvents fun rows => ((), markRow now id error rows)).Within F
      (F.events id = true) fun _ => True := by
  apply Action.Agrees.alter
  · intro _ _ s _
    exact congrArg (Prod.mk _) (changeEvents_own fun _ => rfl)
  · intro here _ s holds
    exact changeEvents_steps holds (Purchase.inside_of_key here) (fun _ => rfl) fun _ => rfl

end Ledger

end HostingBilling
