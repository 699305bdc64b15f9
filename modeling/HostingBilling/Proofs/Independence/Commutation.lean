import HostingBilling.Proofs.Checkout.PaymentKeys
import HostingBilling.Proofs.Independence.Deliveries
import HostingBilling.Proofs.Jobs.Reach
import HostingBilling.Proofs.Ledger.Deliveries

/-!
# Events about different purchases

Two events are about different purchases when they share no key and no payment or order is theirs both.
Main statement: their deliveries commute. In either order both end the same, and the tables have the same
rows.
-/

namespace HostingBilling

/-! ## Different purchases -/

namespace Notification

/-- The payment has the intent or the session that the event names. Both count where another payment has the
other key, too: a checkout is refused while another payment has its session. -/
def fits (n : Notification) (r : PaymentRow) : Bool :=
  (n.intent.isSome && r.intent == n.intent) || (n.session.isSome && r.session == n.session)

/-- Whether a key is the one that the event names, or that of a payment which it matches. -/
def claims {κ : Type} [BEq κ] (s : Store) (n : Notification) (named : Option κ) (field : PaymentRow → Option κ)
    (k : κ) : Bool :=
  named == some k || s.payments.any fun r => n.fits r && field r == some k

/-- Whether an event is about an order: it names it, or the order owns a payment that it matches. -/
def concerns (s : Store) (n : Notification) (id : Uuid) : Bool := n.claims s n.order (·.orderId) id

/-- Two events about different purchases. -/
structure Unrelated (s : Store) (n m : Notification) : Prop where
  intents : ∀ i, n.intent = some i → m.intent ≠ some i
  sessions : ∀ x, n.session = some x → m.session ≠ some x
  refunds : ∀ x ∈ n.refundIds, x ∉ m.refundIds
  disputes : ∀ x, n.disputeId = some x → m.disputeId ≠ some x
  payments : ∀ r ∈ s.payments, n.fits r = true → m.fits r = false
  orders : ∀ id, n.concerns s id = true → m.concerns s id = false

end Notification

/-- What an event tells. One that cannot be read tells nothing. -/
def GatewayEvent.tells (e : GatewayEvent) : Notification := e.parse.toOption.getD .unhandled

/-- Identifiers are those of one row, and intents and sessions those of one payment. -/
structure Store.Constrained (s : Store) : Prop where
  items : (s.items.map (·.id)).Nodup
  services : (s.services.map (·.id)).Nodup
  jobs : (s.jobs.map (·.id)).Nodup
  events : (s.events.map (·.id)).Nodup
  payments : s.Keyed

/-- Tables with the same rows. -/
structure Store.SameRows (a b : Store) : Prop where
  orders : a.orders.Perm b.orders
  items : a.items = b.items
  invoices : a.invoices.Perm b.invoices
  invoiceLines : a.invoiceLines.Perm b.invoiceLines
  payments : a.payments.Perm b.payments
  events : a.events.Perm b.events
  services : a.services.Perm b.services
  jobs : a.jobs.Perm b.jobs
  refunds : a.refunds.Perm b.refunds
  disputes : a.disputes.Perm b.disputes
  audits : a.audits = b.audits
  settings : a.settings = b.settings
  tasks : a.tasks.Perm b.tasks

/-! ## The purchase of an event -/

section ids

variable {ρ : Type} {rows : List ρ} {key : ρ → Uuid} {p q : ρ → Bool} {drawn drawn' : Uuid → Bool}

/-- The identifiers of some rows, and those for new rows. -/
def idsOf (drawn : Uuid → Bool) (rows : List ρ) (key : ρ → Uuid) (p : ρ → Bool) (id : Uuid) : Bool :=
  drawn id || rows.any fun r => key r == id && p r

theorem idsOf_key (distinct : (rows.map key).Nodup) {r : ρ} (hr : r ∈ rows) (old : drawn (key r) = false) :
    idsOf drawn rows key p (key r) = p r := by
  rw [idsOf, old, Bool.false_or, Bool.eq_iff_iff, List.any_eq_true]
  constructor
  · rintro ⟨x, hx, is⟩
    obtain ⟨same, is⟩ := Bool.and_eq_true_iff.mp is
    exact eq_of_key distinct hx hr (eq_of_beq same) ▸ is
  · intro is
    exact ⟨r, hr, by simp [is]⟩

theorem idsOf_apart (distinct : (rows.map key).Nodup) (old : ∀ r ∈ rows, drawn (key r) = false)
    (old' : ∀ r ∈ rows, drawn' (key r) = false) (new : ∀ id, drawn id = true → drawn' id = false)
    (apart : ∀ r ∈ rows, p r = true → q r = false) :
    ∀ id, idsOf drawn rows key p id = true → idsOf drawn' rows key q id = false := by
  intro id here
  by_cases known : ∃ r ∈ rows, key r = id
  · obtain ⟨r, hr, rfl⟩ := known
    rw [idsOf_key distinct hr (old r hr)] at here
    rw [idsOf_key distinct hr (old' r hr)]
    exact apart r hr here
  · have none_ (p : ρ → Bool) : (rows.any fun r => key r == id && p r) = false := by
      rw [List.any_eq_false]
      intro r hr is
      exact known ⟨r, hr, eq_of_beq (Bool.and_eq_true_iff.mp is).1⟩
    rw [idsOf, none_, Bool.or_false] at here ⊢
    exact new id here

end ids

namespace Notification

/-- Whether a line belongs to an order that the event is about. -/
def isItem (s : Store) (n : Notification) (id : Uuid) : Bool :=
  s.items.any fun r => r.id == id && n.concerns s r.orderId

end Notification

/-- Whether an identifier is one of those from `first` on and below `last`. -/
def isDrawn (first last : Nat) (id : Uuid) : Bool := first ≤ id.val && id.val < last

theorem isDrawn_ofNat {first last n : Nat} (room : last ≤ Uuid.limit) (begun : first ≤ n) (below : n < last) :
    isDrawn first last (.ofNat n) = true := by
  rw [isDrawn, Uuid.val_ofNat (Nat.lt_of_lt_of_le below room)]
  simp [begun, below]

theorem not_isDrawn {first last : Nat} {id : Uuid} (old : id.val < first) : isDrawn first last id = false := by
  simp only [isDrawn, Bool.and_eq_false_iff, decide_eq_false_iff_not]
  omega

/-- The purchase that an event is about. -/
def Notification.purchase (s : Store) (eventId : String) (n : Notification) (first last : Nat)
    (room : last ≤ Uuid.limit) : Purchase where
  items := s.items
  orders := n.concerns s
  services := idsOf (isDrawn first last) s.services (·.id) fun r => n.isItem s r.itemId
  jobs := idsOf (isDrawn first last) s.jobs (·.id) fun j =>
    idsOf (isDrawn first last) s.services (·.id) (fun r => n.isItem s r.itemId) j.serviceId
  payments := idsOf (isDrawn first last) s.payments (·.id) n.fits
  intents := n.claims s n.intent (·.intent)
  sessions := n.claims s n.session (·.session)
  events := idsOf (isDrawn first last) s.events (·.id) fun r => r.eventId == eventId
  eventId
  refunds x := n.refundIds.contains x
  disputes x := n.disputeId == some x
  first
  last
  room
  serviceDrawn k begun below := by rw [idsOf, isDrawn_ofNat room begun below, Bool.true_or]
  jobDrawn k begun below := by rw [idsOf, isDrawn_ofNat room begun below, Bool.true_or]
  paymentDrawn k begun below := by rw [idsOf, isDrawn_ofNat room begun below, Bool.true_or]
  eventDrawn k begun below := by rw [idsOf, isDrawn_ofNat room begun below, Bool.true_or]

namespace Notification

variable {s : Store} {n : Notification} {eventId : String} {first last : Nat} {room : last ≤ Uuid.limit}

theorem purchase_covers : (n.purchase s eventId first last room).Covers n where
  intent i is := by simp [purchase, claims, is]
  session x is := by simp [purchase, claims, is]
  order id is := by simp [purchase, concerns, claims, is]
  refunds x hx := by simpa [purchase] using hx
  dispute x is := by simp [purchase, is]

theorem fits_intent {r : PaymentRow} {i : String} (named : n.intent = some i) (has : r.intent = some i) :
    n.fits r = true := by
  simp [fits, named, has]

theorem fits_session {r : PaymentRow} {x : String} (named : n.session = some x) (has : r.session = some x) :
    n.fits r = true := by
  simp [fits, named, has]

theorem fits_iff {r : PaymentRow} : n.fits r = true ↔
    (∃ i, n.intent = some i ∧ r.intent = some i) ∨ ∃ x, n.session = some x ∧ r.session = some x := by
  constructor
  · intro is
    rcases Bool.or_eq_true_iff.mp is with is | is
    · obtain ⟨there, same⟩ := Bool.and_eq_true_iff.mp is
      obtain ⟨i, named⟩ := Option.isSome_iff_exists.mp there
      exact .inl ⟨i, named, named ▸ eq_of_beq same⟩
    · obtain ⟨there, same⟩ := Bool.and_eq_true_iff.mp is
      obtain ⟨x, named⟩ := Option.isSome_iff_exists.mp there
      exact .inr ⟨x, named, named ▸ eq_of_beq same⟩
  · rintro (⟨i, named, has⟩ | ⟨x, named, has⟩)
    · exact fits_intent named has
    · exact fits_session named has

theorem claims_iff {κ : Type} [BEq κ] [LawfulBEq κ] {named : Option κ} {field : PaymentRow → Option κ} {k : κ} :
    n.claims s named field k = true ↔
      named = some k ∨ ∃ r ∈ s.payments, n.fits r = true ∧ field r = some k := by
  simp [claims]

/-- A payment is matched if its intent, or its session, is claimed. -/
theorem fits_of_claims {field : PaymentRow → Option String} {named : Option String} {k : String}
    (distinct : (s.payments.filterMap field).Nodup)
    (names : ∀ r, named = some k → field r = some k → n.fits r = true) {r : PaymentRow}
    (hr : r ∈ s.payments) (has : field r = some k) (claimed : n.claims s named field k = true) :
    n.fits r = true := by
  rcases claims_iff.mp claimed with is | ⟨x, hx, own, same⟩
  · exact names r is has
  · exact eq_of_optionalKey distinct hx hr same has ▸ own

/-- The rows of the purchase of an event are told apart from all others. -/
theorem purchase_holds (distinct : s.Constrained) (old : ∀ id ∈ s.ids, id.val < first) :
    (n.purchase s eventId first last room).Holds s where
  items := rfl
  services r hr := idsOf_key distinct.services hr (not_isDrawn (old _ (Store.id_mem_of_service hr)))
  jobs r hr := idsOf_key distinct.jobs hr (not_isDrawn (old _ (Store.id_mem_of_job hr)))
  events r hr := idsOf_key distinct.events hr (not_isDrawn (old _ (Store.id_mem_of_event hr)))
  payments r hr := by
    refine (idsOf_key distinct.payments.ids hr (not_isDrawn (old _ (Store.id_mem_of_payment hr)))).trans ?_
    rw [Bool.eq_iff_iff, Bool.or_eq_true, Option.any_eq_true, Option.any_eq_true]
    constructor
    · intro own
      rcases fits_iff.mp own with ⟨i, named, has⟩ | ⟨x, named, has⟩
      · exact .inl ⟨i, has, claims_iff.mpr (.inl named)⟩
      · exact .inr ⟨x, has, claims_iff.mpr (.inl named)⟩
    · rintro (⟨i, has, claimed⟩ | ⟨x, has, claimed⟩)
      · exact fits_of_claims distinct.payments.intents (fun _ => fits_intent) hr has claimed
      · exact fits_of_claims distinct.payments.sessions (fun _ => fits_session) hr has claimed
  pays r hr own := by
    have own := (idsOf_key distinct.payments.ids hr (not_isDrawn (old _ (Store.id_mem_of_payment hr)))).symm.trans own
    exact ⟨fun i has => claims_iff.mpr (.inr ⟨r, hr, own, has⟩), fun x has => claims_iff.mpr (.inr ⟨r, hr, own, has⟩),
      fun id has => claims_iff.mpr (.inr ⟨r, hr, own, has⟩)⟩

end Notification

/-! ## Purchases without a row in common -/

/-- Two purchases that share no row and no key. -/
structure Purchase.Disjoint (F G : Purchase) : Prop where
  items : G.items = F.items
  orders : ∀ id, F.orders id = true → G.orders id = false
  lines : ∀ id, F.isItem id = true → G.isItem id = false
  services : ∀ id, F.services id = true → G.services id = false
  jobs : ∀ id, F.jobs id = true → G.jobs id = false
  payments : ∀ id, F.payments id = true → G.payments id = false
  intents : ∀ i, F.intents i = true → G.intents i = false
  sessions : ∀ x, F.sessions x = true → G.sessions x = false
  events : ∀ id, F.events id = true → G.events id = false
  eventId : F.eventId ≠ G.eventId
  refunds : ∀ x, F.refunds x = true → G.refunds x = false
  disputes : ∀ x, F.disputes x = true → G.disputes x = false
  draws : ∀ id, F.draws id = true → G.draws id = false

namespace Purchase

variable {F G : Purchase} {s s' : Store}

theorem apart_symm {κ : Type} {p q : κ → Bool} (h : ∀ k, p k = true → q k = false) (k : κ) (hq : q k = true) :
    p k = false := by
  by_contra hp
  rw [h k (by simpa using hp)] at hq
  cases hq

theorem Disjoint.symm (h : F.Disjoint G) : G.Disjoint F where
  items := h.items.symm
  orders := apart_symm h.orders
  lines := apart_symm h.lines
  services := apart_symm h.services
  jobs := apart_symm h.jobs
  payments := apart_symm h.payments
  intents := apart_symm h.intents
  sessions := apart_symm h.sessions
  events := apart_symm h.events
  eventId := h.eventId.symm
  refunds := apart_symm h.refunds
  disputes := apart_symm h.disputes
  draws := apart_symm h.draws

/-- A table without rows of a purchase is kept whole. -/
theorem kept {ρ : Type} (rest : F.rest s' = F.rest s) (rows : Store → List ρ)
    (whole : ∀ s, rows (F.rest s) = rows s) : rows s' = rows s := by
  rw [← whole s', rest, whole s]

/-- What is done within another purchase leaves the rows of this one. -/
theorem Disjoint.own_eq (h : F.Disjoint G) (rest : G.rest s' = G.rest s) : F.own s' = F.own s := by
  have orders := filter_eq_of_rest (fun r : OrderRow => h.orders r.id) (congrArg Store.orders rest)
  have invoices := filter_eq_of_rest (fun r : InvoiceRow => h.orders r.orderId) (congrArg Store.invoices rest)
  have lines := filter_eq_of_rest (fun r : InvoiceLineRow => h.draws r.id) (congrArg Store.invoiceLines rest)
  have payments := filter_eq_of_rest (fun r : PaymentRow => h.payments r.id) (congrArg Store.payments rest)
  have events := filter_eq_of_rest (fun r : EventRow => h.events r.id) (congrArg Store.events rest)
  have services := filter_eq_of_rest (fun r : ServiceRow => h.services r.id) (congrArg Store.services rest)
  have jobs := filter_eq_of_rest (fun r : JobRow => h.jobs r.id) (congrArg Store.jobs rest)
  have refunds := filter_eq_of_rest (fun r : RefundRow => h.refunds r.refundId) (congrArg Store.refunds rest)
  have disputes := filter_eq_of_rest (fun r : DisputeRow => h.disputes r.disputeId) (congrArg Store.disputes rest)
  have tasks := filter_eq_of_rest (fun r : TaskRow => h.draws r.id) (congrArg Store.tasks rest)
  have items : s'.items = s.items := kept rest Store.items fun _ => rfl
  have audits : s'.audits = s.audits := kept rest Store.audits fun _ => rfl
  have settings : s'.settings = s.settings := kept rest Store.settings fun _ => rfl
  simp only [Purchase.own, orders, invoices, lines, payments, events, services, jobs, refunds, disputes, tasks,
    items, audits, settings]

/-- What is done within another purchase leaves the rows of this one told apart. -/
theorem Disjoint.holds (h : F.Disjoint G) (here : F.Holds s) (there : G.Holds s') (rest : G.rest s' = G.rest s) :
    F.Holds s' where
  items := by
    rw [there.items]
    exact h.items
  services r hr := by
    cases other : G.services r.id with
    | false => exact here.services r (mem_of_rest (congrArg Store.services rest) hr other)
    | true => rw [h.symm.services _ other, h.symm.lines _ (there.services r hr ▸ other)]
  jobs r hr := by
    cases other : G.jobs r.id with
    | false => exact here.jobs r (mem_of_rest (congrArg Store.jobs rest) hr other)
    | true => rw [h.symm.jobs _ other, h.symm.services _ (there.jobs r hr ▸ other)]
  events r hr := by
    cases other : G.events r.id with
    | false => exact here.events r (mem_of_rest (congrArg Store.events rest) hr other)
    | true =>
      have is : r.eventId = G.eventId := eq_of_beq (there.events r hr ▸ other)
      rw [h.symm.events _ other, is]
      simpa using h.eventId.symm
  payments r hr := by
    cases other : G.payments r.id with
    | false => exact here.payments r (mem_of_rest (congrArg Store.payments rest) hr other)
    | true =>
      have pays := there.pays r hr other
      have intent : r.intent.any F.intents = false := by
        rw [Option.any_eq_false]
        intro i has
        simp [h.symm.intents i (pays.intent i has)]
      have session : r.session.any F.sessions = false := by
        rw [Option.any_eq_false]
        intro x has
        simp [h.symm.sessions x (pays.session x has)]
      rw [h.symm.payments _ other, intent, session]
      rfl
  pays r hr own := here.pays r (mem_of_rest (congrArg Store.payments rest) hr (h.payments _ own)) own

/-- What is done within each of two purchases, and is the same whether the other was there before, leads to the
same rows in either order. -/
theorem Disjoint.sameRows (h : F.Disjoint G) {one two oneTwo twoOne : Store} (first : F.rest one = F.rest s)
    (second : G.rest two = G.rest s) (thenSecond : G.rest oneTwo = G.rest one)
    (thenFirst : F.rest twoOne = F.rest two) (sameFirst : F.own twoOne = F.own one)
    (sameSecond : G.own oneTwo = G.own two) : oneTwo.SameRows twoOne := by
  have table {ρ : Type} (rows : Store → List ρ) {p q : ρ → Bool} (apart : ∀ r, p r = true → q r = false)
      (ownF : ∀ s, rows (F.own s) = (rows s).filter p) (restF : ∀ s, rows (F.rest s) = (rows s).filter fun r => !p r)
      (ownG : ∀ s, rows (G.own s) = (rows s).filter q) (restG : ∀ s, rows (G.rest s) = (rows s).filter fun r => !q r) :
      (rows oneTwo).Perm (rows twoOne) := by
    have first : ((rows one).filter fun r => !p r) = (rows s).filter fun r => !p r := by
      rw [← restF, first, restF]
    have second : ((rows two).filter fun r => !q r) = (rows s).filter fun r => !q r := by
      rw [← restG, second, restG]
    apply perm_of_parts apart first second
    · rw [← restG, thenSecond, restG]
    · rw [← restF, thenFirst, restF]
    · rw [← ownF, sameFirst, ownF]
    · rw [← ownG, sameSecond, ownG]
  have whole {ρ : Type} (rows : Store → List ρ) (keptF : ∀ s, rows (F.rest s) = rows s)
      (keptG : ∀ s, rows (G.rest s) = rows s) : rows oneTwo = rows twoOne :=
    (kept thenSecond rows keptG).trans ((kept first rows keptF).trans
      ((kept second rows keptG).symm.trans (kept thenFirst rows keptF).symm))
  exact {
    orders := table Store.orders (fun r => h.orders r.id) (fun _ => rfl) (fun _ => rfl) (fun _ => rfl) fun _ => rfl
    items := whole Store.items (fun _ => rfl) fun _ => rfl
    invoices :=
      table Store.invoices (fun r => h.orders r.orderId) (fun _ => rfl) (fun _ => rfl) (fun _ => rfl) fun _ => rfl
    invoiceLines :=
      table Store.invoiceLines (fun r => h.draws r.id) (fun _ => rfl) (fun _ => rfl) (fun _ => rfl) fun _ => rfl
    payments :=
      table Store.payments (fun r => h.payments r.id) (fun _ => rfl) (fun _ => rfl) (fun _ => rfl) fun _ => rfl
    events := table Store.events (fun r => h.events r.id) (fun _ => rfl) (fun _ => rfl) (fun _ => rfl) fun _ => rfl
    services :=
      table Store.services (fun r => h.services r.id) (fun _ => rfl) (fun _ => rfl) (fun _ => rfl) fun _ => rfl
    jobs := table Store.jobs (fun r => h.jobs r.id) (fun _ => rfl) (fun _ => rfl) (fun _ => rfl) fun _ => rfl
    refunds :=
      table Store.refunds (fun r => h.refunds r.refundId) (fun _ => rfl) (fun _ => rfl) (fun _ => rfl) fun _ => rfl
    disputes :=
      table Store.disputes (fun r => h.disputes r.disputeId) (fun _ => rfl) (fun _ => rfl) (fun _ => rfl) fun _ => rfl
    audits := whole Store.audits (fun _ => rfl) fun _ => rfl
    settings := whole Store.settings (fun _ => rfl) fun _ => rfl
    tasks := table Store.tasks (fun r => h.draws r.id) (fun _ => rfl) (fun _ => rfl) (fun _ => rfl) fun _ => rfl }

end Purchase

namespace Notification

variable {s : Store} {n m : Notification} {a b : String} {first between last : Nat}
  {room : between ≤ Uuid.limit} {room' : last ≤ Uuid.limit}

/-- A key that both events claim is a key that both name, or that of a payment that fits both. -/
theorem claims_apart {κ : Type} [BEq κ] [LawfulBEq κ] {field : PaymentRow → Option κ} {named named' : Option κ}
    (distinct : (s.payments.filterMap field).Nodup) (unrelated : n.Unrelated s m)
    (names : ∀ r k, named = some k → field r = some k → n.fits r = true)
    (names' : ∀ r k, named' = some k → field r = some k → m.fits r = true)
    (apart : ∀ k, named = some k → named' ≠ some k) (k : κ) (claimed : n.claims s named field k = true) :
    m.claims s named' field k = false := by
  rw [Bool.eq_false_iff]
  intro claimed'
  have both {r : PaymentRow} (hr : r ∈ s.payments) (fits : n.fits r = true) (fits' : m.fits r = true) : False := by
    rw [unrelated.payments r hr fits] at fits'
    cases fits'
  rcases claims_iff.mp claimed with is | ⟨x, hx, fits, has⟩ <;>
    rcases claims_iff.mp claimed' with is' | ⟨y, hy, fits', has'⟩
  · exact apart k is is'
  · exact both hy (names y k is has') fits'
  · exact both hx fits (names' x k is' has)
  · exact both hx fits (eq_of_optionalKey distinct hx hy has has' ▸ fits')

/-- Unrelated events have purchases without a row in common. -/
theorem Unrelated.disjoint (unrelated : n.Unrelated s m) (events : a ≠ b) (distinct : s.Constrained)
    (old : ∀ id ∈ s.ids, id.val < first) (later : first ≤ between) :
    (n.purchase s a first between room).Disjoint (m.purchase s b between last room') := by
  have new : ∀ id, isDrawn first between id = true → isDrawn between last id = false := by
    intro id drawn
    simp only [isDrawn, Bool.and_eq_true, decide_eq_true_eq] at drawn
    exact not_isDrawn drawn.2
  have before {id : Uuid} (h : id ∈ s.ids) : isDrawn first between id = false := not_isDrawn (old id h)
  have before' {id : Uuid} (h : id ∈ s.ids) : isDrawn between last id = false :=
    not_isDrawn (Nat.lt_of_lt_of_le (old id h) later)
  have lines : ∀ id, n.isItem s id = true → m.isItem s id = false := by
    intro id own
    rw [Bool.eq_false_iff]
    intro own'
    obtain ⟨x, hx, is⟩ := List.any_eq_true.mp own
    obtain ⟨y, hy, is'⟩ := List.any_eq_true.mp own'
    simp only [Bool.and_eq_true, beq_iff_eq] at is is'
    have same := eq_of_key distinct.items hx hy (is.1.trans is'.1.symm)
    rw [← same, unrelated.orders _ is.2] at is'
    cases is'.2
  have services := idsOf_apart (p := fun r => n.isItem s r.itemId) (q := fun r => m.isItem s r.itemId)
    distinct.services (fun r hr => before (Store.id_mem_of_service hr))
    (fun r hr => before' (Store.id_mem_of_service hr)) new fun r _ => lines r.itemId
  exact {
    items := rfl
    orders := unrelated.orders
    lines
    services
    jobs := idsOf_apart distinct.jobs (fun r hr => before (Store.id_mem_of_job hr))
      (fun r hr => before' (Store.id_mem_of_job hr)) new fun r _ => services r.serviceId
    payments := idsOf_apart distinct.payments.ids (fun r hr => before (Store.id_mem_of_payment hr))
      (fun r hr => before' (Store.id_mem_of_payment hr)) new unrelated.payments
    intents := claims_apart distinct.payments.intents unrelated (fun _ _ => fits_intent) (fun _ _ => fits_intent)
      unrelated.intents
    sessions := claims_apart distinct.payments.sessions unrelated (fun _ _ => fits_session)
      (fun _ _ => fits_session) unrelated.sessions
    events := idsOf_apart distinct.events (fun r hr => before (Store.id_mem_of_event hr))
      (fun r hr => before' (Store.id_mem_of_event hr)) new fun r _ is => by
        rw [eq_of_beq is]
        simpa using events
    eventId := events
    refunds := fun x own => by
      have hx : x ∈ n.refundIds := by simpa [purchase] using own
      simpa [purchase] using unrelated.refunds x hx
    disputes := fun x own => by
      have is : n.disputeId = some x := by simpa [purchase] using own
      simpa [purchase] using unrelated.disputes x is
    draws := new }

end Notification

/-- The world whose next rows are numbered from `n` on. -/
def World.drawing (n : Nat) (w : World) : World := { w with nextId := n }

namespace Delivery

variable {e e₁ e₂ : GatewayEvent} {o o' : Outside} {refuses : TaskDraft → Option Failure}

theorem process_grows {w w' : World} {r : Except Failure DeliveryOutcome}
    (ran : (process o e).run w = (r, w')) : w.offered <+: w'.offered := by
  -- any purchase will do
  let F : Comparison :=
    ⟨Notification.unhandled.purchase w.store e.id.text 0 0 (Nat.zero_le _), fun _ => none, o, o, rfl⟩
  have grows : w.offered <+: ((process o e).run w).2.offered := (process_agrees (F := F) e).grows w
  rwa [ran] at grows

/-- Two deliveries of an event in worlds with the same rows of its purchase. -/
theorem process_ends {F : Comparison} (covers : F.Covers e.tells) (event : e.id.text = F.eventId)
    {w w' v v' : World} {r r' : Except Failure DeliveryOutcome} (ran : (process F.queue e).run w = (r, v))
    (ran' : (process F.queue' e).run w' = (r', v')) (relates : F.Relates w w') (begun : F.first ≤ w.nextId)
    (room : v.nextId ≤ F.last) (answers : F.queue.Answers F.refuses w v)
    (answers' : F.queue'.Answers F.refuses w' v') : F.Ends (fun _ => True) w w' (r, v) (r', v') := by
  have knows : ∀ n, e.parse = .ok n → F.Covers n := by
    intro n read
    have is : e.tells = n := by rw [GatewayEvent.tells, read]; rfl
    exact is ▸ covers
  have ends := (process_agrees e).ends ⟨event, knows⟩ w w' relates begun
  rw [ran, ran'] at ends
  exact ends room answers answers'

/-- **Deliveries of events about different purchases commute.** Identifiers are generated, so both orders are
compared with the same ones: the first event draws from where the world stands, the second from `n` on. When
`n` is where the first delivery stops, the first order is two deliveries in a row. A queue refuses tasks by
what they ask for, with the same failures in both orders. Then each delivery ends the same in both orders, and
the tables have the same rows in the end. -/
theorem deliveries_commute {w w₁ w₂ w₁₂ w₂₁ : World} {r₁ r₂ r₁' r₂' : Except Failure DeliveryOutcome} {n : Nat}
    (calm : w.faults = []) (constrained : w.store.Constrained) (fresh : w.Fresh) (events : e₁.id ≠ e₂.id)
    (unrelated : e₁.tells.Unrelated w.store e₂.tells) (first : (process o e₁).run w = (r₁, w₁))
    (second : (process o e₂).run (w₁.drawing n) = (r₂, w₁₂))
    (second' : (process o' e₂).run (w.drawing n) = (r₂', w₂))
    (first' : (process o' e₁).run (w₂.drawing w.nextId) = (r₁', w₂₁)) (durable : o'.durable = o.durable)
    (answers : o.Answers refuses w w₁₂) (answers' : o'.Answers refuses w w₂₁) (apart : w₁.nextId ≤ n)
    (room : w₁₂.nextId ≤ Uuid.limit) : r₁' = r₁ ∧ r₂' = r₂ ∧ w₁₂.store.SameRows w₂₁.store := by
  -- what the deliveries leave of the world
  have follows₁ := (process_counts o e₁).follows first
  have follows₁₂ := (process_counts o e₂).follows second
  have follows₂ := (process_counts o' e₂).follows second'
  have grows₁ : w.offered <+: w₁.offered := process_grows first
  have grows₁₂ : w₁.offered <+: w₁₂.offered := (process_grows second : (w₁.drawing n).offered <+: _)
  have grows₂ : w.offered <+: w₂.offered := (process_grows second' : (w.drawing n).offered <+: _)
  have grows₂₁ : w₂.offered <+: w₂₁.offered := (process_grows first' : (w₂.drawing w.nextId).offered <+: _)
  -- the two purchases
  have below : n ≤ Uuid.limit := Nat.le_trans follows₁₂.nextId room
  have later : w.nextId ≤ n := Nat.le_trans follows₁.nextId apart
  let F := e₁.tells.purchase w.store e₁.id.text w.nextId n below
  let G := e₂.tells.purchase w.store e₂.id.text n Uuid.limit (Nat.le_refl _)
  have different : e₁.id.text ≠ e₂.id.text := fun same => events (congrArg EventId.mk same)
  have disjoint : F.Disjoint G := unrelated.disjoint different constrained fresh later
  have holdsF : F.Holds w.store := Notification.purchase_holds constrained fresh
  have holdsG : G.Holds w.store :=
    Notification.purchase_holds constrained fun id h => Nat.lt_of_lt_of_le (fresh id h) later
  -- the first event alone
  have ends₁ := process_ends (F := ⟨F, refuses, o, o, rfl⟩) Notification.purchase_covers rfl first first
    ⟨rfl, holdsF, holdsF, rfl, rfl, rfl⟩ (Nat.le_refl _) apart (answers.earlier grows₁₂) (answers.earlier grows₁₂)
  -- the second event after the first, and alone
  have ends₂ := process_ends (F := ⟨G, refuses, o, o', durable⟩) Notification.purchase_covers rfl second second'
    ⟨(disjoint.symm.own_eq ends₁.rest).symm, disjoint.symm.holds holdsG ends₁.relates.holds ends₁.rest, holdsG,
      follows₁.now.symm, rfl, calm.trans (follows₁.calm calm).symm⟩
    (Nat.le_refl _) room (answers.later grows₁) (answers'.earlier grows₂₁)
  -- the first event alone, and after the second
  have ends₁' := process_ends (F := ⟨F, refuses, o, o', durable⟩) Notification.purchase_covers rfl first first'
    ⟨disjoint.own_eq ends₂.rest', holdsF, disjoint.holds holdsF ends₂.relates.holds' ends₂.rest', follows₂.now, rfl,
      (follows₂.calm calm).trans calm.symm⟩
    (Nat.le_refl _) apart (answers.earlier grows₁₂) (answers'.later grows₂)
  exact ⟨ends₁'.answer, ends₂.answer, disjoint.sameRows ends₁.rest ends₂.rest' ends₂.rest ends₁'.rest'
    ends₁'.relates.own ends₂.relates.own.symm⟩

/-! ## A sample -/

open Operations (sampleEvent sampleOutside)

/-- The sample's order, and another order of one line. -/
def twoOrders : World := World.start { Checkout.sampleStore with
  orders := Checkout.sampleStore.orders ++
    [⟨.ofNat 11, .ofNat 9, .pendingPayment, "USD", 700, ⟨1000, 0⟩, ⟨1000, 0⟩⟩]
  items := Checkout.sampleStore.items ++
    [⟨.ofNat 12, .ofNat 11, .ofNat 8, .object [], .monthly, 1, 700, ⟨1000, 0⟩⟩] } ⟨1000, 0⟩ 100 ⟨"", "", ""⟩

/-- The event that pays the other order. -/
def otherEvent : GatewayEvent where
  id := ⟨"evt_2"⟩
  kind := "checkout.session.completed"
  payload := .object [
    ("data", .object [("object", .object [
      ("id", .text "cs_2"),
      ("metadata", .object [("order_id", .text "00000000-0000-0000-0000-00000000000b")]),
      ("payment_intent", .text "pi_2")])]),
    ("id", .text "evt_2"),
    ("type", .text "checkout.session.completed")]

/-- Refuses one task, by the place it comes in. -/
def refusingAt (n : Nat) : Outside := { sampleOutside true with refuses := (· == n) }

/-- The task that is refused is that of the sample's order. -/
def refusesSample (t : TaskDraft) : Option Failure :=
  match ProvisionPayload.decode t.payload with
  | .ok p => if p.orderId = .ofNat 1 then some (.queue "vps:provision: broker unreachable") else none
  | .error _ => none

def sampleFirst : World := ((process (refusingAt 0) sampleEvent).run twoOrders).2

def otherSecond : World := ((process (refusingAt 0) otherEvent).run (sampleFirst.drawing 200)).2

def otherFirst : World := ((process (refusingAt 1) otherEvent).run (twoOrders.drawing 200)).2

def sampleSecond : World := ((process (refusingAt 1) sampleEvent).run (otherFirst.drawing 100)).2

theorem tells_sampleEvent : sampleEvent.tells = .checkout Checkout.sampleCheckout := by decide +kernel

theorem tells_otherEvent : otherEvent.tells =
    .checkout ⟨"cs_2", some ⟨"pi_2"⟩, some "00000000-0000-0000-0000-00000000000b", none, none⟩ := by
  decide +kernel

theorem unrelated_twoOrders : sampleEvent.tells.Unrelated twoOrders.store otherEvent.tells := by
  have order : sampleEvent.tells.order = some (.ofNat 1) := by decide +kernel
  have order' : otherEvent.tells.order = some (.ofNat 11) := by decide +kernel
  refine ⟨?_, ?_, ?_, ?_, fun _ hr => (List.not_mem_nil hr).elim, ?_⟩
  · rw [tells_sampleEvent, tells_otherEvent]
    rintro i ⟨⟩
    decide
  · rw [tells_sampleEvent, tells_otherEvent]
    rintro x ⟨⟩
    decide
  · rw [tells_sampleEvent]
    exact fun _ hx => nomatch hx
  · rw [tells_sampleEvent]
    exact fun _ is => nomatch is
  · intro id is
    rcases Notification.claims_iff.mp is with named | ⟨r, hr, -⟩
    · rw [order] at named
      cases named
      rw [Notification.concerns, Notification.claims, order']
      decide
    · exact (List.not_mem_nil hr).elim

/-- One checkout is refused by the queue, in whichever place its task comes, and the other goes through. -/
theorem deliveries_commute_twoOrders :
    ((process (refusingAt 1) sampleEvent).run (otherFirst.drawing 100)).1 =
      ((process (refusingAt 0) sampleEvent).run twoOrders).1 ∧
    ((process (refusingAt 0) sampleEvent).run twoOrders).1.isOk = false ∧
    ((process (refusingAt 1) otherEvent).run (twoOrders.drawing 200)).1 = .ok .processed ∧
    otherSecond.store.SameRows sampleSecond.store := by
  have constrained : twoOrders.store.Constrained :=
    ⟨by decide, by decide, by decide, by decide, ⟨by decide, by decide, by decide⟩⟩
  have told : ∀ i (h : i < otherSecond.offered.length),
      (refusingAt 0).refusal? i otherSecond.offered[i] = refusesSample otherSecond.offered[i] := by
    decide +kernel
  have told' : ∀ i (h : i < sampleSecond.offered.length),
      (refusingAt 1).refusal? i sampleSecond.offered[i] = refusesSample sampleSecond.offered[i] := by
    decide +kernel
  have answers : (refusingAt 0).Answers refusesSample twoOrders otherSecond := by
    intro i _ t ht
    obtain ⟨h, rfl⟩ := List.getElem?_eq_some_iff.mp ht
    exact told i h
  have answers' : (refusingAt 1).Answers refusesSample twoOrders sampleSecond := by
    intro i _ t ht
    obtain ⟨h, rfl⟩ := List.getElem?_eq_some_iff.mp ht
    exact told' i h
  have first : (process (refusingAt 0) sampleEvent).run twoOrders = (_, sampleFirst) := Action.run_eq_of_fst rfl
  have second : (process (refusingAt 0) otherEvent).run (sampleFirst.drawing 200) = (_, otherSecond) :=
    Action.run_eq_of_fst rfl
  have second' : (process (refusingAt 1) otherEvent).run (twoOrders.drawing 200) = (_, otherFirst) :=
    Action.run_eq_of_fst rfl
  have first' : (process (refusingAt 1) sampleEvent).run (otherFirst.drawing 100) = (_, sampleSecond) :=
    Action.run_eq_of_fst rfl
  have apart : sampleFirst.nextId ≤ 200 := by decide +kernel
  have room : otherSecond.nextId ≤ Uuid.limit := by decide +kernel
  obtain ⟨same, -, rows⟩ := deliveries_commute rfl constrained (by decide) (by decide) unrelated_twoOrders first
    second second' first' rfl answers answers' apart room
  exact ⟨same, by decide +kernel, by decide +kernel, rows⟩

end Delivery

end HostingBilling
