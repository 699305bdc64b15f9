import HostingBilling.Proofs.InstantOrder
import HostingBilling.Proofs.Rows
import HostingBilling.Proofs.Runs
import HostingBilling.Store.Jobs
import HostingBilling.Store.Services

/-!
# What the tables promise

Rows have identifiers of their own, a reference leads to a row, an order line has one service, and a
service has one live job of a kind. Most statements change neither a key nor a reference; the two that
add a service or a job use an identifier that no row has.
-/

namespace HostingBilling

/-- Identifiers are numbers below this one. -/
def Uuid.limit : Nat := 0x100000000000000000000000000000000

theorem Uuid.val_ofNat {n : Nat} (h : n < limit) : (ofNat n).val = n := Nat.mod_eq_of_lt h

theorem Uuid.ne_ofNat {u : Uuid} {n : Nat} (below : u.val < n) (room : n < limit) : u ≠ ofNat n := by
  intro same
  rw [same, val_ofNat room] at below
  exact Nat.lt_irrefl _ below

/-- Keys of orders, lines, services and jobs, and the references among them. -/
structure Store.Linked (s : Store) : Prop where
  orders : (s.orders.map (·.id)).Nodup
  items : (s.items.map (·.id)).Nodup
  services : (s.services.map (·.id)).Nodup
  serviceItems : (s.services.map (·.itemId)).Nodup
  jobs : (s.jobs.map (·.id)).Nodup
  itemOrder : s.items.map (·.orderId) ⊆ s.orders.map (·.id)
  serviceItem : s.services.map (·.itemId) ⊆ s.items.map (·.id)
  jobService : s.jobs.map (·.serviceId) ⊆ s.services.map (·.id)

instance (s : Store) : Decidable s.Linked :=
  decidable_of_iff
    ((s.orders.map (·.id)).Nodup ∧ (s.items.map (·.id)).Nodup ∧ (s.services.map (·.id)).Nodup ∧
      (s.services.map (·.itemId)).Nodup ∧ (s.jobs.map (·.id)).Nodup ∧
      s.items.map (·.orderId) ⊆ s.orders.map (·.id) ∧ s.services.map (·.itemId) ⊆ s.items.map (·.id) ∧
      s.jobs.map (·.serviceId) ⊆ s.services.map (·.id))
    ⟨fun ⟨orders, items, services, serviceItems, jobs, itemOrder, serviceItem, jobService⟩ =>
      ⟨orders, items, services, serviceItems, jobs, itemOrder, serviceItem, jobService⟩,
    fun h => ⟨h.orders, h.items, h.services, h.serviceItems, h.jobs, h.itemOrder, h.serviceItem, h.jobService⟩⟩

/-- No two jobs of a kind are live for one service. -/
def Store.OneLive (s : Store) : Prop :=
  ∀ a ∈ s.jobs, ∀ b ∈ s.jobs, a.serviceId = b.serviceId → a.kind = b.kind →
    a.status.isLive = true → b.status.isLive = true → a = b

/-- Identifiers still to be generated belong to no row. -/
def World.Fresh (w : World) : Prop := ∀ id ∈ w.store.ids, id.val < w.nextId

instance (w : World) : Decidable w.Fresh :=
  inferInstanceAs (Decidable (∀ id ∈ w.store.ids, id.val < w.nextId))

/-- Identifiers still to be generated belong to no service, job or task. -/
structure World.Numbered (w : World) : Prop where
  services : ∀ r ∈ w.store.services, r.id.val < w.nextId
  jobs : ∀ r ∈ w.store.jobs, r.id.val < w.nextId
  tasks : ∀ r ∈ w.store.tasks, r.id.val < w.nextId

/-- The same service later on. A terminated one stays terminated. -/
structure ServiceRow.Continues (a b : ServiceRow) : Prop where
  id : b.id = a.id
  itemId : b.itemId = a.itemId
  planId : b.planId = a.planId
  userId : b.userId = a.userId
  terminated : a.status = .terminated → b.status = .terminated

/-- The same job later on. One that is no longer live is not taken up again. -/
structure JobRow.Closes (a b : JobRow) : Prop where
  id : b.id = a.id
  serviceId : b.serviceId = a.serviceId
  kind : b.kind = a.kind
  createdAt : b.createdAt = a.createdAt
  live : b.status.isLive = true → a.status.isLive = true

/-- Statements that add no row to the tables of the provisioning work, and touch no task. Jobs may be
closed. -/
structure Store.Eases (a b : Store) : Prop where
  orders : b.orders.map (·.id) = a.orders.map (·.id)
  items : b.items = a.items
  services : List.Forall₂ ServiceRow.Continues a.services b.services
  jobs : List.Forall₂ JobRow.Closes a.jobs b.jobs
  tasks : b.tasks = a.tasks

/-- Statements that neither add a row to the tables of the provisioning work nor touch a job or a task. -/
structure Store.Quiet (a b : Store) : Prop where
  orders : b.orders.map (·.id) = a.orders.map (·.id)
  items : b.items = a.items
  services : List.Forall₂ ServiceRow.Continues a.services b.services
  jobs : b.jobs = a.jobs
  tasks : b.tasks = a.tasks

/-- Statements that leave the tables of the provisioning work as they are. Orders may move. -/
structure Store.Still (a b : Store) : Prop where
  orders : b.orders.map (·.id) = a.orders.map (·.id)
  items : b.items = a.items
  services : b.services = a.services
  jobs : b.jobs = a.jobs
  tasks : b.tasks = a.tasks

/-- Statements on other tables than those of the orders and the provisioning work. -/
structure Store.Apart (a b : Store) : Prop where
  orders : b.orders = a.orders
  items : b.items = a.items
  services : b.services = a.services
  jobs : b.jobs = a.jobs
  tasks : b.tasks = a.tasks

/-- The same order later on, as it was or refunded. -/
def OrderRow.Stays (a b : OrderRow) : Prop :=
  b = a ∨ a.status = .paid ∧ ∃ now, b = { a with status := .refunded, updatedAt := now }

/-- The same service later on, as it was or out of use. -/
structure ServiceRow.Lapses (a b : ServiceRow) : Prop extends a.Continues b where
  status : b.status = a.status ∨ b.status = .suspended ∨ b.status = .terminated

/-- Statements that may refund paid orders and put services out of use, and leave jobs and tasks
alone. -/
structure Store.Declines (a b : Store) : Prop where
  orders : List.Forall₂ OrderRow.Stays a.orders b.orders
  items : b.items = a.items
  services : List.Forall₂ ServiceRow.Lapses a.services b.services
  jobs : b.jobs = a.jobs
  tasks : b.tasks = a.tasks

namespace Store

variable {s : Store}

theorem id_mem_of_invoice {r : InvoiceRow} (hr : r ∈ s.invoices) : r.id ∈ s.ids := by
  have : r.id ∈ s.invoices.map (·.id) := List.mem_map_of_mem hr
  simp only [ids, List.mem_append, this, true_or, or_true]

theorem id_mem_of_payment {r : PaymentRow} (hr : r ∈ s.payments) : r.id ∈ s.ids := by
  have : r.id ∈ s.payments.map (·.id) := List.mem_map_of_mem hr
  simp only [ids, List.mem_append, this, true_or, or_true]

theorem id_mem_of_event {r : EventRow} (hr : r ∈ s.events) : r.id ∈ s.ids := by
  have : r.id ∈ s.events.map (·.id) := List.mem_map_of_mem hr
  simp only [ids, List.mem_append, this, true_or, or_true]

theorem id_mem_of_service {r : ServiceRow} (hr : r ∈ s.services) : r.id ∈ s.ids := by
  have : r.id ∈ s.services.map (·.id) := List.mem_map_of_mem hr
  simp only [ids, List.mem_append, this, true_or, or_true]

theorem id_mem_of_job {r : JobRow} (hr : r ∈ s.jobs) : r.id ∈ s.ids := by
  have : r.id ∈ s.jobs.map (·.id) := List.mem_map_of_mem hr
  simp only [ids, List.mem_append, this, true_or, or_true]

theorem id_mem_of_task {r : TaskRow} (hr : r ∈ s.tasks) : r.id ∈ s.ids := by
  have : r.id ∈ s.tasks.map (·.id) := List.mem_map_of_mem hr
  simp only [ids, List.mem_append, this, or_true]

end Store

theorem World.Fresh.invoices {w : World} (h : w.Fresh) : ∀ r ∈ w.store.invoices, r.id.val < w.nextId :=
  fun _ hr => h _ (Store.id_mem_of_invoice hr)

theorem World.Fresh.payments {w : World} (h : w.Fresh) : ∀ r ∈ w.store.payments, r.id.val < w.nextId :=
  fun _ hr => h _ (Store.id_mem_of_payment hr)

theorem World.Fresh.numbered {w : World} (h : w.Fresh) : w.Numbered where
  services _ hr := h _ (Store.id_mem_of_service hr)
  jobs _ hr := h _ (Store.id_mem_of_job hr)
  tasks _ hr := h _ (Store.id_mem_of_task hr)

/-! ## The lines of an order -/

theorem Store.mem_itemsOf {s : Store} {orderId : Uuid} {item : ItemRow} :
    item ∈ s.itemsOf orderId ↔ item ∈ s.items ∧ item.orderId = orderId := by
  rw [itemsOf, (perm_sortRows _ _).mem_iff]
  simp

theorem Store.Linked.nodup_itemsOf {s : Store} (h : s.Linked) (orderId : Uuid) :
    ((s.itemsOf orderId).map (·.id)).Nodup := by
  refine ((perm_sortRows _ _).map _).nodup_iff.mpr (h.items.sublist ?_)
  exact List.filter_sublist.map _

/-! ## Quiet statements -/

theorem ServiceRow.Continues.refl (r : ServiceRow) : r.Continues r := ⟨rfl, rfl, rfl, rfl, fun h => h⟩

theorem ServiceRow.Continues.trans {a b c : ServiceRow} (hab : a.Continues b) (hbc : b.Continues c) :
    a.Continues c where
  id := hbc.id.trans hab.id
  itemId := hbc.itemId.trans hab.itemId
  planId := hbc.planId.trans hab.planId
  userId := hbc.userId.trans hab.userId
  terminated h := hbc.terminated (hab.terminated h)

theorem JobRow.Closes.refl (j : JobRow) : j.Closes j := ⟨rfl, rfl, rfl, rfl, fun h => h⟩

theorem JobRow.Closes.trans {a b c : JobRow} (hab : a.Closes b) (hbc : b.Closes c) : a.Closes c where
  id := hbc.id.trans hab.id
  serviceId := hbc.serviceId.trans hab.serviceId
  kind := hbc.kind.trans hab.kind
  createdAt := hbc.createdAt.trans hab.createdAt
  live h := hab.live (hbc.live h)

namespace Store.Eases

variable {a b : Store}

theorem chain : Chain Store.Eases where
  refl _ := ⟨rfl, rfl, List.forall₂_same.mpr fun r _ => .refl r, List.forall₂_same.mpr fun j _ => .refl j,
    rfl⟩
  trans hab hbc := {
    orders := hbc.orders.trans hab.orders
    items := hbc.items.trans hab.items
    services := forall₂_trans (fun h k => h.trans k) hab.services hbc.services
    jobs := forall₂_trans (fun h k => h.trans k) hab.jobs hbc.jobs
    tasks := hbc.tasks.trans hab.tasks }

theorem linked (h : a.Eases b) (la : a.Linked) : b.Linked := by
  have services := map_eq_of_forall₂ (fun c => c.id) h.services
  have items := map_eq_of_forall₂ (fun c => c.itemId) h.services
  exact {
    orders := h.orders ▸ la.orders
    items := h.items ▸ la.items
    services := services ▸ la.services
    serviceItems := items ▸ la.serviceItems
    jobs := map_eq_of_forall₂ (fun c => c.id) h.jobs ▸ la.jobs
    itemOrder := by rw [h.items, h.orders]; exact la.itemOrder
    serviceItem := by rw [h.items, items]; exact la.serviceItem
    jobService := by
      rw [map_eq_of_forall₂ (fun c => c.serviceId) h.jobs, services]
      exact la.jobService }

end Store.Eases

theorem Follows.numbered {w w' : World} (h : Follows Store.Eases w w') (hw : w.Numbered) :
    w'.Numbered where
  services r' hr' := by
    obtain ⟨r, hr, same⟩ := exists_left_of_forall₂ h.store.services hr'
    rw [same.id]
    exact Nat.lt_of_lt_of_le (hw.services r hr) h.nextId
  jobs j' hj' := by
    obtain ⟨j, hj, same⟩ := exists_left_of_forall₂ h.store.jobs hj'
    rw [same.id]
    exact Nat.lt_of_lt_of_le (hw.jobs j hj) h.nextId
  tasks r hr := Nat.lt_of_lt_of_le (hw.tasks r (h.store.tasks ▸ hr)) h.nextId

namespace Store.Quiet

variable {a b : Store}

theorem refl (s : Store) : s.Quiet s :=
  ⟨rfl, rfl, List.forall₂_same.mpr fun r _ => .refl r, rfl, rfl⟩

theorem chain : Chain Store.Quiet where
  refl := refl
  trans hab hbc := {
    orders := hbc.orders.trans hab.orders
    items := hbc.items.trans hab.items
    services := forall₂_trans (fun h k => h.trans k) hab.services hbc.services
    jobs := hbc.jobs.trans hab.jobs
    tasks := hbc.tasks.trans hab.tasks }

theorem eases (h : a.Quiet b) : a.Eases b :=
  ⟨h.orders, h.items, h.services, h.jobs ▸ List.forall₂_same.mpr fun j _ => .refl j, h.tasks⟩

theorem linked (h : a.Quiet b) (la : a.Linked) : b.Linked := h.eases.linked la

end Store.Quiet

namespace Store.Still

variable {a b : Store}

theorem chain : Chain Store.Still where
  refl _ := ⟨rfl, rfl, rfl, rfl, rfl⟩
  trans hab hbc := {
    orders := hbc.orders.trans hab.orders
    items := hbc.items.trans hab.items
    services := hbc.services.trans hab.services
    jobs := hbc.jobs.trans hab.jobs
    tasks := hbc.tasks.trans hab.tasks }

theorem quiet (h : a.Still b) : a.Quiet b :=
  ⟨h.orders, h.items, h.services ▸ (Quiet.refl a).services, h.jobs, h.tasks⟩

end Store.Still

theorem Follows.quiet {w w' : World} (h : Follows Store.Still w w') : Follows Store.Quiet w w' :=
  h.mono Store.Still.quiet

theorem Action.Keeps.quiet {α : Type} {a : Action α} (h : a.Keeps Store.Still) : a.Keeps Store.Quiet :=
  h.mono Store.Still.quiet

theorem OrderRow.Stays.id {a b : OrderRow} (h : a.Stays b) : b.id = a.id := by
  rcases h with rfl | ⟨-, now, rfl⟩ <;> rfl

theorem OrderRow.Stays.trans {a b c : OrderRow} (hab : a.Stays b) (hbc : b.Stays c) : a.Stays c := by
  rcases hab with rfl | ⟨paid, now, rfl⟩
  · exact hbc
  · rcases hbc with rfl | ⟨again, -⟩
    · exact .inr ⟨paid, now, rfl⟩
    · cases again

theorem ServiceRow.Lapses.refl (r : ServiceRow) : r.Lapses r := ⟨.refl r, .inl rfl⟩

theorem ServiceRow.Lapses.trans {a b c : ServiceRow} (hab : a.Lapses b) (hbc : b.Lapses c) :
    a.Lapses c := by
  refine ⟨hab.toContinues.trans hbc.toContinues, ?_⟩
  rcases hbc.status with same | closed
  · rw [same]
    exact hab.status
  · exact .inr closed

namespace Store.Apart

variable {a b : Store}

theorem chain : Chain Store.Apart where
  refl _ := ⟨rfl, rfl, rfl, rfl, rfl⟩
  trans hab hbc := {
    orders := hbc.orders.trans hab.orders
    items := hbc.items.trans hab.items
    services := hbc.services.trans hab.services
    jobs := hbc.jobs.trans hab.jobs
    tasks := hbc.tasks.trans hab.tasks }

theorem still (h : a.Apart b) : a.Still b :=
  ⟨congrArg _ h.orders, h.items, h.services, h.jobs, h.tasks⟩

theorem declines (h : a.Apart b) : a.Declines b where
  orders := h.orders ▸ List.forall₂_same.mpr fun _ _ => .inl rfl
  items := h.items
  services := h.services ▸ List.forall₂_same.mpr fun r _ => .refl r
  jobs := h.jobs
  tasks := h.tasks

end Store.Apart

namespace Store.Declines

variable {a b : Store}

theorem refl (s : Store) : s.Declines s := (Apart.chain.refl s).declines

theorem chain : Chain Store.Declines where
  refl := refl
  trans hab hbc := {
    orders := forall₂_trans (fun h k => h.trans k) hab.orders hbc.orders
    items := hbc.items.trans hab.items
    services := forall₂_trans (fun h k => h.trans k) hab.services hbc.services
    jobs := hbc.jobs.trans hab.jobs
    tasks := hbc.tasks.trans hab.tasks }

theorem quiet (h : a.Declines b) : a.Quiet b :=
  ⟨map_eq_of_forall₂ (fun c => c.id) h.orders, h.items, h.services.imp fun _ _ c => c.toContinues, h.jobs,
    h.tasks⟩

end Store.Declines

/-- A change of services that leaves what a service is, and a terminated one terminated. -/
theorem Store.quiet_changeServices {selects : ServiceRow → Bool} {f : ServiceRow → ServiceRow}
    (h : ∀ r, selects r = true → r.Continues (f r)) (s : Store) :
    s.Quiet (s.changeServices selects f).2 :=
  ⟨rfl, rfl, forall₂_changeRows .refl fun r _ => h r, rfl, rfl⟩

theorem Store.quiet_startService (now : Instant) (id : Uuid) (s : Store) :
    s.Quiet (s.startService now id).2 := by
  apply quiet_changeServices
  intro r selected
  refine ⟨rfl, rfl, rfl, rfl, fun terminated => ?_⟩
  simp [terminated] at selected

/-- A change of services that puts them out of use at most. -/
theorem Store.declines_changeServices {selects : ServiceRow → Bool} {f : ServiceRow → ServiceRow}
    (h : ∀ r, selects r = true → r.Lapses (f r)) (s : Store) :
    s.Declines (s.changeServices selects f).2 :=
  ⟨(Declines.refl s).orders, rfl, forall₂_changeRows .refl fun r _ => h r, rfl, rfl⟩

theorem Follows.eases {w w' : World} (h : Follows Store.Quiet w w') : Follows Store.Eases w w' :=
  h.mono Store.Quiet.eases

/-! ## New services and jobs -/

/-- The service that a line gets when it has none. -/
def newService (now : Instant) (id userId : Uuid) (item : ItemRow) (expiresAt : Instant) :
    ServiceRow where
  id
  userId
  itemId := item.id
  planId := item.planId
  status := .pending
  hostname := none
  address := none
  expiresAt := some expiresAt
  cancelledAt := none
  metadata := .object []
  createdAt := now
  updatedAt := now

/-- The job that a service gets when none of the kind is live. -/
def newJob (now : Instant) (id serviceId : Uuid) (kind : JobKind) : JobRow where
  id
  serviceId
  kind := kind.name
  status := .pending
  attempts := 0
  maxAttempts := 5
  lastError := none
  startedAt := none
  completedAt := none
  createdAt := now
  updatedAt := now

theorem isLiveJob_iff {serviceId : Uuid} {kind : String} {j : JobRow} :
    Store.isLiveJob serviceId kind j = true ↔
      j.serviceId = serviceId ∧ j.kind = kind ∧ j.status.isLive = true := by
  simp [Store.isLiveJob, and_assoc]

theorem isLiveJob_newJob (now : Instant) (id serviceId : Uuid) (kind : JobKind) :
    Store.isLiveJob serviceId kind.name (newJob now id serviceId kind) = true :=
  isLiveJob_iff.mpr ⟨rfl, rfl, rfl⟩

namespace Store

variable {s : Store} {now : Instant} {id serviceId : Uuid}

theorem createJob_of_live {kind : JobKind} (h : s.jobs.any (isLiveJob serviceId kind.name) = true) :
    s.createJob now id serviceId kind = (none, s) := by
  simp [createJob, h]

theorem createJob_of_none {kind : JobKind} (h : s.jobs.any (isLiveJob serviceId kind.name) = false) :
    s.createJob now id serviceId kind =
      (some id, { s with jobs := s.jobs ++ [newJob now id serviceId kind] }) := by
  simp [createJob, h, newJob]

theorem Linked.add_service (h : s.Linked) {r : ServiceRow} (fresh : ∀ x ∈ s.services, x.id ≠ r.id)
    (unserved : ∀ x ∈ s.services, x.itemId ≠ r.itemId) (item : r.itemId ∈ s.items.map (·.id)) :
    { s with services := s.services ++ [r] }.Linked where
  orders := h.orders
  items := h.items
  services := by simpa [List.nodup_append] using ⟨h.services, fresh⟩
  serviceItems := by simpa [List.nodup_append] using ⟨h.serviceItems, unserved⟩
  jobs := h.jobs
  itemOrder := h.itemOrder
  serviceItem := by
    rw [List.map_append]
    exact List.append_subset.mpr ⟨h.serviceItem, by simpa using item⟩
  jobService := by
    rw [List.map_append]
    exact fun _ hx => List.mem_append_left _ (h.jobService hx)

theorem Linked.add_job (h : s.Linked) {j : JobRow} (fresh : ∀ x ∈ s.jobs, x.id ≠ j.id)
    (service : j.serviceId ∈ s.services.map (·.id)) : { s with jobs := s.jobs ++ [j] }.Linked where
  orders := h.orders
  items := h.items
  services := h.services
  serviceItems := h.serviceItems
  jobs := by simpa [List.nodup_append] using ⟨h.jobs, fresh⟩
  itemOrder := h.itemOrder
  serviceItem := h.serviceItem
  jobService := by
    rw [List.map_append]
    exact List.append_subset.mpr ⟨h.jobService, by simpa using service⟩

theorem OneLive.add_job (h : s.OneLive) {j : JobRow}
    (alone : s.jobs.any (isLiveJob j.serviceId j.kind) = false) :
    { s with jobs := s.jobs ++ [j] }.OneLive := by
  have apart : ∀ x ∈ s.jobs, x.serviceId = j.serviceId → x.kind = j.kind →
      ¬ x.status.isLive = true := by
    intro x hx service kind live
    have := List.any_eq_false.mp alone x hx
    exact this (isLiveJob_iff.mpr ⟨service, kind, live⟩)
  intro a ha b hb service kind liveA liveB
  rcases List.mem_append.mp ha with oldA | newA <;> rcases List.mem_append.mp hb with oldB | newB
  · exact h a oldA b oldB service kind liveA liveB
  · obtain rfl := List.mem_singleton.mp newB
    exact absurd liveA (apart a oldA service kind)
  · obtain rfl := List.mem_singleton.mp newA
    exact absurd liveB (apart b oldB service.symm kind.symm)
  · exact (List.mem_singleton.mp newA).trans (List.mem_singleton.mp newB).symm

end Store

end HostingBilling
