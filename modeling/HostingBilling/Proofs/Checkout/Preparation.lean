import HostingBilling.Checkout
import HostingBilling.Proofs.Constraints

/-!
# Preparing the lines of an order

Every line of an order gets its one service, and every service that still needs a machine gets its one
live job. A line that has both already is left as it is.
-/

namespace HostingBilling

/-- Nothing is left to build for a service in this status. -/
def ServiceStatus.isDone (s : ServiceStatus) : Bool := s == .active || s == .terminated

namespace Store

/-- Whether a job that builds the service is live. -/
def hasLive (s : Store) (serviceId : Uuid) : Bool :=
  s.jobs.any (isLiveJob serviceId JobKind.provisionVps.name)

/-- Whether a line has no service that is done or has a live job. -/
def awaits (s : Store) (itemId : Uuid) : Bool :=
  !s.services.any fun r => r.itemId == itemId && (r.status.isDone || s.hasLive r.id)

/-- The line has a service that is done, or that is provisioning with a live job. -/
def Provided (s : Store) (itemId : Uuid) : Prop :=
  ∃ r ∈ s.services, r.itemId = itemId ∧
    (r.status.isDone = true ∨ r.status = .provisioning ∧ s.hasLive r.id = true)

/-- A committed job names a live job of the service of a line. -/
def Commits (s : Store) (orderId : Uuid) (item : ItemRow) (t : CommittedJob) : Prop :=
  t.orderId = orderId ∧
    ∃ r ∈ s.services, r.itemId = item.id ∧ t.serviceId = r.id ∧ t.planId = r.planId ∧
      t.userId = r.userId ∧ r.status = .provisioning ∧
      ∃ j ∈ s.jobs, j.id = t.jobId ∧ isLiveJob r.id JobKind.provisionVps.name j = true

/-- The service of a line is found, or added as a new row. -/
inductive Ensures (s : Store) (now : Instant) (id userId : Uuid) (item : ItemRow) :
    ServiceRow → Store → Prop
  | found (r : ServiceRow) (here : r ∈ s.services) (line : r.itemId = item.id) :
      Ensures s now id userId item r s
  | added (expiresAt : Instant) (unserved : ∀ x ∈ s.services, x.itemId ≠ item.id) :
      Ensures s now id userId item (newService now id userId item expiresAt)
        { s with services := s.services ++ [newService now id userId item expiresAt] }

end Store

/-- A service is left alone, or starts over if it was not done. -/
def ServiceRow.Starts (a b : ServiceRow) : Prop :=
  b = a ∨ a.status.isDone = false ∧ ∃ now, b = { a with status := .provisioning, updatedAt := now }

theorem ServiceRow.Starts.continues {a b : ServiceRow} (h : a.Starts b) : a.Continues b := by
  rcases h with rfl | ⟨notDone, now, rfl⟩
  · exact .refl _
  · refine ⟨rfl, rfl, rfl, rfl, fun terminated => ?_⟩
    simp [terminated, ServiceStatus.isDone] at notDone

namespace Checkout

/-- What the preparation of some lines has done from one world to another. -/
structure Prepares (order : OrderRow) (items : List ItemRow) (w : World) (tasks : List CommittedJob)
    (w' : World) : Prop where
  rest : w' = { w with
    nextId := w'.nextId
    store := { w.store with services := w'.store.services, jobs := w'.store.jobs } }
  counted : w.nextId ≤ w'.nextId
  linked : w'.store.Linked
  numbered : w'.Numbered
  oneLive : w.store.OneLive → w'.store.OneLive
  services : ∀ r ∈ w.store.services, ∃ r' ∈ w'.store.services, r.Starts r'
  jobs : ∀ j ∈ w.store.jobs, j ∈ w'.store.jobs
  provided : ∀ item ∈ items, w'.store.Provided item.id
  tasks : List.Forall₂ (w'.store.Commits order.id) (items.filter fun item => w.store.awaits item.id) tasks
  otherServices : ∀ keep : Uuid → Bool, (∀ item ∈ items, keep item.id = false) →
    w'.store.services.filter (fun r => keep r.itemId) = w.store.services.filter fun r => keep r.itemId
  otherJobs : ∀ keep : Uuid → Bool,
    (∀ r ∈ w'.store.services, r.itemId ∈ items.map (·.id) → keep r.id = false) →
      w'.store.jobs.filter (fun j => keep j.serviceId) = w.store.jobs.filter fun j => keep j.serviceId

/-! ## The service of a line -/

section ensured

variable {s₀ s : Store} {now : Instant} {id userId : Uuid} {item : ItemRow} {r : ServiceRow}

theorem ensured_jobs (h : s₀.Ensures now id userId item r s) : s.jobs = s₀.jobs := by
  cases h <;> rfl

theorem ensured_mem (h : s₀.Ensures now id userId item r s) : r ∈ s.services := by
  cases h with
  | found _ here _ => exact here
  | added _ _ => simp

theorem ensured_line (h : s₀.Ensures now id userId item r s) : r.itemId = item.id := by
  cases h with
  | found _ _ line => exact line
  | added _ _ => rfl

theorem ensured_kept (h : s₀.Ensures now id userId item r s) : ∀ x ∈ s₀.services, x ∈ s.services := by
  cases h with
  | found => exact fun x hx => hx
  | added _ _ => exact fun x hx => List.mem_append_left _ hx

theorem ensured_rest (h : s₀.Ensures now id userId item r s) :
    s = { s₀ with services := s.services } := by
  cases h <;> rfl

theorem ensured_linked (h : s₀.Ensures now id userId item r s) (linked : s₀.Linked)
    (fresh : ∀ x ∈ s₀.services, x.id ≠ id) (known : item.id ∈ s₀.items.map (·.id)) : s.Linked := by
  cases h with
  | found => exact linked
  | added _ unserved => exact linked.add_service fresh unserved known

/-- The other lines keep their services. -/
theorem ensured_others (h : s₀.Ensures now id userId item r s) (keep : Uuid → Bool)
    (other : keep item.id = false) :
    s.services.filter (fun r => keep r.itemId) = s₀.services.filter fun r => keep r.itemId := by
  cases h with
  | found => rfl
  | added _ _ => simp [List.filter_append, newService, other]

/-- A line waits exactly when its service, found or new, is not done and has no live job. -/
theorem ensured_awaits (h : s₀.Ensures now id userId item r s) (linked : s₀.Linked)
    (fresh : ∀ x ∈ s₀.services, x.id ≠ id) :
    s₀.awaits item.id = (!r.status.isDone && !s.hasLive r.id) := by
  cases h with
  | found _ here line =>
    have only (x : ServiceRow) (hx : x ∈ s₀.services) (same : x.itemId = item.id) : x = r :=
      eq_of_key linked.serviceItems hx here (same.trans line.symm)
    rw [Store.awaits, ← Bool.not_or]
    congr 1
    rw [Bool.eq_iff_iff, List.any_eq_true]
    constructor
    · rintro ⟨x, hx, h⟩
      simp only [Bool.and_eq_true, beq_iff_eq] at h
      rw [← only x hx h.1]
      exact h.2
    · intro h
      exact ⟨r, here, by simpa [line] using h⟩
  | added expiresAt unserved =>
    have waits : s₀.awaits item.id = true := by
      simpa [Store.awaits] using fun x hx same => absurd same (unserved x hx)
    have idle : s₀.hasLive id = false := by
      apply List.any_eq_false.mpr
      intro j hj live
      obtain ⟨x, hx, same⟩ := List.mem_map.mp (linked.jobService (List.mem_map_of_mem hj))
      exact fresh x hx (same.trans (isLiveJob_iff.mp live).1)
    change s₀.awaits item.id = (!false && !s₀.hasLive id)
    rw [waits, idle]
    rfl

end ensured

/-! ## One line -/

section line

variable {w w' : World} (calm : w.faults = [])

include calm

theorem run_ensure (userId : Uuid) (item : ItemRow) (expiresAt : Instant) :
    ∃ r s, w.store.Ensures w.now (.ofNat w.nextId) userId item r s ∧
      (Services.ensure userId item expiresAt).run w =
        (.ok r, { w with nextId := w.nextId + 1, store := s }) := by
  -- the statement that reads finds the row that the one before it has left there
  have run (s : Store) (r : ServiceRow)
      (left : w.store.insertService w.now (.ofNat w.nextId) userId item expiresAt = s)
      (there : (s.services.find? fun r => r.itemId == item.id) = some r) :
      (Services.ensure userId item expiresAt).run w =
        (.ok r, { w with nextId := w.nextId + 1, store := s }) := by
    simp only [Services.ensure, Action.run_bind, Action.run_freshId]
    rw [run_change (by exact calm)]
    dsimp only
    rw [run_execute (by exact calm)]
    simp only [left, there]
  cases served : w.store.services.any fun r => r.itemId == item.id with
  | true =>
    cases there : w.store.services.find? fun r => r.itemId == item.id with
    | none =>
      obtain ⟨r, hr, is⟩ := List.any_eq_true.mp served
      exact absurd is (List.find?_eq_none.mp there r hr)
    | some r =>
      have line : r.itemId = item.id := by simpa using List.find?_some there
      have left : w.store.insertService w.now (.ofNat w.nextId) userId item expiresAt = w.store := by
        simp [Store.insertService, served]
      exact ⟨r, w.store, .found r (List.mem_of_find?_eq_some there) line, run _ r left there⟩
  | false =>
    have unserved : ∀ x ∈ w.store.services, x.itemId ≠ item.id := by simpa using served
    refine ⟨_, _, .added expiresAt unserved, run _ _ ?_ ?_⟩
    · simp [Store.insertService, served, newService]
    · rw [List.find?_append, List.find?_eq_none.mpr (by simpa using unserved)]
      simp [newService]

theorem run_start (id : Uuid) : (Services.start id).run w =
    (.ok (), { w with store := (w.store.startService w.now id).2 }) := run_change calm _ _

theorem run_create (serviceId : Uuid) (kind : JobKind) : (Jobs.create serviceId kind).run w =
    (.ok (w.store.createJob w.now (.ofNat w.nextId) serviceId kind).1, { w with
      nextId := w.nextId + 1
      store := (w.store.createJob w.now (.ofNat w.nextId) serviceId kind).2 }) := by
  simp only [Jobs.create, Action.run_bind, Action.run_freshId]
  rw [run_change (by exact calm)]

end line

/-- What becomes of one line. -/
inductive ItemPrepared (order : OrderRow) (item : ItemRow) (w : World) :
    Option CommittedJob → World → Prop
  | handled (r : ServiceRow) (s : Store) (n : Nat)
      (ensured : w.store.Ensures w.now (.ofNat w.nextId) order.userId item r s)
      (handled : r.status.isDone = true ∨ s.hasLive r.id = true) (counted : w.nextId < n) :
      ItemPrepared order item w none { w with nextId := n, store := (s.startService w.now r.id).2 }
  | committed (r : ServiceRow) (s : Store)
      (ensured : w.store.Ensures w.now (.ofNat w.nextId) order.userId item r s)
      (notDone : r.status.isDone = false) (idle : s.hasLive r.id = false) :
      ItemPrepared order item w (some ⟨.ofNat (w.nextId + 1), r.id, order.id, r.planId, r.userId⟩)
        { w with
          nextId := w.nextId + 2
          store := { (s.startService w.now r.id).2 with
            jobs := s.jobs ++ [newJob w.now (.ofNat (w.nextId + 1)) r.id .provisionVps] } }

/-- A service that is done is not started again. -/
theorem startService_of_done {s : Store} (linked : s.Linked) {r : ServiceRow} (here : r ∈ s.services)
    (isDone : r.status.isDone = true) (now : Instant) : (s.startService now r.id).2 = s := by
  have unselected : ∀ x ∈ s.services,
      (x.id == r.id && x.status != .active && x.status != .terminated) = false := by
    intro x hx
    by_cases same : x.id = r.id
    · rw [eq_of_key linked.services hx here same]
      rcases (by simpa [ServiceStatus.isDone] using isDone : r.status = .active ∨ _) with h | h <;>
        simp [h]
    · simp [same]
  simp only [Store.startService, Store.changeServices, changeRows_of_none unselected]

theorem prepareItem_run {w : World} (calm : w.faults = []) (linked : w.store.Linked)
    (order : OrderRow) (item : ItemRow) :
    ∃ task w', (prepareItem order item).run w = (.ok task, w') ∧ ItemPrepared order item w task w' := by
  obtain ⟨r, s, ensured, ran⟩ :=
    run_ensure calm order.userId item (firstExpiry item.cycle.name w.now)
  simp only [prepareItem, Action.run_bind, Action.run_now, ran]
  by_cases isDone : r.status.isDone = true
  · have done : r.status = .active ∨ r.status = .terminated := by
      simpa [ServiceStatus.isDone] using isDone
    rw [if_pos done]
    have same : (s.startService w.now r.id).2 = s := by
      cases ensured with
      | found _ here _ => exact startService_of_done linked here isDone w.now
      | added _ _ => cases isDone
    have end_ := ItemPrepared.handled r s (w.nextId + 1) ensured (.inl isDone) (Nat.lt_succ_self _)
    rw [same] at end_
    exact ⟨_, _, rfl, end_⟩
  · have notDone : ¬ (r.status = .active ∨ r.status = .terminated) := by
      simpa [ServiceStatus.isDone] using isDone
    rw [if_neg notDone, Action.run_bind_of_ok (run_start (by exact calm) _),
      Action.run_bind_of_ok (run_create (by exact calm) _ _)]
    dsimp only
    have jobs : (s.startService w.now r.id).2.jobs = s.jobs := rfl
    cases live : s.hasLive r.id with
    | true =>
      rw [Store.createJob_of_live (by rw [jobs]; exact live)]
      exact ⟨_, _, rfl, .handled r s (w.nextId + 2) ensured (.inr live) (by omega)⟩
    | false =>
      rw [Store.createJob_of_none (by rw [jobs]; exact live)]
      exact ⟨_, _, rfl, .committed r s ensured (by simpa using isDone) live⟩

theorem started_services (now : Instant) (id : Uuid) (s : Store) :
    List.Forall₂ ServiceRow.Starts s.services (s.startService now id).2.services := by
  apply forall₂_changeRows fun r => .inl rfl
  intro r _ selected
  refine .inr ⟨?_, now, rfl⟩
  simp only [Bool.and_eq_true, bne_iff_ne] at selected
  simp [ServiceStatus.isDone, selected.1.2, selected.2]

section prepared

variable {order : OrderRow} {item : ItemRow} {w w' : World} {task : Option CommittedJob}
variable {r : ServiceRow} {s : Store}

theorem fresh_service (numbered : w.Numbered) (room : w.nextId < Uuid.limit) :
    ∀ x ∈ w.store.services, x.id ≠ .ofNat w.nextId :=
  fun x hx => Uuid.ne_ofNat (numbered.services x hx) room

theorem started_linked (ensured : w.store.Ensures w.now (.ofNat w.nextId) order.userId item r s)
    (linked : w.store.Linked) (numbered : w.Numbered) (known : item.id ∈ w.store.items.map (·.id))
    (room : w.nextId < Uuid.limit) : s.Linked ∧ (s.startService w.now r.id).2.Linked := by
  have before := ensured_linked ensured linked (fresh_service numbered room) known
  exact ⟨before, (Store.quiet_startService w.now r.id s).linked before⟩

/-- The service of the line, once it is there and started. -/
theorem started_mem (ensured : w.store.Ensures w.now (.ofNat w.nextId) order.userId item r s) :
    ∃ r' ∈ (s.startService w.now r.id).2.services, r.Starts r' ∧
      (r.status.isDone = false → r'.status = .provisioning) := by
  refine ⟨_, mem_changeRows.mpr ⟨r, ensured_mem ensured, rfl⟩, ?_, ?_⟩
  · split
    · next selected =>
      refine .inr ⟨?_, w.now, rfl⟩
      simp only [Bool.and_eq_true, bne_iff_ne] at selected
      simp [ServiceStatus.isDone, selected.1.2, selected.2]
    · exact .inl rfl
  · intro notDone
    have selected : (r.id == r.id && r.status != .active && r.status != .terminated) = true := by
      simpa [ServiceStatus.isDone] using notDone
    rw [if_pos selected]

theorem ItemPrepared.linked (h : ItemPrepared order item w task w') (linked : w.store.Linked)
    (numbered : w.Numbered) (known : item.id ∈ w.store.items.map (·.id))
    (room : w'.nextId ≤ Uuid.limit) : w'.store.Linked := by
  cases h with
  | handled r s n ensured _ counted =>
    exact (started_linked ensured linked numbered known (Nat.lt_of_lt_of_le counted room)).2
  | committed r s ensured _ _ =>
    have room : w.nextId + 1 < Uuid.limit := room
    have start := started_linked ensured linked numbered known (by omega)
    obtain ⟨r', hr', starts, -⟩ := started_mem ensured
    apply start.2.add_job
    · intro x hx
      have below := numbered.jobs x (ensured_jobs ensured ▸ hx)
      exact Uuid.ne_ofNat (by omega) room
    · exact List.mem_map.mpr ⟨r', hr', starts.continues.id⟩

theorem ItemPrepared.numbered (h : ItemPrepared order item w task w') (numbered : w.Numbered)
    (room : w'.nextId ≤ Uuid.limit) : w'.Numbered := by
  have grown {s : Store} {r : ServiceRow}
      (ensured : w.store.Ensures w.now (.ofNat w.nextId) order.userId item r s)
      (room : w.nextId < Uuid.limit) :
      ∀ x ∈ (s.startService w.now r.id).2.services, x.id.val < w.nextId + 1 := by
    intro x hx
    obtain ⟨y, hy, starts⟩ := exists_left_of_forall₂ (started_services w.now r.id s) hx
    rw [starts.continues.id]
    cases ensured with
    | found _ _ _ => exact Nat.lt_succ_of_lt (numbered.services y hy)
    | added _ _ =>
      rcases List.mem_append.mp hy with hy | hy
      · exact Nat.lt_succ_of_lt (numbered.services y hy)
      · obtain rfl := List.mem_singleton.mp hy
        simp [newService, Uuid.val_ofNat room]
  cases h with
  | handled r s n ensured _ counted =>
    have grown := grown ensured (Nat.lt_of_lt_of_le counted room)
    refine ⟨fun x hx => Nat.lt_of_lt_of_le (grown x hx) counted, fun x hx => ?_, fun x hx => ?_⟩
    · exact Nat.lt_trans (numbered.jobs x (ensured_jobs ensured ▸ hx)) counted
    · rw [ensured_rest ensured] at hx
      exact Nat.lt_trans (numbered.tasks x hx) counted
  | committed r s ensured _ _ =>
    have room : w.nextId + 1 < Uuid.limit := room
    have grown := grown ensured (by omega)
    refine ⟨fun x hx => Nat.lt_succ_of_lt (grown x hx), fun x hx => ?_, fun x hx => ?_⟩
    · rcases List.mem_append.mp hx with hx | hx
      · have := numbered.jobs x (ensured_jobs ensured ▸ hx)
        dsimp only
        omega
      · obtain rfl := List.mem_singleton.mp hx
        simp [newJob, Uuid.val_ofNat room]
    · rw [ensured_rest ensured] at hx
      have := numbered.tasks x hx
      dsimp only
      omega

/-- Nothing but services, jobs and the count of identifiers has changed. -/
theorem ItemPrepared.rest (h : ItemPrepared order item w task w') : w' = { w with
    nextId := w'.nextId
    store := { w.store with services := w'.store.services, jobs := w'.store.jobs } } := by
  cases h with
  | handled r s n ensured _ _ => rw [ensured_rest ensured]; rfl
  | committed r s ensured _ _ => rw [ensured_rest ensured]; rfl

theorem ItemPrepared.oneLive (h : ItemPrepared order item w task w') (one : w.store.OneLive) :
    w'.store.OneLive := by
  cases h with
  | handled r s n ensured _ _ =>
    intro a ha b hb
    exact one a (ensured_jobs ensured ▸ ha) b (ensured_jobs ensured ▸ hb)
  | committed r s ensured _ idle =>
    have before : (s.startService w.now r.id).2.OneLive := by
      intro a ha b hb
      exact one a (ensured_jobs ensured ▸ ha) b (ensured_jobs ensured ▸ hb)
    exact before.add_job idle

theorem ItemPrepared.services (h : ItemPrepared order item w task w') :
    ∀ r ∈ w.store.services, ∃ r' ∈ w'.store.services, r.Starts r' := by
  intro x hx
  cases h with
  | handled r s n ensured _ _ =>
    exact exists_right_of_forall₂ (started_services w.now r.id s) (ensured_kept ensured x hx)
  | committed r s ensured _ _ =>
    exact exists_right_of_forall₂ (started_services w.now r.id s) (ensured_kept ensured x hx)

theorem ItemPrepared.jobs (h : ItemPrepared order item w task w') :
    ∀ j ∈ w.store.jobs, j ∈ w'.store.jobs := by
  intro j hj
  cases h with
  | handled r s n ensured _ _ => exact (ensured_jobs ensured).symm ▸ hj
  | committed r s ensured _ _ =>
    exact List.mem_append_left _ ((ensured_jobs ensured).symm ▸ hj)

theorem ItemPrepared.provided (h : ItemPrepared order item w task w') :
    w'.store.Provided item.id := by
  cases h with
  | handled r s n ensured handled _ =>
    obtain ⟨r', hr', starts, provisioning⟩ := started_mem ensured
    refine ⟨r', hr', starts.continues.itemId.trans (ensured_line ensured), ?_⟩
    cases isDone : r.status.isDone with
    | true =>
      rcases starts with rfl | ⟨notDone, -⟩
      · exact .inl isDone
      · rw [isDone] at notDone; cases notDone
    | false =>
      refine .inr ⟨provisioning isDone, ?_⟩
      rw [starts.continues.id]
      exact handled.resolve_left (by simp [isDone])
  | committed r s ensured notDone _ =>
    obtain ⟨r', hr', starts, provisioning⟩ := started_mem ensured
    refine ⟨r', hr', starts.continues.itemId.trans (ensured_line ensured),
      .inr ⟨provisioning notDone, ?_⟩⟩
    rw [starts.continues.id]
    exact List.any_eq_true.mpr ⟨newJob w.now (.ofNat (w.nextId + 1)) r.id .provisionVps, by simp,
      isLiveJob_newJob _ _ _ _⟩

/-- A job is committed for the line exactly when it waits for one. -/
theorem ItemPrepared.tasks (h : ItemPrepared order item w task w') (linked : w.store.Linked)
    (fresh : ∀ x ∈ w.store.services, x.id ≠ .ofNat w.nextId) :
    List.Forall₂ (w'.store.Commits order.id)
      ([item].filter fun item => w.store.awaits item.id) task.toList := by
  cases h with
  | handled r s n ensured handled _ =>
    have waits := ensured_awaits ensured linked fresh
    have : w.store.awaits item.id = false := by
      rcases handled with h | h <;> simp [waits, h]
    simp [this]
  | committed r s ensured notDone idle =>
    have waits := ensured_awaits ensured linked fresh
    have : w.store.awaits item.id = true := by simp [waits, notDone, idle]
    obtain ⟨r', hr', starts, provisioning⟩ := started_mem ensured
    have same := starts.continues
    simp only [List.filter_cons, this, if_pos, List.filter_nil, Option.toList_some]
    refine .cons ⟨rfl, r', hr', same.itemId.trans (ensured_line ensured), same.id.symm,
      same.planId.symm, same.userId.symm, provisioning notDone, ?_⟩ .nil
    refine ⟨newJob w.now (.ofNat (w.nextId + 1)) r.id .provisionVps, by simp, rfl, ?_⟩
    rw [same.id]
    exact isLiveJob_newJob _ _ _ _

/-- The services of other lines stay as they are. -/
theorem ItemPrepared.otherServices (h : ItemPrepared order item w task w')
    (linked : w.store.Linked) (numbered : w.Numbered) (known : item.id ∈ w.store.items.map (·.id))
    (room : w'.nextId ≤ Uuid.limit) (keep : Uuid → Bool) (other : keep item.id = false) :
    w'.store.services.filter (fun r => keep r.itemId) =
      w.store.services.filter fun r => keep r.itemId := by
  have same {r : ServiceRow} {s : Store}
      (ensured : w.store.Ensures w.now (.ofNat w.nextId) order.userId item r s)
      (room : w.nextId < Uuid.limit) :
      (s.startService w.now r.id).2.services.filter (fun r => keep r.itemId) =
        w.store.services.filter fun r => keep r.itemId := by
    rw [← ensured_others ensured keep other]
    have before := (started_linked ensured linked numbered known room).1
    apply filter_changeRows_of_not
    · intro x hx kept
      by_cases is : x.id = r.id
      · rw [eq_of_key before.services hx (ensured_mem ensured) is, ensured_line ensured, other] at kept
        cases kept
      · simp [is]
    · exact fun _ _ _ => rfl
  cases h with
  | handled r s n ensured _ counted => exact same ensured (Nat.lt_of_lt_of_le counted room)
  | committed r s ensured _ _ =>
    have room : w.nextId + 1 < Uuid.limit := room
    exact same ensured (by omega)

/-- The jobs of other services stay as they are. -/
theorem ItemPrepared.otherJobs (h : ItemPrepared order item w task w') (keep : Uuid → Bool)
    (other : ∀ r ∈ w'.store.services, r.itemId = item.id → keep r.id = false) :
    w'.store.jobs.filter (fun j => keep j.serviceId) =
      w.store.jobs.filter fun j => keep j.serviceId := by
  cases h with
  | handled r s n ensured _ _ =>
    change s.jobs.filter _ = _
    rw [ensured_jobs ensured]
  | committed r s ensured _ _ =>
    obtain ⟨r', hr', starts, -⟩ := started_mem ensured
    have := other r' hr' (starts.continues.itemId.trans (ensured_line ensured))
    rw [starts.continues.id] at this
    simp [List.filter_append, newJob, this, ensured_jobs ensured]

theorem ItemPrepared.prepares (h : ItemPrepared order item w task w') (linked : w.store.Linked)
    (numbered : w.Numbered) (known : item.id ∈ w.store.items.map (·.id))
    (room : w'.nextId ≤ Uuid.limit) : Prepares order [item] w task.toList w' := by
  have counted : w.nextId < w'.nextId := by
    cases h with
    | handled _ _ _ _ _ counted => exact counted
    | committed _ _ _ _ _ => exact Nat.lt_add_of_pos_right (by decide)
  exact {
    rest := h.rest
    counted := Nat.le_of_lt counted
    linked := h.linked linked numbered known room
    numbered := h.numbered numbered room
    oneLive := h.oneLive
    services := h.services
    jobs := h.jobs
    provided := by simpa using h.provided
    tasks := h.tasks linked (fresh_service numbered (Nat.lt_of_lt_of_le counted room))
    otherServices := fun keep other =>
      h.otherServices linked numbered known room keep (other item List.mem_cons_self)
    otherJobs := fun keep other => h.otherJobs keep fun r hr line => other r hr (by simp [line]) }

end prepared

/-! ## All lines -/

theorem Prepares.nil {order : OrderRow} {w : World} (linked : w.store.Linked)
    (numbered : w.Numbered) : Prepares order [] w [] w where
  rest := rfl
  counted := Nat.le_refl _
  linked := linked
  numbered := numbered
  oneLive := id
  services r hr := ⟨r, hr, .inl rfl⟩
  jobs _ hj := hj
  provided := by simp
  tasks := .nil
  otherServices _ _ := rfl
  otherJobs _ _ := rfl

theorem provided_later {a b : Store} {itemId : Uuid} (h : a.Provided itemId)
    (services : ∀ r ∈ a.services, ∃ r' ∈ b.services, r.Starts r') (jobs : ∀ j ∈ a.jobs, j ∈ b.jobs) :
    b.Provided itemId := by
  obtain ⟨r, hr, line, status⟩ := h
  obtain ⟨r', hr', starts⟩ := services r hr
  refine ⟨r', hr', starts.continues.itemId.trans line, ?_⟩
  rw [starts.continues.id]
  have kept : a.hasLive r.id = true → b.hasLive r.id = true := by
    intro live
    obtain ⟨j, hj, isLive⟩ := List.any_eq_true.mp live
    exact List.any_eq_true.mpr ⟨j, jobs j hj, isLive⟩
  rcases starts with rfl | ⟨notDone, now, rfl⟩
  · exact status.imp id (And.imp id kept)
  · rcases status with isDone | ⟨-, live⟩
    · rw [isDone] at notDone; cases notDone
    · exact .inr ⟨rfl, kept live⟩

theorem commits_later {a b : Store} {orderId : Uuid} {item : ItemRow} {t : CommittedJob}
    (h : a.Commits orderId item t) (services : ∀ r ∈ a.services, ∃ r' ∈ b.services, r.Starts r')
    (jobs : ∀ j ∈ a.jobs, j ∈ b.jobs) : b.Commits orderId item t := by
  obtain ⟨ofOrder, r, hr, line, service, plan, user, status, j, hj, id, live⟩ := h
  obtain ⟨r', hr', starts⟩ := services r hr
  have same := starts.continues
  refine ⟨ofOrder, r', hr', same.itemId.trans line, service.trans same.id.symm,
    plan.trans same.planId.symm, user.trans same.userId.symm, ?_, j, jobs j hj, id, same.id ▸ live⟩
  rcases starts with rfl | ⟨-, now, rfl⟩
  · exact status
  · rfl

/-- The jobs of different lines are for different services. -/
theorem commits_apart {s : Store} {orderId : Uuid} {items : List ItemRow} {tasks : List CommittedJob}
    (h : List.Forall₂ (s.Commits orderId) items tasks) (linked : s.Linked)
    (distinct : (items.map (·.id)).Nodup) : (tasks.map (·.serviceId)).Nodup := by
  refine nodup_of_forall₂ (fun {x x' y y'} commits commits' same => ?_) h distinct
  obtain ⟨-, r, hr, itemId, service, -⟩ := commits
  obtain ⟨-, r', hr', itemId', service', -⟩ := commits'
  obtain rfl := eq_of_key linked.services hr hr' (service.symm.trans (same.trans service'))
  exact itemId.symm.trans itemId'

/-- Preparing some lines changes nothing about whether another one waits. -/
theorem Prepares.awaits {order : OrderRow} {items : List ItemRow} {w w' : World}
    {tasks : List CommittedJob} (h : Prepares order items w tasks w') {itemId : Uuid}
    (other : itemId ∉ items.map (·.id)) : w'.store.awaits itemId = w.store.awaits itemId := by
  have apart : ∀ item ∈ items, (item.id == itemId) = false := by
    intro item hi
    have : item.id ≠ itemId := fun same => other (same ▸ List.mem_map_of_mem hi)
    simpa using this
  have services (r : ServiceRow) (line : r.itemId = itemId) :
      r ∈ w'.store.services ↔ r ∈ w.store.services := by
    have := congrArg (r ∈ ·) (h.otherServices (· == itemId) apart)
    simpa [line] using this
  have live (r : ServiceRow) (hr : r ∈ w'.store.services) (line : r.itemId = itemId) :
      w'.store.hasLive r.id = true ↔ w.store.hasLive r.id = true := by
    have theirs : ∀ x ∈ w'.store.services, x.itemId ∈ items.map (·.id) → (x.id == r.id) = false := by
      intro x hx theirs
      have : x.id ≠ r.id := by
        intro same
        rw [eq_of_key h.linked.services hx hr same, line] at theirs
        exact other theirs
      simpa using this
    have jobs (j : JobRow) (of : j.serviceId = r.id) : j ∈ w'.store.jobs ↔ j ∈ w.store.jobs := by
      have := congrArg (j ∈ ·) (h.otherJobs (· == r.id) theirs)
      simpa [of] using this
    simp only [Store.hasLive, List.any_eq_true]
    refine exists_congr fun j => ⟨?_, ?_⟩ <;> rintro ⟨hj, isLive⟩
    · exact ⟨(jobs j (isLiveJob_iff.mp isLive).1).mp hj, isLive⟩
    · exact ⟨(jobs j (isLiveJob_iff.mp isLive).1).mpr hj, isLive⟩
  unfold Store.awaits
  congr 1
  rw [Bool.eq_iff_iff, List.any_eq_true, List.any_eq_true]
  simp only [Bool.and_eq_true, Bool.or_eq_true, beq_iff_eq]
  refine exists_congr fun r => ⟨?_, ?_⟩ <;> rintro ⟨hr, line, handled⟩
  · exact ⟨(services r line).mp hr, line, handled.imp id (live r hr line).mp⟩
  · have hr := (services r line).mpr hr
    exact ⟨hr, line, handled.imp id (live r hr line).mpr⟩

/-- Lines that were prepared first and lines that were prepared then. -/
theorem Prepares.append {order : OrderRow} {xs ys : List ItemRow} {w w₁ w₂ : World}
    {first second : List CommittedJob} (hx : Prepares order xs w first w₁)
    (hy : Prepares order ys w₁ second w₂) (apart : ∀ item ∈ ys, item.id ∉ xs.map (·.id)) :
    Prepares order (xs ++ ys) w (first ++ second) w₂ where
  rest := hy.rest.trans (by rw [hx.rest])
  counted := Nat.le_trans hx.counted hy.counted
  linked := hy.linked
  numbered := hy.numbered
  oneLive one := hy.oneLive (hx.oneLive one)
  services r hr := by
    obtain ⟨r₁, hr₁, starts₁⟩ := hx.services r hr
    obtain ⟨r₂, hr₂, starts₂⟩ := hy.services r₁ hr₁
    refine ⟨r₂, hr₂, ?_⟩
    rcases starts₁ with rfl | ⟨notDone, now, rfl⟩
    · exact starts₂
    · rcases starts₂ with rfl | ⟨-, now₂, rfl⟩
      · exact .inr ⟨notDone, now, rfl⟩
      · exact .inr ⟨notDone, now₂, rfl⟩
  jobs j hj := hy.jobs j (hx.jobs j hj)
  provided item hi := by
    rcases List.mem_append.mp hi with hi | hi
    · exact provided_later (hx.provided item hi) hy.services hy.jobs
    · exact hy.provided item hi
  tasks := by
    have waits : ys.filter (fun item => w₁.store.awaits item.id) =
        ys.filter fun item => w.store.awaits item.id :=
      List.filter_congr fun item hi => hx.awaits (apart item hi)
    rw [List.filter_append, ← waits]
    refine List.rel_append ?_ hy.tasks
    exact hx.tasks.imp fun item t commits => commits_later commits hy.services hy.jobs
  otherServices keep other := by
    rw [hy.otherServices keep fun item hi => other item (List.mem_append_right _ hi)]
    exact hx.otherServices keep fun item hi => other item (List.mem_append_left _ hi)
  otherJobs keep other := by
    rw [hy.otherJobs keep fun r hr line => other r hr (by simp at line ⊢; exact .inr line)]
    apply hx.otherJobs keep
    intro r hr line
    obtain ⟨r', hr', starts⟩ := hy.services r hr
    have same := starts.continues
    rw [← same.id]
    exact other r' hr' (by rw [same.itemId]; simp at line ⊢; exact .inl line)

theorem prepareItems_plain (order : OrderRow) (items : List ItemRow) :
    (prepareItems order items).Plain := by
  have one (item : ItemRow) : (prepareItem order item).Plain := by
    refine .bind .now fun now => .bind (.bind .freshId fun _ => .bind (.change _ _) fun _ =>
      .execute _ _) fun service => .ite (.pure _) ?_
    refine .bind (.change _ _) fun _ => .bind (.bind .freshId fun _ => .change _ _) ?_
    rintro (_ | jobId)
    · exact .pure _
    · exact .pure _
  induction items with
  | nil => exact .pure _
  | cons item rest ih => exact .bind (one item) fun _ => .bind ih fun _ => .pure _

theorem prepareItems_run {order : OrderRow} {items : List ItemRow} {w w' : World}
    {tasks : List CommittedJob} (calm : w.faults = []) (linked : w.store.Linked)
    (numbered : w.Numbered) (known : ∀ item ∈ items, item.id ∈ w.store.items.map (·.id))
    (keys : (items.map (·.id)).Nodup) (ran : (prepareItems order items).run w = (.ok tasks, w'))
    (room : w'.nextId ≤ Uuid.limit) : Prepares order items w tasks w' := by
  induction items generalizing w tasks with
  | nil =>
    cases ran
    exact .nil linked numbered
  | cons item rest ih =>
    obtain ⟨task, w₁, ranItem, ranRest⟩ := Action.run_bind_ok ran
    obtain ⟨more, _, ranRest, last⟩ := Action.run_bind_ok ranRest
    cases last
    obtain ⟨task', w₁', ranItem', prepared⟩ := prepareItem_run calm linked order item
    rw [ranItem] at ranItem'
    cases ranItem'
    have counted : w₁.nextId ≤ w'.nextId :=
      ((prepareItems_plain order rest).counts.follows ranRest).nextId
    have first := prepared.prepares linked numbered (known item List.mem_cons_self)
      (Nat.le_trans counted room)
    have same : w₁.store.items = w.store.items := by rw [first.rest]
    have calm₁ : w₁.faults = [] := by rw [first.rest]; exact calm
    obtain ⟨apart, keys⟩ := List.nodup_cons.mp keys
    have then_ := ih calm₁ first.linked first.numbered
      (fun x hx => same ▸ known x (List.mem_cons_of_mem _ hx)) keys ranRest
    refine first.append then_ fun x hx line => apart ?_
    rw [← List.mem_singleton.mp line]
    exact List.mem_map_of_mem hx

end Checkout

end HostingBilling
