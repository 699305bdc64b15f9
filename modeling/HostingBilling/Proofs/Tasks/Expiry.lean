import HostingBilling.Proofs.Tasks.Reinvocation

/-!
# Expiry by sweep and by service

A sweep asks which services are over and then suspends each of them in a statement of its own, which looks once
more whether the service is over. A service that was suspended is not over any more, so no statement undoes or
repeats what another one did, and it only matters which services are named.

Main statement: a sweep leaves what requests for every single service leave, in whatever order they are made.
-/

namespace HostingBilling

/-- The service is active, and the period that was paid for is over. -/
structure ServiceRow.Overdue (now : Instant) (r : ServiceRow) : Prop where
  active : r.status = .active
  past : ∃ due, r.expiresAt = some due ∧ due ≤ now

/-- A service that expires. -/
def ServiceRow.expired (now : Instant) (r : ServiceRow) : ServiceRow := { r with
  status := .suspended
  metadata := r.metadata.merge [Store.stamp "expired_at" now]
  updatedAt := now }

namespace Store

variable {s : Store} {now : Instant}

theorem isExpired_iff {r : ServiceRow} : isExpired now r = true ↔ r.Overdue now := by
  simp only [isExpired, Bool.and_eq_true, beq_iff_eq, Option.any_eq_true, decide_eq_true_eq]
  constructor
  · rintro ⟨active, past⟩
    exact ⟨active, past⟩
  · intro overdue
    exact ⟨overdue.active, overdue.past⟩

instance (now : Instant) (r : ServiceRow) : Decidable (r.Overdue now) := decidable_of_iff _ isExpired_iff

@[simp] theorem isExpired_expired (later : Instant) (r : ServiceRow) :
    isExpired later (r.expired now) = false := rfl

theorem expireService_eq (now : Instant) (id : Uuid) (s : Store) : s.expireService now id =
    (s.services.any fun r => r.id == id && isExpired now r, { s with
      services := changeRows (fun r => r.id == id && isExpired now r) (·.expired now) s.services }) := rfl

/-- Every service that is over has expired. -/
def sweep (now : Instant) (s : Store) : Store :=
  { s with services := changeRows (isExpired now) (·.expired now) s.services }

/-- The expiry of one service after another. -/
def expireServices (now : Instant) (ids : List Uuid) (s : Store) : Store :=
  ids.foldl (fun s id => (s.expireService now id).2) s

/-- Of the services that are named, those that are over have expired. The order does not tell. -/
theorem expireServices_eq (now : Instant) (ids : List Uuid) (s : Store) : s.expireServices now ids = { s with
    services := changeRows (fun r => ids.contains r.id && isExpired now r) (·.expired now) s.services } := by
  induction ids generalizing s with
  | nil =>
    have none_ : ∀ r ∈ s.services, ([].contains r.id && isExpired now r) = false := fun r _ => rfl
    rw [changeRows_of_none none_]
    rfl
  | cons id rest ih =>
    -- a service that this expiry suspends is chosen by none of those that follow, so all are one change
    have once : ∀ r : ServiceRow, (r.id == id && isExpired now r) = true →
        (rest.contains (r.expired now).id && isExpired now (r.expired now)) = false := by simp
    have both : ∀ r ∈ s.services, (r.id == id && isExpired now r || rest.contains r.id && isExpired now r) =
        ((id :: rest).contains r.id && isExpired now r) := by
      intro r _
      rw [List.contains_cons, Bool.and_or_distrib_right]
    rw [expireServices, List.foldl_cons, ← expireServices, ih, expireService_eq]
    exact congrArg (fun services => { s with services }) ((changeRows_or once).trans (changeRows_congr both))

/-- Once every service that is over is named, all of them have expired. -/
theorem expireServices_of_named {ids : List Uuid}
    (named : ∀ r ∈ s.services, isExpired now r = true → r.id ∈ ids) : s.expireServices now ids = s.sweep now := by
  rw [expireServices_eq]
  refine congrArg (fun services => { s with services }) (changeRows_congr fun r hr => ?_)
  cases lapsed : isExpired now r with
  | false => simp
  | true => simp [named r hr lapsed]

theorem isExpired_of_mem_sweep {r : ServiceRow} (hr : r ∈ (s.sweep now).services) : isExpired now r = false := by
  obtain ⟨x, -, rfl⟩ := mem_changeRows.mp hr
  split
  · exact isExpired_expired now x
  · next other => exact Bool.eq_false_iff.mpr other

theorem countP_sweep (now : Instant) (s : Store) : (s.sweep now).services.countP (isExpired now) = 0 :=
  List.countP_eq_zero.mpr fun r hr => by simp [isExpired_of_mem_sweep hr]

/-- An expiry counts the service that it takes away from those that are over. -/
theorem countP_expireService (now : Instant) (distinct : (s.services.map (·.id)).Nodup) (id : Uuid) :
    (s.expireService now id).2.services.countP (isExpired now) +
      (if (s.expireService now id).1 then 1 else 0) = s.services.countP (isExpired now) := by
  rw [expireService_eq, ← countP_eq_any distinct.of_map]
  · refine countP_changeRows_add fun r selected => ⟨(Bool.and_eq_true_iff.mp selected).2, ?_⟩
    exact isExpired_expired now r
  · intro a ha b hb left right
    have same : a.id = b.id :=
      (beq_iff_eq.mp (Bool.and_eq_true_iff.mp left).1).trans (beq_iff_eq.mp (Bool.and_eq_true_iff.mp right).1).symm
    exact eq_of_key distinct ha hb same

theorem ids_expireService (now : Instant) (id : Uuid) (s : Store) :
    (s.expireService now id).2.services.map (·.id) = s.services.map (·.id) :=
  map_changeRows _ fun _ => rfl

theorem linked_expireService (linked : s.Linked) (now : Instant) (id : Uuid) :
    (s.expireService now id).2.Linked :=
  (Declines.tends.expires now id s).quiet.linked linked

theorem perm_expiredServices (now : Instant) (s : Store) :
    (s.expiredServices now).Perm ((s.services.filter (isExpired now)).map (·.id)) :=
  (perm_sortRows _ _).map _

end Store

theorem ExpiryReport.count_ok (r : ExpiryReport) (suspended : Bool) : r.count (.ok suspended) = { r with
    checked := r.checked + 1
    suspended := r.suspended + if suspended then 1 else 0 } := by
  cases suspended <;> rfl

namespace Lifecycle

open Store (isExpired)

variable {w : World} (calm : w.faults = [])

include calm

theorem expire_found (linked : w.store.Linked) {id : Uuid} (known : id ∈ w.store.services.map (·.id)) :
    (expire ⟨some id⟩).run w = (.ok ⟨1, if (w.store.expireService w.now id).1 then 1 else 0, 0, false⟩,
      { w with store := (w.store.expireService w.now id).2 }) := by
  obtain ⟨r, hr, rfl⟩ := List.mem_map.mp known
  obtain ⟨item, order, bought⟩ := linked.bought hr
  exact expireOne_found calm (Provisioning.detail?_of_bought linked bought)

/-- The services that are looked at are counted, and those that are no longer over afterwards. -/
theorem expireEach_run (distinct : (w.store.services.map (·.id)).Nodup) (report : ExpiryReport)
    (ids : List Uuid) : ∃ n, (expireEach report ids).run w =
        (.ok { report with checked := report.checked + ids.length, suspended := report.suspended + n },
          { w with store := w.store.expireServices w.now ids }) ∧
      (w.store.expireServices w.now ids).services.countP (isExpired w.now) + n =
        w.store.services.countP (isExpired w.now) := by
  induction ids generalizing w report with
  | nil => exact ⟨0, rfl, rfl⟩
  | cons id rest ih =>
    let v : World := { w with store := (w.store.expireService w.now id).2 }
    have expires : (Services.expire id).attempt.run w = (.ok (.ok (w.store.expireService w.now id).1), v) := by
      rw [Action.run_attempt, show (Services.expire id).run w = _ from run_change calm _ _]
    have distinct' : (v.store.services.map (·.id)).Nodup := by
      rw [Store.ids_expireService]
      exact distinct
    obtain ⟨n, ran, counted⟩ := ih (w := v) calm distinct' (report.count (.ok (w.store.expireService w.now id).1))
    have here := Store.countP_expireService w.now distinct id
    refine ⟨n + if (w.store.expireService w.now id).1 then 1 else 0, ?_, ?_⟩
    · rw [expireEach, Action.run_bind_of_ok expires, ran, ExpiryReport.count_ok, List.length_cons,
        Nat.add_right_comm, Nat.add_assoc report.suspended, Nat.add_comm n]
      rfl
    · rw [← here, ← counted, Nat.add_assoc]
      rfl

/-- Requests for single services are answered, and together count the services that are no longer over. -/
theorem expireSingly_run (linked : w.store.Linked) {ids : List Uuid}
    (known : ∀ id ∈ ids, id ∈ w.store.services.map (·.id)) :
    ∃ reports, (ids.mapM fun id => expire ⟨some id⟩).run w =
        (.ok reports, { w with store := w.store.expireServices w.now ids }) ∧
      (w.store.expireServices w.now ids).services.countP (isExpired w.now) + (reports.map (·.suspended)).sum =
        w.store.services.countP (isExpired w.now) := by
  induction ids generalizing w with
  | nil => exact ⟨[], rfl, rfl⟩
  | cons id rest ih =>
    obtain ⟨this, others⟩ := List.forall_mem_cons.mp known
    let v : World := { w with store := (w.store.expireService w.now id).2 }
    have known' : ∀ x ∈ rest, x ∈ v.store.services.map (·.id) := by
      rw [Store.ids_expireService]
      exact others
    obtain ⟨reports, ran, counted⟩ := ih (w := v) calm (Store.linked_expireService linked w.now id) known'
    have here := Store.countP_expireService w.now linked.services id
    refine ⟨⟨1, if (w.store.expireService w.now id).1 then 1 else 0, 0, false⟩ :: reports, ?_, ?_⟩
    · rw [List.mapM_cons, Action.run_bind_of_ok (expire_found calm linked this), Action.run_bind_of_ok ran]
      rfl
    · rw [← here, ← counted, List.map_cons, List.sum_cons, Nat.add_assoc, Nat.add_comm (List.sum _)]
      rfl

theorem expireAll_run (distinct : (w.store.services.map (·.id)).Nodup)
    (free : TaskKind.expireService.name ∉ w.leases) : (expire ⟨none⟩).run w =
      (.ok ⟨w.store.services.countP (isExpired w.now), w.store.services.countP (isExpired w.now), 0, false⟩,
        { w with store := w.store.sweep w.now }) := by
  have perm := Store.perm_expiredServices w.now w.store
  have named : ∀ r ∈ w.store.services, isExpired w.now r = true → r.id ∈ w.store.expiredServices w.now :=
    fun r hr lapsed => perm.mem_iff.mpr (List.mem_map_of_mem (List.mem_filter.mpr ⟨hr, lapsed⟩))
  have length : (w.store.expiredServices w.now).length = w.store.services.countP (isExpired w.now) := by
    rw [perm.length_eq, List.length_map, List.countP_eq_length_filter]
  have looks : Services.expired.run w = (.ok (w.store.expiredServices w.now), w) := run_ask calm _ _
  obtain ⟨n, ran, counted⟩ := expireEach_run calm distinct ⟨0, 0, 0, false⟩ (w.store.expiredServices w.now)
  rw [Store.expireServices_of_named named] at ran counted
  rw [Store.countP_sweep, Nat.zero_add] at counted
  rw [counted, length, Nat.zero_add] at ran
  exact (run_withLease calm free _ _).trans ((Action.run_bind_of_ok looks _).trans ran)

theorem expireSingly_all (linked : w.store.Linked) {ids : List Uuid}
    (perm : ids.Perm (w.store.services.map (·.id))) :
    ∃ reports, (ids.mapM fun id => expire ⟨some id⟩).run w = (.ok reports, { w with store := w.store.sweep w.now }) ∧
      (reports.map (·.suspended)).sum = w.store.services.countP (isExpired w.now) := by
  have named : ∀ r ∈ w.store.services, isExpired w.now r = true → r.id ∈ ids :=
    fun r hr _ => perm.mem_iff.mpr (List.mem_map_of_mem hr)
  obtain ⟨reports, ran, counted⟩ := expireSingly_run calm linked fun id hid => perm.mem_iff.mp hid
  rw [Store.expireServices_of_named named] at ran counted
  rw [Store.countP_sweep, Nat.zero_add] at counted
  exact ⟨reports, ran, counted⟩

omit calm

/-- What a sweep has done: the services that were over have expired, none is over any more, and nothing else has
changed. -/
structure Swept (w w' : World) : Prop where
  services : w'.store.services = w.store.services.map fun r => if r.Overdue w.now then r.expired w.now else r
  none_left : ∀ r ∈ w'.store.services, ¬ r.Overdue w.now
  rest : w' = { w with store := { w.store with services := w'.store.services } }

theorem swept_sweep (w : World) : Swept w { w with store := w.store.sweep w.now } where
  services := by simp only [Store.sweep, changeRows, Store.isExpired_iff]
  none_left r hr overdue := by
    have chosen := Store.isExpired_iff.mpr overdue
    rw [Store.isExpired_of_mem_sweep hr] at chosen
    cases chosen
  rest := rfl

/-- **A sweep does what requests for every service do.** While no other sweep is running, a sweep expires the
services that are over, and counts just these as checked and as suspended. Requests for every single service, in
any order, are all answered, suspend as many, and leave the same. -/
theorem sweep_eq_singly (calm : w.faults = []) (linked : w.store.Linked)
    (free : TaskKind.expireService.name ∉ w.leases) :
    ∃ n w', n = w.store.services.countP (fun r => r.Overdue w.now) ∧
      (expire ⟨none⟩).run w = (.ok ⟨n, n, 0, false⟩, w') ∧ Swept w w' ∧
      ∀ ids : List Uuid, ids.Perm (w.store.services.map (·.id)) →
        ∃ reports, (ids.mapM fun id => expire ⟨some id⟩).run w = (.ok reports, w') ∧
          (reports.map (·.suspended)).sum = n := by
  have counts : w.store.services.countP (fun r => r.Overdue w.now) =
      w.store.services.countP (isExpired w.now) :=
    List.countP_congr fun r _ => by rw [decide_eq_true_eq, Store.isExpired_iff]
  rw [counts]
  exact ⟨_, _, rfl, expireAll_run calm linked.services free, swept_sweep w,
    fun ids perm => expireSingly_all calm linked perm⟩

/-- A line of an order, and the service that was bought on it. -/
def expiringItem (n : Nat) : ItemRow := ⟨.ofNat n, .ofNat 1, .ofNat 8, .object [], .monthly, 1, 500, ⟨0, 0⟩⟩

def expiringService (n : Nat) (status : ServiceStatus) (due : Option Instant) : ServiceRow :=
  { newService ⟨0, 0⟩ (.ofNat (n + 10)) (.ofNat 9) (expiringItem n) ⟨0, 0⟩ with status, expiresAt := due }

/-- A service that is over, one that is not yet, one that never will be, and one that was suspended before. -/
def expiringStore : Store := { Store.empty with
  orders := [⟨.ofNat 1, .ofNat 9, .active, "USD", 2000, ⟨0, 0⟩, ⟨0, 0⟩⟩]
  items := [2, 3, 4, 5].map expiringItem
  services := [expiringService 2 .active (some ⟨1000, 0⟩), expiringService 3 .active (some ⟨1000, 1⟩),
    expiringService 4 .active none, expiringService 5 .suspended (some ⟨900, 0⟩)] }

def expiringWorld : World := World.start expiringStore ⟨1000, 0⟩ 100 ⟨"", "", ""⟩

/-- The sweep and the requests in another order suspend the one service that is over. -/
theorem sweep_eq_singly_expiring : ∃ w' reports, (expire ⟨none⟩).run expiringWorld = (.ok ⟨1, 1, 0, false⟩, w') ∧
    ([.ofNat 15, .ofNat 12, .ofNat 14, .ofNat 13].mapM fun id => expire ⟨some id⟩).run expiringWorld =
      (.ok reports, w') ∧
    w'.store.services.map (·.status) = [.suspended, .active, .active, .suspended] := by
  obtain ⟨n, w', counted, ran, swept, singly⟩ := sweep_eq_singly (w := expiringWorld) rfl (by decide) (by decide)
  obtain ⟨reports, ran', -⟩ := singly [.ofNat 15, .ofNat 12, .ofNat 14, .ofNat 13] (by decide)
  obtain rfl : n = 1 := counted.trans (by decide)
  exact ⟨w', reports, ran, ran', by rw [swept.services]; decide⟩

end Lifecycle

end HostingBilling
