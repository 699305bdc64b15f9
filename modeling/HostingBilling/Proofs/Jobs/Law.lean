import HostingBilling.Proofs.Checkout.Preparation
import HostingBilling.Proofs.Quiet
import HostingBilling.Proofs.Spelling

/-!
# The law of jobs

A live job is the last job of its service, and unless the service is terminated there is an unfinished
task that will come to it. Between the commit of a job and its submission the job is owed such a task,
so the law is kept relative to the jobs that are still owed.
-/

namespace HostingBilling

open Store (Quiet)

/-- An unfinished task that builds the machine of a service. -/
structure TaskRow.Serves (t : TaskRow) (serviceId : Uuid) : Prop where
  unfinished : t.status = .pending ∨ t.status = .processing
  kind : t.kind = TaskKind.provisionVps.name
  payload : ∃ p, Payload.decode .provisionVps t.payload = .ok (.provision p) ∧ p.serviceId = serviceId

/-- Whether an unfinished task builds the machine of a service. -/
def Store.Served (s : Store) (serviceId : Uuid) : Prop := ∃ t ∈ s.tasks, t.Serves serviceId

/-- Nothing has to be built for a service: it is terminated or has no live job. -/
def Store.AtRest (s : Store) (serviceId : Uuid) : Prop :=
  ∀ j ∈ s.jobs, j.serviceId = serviceId → j.status.isLive = true →
    ∀ r ∈ s.services, r.id = serviceId → r.status = .terminated

/-- A job with one more attempt under way. -/
def JobRow.started (now : Instant) (r : JobRow) : JobRow := { r with
  status := .running
  attempts := r.attempts + 1
  startedAt := some now
  lastError := none
  updatedAt := now }

/-- No fault waits, and a live job is the last one of its service. -/
structure World.Orderly (w : World) : Prop where
  calm : w.faults = []
  linked : w.store.Linked
  tasks : (w.store.tasks.map (·.id)).Nodup
  numbered : w.Numbered
  kinds : ∀ j ∈ w.store.jobs, j.kind = JobKind.provisionVps.name
  past : ∀ j ∈ w.store.jobs, j.createdAt ≤ w.now
  latest : ∀ j ∈ w.store.jobs, j.status.isLive = true → ∀ k ∈ w.store.jobs,
    k.serviceId = j.serviceId → k.id ≠ j.id → Store.isLater j k = true

/-- The law of jobs, while some committed jobs are owed their task. -/
structure JobLaw (owed : List CommittedJob) (w : World) : Prop extends w.Orderly where
  owing : ∀ d ∈ owed, ∃ j ∈ w.store.jobs, j.id = d.jobId ∧ j.serviceId = d.serviceId
  backed : ∀ j ∈ w.store.jobs, j.status.isLive = true → ∀ r ∈ w.store.services, r.id = j.serviceId →
    r.status ≠ .terminated → (∃ d ∈ owed, d.jobId = j.id) ∨ w.store.Served j.serviceId

/-! ## The latest job -/

namespace Store

theorem isLater_iff {a b : JobRow} : isLater a b = true ↔
    b.createdAt < a.createdAt ∨ a.createdAt = b.createdAt ∧ b.id < a.id := by
  simp [isLater]

theorem isLater_asymm {a b : JobRow} (h : isLater a b = true) : isLater b a = false := by
  rw [← Bool.not_eq_true, isLater_iff]
  rcases isLater_iff.mp h with before | ⟨same, below⟩
  · rintro (after | ⟨same, -⟩)
    · exact lt_asymm before after
    · exact ne_of_lt before same
  · rintro (after | ⟨-, above⟩)
    · exact ne_of_lt after same
    · exact Nat.lt_asymm below above

theorem isLater_irrefl (a : JobRow) : isLater a a = false := by
  cases h : isLater a a
  · rfl
  · exact h.symm.trans (isLater_asymm h)

/-- A third job is below the later one of two or above the other. -/
theorem isLater_or {a c : JobRow} (h : isLater a c = true) (b : JobRow) :
    isLater a b = true ∨ isLater b c = true := by
  simp only [isLater_iff] at h ⊢
  rcases h with before | ⟨same, below⟩
  · rcases lt_or_ge b.createdAt a.createdAt with earlier | later
    · exact .inl (.inl earlier)
    · exact .inr (.inl (lt_of_lt_of_le before later))
  · rcases lt_trichotomy b.createdAt a.createdAt with earlier | same' | later
    · exact .inl (.inl earlier)
    · rcases Nat.lt_or_ge b.id.val a.id.val with under | above
      · exact .inl (.inr ⟨same'.symm, under⟩)
      · exact .inr (.inr ⟨same'.trans same, Nat.lt_of_lt_of_le below above⟩)
    · exact .inr (.inl (same ▸ later))

/-- Keeps the later of two jobs. -/
def later (best : Option JobRow) (r : JobRow) : Option JobRow :=
  match best with
  | none => some r
  | some b => if isLater r b then some r else some b

theorem foldl_later_keeps {rows : List JobRow} {j : JobRow}
    (none_later : ∀ k ∈ rows, isLater k j = false) : rows.foldl later (some j) = some j := by
  induction rows with
  | nil => rfl
  | cons r rest ih =>
    rw [List.foldl_cons, later, none_later r List.mem_cons_self]
    exact ih fun k hk => none_later k (List.mem_cons_of_mem _ hk)

theorem foldl_later_finds {rows : List JobRow} {best : Option JobRow} {j : JobRow} (hj : j ∈ rows)
    (latest : ∀ k ∈ rows, k ≠ j → isLater j k = true)
    (beats : ∀ b, best = some b → isLater j b = true) : rows.foldl later best = some j := by
  induction rows generalizing best with
  | nil => cases hj
  | cons r rest ih =>
    rw [List.foldl_cons]
    by_cases here : r = j
    · subst here
      have taken : later best r = some r := by
        cases best with
        | none => rfl
        | some b => simp [later, beats b rfl]
      rw [taken]
      apply foldl_later_keeps
      intro k hk
      by_cases same : k = r
      · rw [same]
        exact isLater_irrefl r
      · exact isLater_asymm (latest k (List.mem_cons_of_mem _ hk) same)
    · have hj : j ∈ rest := (List.mem_cons.mp hj).resolve_left fun same => here same.symm
      apply ih hj fun k hk => latest k (List.mem_cons_of_mem _ hk)
      intro b hb
      have beaten := latest r List.mem_cons_self here
      cases best with
      | none => cases hb; exact beaten
      | some b' =>
        simp only [later] at hb
        split at hb
        · cases hb; exact beaten
        · cases hb; exact beats b rfl

/-- No row is later than the one that is kept. -/
theorem foldl_later_max {rows : List JobRow} {best : Option JobRow} {j : JobRow}
    (h : rows.foldl later best = some j) :
    (∀ k ∈ rows, isLater k j = false) ∧ ∀ b, best = some b → isLater b j = false := by
  induction rows generalizing best with
  | nil =>
    refine ⟨fun k hk => (nomatch hk), fun b hb => ?_⟩
    cases hb.symm.trans h
    exact isLater_irrefl _
  | cons r rest ih =>
    obtain ⟨others, kept⟩ := ih h
    have both : isLater r j = false ∧ ∀ b, best = some b → isLater b j = false := by
      cases best with
      | none => exact ⟨kept r rfl, fun b hb => nomatch hb⟩
      | some b =>
        cases newer : isLater r b with
        | true =>
          have below : isLater r j = false := kept r (if_pos newer)
          refine ⟨below, fun b' is => ?_⟩
          cases is
          rw [← Bool.not_eq_true]
          intro above
          rcases isLater_or above r with back | newest
          · rw [isLater_asymm newer] at back; cases back
          · rw [below] at newest; cases newest
        | false =>
          have below : isLater b j = false := kept b (if_neg (by simp [newer]))
          refine ⟨?_, fun b' is => by cases is; exact below⟩
          rw [← Bool.not_eq_true]
          intro above
          rcases isLater_or above b with newest | newest
          · rw [newer] at newest; cases newest
          · rw [below] at newest; cases newest
    exact ⟨List.forall_mem_cons.mpr ⟨both.1, others⟩, both.2⟩

variable {s : Store} {serviceId : Uuid} {kind : JobKind}

theorem latestJob_eq : s.latestJob serviceId kind =
    (s.jobs.filter fun r => r.serviceId == serviceId && r.kind == kind.name).foldl later none := rfl

theorem latestJob_of_later {j : JobRow} (hj : j ∈ s.jobs) (service : j.serviceId = serviceId)
    (isKind : j.kind = kind.name)
    (latest : ∀ k ∈ s.jobs, k.serviceId = serviceId → k ≠ j → isLater j k = true) :
    s.latestJob serviceId kind = some j := by
  rw [latestJob_eq]
  apply foldl_later_finds
  · exact List.mem_filter.mpr ⟨hj, by simp [service, isKind]⟩
  · intro k hk other
    simp only [List.mem_filter, Bool.and_eq_true, beq_iff_eq] at hk
    exact latest k hk.1 hk.2.1 other
  · exact fun _ h => nomatch h

theorem latestJob_some {j : JobRow} (h : s.latestJob serviceId kind = some j) :
    j ∈ s.jobs ∧ j.serviceId = serviceId ∧ j.kind = kind.name := by
  have choice (best : Option JobRow) (r : JobRow) : later best r = some r ∨ later best r = best := by
    cases best with
    | none => exact .inl rfl
    | some b =>
      dsimp only [later]
      split
      · exact .inl rfl
      · exact .inr rfl
  rw [latestJob_eq] at h
  rcases mem_of_foldl_choice choice h with there | there
  · simpa using there
  · cases there

/-- No job of the service is later than the latest. -/
theorem latestJob_max {j : JobRow} (h : s.latestJob serviceId kind = some j) {k : JobRow}
    (hk : k ∈ s.jobs) (service : k.serviceId = serviceId) (isKind : k.kind = kind.name) :
    isLater k j = false := by
  rw [latestJob_eq] at h
  exact (foldl_later_max h).1 k (List.mem_filter.mpr ⟨hk, by simp [service, isKind]⟩)

/-- Starting a job that no other live one stands beside. -/
theorem startJob_of_alone {j : JobRow} (keys : (s.jobs.map (·.id)).Nodup) (hj : j ∈ s.jobs)
    (alone : s.hasOtherLive j = false) (now : Instant) :
    s.startJob now j.id = .ok ((), (s.changeJobs (fun r => r.id == j.id) (JobRow.started now)).2) := by
  have here : s.job? j.id = some j := find?_key keys hj
  rw [startJob, here, Option.any_some, alone]
  rfl

/-- A change that leaves what a job is finds the same job as the latest, changed. -/
theorem latestJob_changeRows {s' : Store} {selects : JobRow → Bool} {change : JobRow → JobRow}
    (jobs : s'.jobs = changeRows selects change s.jobs)
    (same : ∀ r, (change r).id = r.id ∧ (change r).serviceId = r.serviceId ∧ (change r).kind = r.kind ∧
      (change r).createdAt = r.createdAt) :
    s'.latestJob serviceId kind =
      (s.latestJob serviceId kind).map fun r => if selects r then change r else r := by
  have later_ (a b : JobRow) : isLater (if selects a then change a else a)
      (if selects b then change b else b) = isLater a b := by
    simp only [isLater]
    split <;> split <;> simp only [same]
  have found (rows : List JobRow) (best : Option JobRow) :
      (changeRows selects change rows).foldl later (best.map fun r => if selects r then change r else r) =
        (rows.foldl later best).map fun r => if selects r then change r else r := by
    induction rows generalizing best with
    | nil => rfl
    | cons r rest ih =>
      rw [List.foldl_cons, ← ih, changeRows, List.map_cons, List.foldl_cons]
      congr 1
      cases best with
      | none => rfl
      | some b =>
        simp only [later, Option.map_some, later_]
        split <;> rfl
  rw [latestJob_eq, latestJob_eq, jobs, filter_changeRows _ fun r => by simp only [same]]
  exact found _ none

end Store

/-! ## What the law says of one service -/

theorem World.Orderly.idle {w : World} (h : w.Orderly) {serviceId : Uuid}
    (idle : w.store.hasLive serviceId = false) :
    ∀ j ∈ w.store.jobs, j.serviceId = serviceId → j.status.isLive = false := by
  intro j hj service
  have dead := List.any_eq_false.mp idle j hj
  rw [isLiveJob_iff] at dead
  rw [← Bool.not_eq_true]
  exact fun live => dead ⟨service, h.kinds j hj, live⟩

namespace JobLaw

variable {owed : List CommittedJob} {w w' : World}

/-- Two live jobs of one service would each be the later one. -/
theorem oneLive (h : JobLaw owed w) : w.store.OneLive := by
  intro a ha b hb service _ liveA liveB
  by_contra apart
  have apart : b.id ≠ a.id := fun same => apart (eq_of_key h.linked.jobs ha hb same.symm)
  have := h.latest a ha liveA b hb service.symm apart
  rw [Store.isLater_asymm (h.latest b hb liveB a ha service apart.symm)] at this
  cases this

/-- The search for the latest job of a service finds its live one. -/
theorem latestJob (h : JobLaw owed w) {j : JobRow} (hj : j ∈ w.store.jobs)
    (live : j.status.isLive = true) :
    w.store.latestJob j.serviceId .provisionVps = some j := by
  apply Store.latestJob_of_later hj rfl (h.kinds j hj)
  intro k hk service other
  exact h.latest j hj live k hk service fun same => other (eq_of_key h.linked.jobs hk hj same)

/-- Beside the latest job of a service no other one is live. -/
theorem alone (h : JobLaw owed w) {s : Store} (same : s.jobs = w.store.jobs) {serviceId : Uuid} {j : JobRow}
    (found : s.latestJob serviceId .provisionVps = some j) : s.hasOtherLive j = false := by
  obtain ⟨-, service, -⟩ := Store.latestJob_some found
  apply List.any_eq_false.mpr
  intro k hk other
  simp only [Bool.and_eq_true, bne_iff_ne, isLiveJob_iff] at other
  obtain ⟨apart, of, -, live⟩ := other
  have latest := h.latestJob (same ▸ hk) live
  rw [Store.latestJob_eq, ← same, ← Store.latestJob_eq, of, service, found] at latest
  exact apart (congrArg JobRow.id (Option.some.inj latest)).symm

/-- Starting the latest job of a service runs into no other live one. -/
theorem startJob (h : JobLaw owed w) {s : Store} (same : s.jobs = w.store.jobs) {serviceId : Uuid}
    {j : JobRow} (found : s.latestJob serviceId .provisionVps = some j) (now : Instant) :
    s.startJob now j.id = .ok ((), (s.changeJobs (fun r => r.id == j.id) (JobRow.started now)).2) :=
  Store.startJob_of_alone (same ▸ h.linked.jobs) (Store.latestJob_some found).1 (h.alone same found) now

end JobLaw

/-! ## What keeps the law -/

/-- A job that is created for a service without a live one is its last. -/
theorem World.Orderly.addJob {w : World} (h : w.Orderly) {id serviceId : Uuid}
    (is : id = .ofNat w.nextId) (room : w.nextId < Uuid.limit)
    (service : serviceId ∈ w.store.services.map (·.id))
    (idle : ∀ j ∈ w.store.jobs, j.serviceId = serviceId → j.status.isLive = false) :
    World.Orderly { w with
      nextId := w.nextId + 1
      store := { w.store with
        jobs := w.store.jobs ++ [newJob w.now id serviceId .provisionVps] } } where
  calm := h.calm
  linked := by
    refine h.linked.add_job ?_ service
    intro j hj
    exact is ▸ Uuid.ne_ofNat (h.numbered.jobs j hj) room
  tasks := h.tasks
  numbered := by
    constructor
    · exact fun r hr => Nat.lt_succ_of_lt (h.numbered.services r hr)
    · refine List.forall_mem_append.mpr ⟨fun j hj => Nat.lt_succ_of_lt (h.numbered.jobs j hj), ?_⟩
      rw [List.forall_mem_singleton]
      change id.val < _
      rw [is, Uuid.val_ofNat room]
      exact Nat.lt_succ_self _
    · exact fun t ht => Nat.lt_succ_of_lt (h.numbered.tasks t ht)
  kinds := List.forall_mem_append.mpr ⟨h.kinds, List.forall_mem_singleton.mpr rfl⟩
  past := List.forall_mem_append.mpr ⟨h.past, List.forall_mem_singleton.mpr (le_refl w.now)⟩
  latest := by
    intro j hj live k hk same other
    rcases List.mem_append.mp hj with oldJ | newJ
    · rcases List.mem_append.mp hk with oldK | newK
      · exact h.latest j oldJ live k oldK same other
      · obtain rfl := List.mem_singleton.mp newK
        rw [idle j oldJ same.symm] at live
        cases live
    · obtain rfl := List.mem_singleton.mp newJ
      rcases List.mem_append.mp hk with oldK | newK
      · have below : k.id < id := by
          change k.id.val < id.val
          rw [is, Uuid.val_ofNat room]
          exact h.numbered.jobs k oldK
        rw [Store.isLater_iff]
        rcases lt_or_eq_of_le (h.past k oldK) with before | now
        · exact Or.inl before
        · exact Or.inr ⟨now.symm, below⟩
      · obtain rfl := List.mem_singleton.mp newK
        exact absurd rfl other

namespace JobLaw

variable {owed : List CommittedJob} {w w' : World}

/-- Which jobs are owed matters, not the order they are listed in. -/
theorem owe (h : JobLaw owed w) {owed' : List CommittedJob} (same : ∀ d, d ∈ owed' ↔ d ∈ owed) :
    JobLaw owed' w where
  toOrderly := h.toOrderly
  owing d hd := h.owing d ((same d).mp hd)
  backed j hj live r hr service open_ := by
    apply (h.backed j hj live r hr service open_).imp_left
    rintro ⟨d, hd, is⟩
    exact ⟨d, (same d).mpr hd, is⟩

theorem eases (h : JobLaw owed w) (step : Follows Store.Eases w w') : JobLaw owed w' := by
  have job {j' : JobRow} (hj' : j' ∈ w'.store.jobs) : ∃ j ∈ w.store.jobs, j.Closes j' :=
    exists_left_of_forall₂ step.store.jobs hj'
  refine ⟨⟨step.calm h.calm, step.store.linked h.linked, step.store.tasks ▸ h.tasks,
    step.numbered h.numbered, ?_, ?_, ?_⟩, ?_, ?_⟩
  · intro j' hj'
    obtain ⟨j, hj, same⟩ := job hj'
    exact same.kind.trans (h.kinds j hj)
  · intro j' hj'
    obtain ⟨j, hj, same⟩ := job hj'
    rw [same.createdAt, step.now]
    exact h.past j hj
  · intro j' hj' live k' hk' service other
    obtain ⟨j, hj, same⟩ := job hj'
    obtain ⟨k, hk, same'⟩ := job hk'
    rw [same.serviceId, same'.serviceId] at service
    rw [same.id, same'.id] at other
    rw [Store.isLater_iff, same.id, same.createdAt, same'.id, same'.createdAt, ← Store.isLater_iff]
    exact h.latest j hj (same.live live) k hk service other
  · intro d hd
    obtain ⟨j, hj, is, service⟩ := h.owing d hd
    obtain ⟨j', hj', same⟩ := exists_right_of_forall₂ step.store.jobs hj
    exact ⟨j', hj', same.id.trans is, same.serviceId.trans service⟩
  · intro j' hj' live r' hr' service open_
    obtain ⟨j, hj, same⟩ := job hj'
    obtain ⟨r, hr, continues⟩ := exists_left_of_forall₂ step.store.services hr'
    rw [continues.id, same.serviceId] at service
    rw [same.id, same.serviceId, Store.Served, step.store.tasks]
    exact h.backed j hj (same.live live) r hr service fun closed => open_ (continues.terminated closed)

theorem quiet (h : JobLaw owed w) (step : Follows Quiet w w') : JobLaw owed w' := h.eases step.eases

/-- The clock goes on. -/
theorem wait (h : JobLaw owed w) {now : Instant} (later : w.now ≤ now) :
    JobLaw owed { w with now := now } where
  calm := h.calm
  linked := h.linked
  tasks := h.tasks
  numbered := ⟨h.numbered.services, h.numbered.jobs, h.numbered.tasks⟩
  kinds := h.kinds
  past j hj := le_trans (h.past j hj) later
  latest := h.latest
  owing := h.owing
  backed := h.backed

/-- Changed tasks still serve the services that need one. -/
theorem changeTasks (h : JobLaw owed w) {selects : TaskRow → Bool} {change : TaskRow → TaskRow}
    (keys : ∀ t, (change t).id = t.id)
    (serves : ∀ t ∈ w.store.tasks, selects t = true → ∀ serviceId, t.Serves serviceId →
      (change t).Serves serviceId ∨ w.store.AtRest serviceId) :
    JobLaw owed { w with store := { w.store with
      tasks := changeRows selects change w.store.tasks } } where
  calm := h.calm
  linked := ⟨h.linked.orders, h.linked.items, h.linked.services, h.linked.serviceItems, h.linked.jobs,
    h.linked.itemOrder, h.linked.serviceItem, h.linked.jobService⟩
  tasks := nodup_changeRows h.tasks keys
  numbered := by
    refine ⟨h.numbered.services, h.numbered.jobs, fun t ht => ?_⟩
    obtain ⟨x, hx, rfl⟩ := mem_changeRows.mp ht
    split
    · exact keys x ▸ h.numbered.tasks x hx
    · exact h.numbered.tasks x hx
  kinds := h.kinds
  past := h.past
  latest := h.latest
  owing := h.owing
  backed j hj live r hr service open_ := by
    apply (h.backed j hj live r hr service open_).imp_right
    rintro ⟨t, ht, served⟩
    by_cases selected : selects t = true
    · rcases serves t ht selected j.serviceId served with still | rest
      · exact ⟨_, mem_changeRows.mpr ⟨t, ht, (if_pos selected).symm⟩, still⟩
      · exact absurd (rest j hj rfl live r hr service) open_
    · exact ⟨_, mem_changeRows.mpr ⟨t, ht, (if_neg selected).symm⟩, served⟩

theorem addTask (h : JobLaw owed w) {t : TaskRow} (id : t.id = .ofNat w.nextId)
    (room : w.nextId < Uuid.limit) :
    JobLaw owed { w with
      nextId := w.nextId + 1
      store := { w.store with tasks := w.store.tasks ++ [t] } } where
  calm := h.calm
  linked := ⟨h.linked.orders, h.linked.items, h.linked.services, h.linked.serviceItems, h.linked.jobs,
    h.linked.itemOrder, h.linked.serviceItem, h.linked.jobService⟩
  tasks := by
    have fresh : ∀ x ∈ w.store.tasks, x.id ≠ t.id :=
      fun x hx => id ▸ Uuid.ne_ofNat (h.numbered.tasks x hx) room
    simpa [List.nodup_append] using ⟨h.tasks, fresh⟩
  numbered := by
    refine ⟨fun r hr => Nat.lt_succ_of_lt (h.numbered.services r hr),
      fun j hj => Nat.lt_succ_of_lt (h.numbered.jobs j hj), fun x hx => ?_⟩
    rcases List.mem_append.mp hx with old | new
    · exact Nat.lt_succ_of_lt (h.numbered.tasks x old)
    · obtain rfl := List.mem_singleton.mp new
      rw [id, Uuid.val_ofNat room]
      exact Nat.lt_succ_self _
  kinds := h.kinds
  past := h.past
  latest := h.latest
  owing := h.owing
  backed j hj live r hr service open_ := by
    apply (h.backed j hj live r hr service open_).imp_right
    rintro ⟨x, hx, served⟩
    exact ⟨x, List.mem_append_left _ hx, served⟩

/-- A job that got its task is no longer owed one. -/
theorem pay {d : CommittedJob} (h : JobLaw (d :: owed) w) (served : w.store.Served d.serviceId) :
    JobLaw owed w where
  toOrderly := h.toOrderly
  owing d hd := h.owing d (List.mem_cons_of_mem _ hd)
  backed j hj live r hr service open_ := by
    rcases h.backed j hj live r hr service open_ with ⟨x, hx, is⟩ | served
    · rcases List.mem_cons.mp hx with rfl | hx
      · obtain ⟨k, hk, same, service⟩ := h.owing x List.mem_cons_self
        rw [eq_of_key h.linked.jobs hj hk (is.symm.trans same.symm), service]
        exact .inr served
      · exact .inl ⟨x, hx, is⟩
    · exact .inr served

/-- A job that is no longer live is owed nothing. -/
theorem forgive {d : CommittedJob} (h : JobLaw (d :: owed) w)
    (dead : ∀ j ∈ w.store.jobs, j.id = d.jobId → j.status.isLive = false) : JobLaw owed w where
  toOrderly := h.toOrderly
  owing d hd := h.owing d (List.mem_cons_of_mem _ hd)
  backed j hj live r hr service open_ := by
    apply (h.backed j hj live r hr service open_).imp_left
    rintro ⟨x, hx, is⟩
    rcases List.mem_cons.mp hx with rfl | hx
    · rw [dead j hj is.symm] at live
      cases live
    · exact ⟨x, hx, is⟩

/-- A new service has no job yet. -/
theorem addService (h : JobLaw owed w) {r : ServiceRow} (id : r.id = .ofNat w.nextId)
    (room : w.nextId < Uuid.limit) (unserved : ∀ x ∈ w.store.services, x.itemId ≠ r.itemId)
    (item : r.itemId ∈ w.store.items.map (·.id)) :
    JobLaw owed { w with
      nextId := w.nextId + 1
      store := { w.store with services := w.store.services ++ [r] } } where
  calm := h.calm
  linked := h.linked.add_service (fun x hx => id ▸ Uuid.ne_ofNat (h.numbered.services x hx) room)
    unserved item
  tasks := h.tasks
  numbered := by
    refine ⟨fun x hx => ?_, fun j hj => Nat.lt_succ_of_lt (h.numbered.jobs j hj),
      fun t ht => Nat.lt_succ_of_lt (h.numbered.tasks t ht)⟩
    rcases List.mem_append.mp hx with old | new
    · exact Nat.lt_succ_of_lt (h.numbered.services x old)
    · obtain rfl := List.mem_singleton.mp new
      rw [id, Uuid.val_ofNat room]
      exact Nat.lt_succ_self _
  kinds := h.kinds
  past := h.past
  latest := h.latest
  owing := h.owing
  backed j hj live x hx service open_ := by
    rcases List.mem_append.mp hx with old | new
    · exact h.backed j hj live x old service open_
    · obtain rfl := List.mem_singleton.mp new
      obtain ⟨y, hy, same⟩ := List.mem_map.mp (h.linked.jobService (List.mem_map_of_mem hj))
      exact absurd (same.trans (service.symm.trans id)) (Uuid.ne_ofNat (h.numbered.services y hy) room)

/-- The job that is created is owed a task. -/
theorem addJob (h : JobLaw owed w) {d : CommittedJob} (id : d.jobId = .ofNat w.nextId)
    (room : w.nextId < Uuid.limit) (service : d.serviceId ∈ w.store.services.map (·.id))
    (idle : ∀ j ∈ w.store.jobs, j.serviceId = d.serviceId → j.status.isLive = false) :
    JobLaw (d :: owed) { w with
      nextId := w.nextId + 1
      store := { w.store with
        jobs := w.store.jobs ++ [newJob w.now d.jobId d.serviceId .provisionVps] } } := by
  refine ⟨h.toOrderly.addJob id room service idle, ?_, ?_⟩
  · intro x hx
    rcases List.mem_cons.mp hx with rfl | hx
    · exact ⟨_, List.mem_append_right _ (List.mem_singleton_self _), rfl, rfl⟩
    · obtain ⟨j, hj, is, service⟩ := h.owing x hx
      exact ⟨j, List.mem_append_left _ hj, is, service⟩
  · intro j hj live r hr of open_
    rcases List.mem_append.mp hj with old | new
    · apply (h.backed j old live r hr of open_).imp_left
      rintro ⟨x, hx, is⟩
      exact ⟨x, List.mem_cons_of_mem _ hx, is⟩
    · obtain rfl := List.mem_singleton.mp new
      exact Or.inl ⟨d, List.mem_cons_self, rfl⟩

end JobLaw

end HostingBilling
