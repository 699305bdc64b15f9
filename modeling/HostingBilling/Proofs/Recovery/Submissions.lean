import HostingBilling.Proofs.Recovery.Redelivery

/-!
# What submissions leave

Jobs are submitted one after another, and what is taken back for one is looked at before the next is
submitted. Main statement: in the end the tables are as if all refused jobs were taken back at once,
whatever the order of the jobs; and taking a job back starts over where it was cut off.
-/

namespace HostingBilling

/-- Those of a list that the queue answers this way, the first of which is offered as number `n`. -/
def Outside.answering {α : Type} (o : Outside) (answer : Bool) : Nat → List α → List α
  | _, [] => []
  | n, t :: rest =>
    if o.refuses n = answer then t :: o.answering answer (n + 1) rest else o.answering answer (n + 1) rest

namespace Outside

variable {α : Type} {o : Outside}

theorem answering_sublist (answer : Bool) (n : Nat) (ts : List α) : (o.answering answer n ts).Sublist ts := by
  induction ts generalizing n with
  | nil => exact .slnil
  | cons t rest ih =>
    rw [answering]
    split
    · exact (ih (n + 1)).cons_cons t
    · exact (ih (n + 1)).cons t

/-- Each is answered one way. -/
theorem answering_perm (n : Nat) (ts : List α) :
    (o.answering false n ts ++ o.answering true n ts).Perm ts := by
  induction ts generalizing n with
  | nil => exact .refl _
  | cons t rest ih =>
    rw [answering, answering]
    cases o.refuses n with
    | false => exact (ih (n + 1)).cons t
    | true => exact List.perm_middle.trans ((ih (n + 1)).cons t)

end Outside

/-! ## What belongs to an order -/

namespace Store

variable {s s' : Store}

/-- A service belongs to one order. -/
theorem isServiceOf_unique {a b serviceId : Uuid} (ha : s.isServiceOf a serviceId = true)
    (hb : s.isServiceOf b serviceId = true) : a = b := by
  unfold isServiceOf at ha hb
  cases found : s.service? serviceId with
  | none => simp [found] at ha
  | some r =>
    cases line : s.item? r.itemId with
    | none => simp [found, line] at ha
    | some item =>
      simp only [found, line, beq_iff_eq] at ha hb
      exact ha.symm.trans hb

/-- A change of services that leaves what they are leaves the order they belong to. -/
theorem isServiceOf_changeServices {selects : ServiceRow → Bool} {change : ServiceRow → ServiceRow}
    (services : s'.services = changeRows selects change s.services) (items : s'.items = s.items)
    (id : ∀ r, (change r).id = r.id) (item : ∀ r, (change r).itemId = r.itemId) :
    s'.isServiceOf = s.isServiceOf := by
  funext orderId serviceId
  simp only [isServiceOf, service?, item?, services, items]
  rw [find?_changeRows fun r => by rw [id]]
  cases s.services.find? fun r => r.id == serviceId with
  | none => rfl
  | some r =>
    have same : (if selects r = true then change r else r).itemId = r.itemId := by
      split
      · exact item r
      · rfl
    rw [Option.map_some]
    dsimp only
    rw [same]

theorem hasWorkDone_iff {orderId : Uuid} : s.hasWorkDone orderId = true ↔
    ∃ j ∈ s.jobs, (j.status.isLive = true ∨ j.status = .completed) ∧ s.isServiceOf orderId j.serviceId = true := by
  simp [hasWorkDone]

theorem hasWorkDone_congr (jobs : s'.jobs = s.jobs) (services : s'.isServiceOf = s.isServiceOf) :
    s'.hasWorkDone = s.hasWorkDone := by
  funext orderId
  simp only [hasWorkDone, jobs, services]

end Store

/-- A row of the queue but for its number. -/
def TaskRow.unnumbered (r : TaskRow) : TaskRow := { r with id := .ofNat 0 }

/-- Whether a row asks for the machine of a job: its kind, its queue and the four identifiers. -/
def TaskRow.asksFor (t : CommittedJob) (r : TaskRow) : Bool :=
  r.kind == "vps:provision" && r.queue == .critical && match Payload.decode .provisionVps r.payload with
    | .ok (.provision p) => p == ⟨t.serviceId, t.orderId, t.planId, t.userId⟩
    | _ => false

namespace CommittedJob

open Store (failed)

variable {o : Outside} {t : CommittedJob} {tasks rest : List CommittedJob} {w : World}

/-- The jobs that the queue refuses, and those that it accepts. -/
def refused (o : Outside) (tasks : List CommittedJob) (w : World) : List CommittedJob :=
  o.answering true w.offered.length tasks

def accepted (o : Outside) (tasks : List CommittedJob) (w : World) : List CommittedJob :=
  o.answering false w.offered.length tasks

theorem refused_subset (o : Outside) (tasks : List CommittedJob) (w : World) : refused o tasks w ⊆ tasks :=
  (Outside.answering_sublist _ _ _).subset

theorem accepted_subset (o : Outside) (tasks : List CommittedJob) (w : World) : accepted o tasks w ⊆ tasks :=
  (Outside.answering_sublist _ _ _).subset

theorem refused_cons (o : Outside) (t : CommittedJob) (rest : List CommittedJob) (w : World) :
    refused o (t :: rest) w = if o.refuses w.offered.length = true then t :: refused o rest (t.answered o w)
      else refused o rest (t.answered o w) := by
  simp only [refused, answered_offered, List.length_append, List.length_singleton, Outside.answering]

theorem accepted_cons (o : Outside) (t : CommittedJob) (rest : List CommittedJob) (w : World) :
    accepted o (t :: rest) w = if o.refuses w.offered.length = false then t :: accepted o rest (t.answered o w)
      else accepted o rest (t.answered o w) := by
  simp only [accepted, answered_offered, List.length_append, List.length_singleton, Outside.answering]

/-- The jobs that the queue refuses, each with the failure it is refused with. -/
def refusals (o : Outside) (tasks : List CommittedJob) (w : World) : List (CommittedJob × Failure) :=
  (tasks.zipIdx w.offered.length).filterMap fun (t, n) => (o.refusal? n (.provision t.payload)).map (t, ·)

theorem refusals_refused (h : o.refuses w.offered.length = true) (t : CommittedJob) (rest : List CommittedJob) :
    refusals o (t :: rest) w =
      (t, o.refusal w.offered.length (.provision t.payload)) :: refusals o rest (t.answered o w) := by
  simp only [refusals, answered_offered, List.length_append, List.length_singleton, List.zipIdx_cons,
    List.filterMap_cons, Outside.refusal?_refused h, Option.map_some]

theorem refusals_accepted (h : o.refuses w.offered.length = false) (t : CommittedJob) (rest : List CommittedJob) :
    refusals o (t :: rest) w = refusals o rest (t.answered o w) := by
  simp only [refusals, answered_offered, List.length_append, List.length_singleton, List.zipIdx_cons,
    List.filterMap_cons, Outside.refusal?_accepted h, Option.map_none]

theorem map_refusals (o : Outside) (tasks : List CommittedJob) (w : World) :
    (refusals o tasks w).map (·.1) = refused o tasks w := by
  induction tasks generalizing w with
  | nil => rfl
  | cons t rest ih =>
    rw [refused_cons, ← ih (t.answered o w)]
    cases answer : o.refuses w.offered.length with
    | true => rw [refusals_refused answer, if_pos rfl, List.map_cons]
    | false => rw [refusals_accepted answer, if_neg Bool.false_ne_true]

theorem mem_refused {x : CommittedJob × Failure} (hx : x ∈ refusals o tasks w) : x.1 ∈ refused o tasks w :=
  map_refusals o tasks w ▸ List.mem_map_of_mem hx

/-- A row after some refusals. The first that names it changes it, for its own reason, if the row is still
guarded. -/
def struck {ρ : Type} (names : CommittedJob → ρ → Bool) (guard : ρ → Bool) (change : String → ρ → ρ)
    (xs : List (CommittedJob × Failure)) (r : ρ) : ρ :=
  match xs.find? fun x => names x.1 r with
  | some x => if guard r then change x.2.message r else r
  | none => r

section struck

variable {ρ : Type} {names : CommittedJob → ρ → Bool} {guard : ρ → Bool} {change : String → ρ → ρ}
  {x : CommittedJob × Failure} {xs : List (CommittedJob × Failure)} {r : ρ}

theorem struck_unguarded (h : guard r = false) : struck names guard change xs r = r := by
  unfold struck
  split
  · exact if_neg (by simp [h])
  · rfl

/-- A row is as it was, or a refusal that names it has changed it. -/
theorem struck_cases (names : CommittedJob → ρ → Bool) (guard : ρ → Bool) (change : String → ρ → ρ)
    (xs : List (CommittedJob × Failure)) (r : ρ) :
    struck names guard change xs r = r ∧ (guard r = true → ∀ x ∈ xs, names x.1 r = false) ∨
      guard r = true ∧ ∃ x ∈ xs, names x.1 r = true ∧ struck names guard change xs r = change x.2.message r := by
  cases guarded : guard r with
  | false => exact .inl ⟨struck_unguarded guarded, nofun⟩
  | true =>
    unfold struck
    cases found : xs.find? fun x => names x.1 r with
    | none => exact .inl ⟨rfl, fun _ => by simpa using found⟩
    | some x =>
      exact .inr ⟨rfl, x, List.mem_of_find?_eq_some found, by simpa using List.find?_some found, if_pos guarded⟩

/-- The first refusal, and then the others. -/
theorem struck_cons (done : ∀ reason r, guard (change reason r) = false) :
    struck names guard change xs (if names x.1 r && guard r then change x.2.message r else r) =
      struck names guard change (x :: xs) r := by
  cases guarded : guard r with
  | false =>
    rw [Bool.and_false, if_neg Bool.false_ne_true, struck_unguarded guarded, struck_unguarded guarded]
  | true =>
    cases named : names x.1 r with
    | true =>
      have first : (x :: xs).find? (fun x => names x.1 r) = some x := List.find?_cons_of_pos named
      rw [Bool.and_self, if_pos rfl, struck_unguarded (done _ _), struck, first]
      exact (if_pos guarded).symm
    | false =>
      rw [Bool.false_and, if_neg Bool.false_ne_true, struck, struck,
        List.find?_cons_of_neg (by simp [named])]

/-- When the reason does not matter, all rows that are named are changed. -/
theorem map_struck {change : ρ → ρ} (rows : List ρ) :
    rows.map (struck names guard (fun _ => change) xs) =
      changeRows (fun r => (xs.map (·.1)).any (names · r) && guard r) change rows := by
  refine List.map_congr_left fun r _ => ?_
  rcases struck_cases names guard (fun _ => change) xs r with
    ⟨same, none_⟩ | ⟨guarded, x, hx, named, changed⟩
  · rw [same, if_neg]
    intro chosen
    obtain ⟨any, guarded⟩ := Bool.and_eq_true_iff.mp chosen
    obtain ⟨t, ht, named⟩ := List.any_eq_true.mp any
    obtain ⟨x, hx, rfl⟩ := List.mem_map.mp ht
    rw [none_ guarded x hx] at named
    cases named
  · have any : (xs.map (·.1)).any (names · r) = true :=
      List.any_eq_true.mpr ⟨x.1, List.mem_map_of_mem hx, named⟩
    rw [changed]
    exact (if_pos (Bool.and_eq_true_iff.mpr ⟨any, guarded⟩)).symm

end struck

/-! ### The tables after the answers -/

theorem answered_elsewhere (h : o.refuses w.offered.length = false) (t : CommittedJob) :
    ∃ rows, (t.answered o w).store = { w.store with tasks := rows } := by
  rw [answered, if_neg (by simp [h])]
  dsimp only
  split <;> exact ⟨_, rfl⟩

theorem answered_store (h : o.refuses w.offered.length = true) (t : CommittedJob) :
    (t.answered o w).store = takenBack w.now t (t.refusal o w.offered.length) w.store := by
  rw [answered_refused h]

/-- What taking back does to a table for one job, the answers do to it for all jobs that are refused. -/
theorem allAnswered_table {ρ : Type} {table : Store → List ρ} {names : CommittedJob → ρ → Bool}
    {guard : ρ → Bool} (change : Instant → String → ρ → ρ)
    (takes : ∀ now t reason s, table (takenBack now t reason s) =
      changeRows (fun r => names t r && guard r) (change now reason) (table s))
    (apart : ∀ s rows, table { s with tasks := rows } = table s)
    (done : ∀ now reason r, guard (change now reason r) = false) (o : Outside) (tasks : List CommittedJob)
    (w : World) : table (allAnswered o tasks w).store =
      (table w.store).map (struck names guard (change w.now) (refusals o tasks w)) := by
  induction tasks generalizing w with
  | nil => exact (List.map_id' _).symm
  | cons t rest ih =>
    have later := ih (t.answered o w)
    rw [(answered_spares o t w).now] at later
    refine later.trans ?_
    cases answer : o.refuses w.offered.length with
    | true =>
      rw [refusals_refused answer, answered_store answer, takes, changeRows, List.map_map]
      exact List.map_congr_left fun r _ =>
        struck_cons (x := (t, o.refusal w.offered.length (.provision t.payload))) (done w.now)
    | false =>
      obtain ⟨rows, same⟩ := answered_elsewhere answer t
      rw [refusals_accepted answer, same, apart]

/-- A job row after some refusals: a live job has failed for the reason of the first that names it. -/
def abandoned (now : Instant) : List (CommittedJob × Failure) → JobRow → JobRow :=
  struck (fun t j => j.id == t.jobId) (·.status.isLive) fun reason => failed now ("enqueue failed: " ++ reason)

section abandoned

variable {now : Instant} {x : CommittedJob × Failure} {xs ys : List (CommittedJob × Failure)} {j : JobRow}

theorem abandoned_cases (now : Instant) (xs : List (CommittedJob × Failure)) (j : JobRow) :
    abandoned now xs j = j ∧ (j.status.isLive = true → ∀ x ∈ xs, j.id ≠ x.1.jobId) ∨
      j.status.isLive = true ∧ ∃ x ∈ xs, j.id = x.1.jobId ∧
        abandoned now xs j = failed now ("enqueue failed: " ++ x.2.message) j := by
  rcases struck_cases (fun t (j : JobRow) => j.id == t.jobId) (·.status.isLive)
    (fun reason => failed now ("enqueue failed: " ++ reason)) xs j with
    ⟨same, none_⟩ | ⟨live, x, hx, named, changed⟩
  · exact .inl ⟨same, fun live x hx => by simpa using none_ live x hx⟩
  · exact .inr ⟨live, x, hx, eq_of_beq named, changed⟩

theorem abandoned_serviceId (now : Instant) (xs : List (CommittedJob × Failure)) (j : JobRow) :
    (abandoned now xs j).serviceId = j.serviceId := by
  rcases abandoned_cases now xs j with ⟨same, -⟩ | ⟨-, x, -, -, changed⟩
  · rw [same]
  · rw [changed, failed]

/-- Where each job is refused once, a job fails for its own refusal. -/
theorem abandoned_of_mem (distinct : (xs.map (·.1.jobId)).Nodup) (hx : x ∈ xs) (is : j.id = x.1.jobId)
    (live : j.status.isLive = true) : abandoned now xs j = failed now ("enqueue failed: " ++ x.2.message) j := by
  have only : ∀ y ∈ xs, (j.id == y.1.jobId) = true → y = x := fun y hy named =>
    eq_of_key distinct hy hx ((eq_of_beq named).symm.trans is)
  rw [abandoned, struck, find?_of_only hx (by simpa using is) only]
  exact if_pos live

/-- The order of the refusals does not matter then. -/
theorem abandoned_perm (perm : ys.Perm xs) (distinct : (xs.map (·.1.jobId)).Nodup) (j : JobRow) :
    abandoned now ys j = abandoned now xs j := by
  rcases abandoned_cases now ys j with ⟨same, none_⟩ | ⟨live, x, hx, is, changed⟩
  · rcases abandoned_cases now xs j with ⟨same', -⟩ | ⟨live, y, hy, is, -⟩
    · rw [same, same']
    · exact absurd is (none_ live y (perm.mem_iff.mpr hy))
  · rw [changed, abandoned_of_mem distinct (perm.mem_iff.mp hx) is live]

end abandoned

/-- The jobs that are refused have failed. -/
theorem allAnswered_jobs (o : Outside) (tasks : List CommittedJob) (w : World) :
    (allAnswered o tasks w).store.jobs = w.store.jobs.map (abandoned w.now (refusals o tasks w)) :=
  allAnswered_table (fun now reason => failed now ("enqueue failed: " ++ reason)) takenBack_jobs
    (fun _ _ => rfl) (fun _ _ _ => rfl) o tasks w

/-- Their services wait again. -/
theorem allAnswered_services (o : Outside) (tasks : List CommittedJob) (w : World) :
    (allAnswered o tasks w).store.services =
      changeRows (fun r => (refused o tasks w).any (fun t => r.id == t.serviceId) && r.status == .provisioning)
        (fun r => { r with status := .pending, updatedAt := w.now }) w.store.services := by
  rw [← map_refusals, ← map_struck]
  exact allAnswered_table (fun now _ (r : ServiceRow) => { r with status := .pending, updatedAt := now })
    takenBack_services (fun _ _ => rfl) (fun _ _ _ => rfl) o tasks w

/-- Services stay with their orders. -/
theorem takenBack_isServiceOf (now : Instant) (t : CommittedJob) (reason : String) (s : Store) :
    (takenBack now t reason s).isServiceOf = s.isServiceOf :=
  Store.isServiceOf_changeServices (takenBack_services now t reason s) (takenBack_items now t reason s)
    (fun _ => rfl) fun _ => rfl

theorem answered_isServiceOf (o : Outside) (t : CommittedJob) (w : World) :
    (t.answered o w).store.isServiceOf = w.store.isServiceOf := by
  cases answer : o.refuses w.offered.length with
  | true => rw [answered_store answer, takenBack_isServiceOf]
  | false =>
    obtain ⟨rows, same⟩ := answered_elsewhere answer t
    rw [same]
    rfl

theorem allAnswered_isServiceOf (o : Outside) (tasks : List CommittedJob) (w : World) :
    (allAnswered o tasks w).store.isServiceOf = w.store.isServiceOf :=
  allAnswered_keeps (I := fun v => v.store.isServiceOf = w.store.isServiceOf)
    (fun t v same => (answered_isServiceOf o t v).trans same) tasks rfl

/-- The order of a job that is taken back is paid again if none of its jobs is at work after that. -/
theorem takenBack_reverts (now : Instant) (t : CommittedJob) (reason : String) (s : Store) :
    (takenBack now t reason s).orders = changeRows
      (fun x => x.id == t.orderId && x.status == .provisioning && !(takenBack now t reason s).hasWorkDone x.id)
      (fun x => { x with status := .paid, updatedAt := now }) s.orders := by
  let halted := ((s.abandonJob now t.jobId ("enqueue failed: " ++ reason)).2.revertService now t.serviceId).2
  have services : halted.services = (takenBack now t reason s).services :=
    (takenBack_services now t reason s).symm
  have looked : (takenBack now t reason s).hasWorkDone = halted.hasWorkDone := by
    refine Store.hasWorkDone_congr (takenBack_jobs now t reason s) ?_
    rw [takenBack_isServiceOf]
    exact (Store.isServiceOf_changeServices (services.trans (takenBack_services now t reason s)) rfl
      (fun _ => rfl) fun _ => rfl).symm
  have reverts : (takenBack now t reason s).orders = (halted.revertOrder now t.orderId .paid).2.orders := rfl
  rw [reverts, looked, Store.revertOrder]
  cases work : halted.hasWorkDone t.orderId with
  | true =>
    refine (changeRows_of_none fun x _ => ?_).symm
    by_cases own : x.id = t.orderId
    · simp [own, work]
    · simp [own]
  | false =>
    refine changeRows_congr fun x _ => ?_
    by_cases own : x.id = t.orderId
    · simp [own, work]
    · simp [own]

/-- The jobs that these name are jobs of the orders they name. -/
def Belong (tasks : List CommittedJob) (s : Store) : Prop :=
  ∀ t ∈ tasks, ∀ j ∈ s.jobs, j.id = t.jobId → s.isServiceOf t.orderId j.serviceId = true

theorem Belong.answered (belong : Belong tasks w.store) (o : Outside) (t : CommittedJob) :
    Belong tasks (t.answered o w).store := by
  intro u hu j hj is
  rw [answered_isServiceOf]
  cases answer : o.refuses w.offered.length with
  | true =>
    rw [answered_store answer, takenBack_jobs] at hj
    obtain ⟨x, hx, rfl⟩ := mem_changeRows.mp hj
    split at is
    · next chosen =>
      rw [if_pos chosen]
      exact belong u hu x hx is
    · next other =>
      rw [if_neg other]
      exact belong u hu x hx is
  | false =>
    obtain ⟨rows, same⟩ := answered_elsewhere answer t
    rw [same] at hj
    exact belong u hu j hj is

section work

variable (o tasks w) (orderId : Uuid)

/-- Work that is under way at the end was under way before. -/
theorem hasWorkDone_before (works : (allAnswered o tasks w).store.hasWorkDone orderId = true) :
    w.store.hasWorkDone orderId = true := by
  obtain ⟨j, hj, atWork, own⟩ := Store.hasWorkDone_iff.mp works
  rw [allAnswered_isServiceOf] at own
  rw [allAnswered_jobs] at hj
  obtain ⟨x, hx, rfl⟩ := List.mem_map.mp hj
  rw [abandoned_serviceId] at own
  rcases abandoned_cases w.now (refusals o tasks w) x with ⟨same, -⟩ | ⟨-, y, -, -, changed⟩
  · rw [same] at atWork
    exact Store.hasWorkDone_iff.mpr ⟨x, hx, atWork, own⟩
  · rw [changed] at atWork
    simp [failed, JobStatus.isLive] at atWork

/-- Only a refused job of an order can have left it without work. -/
theorem refused_of_idle (belong : Belong tasks w.store) (works : w.store.hasWorkDone orderId = true)
    (idle : (allAnswered o tasks w).store.hasWorkDone orderId = false) :
    ∃ t ∈ refused o tasks w, t.orderId = orderId := by
  obtain ⟨j, hj, atWork, own⟩ := Store.hasWorkDone_iff.mp works
  rcases abandoned_cases w.now (refusals o tasks w) j with ⟨same, -⟩ | ⟨-, x, hx, is, -⟩
  · have there : j ∈ (allAnswered o tasks w).store.jobs := by
      rw [allAnswered_jobs]
      exact List.mem_map.mpr ⟨j, hj, same⟩
    have works := Store.hasWorkDone_iff.mpr ⟨j, there, atWork, by rw [allAnswered_isServiceOf]; exact own⟩
    rw [idle] at works
    cases works
  · have among := refused_subset o tasks w (mem_refused hx)
    exact ⟨x.1, mem_refused hx, Store.isServiceOf_unique (belong x.1 among j hj is) own⟩

end work

/-- An order with a job that is refused is paid again if none of its jobs is at work in the end, although
each order is looked at while jobs are still to be submitted. -/
theorem allAnswered_orders (belong : Belong tasks w.store) (o : Outside) :
    (allAnswered o tasks w).store.orders = changeRows
      (fun x => (refused o tasks w).any (fun t => x.id == t.orderId) && x.status == .provisioning &&
        !(allAnswered o tasks w).store.hasWorkDone x.id)
      (fun x => { x with status := .paid, updatedAt := w.now }) w.store.orders := by
  induction tasks generalizing w with
  | nil => exact (changeRows_of_none fun _ _ => rfl).symm
  | cons t rest ih =>
    have belong' : Belong rest (t.answered o w).store :=
      fun u hu => belong.answered o t u (List.mem_cons_of_mem _ hu)
    have later := ih belong'
    rw [(answered_spares o t w).now] at later
    refine later.trans ?_
    change changeRows _ _ (t.answered o w).store.orders = changeRows
      (fun x => _ && _ && !(allAnswered o rest (t.answered o w)).store.hasWorkDone x.id) _ _
    cases answer : o.refuses w.offered.length with
    | true =>
      rw [refused_cons, if_pos answer]
      have first := takenBack_reverts w.now t (t.refusal o w.offered.length) w.store
      rw [← answered_store answer] at first
      rw [first, changeRows_or fun x _ => by simp]
      refine changeRows_congr fun x _ => ?_
      cases idle : (allAnswered o rest (t.answered o w)).store.hasWorkDone x.id with
      | true =>
        -- the work was under way when the order was looked at, too
        simp [hasWorkDone_before o rest (t.answered o w) x.id idle]
      | false =>
        cases works : (t.answered o w).store.hasWorkDone x.id with
        | true =>
          -- the order is paid again for a job that is refused later
          obtain ⟨u, hu, is⟩ := refused_of_idle o rest (t.answered o w) x.id belong' works idle
          have later : (refused o rest (t.answered o w)).any (fun t => x.id == t.orderId) = true :=
            List.any_eq_true.mpr ⟨u, hu, by simp [is]⟩
          simp [later]
        | false => simp [Bool.and_or_distrib_right]
    | false =>
      obtain ⟨rows, same⟩ := answered_elsewhere answer t
      rw [refused_cons, if_neg (by simp [answer]), same]

theorem allAnswered_rest (o : Outside) (tasks : List CommittedJob) (w : World) :
    (allAnswered o tasks w).store = { w.store with
      orders := (allAnswered o tasks w).store.orders
      services := (allAnswered o tasks w).store.services
      jobs := (allAnswered o tasks w).store.jobs
      tasks := (allAnswered o tasks w).store.tasks } := by
  refine allAnswered_keeps (I := fun v => v.store = { w.store with
    orders := v.store.orders
    services := v.store.services
    jobs := v.store.jobs
    tasks := v.store.tasks }) (fun t v same => ?_) tasks rfl
  cases answer : o.refuses v.offered.length with
  | true => rw [answered_store answer, takenBack_rest, same]
  | false =>
    obtain ⟨rows, added⟩ := answered_elsewhere answer t
    rw [added, same]

/-! ### The queue after the answers -/

theorem asksFor_newRow (now : Instant) (id : Uuid) (t u : CommittedJob) :
    (TaskQueue.newRow now id (.provision u.payload)).asksFor t = (u.payload == t.payload) := by
  simp only [TaskRow.asksFor, TaskQueue.newRow, TaskDraft.provision, Payload.decode_provision]
  rfl

/-- What a durable queue accepts becomes its last rows. -/
theorem allAnswered_tasks (durable : o.durable = true) (tasks : List CommittedJob) (w : World) :
    ∃ rows, (allAnswered o tasks w).store.tasks = w.store.tasks ++ rows ∧
      rows.map TaskRow.unnumbered =
        (accepted o tasks w).map fun t => TaskQueue.newRow w.now (.ofNat 0) (.provision t.payload) := by
  induction tasks generalizing w with
  | nil => exact ⟨[], (List.append_nil _).symm, rfl⟩
  | cons t rest ih =>
    obtain ⟨rows, added, told⟩ := ih (t.answered o w)
    rw [(answered_spares o t w).now] at told
    change ∃ rows, (allAnswered o rest (t.answered o w)).store.tasks = _ ∧ _
    rw [added, accepted_cons]
    cases answer : o.refuses w.offered.length with
    | true =>
      refine ⟨rows, ?_, told⟩
      rw [answered_store answer, takenBack_tasks]
    | false =>
      refine ⟨TaskQueue.newRow w.now (.ofNat w.nextId) (.provision t.payload) :: rows, ?_, ?_⟩
      · rw [answered_accepted durable answer, List.append_assoc]
        rfl
      · rw [if_pos rfl, List.map_cons, told]
        rfl

/-- Each accepted job has one row of those, and a refused one has none. -/
theorem countP_asksFor {rows : List TaskRow} {now : Instant} (distinct : (tasks.map (·.serviceId)).Nodup)
    (added : rows.map TaskRow.unnumbered =
      (accepted o tasks w).map fun t => TaskQueue.newRow now (.ofNat 0) (.provision t.payload))
    (ht : t ∈ tasks) : rows.countP (·.asksFor t) = if t ∈ accepted o tasks w then 1 else 0 := by
  have part : (accepted o tasks w).Sublist tasks := Outside.answering_sublist _ _ _
  have once : (accepted o tasks w).Nodup := (List.Nodup.of_map _ distinct).sublist part
  have counted : rows.countP (·.asksFor t) = (rows.map TaskRow.unnumbered).countP (·.asksFor t) := by
    rw [List.countP_map]
    rfl
  rw [counted, added, List.countP_map, ← once.count, List.count]
  apply List.countP_congr
  intro u hu
  have same : u.payload = t.payload → u = t := fun same =>
    eq_of_key distinct (part.subset hu) ht (congrArg ProvisionPayload.serviceId same)
  simp only [Function.comp, asksFor_newRow, beq_iff_eq]
  exact ⟨same, congrArg payload⟩

/-- What is told of a job that was refused. -/
def complaint (x : CommittedJob × Failure) : String := "job " ++ x.1.jobId.toText ++ ": " ++ x.2.message

theorem submitEach_answers (calm : w.faults = []) (o : Outside) (tasks : List CommittedJob) :
    (submitEach o tasks).run w = (.ok ((accepted o tasks w).length, (refusals o tasks w).map complaint),
      allAnswered o tasks w) := by
  induction tasks generalizing w with
  | nil => rfl
  | cons t rest ih =>
    rw [submitEach, Action.run_bind_of_ok (submit_run calm o t),
      Action.run_bind_of_ok (ih (answered_calm calm o t)), accepted_cons]
    cases answer : o.refuses w.offered.length with
    | true =>
      rw [refusals_refused answer]
      rfl
    | false =>
      rw [refusals_accepted answer]
      rfl

/-- Submitting jobs gives their number, or what is told of all that were refused. -/
theorem submitAll_answers (calm : w.faults = []) (o : Outside) (tasks : List CommittedJob) :
    (submitAll o tasks).run w = (if (refusals o tasks w).isEmpty then .ok tasks.length
      else .error (.several ((refusals o tasks w).map complaint)), allAnswered o tasks w) := by
  rw [submitAll, Action.run_bind_of_ok (submitEach_answers calm o tasks)]
  dsimp only
  rw [List.isEmpty_map]
  have all : (accepted o tasks w ++ refused o tasks w).length = tasks.length :=
    (Outside.answering_perm _ _).length_eq
  rw [← map_refusals] at all
  cases none_ : refusals o tasks w with
  | nil =>
    rw [none_, List.map_nil, List.append_nil] at all
    rw [all]
    rfl
  | cons x rest => rfl

/-! ### Jobs that are due -/

/-- Jobs of services that are being built: each is the pending job of its own service, and names the order
that the service belongs to. -/
structure Due (tasks : List CommittedJob) (s : Store) : Prop where
  distinct : (tasks.map (·.serviceId)).Nodup
  services : ∀ t ∈ tasks, ∃ r ∈ s.services, r.id = t.serviceId ∧ r.status = .provisioning
  jobs : ∀ t ∈ tasks, ∃ j ∈ s.jobs, j.id = t.jobId ∧ j.serviceId = t.serviceId ∧ j.status = .pending
  orders : ∀ t ∈ tasks, s.isServiceOf t.orderId t.serviceId = true

namespace Due

variable {s : Store} (due : Due tasks s) (linked : s.Linked)

include due linked

theorem job_pending (ht : t ∈ tasks) {j : JobRow} (hj : j ∈ s.jobs) (is : j.id = t.jobId) :
    j.serviceId = t.serviceId ∧ j.status = .pending := by
  obtain ⟨x, hx, same, service, pending⟩ := due.jobs t ht
  rw [eq_of_key linked.jobs hj hx (is.trans same.symm)]
  exact ⟨service, pending⟩

theorem service_provisioning (ht : t ∈ tasks) {r : ServiceRow} (hr : r ∈ s.services) (is : r.id = t.serviceId) :
    r.status = .provisioning := by
  obtain ⟨x, hx, same, provisioning⟩ := due.services t ht
  rw [eq_of_key linked.services hr hx (is.trans same.symm)]
  exact provisioning

theorem belong : Belong tasks s := by
  intro t ht j hj is
  rw [(due.job_pending linked ht hj is).1]
  exact due.orders t ht

/-- Distinct services have distinct jobs. -/
theorem eq_of_jobId {u : CommittedJob} (ht : t ∈ tasks) (hu : u ∈ tasks) (same : t.jobId = u.jobId) : t = u := by
  obtain ⟨j, hj, is, service, -⟩ := due.jobs t ht
  have other := (due.job_pending linked hu hj (is.trans same)).1
  exact eq_of_key due.distinct ht hu (service.symm.trans other)

theorem refusals_distinct {w : World} (o : Outside) : ((refusals o tasks w).map (·.1.jobId)).Nodup := by
  have jobs : (tasks.map (·.jobId)).Nodup :=
    (List.Nodup.of_map _ due.distinct).map_on fun t ht u hu => due.eq_of_jobId linked ht hu
  have part : (refused o tasks w).Sublist tasks := Outside.answering_sublist _ _ _
  rw [← map_refusals] at part
  have distinct := jobs.sublist (part.map (·.jobId))
  rwa [List.map_map] at distinct

end Due

/-- What submitting jobs that are due answers, and what it leaves. -/
structure Submitted (o : Outside) (tasks : List CommittedJob) (w : World) (answer : Except Failure Nat)
    (w' : World) : Prop where
  answer : answer = if (refusals o tasks w).isEmpty then .ok tasks.length
    else .error (.several ((refusals o tasks w).map complaint))
  queued : ∃ rows, w'.store.tasks = w.store.tasks ++ rows ∧ rows.length = (accepted o tasks w).length ∧
    ∀ t ∈ tasks, rows.countP (·.asksFor t) = if t ∈ accepted o tasks w then 1 else 0
  jobs : w'.store.jobs = w.store.jobs.map (abandoned w.now (refusals o tasks w))
  services : w'.store.services = changeRows (fun r => (refused o tasks w).any fun t => r.id == t.serviceId)
    (fun r => { r with status := .pending, updatedAt := w.now }) w.store.services
  orders : w'.store.orders = changeRows
    (fun x => (refused o tasks w).any (fun t => x.id == t.orderId) && x.status == .provisioning &&
      !w'.store.hasWorkDone x.id)
    (fun x => { x with status := .paid, updatedAt := w.now }) w.store.orders
  untouched : ∀ t ∈ accepted o tasks w, (∀ j ∈ w.store.jobs, j.id = t.jobId → j ∈ w'.store.jobs) ∧
    ∀ r ∈ w.store.services, r.id = t.serviceId → r ∈ w'.store.services
  takenBack : ∀ x ∈ refusals o tasks w,
    (∃ j ∈ w'.store.jobs, j.id = x.1.jobId ∧ j.status = .failed ∧
      j.lastError = some ("enqueue failed: " ++ x.2.message)) ∧
    ∃ r ∈ w'.store.services, r.id = x.1.serviceId ∧ r.status = .pending
  rest : w'.store = { w.store with
    orders := w'.store.orders
    services := w'.store.services
    jobs := w'.store.jobs
    tasks := w'.store.tasks }

/-- No job is answered both ways. -/
theorem Due.not_both (due : Due tasks w.store) (ht : t ∈ accepted o tasks w) (hu : t ∈ refused o tasks w) :
    False := by
  have distinct : (accepted o tasks w ++ refused o tasks w).Nodup :=
    (Outside.answering_perm _ _).nodup_iff.mpr (List.Nodup.of_map _ due.distinct)
  exact (List.nodup_append.mp distinct).2.2 t ht t hu rfl

section due

variable (due : Due tasks w.store) (linked : w.store.Linked)

include due linked

theorem due_services (o : Outside) : (allAnswered o tasks w).store.services =
    changeRows (fun r => (refused o tasks w).any fun t => r.id == t.serviceId)
      (fun r => { r with status := .pending, updatedAt := w.now }) w.store.services := by
  rw [allAnswered_services]
  refine changeRows_congr fun r hr => ?_
  cases named : (refused o tasks w).any fun t => r.id == t.serviceId with
  | false => rfl
  | true =>
    obtain ⟨t, ht, is⟩ := List.any_eq_true.mp named
    rw [due.service_provisioning linked (refused_subset o tasks w ht) hr (by simpa using is)]
    rfl

/-- Neither the job nor the service of a task that is accepted changes. -/
theorem accepted_untouched (ht : t ∈ accepted o tasks w) :
    (∀ j ∈ w.store.jobs, j.id = t.jobId → j ∈ (allAnswered o tasks w).store.jobs) ∧
      ∀ r ∈ w.store.services, r.id = t.serviceId → r ∈ (allAnswered o tasks w).store.services := by
  have among := accepted_subset o tasks w ht
  constructor
  · intro j hj is
    rw [allAnswered_jobs]
    refine List.mem_map.mpr ⟨j, hj, ?_⟩
    rcases abandoned_cases w.now (refusals o tasks w) j with ⟨same, -⟩ | ⟨-, x, hx, named, -⟩
    · exact same
    · have hu := mem_refused hx
      have one : t = x.1 := due.eq_of_jobId linked among (refused_subset o tasks w hu) (is.symm.trans named)
      exact (due.not_both ht (one ▸ hu)).elim
  · intro r hr is
    rw [due_services due linked o]
    refine mem_changeRows.mpr ⟨r, hr, (if_neg fun named => ?_).symm⟩
    obtain ⟨u, hu, same⟩ := List.any_eq_true.mp named
    have one : t = u :=
      eq_of_key due.distinct among (refused_subset o tasks w hu) (is.symm.trans (by simpa using same))
    exact due.not_both ht (one ▸ hu)

/-- A job that is refused has failed for its own refusal, and its service waits. -/
theorem refused_takenBack {x : CommittedJob × Failure} (hx : x ∈ refusals o tasks w) :
    (∃ j ∈ (allAnswered o tasks w).store.jobs, j.id = x.1.jobId ∧ j.status = .failed ∧
      j.lastError = some ("enqueue failed: " ++ x.2.message)) ∧
    ∃ r ∈ (allAnswered o tasks w).store.services, r.id = x.1.serviceId ∧ r.status = .pending := by
  have ht := mem_refused hx
  have among := refused_subset o tasks w ht
  constructor
  · obtain ⟨j, hj, is, -, pending⟩ := due.jobs x.1 among
    have live : j.status.isLive = true := by rw [pending]; rfl
    rw [allAnswered_jobs]
    refine ⟨_, List.mem_map_of_mem hj, ?_⟩
    rw [abandoned_of_mem (due.refusals_distinct linked o) hx is live]
    exact ⟨is, rfl, rfl⟩
  · obtain ⟨r, hr, is, -⟩ := due.services x.1 among
    rw [due_services due linked o]
    have named : ((refused o tasks w).any fun t => r.id == t.serviceId) = true :=
      List.any_eq_true.mpr ⟨x.1, ht, by simp [is]⟩
    exact ⟨_, mem_changeRows.mpr ⟨r, hr, (if_pos named).symm⟩, is, rfl⟩

theorem submitted (calm : w.faults = []) (durable : o.durable = true) :
    ∃ answer w', (submitAll o tasks).run w = (answer, w') ∧ Submitted o tasks w answer w' := by
  refine ⟨_, _, submitAll_answers calm o tasks, ?_⟩
  obtain ⟨rows, added, told⟩ := allAnswered_tasks durable tasks w
  exact {
    answer := rfl
    queued := ⟨rows, added, by simpa using congrArg List.length told,
      fun t ht => countP_asksFor due.distinct told ht⟩
    jobs := allAnswered_jobs o tasks w
    services := due_services due linked o
    orders := allAnswered_orders (due.belong linked) o
    untouched := fun t ht => accepted_untouched due linked ht
    takenBack := fun x hx => refused_takenBack due linked hx
    rest := allAnswered_rest o tasks w }

end due

/-! ### Another order -/

/-- The jobs in another order, of which the queue refuses the same ones with the same failures, leave the same
tables but for the numbers of the new rows of the queue and their order. -/
theorem allAnswered_perm {o' : Outside} {tasks' : List CommittedJob} (due : Due tasks w.store)
    (linked : w.store.Linked) (durable : o.durable = true) (durable' : o'.durable = true)
    (perm : tasks'.Perm tasks) (same : (refusals o' tasks' w).Perm (refusals o tasks w)) : ∃ rows rows',
      (allAnswered o tasks w).store.tasks = w.store.tasks ++ rows ∧
      (allAnswered o' tasks' w).store =
        { (allAnswered o tasks w).store with tasks := w.store.tasks ++ rows' } ∧
      (rows'.map TaskRow.unnumbered).Perm (rows.map TaskRow.unnumbered) := by
  obtain ⟨rows, added, told⟩ := allAnswered_tasks durable tasks w
  obtain ⟨rows', added', told'⟩ := allAnswered_tasks durable' tasks' w
  have belong := due.belong linked
  have belong' : Belong tasks' w.store := fun t ht => belong t (perm.mem_iff.mp ht)
  have jobs : (allAnswered o' tasks' w).store.jobs = (allAnswered o tasks w).store.jobs := by
    rw [allAnswered_jobs, allAnswered_jobs]
    exact List.map_congr_left fun j _ => abandoned_perm same (due.refusals_distinct linked o) j
  have same : (refused o' tasks' w).Perm (refused o tasks w) := by
    rw [← map_refusals, ← map_refusals]
    exact same.map _
  have named {p : CommittedJob → Bool} : (refused o' tasks' w).any p = (refused o tasks w).any p := same.any_eq
  have services : (allAnswered o' tasks' w).store.services = (allAnswered o tasks w).store.services := by
    rw [allAnswered_services, allAnswered_services]
    exact changeRows_congr fun r _ => by rw [named]
  have work : (allAnswered o' tasks' w).store.hasWorkDone = (allAnswered o tasks w).store.hasWorkDone :=
    Store.hasWorkDone_congr jobs (by rw [allAnswered_isServiceOf, allAnswered_isServiceOf])
  have orders : (allAnswered o' tasks' w).store.orders = (allAnswered o tasks w).store.orders := by
    rw [allAnswered_orders belong', allAnswered_orders belong]
    exact changeRows_congr fun x _ => by rw [named, work]
  refine ⟨rows, rows', added, ?_, ?_⟩
  · rw [allAnswered_rest o' tasks' w, allAnswered_rest o tasks w, jobs, services, orders, added']
  · rw [told, told']
    have all := (Outside.answering_perm (o := o') w.offered.length tasks').trans
      (perm.trans (Outside.answering_perm (o := o) w.offered.length tasks).symm)
    have others := ((same.append_left (accepted o' tasks' w)).symm.trans all)
    exact ((List.perm_append_right_iff _).mp others).map _

/-! ### Once more -/

end CommittedJob

namespace Store

variable {s : Store} {id : Uuid}

/-- A job that is not live is left alone. -/
theorem abandonJob_of_closed (h : ∀ j ∈ s.jobs, (j.id == id && j.status.isLive) = false) (now : Instant)
    (error : String) : (s.abandonJob now id error).2 = s := by
  simp only [abandonJob, changeJobs, changeRows_of_none h]

theorem closed_abandonJob (now : Instant) (id : Uuid) (error : String) (s : Store) :
    ∀ j ∈ (s.abandonJob now id error).2.jobs, (j.id == id && j.status.isLive) = false := by
  intro j hj
  obtain ⟨x, -, rfl⟩ := mem_changeRows.mp hj
  split
  · exact Bool.and_false _
  · next other => exact Bool.eq_false_iff.mpr other

/-- A service that is not being built is left alone. -/
theorem revertService_of_halted (h : ∀ r ∈ s.services, (r.id == id && r.status == .provisioning) = false)
    (now : Instant) : (s.revertService now id).2 = s := by
  simp only [revertService, changeServices, changeRows_of_none h]

theorem halted_revertService (now : Instant) (id : Uuid) (s : Store) :
    ∀ r ∈ (s.revertService now id).2.services, (r.id == id && r.status == .provisioning) = false := by
  intro r hr
  obtain ⟨x, -, rfl⟩ := mem_changeRows.mp hr
  split
  · exact Bool.and_false _
  · next other => exact Bool.eq_false_iff.mpr other

theorem revertOrder_rest (now : Instant) (id : Uuid) (s : Store) : (s.revertOrder now id .paid).2 =
    { s with orders := (s.revertOrder now id .paid).2.orders } := by
  unfold revertOrder
  split <;> rfl

/-- An order that was looked at is left as it is. -/
theorem revertOrder_again (now later : Instant) (id : Uuid) (s : Store) :
    ((s.revertOrder now id .paid).2.revertOrder later id .paid).2 = (s.revertOrder now id .paid).2 := by
  cases work : s.hasWorkDone id with
  | true => simp only [revertOrder, work, if_true]
  | false =>
    let moved := (s.moveOrder now id .provisioning .paid).2
    have still : moved.hasWorkDone id = false := work
    have none_left : ∀ x ∈ moved.orders, (x.id == id && x.status == .provisioning) = false := by
      intro x hx
      obtain ⟨y, -, rfl⟩ := mem_changeRows.mp hx
      split
      · exact Bool.and_false _
      · next other => exact Bool.eq_false_iff.mpr other
    have first : (s.revertOrder now id .paid).2 = moved := by rw [revertOrder, work]; rfl
    rw [first, revertOrder, still, if_neg Bool.false_ne_true, moveOrder]
    dsimp only
    rw [changeRows_of_none none_left]

end Store

namespace CommittedJob

variable {t : CommittedJob} {w : World}

theorem runSteps_cons {step : Action (List String)} {w' : World} (ran : step.run w = (.ok [], w'))
    (rest : List (Action (List String))) :
    ((runSteps (step :: rest)).run w).2 = ((runSteps rest).run w').2 := by
  rw [runSteps, Action.run_bind_of_ok ran]
  exact Action.run_answer _ _ _

/-- A job that has been failed is not failed again, -/
theorem takenBack_of_closed {s : Store} (closed : ∀ j ∈ s.jobs, (j.id == t.jobId && j.status.isLive) = false)
    (now : Instant) (reason : String) : takenBack now t reason s =
      ((s.revertService now t.serviceId).2.revertOrder now t.orderId .paid).2 := by
  rw [takenBack, Store.abandonJob_of_closed closed]

/-- and then a service that has been halted is not halted again. -/
theorem takenBack_of_halted {s : Store} (closed : ∀ j ∈ s.jobs, (j.id == t.jobId && j.status.isLive) = false)
    (halted : ∀ r ∈ s.services, (r.id == t.serviceId && r.status == .provisioning) = false) (now : Instant)
    (reason : String) : takenBack now t reason s = (s.revertOrder now t.orderId .paid).2 := by
  rw [takenBack_of_closed closed, Store.revertService_of_halted halted]

/-- Taking a job back after some of its steps have run does what the other steps do. -/
theorem retract_again (calm : w.faults = []) (t : CommittedJob) (reason reason' : String) (n : Nat)
    (later : Instant) :
    ((t.retract reason').run { ((runSteps ((t.stepsBack reason).take n)).run w).2 with now := later }).2 =
      ((runSteps ((t.stepsBack reason').drop n)).run
        { ((runSteps ((t.stepsBack reason).take n)).run w).2 with now := later }).2 := by
  let failing := (w.store.abandonJob w.now t.jobId ("enqueue failed: " ++ reason)).2
  let halting := (failing.revertService w.now t.serviceId).2
  have closed := Store.closed_abandonJob w.now t.jobId ("enqueue failed: " ++ reason) w.store
  have halted := Store.halted_revertService w.now t.serviceId failing
  have first := failJobStep_run calm t reason
  have second := revertServiceStep_run (w := { w with store := failing }) calm t
  have third := revertOrderStep_run (w := { w with store := halting }) calm t
  match n with
  | 0 => rw [List.drop_zero, retract_eq_runSteps]
  | 1 =>
    have cut : ((runSteps ((t.stepsBack reason).take 1)).run w).2 = { w with store := failing } :=
      runSteps_cons first []
    let v : World := { w with store := failing, now := later }
    have service := revertServiceStep_run (w := v) calm t
    have order := revertOrderStep_run
      (w := { v with store := (failing.revertService later t.serviceId).2 }) calm t
    rw [cut, retract_run (by exact calm), takenBack_of_closed (by exact closed)]
    exact ((runSteps_cons service _).trans (runSteps_cons order [])).symm
  | 2 =>
    have cut : ((runSteps ((t.stepsBack reason).take 2)).run w).2 = { w with store := halting } :=
      (runSteps_cons first _).trans (runSteps_cons second [])
    have order := revertOrderStep_run (w := { w with store := halting, now := later }) calm t
    rw [cut, retract_run (by exact calm), takenBack_of_halted (by exact closed) (by exact halted)]
    exact (runSteps_cons order []).symm
  | n + 3 =>
    let reverted := (halting.revertOrder w.now t.orderId .paid).2
    have all : (t.stepsBack reason).take (n + 3) = t.stepsBack reason :=
      List.take_of_length_le (Nat.le_add_left 3 n)
    have none_left : (t.stepsBack reason').drop (n + 3) = [] := List.drop_of_length_le (Nat.le_add_left 3 n)
    have cut : ((runSteps (t.stepsBack reason)).run w).2 = { w with store := reverted } :=
      (runSteps_cons first _).trans ((runSteps_cons second _).trans (runSteps_cons third []))
    have rest := Store.revertOrder_rest w.now t.orderId halting
    have closed : ∀ j ∈ reverted.jobs, (j.id == t.jobId && j.status.isLive) = false := by
      intro j hj
      exact closed j (by rw [show reverted = _ from rest] at hj; exact hj)
    have halted : ∀ r ∈ reverted.services, (r.id == t.serviceId && r.status == .provisioning) = false := by
      intro r hr
      exact halted r (by rw [show reverted = _ from rest] at hr; exact hr)
    rw [all, none_left, cut, retract_run (by exact calm),
      takenBack_of_halted (by exact closed) (by exact halted), Store.revertOrder_again]
    rfl

theorem runSteps_append {first : List (Action (List String))} (total : ∀ a ∈ first, a.Total)
    (rest : List (Action (List String))) (w : World) :
    ((runSteps (first ++ rest)).run w).2 = ((runSteps rest).run ((runSteps first).run w).2).2 := by
  induction first generalizing w with
  | nil => rfl
  | cons a first ih =>
    obtain ⟨errors, w₁, ran⟩ := total a List.mem_cons_self w
    rw [List.cons_append, runSteps, runSteps, Action.run_bind_of_ok ran, Action.run_bind_of_ok ran,
      Action.run_answer, Action.run_answer]
    exact ih (fun b hb => total b (List.mem_cons_of_mem _ hb)) w₁

theorem stepsBack_total (t : CommittedJob) (reason : String) : ∀ a ∈ t.stepsBack reason, a.Total := by
  intro a ha
  simp only [stepsBack, List.mem_cons, List.not_mem_nil, or_false] at ha
  rcases ha with rfl | rfl | rfl <;> exact stepError_total _ _ _

/-- With the clock standing still, taking a job back after some of its steps is taking it back at once. -/
theorem retract_resumed (calm : w.faults = []) (t : CommittedJob) (reason : String) (n : Nat) :
    ((t.retract reason).run ((runSteps ((t.stepsBack reason).take n)).run w).2).2 =
      ((t.retract reason).run w).2 := by
  have clock : ((runSteps ((t.stepsBack reason).take n)).run w).2.now = w.now :=
    (Recovery.stepsBack_eases t reason n w).now
  have again := retract_again calm t reason reason n w.now
  rw [← clock] at again
  refine again.trans ?_
  have total : ∀ a ∈ (t.stepsBack reason).take n, a.Total :=
    fun a ha => stepsBack_total t reason a (List.mem_of_mem_take ha)
  have whole := runSteps_append total ((t.stepsBack reason).drop n) w
  rw [List.take_append_drop, ← retract_eq_runSteps] at whole
  exact whole.symm

/-- **Refused submissions are taken back, whatever the others come to.** Jobs that are due are submitted one
by one, and each refusal is a failure of its own: each job that the queue accepts has its one row there and is
untouched, each that it refuses has failed for that failure and its service waits; an order with a refusal is
paid again exactly when none of its jobs is at work in the end; and the answer counts the jobs or tells of each
refusal. Only the numbers of the new rows depend on the order of the jobs. What was taken back in part is taken
back as if at once. -/
theorem submissions_settle {o : Outside} {tasks : List CommittedJob} (calm : w.faults = [])
    (durable : o.durable = true) (linked : w.store.Linked) (due : Due tasks w.store) :
    (∃ answer w', (submitAll o tasks).run w = (answer, w') ∧ Submitted o tasks w answer w' ∧
      ∀ (o' : Outside) tasks', o'.durable = true → tasks'.Perm tasks →
        (refusals o' tasks' w).Perm (refusals o tasks w) → ∃ rows rows',
          w'.store.tasks = w.store.tasks ++ rows ∧
          ((submitAll o' tasks').run w).2.store = { w'.store with tasks := w.store.tasks ++ rows' } ∧
          (rows'.map TaskRow.unnumbered).Perm (rows.map TaskRow.unnumbered)) ∧
      ∀ (t : CommittedJob) (reason : String) (n : Nat) (v : World), v.faults = [] →
        ((t.retract reason).run ((runSteps ((t.stepsBack reason).take n)).run v).2).2 =
            ((t.retract reason).run v).2 ∧
          ∀ reason' later, ((t.retract reason').run
              { ((runSteps ((t.stepsBack reason).take n)).run v).2 with now := later }).2 =
            ((runSteps ((t.stepsBack reason').drop n)).run
              { ((runSteps ((t.stepsBack reason).take n)).run v).2 with now := later }).2 := by
  refine ⟨?_, fun t reason n v calm => ⟨retract_resumed calm t reason n, fun reason' later =>
    retract_again calm t reason reason' n later⟩⟩
  obtain ⟨answer, w', ran, submitted⟩ := submitted due linked calm durable
  refine ⟨answer, w', ran, submitted, fun o' tasks' durable' perm same => ?_⟩
  have left : w' = allAnswered o tasks w := by
    rw [submitAll_answers calm] at ran
    exact (congrArg Prod.snd ran).symm
  rw [left, submitAll_answers calm]
  exact allAnswered_perm due linked durable durable' perm same

/-! ### Samples -/

open Operations (sampleOutside)

/-- An order of three lines that are all to be built. -/
def dueStore : Store :=
  let items := Checkout.sampleStore.items ++
    [⟨.ofNat 12, .ofNat 1, .ofNat 8, .object [], .monthly, 1, 700, ⟨1000, 0⟩⟩]
  { Checkout.sampleStore with
    orders := [⟨.ofNat 1, .ofNat 9, .provisioning, "USD", 1700, ⟨1000, 0⟩, ⟨1000, 0⟩⟩]
    items
    services := (items.zip [4, 5, 13]).map fun (item, n) =>
      { newService ⟨1000, 0⟩ (.ofNat n) (.ofNat 9) item ⟨2000, 0⟩ with status := .provisioning }
    jobs := [newJob ⟨1000, 0⟩ (.ofNat 6) (.ofNat 4) .provisionVps,
      newJob ⟨1000, 0⟩ (.ofNat 7) (.ofNat 5) .provisionVps,
      newJob ⟨1000, 0⟩ (.ofNat 14) (.ofNat 13) .provisionVps] }

def dueJobs : List CommittedJob := [
  ⟨.ofNat 6, .ofNat 4, .ofNat 1, .ofNat 8, .ofNat 9⟩,
  ⟨.ofNat 7, .ofNat 5, .ofNat 1, .ofNat 8, .ofNat 9⟩,
  ⟨.ofNat 14, .ofNat 13, .ofNat 1, .ofNat 8, .ofNat 9⟩]

def dueWorld : World := World.start dueStore ⟨1000, 0⟩ 100 ⟨"", "", ""⟩

/-- The queue takes the second of them, and refuses the others with different failures. -/
def secondTaken : Outside := { sampleOutside true with
  refuses := (· != 1)
  refusal := fun n _ => if n = 0 then .queue "connection reset" else .database .injected }

theorem submissions_settle_secondTaken : ∃ answer w',
    (submitAll secondTaken dueJobs).run dueWorld = (answer, w') ∧ Submitted secondTaken dueJobs dueWorld answer w' ∧
      w'.store.jobs.map (·.lastError) = [some "enqueue failed: queue: connection reset", none,
        some "enqueue failed: database: error returned from database: injected failure"] := by
  have linked : dueWorld.store.Linked :=
    ⟨by decide, by decide, by decide, by decide, by decide, by decide, by decide, by decide⟩
  have due : Due dueJobs dueWorld.store :=
    ⟨by decide, by decide, by decide, by decide⟩
  obtain ⟨⟨answer, w', ran, submitted, -⟩, -⟩ :=
    submissions_settle (o := secondTaken) rfl rfl linked due
  refine ⟨answer, w', ran, submitted, ?_⟩
  rw [submitted.jobs]
  decide

end CommittedJob

end HostingBilling
