import HostingBilling.Proofs.Tasks.Due
import Mathlib.Order.Lattice

/-!
# Who settles a task

Any number of workers meet at the task table, and their statements interleave freely. A worker settles
every task that it has claimed once, however late, or never. A task that has been in processing for more
than five minutes is handed out again, so several workers may hold claims on one task, and a verdict may
fall on a row that another worker has settled.

Main statement: a completed or failed task is claimed again only after a failure with attempts left has
fallen on it, from a claim that was granted before it was finished. While every worker settles its
claims within the five minutes, no finished task ever changes.
-/

namespace HostingBilling

namespace TaskQueue

/-- How a worker settles a task. -/
inductive Verdict where
  | complete
  | fail (error : String)
  | discard (error : String)

/-- A failure whose wait is out of range is refused, and changes nothing. -/
def Verdict.settle (now : Instant) (id : Uuid) (rows : List TaskRow) : Verdict → List TaskRow
  | .complete => completeRow now id rows
  | .fail error => (failRow now id error rows).toOption.getD rows
  | .discard error => discardRow now id error rows

/-- A claim that its worker has not settled. -/
structure Hold where
  task : Uuid
  since : Instant
  deriving DecidableEq

/-- The task table, and the claims that are not settled in the order in which they were granted. -/
structure Workshop where
  now : Instant
  rows : List TaskRow
  holds : List Hold

/-- One statement on the task table, or a wait. -/
inductive Call where
  | wait (later : Instant)
  | enqueue (t : TaskDraft) (id : Uuid)
  | claim (queue : QueueName)
  /-- The worker that holds the claim at this place settles it. -/
  | settle (place : Nat) (verdict : Verdict)
  | reap

namespace Workshop

/-- Nobody holds a claim yet. -/
def opening (now : Instant) (rows : List TaskRow) : Workshop := ⟨now, rows, []⟩

/-- The task that a claim returns. -/
def claims (s : Workshop) (queue : QueueName) : Option TaskRow := (claimRow s.now queue s.rows).1

/-- The clock never goes back, and an identifier that is in use is refused. -/
def call (s : Workshop) : Call → Workshop
  | .wait later => { s with now := max s.now later }
  | .enqueue t id =>
    if id ∈ s.rows.map (·.id) then s else { s with rows := s.rows ++ [newRow s.now id t] }
  | .claim queue => { s with
      rows := (claimRow s.now queue s.rows).2
      holds := s.holds ++ ((s.claims queue).map fun t => ⟨t.id, s.now⟩).toList }
  | .settle place verdict => match s.holds[place]? with
    | none => s
    | some hold => { s with
        rows := verdict.settle s.now hold.task s.rows
        holds := s.holds.eraseIdx place }
  | .reap => { s with rows := (reapRows s.now s.rows).2 }

def run (s : Workshop) (calls : List Call) : Workshop := calls.foldl call s

/-- The task is completed or failed. -/
def Finished (s : Workshop) (id : Uuid) : Prop :=
  ∃ r ∈ s.rows, r.id = id ∧ r.status.isFinished = true

/-- The call is a failure of the task that asks for a retry, by a worker that holds a claim on it. -/
def Reopens (s : Workshop) (id : Uuid) (c : Call) : Prop :=
  ∃ place error hold r, c = .settle place (.fail error) ∧ s.holds[place]? = some hold ∧ hold.task = id ∧
    r ∈ s.rows ∧ r.id = id ∧ isSpent r = false ∧ waitFits r = true

/-- The five minutes in which a claim is its worker's alone. -/
def isCurrent (s : Workshop) (hold : Hold) : Bool := s.now ≤ hold.since.addSeconds staleSeconds

/-- The call is no verdict that comes more than five minutes after its claim. -/
def inTime (s : Workshop) : Call → Bool
  | .settle place _ => (s.holds[place]?).all s.isCurrent
  | _ => true

/-- Every verdict comes in time. -/
def punctual (s : Workshop) : List Call → Bool
  | [] => true
  | c :: rest => s.inTime c && (s.call c).punctual rest

end Workshop

/-! ## Verdicts -/

variable {s : Workshop} {id : Uuid} {rows : List TaskRow} {now : Instant} {verdict : Verdict}

/-- A verdict changes the rows of its task and keeps all keys. -/
theorem settle_rows (now : Instant) (id : Uuid) (rows : List TaskRow) (verdict : Verdict) :
    ∃ change : TaskRow → TaskRow, (∀ r, (change r).id = r.id) ∧
      verdict.settle now id rows = changeRows (fun r => r.id == id) change rows := by
  cases verdict with
  | complete => exact ⟨fun r => { r with status := .completed, updatedAt := now }, fun _ => rfl, rfl⟩
  | discard error =>
    exact ⟨fun r => { r with
      attempts := r.attempts + 1
      lastError := some error
      status := .failed
      updatedAt := now }, fun _ => rfl, rfl⟩
  | fail error =>
    simp only [Verdict.settle, failRow]
    split
    · exact ⟨failedRow now error, fun _ => rfl, rfl⟩
    · exact ⟨fun r => r, fun _ => rfl, by simp [changeRows, Except.toOption]⟩

/-- What a verdict makes of a finished row is finished, unless it is a failure that asks for a retry. -/
theorem settle_finished (now : Instant) {task : Uuid} {r : TaskRow} (hr : r ∈ rows)
    (finished : r.status.isFinished = true)
    (final : ∀ error, verdict = .fail error → r.id = task → isSpent r = true ∨ waitFits r = false) :
    ∃ x ∈ verdict.settle now task rows, x.id = r.id ∧ x.status.isFinished = true := by
  have changed (change : TaskRow → TaskRow) (same : (change r).id = r.id)
      (still : r.id = task → (change r).status.isFinished = true) :
      ∃ x ∈ changeRows (fun x => x.id == task) change rows, x.id = r.id ∧ x.status.isFinished = true := by
    refine ⟨_, mem_changeRows.mpr ⟨r, hr, rfl⟩, ?_⟩
    by_cases is : r.id = task
    · simp [is, still, same.trans is]
    · simp [is, finished]
  cases verdict with
  | complete => exact changed _ rfl fun _ => rfl
  | discard error => exact changed _ rfl fun _ => rfl
  | fail error =>
    simp only [Verdict.settle, failRow]
    split
    · next fits =>
      apply changed (failedRow now error) rfl
      intro is
      have fits := List.all_eq_true.mp fits r hr
      rcases final error rfl is with spent | refused
      · simp [failedRow, spent, TaskStatus.isFinished]
      · simp [is, refused] at fits
    · exact ⟨r, hr, rfl, finished⟩

/-- A failure that asks for a retry makes its task pending, whatever became of it before. -/
theorem settle_retry (now : Instant) (keys : (rows.map (·.id)).Nodup) {r : TaskRow} (hr : r ∈ rows)
    (unspent : isSpent r = false) (fits : waitFits r = true) (error : String) :
    ∃ x ∈ (Verdict.fail error).settle now r.id rows, x.id = r.id ∧ x.status = .pending := by
  have all : (rows.all fun x => x.id != r.id || waitFits x) = true := by
    refine List.all_eq_true.mpr fun x hx => ?_
    by_cases same : x.id = r.id
    · simp [eq_of_key keys hx hr same, fits]
    · simp [same]
  refine ⟨failedRow now error r, ?_, rfl, by simp [failedRow, unspent]⟩
  simp only [Verdict.settle, failRow, all, if_true, Except.toOption, Option.getD_some]
  exact mem_changeRows.mpr ⟨r, hr, by simp⟩

/-! ## One call -/

theorem ids_call (s : Workshop) (c : Call) :
    (s.call c).rows.map (·.id) = s.rows.map (·.id) ∨
      ∃ id ∉ s.rows.map (·.id), (s.call c).rows.map (·.id) = s.rows.map (·.id) ++ [id] := by
  cases c with
  | wait later => exact .inl rfl
  | enqueue t id =>
    by_cases used : id ∈ s.rows.map (·.id)
    · exact .inl (by simp only [Workshop.call, if_pos used])
    · exact .inr ⟨id, used, by simp only [Workshop.call, if_neg used]; simp [newRow]⟩
  | claim queue =>
    left
    cases claimed : (claimRow s.now queue s.rows).1 with
    | none => simp only [Workshop.call, claimRow_none claimed]
    | some t =>
      simp only [Workshop.call, (claimRow_some claimed).2.2]
      exact map_changeRows _ fun _ => rfl
  | settle place verdict =>
    left
    simp only [Workshop.call]
    split
    · rfl
    · next hold _ =>
      obtain ⟨change, same, settled⟩ := settle_rows s.now hold.task s.rows verdict
      rw [settled]
      exact map_changeRows _ same
  | reap => exact .inl (map_changeRows _ fun _ => rfl)

theorem keys_call (keys : (s.rows.map (·.id)).Nodup) (c : Call) : ((s.call c).rows.map (·.id)).Nodup := by
  rcases ids_call s c with same | ⟨id, new, added⟩
  · exact same ▸ keys
  · rw [added]
    exact List.nodup_append_comm.mp (List.nodup_cons.mpr ⟨new, keys⟩)

theorem not_finished_of_pending (keys : (s.rows.map (·.id)).Nodup) {r : TaskRow} (hr : r ∈ s.rows)
    (pending : r.status = .pending) : ¬ s.Finished r.id := by
  rintro ⟨x, hx, same, finished⟩
  rw [eq_of_key keys hx hr same, pending] at finished
  cases finished

/-- A claim never returns a finished task. -/
theorem not_claimed (keys : (s.rows.map (·.id)).Nodup) (finished : s.Finished id) {queue : QueueName}
    {t : TaskRow} (claimed : s.claims queue = some t) : t.id ≠ id := by
  rintro rfl
  obtain ⟨ht, due, -⟩ := claimRow_some claimed
  exact not_finished_of_pending keys ht (isDue_iff.mp due).1 finished

/-- A failure that asks for a retry puts an end to being finished. -/
theorem reopens_call (keys : (s.rows.map (·.id)).Nodup) {c : Call} (reopens : s.Reopens id c) :
    ¬ (s.call c).Finished id := by
  have keys' := keys_call keys c
  obtain ⟨place, error, hold, r, rfl, held, rfl, hr, same, unspent, fits⟩ := reopens
  obtain ⟨x, hx, is, pending⟩ := settle_retry s.now keys hr unspent fits error
  rw [← same, ← is]
  apply not_finished_of_pending keys' _ pending
  simpa only [Workshop.call, held, ← same] using hx

/-- The row of a finished task is left alone by every call but a verdict on it. -/
theorem mem_call (keys : (s.rows.map (·.id)).Nodup) {r : TaskRow} (hr : r ∈ s.rows)
    (finished : r.status.isFinished = true) {c : Call}
    (other : ∀ place verdict hold, c = .settle place verdict → s.holds[place]? = some hold →
      hold.task ≠ r.id) : r ∈ (s.call c).rows := by
  cases c with
  | wait later => exact hr
  | enqueue t id =>
    simp only [Workshop.call]
    split
    · exact hr
    · exact List.mem_append_left _ hr
  | claim queue =>
    cases claimed : (claimRow s.now queue s.rows).1 with
    | none => simpa only [Workshop.call, claimRow_none claimed] using hr
    | some t =>
      have apart : t.id ≠ r.id := not_claimed keys ⟨r, hr, rfl, finished⟩ claimed
      simp only [Workshop.call, (claimRow_some claimed).2.2]
      exact mem_changeRows.mpr ⟨r, hr, by simp [apart.symm]⟩
  | settle place verdict =>
    simp only [Workshop.call]
    split
    · exact hr
    · next hold held =>
      obtain ⟨change, -, settled⟩ := settle_rows s.now hold.task s.rows verdict
      rw [settled]
      exact mem_changeRows.mpr ⟨r, hr, by simp [(other place verdict hold rfl held).symm]⟩
  | reap =>
    have fresh : isStale s.now r = false := by
      cases status : r.status <;> simp [status, TaskStatus.isFinished] at finished <;> simp [isStale, status]
    exact mem_changeRows.mpr ⟨r, hr, by simp [fresh]⟩

/-- A finished task stays finished in every other call. -/
theorem finished_call (keys : (s.rows.map (·.id)).Nodup) (finished : s.Finished id) {c : Call}
    (final : ¬ s.Reopens id c) : (s.call c).Finished id := by
  obtain ⟨r, hr, rfl, done⟩ := finished
  by_cases mine : ∃ place verdict hold, c = .settle place verdict ∧ s.holds[place]? = some hold ∧
      hold.task = r.id
  · obtain ⟨place, verdict, hold, rfl, held, of⟩ := mine
    have spent : ∀ error, verdict = .fail error → r.id = hold.task →
        isSpent r = true ∨ waitFits r = false := by
      rintro error rfl -
      by_contra retries
      simp only [not_or, Bool.not_eq_true, Bool.not_eq_false] at retries
      exact final ⟨place, error, hold, r, rfl, held, of, hr, rfl, retries.1, retries.2⟩
    obtain ⟨x, hx, is, done'⟩ := settle_finished s.now hr done spent
    exact ⟨x, by simpa only [Workshop.call, held] using hx, is, done'⟩
  · refine ⟨r, mem_call keys hr done fun place verdict hold is held of => ?_, rfl, done⟩
    exact mine ⟨place, verdict, hold, is, held, of⟩

/-! ## Runs of calls -/

@[simp] theorem run_nil (s : Workshop) : s.run [] = s := rfl

@[simp] theorem run_cons (s : Workshop) (c : Call) (calls : List Call) :
    s.run (c :: calls) = (s.call c).run calls := rfl

theorem run_append (s : Workshop) (before after : List Call) :
    s.run (before ++ after) = (s.run before).run after := List.foldl_append

theorem keys_run (keys : (s.rows.map (·.id)).Nodup) (calls : List Call) :
    ((s.run calls).rows.map (·.id)).Nodup := by
  induction calls generalizing s with
  | nil => exact keys
  | cons c rest ih => exact ih (keys_call keys c)

/-- No claim is granted on a task while it is finished. -/
theorem holds_call (keys : (s.rows.map (·.id)).Nodup) (finished : s.Finished id) (c : Call) :
    ∀ h ∈ (s.call c).holds, h.task = id → h ∈ s.holds := by
  intro h hh of
  cases c with
  | wait later => exact hh
  | enqueue t new =>
    simp only [Workshop.call] at hh
    split at hh <;> exact hh
  | claim queue =>
    simp only [Workshop.call, List.mem_append, Option.mem_toList, Option.map_eq_some_iff] at hh
    rcases hh with old | ⟨t, claimed, rfl⟩
    · exact old
    · exact absurd of (not_claimed keys finished claimed)
  | settle place verdict =>
    simp only [Workshop.call] at hh
    split at hh
    · exact hh
    · exact List.mem_of_mem_eraseIdx hh
  | reap => exact hh

/-- A run either keeps a task finished throughout, or has a first call that reopens it. -/
theorem finished_or_reopened (keys : (s.rows.map (·.id)).Nodup) (finished : s.Finished id)
    (calls : List Call) :
    (∀ n, (s.run (calls.take n)).Finished id) ∨
      ∃ before c after, calls = before ++ c :: after ∧ (s.run before).Finished id ∧
        (s.run before).Reopens id c ∧ ∀ h ∈ (s.run before).holds, h.task = id → h ∈ s.holds := by
  induction calls generalizing s with
  | nil => exact .inl fun n => by simpa using finished
  | cons c rest ih =>
    by_cases reopens : s.Reopens id c
    · exact .inr ⟨[], c, rest, rfl, finished, reopens, fun h hh _ => hh⟩
    · have next := finished_call keys finished reopens
      rcases ih (keys_call keys c) next with always | ⟨before, d, after, rfl, closed, opens, held⟩
      · refine .inl fun n => ?_
        cases n with
        | zero => exact finished
        | succ n => exact always n
      · refine .inr ⟨c :: before, d, after, rfl, closed, opens, fun h hh of => ?_⟩
        exact holds_call keys finished c h (held h hh of) of

/-! ## Claims that are settled in time -/

/-- What is taken out of a list stands in a symmetric relation to what is left of it. -/
theorem pairwise_eraseIdx {α : Type} {R : α → α → Prop} (symm : ∀ {a b}, R a b → R b a) {l : List α}
    {i : Nat} {a : α} (apart : l.Pairwise R) (here : l[i]? = some a) : ∀ b ∈ l.eraseIdx i, R a b := by
  induction l generalizing i with
  | nil => cases here
  | cons x rest ih =>
    obtain ⟨head, tail⟩ := List.pairwise_cons.mp apart
    cases i with
    | zero =>
      cases here
      exact head
    | succ i =>
      intro b hb
      rcases List.mem_cons.mp hb with rfl | hb
      · exact symm (head a (List.mem_of_getElem? here))
      · exact ih tail here b hb

/-- What calls keep while every verdict comes in time. The task of a current claim is in processing since
the claim, and has no other current claim. -/
structure Workshop.Tidy (s : Workshop) : Prop where
  keys : (s.rows.map (·.id)).Nodup
  held : ∀ h ∈ s.holds, s.isCurrent h = true →
    ∃ r ∈ s.rows, r.id = h.task ∧ r.status = .processing ∧ r.updatedAt = h.since
  alone : s.holds.Pairwise fun g h => s.isCurrent g = true → s.isCurrent h = true → g.task ≠ h.task

namespace Workshop.Tidy

/-- A current claim is on a task that is not finished and not pending. -/
theorem processing (tidy : s.Tidy) {h : Hold} (hh : h ∈ s.holds) (current : s.isCurrent h = true)
    {r : TaskRow} (hr : r ∈ s.rows) (of : h.task = r.id) : r.status = .processing ∧ r.updatedAt = h.since := by
  obtain ⟨x, hx, same, is⟩ := tidy.held h hh current
  exact eq_of_key tidy.keys hr hx (of.symm.trans same.symm) ▸ is

theorem wait (tidy : s.Tidy) (later : Instant) : (s.call (.wait later)).Tidy := by
  have still (h : Hold) (current : (s.call (.wait later)).isCurrent h = true) : s.isCurrent h = true := by
    simp only [isCurrent, decide_eq_true_eq] at current ⊢
    exact le_trans (le_max_left _ _) current
  constructor
  · exact tidy.keys
  · intro h hh current
    exact tidy.held h hh (still h current)
  · refine tidy.alone.imp fun apart first second => ?_
    exact apart (still _ first) (still _ second)

theorem enqueue (tidy : s.Tidy) (t : TaskDraft) (id : Uuid) : (s.call (.enqueue t id)).Tidy := by
  by_cases used : id ∈ s.rows.map (·.id)
  · simpa only [call, if_pos used] using tidy
  · refine ⟨keys_call tidy.keys _, ?_, ?_⟩ <;> simp only [call, if_neg used]
    · intro h hh current
      obtain ⟨r, hr, is⟩ := tidy.held h hh current
      exact ⟨r, List.mem_append_left _ hr, is⟩
    · exact tidy.alone

theorem claim (tidy : s.Tidy) (queue : QueueName) : (s.call (.claim queue)).Tidy := by
  have keys := keys_call tidy.keys (.claim queue)
  cases claimed : s.claims queue with
  | none =>
    have same : s.call (.claim queue) = s := by
      simp only [call, claimed, claimRow_none claimed, Option.map_none, Option.toList_none, List.append_nil]
    exact same.symm ▸ tidy
  | some t =>
    obtain ⟨ht, due, changed⟩ := claimRow_some claimed
    have apart (h : Hold) (hh : h ∈ s.holds) (current : s.isCurrent h = true) : h.task ≠ t.id := by
      intro of
      have := (tidy.processing hh current ht of).1
      rw [(isDue_iff.mp due).1] at this
      cases this
    have called : s.call (.claim queue) = { s with
        rows := changeRows (fun r => r.id == t.id) (inProcessing s.now) s.rows
        holds := s.holds ++ [⟨t.id, s.now⟩] } := by
      simp only [call, claimed, changed, Option.map_some, Option.toList_some]
    rw [called] at keys ⊢
    refine ⟨keys, fun h hh current => ?_, ?_⟩
    · rcases List.mem_append.mp hh with hh | hh
      · obtain ⟨r, hr, is⟩ := tidy.held h hh current
        have other : r.id ≠ t.id := fun same => apart h hh current (is.1.symm.trans same)
        exact ⟨r, mem_changeRows.mpr ⟨r, hr, by simp [other]⟩, is⟩
      · obtain rfl := List.mem_singleton.mp hh
        exact ⟨inProcessing s.now t, mem_changeRows.mpr ⟨t, ht, by simp⟩, rfl, rfl, rfl⟩
    · refine List.pairwise_append.mpr ⟨tidy.alone, List.pairwise_singleton _ _, fun g hg h hh current _ => ?_⟩
      obtain rfl := List.mem_singleton.mp hh
      exact apart g hg current

/-- The worker with the only current claim settles its task. -/
theorem settle (tidy : s.Tidy) {place : Nat} {verdict : Verdict}
    (onTime : s.inTime (.settle place verdict) = true) : (s.call (.settle place verdict)).Tidy := by
  have keys := keys_call tidy.keys (.settle place verdict)
  simp only [inTime] at onTime
  simp only [call] at keys ⊢
  cases held : s.holds[place]? with
  | none => simpa only [held] using tidy
  | some hold =>
    simp only [held, Option.all_some] at keys onTime ⊢
    have apart := pairwise_eraseIdx (fun r first second => (r second first).symm) tidy.alone held
    obtain ⟨change, -, settled⟩ := settle_rows s.now hold.task s.rows verdict
    refine ⟨keys, fun h hh current => ?_, tidy.alone.sublist (List.eraseIdx_sublist _ _)⟩
    obtain ⟨r, hr, of, is⟩ := tidy.held h (List.mem_of_mem_eraseIdx hh) current
    have other : r.id ≠ hold.task := of ▸ (apart h hh onTime current).symm
    rw [settled]
    exact ⟨r, mem_changeRows.mpr ⟨r, hr, by simp [other]⟩, of, is⟩

theorem reap (tidy : s.Tidy) : (s.call .reap).Tidy := by
  refine ⟨keys_call tidy.keys _, fun h hh current => ?_, tidy.alone⟩
  obtain ⟨r, hr, of, processing, since⟩ := tidy.held h hh current
  have fresh : isStale s.now r = false := by
    have within : ¬ r.updatedAt < s.now.addSeconds (-staleSeconds) := by
      rw [Instant.lt_addSeconds_neg, since]
      exact not_lt.mpr (of_decide_eq_true current)
    simp [isStale, within]
  exact ⟨r, mem_changeRows.mpr ⟨r, hr, by simp [fresh]⟩, of, processing, since⟩

theorem opening (now : Instant) (keys : (rows.map (·.id)).Nodup) : (Workshop.opening now rows).Tidy :=
  ⟨keys, fun _ hh => (List.not_mem_nil hh).elim, List.Pairwise.nil⟩

theorem step (tidy : s.Tidy) {c : Call} (onTime : s.inTime c = true) : (s.call c).Tidy := by
  cases c with
  | wait later => exact tidy.wait later
  | enqueue t id => exact tidy.enqueue t id
  | claim queue => exact tidy.claim queue
  | settle place verdict => exact tidy.settle onTime
  | reap => exact tidy.reap

theorem run (tidy : s.Tidy) {calls : List Call} (punctual : s.punctual calls = true) :
    (s.run calls).Tidy := by
  induction calls generalizing s with
  | nil => exact tidy
  | cons c rest ih =>
    obtain ⟨onTime, later⟩ := Bool.and_eq_true_iff.mp punctual
    exact ih (tidy.step onTime) later

/-- A verdict in time falls on a task in processing, never on a finished one. -/
theorem kept (tidy : s.Tidy) {calls : List Call} (punctual : s.punctual calls = true) {r : TaskRow}
    (hr : r ∈ s.rows) (finished : r.status.isFinished = true) : r ∈ (s.run calls).rows := by
  induction calls generalizing s with
  | nil => exact hr
  | cons c rest ih =>
    obtain ⟨onTime, later⟩ := Bool.and_eq_true_iff.mp punctual
    refine ih (tidy.step onTime) later (mem_call tidy.keys hr finished ?_)
    rintro place verdict hold rfl held of
    have current : s.isCurrent hold = true := by simpa [inTime, held] using onTime
    have := (tidy.processing (List.mem_of_getElem? held) current hr of).1
    rw [this] at finished
    cases finished

end Workshop.Tidy

theorem punctual_append (before after : List Call) :
    s.punctual (before ++ after) = (s.punctual before && (s.run before).punctual after) := by
  induction before generalizing s with
  | nil => rfl
  | cons c rest ih => simp [Workshop.punctual, ih, Bool.and_assoc]

/-- **Finished tasks come back only through a late verdict.** Let a task be completed or failed after any
calls. It stays so until a failure falls on it that has attempts left, and no longer; the failure comes from a
claim that was granted before the task was finished; and no claim returns the task before that. While every
verdict comes within five minutes after its claim, there is no such failure: the row never changes again, and
no claim returns it. -/
theorem finished_until_late_failure {now : Instant} {rows : List TaskRow} (keys : (rows.map (·.id)).Nodup)
    (calls later : List Call) {r : TaskRow} (hr : r ∈ ((Workshop.opening now rows).run calls).rows)
    (finished : r.status.isFinished = true) :
    let s := (Workshop.opening now rows).run calls
    ((∀ n, (s.run (later.take n)).Finished r.id) ↔
      ∀ before c after, later = before ++ c :: after → ¬ (s.run before).Reopens r.id c) ∧
    (∀ queue t, (s.run later).claims queue = some t → t.id = r.id →
      ∃ before place error after hold, later = before ++ .settle place (.fail error) :: after ∧
        (s.run before).Reopens r.id (.settle place (.fail error)) ∧
        (s.run before).holds[place]? = some hold ∧ hold ∈ s.holds) ∧
    ((Workshop.opening now rows).punctual (calls ++ later) = true → r ∈ (s.run later).rows ∧
      ∀ queue t, (s.run later).claims queue = some t → t.id ≠ r.id) := by
  intro s
  have start := keys
  have keys : (s.rows.map (·.id)).Nodup := keys_run start calls
  have done : s.Finished r.id := ⟨r, hr, rfl, finished⟩
  refine ⟨⟨?_, ?_⟩, ?_, ?_⟩
  · rintro always before c after rfl reopens
    apply reopens_call (keys_run keys before) reopens
    have := always (before.length + 1)
    rwa [List.take_length_add_append, List.take_succ_cons, List.take_zero, run_append] at this
  · intro final
    rcases finished_or_reopened keys done later with always | ⟨before, c, after, is, -, reopens, -⟩
    · exact always
    · exact absurd reopens (final before c after is)
  · intro queue t claimed same
    rcases finished_or_reopened keys done later with always | ⟨before, c, after, rfl, -, reopens, held⟩
    · have still := always later.length
      rw [List.take_length] at still
      exact absurd same (not_claimed (keys_run keys later) still claimed)
    · obtain ⟨place, error, hold, x, rfl, here, of, -⟩ := id reopens
      exact ⟨before, place, error, after, hold, rfl, reopens, here,
        held hold (List.mem_of_getElem? here) of⟩
  · intro punctual
    rw [punctual_append] at punctual
    obtain ⟨before, after⟩ := Bool.and_eq_true_iff.mp punctual
    have tidy : s.Tidy := (Workshop.Tidy.opening now start).run before
    have kept := tidy.kept after hr finished
    exact ⟨kept, fun queue t => not_claimed (keys_run keys later) ⟨r, kept, rfl, finished⟩⟩

/-- A sweep is claimed, goes stale and is handed out again; the second worker completes it. -/
def handedOver : List Call := [.enqueue (.scan .expireService) (.ofNat 1), .claim .default, .wait ⟨301, 0⟩,
  .reap, .claim .default, .settle 1 .complete]

/-- The first worker comes to its end, and two seconds pass. -/
def lateFailure : List Call := [.settle 0 (.fail "provider: down"), .wait ⟨303, 0⟩]

/-- The sweep as the second worker leaves it. -/
def handedOverRow : TaskRow :=
  { newRow ⟨0, 0⟩ (.ofNat 1) (.scan .expireService) with status := .completed, updatedAt := ⟨301, 0⟩ }

theorem handedOver_rows : ((Workshop.opening ⟨0, 0⟩ []).run handedOver).rows = [handedOverRow] := rfl

theorem finished_until_late_failure_handedOver :
    handedOverRow ∈ ((Workshop.opening ⟨0, 0⟩ []).run handedOver).rows ∧
    ∃ before place error after hold, lateFailure = before ++ .settle place (.fail error) :: after ∧
      (((Workshop.opening ⟨0, 0⟩ []).run handedOver).run before).holds[place]? = some hold ∧
      hold ∈ ((Workshop.opening ⟨0, 0⟩ []).run handedOver).holds := by
  have here : handedOverRow ∈ ((Workshop.opening ⟨0, 0⟩ []).run handedOver).rows := by
    simp [handedOver_rows]
  obtain ⟨-, late, -⟩ := finished_until_late_failure (by decide) handedOver lateFailure here rfl
  obtain ⟨before, place, error, after, hold, is, -, held, granted⟩ := late .default _ rfl rfl
  exact ⟨here, before, place, error, after, hold, is, held, granted⟩

/-- A completed task is claimed a third time: the failure of the first worker has come after the success of
the second one. -/
theorem finished_task_claimed_again :
    ∃ r ∈ ((Workshop.opening ⟨0, 0⟩ []).run handedOver).rows, r.status = .completed ∧
      ∃ t, (((Workshop.opening ⟨0, 0⟩ []).run handedOver).run lateFailure).claims .default = some t ∧
        t.id = r.id :=
  ⟨handedOverRow, by simp [handedOver_rows], rfl, _, rfl, rfl⟩

end TaskQueue

end HostingBilling
