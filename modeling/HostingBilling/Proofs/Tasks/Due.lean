import HostingBilling.Proofs.InstantOrder
import HostingBilling.Proofs.Rows
import HostingBilling.TaskQueue

/-!
# The task that is due

A claim takes a pending task of its queue whose time has come, one that was scheduled before no other such task,
and changes no other row.
-/

namespace HostingBilling

def TaskStatus.isFinished : TaskStatus → Bool
  | .completed => true
  | .failed => true
  | _ => false

namespace TaskQueue

variable {now : Instant} {queue : QueueName} {rows : List TaskRow} {t : TaskRow}

theorem isDue_iff : isDue now queue t = true ↔ t.status = .pending ∧ t.queue = queue ∧ t.scheduledAt ≤ now := by
  simp [isDue, and_assoc]

/-- The task that was scheduled first, of the best so far and another one. -/
def earlier (best : Option TaskRow) (r : TaskRow) : Option TaskRow :=
  match best with
  | none => some r
  | some b => if r.scheduledAt < b.scheduledAt then some r else some b

theorem nextDue_eq (now : Instant) (queue : QueueName) (rows : List TaskRow) :
    nextDue now queue rows = (rows.filter (isDue now queue)).foldl earlier none := rfl

theorem earlier_choice (best : Option TaskRow) (r : TaskRow) : earlier best r = some r ∨ earlier best r = best := by
  cases best with
  | none => exact .inl rfl
  | some b =>
    rw [earlier]
    split
    · exact .inl rfl
    · exact .inr rfl

theorem nextDue_some (h : nextDue now queue rows = some t) : t ∈ rows ∧ isDue now queue t = true := by
  rw [nextDue_eq] at h
  rcases mem_of_foldl_choice earlier_choice h with among | none
  · exact List.mem_filter.mp among
  · cases none

/-- Neither of two was scheduled before the one that is kept. -/
theorem earlier_least (best : Option TaskRow) (r : TaskRow) : ∃ b, earlier best r = some b ∧
    b.scheduledAt ≤ r.scheduledAt ∧ ∀ x, best = some x → b.scheduledAt ≤ x.scheduledAt := by
  cases best with
  | none => exact ⟨r, rfl, le_refl _, fun x is => nomatch is⟩
  | some b =>
    by_cases sooner : r.scheduledAt < b.scheduledAt
    · refine ⟨r, if_pos sooner, le_refl _, fun x is => ?_⟩
      cases is
      exact le_of_lt sooner
    · refine ⟨b, if_neg sooner, not_lt.mp sooner, fun x is => ?_⟩
      cases is
      exact le_refl _

theorem foldl_earlier_least {best : Option TaskRow} (kept : rows.foldl earlier best = some t) :
    (∀ r ∈ rows, t.scheduledAt ≤ r.scheduledAt) ∧ ∀ x, best = some x → t.scheduledAt ≤ x.scheduledAt := by
  induction rows generalizing best with
  | nil =>
    refine ⟨by simp, fun x is => ?_⟩
    cases is.symm.trans kept
    exact le_refl _
  | cons r rest ih =>
    obtain ⟨others, before⟩ := ih kept
    obtain ⟨b, is, here, past⟩ := earlier_least best r
    have first := before b is
    exact ⟨List.forall_mem_cons.mpr ⟨le_trans first here, others⟩, fun x was => le_trans first (past x was)⟩

theorem nextDue_least (h : nextDue now queue rows = some t) :
    ∀ r ∈ rows, isDue now queue r = true → t.scheduledAt ≤ r.scheduledAt := by
  intro r hr due
  rw [nextDue_eq] at h
  exact (foldl_earlier_least h).1 r (List.mem_filter.mpr ⟨hr, due⟩)

theorem foldl_earlier_isSome (b : TaskRow) : (rows.foldl earlier (some b)).isSome = true := by
  induction rows generalizing b with
  | nil => rfl
  | cons r rest ih =>
    obtain ⟨b', is, -⟩ := earlier_least (some b) r
    rw [List.foldl_cons, is]
    exact ih b'

/-- There is a next task as long as one is due. -/
theorem nextDue_isSome (now : Instant) (queue : QueueName) (rows : List TaskRow) :
    (nextDue now queue rows).isSome = rows.any (isDue now queue) := by
  rw [nextDue_eq, Bool.eq_iff_iff, List.any_eq_true]
  cases among : rows.filter (isDue now queue) with
  | nil => simpa [List.filter_eq_nil_iff] using among
  | cons r rest =>
    have hr : r ∈ rows.filter (isDue now queue) := among ▸ List.mem_cons_self
    exact iff_of_true (foldl_earlier_isSome r) ⟨r, List.mem_filter.mp hr⟩

/-- The row of a task that has been claimed. -/
def inProcessing (now : Instant) (r : TaskRow) : TaskRow := { r with status := .processing, updatedAt := now }

@[simp] theorem inProcessing_id (now : Instant) (r : TaskRow) : (inProcessing now r).id = r.id := rfl

theorem claimRow_some (h : (claimRow now queue rows).1 = some t) : t ∈ rows ∧ isDue now queue t = true ∧
    (claimRow now queue rows).2 = changeRows (fun r => r.id == t.id) (inProcessing now) rows := by
  unfold claimRow at h ⊢
  cases found : nextDue now queue rows with
  | none =>
    rw [found] at h
    cases h
  | some x =>
    rw [found] at h
    cases h
    obtain ⟨hx, due⟩ := nextDue_some found
    exact ⟨hx, due, rfl⟩

theorem claimRow_none (h : (claimRow now queue rows).1 = none) : (claimRow now queue rows).2 = rows := by
  unfold claimRow at h ⊢
  cases found : nextDue now queue rows with
  | none => rfl
  | some x =>
    rw [found] at h
    cases h

end TaskQueue

end HostingBilling
