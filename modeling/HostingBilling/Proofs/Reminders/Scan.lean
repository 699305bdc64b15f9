import HostingBilling.Proofs.Rows
import HostingBilling.Proofs.Runs
import HostingBilling.Renewal

/-!
# One scan for reminders

A scan looks at the services in order of expiry. Whether a reminder went out today is looked up in the audit
trail, to which the scan itself adds rows as it goes along; but no row that it adds is about a service that is
still to come, so the scan tries what the trail that it found asks for.

Main statement: the equation of a scan, with the tries that it makes, the rows that they leave and the answer
that they come to.
-/

namespace HostingBilling

namespace Renewal

/-- One reminder that a scan tries to send. -/
structure Try where
  now : Instant
  service : ServiceRow
  daysLeft : Int
  sending : Sending

namespace Try

def failed (t : Try) : Bool := t.sending.failure?.isSome

def notice (t : Try) : Reminder := ⟨t.service.id, t.service.userId, t.daysLeft, t.now⟩

/-- What a scan reports of a try that failed. -/
def error? (t : Try) : Option String := t.sending.failure?.map (serviceError t.service.id)

/-- The row that a try leaves in the audit trail. -/
def row (t : Try) (id : Uuid) : AuditRow where
  id
  userId := some t.service.userId
  entityType := AuditEntry.entityType
  entityId := some t.service.id
  action := if t.failed then reminderFailedAction else reminderSentAction
  actor := AuditEntry.actor
  detail := (auditEntry t.service.id t.service.userId t.daysLeft t.sending).detail
  createdAt := t.now

end Try

/-- Where reminders go. -/
def target? (w : World) : Option ReminderTarget :=
  w.settings.webhookUrl.map fun url => ⟨url, w.settings.webhookToken, w.settings.timeoutSeconds⟩

/-- How a reminder goes when some others have been handed over in between. -/
def sendingAfter (o : Outside) (w : World) (others : Nat) (notice : Reminder) : Sending :=
  match target? w with
  | none => .auditOnly
  | some target => .webhook (o.deliver (w.notices.length + others) target notice)

def daysLeftAt (now : Instant) (r : ServiceRow) : Int :=
  (r.expiresAt.map fun due => wholeDaysLeft due now).getD 0

/-- The try for a service, after some others. -/
def tryAfter (o : Outside) (w : World) (others : Nat) (r : ServiceRow) : Try :=
  let daysLeft := daysLeftAt w.now r
  ⟨w.now, r, daysLeft, sendingAfter o w others ⟨r.id, r.userId, daysLeft, w.now⟩⟩

/-- What a try hands to the webhook. -/
def handed (w : World) (t : Try) : List (ReminderTarget × Reminder) :=
  (target? w).toList.map fun target => (target, t.notice)

/-- The world that a try leaves. -/
def tried (w : World) (t : Try) : World :=
  { w with
    nextId := w.nextId + 1
    notices := w.notices ++ handed w t
    store := { w.store with audits := w.store.audits ++ [t.row (.ofNat w.nextId)] } }

/-- A reminder of this service went out today. -/
def isRepeated (w : World) (r : ServiceRow) : Bool :=
  w.store.reminderSent w.now r.id (daysLeftAt w.now r)

/-- The services that get a reminder today, whether or not it went out already. -/
def due (w : World) (rows : List ServiceRow) : List ServiceRow :=
  rows.filter fun r => remindsOn (daysLeftAt w.now r)

def repeats (w : World) (rows : List ServiceRow) : List ServiceRow := (due w rows).filter (isRepeated w)

/-- The tries of a scan over some services. -/
def tries (o : Outside) (w : World) (rows : List ServiceRow) : List Try :=
  ((due w rows).filter fun r => !isRepeated w r).mapIdx (tryAfter o w)

variable {o : Outside} {w : World} {r : ServiceRow}

/-! ## One try -/

theorem deliver_run (o : Outside) (notice : Reminder) (w : World) : (deliver o notice).run w =
    (.ok (sendingAfter o w 0 notice),
      { w with notices := w.notices ++ (target? w).toList.map fun target => (target, notice) }) := by
  unfold deliver sendingAfter target?
  rw [Action.run_bind_of_ok (show (get : Action World).run w = (.ok w, w) from rfl)]
  cases w.settings.webhookUrl with
  | none => simp
  | some url => rfl

theorem insert_run (calm : w.faults = []) (e : AuditEntry) : (Audits.insert e).run w =
    (.ok (), { w with
      nextId := w.nextId + 1
      store := w.store.insertAudit w.now (.ofNat w.nextId) e }) := by
  rw [Audits.insert, Action.run_bind_of_ok (Action.run_freshId w), run_change (by exact calm)]

theorem send_run (calm : w.faults = []) (o : Outside) (r : ServiceRow) :
    (send o r.id r.userId (daysLeftAt w.now r)).run w =
      ((tryAfter o w 0 r).sending.failure?.elim (.ok ()) .error, tried w (tryAfter o w 0 r)) := by
  rw [send, Action.run_bind_of_ok (Action.run_now w), Action.run_bind_of_ok (deliver_run _ _ w),
    Action.run_bind_of_ok (insert_run (by exact calm) _)]
  simp only [tryAfter]
  cases (sendingAfter o w 0 ⟨r.id, r.userId, daysLeftAt w.now r, w.now⟩).failure? <;> rfl

theorem remindService_run (calm : w.faults = []) (o : Outside) (r : ServiceRow) (report : Report) :
    (remindService o r (daysLeftAt w.now r) report).run w =
      if isRepeated w r then (.ok ({ report with deduplicated := report.deduplicated + 1 }, []), w)
      else
        let t := tryAfter o w 0 r
        (.ok (if t.failed then report else { report with sent := report.sent + 1 }, t.error?.toList),
          tried w t) := by
  have asks : (Audits.remindedToday r.id (daysLeftAt w.now r)).attempt.run w =
      (.ok (.ok (isRepeated w r)), w) := by
    rw [Action.run_attempt, Audits.remindedToday, run_ask calm]
    rfl
  rw [remindService, Action.run_bind_of_ok asks]
  cases isRepeated w r with
  | true => rfl
  | false =>
    have sends : (send o r.id r.userId (daysLeftAt w.now r)).attempt.run w =
        (.ok ((tryAfter o w 0 r).sending.failure?.elim (.ok ()) .error), tried w (tryAfter o w 0 r)) := by
      rw [Action.run_attempt, send_run calm]
    rw [if_neg (by simp)]
    dsimp only
    rw [Action.run_bind_of_ok sends]
    rcases Option.eq_none_or_eq_some (tryAfter o w 0 r).sending.failure? with none | ⟨e, failed⟩
    · simp only [Try.failed, Try.error?, none]
      rfl
    · simp only [Try.failed, Try.error?, failed]
      rfl

/-! ## All tries of a scan -/

theorem calm_tried (calm : w.faults = []) (t : Try) : (tried w t).faults = [] := calm

/-- A try counts as one more of the tries before the others. -/
theorem tryAfter_tried (o : Outside) (w : World) (t : Try) (others : Nat) (r : ServiceRow) :
    tryAfter o (tried w t) others r = tryAfter o w (others + 1) r := by
  have target : target? (tried w t) = target? w := rfl
  have now : (tried w t).now = w.now := rfl
  simp only [tryAfter, sendingAfter, target, now]
  cases here : target? w with
  | none => rfl
  | some target =>
    have count : (tried w t).notices.length + others = w.notices.length + (others + 1) := by
      simp [tried, handed, here]
      omega
    simp only [count]

/-- The row of a try is about its own service. -/
theorem isRepeated_tried {t : Try} (other : r.id ≠ t.service.id) : isRepeated (tried w t) r = isRepeated w r := by
  simp only [isRepeated, Store.reminderSent, tried, List.any_append]
  simp [Store.isReminderOfDay, Try.row, other.symm]

theorem due_tried (w : World) (t : Try) (rows : List ServiceRow) : due (tried w t) rows = due w rows := rfl

/-- A try for one service changes nothing for the others. -/
theorem repeats_tried {t : Try} {rows : List ServiceRow} (others : ∀ r ∈ rows, r.id ≠ t.service.id) :
    repeats (tried w t) rows = repeats w rows := by
  apply List.filter_congr
  intro r hr
  exact isRepeated_tried (others r (List.mem_of_mem_filter hr))

theorem tries_tried {t : Try} {rows : List ServiceRow} (others : ∀ r ∈ rows, r.id ≠ t.service.id) :
    tries o (tried w t) rows =
      ((due w rows).filter fun r => !isRepeated w r).mapIdx fun k => tryAfter o w (k + 1) := by
  have same : ((due w rows).filter fun r => !isRepeated (tried w t) r) =
      (due w rows).filter fun r => !isRepeated w r := by
    apply List.filter_congr
    intro r hr
    rw [isRepeated_tried (others r (List.mem_of_mem_filter hr))]
  simp only [tries, due_tried, same, funext₂ fun k r => tryAfter_tried o w t k r]

/-- A service that gets no reminder today is passed over. -/
theorem due_cons_of_not (reminds : remindsOn (daysLeftAt w.now r) = false) (rest : List ServiceRow) :
    due w (r :: rest) = due w rest := by
  simp [due, reminds]

theorem due_cons (reminds : remindsOn (daysLeftAt w.now r) = true) (rest : List ServiceRow) :
    due w (r :: rest) = r :: due w rest := by
  simp [due, reminds]

theorem tries_cons_of_repeated (o : Outside) (reminds : remindsOn (daysLeftAt w.now r) = true)
    (repeated : isRepeated w r = true) (rest : List ServiceRow) :
    tries o w (r :: rest) = tries o w rest ∧ repeats w (r :: rest) = r :: repeats w rest := by
  constructor
  · simp [tries, due_cons reminds, repeated]
  · simp [repeats, due_cons reminds, repeated]

/-- The first try leaves the world for those that follow. -/
theorem tries_cons (o : Outside) (reminds : remindsOn (daysLeftAt w.now r) = true)
    (repeated : isRepeated w r = false) {rest : List ServiceRow} (others : ∀ x ∈ rest, x.id ≠ r.id) :
    tries o w (r :: rest) = tryAfter o w 0 r :: tries o (tried w (tryAfter o w 0 r)) rest ∧
      repeats w (r :: rest) = repeats (tried w (tryAfter o w 0 r)) rest := by
  constructor
  · rw [tries_tried others, tries, due_cons reminds]
    simp [repeated]
  · rw [repeats_tried others]
    simp [repeats, due_cons reminds, repeated]

theorem remindEach_cons (o : Outside) (report : Report) (rest : List ServiceRow) :
    (remindEach o report (r :: rest)).run w =
      (if remindsOn (daysLeftAt w.now r) then
        remindService o r (daysLeftAt w.now r) report >>= fun x => remindEach o x.1 rest >>= fun y =>
          pure (y.1, x.2 ++ y.2)
      else remindEach o report rest).run w := by
  rw [remindEach, Action.run_bind_of_ok (Action.run_now w)]
  change (if !remindsOn (daysLeftAt w.now r) then _ else _ : Action _).run w = _
  cases remindsOn (daysLeftAt w.now r) <;> rfl

/-- A scan over some services makes its tries, and each leaves a row. -/
theorem remindEach_run (calm : w.faults = []) (o : Outside) {rows : List ServiceRow}
    (distinct : (rows.map (·.id)).Nodup) (report : Report) : ∃ nextId audits,
    List.Forall₂ (fun (t : Try) a => a = t.row a.id) (tries o w rows) audits ∧
      (remindEach o report rows).run w =
        (.ok (⟨report.sent + (tries o w rows).countP (!·.failed),
            report.deduplicated + (repeats w rows).length, report.skipped⟩,
          (tries o w rows).filterMap Try.error?),
        { w with
          nextId := nextId
          notices := w.notices ++ (tries o w rows).flatMap (handed w)
          store := { w.store with audits := w.store.audits ++ audits } }) := by
  induction rows generalizing w report with
  | nil => exact ⟨w.nextId, [], .nil, by simp [remindEach, tries, due, repeats]⟩
  | cons r rest ih =>
    obtain ⟨fresh, distinct⟩ := List.nodup_cons.mp distinct
    have others (x : ServiceRow) (hx : x ∈ rest) : x.id ≠ r.id := fun same =>
      fresh (List.mem_map.mpr ⟨x, hx, same⟩)
    rw [remindEach_cons]
    cases reminds : remindsOn (daysLeftAt w.now r) with
    | false =>
      simp only [tries, repeats, due_cons_of_not reminds]
      exact ih calm distinct report
    | true =>
      have here := remindService_run calm o r report
      rw [if_pos rfl]
      cases repeated : isRepeated w r with
      | true =>
        obtain ⟨same, more⟩ := tries_cons_of_repeated o reminds repeated rest
        obtain ⟨nextId, audits, rows, ran⟩ := ih calm distinct
          { report with deduplicated := report.deduplicated + 1 }
        refine ⟨nextId, audits, same ▸ rows, ?_⟩
        rw [repeated] at here
        rw [Action.run_bind_of_ok here, Action.run_bind_of_ok ran, same, more]
        simp only [List.length_cons, Nat.add_assoc, Nat.add_comm 1]
        rfl
      | false =>
        obtain ⟨first, same⟩ := tries_cons o reminds repeated others
        -- only how the try went matters from here on
        generalize tryAfter o w 0 r = t at here first same
        obtain ⟨nextId, audits, rows, ran⟩ := ih (calm_tried calm t) distinct
          (if t.failed then report else { report with sent := report.sent + 1 })
        refine ⟨nextId, t.row (.ofNat w.nextId) :: audits, first ▸ .cons rfl rows, ?_⟩
        rw [repeated, if_neg (by simp)] at here
        rw [Action.run_bind_of_ok here, Action.run_bind_of_ok ran, Action.run_pure, first, same]
        have handing : handed (tried w t) = handed w := rfl
        generalize tries o (tried w t) rest = more
        have errors : (t :: more).filterMap Try.error? = t.error?.toList ++ more.filterMap Try.error? := by
          cases error : t.error? <;> simp [error]
        rw [errors, handing, List.flatMap_cons, List.countP_cons]
        cases t.failed <;> simp [tried, Nat.add_assoc, Nat.add_comm 1]

/-! ## The scan -/

/-- The tries of a scan over all services. -/
def scanTries (o : Outside) (w : World) : List Try := tries o w (w.store.expiringServices w.now windowDays)

def scanRepeats (w : World) : List ServiceRow := repeats w (w.store.expiringServices w.now windowDays)

/-- What a scan answers after its tries. -/
def scanAnswer (tries : List Try) (repeated : Nat) : Except Failure Report :=
  if (tries.filterMap Try.error?).isEmpty then .ok ⟨tries.length, repeated, false⟩
  else .error (.several (tries.filterMap Try.error?))

theorem perm_expiringServices (now : Instant) (days : Int) (s : Store) :
    (s.expiringServices now days).Perm (s.services.filter (Store.isExpiring now days)) := perm_sortRows _ _

theorem distinct_expiring (distinct : (w.store.services.map (·.id)).Nodup) :
    ((w.store.expiringServices w.now windowDays).map (·.id)).Nodup :=
  ((perm_expiringServices _ _ _).map _).nodup_iff.mpr
    (distinct.sublist (List.filter_sublist.map _))

/-- Without a failure all tries count as sent. -/
theorem countP_sent {tries : List Try} (none : (tries.filterMap Try.error?).isEmpty = true) :
    tries.countP (!·.failed) = tries.length := by
  apply List.countP_eq_length.mpr
  intro t ht
  have := List.filterMap_eq_nil_iff.mp (List.isEmpty_iff.mp none) t ht
  simpa [Try.error?, Try.failed] using this

theorem remindAll_run (calm : w.faults = []) (free : TaskKind.renewalReminder.name ∉ w.leases) (o : Outside)
    (distinct : (w.store.services.map (·.id)).Nodup) : ∃ nextId audits,
    List.Forall₂ (fun (t : Try) a => a = t.row a.id) (scanTries o w) audits ∧
      (remindAll o).run w = (scanAnswer (scanTries o w) (scanRepeats w).length, { w with
        nextId := nextId
        notices := w.notices ++ (scanTries o w).flatMap (handed w)
        store := { w.store with audits := w.store.audits ++ audits } }) := by
  obtain ⟨nextId, audits, rows, ran⟩ := remindEach_run calm o (distinct_expiring distinct) ⟨0, 0, false⟩
  refine ⟨nextId, audits, rows, ?_⟩
  have looks : (Services.expiring windowDays).run w =
      (.ok (w.store.expiringServices w.now windowDays), w) := run_ask calm _ _
  rw [remindAll, run_withLease calm free, Action.run_bind_of_ok looks, Action.run_bind_of_ok ran]
  dsimp only [scanAnswer, scanTries, scanRepeats]
  cases none : ((tries o w (w.store.expiringServices w.now windowDays)).filterMap Try.error?).isEmpty with
  | true =>
    rw [countP_sent none]
    simp
  | false => simp

end Renewal

end HostingBilling
