import HostingBilling.Proofs.InstantOrder
import HostingBilling.Proofs.Reminders.Scan

/-!
# Scans one after another

The scans of a run share the audit trail. Between two of them everything else may change: the time, the
settings, what the webhook answers, the services. What a scan tries is decided by the trail that it finds, and
every try that did not fail keeps later scans of its day from the same reminder.

Main statement: a run sends no reminder twice on a day; each scan tries exactly the services that are due and
not reminded yet, records every try, and answers with the tries that failed.
-/

namespace HostingBilling

/-- The row says that the reminder of so many days for a service went out on a day. -/
structure AuditRow.Tells (a : AuditRow) (serviceId : Uuid) (day daysLeft : Int) : Prop where
  action : a.action = "renewal_reminder_sent"
  entityType : a.entityType = "service"
  entityId : a.entityId = some serviceId
  createdAt : a.createdAt.dayNumber = day
  daysLeft : a.detail.member? "days_left" = some (.int daysLeft)

namespace Renewal

/-- The reminders of a trail hold their days as numbers. -/
def Readable (audits : List AuditRow) : Prop :=
  ∀ a ∈ audits, a.action = reminderSentAction → ∃ n, a.detail.member? "days_left" = some (.int n)

/-- A reminder of so many days is due for a service: it is active, expires within eight days, and the days
that are left are among those of reminders. -/
structure IsDue (now : Instant) (r : ServiceRow) (daysLeft : Int) : Prop where
  active : r.status = .active
  expires : ∃ due, r.expiresAt = some due ∧ now < due ∧ due ≤ now.addDays 8 ∧ daysLeft = wholeDaysLeft due now
  among : daysLeft = 7 ∨ daysLeft = 3 ∨ daysLeft = 1

/-- What a try leaves in the trail. -/
structure Try.Leaves (t : Try) (a : AuditRow) : Prop where
  action : a.action = if t.failed then "renewal_reminder_failed" else "renewal_reminder_sent"
  entityType : a.entityType = "service"
  entityId : a.entityId = some t.service.id
  userId : a.userId = some t.service.userId
  createdAt : a.createdAt = t.now
  daysLeft : a.detail.member? "days_left" = some (.int t.daysLeft)

/-- The try is one of the reminder of so many days for a service on a day. -/
def Try.IsOf (t : Try) (serviceId : Uuid) (day daysLeft : Int) : Prop :=
  t.service.id = serviceId ∧ t.now.dayNumber = day ∧ t.daysLeft = daysLeft

/-- A scan, with the world in which it runs but for the audit trail. -/
structure Scan where
  outside : Outside
  world : World

namespace Scan

def finds (s : Scan) (audits : List AuditRow) : World :=
  { s.world with store := { s.world.store with audits := audits } }

def run (s : Scan) (audits : List AuditRow) : Except Failure Report × World :=
  (remindAll s.outside).run (s.finds audits)

/-- The tries of the scan. -/
def tries (s : Scan) (audits : List AuditRow) : List Try := scanTries s.outside (s.finds audits)

/-- No fault strikes, no other scan is running, and services have keys of their own. -/
structure Regular (s : Scan) : Prop where
  calm : s.world.faults = []
  free : TaskKind.renewalReminder.name ∉ s.world.leases
  distinct : (s.world.store.services.map (·.id)).Nodup

/-- What a scan does with the trail that it finds. -/
structure Reminds (s : Scan) (found : List AuditRow) : Prop where
  /-- It tries the services that are due and were not reminded today, each of them once. -/
  exactly : ∀ r n, (∃ t ∈ s.tries found, t.service = r ∧ t.daysLeft = n) ↔
    r ∈ s.world.store.services ∧ IsDue s.world.now r n ∧ ∀ a ∈ found, ¬ a.Tells r.id s.world.now.dayNumber n
  once : ((s.tries found).map (·.service.id)).Nodup
  /-- Each try goes to the webhook of the settings, if there is one, whatever became of those before. -/
  sends : ∀ k t, (s.tries found)[k]? = some t →
    t.now = s.world.now ∧ t.sending = sendingAfter s.outside s.world k t.notice
  hands : (s.run found).2.notices = s.world.notices ++ (s.tries found).flatMap (handed s.world)
  /-- Each try leaves one row, and nothing else is written. -/
  records : ∃ rows, (s.run found).2.store = { s.world.store with audits := found ++ rows } ∧
    List.Forall₂ Try.Leaves (s.tries found) rows
  /-- Without a failure it counts its tries, and the services that are due and were reminded today. -/
  counts : (∀ t ∈ s.tries found, t.failed = false) → ∃ repeated : List ServiceRow, repeated.Nodup ∧
    (∀ r, r ∈ repeated ↔ r ∈ s.world.store.services ∧ ∃ n, IsDue s.world.now r n ∧
      ∃ a ∈ found, a.Tells r.id s.world.now.dayNumber n) ∧
    (s.run found).1 = .ok ⟨(s.tries found).length, repeated.length, false⟩
  /-- Otherwise it reports one error for each try that failed. -/
  reports : (∃ t ∈ s.tries found, t.failed = true) →
    (s.run found).1 = .error (.several ((s.tries found).filterMap Try.error?))

end Scan

variable {o : Outside} {w : World} {r : ServiceRow} {audits : List AuditRow} {s : Scan}

/-! ## What a scan looks at -/

theorem isReminderOfDay_iff {a : AuditRow}
    (readable : a.action = reminderSentAction → ∃ n, a.detail.member? "days_left" = some (.int n))
    (now : Instant) (id : Uuid) (n : Int) :
    Store.isReminderOfDay now id n a = true ↔ a.Tells id now.dayNumber n := by
  constructor
  · intro is
    simp only [Store.isReminderOfDay, Bool.and_eq_true, beq_iff_eq] at is
    obtain ⟨⟨⟨⟨action, entityType⟩, entityId⟩, createdAt⟩, daysLeft⟩ := is
    obtain ⟨m, member⟩ := readable action
    rw [member] at daysLeft
    exact ⟨action, entityType, entityId, createdAt, by rw [member, beq_iff_eq.mp daysLeft]⟩
  · intro tells
    simp [Store.isReminderOfDay, tells.action, tells.entityType, tells.entityId, tells.createdAt,
      tells.daysLeft, reminderSentAction, AuditEntry.entityType]

theorem isRepeated_iff (readable : Readable w.store.audits) (r : ServiceRow) : isRepeated w r = true ↔
    ∃ a ∈ w.store.audits, a.Tells r.id w.now.dayNumber (daysLeftAt w.now r) := by
  rw [isRepeated, Store.reminderSent, List.any_eq_true]
  exact exists_congr fun a => and_congr_right fun ha => isReminderOfDay_iff (readable a ha) _ _ _

theorem mem_due (w : World) (r : ServiceRow) (n : Int) :
    r ∈ due w (w.store.expiringServices w.now windowDays) ∧ daysLeftAt w.now r = n ↔
      r ∈ w.store.services ∧ IsDue w.now r n := by
  simp only [due, List.mem_filter, (perm_expiringServices _ _ _).mem_iff, Store.isExpiring, Bool.and_eq_true,
    beq_iff_eq, Option.any_eq_true, decide_eq_true_eq, remindsOn, List.contains_iff_mem]
  constructor
  · rintro ⟨⟨⟨here, active, due, expires, later, soon⟩, among⟩, rfl⟩
    refine ⟨here, active, ⟨due, expires, later, soon, by simp [daysLeftAt, expires]⟩, ?_⟩
    simpa [reminderDays] using among
  · rintro ⟨here, active, ⟨due, expires, later, soon, rfl⟩, among⟩
    have left : daysLeftAt w.now r = wholeDaysLeft due w.now := by simp [daysLeftAt, expires]
    refine ⟨⟨⟨here, active, due, expires, later, soon⟩, ?_⟩, left⟩
    simpa [left, reminderDays] using among

theorem services_tries (o : Outside) (w : World) (rows : List ServiceRow) :
    (tries o w rows).map (·.service) = (due w rows).filter fun r => !isRepeated w r :=
  List.ext_getElem (by simp [tries]) (by simp [tries, tryAfter])

theorem of_mem_tries {rows : List ServiceRow} {t : Try} (ht : t ∈ tries o w rows) :
    t.now = w.now ∧ t.daysLeft = daysLeftAt w.now t.service := by
  obtain ⟨k, _, rfl⟩ := List.mem_mapIdx.mp ht
  exact ⟨rfl, rfl⟩

/-- A scan tries what is due and was not reminded today. -/
theorem exists_try (o : Outside) (readable : Readable w.store.audits) (r : ServiceRow) (n : Int) :
    (∃ t ∈ scanTries o w, t.service = r ∧ t.daysLeft = n) ↔ r ∈ w.store.services ∧ IsDue w.now r n ∧
      ∀ a ∈ w.store.audits, ¬ a.Tells r.id w.now.dayNumber n := by
  have tried : (∃ t ∈ scanTries o w, t.service = r ∧ t.daysLeft = n) ↔
      r ∈ (scanTries o w).map (·.service) ∧ daysLeftAt w.now r = n := by
    simp only [List.mem_map]
    constructor
    · rintro ⟨t, ht, rfl, rfl⟩
      exact ⟨⟨t, ht, rfl⟩, (of_mem_tries ht).2.symm⟩
    · rintro ⟨⟨t, ht, rfl⟩, rfl⟩
      exact ⟨t, ht, rfl, (of_mem_tries ht).2⟩
  rw [tried, scanTries, services_tries, List.mem_filter, Bool.not_eq_true', ← Bool.not_eq_true,
    isRepeated_iff readable, ← and_assoc, ← mem_due]
  constructor
  · rintro ⟨⟨looks, fresh⟩, rfl⟩
    exact ⟨⟨looks, rfl⟩, fun a ha tells => fresh ⟨a, ha, tells⟩⟩
  · rintro ⟨⟨looks, rfl⟩, fresh⟩
    exact ⟨⟨looks, fun ⟨a, ha, tells⟩ => fresh a ha tells⟩, rfl⟩

theorem mem_scanRepeats (readable : Readable w.store.audits) (r : ServiceRow) :
    r ∈ scanRepeats w ↔ r ∈ w.store.services ∧ ∃ n, IsDue w.now r n ∧
      ∃ a ∈ w.store.audits, a.Tells r.id w.now.dayNumber n := by
  rw [scanRepeats, repeats, List.mem_filter, isRepeated_iff readable]
  constructor
  · rintro ⟨looks, tells⟩
    obtain ⟨here, is⟩ := (mem_due w r _).mp ⟨looks, rfl⟩
    exact ⟨here, _, is, tells⟩
  · rintro ⟨here, n, is, tells⟩
    obtain ⟨looks, rfl⟩ := (mem_due w r n).mpr ⟨here, is⟩
    exact ⟨looks, tells⟩

theorem distinct_tries (o : Outside) (distinct : (w.store.services.map (·.id)).Nodup) :
    ((scanTries o w).map (·.service.id)).Nodup := by
  have ids : (scanTries o w).map (·.service.id) = ((scanTries o w).map (·.service)).map (·.id) := by simp
  rw [ids, scanTries, services_tries]
  exact (distinct_expiring distinct).sublist ((List.filter_sublist.trans List.filter_sublist).map _)

theorem leaves_row (t : Try) (id : Uuid) : t.Leaves (t.row id) := ⟨rfl, rfl, rfl, rfl, rfl, rfl⟩

theorem distinct_scanRepeats (distinct : (w.store.services.map (·.id)).Nodup) : (scanRepeats w).Nodup :=
  ((distinct_expiring distinct).of_map).sublist (List.filter_sublist.trans List.filter_sublist)

/-! ## What a scan does -/

theorem errors_isEmpty_iff (tries : List Try) :
    (tries.filterMap Try.error?).isEmpty = true ↔ ∀ t ∈ tries, t.failed = false := by
  simp [Try.error?, Try.failed]

namespace Scan

theorem reminds (regular : s.Regular) (readable : Readable audits) : s.Reminds audits := by
  obtain ⟨nextId, rows, leave, ran⟩ := remindAll_run (w := s.finds audits) regular.calm regular.free s.outside
    regular.distinct
  have answers : (s.run audits).1 = scanAnswer (s.tries audits) (scanRepeats (s.finds audits)).length := by
    rw [run, ran]
    rfl
  constructor
  · exact exists_try s.outside (w := s.finds audits) readable
  · exact distinct_tries s.outside (w := s.finds audits) regular.distinct
  · intro k t here
    rw [tries, scanTries, Renewal.tries, List.getElem?_mapIdx] at here
    obtain ⟨r, -, rfl⟩ := Option.map_eq_some_iff.mp here
    exact ⟨rfl, rfl⟩
  · rw [run, ran]
    rfl
  · refine ⟨rows, ?_, leave.imp fun t a is => is ▸ leaves_row t a.id⟩
    rw [run, ran]
    rfl
  · intro delivered
    refine ⟨scanRepeats (s.finds audits), distinct_scanRepeats regular.distinct, ?_, ?_⟩
    · exact mem_scanRepeats (w := s.finds audits) readable
    · rw [answers, scanAnswer, if_pos ((errors_isEmpty_iff _).mpr delivered)]
  · rintro ⟨t, ht, failed⟩
    have errors : ¬ ((s.tries audits).filterMap Try.error?).isEmpty = true := by
      rw [errors_isEmpty_iff]
      intro delivered
      rw [delivered t ht] at failed
      cases failed
    rw [answers, scanAnswer, if_neg errors]

end Scan

/-! ## Runs -/

/-- The audit trail after some scans. -/
def trail : List Scan → List AuditRow → List AuditRow
  | [], audits => audits
  | s :: rest, audits => trail rest (s.run audits).2.store.audits

/-- The tries of some scans, in order. -/
def runTries : List Scan → List AuditRow → List Try
  | [], _ => []
  | s :: rest, audits => s.tries audits ++ runTries rest (s.run audits).2.store.audits

theorem trail_append (before after : List Scan) (audits : List AuditRow) :
    trail (before ++ after) audits = trail after (trail before audits) := by
  induction before generalizing audits with
  | nil => rfl
  | cons s rest ih => exact ih _

/-- A row of the trail tells of a reminder when the try that left it is of that reminder and did not fail. -/
theorem Try.Leaves.tells_iff {t : Try} {a : AuditRow} (h : t.Leaves a) (id : Uuid) (day n : Int) :
    a.Tells id day n ↔ t.failed = false ∧ t.IsOf id day n := by
  constructor
  · intro tells
    have action := h.action.symm.trans tells.action
    have member := h.daysLeft.symm.trans tells.daysLeft
    refine ⟨?_, ?_, ?_, ?_⟩
    · cases failed : t.failed with
      | false => rfl
      | true =>
        rw [failed, if_pos rfl] at action
        exact absurd action (by decide)
    · exact Option.some.inj (h.entityId.symm.trans tells.entityId)
    · rw [← h.createdAt, tells.createdAt]
    · cases member
      rfl
  · rintro ⟨sent, rfl, rfl, rfl⟩
    exact ⟨by rw [h.action, sent]; rfl, h.entityType, h.entityId, by rw [h.createdAt], h.daysLeft⟩

theorem readable_leaves {rows : List AuditRow} {tried : List Try} (readable : Readable audits)
    (leave : List.Forall₂ Try.Leaves tried rows) : Readable (audits ++ rows) := by
  intro a ha action
  rcases List.mem_append.mp ha with old | new
  · exact readable a old action
  · obtain ⟨t, -, left⟩ := exists_left_of_forall₂ leave new
    exact ⟨_, left.daysLeft⟩

/-- A run adds one row for each try. -/
theorem trail_grows {scans : List Scan} (regular : ∀ s ∈ scans, s.Regular) (readable : Readable audits) :
    ∃ rows, trail scans audits = audits ++ rows ∧ List.Forall₂ Try.Leaves (runTries scans audits) rows ∧
      Readable (trail scans audits) := by
  induction scans generalizing audits with
  | nil => exact ⟨[], (List.append_nil _).symm, .nil, readable⟩
  | cons s rest ih =>
    obtain ⟨here, later⟩ := List.forall_mem_cons.mp regular
    obtain ⟨rows, left, leave⟩ := (s.reminds here readable).records
    have left : (s.run audits).2.store.audits = audits ++ rows := by rw [left]
    obtain ⟨more, grows, leave', readable'⟩ := ih later (readable_leaves readable leave)
    rw [trail, runTries, left]
    exact ⟨rows ++ more, by rw [grows, List.append_assoc], List.rel_append leave leave', readable'⟩

/-- What the trail tells of is not tried any more. -/
theorem not_tells_of_try {scans : List Scan} (regular : ∀ s ∈ scans, s.Regular) (readable : Readable audits)
    {t : Try} (ht : t ∈ runTries scans audits) {id : Uuid} {day n : Int} (is : t.IsOf id day n) :
    ∀ a ∈ audits, ¬ a.Tells id day n := by
  induction scans generalizing audits with
  | nil => cases ht
  | cons s rest ih =>
    obtain ⟨here, later⟩ := List.forall_mem_cons.mp regular
    have reminds := s.reminds here readable
    rcases List.mem_append.mp ht with now | after
    · obtain ⟨rfl, rfl, rfl⟩ := is
      have clock : t.now = s.world.now := (of_mem_tries now).1
      exact clock ▸ ((reminds.exactly t.service t.daysLeft).mp ⟨t, now, rfl, rfl⟩).2.2
    · obtain ⟨rows, left, leave⟩ := reminds.records
      rw [left] at after
      intro a ha
      exact ih later (readable_leaves readable leave) after a (List.mem_append_left _ ha)

/-- After a try that did not fail the same reminder is not tried again. -/
theorem tries_apart {scans : List Scan} (regular : ∀ s ∈ scans, s.Regular) (readable : Readable audits) :
    (runTries scans audits).Pairwise fun t u =>
      t.failed = false → ∀ id day n, t.IsOf id day n → ¬ u.IsOf id day n := by
  induction scans generalizing audits with
  | nil => exact .nil
  | cons s rest ih =>
    obtain ⟨here, later⟩ := List.forall_mem_cons.mp regular
    have reminds := s.reminds here readable
    obtain ⟨rows, left, leave⟩ := reminds.records
    have readable' := readable_leaves readable leave
    rw [runTries, left]
    refine List.pairwise_append.mpr ⟨?_, ih later readable', ?_⟩
    · refine (List.pairwise_map.mp reminds.once).imp fun other _ id day n first second => ?_
      exact other (first.1.trans second.1.symm)
    · intro t ht u hu sent id day n first second
      obtain ⟨a, ha, is⟩ := exists_right_of_forall₂ leave ht
      exact not_tells_of_try later readable' hu second a (List.mem_append_right _ ha)
        ((is.tells_iff id day n).mpr ⟨sent, first⟩)

theorem Try.not_failed_of_isSent {t : Try} (sent : t.sending.isSent = true) : t.failed = false := by
  unfold failed
  cases going : t.sending with
  | auditOnly => rfl
  | webhook result =>
    cases result with
    | ok _ => rfl
    | error e =>
      rw [going] at sent
      cases sent

/-- A reminder that failed is tried by the next scan at which it is due. -/
theorem failed_again {before middle : List Scan} {s' : Scan} (regular : ∀ x ∈ before ++ s :: middle, x.Regular)
    (regular' : s'.Regular) (readable : Readable audits) {t : Try} (ht : t ∈ s.tries (trail before audits))
    (failed : t.failed = true)
    (none : ∀ u ∈ runTries middle (trail (before ++ [s]) audits),
      ¬ u.IsOf t.service.id t.now.dayNumber t.daysLeft)
    (sameDay : s'.world.now.dayNumber = t.now.dayNumber) (hr : r ∈ s'.world.store.services)
    (same : r.id = t.service.id) (due : IsDue s'.world.now r t.daysLeft) :
    ∃ t' ∈ s'.tries (trail (before ++ s :: middle) audits), t'.service = r ∧ t'.daysLeft = t.daysLeft := by
  obtain ⟨-, -, -, readable₁⟩ := trail_grows (fun x hx => regular x (List.mem_append_left _ hx)) readable
  have reminds := s.reminds (regular s (by simp)) readable₁
  obtain ⟨rows, left, leave⟩ := reminds.records
  have left : (s.run (trail before audits)).2.store.audits = trail before audits ++ rows := by rw [left]
  have between : ∀ x ∈ middle, x.Regular := fun x hx => regular x (by simp [hx])
  obtain ⟨more, grows, leave', readable₂⟩ := trail_grows between (readable_leaves readable₁ leave)
  have afterIt : trail (before ++ [s]) audits = trail before audits ++ rows := by
    rw [trail_append, trail, left, trail]
  have found : trail (before ++ s :: middle) audits = trail before audits ++ rows ++ more := by
    rw [trail_append, trail, left, grows]
  rw [afterIt] at none
  rw [grows] at readable₂
  rw [found]
  refine ((s'.reminds regular' readable₂).exactly r t.daysLeft).mpr ⟨hr, due, fun a ha tells => ?_⟩
  rw [same, sameDay] at tells
  -- a row was there before the first scan, or comes from it, or from a scan in between
  rcases List.mem_append.mp ha with ha | ha
  · rcases List.mem_append.mp ha with ha | ha
    · have fresh := ((reminds.exactly t.service t.daysLeft).mp ⟨t, ht, rfl, rfl⟩).2.2 a ha
      have clock : t.now = s.world.now := (of_mem_tries ht).1
      rw [clock] at tells
      exact fresh tells
    · obtain ⟨u, hu, wrote⟩ := exists_left_of_forall₂ leave ha
      obtain ⟨sent, is⟩ := (wrote.tells_iff _ _ _).mp tells
      rw [List.inj_on_of_nodup_map reminds.once hu ht is.1, failed] at sent
      cases sent
  · obtain ⟨u, hu, wrote⟩ := exists_left_of_forall₂ leave' ha
    exact none u hu ((wrote.tells_iff _ _ _).mp tells).2

/-- **Scans for reminders.** Take any scans one after another, each at its own time and with its own settings,
webhook and services. Over the whole run no two rows and no two deliveries that went through are of the same
reminder, that is of one service, one number of days and one day; nor does the run write a row of a reminder
that the trail told of before. Each scan tries exactly the services that are due and not told of, records each
try and nothing else, and answers with its counts or with the errors of the tries that failed. What failed is
tried by the next scan at which it is due on that day. -/
theorem reminder_scans (scans : List Scan) {audits : List AuditRow} (regular : ∀ s ∈ scans, s.Regular)
    (readable : Readable audits) :
    (∃ rows, trail scans audits = audits ++ rows ∧ List.Forall₂ Try.Leaves (runTries scans audits) rows ∧
      ∀ id day n, (rows.Pairwise fun a b => ¬ (a.Tells id day n ∧ b.Tells id day n)) ∧
        ∀ a ∈ audits, a.Tells id day n → ∀ b ∈ rows, ¬ b.Tells id day n) ∧
    (∀ id day n, (runTries scans audits).Pairwise fun t u =>
      ¬ ((t.sending.isSent = true ∧ t.IsOf id day n) ∧ (u.sending.isSent = true ∧ u.IsOf id day n))) ∧
    (∀ before s after, scans = before ++ s :: after → s.Reminds (trail before audits)) ∧
    (∀ before s middle s' after, scans = before ++ s :: middle ++ s' :: after →
      ∀ t ∈ s.tries (trail before audits), t.failed = true →
        (∀ u ∈ runTries middle (trail (before ++ [s]) audits),
          ¬ u.IsOf t.service.id t.now.dayNumber t.daysLeft) →
        s'.world.now.dayNumber = t.now.dayNumber →
        ∀ r ∈ s'.world.store.services, r.id = t.service.id → IsDue s'.world.now r t.daysLeft →
          ∃ t' ∈ s'.tries (trail (before ++ s :: middle) audits),
            t'.service = r ∧ t'.daysLeft = t.daysLeft) := by
  obtain ⟨rows, grows, leave, -⟩ := trail_grows regular readable
  refine ⟨⟨rows, grows, leave, fun id day n => ⟨?_, fun a ha old b hb new => ?_⟩⟩, fun id day n => ?_, ?_, ?_⟩
  · refine pairwise_of_forall₂ (fun left left' apart both => ?_) leave (tries_apart regular readable)
    obtain ⟨sent, first⟩ := (left.tells_iff id day n).mp both.1
    exact apart sent id day n first ((left'.tells_iff id day n).mp both.2).2
  · obtain ⟨t, ht, left⟩ := exists_left_of_forall₂ leave hb
    exact not_tells_of_try regular readable ht ((left.tells_iff id day n).mp new).2 a ha old
  · refine (tries_apart regular readable).imp fun apart both => ?_
    exact apart (Try.not_failed_of_isSent both.1.1) id day n both.1.2 both.2.2
  · rintro before s after rfl
    obtain ⟨-, -, -, readable'⟩ := trail_grows (fun x hx => regular x (List.mem_append_left _ hx)) readable
    exact s.reminds (regular s (by simp)) readable'
  · rintro before s middle s' after rfl t ht failed none sameDay r hr same due
    exact failed_again (fun x hx => regular x (List.mem_append_left _ hx)) (regular s' (by simp)) readable ht
      failed none sameDay hr same due

/-- An active service that expires after seven days. -/
def weekLeft : ServiceRow where
  id := .ofNat 1
  userId := .ofNat 2
  itemId := .ofNat 3
  planId := .ofNat 4
  status := .active
  hostname := none
  address := none
  expiresAt := some ⟨7 * 86400, 0⟩
  cancelledAt := none
  metadata := .object []
  createdAt := ⟨0, 0⟩
  updatedAt := ⟨0, 0⟩

/-- A scan over that service, with the answer of the webhook. -/
def scanOfWeekLeft (now : Instant) (answer : Except Failure Unit) : Scan where
  outside := {
    durable := true
    refuses := fun _ => false
    deliver := fun _ _ _ => answer
    provision := fun _ => .ok ⟨"host", "address"⟩ }
  world := { World.start { Store.empty with services := [weekLeft] } now 1 ⟨"", "", ""⟩ with
    settings := ⟨some "https://reminders", none, 5⟩ }

theorem regular_scanOfWeekLeft (now : Instant) (answer : Except Failure Unit) :
    (scanOfWeekLeft now answer).Regular := ⟨rfl, List.not_mem_nil, List.nodup_singleton _⟩

/-- The webhook is down at first; a minute later the reminder is tried again. -/
theorem reminder_scans_minuteLater :
    let down := scanOfWeekLeft ⟨0, 0⟩ (.error (.notification "down"))
    let up := scanOfWeekLeft ⟨60, 0⟩ (.ok ())
    ∃ t ∈ up.tries (trail [down] []), t.service = weekLeft ∧ t.daysLeft = 7 := by
  intro down up
  have regular : ∀ s ∈ [down, up], s.Regular := by simp [down, up, regular_scanOfWeekLeft]
  have readable : Readable [] := by simp [Readable]
  let failure : Try := ⟨⟨0, 0⟩, weekLeft, 7, .webhook (.error (.notification "down"))⟩
  have tried : down.tries [] = [failure] := rfl
  have due : IsDue ⟨60, 0⟩ weekLeft 7 := ⟨rfl, ⟨_, rfl, by decide, by decide, rfl⟩, .inl rfl⟩
  obtain ⟨-, -, -, again⟩ := reminder_scans [down, up] regular readable
  exact again [] down [] up [] rfl failure (by simp [trail, tried]) rfl (by simp [runTries]) rfl weekLeft
    (List.mem_singleton_self _) rfl due

end Renewal

end HostingBilling
