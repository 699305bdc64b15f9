import HostingBilling.Proofs.Jobs.Commitment
import HostingBilling.Proofs.Jobs.Work
import HostingBilling.Proofs.Json.Additions
import HostingBilling.Proofs.Spelling
import HostingBilling.Proofs.Tasks.Retries

/-!
# Payloads from hand to hand

A payload is stored with its task and read by the worker who claims the task. Main statement: every payload is
read back as it was written, the tasks of committed jobs ask for their own services, and any document that is
read as a payload is written in one form, which is read as the same payload.
-/

namespace HostingBilling

/-! ## Reading back -/

namespace Json

theorem asInteger_int {n : Int} (word : n < 0x8000000000000000) : asInteger (.int n) = .ok n := if_pos word

theorem lt_of_asInteger {v : Json} {n : Int} (read : asInteger v = .ok n) : n < 0x8000000000000000 := by
  cases v with
  | int m =>
    rw [asInteger] at read
    split at read
    · next fits =>
      cases read
      exact fits
    · cases read
  | _ => cases read

/-- A value read of an optional member was written there. -/
theorem mem_of_optional {α : Type} {m : List (String × Json)} {name : String} {f : Decoder α} {a : α}
    (read : optional m name f = .ok (some a)) : ∃ v, m.lookup name = some v ∧ f v = .ok a := by
  unfold optional needOr at read
  cases found : m.lookup name with
  | none =>
    rw [found] at read
    cases read
  | some v =>
    rw [found] at read
    have present : v ≠ .null := by
      rintro rfl
      cases read
    replace read : asOptional f v = .ok (some a) := read
    rw [asOptional_of_ne_null f present] at read
    cases value : f v with
    | error e =>
      rw [value] at read
      cases read
    | ok b =>
      rw [value] at read
      cases read
      exact ⟨v, rfl, value⟩

end Json

theorem Uuid.asOptional_encode (u : Uuid) : Json.asOptional decode u.encode = .ok (some u) := by
  change (decode u.encode).map some = .ok (some u)
  rw [u.decode_encode]
  rfl

section

attribute [local simp] Json.Shape.read Json.Shape.checkMembers Json.field Json.defaultedField Json.need
  Json.needOr Json.optional presentMember Uuid.decode_encode Uuid.asOptional_encode bind Except.bind
  Except.map pure Except.pure

theorem SuspendPayload.decode_encode (p : SuspendPayload) : decode p.encode = .ok p := by
  simp [decode, encode, shape, Json.asText, List.lookup_cons]

theorem TerminatePayload.decode_encode (p : TerminatePayload) : decode p.encode = .ok p := by
  simp [decode, encode, shape]

theorem InvoicePayload.decode_encode (p : InvoicePayload) : decode p.encode = .ok p := by
  simp [decode, encode, shape, List.lookup_cons]

theorem ExpirePayload.decode_encode (p : ExpirePayload) : decode p.encode = .ok p := by
  obtain ⟨_ | service⟩ := p
  · rfl
  · simp [decode, encode, shape]

/-- The days that a reminder counts have to fit a word to be read back. -/
theorem ReminderPayload.decode_encode (p : ReminderPayload)
    (word : ∀ d ∈ p.daysLeft, d < 0x8000000000000000) : decode p.encode = .ok p := by
  have days {d : Int} (among : d ∈ p.daysLeft) : Json.asOptional Json.asInteger (.int d) = .ok (some d) := by
    change (Json.asInteger (.int d)).map some = .ok (some d)
    rw [Json.asInteger_int (word d among)]
    rfl
  obtain ⟨service, user, _ | d⟩ := p
  · cases service <;> cases user <;> simp [decode, encode, shape, List.lookup_cons]
  · have counted := days rfl
    cases service <;> cases user <;> simp [decode, encode, shape, List.lookup_cons, counted]

end

/-- The days of a reminder that was read fit a word. -/
theorem ReminderPayload.word_of_decode {v : Json} {p : ReminderPayload} (read : decode v = .ok p) :
    ∀ d ∈ p.daysLeft, d < 0x8000000000000000 := by
  obtain ⟨m, -, read⟩ := Json.bind_eq_ok.mp read
  obtain ⟨_, -, read⟩ := Json.bind_eq_ok.mp read
  obtain ⟨_, -, read⟩ := Json.bind_eq_ok.mp read
  obtain ⟨days, counted, read⟩ := Json.bind_eq_ok.mp read
  cases read
  rintro d rfl
  obtain ⟨_, -, number⟩ := Json.mem_of_optional counted
  exact Json.lt_of_asInteger number

namespace Payload

/-- The days of a reminder are held by a signed word of 64 bits. No document has an integer below the least word. -/
def Fits : Payload → Prop
  | reminder p => ∀ d ∈ p.daysLeft, d < 0x8000000000000000
  | _ => True

/-- A document other than null is read as it is. -/
theorem decodeAs_of_ne_null {α : Type} {v : Json} (h : v ≠ .null) (kind : TaskKind) {f : Json.Decoder α} {a : α}
    (read : f v = .ok a) : decodeAs kind f v = .ok a := by
  cases v with
  | null => exact absurd rfl h
  | _ => simp [decodeAs, read]

theorem decodeAs_eq_ok {α : Type} {kind : TaskKind} {f : Json.Decoder α} {v : Json} {a : α}
    (read : decodeAs kind f v = .ok a) : ∃ v, f v = .ok a := by
  unfold decodeAs at read
  dsimp only at read
  split at read
  · next found =>
    cases read
    exact ⟨_, found⟩
  · cases read

theorem map_decodeAs {α : Type} {v : Json} (h : v ≠ .null) (kind : TaskKind) {f : Json.Decoder α} {a : α}
    (read : f v = .ok a) (wrap : α → Payload) : (decodeAs kind f v).map wrap = .ok (wrap a) := by
  rw [decodeAs_of_ne_null h kind read]
  rfl

theorem encode_ne_null (p : Payload) : p.encode ≠ .null := by
  cases p <;> exact nofun

theorem decode_encode (p : Payload) (fits : p.Fits) : decode p.kind p.encode = .ok p := by
  have present := p.encode_ne_null
  cases p <;> rw [kind, encode, decode] <;> rw [encode] at present
  case provision p => exact map_decodeAs present _ p.decode_encode _
  case suspend p => exact map_decodeAs present _ p.decode_encode _
  case terminate p => exact map_decodeAs present _ p.decode_encode _
  case reminder p => exact map_decodeAs present _ (p.decode_encode fits) _
  case invoice p => exact map_decodeAs present _ p.decode_encode _
  case expire p => exact map_decodeAs present _ p.decode_encode _

/-- What was read can be written. -/
theorem fits_of_decode {kind : TaskKind} {v : Json} {p : Payload} (read : decode kind v = .ok p) : p.Fits := by
  cases p with
  | reminder p =>
    obtain rfl := Worker.kind_of_decode read
    cases parsed : decodeAs .renewalReminder ReminderPayload.decode v with
    | error e =>
      rw [kind, decode, parsed] at read
      cases read
    | ok q =>
      rw [kind, decode, parsed] at read
      cases read
      obtain ⟨_, parsed⟩ := decodeAs_eq_ok parsed
      exact ReminderPayload.word_of_decode parsed
  | _ => trivial

theorem decode_encode_of_decode {kind : TaskKind} {v : Json} {p : Payload} (read : decode kind v = .ok p) :
    decode kind p.encode = .ok p := by
  obtain rfl := Worker.kind_of_decode read
  exact p.decode_encode (fits_of_decode read)

end Payload

/-! ## From the job to the worker -/

/-- The worker reads the four identifiers of a committed job in the task, and asks to build for them, at whatever
attempt. -/
structure TaskRow.HandsOver (r : TaskRow) (t : CommittedJob) : Prop where
  reads : Payload.decode .provisionVps r.payload = .ok (.provision ⟨t.serviceId, t.orderId, t.planId, t.userId⟩)
  asks : ∀ (o : Outside) (later : TaskRow), later.kind = r.kind → later.payload = r.payload →
    Worker.work o later = (do let _ ← Provisioning.provision o ⟨t.serviceId, t.orderId, t.planId, t.userId⟩)

theorem TaskQueue.newRow_handsOver (now : Instant) (id : Uuid) (t : CommittedJob) :
    (newRow now id (.provision t.payload)).HandsOver t := by
  have reads := Payload.decode_provision t.payload
  exact ⟨reads, fun o later kind payload => Worker.work_provision kind (payload ▸ reads)⟩

/-- A submission to the task table adds the task, or is refused and leaves the store as it was. -/
theorem TaskQueue.submit_durable {o : Outside} (durable : o.durable = true) (t : TaskDraft) (w : World) :
    (∃ e w', (submit o t).run w = (.error e, w') ∧ w'.store = w.store) ∨
      ∃ id w', (submit o t).run w = (.ok id, w') ∧ w'.store.tasks = w.store.tasks ++ [newRow w.now id t] := by
  cases refused : o.refuses w.offered.length with
  | true => exact .inl ⟨_, _, submit_refused refused, rfl⟩
  | false =>
    rw [submit_run, Outside.refusal?_accepted refused, receive, if_pos durable, enqueue_cases]
    split
    · exact .inl ⟨_, _, rfl, rfl⟩
    · exact .inr ⟨_, _, rfl, rfl⟩

namespace CommittedJob

variable {o : Outside}

/-- Taking back a job that was refused leaves the tasks as they are. -/
theorem retract_sameTasks (t : CommittedJob) (reason : String) :
    (t.retract reason).Keeps fun a b => b.tasks = a.tasks := by
  refine retract_keeps Store.sameTasks.toChain (fun _ _ => rfl) (fun _ _ => rfl) (fun now id s => ?_) t reason
  unfold Store.revertOrder
  split <;> rfl

/-- The submission of a job adds its task, or tells of errors and adds none. -/
theorem submit_stores (durable : o.durable = true) (t : CommittedJob) (w : World) :
    ∃ errors w', (t.submit o).run w = (.ok errors, w') ∧
      (errors = [] ∧ (∃ r : TaskRow, r.HandsOver t ∧ w'.store.tasks = w.store.tasks ++ [r]) ∨
        errors ≠ [] ∧ w'.store.tasks = w.store.tasks) := by
  rw [submit, Action.run_bind, Action.run_attempt]
  obtain ⟨e, w₁, ran, left⟩ | ⟨id, w₁, ran, added⟩ := TaskQueue.submit_durable durable (.provision t.payload) w
  · rw [ran]
    obtain ⟨steps, w₂, retracted⟩ := retract_total t e.message w₁
    have same := (retract_sameTasks t e.message w₁).store
    rw [retracted] at same
    refine ⟨_, w₂, Action.run_bind_of_ok retracted _, .inr ⟨List.cons_ne_nil _ _, ?_⟩⟩
    rw [same, left]
  · rw [ran]
    exact ⟨[], w₁, rfl, .inl ⟨rfl, _, TaskQueue.newRow_handsOver w.now id t, added⟩⟩

/-- Each job that is accepted has its task added, in the order of the jobs. -/
theorem submitEach_stores (durable : o.durable = true) (jobs : List CommittedJob) (w : World) :
    ∃ errors rows sent w', (submitEach o jobs).run w = (.ok (sent.length, errors), w') ∧
      w'.store.tasks = w.store.tasks ++ rows ∧ List.Sublist sent jobs ∧
      List.Forall₂ TaskRow.HandsOver rows sent ∧ (errors = [] → sent = jobs) := by
  induction jobs generalizing w with
  | nil => exact ⟨[], [], [], w, rfl, (List.append_nil _).symm, .refl _, .nil, fun _ => rfl⟩
  | cons t rest ih =>
    obtain ⟨errors, w₁, ran, one⟩ := submit_stores durable t w
    obtain ⟨more, rows, sent, w₂, ran', added, among, hands, all⟩ := ih w₁
    rw [submitEach, Action.run_bind_of_ok ran, Action.run_bind_of_ok ran']
    rcases one with ⟨rfl, r, handed, first⟩ | ⟨refused, left⟩
    · refine ⟨more, r :: rows, t :: sent, w₂, rfl, ?_, among.cons_cons t, .cons handed hands,
        fun none => congrArg _ (all none)⟩
      rw [added, first, List.append_assoc, List.singleton_append]
    · have kept : errors.isEmpty = false := List.isEmpty_eq_false_iff.mpr refused
      refine ⟨errors ++ more, rows, sent, w₂, ?_, left ▸ added, among.cons t, hands, fun none => ?_⟩
      · rw [kept]
        rfl
      · exact absurd (List.append_eq_nil_iff.mp none).1 refused

/-- Of submitted jobs those that are accepted have their tasks added, and an answer tells that all of them are. -/
theorem submitAll_stores (durable : o.durable = true) (jobs : List CommittedJob) (w : World) :
    ∃ rows sent, ((submitAll o jobs).run w).2.store.tasks = w.store.tasks ++ rows ∧ List.Sublist sent jobs ∧
      List.Forall₂ TaskRow.HandsOver rows sent ∧
      ∀ n, ((submitAll o jobs).run w).1 = .ok n → n = jobs.length ∧ sent = jobs := by
  obtain ⟨errors, rows, sent, w', ran, added, among, hands, all⟩ := submitEach_stores durable jobs w
  rw [submitAll, Action.run_bind_of_ok ran]
  cases errors with
  | nil =>
    obtain rfl := all rfl
    refine ⟨rows, sent, added, among, hands, fun n answered => ?_⟩
    cases answered
    exact ⟨rfl, rfl⟩
  | cons e more =>
    refine ⟨rows, sent, added, among, hands, fun n answered => ?_⟩
    cases answered

end CommittedJob

/-- A payload is read back as it was written. Of the jobs that are handed to a task table, each that is accepted
has a task from which the worker reads its four identifiers. Whatever document is read as a payload, the payload
is written in one form, and that form is read as the same payload. -/
theorem Payload.read_back :
    (∀ p : Payload, p.Fits → decode p.kind p.encode = .ok p) ∧
    (∀ (o : Outside) (jobs : List CommittedJob) (w : World), o.durable = true →
      ∃ rows sent, ((CommittedJob.submitAll o jobs).run w).2.store.tasks = w.store.tasks ++ rows ∧
        List.Sublist sent jobs ∧ List.Forall₂ TaskRow.HandsOver rows sent ∧
        ∀ n, ((CommittedJob.submitAll o jobs).run w).1 = .ok n → n = jobs.length ∧ sent = jobs) ∧
    ∀ (kind : TaskKind) (v : Json) (p : Payload), decode kind v = .ok p →
      decode kind p.encode = .ok p ∧ (decode kind p.encode).map encode = .ok p.encode := by
  refine ⟨decode_encode, fun o jobs w durable => CommittedJob.submitAll_stores durable jobs w,
    fun kind v p read => ?_⟩
  have again := decode_encode_of_decode read
  refine ⟨again, ?_⟩
  rw [again]
  rfl

/-- A reminder for a user alone, a job whose task is stored, and a suspension as an array with an identifier in
capitals and no reason. -/
theorem Payload.read_back_spelled :
    let reminder : Payload := .reminder ⟨none, some (.ofNat 7), some (-3)⟩
    let o : Outside := {
      durable := true
      refuses := fun _ => false
      deliver := fun _ _ _ => .ok ()
      provision := fun _ => .ok ⟨"host", "address"⟩ }
    let t : CommittedJob := ⟨.ofNat 1, .ofNat 2, .ofNat 3, .ofNat 4, .ofNat 5⟩
    let w := World.start .empty ⟨0, 0⟩ 1 ⟨"", "", ""⟩
    let suspension : Json := .array [.text "urn:uuid:00000000-0000-0000-0000-0000000000AB"]
    let read : Payload := .suspend ⟨.ofNat 171, ""⟩
    reminder.Fits ∧ decode .renewalReminder reminder.encode = .ok reminder ∧
      o.durable = true ∧ ((CommittedJob.submitAll o [t]).run w).1 = .ok 1 ∧
      (∃ r : TaskRow, ((CommittedJob.submitAll o [t]).run w).2.store.tasks = [r] ∧ r.HandsOver t) ∧
      decode .suspendVps suspension = .ok read ∧ decode .suspendVps read.encode = .ok read := by
  intro reminder o t w suspension read
  have fits : reminder.Fits := by
    rintro d ⟨⟩
    decide
  have answered : ((CommittedJob.submitAll o [t]).run w).1 = .ok 1 := rfl
  have parsed : decode .suspendVps suspension = .ok read := rfl
  obtain ⟨round, hands, forms⟩ := Payload.read_back
  obtain ⟨rows, sent, added, -, handed, all⟩ := hands o [t] w rfl
  obtain rfl := (all 1 answered).2
  refine ⟨fits, round reminder fits, rfl, answered, ?_, parsed, (forms _ _ _ parsed).1⟩
  obtain ⟨r, rfl, asked⟩ : ∃ r, rows = [r] ∧ r.HandsOver t := by
    cases handed with
    | cons first rest =>
      cases rest
      exact ⟨_, rfl, first⟩
  exact ⟨r, added, asked⟩

end HostingBilling
