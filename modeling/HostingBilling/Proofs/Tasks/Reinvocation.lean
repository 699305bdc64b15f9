import HostingBilling.Lifecycle
import HostingBilling.Proofs.Checkout.Fulfilment
import HostingBilling.Proofs.Jobs.Work
import HostingBilling.Proofs.Recovery.Submissions

/-!
# Running a handler once more

The queue hands out a task again when its worker has died. A handler that is run once more finds what its
first run has left there, and changes nothing but the stamps of the last change.
-/

namespace HostingBilling

/-! ## Stamps in documents -/

namespace Json

/-- An object without the member of a name. -/
def without (name : String) : Json → Json
  | .object members => .object (members.filter fun m => m.1 != name)
  | v => v

/-- A document without the stamps of a name: without its member of that name, or without those of its
entries. -/
def unstamped (name : String) : Json → Json
  | .array items => .array (items.map (·.without name))
  | v => v.without name

/-- A member that is put in is not seen where its key is not looked at. -/
theorem filter_insert (key : String) (value : Json) (members : List (String × Json)) :
    (insert key value members).filter (fun m => m.1 != key) = members.filter fun m => m.1 != key := by
  induction members with
  | nil => simp [insert]
  | cons m rest ih =>
    obtain ⟨k, v⟩ := m
    rw [insert]
    split
    · rw [List.filter_cons_of_neg (by simp)]
    · split
      · next same => rw [List.filter_cons_of_neg (by simp), List.filter_cons_of_neg (by simp [same])]
      · simp only [List.filter_cons, ih]

/-- A member that is there is put in again to no effect, also when one with a greater key was put in since. -/
theorem insert_again {first second : String} (before : first < second) (value other : Json)
    (members : List (String × Json)) :
    insert first value (insert second other (insert first value members)) =
      insert second other (insert first value members) := by
  have after : ¬ second < first := String.lt_asymm before
  have apart : second ≠ first := fun same => String.lt_irrefl first (same ▸ before)
  induction members with
  | nil => simp [insert, after, apart]
  | cons m rest ih =>
    obtain ⟨k, v⟩ := m
    by_cases below : first < k
    · simp [insert, below, after, apart]
    · by_cases same : first = k
      · subst same
        simp [insert, after, apart]
      · have above : k < second := String.lt_trans (Std.lt_of_le_of_ne below (Ne.symm same)) before
        have past : ¬ second < k := String.lt_asymm above
        have other_ : second ≠ k := fun is => String.lt_irrefl k (is ▸ above)
        simp [insert, below, same, past, other_, ih]

theorem before_suspended_at : "suspend_reason" < "suspended_at" := by decide

/-- The two members that a suspension adds. -/
def suspension (now : Instant) (reason : String) : List (String × Json) :=
  [Store.stamp "suspended_at" now, ("suspend_reason", .text reason)]

/-- Suspending again leaves an object that differs in the stamp of suspension alone. -/
theorem unstamped_suspended (members : List (String × Json)) (now later : Instant) (reason : String) :
    (((object members).merge (suspension now reason)).merge (suspension later reason)).unstamped "suspended_at" =
      ((object members).merge (suspension now reason)).unstamped "suspended_at" := by
  simp only [merge, suspension, overlay, List.foldl_cons, List.foldl_nil, Store.stamp, unstamped, without,
    insert_again before_suspended_at, filter_insert]

end Json

/-! ## Changing rows again -/

/-- What a change makes the same of rows that it is made of again. -/
theorem map_changeRows_again {ρ κ : Type} {selects : ρ → Bool} {first next : ρ → ρ} {rows : List ρ}
    (erase : ρ → κ) (same : ∀ r ∈ rows, selects r = true → erase (next (first r)) = erase (first r)) :
    (changeRows selects next (changeRows selects first rows)).map erase =
      (changeRows selects first rows).map erase := by
  simp only [changeRows, List.map_map]
  apply List.map_congr_left
  intro r hr
  cases chosen : selects r with
  | false => simp [chosen]
  | true =>
    simp only [Function.comp, chosen, if_pos]
    split
    · exact same r hr chosen
    · rfl

/-- A service without the time of its last change and the stamps of its suspension. -/
def ServiceRow.unsuspended (r : ServiceRow) : ServiceRow :=
  { r.untimed with metadata := r.metadata.unstamped "suspended_at" }

/-- A service before a suspension, after it, and after a second one. What the service knows of itself is an object,
in which the second renews the stamp of the first, or something else, which the first makes a list and to which
the second adds one more entry. -/
def ServiceRow.Resuspended (p : SuspendPayload) (later : Instant) (r once twice : ServiceRow) : Prop :=
  if r.id = p.serviceId ∧ r.status ≠ .terminated then
    match r.metadata with
    | .object _ => (∃ members, once.metadata = .object members) ∧ twice.unsuspended = once.unsuspended
    | _ => ∃ items, once.metadata = .array items ∧ twice = { once with
        metadata := .array (items ++ [.ofMembers (Json.suspension later p.reason)])
        updatedAt := later }
  else once = r ∧ twice = r

/-- A service that has just been suspended. -/
def ServiceRow.suspended (now : Instant) (reason : String) (r : ServiceRow) : ServiceRow := { r with
  status := .suspended
  metadata := r.metadata.merge (Json.suspension now reason)
  updatedAt := now }

theorem ServiceRow.resuspended (p : SuspendPayload) (now later : Instant) {r : ServiceRow}
    (is : r.id = p.serviceId) (alive : r.status ≠ .terminated) :
    r.Resuspended p later (r.suspended now p.reason) ((r.suspended now p.reason).suspended later p.reason) := by
  rw [Resuspended, if_pos ⟨is, alive⟩]
  cases doc : r.metadata with
  | object members =>
    simp only [suspended, doc]
    refine ⟨⟨_, rfl⟩, ?_⟩
    exact congrArg (fun doc => { r with status := .suspended, metadata := doc, updatedAt := ⟨0, 0⟩ })
      (Json.unstamped_suspended members now later p.reason)
  | null | bool | int | double | text | array =>
    simp only [suspended, doc]
    exact ⟨_, rfl, rfl⟩

/-- Nothing but the clock and the services tells two worlds apart. -/
def SameButServices (w w' : World) : Prop :=
  w' = { w with now := w'.now, store := { w.store with services := w'.store.services } }

/-- Nothing but the clock and what is erased of the services tells two worlds apart. -/
def SameBut (erase : ServiceRow → ServiceRow) (w w' : World) : Prop :=
  SameButServices w w' ∧ w'.store.services.map erase = w.store.services.map erase

namespace Store

/-- The services before a suspension, after it, and after a second one. -/
theorem suspendService_again (p : SuspendPayload) (now later : Instant) (s : Store) :
    let once := (s.suspendService now p.serviceId p.reason).2
    let twice := (once.suspendService later p.serviceId p.reason).2
    ∃ first second, once.services = s.services.map first ∧ twice.services = s.services.map second ∧
      ∀ r ∈ s.services, r.Resuspended p later (first r) (second r) := by
  intro once twice
  let chosen (r : ServiceRow) : Bool := r.id == p.serviceId && r.status != .terminated
  let first (r : ServiceRow) : ServiceRow := r.suspended now p.reason
  let second (r : ServiceRow) : ServiceRow := (first r).suspended later p.reason
  have again : twice.services = changeRows chosen second s.services :=
    changeRows_changeRows
      (fun r _ is => Bool.and_eq_true_iff.mpr ⟨(Bool.and_eq_true_iff.mp is).1, rfl⟩) fun _ _ other => other
  refine ⟨fun r => if chosen r then first r else r, fun r => if chosen r then second r else r, rfl, again,
    fun r _ => ?_⟩
  dsimp only
  by_cases is : chosen r = true
  · obtain ⟨own, alive⟩ := Bool.and_eq_true_iff.mp is
    rw [if_pos is, if_pos is]
    exact r.resuspended p now later (eq_of_beq own) (bne_iff_ne.mp alive)
  · rw [if_neg is, if_neg is, ServiceRow.Resuspended, if_neg]
    · exact ⟨rfl, rfl⟩
    · rintro ⟨own, alive⟩
      exact is (Bool.and_eq_true_iff.mpr ⟨beq_iff_eq.mpr own, bne_iff_ne.mpr alive⟩)

theorem expireService_of_none {s : Store} {now : Instant} {id : Uuid}
    (none_ : ∀ r ∈ s.services, (r.id == id && isExpired now r) = false) : (s.expireService now id).2 = s :=
  congrArg (fun services => { s with services }) (changeRows_of_none none_)

/-- A service that an expiry suspended is not expired again. -/
theorem expireService_again {s : Store} (linked : s.Linked) {now : Instant} {id : Uuid}
    (suspended : (s.expireService now id).1 = true) (later : Instant) :
    ((s.expireService now id).2.expireService later id).2 = (s.expireService now id).2 := by
  obtain ⟨r, hr, selected⟩ := List.any_eq_true.mp suspended
  refine expireService_of_none fun x hx => ?_
  obtain ⟨y, hy, rfl⟩ := mem_changeRows.mp hx
  split
  · simp [isExpired]
  · next other =>
    -- the service of this identifier is the one that was suspended
    cases own : y.id == id with
    | false => rfl
    | true =>
      have is : r.id = id := by simpa using (Bool.and_eq_true_iff.mp selected).1
      obtain rfl := eq_of_key linked.services hy hr ((beq_iff_eq.mp own).trans is.symm)
      exact absurd selected other

end Store

namespace Lifecycle

variable {w : World} (calm : w.faults = [])

include calm

/-- A service is looked up to no effect. -/
theorem require_left (id : Uuid) : ((Services.require id).run w).2 = w := by
  cases found : w.store.detail? id with
  | none => rw [Provisioning.require_of_none calm found]
  | some d => rw [Provisioning.require_of_some calm found]

theorem suspend_left (p : SuspendPayload) : ((suspend p).run w).2 =
    { w with store := (w.store.suspendService w.now p.serviceId p.reason).2 } := by
  have ran : (Services.suspend p.serviceId p.reason).run w = (.ok _, _) := run_change calm _ _
  rw [suspend, Action.run_bind_of_ok ran]
  split
  · rfl
  · exact (Action.run_answer _ _ _).trans (require_left (by exact calm) _)

theorem terminate_left (p : TerminatePayload) : ((terminate p).run w).2 =
    { w with store := (w.store.terminateService w.now p.serviceId).2 } := by
  have ran : (Services.terminate p.serviceId).run w = (.ok _, _) := run_change calm _ _
  rw [terminate, Action.run_bind_of_ok ran]
  split <;> rfl

/-- What an expiry of one service reports, and what it leaves. -/
theorem expireOne_found {id : Uuid} {d : ServiceView} (found : w.store.detail? id = some d) :
    (expireOne id).run w = (.ok ⟨1, if (w.store.expireService w.now id).1 then 1 else 0, 0, false⟩,
      { w with store := (w.store.expireService w.now id).2 }) := by
  have expires : (Services.expire id).run w = (.ok _, _) := run_change calm _ _
  rw [expireOne, Action.run_bind_of_ok (Provisioning.require_of_some calm found), Action.run_bind_of_ok expires]
  rfl

theorem expireOne_run (id : Uuid) : (expireOne id).run w = (.error (serviceNotFound id), w) ∨
    (expireOne id).run w = (.ok ⟨1, if (w.store.expireService w.now id).1 then 1 else 0, 0, false⟩,
      { w with store := (w.store.expireService w.now id).2 }) := by
  cases found : w.store.detail? id with
  | none =>
    rw [expireOne, Action.run_bind_of_error (Provisioning.require_of_none calm found)]
    exact .inl rfl
  | some d => exact .inr (expireOne_found calm found)

/-! ### Once more -/

theorem suspend_again (p : SuspendPayload) (later : Instant) :
    let once := ((suspend p).run w).2
    let twice := ((suspend p).run { once with now := later }).2
    SameButServices w once ∧ SameButServices once twice ∧ ∃ first second,
      once.store.services = w.store.services.map first ∧ twice.store.services = w.store.services.map second ∧
        ∀ r ∈ w.store.services, r.Resuspended p later (first r) (second r) := by
  intro once twice
  have first : once = { w with store := (w.store.suspendService w.now p.serviceId p.reason).2 } :=
    suspend_left calm p
  have second : twice = { once with
      now := later, store := (once.store.suspendService later p.serviceId p.reason).2 } :=
    suspend_left (w := { once with now := later }) (by rw [first]; exact calm) p
  rw [second, first]
  exact ⟨rfl, rfl, Store.suspendService_again p w.now later w.store⟩

theorem terminate_again (p : TerminatePayload) (later : Instant) :
    SameBut ServiceRow.untimed ((terminate p).run w).2
      ((terminate p).run { ((terminate p).run w).2 with now := later }).2 := by
  have once := terminate_left calm p
  rw [terminate_left (w := { ((terminate p).run w).2 with now := later }) (by rw [once]; exact calm), once]
  refine ⟨rfl, map_changeRows_again _ fun r _ _ => ?_⟩
  simp [ServiceRow.untimed]

theorem expire_again (linked : w.store.Linked) {p : ExpirePayload} {id : Uuid} (named : p.serviceId = some id)
    {report : ExpiryReport} {w' : World} (ran : (expire p).run w = (.ok report, w'))
    (suspended : report.suspended ≠ 0) (later : Instant) :
    ((expire p).run { w' with now := later }).2 = { w' with now := later } := by
  rw [expire, named] at ran ⊢
  dsimp only at ran ⊢
  rcases expireOne_run calm id with fails | goes
  · rw [fails] at ran
    cases ran
  · rw [goes] at ran
    cases ran
    have chosen : (w.store.expireService w.now id).1 = true := by
      cases chosen : (w.store.expireService w.now id).1 with
      | true => rfl
      | false => simp [chosen] at suspended
    rcases expireOne_run
      (w := { w with now := later, store := (w.store.expireService w.now id).2 }) calm id with fails | goes
    · exact congrArg Prod.snd fails
    · refine (congrArg Prod.snd goes).trans ?_
      exact congrArg (fun store => { w with now := later, store }) (Store.expireService_again linked chosen later)

end Lifecycle

namespace Provisioning

/-- One more attempt has been made on a job. No job was added, and no other one has changed. -/
def Attempted (j : JobRow) (s s' : Store) : Prop :=
  ∃ change : JobRow → JobRow, (∀ x, (change x).id = x.id ∧ (change x).attempts = x.attempts + 1) ∧
    s'.jobs = changeRows (fun x => x.id == j.id) change s.jobs

variable {o : Outside} {w w' : World} {p : ProvisionPayload} {r : ServiceRow} {j : JobRow}

/-- The job that failed is the one that is asked for again. -/
theorem Asks.again (asks : Asks w.store p r j) (now : Instant) (e : Failure) :
    Asks (failedStore now j e w.store) p r (Store.failed now e.message (j.started now)) := by
  have hj := (Store.latestJob_some asks.latest).1
  refine ⟨⟨asks.service, ?_, asks.alive, fun _ completed => by cases completed⟩, asks.is, ?_⟩
  · have jobs : (failedStore now j e w.store).jobs = changeRows (fun x => x.id == j.id)
        (fun x => Store.failed now e.message (x.started now)) w.store.jobs := rfl
    rw [Store.latestJob_changeRows jobs fun _ => ⟨rfl, rfl, rfl, rfl⟩, asks.latest]
    simp
  · refine List.any_eq_false.mpr fun x hx => ?_
    obtain ⟨y, hy, rfl⟩ := mem_changeRows.mp hx
    split
    · next own => simp [Store.failed, JobRow.started, beq_iff_eq.mp own]
    · exact List.any_eq_false.mp asks.alone y hy

/-- A request to which the backend gives its failure has asked it. -/
theorem asks_of_provider (calm : w.faults = []) (linked : w.store.Linked) {text : String}
    (failed : ((provision o p).run w).1 = .error (.provider text)) :
    ∃ r j, Asks w.store p r j ∧ o.provision ⟨r.id, r.planId, r.userId⟩ = .error (.provider text) := by
  by_cases asked : ∃ r j, Asks w.store p r j
  · obtain ⟨r, j, asks⟩ := asked
    refine ⟨r, j, asks, ?_⟩
    cases answer : o.provision ⟨r.id, r.planId, r.userId⟩ with
    | error e =>
      rw [provision_fails calm linked asks answer] at failed
      cases failed
      rfl
    | ok machine =>
      obtain ⟨item, order, -, built⟩ := provision_builds calm linked asks answer
      rw [built] at failed
      cases failed
  · obtain ⟨answer, -, notFailed, left⟩ := provision_unasked (o := o) calm linked
      fun r j asks => asked ⟨r, j, asks⟩
    rw [left] at failed
    exact absurd failed (notFailed text)

section again

variable (calm : w.faults = []) (linked : w.store.Linked)

include calm linked

/-- A request that was fulfilled finds that it was, whoever makes it again. -/
theorem provision_built_again {machine : Machine}
    (ran : (provision o p).run w = (.ok (.activated machine), w')) (o' : Outside) (later : Instant) :
    (provision o' p).run { w' with now := later } = (.ok .alreadyActive, { w' with now := later }) := by
  by_cases asked : ∃ r j, Asks w.store p r j
  · obtain ⟨r, j, asks⟩ := asked
    cases answer : o.provision ⟨r.id, r.planId, r.userId⟩ with
    | error e =>
      rw [provision_fails calm linked asks answer] at ran
      cases ran
    | ok machine' =>
      obtain ⟨item, order, bought, built⟩ := provision_builds calm linked asks answer
      rw [built] at ran
      cases ran
      let s := builtStore w.now (viewed r item order) j machine w.store
      let v : World := { w with store := s, now := later }
      have eases := Works.eases (.built asks.is asks.toReady answer bought.line bought.bought) linked
      have linked' : v.store.Linked := eases.store.linked linked
      have active : r.activated w.now machine ∈ v.store.services :=
        mem_changeRows.mpr ⟨r, asks.service, (if_pos (beq_self_eq_true _)).symm⟩
      have latest : v.store.latestJob r.id .provisionVps = some ((j.started w.now).done w.now) := by
        have jobs : v.store.jobs = changeRows (fun x => x.id == j.id) (fun x => (x.started w.now).done w.now)
          w.store.jobs := rfl
        rw [Store.latestJob_changeRows jobs fun _ => ⟨rfl, rfl, rfl, rfl⟩, asks.latest]
        simp
      obtain ⟨item', order', bought'⟩ := linked'.bought active
      refine (provision_run (w := v) calm linked' bought' asks.is).trans ?_
      rw [show v.store.latestJob (r.activated w.now machine).id .provisionVps = _ from latest]
      rfl
  · obtain ⟨answer, notBuilt, -, left⟩ := provision_unasked (o := o) calm linked
      fun r j asks => asked ⟨r, j, asks⟩
    rw [left] at ran
    exact absurd (congrArg Prod.fst ran) (notBuilt machine)

/-- After the backend has failed a request makes one more attempt on the same job. -/
theorem provision_failed_again (asks : Asks w.store p r j) {e : Failure}
    (down : o.provision ⟨r.id, r.planId, r.userId⟩ = .error e) (o' : Outside) (later : Instant) :
    Attempted j (failedStore w.now j e w.store)
      ((provision o' p).run { w with now := later, store := failedStore w.now j e w.store }).2.store := by
  let v : World := { w with now := later, store := failedStore w.now j e w.store }
  have linked' : v.store.Linked :=
    (Works.eases (.failed asks.is asks.toReady down) linked).store.linked linked
  have asks' : Asks v.store p r _ := asks.again w.now e
  cases answer : o'.provision ⟨r.id, r.planId, r.userId⟩ with
  | error e' =>
    rw [provision_fails (w := v) calm linked' asks' answer]
    exact ⟨fun x => Store.failed later e'.message (x.started later), fun _ => ⟨rfl, rfl⟩, rfl⟩
  | ok machine =>
    obtain ⟨item, order, -, built⟩ := provision_builds (w := v) calm linked' asks' answer
    rw [built]
    exact ⟨fun x => (x.started later).done later, fun _ => ⟨rfl, rfl⟩, rfl⟩

end again

end Provisioning

/-! ## Every handler of a service -/

open Provisioning (Asks Attempted provision)

/-- **A handler of a service may be run again.** At any later time, a second suspension leaves what the first
left but for the time of the last change and the stamp of suspension, or one more entry where what the service
knows of itself is no object; a second termination leaves it but for the times of the last change, an expiry
that has suspended its service and a request that was fulfilled leave everything as it is, and the second request
finds the service active. After a failure of the backend the second request makes one more attempt on the same
job. -/
theorem handlers_again {w : World} (calm : w.faults = []) (linked : w.store.Linked) (later : Instant) :
    (∀ p : SuspendPayload,
      let once := ((Lifecycle.suspend p).run w).2
      let twice := ((Lifecycle.suspend p).run { once with now := later }).2
      SameButServices w once ∧ SameButServices once twice ∧ ∃ first second,
        once.store.services = w.store.services.map first ∧ twice.store.services = w.store.services.map second ∧
          ∀ r ∈ w.store.services, r.Resuspended p later (first r) (second r)) ∧
    (∀ p : TerminatePayload, SameBut ServiceRow.untimed ((Lifecycle.terminate p).run w).2
      ((Lifecycle.terminate p).run { ((Lifecycle.terminate p).run w).2 with now := later }).2) ∧
    (∀ (p : ExpirePayload) (id : Uuid) (report : ExpiryReport) (w' : World), p.serviceId = some id →
      (Lifecycle.expire p).run w = (.ok report, w') → report.suspended ≠ 0 →
      ((Lifecycle.expire p).run { w' with now := later }).2 = { w' with now := later }) ∧
    (∀ (o o' : Outside) (p : ProvisionPayload) (machine : Machine) (w' : World),
      (provision o p).run w = (.ok (.activated machine), w') →
      (provision o' p).run { w' with now := later } = (.ok .alreadyActive, { w' with now := later })) ∧
    (∀ (o : Outside) (p : ProvisionPayload) (r : ServiceRow) (j : JobRow) (e : Failure),
      Asks w.store p r j → o.provision ⟨r.id, r.planId, r.userId⟩ = .error e →
      ∃ w', (provision o p).run w = (.error e, w') ∧ Attempted j w.store w'.store ∧
        ∀ o' : Outside, Attempted j w'.store ((provision o' p).run { w' with now := later }).2.store) ∧
    (∀ (o : Outside) (p : ProvisionPayload) (text : String),
      ((provision o p).run w).1 = .error (.provider text) →
      ∃ r j, Asks w.store p r j ∧ o.provision ⟨r.id, r.planId, r.userId⟩ = .error (.provider text)) := by
  refine ⟨fun p => Lifecycle.suspend_again calm p later, fun p => Lifecycle.terminate_again calm p later,
    fun p id report w' named ran suspended => Lifecycle.expire_again calm linked named ran suspended later,
    fun o o' p machine w' ran => Provisioning.provision_built_again calm linked ran o' later,
    fun o p r j e asks down => ?_, fun o p text => Provisioning.asks_of_provider calm linked⟩
  refine ⟨_, Provisioning.provision_fails calm linked asks down, ?_, fun o' =>
    Provisioning.provision_failed_again calm linked asks down o' later⟩
  exact ⟨fun x => Store.failed w.now e.message (x.started w.now), fun _ => ⟨rfl, rfl⟩, rfl⟩

open Operations (sampleOutside) in
open CommittedJob (dueWorld) in
/-- The backend fails for a service that is to be built, and then builds its machine. -/
theorem handlers_again_dueWorld : ∃ w' j,
    ((provision (sampleOutside true) ⟨.ofNat 4, .ofNat 1, .ofNat 8, .ofNat 9⟩).run dueWorld).2 = w' ∧
      Attempted j dueWorld.store w'.store ∧
      Attempted j w'.store ((provision (sampleOutside false) ⟨.ofNat 4, .ofNat 1, .ofNat 8, .ofNat 9⟩).run
        { w' with now := ⟨2000, 0⟩ }).2.store := by
  have linked : dueWorld.store.Linked := by decide
  obtain ⟨-, -, -, -, failed, asked⟩ := handlers_again (w := dueWorld) rfl linked ⟨2000, 0⟩
  obtain ⟨r, j, asks, down⟩ :=
    asked (sampleOutside true) ⟨.ofNat 4, .ofNat 1, .ofNat 8, .ofNat 9⟩ "down" (by decide +kernel)
  obtain ⟨w', ran, once, again⟩ := failed (sampleOutside true) _ r j _ asks down
  exact ⟨w', j, congrArg Prod.snd ran, once, again _⟩

open CommittedJob (dueStore dueWorld) in
/-- Services that know themselves as lists. -/
def listedWorld : World := { dueWorld with
  store := { dueStore with
    services := dueStore.services.map fun r => { r with metadata := .array [.text "vip"] } } }

/-- A second suspension adds to a list what is more than a stamp. -/
theorem suspend_again_listedWorld :
    let p : SuspendPayload := ⟨.ofNat 4, "overdue"⟩
    let once := ((Lifecycle.suspend p).run listedWorld).2
    let twice := ((Lifecycle.suspend p).run { once with now := ⟨2000, 0⟩ }).2
    listedWorld.faults = [] ∧ listedWorld.store.Linked ∧ ¬ SameBut ServiceRow.unsuspended once twice := by
  intro p once twice
  refine ⟨rfl, by decide, fun same => ?_⟩
  have written := congrArg (List.map fun r => r.metadata.write) same.2
  exact absurd written (by decide +kernel)

end HostingBilling
