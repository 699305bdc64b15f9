import HostingBilling.Proofs.Jobs.Commitment
import HostingBilling.Proofs.Ledger.Claims

/-!
# One delivery

A delivery that is given its event handles it and records in the ledger how that went; what it does beyond
that is up to the handler.
-/

namespace HostingBilling.Delivery

/-- A delivery of an event: what lies outside, and the time. -/
structure Attempt where
  outside : Outside
  now : Instant

def Attempt.deliver (a : Attempt) (e : GatewayEvent) (w : World) :
    Except Failure DeliveryOutcome × World := (process a.outside e).run { w with now := a.now }

/-- The world once the end of an attempt is recorded in the ledger. -/
def recorded (row : Uuid) (error : Option String) (w : World) : World := { w with
  store := { w.store with events := Ledger.markRow w.now row error w.store.events } }

section run

variable {o : Outside} {e : GatewayEvent} {w w₁ w₂ : World}

theorem conclude_ok (calm : w.faults = []) (row : Uuid) (outcome : DeliveryOutcome) :
    (conclude e row (.ok outcome)).run w = (.ok outcome, recorded row none w) := by
  rw [conclude, Ledger.finish, Action.run_bind_of_ok (run_change calm _ _)]
  rfl

theorem conclude_error (calm : w.faults = []) (row : Uuid) (failure : Failure) :
    (conclude e row (.error failure)).run w =
      (.error (.eventFailed e.id.text failure.message), recorded row (some failure.message) w) := by
  rw [conclude, Ledger.recordError, Action.run_bind, Action.run_attempt, run_change calm]
  rfl

theorem process_granted {notification : Notification} {row : Uuid} {r : Except Failure DeliveryOutcome}
    (parsed : e.parse = .ok notification) (claimed : (Ledger.claim e).run w = (.ok (some row), w₁))
    (handled : (handle o notification).run w₁ = (r, w₂)) :
    (process o e).run w = (conclude e row r).run w₂ := by
  rw [process, parsed, Action.run_bind_of_ok (Action.run_ofExcept_ok _ _), Action.run_bind_of_ok claimed]
  dsimp only
  rw [Action.run_bind, Action.run_attempt, handled]

/-- How a delivery ends whose checkout went through: the jobs are submitted, and a refusal makes it
fail. -/
theorem process_checkout {c : Checkout} {row : Uuid} {tasks : List CommittedJob}
    (parsed : e.parse = .ok (.checkout c)) (claimed : (Ledger.claim e).run w = (.ok (some row), w₁))
    (carried : c.carryOut.run w₁ = (.ok tasks, w₂)) (calm : w₂.faults = []) :
    ∃ error result, (process o e).run w =
        (result, recorded row error (CommittedJob.allAnswered o tasks w₂)) ∧
      ((∀ i < tasks.length, o.refuses (w₂.offered.length + i) = false) ∧ error = none ∧
          result = .ok .processed ∨
        (∃ i < tasks.length, o.refuses (w₂.offered.length + i) = true) ∧ ∃ m, error = some m ∧
          result = .error (.eventFailed e.id.text m)) := by
  obtain ⟨r, submitted, all⟩ := CommittedJob.submitAll_run calm o tasks
  have calm₁ := ((CommittedJob.submitAll_counts o tasks).follows submitted).calm calm
  have handled : (handle o (.checkout c)).run w₁ =
      (CommittedJob.submitAll o tasks >>= fun _ => pure .processed).run w₂ :=
    Action.run_bind_of_ok carried _
  cases r with
  | error f =>
    rw [Action.run_bind_of_error submitted] at handled
    have ran := (process_granted parsed claimed handled).trans (conclude_error calm₁ row f)
    refine ⟨_, _, ran, .inr ⟨?_, _, rfl, rfl⟩⟩
    simpa [Except.isOk, Except.toBool] using all
  | ok n =>
    rw [Action.run_bind_of_ok submitted] at handled
    have ran := (process_granted parsed claimed handled).trans (conclude_ok calm₁ row .processed)
    exact ⟨_, _, ran, .inl ⟨all.mp rfl, rfl, rfl⟩⟩

theorem handle_counts (o : Outside) (notification : Notification) :
    (handle o notification).Keeps fun _ _ => True := by
  have declines {a : Action Unit} (h : a.Keeps Store.Declines) :
      (a >>= fun _ => pure DeliveryOutcome.processed).Keeps fun _ _ => True :=
    Chain.all.bind (h.mono fun _ => trivial) fun _ => Chain.all.pure _
  cases notification with
  | checkout c =>
    exact Chain.all.bind (Checkout.carryOut_counts c) fun tasks =>
      Chain.all.bind (CommittedJob.submitAll_counts o tasks) fun _ => Chain.all.pure _
  | paymentFailed intent => exact declines (Reversal.failPayment_declines intent)
  | refund r => exact declines (Reversal.refund_declines r)
  | dispute d => exact declines (Reversal.dispute_declines d)
  | unhandled => exact Chain.all.pure _

/-- The world in which an event is claimed. -/
def claimed (e : GatewayEvent) (w : World) : World := { w with
  nextId := w.nextId + 1
  store := { w.store with events := (Ledger.claimRow w.now (.ofNat w.nextId) e w.store.events).2 } }

/-- A delivery that is given its event does in the other tables what its handler does. -/
theorem process_given {notification : Notification} (calm : w.faults = [])
    (claimable : Ledger.Claimable w.now e w.store.events) (parsed : e.parse = .ok notification) (o : Outside) :
    ∃ r error, Ledger.rowOf e (claimed e w).store.events = some r ∧
      ((process o e).run w).2 = recorded r.id error ((handle o notification).run (claimed e w)).2 := by
  obtain ⟨r, ran, found⟩ := Ledger.claim_granted calm claimable
  have counts := (handle_counts o notification (claimed e w)).calm calm
  rcases handled : (handle o notification).run (claimed e w) with ⟨failure | outcome, w₂⟩ <;>
    rw [handled] at counts
  · refine ⟨r, some failure.message, found, ?_⟩
    rw [process_granted parsed ran handled, conclude_error counts]
  · refine ⟨r, none, found, ?_⟩
    rw [process_granted parsed ran handled, conclude_ok counts]

/-- A delivery that is not given its event only counts it. -/
theorem process_refused {notification : Notification} (calm : w.faults = [])
    (refused : ¬ Ledger.Claimable w.now e w.store.events) (parsed : e.parse = .ok notification) (o : Outside) :
    (process o e).run w = (.ok .duplicate, { w with
      nextId := w.nextId + 1
      store := { w.store with events := Ledger.countDelivery e.id.text w.store.events } }) := by
  rw [process, parsed, Action.run_bind_of_ok (Action.run_ofExcept_ok _ _),
    Action.run_bind_of_ok (Ledger.claim_refused calm refused)]
  rfl

theorem process_counts (o : Outside) (e : GatewayEvent) : (process o e).Keeps fun _ _ => True := by
  refine Chain.all.bind (Chain.all.ofExcept _) fun notification =>
    Chain.all.bind ((Ledger.claim_still e).mono fun _ => trivial) ?_
  rintro (_ | row)
  · exact Chain.all.pure _
  · exact Chain.all.bind (handle_counts o notification).attempt fun result =>
      (conclude_still e row result).mono fun _ => trivial

end run

end HostingBilling.Delivery
