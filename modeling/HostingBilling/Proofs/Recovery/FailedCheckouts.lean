import HostingBilling.Proofs.Ledger.Deliveries
import HostingBilling.Proofs.Ledger.Oblivious
import HostingBilling.Proofs.Operations.Moves

/-!
# Checkouts that fail

A checkout can fail before or after its order, its invoice and its payment were written. Main statement: it
leaves nothing but its failure in the ledger, and whatever is changed outside of the ledger afterwards, a
redelivery does there what a first delivery of the same event would do.
-/

namespace HostingBilling

/-- The same failure, reported for another event. -/
def Failure.reportedFor (id : EventId) : Failure → Failure
  | .eventFailed _ text => .eventFailed id.text text
  | f => f

/-- What an event tells is in its kind and its object. -/
theorem GatewayEvent.parse_congr {e e' : GatewayEvent} (kind : e'.kind = e.kind)
    (body : Json.at? ["data", "object"] e'.payload = Json.at? ["data", "object"] e.payload) :
    e'.parse = e.parse := by
  have read {α : Type} (decode : Json.Decoder α) : e'.object decode = e.object decode := by
    unfold object
    rw [body, kind]
  unfold parse parse.dispute
  simp only [kind, read]

namespace Delivery

variable {o : Outside} {e e' : GatewayEvent} {w : World}

/-! ## Two deliveries that are given their events -/

/-- A statement on the ledger goes through or is struck, whatever the ledger. -/
theorem ledger_change (s : Statement) (f f' : Instant → List EventRow → List EventRow) (w : World)
    (rows : List EventRow) : ∃ r w₁ rows', (r = .ok () ∨ r = .error (.database .injected)) ∧
      (change s fun now => Ledger.onEvents fun rows => ((), f now rows)).run w = (r, w₁) ∧
      (change s fun now => Ledger.onEvents fun rows => ((), f' now rows)).run (w.withLedger rows) =
        (r, w₁.withLedger rows') := by
  cases struck : (strike s w.faults).1 with
  | true =>
    exact ⟨_, _, rows, .inr rfl, Action.run_execute_struck struck _,
      Action.run_execute_struck (by exact struck) _⟩
  | false =>
    exact ⟨_, _, f' w.now rows, .inl rfl, Action.run_execute_unstruck struck _,
      Action.run_execute_unstruck (by exact struck) _⟩

/-- The ends of two deliveries that went the same way. -/
theorem conclude_alike (row row' : Uuid) (r : Except Failure DeliveryOutcome) (rows : List EventRow) :
    ((conclude e' row' r).run (w.withLedger rows)).1 =
        ((conclude e row r).run w).1.mapError (Failure.reportedFor e'.id) ∧
      ∃ rows', ((conclude e' row' r).run (w.withLedger rows)).2 =
        ((conclude e row r).run w).2.withLedger rows' := by
  cases r with
  | ok outcome =>
    obtain ⟨_, w₁, rows', rfl | rfl, ran, ran'⟩ := ledger_change .finishEvent
      (fun now => Ledger.markRow now row none) (fun now => Ledger.markRow now row' none) w rows
    · rw [conclude, conclude, Action.run_bind_of_ok (show (Ledger.finish row).run w = _ from ran),
        Action.run_bind_of_ok (show (Ledger.finish row').run _ = _ from ran')]
      exact ⟨rfl, rows', rfl⟩
    · rw [conclude, conclude, Action.run_bind_of_error (show (Ledger.finish row).run w = _ from ran),
        Action.run_bind_of_error (show (Ledger.finish row').run _ = _ from ran')]
      exact ⟨rfl, rows', rfl⟩
  | error failure =>
    obtain ⟨r, w₁, rows', -, ran, ran'⟩ := ledger_change .failEvent
      (fun now => Ledger.markRow now row (some failure.message))
      (fun now => Ledger.markRow now row' (some failure.message)) w rows
    have ran : (Ledger.recordError row failure.message).run w = (r, w₁) := ran
    have ran' : (Ledger.recordError row' failure.message).run (w.withLedger rows) =
      (r, w₁.withLedger rows') := ran'
    rw [conclude, conclude, Action.run_bind_of_ok (Action.run_attempt _ _),
      Action.run_bind_of_ok (Action.run_attempt _ _), ran, ran']
    exact ⟨rfl, rows', rfl⟩

/-- **Two deliveries that are given their events** and tell the same have the same outcome and do the same,
except to the ledger. -/
theorem process_alike {notification : Notification} (told : e.parse = .ok notification)
    (told' : e'.parse = .ok notification) (claimable : Ledger.Claimable w.now e w.store.events)
    (claimable' : Ledger.Claimable w.now e' w.store.events) :
    ((process o e').run w).1 = ((process o e).run w).1.mapError (Failure.reportedFor e'.id) ∧
      ∃ rows, ((process o e').run w).2 = ((process o e).run w).2.withLedger rows := by
  obtain ⟨r, -, ran⟩ := Ledger.claim_run claimable
  obtain ⟨r', -, ran'⟩ := Ledger.claim_run claimable'
  generalize (Ledger.claimRow w.now (.ofNat w.nextId) e w.store.events).2 = rows at ran
  generalize (Ledger.claimRow w.now (.ofNat w.nextId) e' w.store.events).2 = rows' at ran'
  cases struck : (strike .claimEvent w.faults).1 with
  | true =>
    rw [struck, if_pos rfl] at ran ran'
    have failed {d : GatewayEvent} {failure : Failure} {v : World} (told : d.parse = .ok notification)
        (ran : (Ledger.claim d).run w = (.error failure, v)) :
        (process o d).run w = (.error failure, v) := by
      rw [process, told, Action.run_bind_of_ok (Action.run_ofExcept_ok _ _),
        Action.run_bind_of_error ran]
    rw [failed told ran, failed told' ran']
    exact ⟨rfl, w.store.events, rfl⟩
  | false =>
    rw [struck, if_neg Bool.false_ne_true] at ran ran'
    let claimed : World := { w with
      nextId := w.nextId + 1
      faults := (strike .claimEvent w.faults).2
      store := { w.store with events := rows } }
    rw [process_granted told ran (Prod.eta _).symm, process_granted told' ran' (Prod.eta _).symm]
    -- the second handler runs in the claimed world with the other ledger
    have handled := handle_oblivious o notification claimed rows'
    have handled : (handle o notification).run _ = _ := handled
    rw [show (handle o notification).run { w with
      nextId := w.nextId + 1
      faults := (strike .claimEvent w.faults).2
      store := { w.store with events := rows' } } = _ from handled]
    exact conclude_alike r.id r'.id _ rows'

/-! ## A checkout that fails -/

theorem conclude_failed {row : Uuid} {failure : Failure} {u : World}
    (recordable : (strike .failEvent u.faults).1 = false) :
    (conclude e row (.error failure)).run u = (.error (.eventFailed e.id.text failure.message),
      recorded row (some failure.message) { u with faults := (strike .failEvent u.faults).2 }) := by
  have ran : (Ledger.recordError row failure.message).run u = (.ok (), recorded row (some failure.message)
      { u with faults := (strike .failEvent u.faults).2 }) := by
    rw [Ledger.recordError, change, Action.run_execute_unstruck recordable]
    rfl
  rw [conclude, Action.run_bind_of_ok (Action.run_attempt _ _), ran]
  rfl

/-- A delivery whose checkout fails leaves the failure on the row of its event, and no other trace in the
store. -/
theorem process_failed {c : Checkout} {row : Uuid} {failure : Failure} {v u : World}
    (told : e.parse = .ok (.checkout c)) (claimed : (Ledger.claim e).run w = (.ok (some row), v))
    (failed : c.carryOut.run v = (.error failure, u)) (recordable : (strike .failEvent u.faults).1 = false) :
    ∃ nextId faults rows r, (process o e).run w = (.error (.eventFailed e.id.text failure.message), { w with
        nextId := nextId
        faults := faults
        store := w.store.withLedger rows }) ∧
      Ledger.rowOf e rows = some r ∧ r.processed = true ∧ r.error = some failure.message := by
  obtain ⟨r, found, ran⟩ := Ledger.claim_run (Ledger.claimable_of_claim claimed)
  rw [claimed] at ran
  split at ran
  · cases ran
  · cases ran
    obtain ⟨nextId, faults, rfl⟩ := Checkout.carryOut_failed failed
    have handled := Action.run_bind_of_error failed fun tasks =>
      CommittedJob.submitAll o tasks >>= fun _ => pure DeliveryOutcome.processed
    refine ⟨_, _, _, _, (process_granted told claimed handled).trans (conclude_failed recordable),
      Ledger.rowOf_markRow found (some failure.message), rfl, rfl⟩

/-- **A checkout that fails leaves nothing but its failure**, and a redelivery is as good as a first
delivery. The failed delivery is reported; the row of its event is finished with that failure; the other
tables and the queue are as before. Whatever is changed then, except in the ledger: the next delivery of the
event has the outcome and the effect that the same body has under an identifier that the ledger does not
know, except in the ledger. -/
theorem failed_checkout_leaves_failure {c : Checkout} {row : Uuid} {failure : Failure} {v u : World}
    (told : e.parse = .ok (.checkout c)) (claimed : (Ledger.claim e).run w = (.ok (some row), v))
    (failed : c.carryOut.run v = (.error failure, u)) (recordable : (strike .failEvent u.faults).1 = false) :
    ((process o e).run w).1 = .error (.eventFailed e.id.text failure.message) ∧
    (∃ r, Ledger.rowOf e ((process o e).run w).2.store.events = some r ∧ r.processed = true ∧
      r.error = some failure.message) ∧
    ((process o e).run w).2.store = w.store.withLedger ((process o e).run w).2.store.events ∧
    ((process o e).run w).2.offered = w.offered ∧
    ∀ (o' : Outside) (e' : GatewayEvent) (later : World),
      later.store.events = ((process o e).run w).2.store.events → e'.kind = e.kind →
      Json.at? ["data", "object"] e'.payload = Json.at? ["data", "object"] e.payload →
      Ledger.rowOf e' later.store.events = none →
      ((process o' e').run later).1 =
          ((process o' e).run later).1.mapError (Failure.reportedFor e'.id) ∧
        ∃ rows, ((process o' e').run later).2 = ((process o' e).run later).2.withLedger rows := by
  obtain ⟨nextId, faults, rows, r, ran, found, processed, error⟩ :=
    process_failed (o := o) told claimed failed recordable
  rw [ran]
  refine ⟨rfl, ⟨r, found, processed, error⟩, rfl, rfl, ?_⟩
  intro o' e' later ledger kind body new
  have told' : e'.parse = .ok (.checkout c) := (GatewayEvent.parse_congr kind body).trans told
  apply process_alike told told' _ (Ledger.claimable_of_none new)
  intro x is
  rw [ledger] at is
  cases found.symm.trans is
  simp [Ledger.mayReclaim, error]

open Operations (repeatedEvent sampleEvent sampleOutside)

/-- The order of `Checkout.sampleStore` is still a draft. -/
def draftWorld : World := World.start { Checkout.sampleStore with
  orders := Checkout.sampleStore.orders.map fun x => { x with status := .draft } } ⟨1000, 0⟩ 100 ⟨"", "", ""⟩

/-- After its checkout has failed, the order waits to be paid. -/
def mendedWorld : World :=
  let failed := ((process (sampleOutside false) sampleEvent).run draftWorld).2
  { failed with store := { failed.store with orders := Checkout.sampleStore.orders } }

theorem failed_checkout_leaves_failure_mended :
    ((process (sampleOutside false) sampleEvent).run draftWorld).1 =
      .error (.eventFailed "evt_1" (OrderStatus.illegal .draft .paid).message) ∧
    ((process (sampleOutside false) sampleEvent).run mendedWorld).1 = .ok .processed ∧
    ((process (sampleOutside false) repeatedEvent).run mendedWorld).1 = .ok .processed ∧
    ∃ rows, ((process (sampleOutside false) repeatedEvent).run mendedWorld).2 =
      ((process (sampleOutside false) sampleEvent).run mendedWorld).2.withLedger rows := by
  have told : sampleEvent.parse = .ok (.checkout Checkout.sampleCheckout) := rfl
  have claimed := Action.run_eq_of_fst
    (show ((Ledger.claim sampleEvent).run draftWorld).1 = .ok (some (.ofNat 100)) by decide +kernel)
  have failed := Action.run_eq_of_fst
    (show (Checkout.sampleCheckout.carryOut.run ((Ledger.claim sampleEvent).run draftWorld).2).1 =
      .error (OrderStatus.illegal .draft .paid) by decide +kernel)
  have recordable : (strike .failEvent (Checkout.sampleCheckout.carryOut.run
      ((Ledger.claim sampleEvent).run draftWorld).2).2.faults).1 = false := by decide +kernel
  have processed : ((process (sampleOutside false) sampleEvent).run mendedWorld).1 = .ok .processed := by
    decide +kernel
  obtain ⟨reported, -, -, -, again⟩ :=
    failed_checkout_leaves_failure (o := sampleOutside false) told claimed failed recordable
  obtain ⟨alike, rows, left⟩ := again (sampleOutside false) repeatedEvent mendedWorld rfl rfl rfl
    (Option.isNone_iff_eq_none.mp (by decide +kernel))
  rw [processed] at alike
  exact ⟨reported, processed, alike, rows, left⟩

end Delivery

end HostingBilling
