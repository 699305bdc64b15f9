import HostingBilling.Ledger
import HostingBilling.Proofs.Rows
import HostingBilling.Proofs.Runs

/-!
# What a claim answers

A delivery is given its event when the event is new, has failed or was abandoned. Once the event is
finished, every further delivery is counted and refused.
-/

namespace HostingBilling.Ledger

/-- The row of an event. -/
def rowOf (e : GatewayEvent) (rows : List EventRow) : Option EventRow :=
  rows.find? fun r => r.eventId == e.id.text

/-- The event is new, or a delivery at this time may take it over. -/
def Claimable (now : Instant) (e : GatewayEvent) (rows : List EventRow) : Prop :=
  ∀ r, rowOf e rows = some r → mayReclaim now r = true

/-- The event is finished. -/
def Closed (e : GatewayEvent) (rows : List EventRow) : Prop :=
  ∃ r, rowOf e rows = some r ∧ r.processed = true ∧ r.error = none

variable {now : Instant} {e : GatewayEvent} {rows : List EventRow} {r : EventRow} {w : World}

/-! ## Marks and counts -/

theorem rowOf_changeRows {selects : EventRow → Bool} {change : EventRow → EventRow}
    (same : ∀ r, (change r).eventId = r.eventId) (found : rowOf e rows = some r) :
    rowOf e (changeRows selects change rows) = some (if selects r then change r else r) := by
  rw [rowOf, find?_changeRows fun r => by rw [same], ← rowOf, found]
  rfl

theorem rowOf_markRow (found : rowOf e rows = some r) (error : Option String) :
    rowOf e (markRow now r.id error rows) =
      some { r with processed := true, error := error, processedAt := some now } := by
  refine (rowOf_changeRows (by exact fun _ => rfl) found).trans ?_
  rw [if_pos (beq_self_eq_true _)]

/-- A failed event may be taken over at any time. -/
theorem claimable_markRow (found : rowOf e rows = some r) (error : String) (later : Instant) :
    Claimable later e (markRow now r.id (some error) rows) := by
  intro x is
  rw [rowOf_markRow found] at is
  cases is
  simp [mayReclaim]

theorem closed_markRow (found : rowOf e rows = some r) : Closed e (markRow now r.id none rows) :=
  ⟨_, rowOf_markRow found none, rfl, rfl⟩

theorem closed_countDelivery (h : Closed e rows) (eventId : String) :
    Closed e (countDelivery eventId rows) := by
  obtain ⟨r, found, processed, noError⟩ := h
  have counted : rowOf e (countDelivery eventId rows) =
      some (if r.eventId == eventId then { r with deliveries := r.deliveries + 1 } else r) :=
    rowOf_changeRows (by exact fun _ => rfl) found
  refine ⟨_, counted, ?_, ?_⟩ <;> split <;> assumption

/-! ## Other events, and further claims -/

/-- The row of an event is found by its identifier. -/
theorem rowOf_congr {e' : GatewayEvent} (same : e'.id = e.id) (rows : List EventRow) :
    rowOf e' rows = rowOf e rows := by rw [rowOf, same, ← rowOf]

theorem claimable_congr {e' : GatewayEvent} {rows' : List EventRow} (same : rowOf e' rows' = rowOf e rows) :
    Claimable now e' rows' ↔ Claimable now e rows := by rw [Claimable, same, ← Claimable]

theorem eventId_of_rowOf (found : rowOf e rows = some r) : r.eventId = e.id.text := by
  simpa using List.find?_some found

/-- A change of other rows is none of an event's business. -/
theorem rowOf_changeRows_of_not {selects : EventRow → Bool} {change : EventRow → EventRow}
    (same : ∀ r, (change r).eventId = r.eventId) (apart : ∀ r, rowOf e rows = some r → selects r = false) :
    rowOf e (changeRows selects change rows) = rowOf e rows := by
  rw [rowOf, find?_changeRows fun r => by rw [same], ← rowOf]
  cases found : rowOf e rows with
  | none => rfl
  | some r => simp [apart r found]

theorem rowOf_markRow_of_ne {e' : GatewayEvent} (keys : (rows.map (·.id)).Nodup) (other : e'.id ≠ e.id)
    (found : rowOf e rows = some r) (error : Option String) :
    rowOf e' (markRow now r.id error rows) = rowOf e' rows := by
  apply rowOf_changeRows_of_not (by exact fun _ => rfl)
  intro x is
  have apart : x.id ≠ r.id := by
    intro same
    have same : x = r :=
      eq_of_key keys (List.mem_of_find?_eq_some is) (List.mem_of_find?_eq_some found) same
    have text := (eventId_of_rowOf is).symm.trans (same ▸ eventId_of_rowOf found)
    exact other (congrArg EventId.mk text)
  simpa using apart

theorem rowOf_claimRow_of_ne {e' : GatewayEvent} (other : e'.id ≠ e.id) (id : Uuid) :
    rowOf e' (claimRow now id e rows).2 = rowOf e' rows := by
  have text : e'.id.text ≠ e.id.text := fun same => other (congrArg EventId.mk same)
  unfold claimRow
  cases rows.find? fun r => r.eventId == e.id.text with
  | none =>
    rw [rowOf, List.find?_append, ← rowOf]
    simp [newRow, text.symm]
  | some r =>
    dsimp only
    split
    · apply rowOf_changeRows_of_not (by exact fun _ => rfl)
      intro x is
      simpa [eventId_of_rowOf is] using text
    · rfl

/-- A claim adds one row at most, under the identifier it was given. -/
theorem claimRow_ids (now : Instant) (id : Uuid) (e : GatewayEvent) (rows : List EventRow) :
    (claimRow now id e rows).2.map (·.id) = rows.map (·.id) ∨
      (claimRow now id e rows).2.map (·.id) = rows.map (·.id) ++ [id] := by
  unfold claimRow
  split
  · right
    rw [List.map_append]
    rfl
  · split
    · exact .inl (map_changeRows _ fun _ => rfl)
    · exact .inl rfl

/-- A count changes nothing about who may claim. -/
theorem claimable_countDelivery (eventId : String) :
    Claimable now e (countDelivery eventId rows) ↔ Claimable now e rows := by
  unfold Claimable
  rw [countDelivery, rowOf, find?_changeRows (by exact fun _ => rfl), ← rowOf]
  cases rowOf e rows with
  | none => simp
  | some r =>
    simp only [Option.map_some, Option.some.injEq, forall_eq']
    split <;> rfl

/-- The last attempt on the event has ended. -/
def Ended (e : GatewayEvent) (rows : List EventRow) : Prop :=
  ∃ r, rowOf e rows = some r ∧ r.processed = true

/-- Once an attempt has ended, it does not matter when the next one comes. -/
theorem Ended.claimable_iff (h : Ended e rows) (now later : Instant) :
    Claimable now e rows ↔ Claimable later e rows := by
  obtain ⟨r, found, processed⟩ := h
  simp [Claimable, found, mayReclaim, processed]

theorem ended_markRow (found : rowOf e rows = some r) (error : Option String) :
    Ended e (markRow now r.id error rows) := ⟨_, rowOf_markRow found error, rfl⟩

/-! ## Claims -/

theorem claimRow_granted (h : Claimable now e rows) (id : Uuid) :
    ∃ r, (claimRow now id e rows).1 = some r.id ∧ rowOf e (claimRow now id e rows).2 = some r := by
  unfold claimRow
  cases found : rows.find? fun r => r.eventId == e.id.text with
  | none =>
    refine ⟨newRow now id e, rfl, ?_⟩
    rw [rowOf, List.find?_append, found]
    simp [newRow]
  | some r =>
    simp only [h r found, if_true]
    have is : r.eventId = e.id.text := by simpa using List.find?_some found
    refine ⟨reclaimed now r, rfl, (rowOf_changeRows (by exact fun _ => rfl) found).trans ?_⟩
    rw [if_pos (by simpa using is)]

theorem claimable_of_claimRow {id row : Uuid} (granted : (claimRow now id e rows).1 = some row) :
    Claimable now e rows := by
  intro r found
  unfold claimRow at granted
  rw [show rows.find? (fun r => r.eventId == e.id.text) = some r from found] at granted
  dsimp only at granted
  split at granted
  · assumption
  · cases granted

/-- A new event may be claimed. -/
theorem claimable_of_none (new : rowOf e rows = none) : Claimable now e rows := by
  intro r found
  rw [new] at found
  cases found

/-- A finished event is nobody's any more. -/
theorem not_claimable (h : Closed e rows) : ¬ Claimable now e rows := by
  obtain ⟨r, found, processed, noError⟩ := h
  intro claimable
  have may := claimable r found
  simp [mayReclaim, processed, noError] at may

theorem claimRow_refused (h : ¬ Claimable now e rows) (id : Uuid) : claimRow now id e rows = (none, rows) := by
  unfold claimRow
  cases found : rows.find? fun r => r.eventId == e.id.text with
  | none => exact absurd (claimable_of_none found) h
  | some r =>
    dsimp only
    split
    · next may =>
      refine absurd (fun x is => ?_) h
      cases found.symm.trans is
      exact may
    · rfl

/-- A delivery that may take the event is given its row, unless its claim is struck. -/
theorem claim_run (h : Claimable w.now e w.store.events) :
    ∃ r, rowOf e (claimRow w.now (.ofNat w.nextId) e w.store.events).2 = some r ∧
    (claim e).run w = if (strike .claimEvent w.faults).1 then
        (.error (.database .injected), { w with
          nextId := w.nextId + 1
          faults := (strike .claimEvent w.faults).2 })
      else (.ok (some r.id), { w with
        nextId := w.nextId + 1
        faults := (strike .claimEvent w.faults).2
        store := { w.store with events := (claimRow w.now (.ofNat w.nextId) e w.store.events).2 } }) := by
  obtain ⟨r, granted, found⟩ := claimRow_granted h (.ofNat w.nextId)
  refine ⟨r, found, ?_⟩
  rw [claim, Action.run_bind_of_ok (Action.run_freshId w)]
  cases struck : (strike .claimEvent w.faults).1 with
  | true =>
    have ran : (change .claimEvent fun now => onEvents (claimRow now (.ofNat w.nextId) e)).run
        { w with nextId := w.nextId + 1 } = (.error (.database .injected), { w with
          nextId := w.nextId + 1
          faults := (strike .claimEvent w.faults).2 }) := Action.run_execute_struck (by exact struck) _
    rw [Action.run_bind_of_error ran]
    rfl
  | false =>
    have ran : (change .claimEvent fun now => onEvents (claimRow now (.ofNat w.nextId) e)).run
        { w with nextId := w.nextId + 1 } = (.ok (some r.id), { w with
          nextId := w.nextId + 1
          faults := (strike .claimEvent w.faults).2
          store := { w.store with events := (claimRow w.now (.ofNat w.nextId) e w.store.events).2 } }) := by
      refine (Action.run_execute_unstruck (by exact struck) _).trans ?_
      simp only [onEvents, granted]
    rw [Action.run_bind_of_ok ran]
    rfl

/-- A delivery that was given its event could take it. -/
theorem claimable_of_claim {row : Uuid} {v : World} (ran : (claim e).run w = (.ok (some row), v)) :
    Claimable w.now e w.store.events := by
  rw [claim, Action.run_bind, Action.run_freshId] at ran
  obtain ⟨claimed, w₁, first, rest⟩ := Action.run_bind_ok ran
  obtain ⟨store, faults, answer, rfl⟩ := Action.run_execute_ok first
  have is : (claimRow w.now (.ofNat w.nextId) e w.store.events).1 = claimed :=
    congrArg Prod.fst (Except.ok.inj answer)
  cases claimed with
  | none =>
    obtain ⟨_, _, -, last⟩ := Action.run_bind_ok rest
    cases last
  | some row => exact claimable_of_claimRow is

section run

variable (calm : w.faults = [])

include calm

/-- Without faults it is given its row. -/
theorem claim_granted (h : Claimable w.now e w.store.events) :
    ∃ r, (claim e).run w = (.ok (some r.id), { w with
      nextId := w.nextId + 1
      store := { w.store with events := (claimRow w.now (.ofNat w.nextId) e w.store.events).2 } }) ∧
      rowOf e (claimRow w.now (.ofNat w.nextId) e w.store.events).2 = some r := by
  obtain ⟨r, found, ran⟩ := claim_run h
  refine ⟨r, ?_, found⟩
  rw [ran, calm]
  rfl

/-- A delivery that may not take the event is counted and refused. -/
theorem claim_refused (h : ¬ Claimable w.now e w.store.events) : (claim e).run w = (.ok none, { w with
    nextId := w.nextId + 1
    store := { w.store with events := countDelivery e.id.text w.store.events } }) := by
  have refused := claimRow_refused h (.ofNat w.nextId)
  simp only [claim, Action.run_bind, Action.run_freshId]
  rw [run_change (by exact calm)]
  simp only [onEvents, refused, Option.isNone_none, if_true]
  rw [Action.run_bind, run_change (by exact calm)]
  rfl

/-- So is a delivery of a finished event. -/
theorem claim_closed (h : Closed e w.store.events) : (claim e).run w = (.ok none, { w with
    nextId := w.nextId + 1
    store := { w.store with events := countDelivery e.id.text w.store.events } }) :=
  claim_refused calm (not_claimable h)

end run

end HostingBilling.Ledger
