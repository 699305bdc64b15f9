import HostingBilling.Proofs.Ledger.Deliveries
import HostingBilling.Proofs.Ledger.Oblivious

/-!
# Deliveries of many events

What one delivery leaves in the ledger to the deliveries after it: an event that was given out has ended, an
event that was refused is refused as before, and the other events are not concerned.
-/

namespace HostingBilling

/-- Rows of the ledger can be told apart, with numbers that are used up. -/
structure World.Booked (w : World) : Prop where
  ids : (w.store.events.map (·.id)).Nodup
  numbered : ∀ r ∈ w.store.events, r.id.val < w.nextId

namespace Delivery

open Ledger (Claimable Ended rowOf)

/-- The world after some deliveries. -/
def deliverEach (ds : List (Attempt × GatewayEvent)) (w : World) : World :=
  ds.foldl (fun w d => (d.1.deliver d.2 w).2) w

theorem deliverEach_append (before after : List (Attempt × GatewayEvent)) (w : World) :
    deliverEach (before ++ after) w = deliverEach after (deliverEach before w) := List.foldl_append ..

variable {a : Attempt} {e : GatewayEvent} {w : World} {n : Notification}

theorem deliver_counts (a : Attempt) (e : GatewayEvent) (w : World) :
    w.nextId ≤ (a.deliver e w).2.nextId ∧ (w.faults = [] → (a.deliver e w).2.faults = []) :=
  have counts := process_counts a.outside e { w with now := a.now }
  ⟨counts.nextId, counts.calm⟩

theorem deliverEach_counts (ds : List (Attempt × GatewayEvent)) (w : World) :
    w.nextId ≤ (deliverEach ds w).nextId ∧ (w.faults = [] → (deliverEach ds w).faults = []) := by
  induction ds generalizing w with
  | nil => exact ⟨Nat.le_refl _, id⟩
  | cons d rest ih =>
    obtain ⟨more, calm⟩ := deliver_counts d.1 d.2 w
    obtain ⟨more', calm'⟩ := ih (d.1.deliver d.2 w).2
    exact ⟨Nat.le_trans more more', fun h => calm' (calm h)⟩

/-- Every delivery of an event that makes sense uses a number up. -/
theorem deliver_uses (calm : w.faults = []) (told : e.parse = .ok n) (a : Attempt) :
    w.nextId < (a.deliver e w).2.nextId := by
  let v : World := { w with now := a.now }
  by_cases claimable : Claimable a.now e w.store.events
  · obtain ⟨_, _, -, left⟩ := process_given (w := v) calm claimable told a.outside
    rw [Attempt.deliver, left]
    exact (handle_counts a.outside n (claimed e v)).nextId
  · rw [Attempt.deliver, process_refused (w := v) calm claimable told]
    exact Nat.lt_succ_self _

theorem handle_events (o : Outside) (n : Notification) (w : World) :
    ((handle o n).run w).2.store.events = w.store.events := by
  have unseen : (handle o n).run w =
      (((handle o n).run w).1, ((handle o n).run w).2.withLedger w.store.events) :=
    handle_oblivious o n w w.store.events
  rw [unseen]
  rfl

/-- What a delivery leaves to the next ones. -/
structure Enters (a : Attempt) (e : GatewayEvent) (w w' : World) : Prop where
  booked : w'.Booked
  others : ∀ e', e'.id ≠ e.id → rowOf e' w'.store.events = rowOf e' w.store.events
  ended : Claimable a.now e w.store.events → Ended e w'.store.events
  refused : ¬ Claimable a.now e w.store.events →
    ∀ now, Claimable now e w'.store.events ↔ Claimable now e w.store.events

theorem claimed_booked (h : w.Booked) (room : w.nextId < Uuid.limit) : (claimed e w).Booked := by
  have rows := Ledger.claimRow_ids w.now (.ofNat w.nextId) e w.store.events
  have fresh : ∀ r ∈ w.store.events, r.id ≠ .ofNat w.nextId := fun r hr =>
    Uuid.ne_ofNat (h.numbered r hr) room
  constructor
  · change ((Ledger.claimRow _ _ _ _).2.map (·.id)).Nodup
    rcases rows with same | added
    · rw [same]
      exact h.ids
    · rw [added]
      simpa [List.nodup_append] using ⟨h.ids, fresh⟩
  · intro r hr
    have listed : r.id ∈ (Ledger.claimRow w.now (.ofNat w.nextId) e w.store.events).2.map (·.id) :=
      List.mem_map_of_mem hr
    have below : r.id ∈ w.store.events.map (·.id) → r.id.val < w.nextId + 1 := by
      intro old
      obtain ⟨x, hx, is⟩ := List.mem_map.mp old
      rw [← is]
      exact Nat.lt_succ_of_lt (h.numbered x hx)
    rcases rows with same | added
    · exact below (same ▸ listed)
    · rw [added] at listed
      rcases List.mem_append.mp listed with old | new
      · exact below old
      · rw [List.mem_singleton.mp new, Uuid.val_ofNat room]
        exact Nat.lt_succ_self _

theorem deliver_enters (calm : w.faults = []) (booked : w.Booked) (told : e.parse = .ok n)
    (room : w.nextId < Uuid.limit) : Enters a e w (a.deliver e w).2 := by
  let v : World := { w with now := a.now }
  by_cases claimable : Claimable a.now e w.store.events
  · obtain ⟨r, error, found, left⟩ := process_given (w := v) calm claimable told a.outside
    have left : (a.deliver e w).2 = recorded r.id error ((handle a.outside n).run (claimed e v)).2 := left
    have events : ((handle a.outside n).run (claimed e v)).2.store.events = (claimed e v).store.events :=
      handle_events _ _ _
    have counted : v.nextId + 1 ≤ ((handle a.outside n).run (claimed e v)).2.nextId :=
      (handle_counts a.outside n (claimed e v)).nextId
    have given : (claimed e v).Booked := claimed_booked ⟨booked.ids, booked.numbered⟩ room
    have ledger : (a.deliver e w).2.store.events =
        Ledger.markRow ((handle a.outside n).run (claimed e v)).2.now r.id error
          (claimed e v).store.events := by
      rw [left, ← events]
      rfl
    have nextId : (a.deliver e w).2.nextId = ((handle a.outside n).run (claimed e v)).2.nextId := by
      rw [left]
      rfl
    constructor
    · constructor
      · rw [ledger]
        exact nodup_changeRows given.ids fun _ => rfl
      · intro x hx
        rw [ledger] at hx
        obtain ⟨y, hy, is⟩ := mem_changeRows.mp hx
        have := Nat.lt_of_lt_of_le (given.numbered y hy) counted
        rw [is, nextId]
        split <;> exact this
    · intro e' other
      rw [ledger, Ledger.rowOf_markRow_of_ne given.ids other found]
      exact Ledger.rowOf_claimRow_of_ne other _
    · intro _
      rw [ledger]
      exact Ledger.ended_markRow found error
    · exact absurd claimable
  · have left : (a.deliver e w).2 = { v with
        nextId := w.nextId + 1
        store := { w.store with events := Ledger.countDelivery e.id.text w.store.events } } :=
      congrArg Prod.snd (process_refused (w := v) calm claimable told a.outside)
    rw [left]
    constructor
    · constructor
      · exact nodup_changeRows booked.ids fun _ => rfl
      · intro x hx
        obtain ⟨y, hy, is⟩ := mem_changeRows.mp hx
        have := Nat.lt_succ_of_lt (booked.numbered y hy)
        rw [is]
        split <;> exact this
    · intro e' other
      apply Ledger.rowOf_changeRows_of_not (by exact fun _ => rfl)
      intro r is
      have text : e'.id.text ≠ e.id.text := fun same => other (congrArg EventId.mk same)
      simpa [Ledger.eventId_of_rowOf is] using text
    · exact fun yes => absurd yes claimable
    · exact fun _ now => Ledger.claimable_countDelivery _

end Delivery

end HostingBilling
