import HostingBilling.Proofs.Ledger.Sequences
import HostingBilling.Proofs.Operations.RefundedOrders
import HostingBilling.Proofs.Payments.Rises

/-!
# Events about one payment, in any order

However the events about one payment are delivered, its status only rises. And where events of one
identifier tell the same, it ends in the greatest status that one of the events lifts it to: the order
of the deliveries does not matter, nor do the outcomes of the queue.
-/

namespace HostingBilling.Delivery

open Ledger (Claimable)

/-- Deliveries of events that make sense and are about the purchase with this intent. -/
def Tell (intent : IntentId) (ds : List (Attempt × GatewayEvent)) : Prop :=
  ∀ d ∈ ds, ∃ n, d.2.parse = .ok n ∧ n.About intent

/-- Events of one identifier tell the same. -/
def Consistent (es : List GatewayEvent) : Prop :=
  ∀ a ∈ es, ∀ b ∈ es, a.id = b.id → a.parse = b.parse

/-- Whoever may claim the events when they are delivered may claim them at this time: no claim on one of
them runs out in between. -/
def Steady (now : Instant) (rows : List EventRow) (ds : List (Attempt × GatewayEvent)) : Prop :=
  ∀ d ∈ ds, Claimable d.1.now d.2 rows ↔ Claimable now d.2 rows

/-- What an event lifts its payment to if it can be claimed. -/
def liftsOf (ready : Checkout → Prop) (now : Instant) (rows : List EventRow) (e : GatewayEvent) :
    Set PaymentStatus := {x | Claimable now e rows ∧ ∃ n, e.parse = .ok n ∧ x ∈ n.lifts ready}

/-- What some events lift their payment to. -/
def lifts (ready : Checkout → Prop) (now : Instant) (rows : List EventRow) (es : List GatewayEvent) :
    Set PaymentStatus := {x | ∃ e ∈ es, x ∈ liftsOf ready now rows e}

variable {a : Attempt} {e : GatewayEvent} {ds : List (Attempt × GatewayEvent)} {w w' : World}
  {n : Notification} {intent : IntentId} {id : Uuid} {status : PaymentStatus}

/-! ## One delivery -/

theorem deliver_rises (calm : w.faults = []) (keys : (w.store.payments.map (·.id)).Nodup)
    (told : e.parse = .ok n) (about : n.About intent) (holds : w.store.Holds intent id status) :
    Store.Rises (liftsOf (fun c => c.Ready id w.store) a.now w.store.events e) intent id status w.store
      (a.deliver e w).2.store := by
  let v : World := { w with now := a.now }
  by_cases claimable : Claimable a.now e w.store.events
  · obtain ⟨r, error, -, left⟩ := process_given (w := v) calm claimable told a.outside
    have risen := Notification.handle_rises (w := claimed e v) a.outside calm keys about holds
    have ready (c : Checkout) : c.Ready id (claimed e v).store ↔ c.Ready id w.store :=
      Checkout.ready_iff (.of_same rfl rfl rfl)
    have same : n.lifts (fun c => c.Ready id (claimed e v).store) =
        liftsOf (fun c => c.Ready id w.store) a.now w.store.events e := by
      ext x
      simp [liftsOf, claimable, told, ready]
    rw [Attempt.deliver, left, ← same]
    have risen := risen.earlier (s := w.store) rfl (.of_same rfl rfl rfl)
    exact risen.later (by rfl) (.of_same rfl rfl rfl)
  · have left : (a.deliver e w).2 = { v with
        nextId := w.nextId + 1
        store := { w.store with events := Ledger.countDelivery e.id.text w.store.events } } :=
      congrArg Prod.snd (process_refused (w := v) calm claimable told a.outside)
    rw [left]
    exact .stays holds rfl (fun x lifted => absurd lifted.1 claimable) fun _ => .of_same rfl rfl rfl

/-- What the events after it lift to, as one event and they before it. -/
theorem lifts_cons {ready : Checkout → Prop} {now : Instant} (enters : Enters a e w w')
    (steady : Claimable a.now e w.store.events ↔ Claimable now e w.store.events) {es : List GatewayEvent}
    (same : ∀ e' ∈ es, e'.id = e.id → e'.parse = e.parse) :
    lifts ready now w.store.events (e :: es) =
      liftsOf ready now w.store.events e ∪ lifts ready now w'.store.events es := by
  ext x
  constructor
  · rintro ⟨e', he', claimable, n, told, lifted⟩
    rcases List.mem_cons.mp he' with rfl | he'
    · exact .inl ⟨claimable, n, told, lifted⟩
    by_cases is : e'.id = e.id
    · have claimable := (Ledger.claimable_congr (Ledger.rowOf_congr is _)).mp claimable
      exact .inl ⟨claimable, n, same e' he' is ▸ told, lifted⟩
    · have claimable := (Ledger.claimable_congr (enters.others e' is)).mpr claimable
      exact .inr ⟨e', he', claimable, n, told, lifted⟩
  · rintro (⟨claimable, n, told, lifted⟩ | ⟨e', he', claimable, n, told, lifted⟩)
    · exact ⟨e, List.mem_cons_self, claimable, n, told, lifted⟩
    by_cases is : e'.id = e.id
    · have claimable := (Ledger.claimable_congr (Ledger.rowOf_congr is _)).mp claimable
      refine ⟨e, List.mem_cons_self, ?_, n, same e' he' is ▸ told, lifted⟩
      -- had the event been refused, it would still be
      by_contra refused
      rw [enters.refused fun claimed => refused (steady.mp claimed)] at claimable
      exact refused claimable
    · have claimable := (Ledger.claimable_congr (enters.others e' is)).mp claimable
      exact ⟨e', List.mem_cons_of_mem _ he', claimable, n, told, lifted⟩

theorem Steady.enters {now : Instant} (enters : Enters a e w w')
    (steady : Steady now w.store.events ((a, e) :: ds)) : Steady now w'.store.events ds := by
  intro d hd
  have before := steady d (List.mem_cons_of_mem _ hd)
  by_cases is : d.2.id = e.id
  · have same (now : Instant) (rows : List EventRow) : Claimable now d.2 rows ↔ Claimable now e rows :=
      Ledger.claimable_congr (Ledger.rowOf_congr is rows)
    rw [same, same] at before ⊢
    by_cases claimable : Claimable a.now e w.store.events
    · exact (enters.ended claimable).claimable_iff d.1.now now
    · rw [enters.refused claimable, enters.refused claimable]
      exact before
  · have same (now : Instant) : Claimable now d.2 w'.store.events ↔ Claimable now d.2 w.store.events :=
      Ledger.claimable_congr (enters.others d.2 is)
    rw [same, same]
    exact before

/-! ## Many deliveries -/

/-- However events about a payment are delivered, its status rises. -/
theorem deliverEach_rises (calm : w.faults = []) (keys : (w.store.payments.map (·.id)).Nodup)
    (tell : Tell intent ds) (holds : w.store.Holds intent id status) :
    ((deliverEach ds w).store.payments.map (·.id)).Nodup ∧
      ∃ status', (deliverEach ds w).store.Holds intent id status' ∧ status ≤ status' := by
  induction ds generalizing w status with
  | nil => exact ⟨keys, status, holds, le_refl _⟩
  | cons d rest ih =>
    obtain ⟨n, told, about⟩ := tell d List.mem_cons_self
    have risen := deliver_rises (a := d.1) calm keys told about holds
    obtain ⟨status₁, holds₁, ⟨-, above⟩, -⟩ := risen.lifted
    obtain ⟨keys', status', holds', le⟩ := ih ((deliver_counts d.1 d.2 w).2 calm) (risen.ids ▸ keys)
      (fun d' hd' => tell d' (List.mem_cons_of_mem _ hd')) holds₁
    exact ⟨keys', status', holds', le_trans (above (Set.mem_insert _ _)) le⟩

/-- Where events of one identifier tell the same, a payment ends in the greatest status that one of the
events lifts it to. The checkouts that go through are those that would at the start. -/
theorem deliverEach_lifts {ready : Checkout → Prop} {now : Instant} (calm : w.faults = [])
    (keys : (w.store.payments.map (·.id)).Nodup) (booked : w.Booked) (tell : Tell intent ds)
    (consistent : Consistent (ds.map Prod.snd)) (steady : Steady now w.store.events ds)
    (room : (deliverEach ds w).nextId ≤ Uuid.limit) (holds : w.store.Holds intent id status)
    (goes : status ≠ .refunded → ∀ c : Checkout, c.Ready id w.store ↔ ready c) :
    Store.Rises (lifts ready now w.store.events (ds.map Prod.snd)) intent id status w.store
      (deliverEach ds w).store := by
  induction ds generalizing w status with
  | nil => exact .stays holds rfl (fun x ⟨_, none_, _⟩ => by cases none_) fun _ => .of_same rfl rfl rfl
  | cons d rest ih =>
    obtain ⟨a, e⟩ := d
    obtain ⟨n, told, about⟩ := tell (a, e) List.mem_cons_self
    have room₁ : (a.deliver e w).2.nextId ≤ Uuid.limit :=
      Nat.le_trans (deliverEach_counts rest _).1 room
    have enters := deliver_enters (a := a) calm booked told
      (Nat.lt_of_lt_of_le (deliver_uses calm told a) room₁)
    have same : ∀ e' ∈ rest.map Prod.snd, e'.id = e.id → e'.parse = e.parse := fun e' he' =>
      consistent e' (List.mem_cons_of_mem _ he') e List.mem_cons_self
    rw [List.map_cons, lifts_cons enters (steady _ List.mem_cons_self) same]
    have risen := deliver_rises (a := a) calm keys told about holds
    have first : Store.Rises (liftsOf ready now w.store.events e) intent id status w.store
        (a.deliver e w).2.store := by
      by_cases refunded : status = .refunded
      · subst refunded
        exact risen.of_refunded
      · have same : (fun c => Checkout.Ready c id w.store) = ready :=
          funext fun c => propext (goes refunded c)
        have claimable : Claimable a.now e w.store.events ↔ Claimable now e w.store.events :=
          steady _ List.mem_cons_self
        rw [same, liftsOf, claimable, ← liftsOf] at risen
        exact risen
    refine first.trans fun status₁ holds₁ le₁ beside =>
      ih ((deliver_counts a e w).2 calm) (risen.ids ▸ keys) enters.booked
      (fun d hd => tell d (List.mem_cons_of_mem _ hd)) ?_ (steady.enters enters) room holds₁ ?_
    · exact fun x hx y hy => consistent x (List.mem_cons_of_mem _ hx) y (List.mem_cons_of_mem _ hy)
    · intro open₁ c
      have open_ : status ≠ .refunded := by
        rintro rfl
        exact open₁ (PaymentStatus.eq_refunded le₁)
      rw [Checkout.ready_iff (beside open₁), goes open_]

/-- However events about a payment are delivered, its status only rises and never leaves refunded. And where
events of one identifier tell the same, and no claim on one of them runs out in between, every order of
their deliveries ends in the same status: the greatest of the one before and those that the events which
can be claimed lift it to. -/
theorem payment_status_any_order (calm : w.faults = []) (booked : w.Booked)
    (keys : (w.store.payments.map (·.id)).Nodup) (holds : w.store.Holds intent id status)
    (tell : Tell intent ds) :
    (∀ before after, ds = before ++ after → ∃ middle last,
      (deliverEach before w).store.Holds intent id middle ∧ (deliverEach ds w).store.Holds intent id last ∧
        status ≤ middle ∧ middle ≤ last ∧ (middle = .refunded → last = .refunded)) ∧
    ∀ ds' now, (ds'.map Prod.snd).Perm (ds.map Prod.snd) → Consistent (ds.map Prod.snd) →
      Steady now w.store.events ds → Steady now w.store.events ds' →
      (deliverEach ds w).nextId ≤ Uuid.limit → (deliverEach ds' w).nextId ≤ Uuid.limit →
      ∃ last, (deliverEach ds w).store.Holds intent id last ∧
        (deliverEach ds' w).store.Holds intent id last ∧
        IsGreatest (insert status
          (lifts (fun c => c.Ready id w.store) now w.store.events (ds.map Prod.snd))) last := by
  constructor
  · rintro before after rfl
    have first : Tell intent before := fun d hd => tell d (List.mem_append_left _ hd)
    have second : Tell intent after := fun d hd => tell d (List.mem_append_right _ hd)
    obtain ⟨keys', middle, holds', le⟩ := deliverEach_rises calm keys first holds
    obtain ⟨-, last, holds'', le'⟩ :=
      deliverEach_rises ((deliverEach_counts before w).2 calm) keys' second holds'
    refine ⟨middle, last, holds', ?_, le, le', ?_⟩
    · rw [deliverEach_append]
      exact holds''
    · rintro rfl
      exact PaymentStatus.eq_refunded le'
  · intro ds' now perm consistent steady steady' room room'
    have tell' : Tell intent ds' := by
      intro d hd
      obtain ⟨d', hd', same⟩ := List.mem_map.mp (perm.mem_iff.mp (List.mem_map_of_mem hd))
      rw [← same]
      exact tell d' hd'
    have consistent' : Consistent (ds'.map Prod.snd) := fun x hx y hy =>
      consistent x (perm.mem_iff.mp hx) y (perm.mem_iff.mp hy)
    obtain ⟨-, last, holds₁, greatest, -⟩ :=
      deliverEach_lifts calm keys booked tell consistent steady room holds fun _ _ => Iff.rfl
    obtain ⟨-, last', holds₂, greatest', -⟩ :=
      deliverEach_lifts calm keys booked tell' consistent' steady' room' holds fun _ _ => Iff.rfl
    have same : lifts (fun c => c.Ready id w.store) now w.store.events (ds'.map Prod.snd) =
        lifts (fun c => c.Ready id w.store) now w.store.events (ds.map Prod.snd) := by
      ext x
      simp only [lifts, perm.mem_iff]
    rw [same] at greatest'
    exact ⟨last, holds₁, greatest'.unique greatest ▸ holds₂, greatest⟩

/-! ## Samples -/

open Operations (sampleEvent sampleOutside refundEvent refusing openingWorld)

/-- An event as the gateway reports it. -/
def reported (id kind : String) (object : Json) : GatewayEvent where
  id := ⟨id⟩
  kind
  payload := .object [("data", .object [("object", object)]), ("id", .text id), ("type", .text kind)]

/-- The payment of the sample has failed. -/
def failureEvent : GatewayEvent :=
  reported "evt_5" "payment_intent.payment_failed" (.object [("id", .text "pi_1")])

/-- The order of the sample with a payment that is still pending. -/
def pendingWorld : World := { openingWorld with
  store := { openingWorld.store with
    payments := [⟨.ofNat 7, .ofNat 9, some (.ofNat 1), none, some "pi_1", some "cs_1", 1000, "USD",
      .pending, "card", ⟨1000, 0⟩, ⟨1000, 0⟩⟩] } }

/-- The payment is made, made again while the queue refuses, reported failed and refunded. -/
def purchase : List (Attempt × GatewayEvent) := [
  (⟨sampleOutside true, ⟨1000, 0⟩⟩, sampleEvent),
  (⟨refusing, ⟨1000, 0⟩⟩, sampleEvent),
  (⟨sampleOutside true, ⟨1001, 0⟩⟩, failureEvent),
  (⟨sampleOutside true, ⟨1002, 0⟩⟩, refundEvent)]

theorem purchase_tells : Tell ⟨"pi_1"⟩ purchase := by
  intro d hd
  simp only [purchase, List.mem_cons, List.not_mem_nil, or_false] at hd
  rcases hd with rfl | rfl | rfl | rfl <;> exact ⟨_, rfl, rfl⟩

theorem purchase_consistent : Consistent (purchase.map Prod.snd) := by
  intro x hx y hy same
  simp only [purchase, List.map_cons, List.map_nil, List.mem_cons, List.not_mem_nil, or_false] at hx hy
  rcases hx with rfl | rfl | rfl | rfl <;> rcases hy with rfl | rfl | rfl | rfl <;>
    first | rfl | exact absurd same (by decide)

/-- Nothing can run out in a ledger without claims. -/
theorem steady_of_new (now : Instant) : Steady now [] ds :=
  fun _ _ => iff_of_true (Ledger.claimable_of_none rfl) (Ledger.claimable_of_none rfl)

theorem payment_status_any_order_reversed :
    (deliverEach purchase pendingWorld).store.Holds ⟨"pi_1"⟩ (.ofNat 7) .refunded ∧
    (deliverEach purchase.reverse pendingWorld).store.Holds ⟨"pi_1"⟩ (.ofNat 7) .refunded := by
  have booked : pendingWorld.Booked := ⟨by decide, by decide⟩
  have holds : pendingWorld.store.Holds ⟨"pi_1"⟩ (.ofNat 7) .pending := by decide
  have room : (deliverEach purchase pendingWorld).nextId ≤ Uuid.limit := by decide +kernel
  have room' : (deliverEach purchase.reverse pendingWorld).nextId ≤ Uuid.limit := by decide +kernel
  obtain ⟨-, any⟩ := payment_status_any_order rfl booked (by decide) holds purchase_tells
  obtain ⟨last, ends, ends', -, above⟩ := any purchase.reverse ⟨1000, 0⟩ ((List.reverse_perm _).map _)
    purchase_consistent (steady_of_new _) (steady_of_new _) room room'
  have refunded : .refunded ≤ last := by
    apply above
    right
    exact ⟨refundEvent, by simp [purchase], Ledger.claimable_of_none rfl, _, rfl, rfl, rfl⟩
  cases PaymentStatus.eq_refunded refunded
  exact ⟨ends, ends'⟩

/-- The refund under the identifier of the checkout. -/
def twinRefund : GatewayEvent := reported "evt_1" "charge.refunded" (.object [
  ("payment_intent", .text "pi_1"),
  ("refunds", .object [("data", .array [
    .object [("amount", .int 1000), ("id", .text "re_1"), ("status", .text "succeeded")]])])])

/-- Two events under one identifier. -/
def twins : List (Attempt × GatewayEvent) := [
  (⟨sampleOutside true, ⟨1000, 0⟩⟩, sampleEvent),
  (⟨sampleOutside true, ⟨1000, 0⟩⟩, twinRefund)]

/-- A delivery of the checkout was abandoned before it came to anything. -/
def abandonedWorld : World := { pendingWorld with
  store := { pendingWorld.store with events := [Ledger.newRow ⟨1000, 0⟩ (.ofNat 8) sampleEvent] } }

/-- One event is delivered while the abandoned claim still counts, and another once it does not. -/
def spaced (first second : GatewayEvent) : List (Attempt × GatewayEvent) := [
  (⟨sampleOutside true, ⟨1001, 0⟩⟩, first),
  (⟨sampleOutside true, ⟨1200, 0⟩⟩, second)]

/-- The payment of the sample has this status. -/
def SampleHolds (status : PaymentStatus) (w : World) : Prop := w.store.Holds ⟨"pi_1"⟩ (.ofNat 7) status

instance (status : PaymentStatus) (w : World) : Decidable (SampleHolds status w) :=
  inferInstanceAs (Decidable (w.store.Holds _ _ _))

/-- Under one identifier only the event that comes first is heard, and an event that is refused for a
claim that runs out later is not heard either: here the order of the deliveries decides. -/
theorem payment_status_depends_on_order :
    (pendingWorld.Booked ∧ SampleHolds .pending pendingWorld ∧ Tell ⟨"pi_1"⟩ twins ∧
      (twins.reverse.map Prod.snd).Perm (twins.map Prod.snd) ∧
      SampleHolds .succeeded (deliverEach twins pendingWorld) ∧
      SampleHolds .refunded (deliverEach twins.reverse pendingWorld)) ∧
    abandonedWorld.Booked ∧ SampleHolds .pending abandonedWorld ∧
      Tell ⟨"pi_1"⟩ (spaced sampleEvent failureEvent) ∧
      ((spaced failureEvent sampleEvent).map Prod.snd).Perm
        ((spaced sampleEvent failureEvent).map Prod.snd) ∧
      SampleHolds .failed (deliverEach (spaced sampleEvent failureEvent) abandonedWorld) ∧
      SampleHolds .succeeded (deliverEach (spaced failureEvent sampleEvent) abandonedWorld) := by
  have tell {e e' : GatewayEvent} {a a' : Attempt} (first : ∃ n, e.parse = .ok n ∧ n.About ⟨"pi_1"⟩)
      (second : ∃ n, e'.parse = .ok n ∧ n.About ⟨"pi_1"⟩) : Tell ⟨"pi_1"⟩ [(a, e), (a', e')] :=
    List.forall_mem_cons.mpr ⟨first, List.forall_mem_singleton.mpr second⟩
  constructor
  · refine ⟨⟨by decide, by decide⟩, by decide, tell ⟨_, rfl, rfl⟩ ⟨_, rfl, rfl⟩, ?_, ?_, ?_⟩
    · exact (List.reverse_perm _).map _
    · decide +kernel
    · decide +kernel
  · refine ⟨⟨by decide, by decide⟩, by decide, tell ⟨_, rfl, rfl⟩ ⟨_, rfl, rfl⟩, ?_, ?_, ?_⟩
    · exact .swap _ _ _
    · decide +kernel
    · decide +kernel

end HostingBilling.Delivery
