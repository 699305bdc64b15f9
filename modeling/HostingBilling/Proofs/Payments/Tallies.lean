import HostingBilling.Proofs.Gateway.Documents
import HostingBilling.Proofs.Ledger.Sequences
import HostingBilling.Proofs.Payments.Charges
import HostingBilling.Proofs.Payments.Confluence

/-!
# What the gateway has told of refunds and disputes

Refunds and disputes are told again and again, under identifiers of the gateway. Main statement: after any
deliveries of distinct events there is one row for each identifier that a document told of a payment then
there; it belongs to the payment it was told of first, and holds what was told last.
-/

namespace HostingBilling

/-! ## Rows that hold what was told -/

section tallies

variable {ρ α : Type} {key : α → String} {owner : ρ → Uuid} {content : ρ → α}

/-- One row for each key that was told, with the owner it was told with first and the content it was told
with last. -/
structure Tallies (key : α → String) (owner : ρ → Uuid) (content : ρ → α) (told : List (Uuid × α))
    (rows : List ρ) : Prop where
  once : (rows.map fun r => key (content r)).Nodup
  known : ∀ x ∈ told, ∃ r ∈ rows, key (content r) = key x.2
  first : ∀ r ∈ rows, (told.find? fun x => key x.2 == key (content r)).map Prod.fst = some (owner r)
  last : ∀ r ∈ rows, (told.reverse.find? fun x => key x.2 == key (content r)).map Prod.snd = some (content r)

/-- How one thing told is noted: its row takes the new content, or there is a new row. -/
inductive Notes (key : α → String) (owner : ρ → Uuid) (content : ρ → α) (x : Uuid × α) (rows : List ρ) :
    List ρ → Prop
  | changed {change : ρ → ρ} (there : ∃ r ∈ rows, key (content r) = key x.2)
      (kept : ∀ r, owner (change r) = owner r)
      (renewed : ∀ r, key (content r) = key x.2 → content (change r) = x.2) :
      Notes key owner content x rows (changeRows (fun r => key (content r) == key x.2) change rows)
  | added {row : ρ} (new : ∀ r ∈ rows, key (content r) ≠ key x.2) (own : owner row = x.1)
      (filled : content row = x.2) : Notes key owner content x rows (rows ++ [row])

namespace Tallies

variable {told records : List (Uuid × α)} {rows rows' : List ρ} {x : Uuid × α}

theorem nil : Tallies key owner content [] [] :=
  ⟨List.nodup_nil, fun _ hx => (List.not_mem_nil hx).elim, fun _ hr => (List.not_mem_nil hr).elim,
    fun _ hr => (List.not_mem_nil hr).elim⟩

/-- A key that no row has was not told. -/
theorem untold (h : Tallies key owner content told rows) {k : String}
    (new : ∀ r ∈ rows, key (content r) ≠ k) : (told.find? fun y => key y.2 == k) = none := by
  apply List.find?_eq_none.mpr
  intro y hy same
  obtain ⟨r, hr, is⟩ := h.known y hy
  exact new r hr (is.trans (by simpa using same))

theorem note (h : Tallies key owner content told rows) (noted : Notes key owner content x rows rows') :
    Tallies key owner content (told ++ [x]) rows' := by
  cases noted with
  | @changed change there kept renewed =>
    have keys : ∀ r, key (content (if key (content r) == key x.2 then change r else r)) = key (content r) := by
      intro r
      split
      · next same =>
        have same : key (content r) = key x.2 := by simpa using same
        rw [renewed r same, same]
      · rfl
    constructor
    · have same : (changeRows (fun r => key (content r) == key x.2) change rows).map
          (fun r => key (content r)) = rows.map fun r => key (content r) := by
        simp only [changeRows, List.map_map]
        exact List.map_congr_left fun r _ => keys r
      exact same ▸ h.once
    · intro y hy
      obtain ⟨r, hr, is⟩ : ∃ r ∈ rows, key (content r) = key y.2 := by
        rcases List.mem_append.mp hy with hy | hy
        · exact h.known y hy
        · exact List.mem_singleton.mp hy ▸ there
      exact ⟨_, mem_changeRows.mpr ⟨r, hr, rfl⟩, (keys r).trans is⟩
    · intro r' hr'
      obtain ⟨r, hr, rfl⟩ := mem_changeRows.mp hr'
      have own : owner (if key (content r) == key x.2 then change r else r) = owner r := by
        split
        · exact kept r
        · rfl
      obtain ⟨y, found, is⟩ := Option.map_eq_some_iff.mp (h.first r hr)
      rw [keys r, own, List.find?_append, found, Option.some_or, Option.map_some, is]
    · intro r' hr'
      obtain ⟨r, hr, rfl⟩ := mem_changeRows.mp hr'
      rw [keys r, List.reverse_append, List.reverse_singleton, List.singleton_append, List.find?_cons]
      by_cases same : key (content r) = key x.2
      · simp [same, renewed r same]
      · have other : (key x.2 == key (content r)) = false := by simpa using Ne.symm same
        simp [same, other, h.last r hr]
  | @added row new own filled =>
    have apart : ∀ r ∈ rows, (key x.2 == key (content r)) = false :=
      fun r hr => by simpa using (new r hr).symm
    constructor
    · rw [List.map_append, List.map_singleton, filled]
      simpa [List.nodup_append] using ⟨h.once, new⟩
    · intro y hy
      rcases List.mem_append.mp hy with hy | hy
      · obtain ⟨r, hr, is⟩ := h.known y hy
        exact ⟨r, List.mem_append_left _ hr, is⟩
      · rw [List.mem_singleton.mp hy]
        exact ⟨row, by simp, congrArg key filled⟩
    · intro r hr
      rw [List.find?_append]
      rcases List.mem_append.mp hr with hr | hr
      · obtain ⟨y, found, is⟩ := Option.map_eq_some_iff.mp (h.first r hr)
        rw [found, Option.some_or, Option.map_some, is]
      · rw [List.mem_singleton.mp hr, filled, h.untold new]
        simp [own]
    · intro r hr
      rw [List.reverse_append, List.reverse_singleton, List.singleton_append, List.find?_cons]
      rcases List.mem_append.mp hr with hr | hr
      · rw [apart r hr]
        exact h.last r hr
      · rw [List.mem_singleton.mp hr, filled]
        simp

/-- Things are noted one after another. -/
theorem recordAll {record : Uuid → Uuid → α → Store → Store} {table : Store → List ρ}
    (notes : ∀ y ∈ records, ∀ id s, Notes key owner content y (table s) (table (record id y.1 y.2 s)))
    {s : Store} (h : Tallies key owner content told (table s)) (n : Nat) :
    Tallies key owner content (told ++ records) (table (s.recordAll record n records)) := by
  induction records generalizing told s n with
  | nil => rwa [List.append_nil]
  | cons y rest ih =>
    have first := h.note (notes y List.mem_cons_self (.ofNat n) s)
    have all := ih (fun z hz => notes z (List.mem_cons_of_mem _ hz)) first (n + 1)
    rwa [List.append_assoc] at all

end Tallies

end tallies

/-! ## Refunds and disputes -/

/-- What a row holds of what was told. -/
def RefundRow.content (r : RefundRow) : Refund := ⟨r.refundId, r.amountCents, r.reason, r.status⟩

def DisputeRow.content (r : DisputeRow) : Dispute :=
  ⟨none, r.disputeId, r.amountCents, r.reason, r.status, r.evidenceDue⟩

namespace Store

/-- The refunds and disputes are those that were told. -/
structure Tells (refunds : List (Uuid × Refund)) (disputes : List (Uuid × Dispute)) (s : Store) : Prop where
  refunds : Tallies Refund.id RefundRow.paymentId RefundRow.content refunds s.refunds
  disputes : Tallies Dispute.id DisputeRow.paymentId DisputeRow.content disputes s.disputes

theorem recordRefund_notes (now : Instant) (id p : Uuid) (x : Refund) (s : Store) :
    Notes Refund.id RefundRow.paymentId RefundRow.content (p, x) s.refunds
      (s.recordRefund now id p x).refunds := by
  unfold recordRefund
  split
  · next there =>
    refine .changed (by simpa [RefundRow.content] using there) (fun _ => rfl) fun r same => ?_
    exact congrArg (fun k => (⟨k, x.amount, x.reason, x.status⟩ : Refund)) same
  · next new => exact .added (by simpa [RefundRow.content] using new) rfl rfl

theorem recordDispute_notes (now : Instant) (id p : Uuid) {x : Dispute} (unnamed : x.intent = none)
    (s : Store) : Notes Dispute.id DisputeRow.paymentId DisputeRow.content (p, x) s.disputes
      (s.recordDispute now id p x).disputes := by
  obtain ⟨intent, k, amount, reason, status, evidenceDue⟩ := x
  cases unnamed
  unfold recordDispute
  split
  · next there =>
    refine .changed (by simpa [DisputeRow.content] using there) (fun _ => rfl) fun r same => ?_
    exact congrArg (fun k => (⟨none, k, amount, reason, status, evidenceDue⟩ : Dispute)) same
  · next new => exact .added (by simpa [DisputeRow.content] using new) rfl rfl

theorem sameTallies : Store.Serves fun a b => b.refunds = a.refunds ∧ b.disputes = a.disputes where
  refl _ := ⟨rfl, rfl⟩
  trans hab hbc := ⟨hbc.1.trans hab.1, hbc.2.trans hab.2⟩
  moves _ _ _ _ _ := ⟨rfl, rfl⟩
  services _ _ := ⟨rfl, rfl⟩
  jobs _ _ := ⟨rfl, rfl⟩
  tasks _ _ := ⟨rfl, rfl⟩
  audits _ _ := ⟨rfl, rfl⟩
  invoices _ _ := ⟨rfl, rfl⟩
  lines _ _ := ⟨rfl, rfl⟩

variable {refunds : List (Uuid × Refund)} {disputes : List (Uuid × Dispute)} {s s' : Store}

theorem Tells.congr (h : s.Tells refunds disputes) (sameRefunds : s'.refunds = s.refunds)
    (sameDisputes : s'.disputes = s.disputes) : s'.Tells refunds disputes :=
  ⟨sameRefunds ▸ h.refunds, sameDisputes ▸ h.disputes⟩

theorem tallies_revertOrder (now : Instant) (id : Uuid) (s : Store) :
    (s.revertOrder now id .paid).2.refunds = s.refunds ∧
      (s.revertOrder now id .paid).2.disputes = s.disputes := by
  unfold revertOrder
  split <;> exact ⟨rfl, rfl⟩

theorem unnamed_disputesOf {d : Dispute} {x : Uuid × Dispute} (hx : x ∈ s.disputesOf d) :
    x.2.intent = none := by
  unfold disputesOf at hx
  split at hx
  · rw [List.mem_singleton.mp hx]
  · cases hx

end Store

namespace Notification

/-- The refunds that an event tells of, of a payment that is there. -/
def refunds (s : Store) : Notification → List (Uuid × Refund)
  | refund r => s.refundsOf r
  | _ => []

def disputes (s : Store) : Notification → List (Uuid × Dispute)
  | dispute d => s.disputesOf d
  | _ => []

/-- A report on no payment that is there. -/
def Strays (s : Store) : Notification → Prop
  | refund r => s.reported r.intent = none
  | dispute d => s.reported d.intent = none
  | _ => False

end Notification

namespace Delivery

open Ledger (Claimable rowOf)

variable {w : World} {refunds : List (Uuid × Refund)} {disputes : List (Uuid × Dispute)}

/-- A handler notes what its event tells, and nothing else of the kind. -/
theorem handle_tells (calm : w.faults = []) (h : w.store.Tells refunds disputes) (o : Outside)
    (n : Notification) :
    ((handle o n).run w).2.store.Tells (refunds ++ n.refunds w.store) (disputes ++ n.disputes w.store) := by
  have alone {s : Store} (sameRefunds : s.refunds = w.store.refunds) (sameDisputes : s.disputes = w.store.disputes) :
      s.Tells (refunds ++ []) (disputes ++ []) := by
    simpa using h.congr sameRefunds sameDisputes
  cases n with
  | checkout c =>
    have serves := Store.sameTallies
    have submitted := fun tasks => CommittedJob.submitAll_keeps serves.toChain serves.jobs serves.services
      Store.tallies_revertOrder serves.tasks o tasks
    have kept := (serves.bind (Checkout.carryOut_serves serves (fun _ _ => ⟨rfl, rfl⟩) c) fun tasks =>
      serves.bind (submitted tasks) fun _ => serves.pure DeliveryOutcome.processed) w
    exact alone kept.store.1 kept.store.2
  | paymentFailed intent =>
    rw [handle, Action.run_bind_of_ok (Reversal.failPayment_run calm intent), Store.withFailure_rest]
    exact alone rfl rfl
  | refund r =>
    rw [handle, Action.run_bind_of_ok (Reversal.refund_run calm r), Store.withRefund_rest]
    constructor
    · exact h.refunds.recordAll (fun y _ id s => Store.recordRefund_notes w.now id y.1 y.2 s) w.nextId
    · exact (alone rfl rfl).disputes
  | dispute d =>
    rw [handle, Action.run_bind_of_ok (Reversal.dispute_run calm d)]
    constructor
    · exact (alone rfl rfl).refunds
    · refine h.disputes.recordAll (fun y hy id s => ?_) w.nextId
      exact Store.recordDispute_notes w.now id y.1 (Store.unnamed_disputesOf hy) s
  | unhandled => exact alone rfl rfl

/-- What a delivered event tells, of what is in the store then. -/
def toldBy {α : Type} (tells : Store → Notification → List α) (e : GatewayEvent) (s : Store) : List α :=
  match e.parse with
  | .ok n => tells s n
  | .error _ => []

/-- What the deliveries tell, one after another. -/
def told {α : Type} (tells : Store → Notification → List α) : List (Attempt × GatewayEvent) → World → List α
  | [], _ => []
  | d :: rest, w => toldBy tells d.2 w.store ++ told tells rest (d.1.deliver d.2 w).2

theorem deliver_tells (calm : w.faults = []) {e : GatewayEvent} (new : rowOf e w.store.events = none)
    (h : w.store.Tells refunds disputes) (a : Attempt) :
    (a.deliver e w).2.store.Tells (refunds ++ toldBy Notification.refunds e w.store)
      (disputes ++ toldBy Notification.disputes e w.store) := by
  unfold toldBy
  cases parsed : e.parse with
  | error failure =>
    have left : (a.deliver e w).2 = { w with now := a.now } := by
      rw [Attempt.deliver, process, parsed]
      rfl
    rw [left]
    simpa using h
  | ok n =>
    let v : World := { w with now := a.now }
    obtain ⟨r, error, -, left⟩ :=
      process_given (w := v) calm (Ledger.claimable_of_none new) parsed a.outside
    have handled := handle_tells (w := claimed e v) calm (h.congr rfl rfl) a.outside n
    rw [Attempt.deliver, left]
    exact handled.congr rfl rfl

/-- An event that is not in the ledger does not get there with another one. -/
theorem deliver_unknown (calm : w.faults = []) {e e' : GatewayEvent} (new : rowOf e w.store.events = none)
    (other : e'.id ≠ e.id) (unknown : rowOf e' w.store.events = none) (a : Attempt) :
    rowOf e' (a.deliver e w).2.store.events = none := by
  cases parsed : e.parse with
  | error failure =>
    rw [Attempt.deliver, process, parsed]
    exact unknown
  | ok n =>
    let v : World := { w with now := a.now }
    obtain ⟨r, error, -, left⟩ :=
      process_given (w := v) calm (Ledger.claimable_of_none new) parsed a.outside
    have claims : rowOf e' (claimed e v).store.events = none :=
      (Ledger.rowOf_claimRow_of_ne other _).trans unknown
    have events := handle_events a.outside n (claimed e v)
    rw [Attempt.deliver, left]
    change rowOf e' (Ledger.markRow _ r.id error ((handle a.outside n).run (claimed e v)).2.store.events) = none
    rw [events]
    refine (Ledger.rowOf_changeRows_of_not (by exact fun _ => rfl) fun x is => ?_).trans claims
    rw [claims] at is
    cases is

/-- After any deliveries of new events the tables hold what these told, beside what was there. -/
theorem deliverEach_tells (calm : w.faults = []) {ds : List (Attempt × GatewayEvent)}
    (new : ∀ d ∈ ds, rowOf d.2 w.store.events = none) (distinct : (ds.map fun d => d.2.id).Nodup)
    (h : w.store.Tells refunds disputes) :
    (deliverEach ds w).store.Tells (refunds ++ told Notification.refunds ds w)
      (disputes ++ told Notification.disputes ds w) := by
  induction ds generalizing w refunds disputes with
  | nil => simpa [told, deliverEach] using h
  | cons d rest ih =>
    obtain ⟨apart, distinct⟩ := List.nodup_cons.mp distinct
    have here := new d List.mem_cons_self
    have unknown : ∀ x ∈ rest, rowOf x.2 (d.1.deliver d.2 w).2.store.events = none := by
      intro x hx
      refine deliver_unknown calm here (fun same => ?_) (new x (List.mem_cons_of_mem _ hx)) d.1
      exact apart (List.mem_map.mpr ⟨x, hx, same⟩)
    have later := ih ((deliver_counts d.1 d.2 w).2 calm) unknown distinct (deliver_tells calm here h d.1)
    rw [List.append_assoc, List.append_assoc] at later
    exact later

/-! ## Reports that say nothing -/

/-- A report on a payment that is not there does nothing, whatever happens to the database. -/
theorem transaction_unreported {w : World} {intent : IntentId} (missing : w.store.paymentByIntent intent.text = none)
    (found : PaymentRow → Action Unit) :
    ((transaction do
      let some payment ← Payments.byIntent intent | return ()
      found payment).run w).2.store = w.store := by
  rw [Action.run_transaction, Action.run_bind]
  rcases ran : (Payments.byIntent intent).run w with ⟨e | x, w'⟩
  · rfl
  · unfold Payments.byIntent ask at ran
    obtain ⟨store, faults, looked, rfl⟩ := Action.run_execute_ok ran
    obtain ⟨rfl, rfl⟩ := Prod.mk.inj (Except.ok.inj looked)
    dsimp only
    rw [missing]
    rfl

theorem handle_strays {w : World} {n : Notification} (strays : n.Strays w.store) (o : Outside) :
    ((handle o n).run w).2.store = w.store := by
  cases n with
  | refund r =>
    rw [handle, Action.run_answer, Reversal.refund]
    cases about : r.intent with
    | none => rfl
    | some intent =>
      have missing : w.store.paymentByIntent intent.text = none := by
        simpa [Notification.Strays, Store.reported, about] using strays
      exact transaction_unreported missing _
  | dispute d =>
    rw [handle, Action.run_answer, Reversal.dispute]
    cases about : d.intent with
    | none => rfl
    | some intent =>
      have missing : w.store.paymentByIntent intent.text = none := by
        simpa [Notification.Strays, Store.reported, about] using strays
      exact transaction_unreported missing _
  | checkout c => cases strays
  | paymentFailed intent => cases strays
  | unhandled => cases strays

/-- The ledger is written by every delivery. -/
theorem ledger_chain : Chain fun a b : Store => b = { a with events := b.events } where
  refl _ := rfl
  trans hab hbc := by rw [hbc, hab]

theorem process_strays {w : World} {e : GatewayEvent} {n : Notification} (parsed : e.parse = .ok n)
    (strays : n.Strays w.store) (o : Outside) : ((process o e).run w).2.store =
      { w.store with events := ((process o e).run w).2.store.events } := by
  have claims := (Ledger.claim_keeps ledger_chain (fun _ _ => rfl) e w).store
  rw [process, parsed, Action.run_bind_of_ok (Action.run_ofExcept_ok _ _), Action.run_bind]
  rcases claimed : (Ledger.claim e).run w with ⟨failure | row, w₁⟩ <;> rw [claimed] at claims
  · exact claims
  · cases row with
    | none => exact claims
    | some row =>
      have still : n.Strays w₁.store := by
        rw [claims]
        exact strays
      have handled := handle_strays still o
      have concludes := (conclude_keeps ledger_chain (fun _ _ => rfl) e row
        ((handle o n).run w₁).1 ((handle o n).run w₁).2).store
      rw [handled, claims] at concludes
      dsimp only
      rw [Action.run_bind, Action.run_attempt]
      exact concludes

/-- A dispute is noted in its own table. -/
theorem process_dispute {e : GatewayEvent} {d : Dispute} (parsed : e.parse = .ok (.dispute d)) (o : Outside)
    (w : World) : ((process o e).run w).2.store = { w.store with
      events := ((process o e).run w).2.store.events
      disputes := ((process o e).run w).2.store.disputes } := by
  have chain : Chain fun a b : Store => b = { a with events := b.events, disputes := b.disputes } := {
    refl := fun _ => rfl
    trans := fun hab hbc => by rw [hbc, hab] }
  have keeps : (process o e).Keeps fun a b => b = { a with events := b.events, disputes := b.disputes } := by
    rw [process, parsed]
    change ((pure (Notification.dispute d) : Action Notification) >>= _).Keeps _
    rw [pure_bind]
    apply chain.bind (Ledger.claim_keeps chain (fun _ _ => rfl) e)
    rintro (_ | row)
    · exact chain.pure _
    · apply chain.bind (Action.Keeps.attempt (chain.bind
        (Reversal.dispute_keeps chain (fun _ _ => rfl) d) fun _ => chain.pure _))
      exact fun result => conclude_keeps chain (fun _ _ => rfl) e row result
  exact (keeps w).store

/-- **Refunds and disputes stand as they were told.** Deliveries of distinct events into an empty ledger leave
one row for each refund and each dispute that was told of a payment then there: it belongs to the payment
of the first telling and holds what the last one said. What an event tells is what its document means: all the
refunds in the list of a refunded charge, in their order, or the one that was updated, or the dispute. It tells
of the payment that has its intent. A report on no payment that is there writes the ledger alone, and a dispute
writes its own table beside. -/
theorem reports_as_told {w : World} (calm : w.faults = []) (ledger : w.store.events = [])
    (noRefunds : w.store.refunds = []) (noDisputes : w.store.disputes = [])
    {ds : List (Attempt × GatewayEvent)} (distinct : (ds.map fun d => d.2.id).Nodup) :
    (deliverEach ds w).store.Tells (told Notification.refunds ds w) (told Notification.disputes ds w) ∧
      (∀ (e : GatewayEvent) r, e.parse = .ok (.refund r) ↔ Gateway.TellsRefunds e r) ∧
      (∀ (e : GatewayEvent) d, e.parse = .ok (.dispute d) ↔ Gateway.TellsDispute e d) ∧
      (∀ (s : Store) (intent : Option IntentId),
        (∀ p, s.reported intent = some p → p ∈ s.payments ∧ ∃ i, intent = some i ∧ p.intent = some i.text) ∧
        (s.reported intent = none ↔ ∀ i, intent = some i → ∀ p ∈ s.payments, p.intent ≠ some i.text)) ∧
      (∀ o e n (v : World), e.parse = .ok n → n.Strays v.store → ((process o e).run v).2.store =
        { v.store with events := ((process o e).run v).2.store.events }) ∧
      ∀ o e d (v : World), e.parse = .ok (.dispute d) → ((process o e).run v).2.store =
        { v.store with
          events := ((process o e).run v).2.store.events
          disputes := ((process o e).run v).2.store.disputes } := by
  refine ⟨?_, fun _ _ => Gateway.parse_refund_iff, fun _ _ => Gateway.parse_dispute_iff,
    fun _ _ => ⟨fun _ => Store.mem_of_reported, Store.reported_eq_none⟩,
    fun o e n v parsed strays => process_strays parsed strays o, fun o e d v parsed => process_dispute parsed o v⟩
  have empty : w.store.Tells [] [] := ⟨noRefunds ▸ .nil, noDisputes ▸ .nil⟩
  have new : ∀ d ∈ ds, rowOf d.2 w.store.events = none := fun d _ => by rw [ledger]; rfl
  exact deliverEach_tells calm new distinct empty

/-! ## Samples -/

open Operations (sampleOutside)

/-- A refund as a document of the gateway. -/
def refundEntry (id : String) (amount : Int) (status : String) : Json := .object [
  ("amount", .int amount), ("id", .text id), ("payment_intent", .text "pi_1"), ("status", .text status)]

/-- A refund of the sample's payment, first pending and then made, a dispute that is won, one about another
payment, and at last the charge with a list that has one refund twice. -/
def retold : List (Attempt × GatewayEvent) := [
  (⟨sampleOutside true, ⟨1000, 0⟩⟩, reported "evt_6" "charge.refund.updated" (refundEntry "re_1" 400 "pending")),
  (⟨sampleOutside true, ⟨1001, 0⟩⟩, reported "evt_7" "charge.dispute.created" (.object [
    ("amount", .int 1000), ("id", .text "dp_1"), ("payment_intent", .text "pi_1"),
    ("status", .text "needs_response")])),
  (⟨sampleOutside true, ⟨1002, 0⟩⟩, reported "evt_8" "charge.refund.updated" (refundEntry "re_1" 500 "succeeded")),
  (⟨sampleOutside true, ⟨1003, 0⟩⟩, reported "evt_9" "charge.dispute.closed" (.object [
    ("amount", .int 1000), ("id", .text "dp_1"), ("payment_intent", .text "pi_1"), ("status", .text "won")])),
  (⟨sampleOutside true, ⟨1004, 0⟩⟩, reported "evt_10" "charge.dispute.created" (.object [
    ("amount", .int 1000), ("id", .text "dp_2"), ("payment_intent", .text "pi_2"),
    ("status", .text "needs_response")])),
  (⟨sampleOutside true, ⟨1005, 0⟩⟩, reported "evt_11" "charge.refunded" (.object [
    ("payment_intent", .text "pi_1"),
    ("refunds", .object [("data", .array [
      refundEntry "re_2" 100 "pending", refundEntry "re_1" 300 "failed", refundEntry "re_2" 200 "succeeded"])])]))]

/-- What the events tell of refunds, each with its payment. -/
def retoldRefunds : List (Uuid × Refund) := [
  (.ofNat 7, ⟨"re_1", 400, none, .pending⟩), (.ofNat 7, ⟨"re_1", 500, none, .succeeded⟩),
  (.ofNat 7, ⟨"re_2", 100, none, .pending⟩), (.ofNat 7, ⟨"re_1", 300, none, .failed⟩),
  (.ofNat 7, ⟨"re_2", 200, none, .succeeded⟩)]

theorem reports_as_told_retold :
    (deliverEach retold pendingWorld).store.Tells retoldRefunds
        [(.ofNat 7, ⟨none, "dp_1", 1000, none, .needsResponse, none⟩),
          (.ofNat 7, ⟨none, "dp_1", 1000, none, .won, none⟩)] ∧
      (deliverEach retold pendingWorld).store.refunds.map RefundRow.content =
        [⟨"re_1", 300, none, .failed⟩, ⟨"re_2", 200, none, .succeeded⟩] := by
  have distinct : (retold.map fun d => d.2.id).Nodup := by decide
  have tells := (reports_as_told (w := pendingWorld) rfl rfl rfl rfl distinct).1
  have refunds : told Notification.refunds retold pendingWorld = retoldRefunds := by decide +kernel
  have disputes : told Notification.disputes retold pendingWorld =
      [(.ofNat 7, ⟨none, "dp_1", 1000, none, .needsResponse, none⟩),
        (.ofNat 7, ⟨none, "dp_1", 1000, none, .won, none⟩)] := by
    decide +kernel
  rw [refunds, disputes] at tells
  exact ⟨tells, by decide +kernel⟩

end Delivery

end HostingBilling
