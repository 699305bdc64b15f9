import HostingBilling.Proofs.Constraints
import HostingBilling.Store.Payments

/-!
# Recording the payment of a checkout

A checkout that was recorded once finds its payment again, by its intent or by its session, and what it
writes the second time is already there.
-/

namespace HostingBilling

/-- A payment without the time of its last change. -/
def PaymentRow.untimed (r : PaymentRow) : PaymentRow := { r with updatedAt := ⟨0, 0⟩ }

namespace Store

/-- The payment that a checkout is about. -/
def paymentOf (s : Store) (p : SettledPayment) : Option PaymentRow :=
  (p.intent.bind fun intent => s.paymentByIntent intent.text).or (s.paymentBySession p.session)

/-- The checkout finds its payment, and has nothing to write but the time. -/
def Recorded (s : Store) (p : SettledPayment) : Prop :=
  ∃ r, s.paymentOf p = some r ∧ (r.status = .refunded ∨
    s.checkPaymentKeys r.id ((p.intent.map (·.text)) <|> r.intent) p.session = .ok () ∧
      ∀ now, settled now p r = { r with updatedAt := now })

end Store

theorem Store.Recorded.congr {a b : Store} {p : SettledPayment} (h : a.Recorded p)
    (same : b.payments = a.payments) : b.Recorded p := by
  simp only [Recorded, paymentOf, paymentByIntent, paymentBySession, checkPaymentKeys, intentTaken,
    sessionTaken, same] at h ⊢
  exact h

namespace Payments

open Store

theorem intentTaken_eq_false {s : Store} {id : Uuid} {intent : Option String} :
    s.intentTaken id intent = false ↔
      ∀ r ∈ s.payments, r.id ≠ id → intent.isSome = true → r.intent ≠ intent := by
  cases intent <;> simp [intentTaken]

theorem sessionTaken_eq_false {s : Store} {id : Uuid} {session : String} :
    s.sessionTaken id session = false ↔ ∀ r ∈ s.payments, r.id ≠ id → r.session ≠ some session := by
  simp [sessionTaken]

theorem checkPaymentKeys_ok {s : Store} {id : Uuid} {intent : Option String} {session : String} :
    s.checkPaymentKeys id intent session = .ok () ↔
      (∀ r ∈ s.payments, r.id ≠ id → intent.isSome = true → r.intent ≠ intent) ∧
        ∀ r ∈ s.payments, r.id ≠ id → r.session ≠ some session := by
  have free : s.checkPaymentKeys id intent session = .ok () ↔
      s.intentTaken id intent = false ∧ s.sessionTaken id session = false := by
    unfold checkPaymentKeys
    cases s.intentTaken id intent <;> cases s.sessionTaken id session <;> simp
  rw [free, intentTaken_eq_false, sessionTaken_eq_false]

/-- A payment that carries the checkout's intent and session, and shares neither, is the one found. -/
theorem paymentOf_of_only {s : Store} {p : SettledPayment} {r : PaymentRow} (hr : r ∈ s.payments)
    (intent : ∀ i, p.intent = some i → r.intent = some i.text) (session : r.session = some p.session)
    (keys : (s.payments.map (·.id)).Nodup)
    (free : s.checkPaymentKeys r.id ((p.intent.map (·.text)) <|> r.intent) p.session = .ok ()) :
    s.paymentOf p = some r := by
  obtain ⟨freeIntent, freeSession⟩ := checkPaymentKeys_ok.mp free
  cases hi : p.intent with
  | some i =>
    have found : s.paymentByIntent i.text = some r := by
      apply find?_of_only hr (by simpa using intent i hi)
      intro x hx same
      by_cases other : x.id = r.id
      · exact eq_of_key keys hx hr other
      · have := freeIntent x hx other (by simp [hi])
        simp [hi] at this same
        exact absurd same this
    simp [paymentOf, hi, found]
  | none =>
    have found : s.paymentBySession p.session = some r := by
      apply find?_of_only hr (by simpa using session)
      intro x hx same
      by_cases other : x.id = r.id
      · exact eq_of_key keys hx hr other
      · exact absurd (by simpa using same) (freeSession x hx other)
    simp [paymentOf, hi, found]

theorem paymentOf_mem {s : Store} {p : SettledPayment} {r : PaymentRow}
    (h : s.paymentOf p = some r) : r ∈ s.payments := by
  rcases Option.or_eq_some_iff.mp h with h | ⟨-, h⟩
  · obtain ⟨i, -, h⟩ := Option.bind_eq_some_iff.mp h
    exact List.mem_of_find?_eq_some h
  · exact List.mem_of_find?_eq_some h

/-- The payment that a checkout adds when it finds none. -/
def newPayment (now : Instant) (id : Uuid) (p : SettledPayment) : PaymentRow where
  id
  userId := p.userId
  orderId := some p.orderId
  invoiceId := some p.invoiceId
  intent := p.intent.map (·.text)
  session := some p.session
  amountCents := p.amountCents
  currency := p.currency
  status := .succeeded
  method := "card"
  createdAt := now
  updatedAt := now

theorem recorded_insert {s : Store} {now : Instant} {id : Uuid} {p : SettledPayment}
    (keys : (s.payments.map (·.id)).Nodup) (fresh : ∀ r ∈ s.payments, r.id ≠ id)
    (free : s.checkPaymentKeys id (p.intent.map (·.text)) p.session = .ok ()) :
    ((s.payments ++ [newPayment now id p]).map (·.id)).Nodup ∧
      { s with payments := s.payments ++ [newPayment now id p] }.Recorded p := by
  have keys' : ((s.payments ++ [newPayment now id p]).map (·.id)).Nodup := by
    simpa [List.nodup_append] using ⟨keys, fresh⟩
  have same : ((p.intent.map (·.text)) <|> (newPayment now id p).intent) = p.intent.map (·.text) := by
    cases hi : p.intent <;> simp [newPayment, hi]
  have free' : Store.checkPaymentKeys { s with payments := s.payments ++ [newPayment now id p] }
      (newPayment now id p).id ((p.intent.map (·.text)) <|> (newPayment now id p).intent) p.session =
        .ok () := by
    rw [same]
    obtain ⟨intents, sessions⟩ := checkPaymentKeys_ok.mp free
    refine checkPaymentKeys_ok.mpr ⟨fun r hr other => ?_, fun r hr other => ?_⟩ <;>
      rcases List.mem_append.mp hr with hr | hr
    · exact intents r hr other
    · exact absurd (congrArg PaymentRow.id (List.mem_singleton.mp hr)) other
    · exact sessions r hr other
    · exact absurd (congrArg PaymentRow.id (List.mem_singleton.mp hr)) other
  refine ⟨keys', newPayment now id p, ?_, .inr ⟨free', fun later => ?_⟩⟩
  · exact paymentOf_of_only (by simp) (fun i hi => by simp [newPayment, hi]) rfl keys' free'
  · simp only [settled, same]
    rfl

theorem recorded_update {s : Store} {now : Instant} {r : PaymentRow} {p : SettledPayment}
    (keys : (s.payments.map (·.id)).Nodup) (here : r ∈ s.payments)
    (free : s.checkPaymentKeys r.id ((p.intent.map (·.text)) <|> r.intent) p.session = .ok ()) :
    ((changeRows (fun x => x.id == r.id) (settled now p) s.payments).map (·.id)).Nodup ∧
      { s with payments := changeRows (fun x => x.id == r.id) (settled now p) s.payments }.Recorded
        p := by
  have keys' : ((changeRows (fun x => x.id == r.id) (settled now p) s.payments).map (·.id)).Nodup :=
    nodup_changeRows keys fun _ => rfl
  have same : ((p.intent.map (·.text)) <|> (settled now p r).intent) =
      ((p.intent.map (·.text)) <|> r.intent) := by
    cases hi : p.intent <;> simp [settled, hi]
  have there : settled now p r ∈ changeRows (fun x => x.id == r.id) (settled now p) s.payments :=
    mem_changeRows.mpr ⟨r, here, by simp⟩
  have free' : Store.checkPaymentKeys
      { s with payments := changeRows (fun x => x.id == r.id) (settled now p) s.payments }
      (settled now p r).id ((p.intent.map (·.text)) <|> (settled now p r).intent) p.session =
        .ok () := by
    rw [same]
    obtain ⟨intents, sessions⟩ := checkPaymentKeys_ok.mp free
    have untouched : ∀ x ∈ changeRows (fun x => x.id == r.id) (settled now p) s.payments,
        x.id ≠ r.id → x ∈ s.payments := by
      intro x hx other
      obtain ⟨y, hy, rfl⟩ := mem_changeRows.mp hx
      split at other
      · next touched => exact absurd (show y.id = r.id by simpa using touched) other
      · next apart => rwa [if_neg apart]
    refine checkPaymentKeys_ok.mpr ⟨fun x hx other => ?_, fun x hx other => ?_⟩
    · exact intents x (untouched x hx other) other
    · exact sessions x (untouched x hx other) other
  refine ⟨keys', settled now p r, ?_, .inr ⟨free', fun later => ?_⟩⟩
  · exact paymentOf_of_only there (fun i hi => by simp [settled, hi]) rfl keys' free'
  · simp only [settled] at same ⊢
    rw [same]

section runs

variable {w w' : World} (calm : w.faults = [])

include calm

theorem run_ofCheckout (p : SettledPayment) :
    (ofCheckout p).run w = (.ok (w.store.paymentOf p), w) := by
  have bySession : (bySession p.session).run w = (.ok (w.store.paymentBySession p.session), w) :=
    run_ask calm _ _
  cases hi : p.intent with
  | none => simp [ofCheckout, paymentOf, hi, bySession]
  | some i =>
    have byIntent : (byIntent i).run w = (.ok (w.store.paymentByIntent i.text), w) :=
      run_ask calm _ _
    cases found : w.store.paymentByIntent i.text <;>
      simp [ofCheckout, paymentOf, hi, Action.run_bind, byIntent, found, bySession]

/-- A checkout that finds no payment, and whose intent and session are free, adds one. -/
theorem record_first {p : SettledPayment} (none_yet : w.store.paymentOf p = none)
    (free : w.store.checkPaymentKeys (.ofNat w.nextId) (p.intent.map (·.text)) p.session = .ok ()) :
    (record p).run w = (.ok (.created (.ofNat w.nextId)), { w with
      nextId := w.nextId + 1
      store := { w.store with
        payments := w.store.payments ++ [newPayment w.now (.ofNat w.nextId) p] } }) := by
  rw [record, Action.run_bind_of_ok (run_ofCheckout calm p)]
  simp only [none_yet, Action.run_bind, Action.run_freshId]
  rw [run_execute (by exact calm)]
  simp only [insertPayment, free, bind, Except.bind]
  rfl

/-- A refunded payment is left alone. -/
theorem record_kept {p : SettledPayment} {r : PaymentRow} (found : w.store.paymentOf p = some r)
    (refunded : r.status = .refunded) : (record p).run w = (.ok (.kept r.id), w) := by
  rw [record, Action.run_bind_of_ok (run_ofCheckout calm p)]
  simp only [found]
  rw [if_pos refunded]
  rfl

/-- Any other payment is brought up to date, if the intent and the session are free for it. -/
theorem record_updated {p : SettledPayment} {r : PaymentRow} (found : w.store.paymentOf p = some r)
    (open_ : r.status ≠ .refunded)
    (free : w.store.checkPaymentKeys r.id ((p.intent.map (·.text)) <|> r.intent) p.session = .ok ()) :
    (record p).run w = (.ok (.updated r.id), { w with store := { w.store with
      payments := changeRows (fun x => x.id == r.id) (settled w.now p) w.store.payments } }) := by
  rw [record, Action.run_bind_of_ok (run_ofCheckout calm p)]
  simp only [found]
  rw [if_neg open_, Action.run_bind, run_execute calm]
  simp only [updatePayment, free, bind, Except.bind]
  rfl

/-- How a payment is recorded: a new one is added, or one that is there is kept for it is refunded, or
brought up to date. -/
theorem record_cases {p : SettledPayment} {outcome : PaymentOutcome}
    (ran : (record p).run w = (.ok outcome, w')) :
    (w.store.paymentOf p = none ∧
      w.store.checkPaymentKeys (.ofNat w.nextId) (p.intent.map (·.text)) p.session = .ok () ∧
      w' = { w with
        nextId := w.nextId + 1
        store := { w.store with
          payments := w.store.payments ++ [newPayment w.now (.ofNat w.nextId) p] } }) ∨
    ∃ r, w.store.paymentOf p = some r ∧
      (r.status = .refunded ∧ w' = w ∨ r.status ≠ .refunded ∧
        w.store.checkPaymentKeys r.id ((p.intent.map (·.text)) <|> r.intent) p.session = .ok () ∧
        w' = { w with store := { w.store with
          payments := changeRows (fun x => x.id == r.id) (settled w.now p) w.store.payments } }) := by
  cases found : w.store.paymentOf p with
  | none =>
    cases free : w.store.checkPaymentKeys (.ofNat w.nextId) (p.intent.map (·.text)) p.session with
    | error e =>
      rw [record, Action.run_bind_of_ok (run_ofCheckout calm p)] at ran
      simp only [found, Action.run_bind, Action.run_freshId] at ran
      rw [run_execute (by exact calm)] at ran
      simp [insertPayment, free, bind, Except.bind] at ran
    | ok _ =>
      have first := record_first calm found free
      rw [ran] at first
      exact .inl ⟨rfl, rfl, (congrArg Prod.snd first)⟩
  | some r =>
    refine .inr ⟨r, rfl, ?_⟩
    by_cases refunded : r.status = .refunded
    · rw [record_kept calm found refunded] at ran
      cases ran
      exact .inl ⟨refunded, rfl⟩
    · cases free : w.store.checkPaymentKeys r.id ((p.intent.map (·.text)) <|> r.intent) p.session with
      | error e =>
        rw [record, Action.run_bind_of_ok (run_ofCheckout calm p)] at ran
        simp only [found] at ran
        rw [if_neg refunded, Action.run_bind, run_execute calm] at ran
        simp only [updatePayment, free, bind, Except.bind] at ran
        cases ran
      | ok _ =>
        rw [record_updated calm found refunded free] at ran
        cases ran
        exact .inr ⟨refunded, rfl, rfl⟩

/-- However the payment was found, it is recorded from then on. -/
theorem record_ok {p : SettledPayment} {outcome : PaymentOutcome}
    (keys : (w.store.payments.map (·.id)).Nodup)
    (numbered : ∀ r ∈ w.store.payments, r.id.val < w.nextId)
    (ran : (record p).run w = (.ok outcome, w')) (room : w'.nextId ≤ Uuid.limit) :
    w' = { w with
      nextId := w'.nextId
      store := { w.store with payments := w'.store.payments } } ∧
    (w'.store.payments.map (·.id)).Nodup ∧ w'.store.Recorded p := by
  rcases record_cases calm ran with ⟨-, free, rfl⟩ | ⟨r, found, ⟨refunded, rfl⟩ | ⟨-, free, rfl⟩⟩
  · have fresh : ∀ r ∈ w.store.payments, r.id ≠ .ofNat w.nextId :=
      fun r hr => Uuid.ne_ofNat (numbered r hr) room
    exact ⟨rfl, recorded_insert keys fresh free⟩
  · exact ⟨rfl, keys, r, found, .inl refunded⟩
  · exact ⟨rfl, recorded_update keys (paymentOf_mem found) free⟩

/-- Recording again goes through, and touches nothing but the time of the payment. -/
theorem record_again {p : SettledPayment} (keys : (w.store.payments.map (·.id)).Nodup)
    (recorded : w.store.Recorded p) :
    ∃ outcome payments, (record p).run w =
        (.ok outcome, { w with store := { w.store with payments := payments } }) ∧
      payments.map PaymentRow.untimed = w.store.payments.map PaymentRow.untimed ∧
      (payments.map (·.id)).Nodup ∧ { w.store with payments := payments }.Recorded p := by
  obtain ⟨r, found, state⟩ := recorded
  have here := paymentOf_mem found
  by_cases refunded : r.status = .refunded
  · exact ⟨_, _, record_kept calm found refunded, rfl, keys, r, found, state⟩
  · obtain ⟨free, same⟩ := state.resolve_left refunded
    refine ⟨_, _, record_updated calm found refunded free, ?_, recorded_update keys here free⟩
    simp only [changeRows, List.map_map]
    apply List.map_congr_left
    intro x hx
    simp only [Function.comp]
    split
    · next touched =>
      rw [eq_of_key keys hx here (by simpa using touched), same]
      rfl
    · rfl

end runs

end Payments

end HostingBilling
