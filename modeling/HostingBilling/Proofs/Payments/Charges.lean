import HostingBilling.Proofs.Checkout.Settlement
import HostingBilling.Proofs.Payments.Reports

/-!
# What checkouts do to payments

A checkout writes the payment of its order and no other, and what it writes is paid for.
-/

namespace HostingBilling

/-- Orders, services, jobs and tasks are served without a look at payments. -/
theorem Store.samePayments : Store.Serves fun a b => b.payments = a.payments where
  refl _ := rfl
  trans hab hbc := hbc.trans hab
  moves _ _ _ _ _ := rfl
  services _ _ := rfl
  jobs _ _ := rfl
  tasks _ _ := rfl
  audits _ _ := rfl
  invoices _ _ := rfl
  lines _ _ := rfl

theorem Store.payments_revertOrder (now : Instant) (id : Uuid) (s : Store) :
    (s.revertOrder now id .paid).2.payments = s.payments := by
  unfold revertOrder
  split <;> rfl

/-- A submission leaves payments alone, and so does taking a job back. -/
theorem CommittedJob.submitAll_payments (o : Outside) (jobs : List CommittedJob) :
    (submitAll o jobs).Keeps fun a b => b.payments = a.payments :=
  submitAll_keeps Store.samePayments.toChain (fun _ _ => rfl) (fun _ _ => rfl) Store.payments_revertOrder
    (fun _ _ => rfl) o jobs

namespace Checkout

variable {c : Checkout} {order : OrderRow} {w w' : World} {tasks : List CommittedJob}

/-- What a checkout leaves of the payments: they are told apart, and what is not as before is a payment of
the order that has succeeded. -/
structure Charged (order : OrderRow) (w w' : World) : Prop where
  keys : (w'.store.payments.map (·.id)).Nodup
  numbered : ∀ p ∈ w'.store.payments, p.id.val < w'.nextId
  rows : ∀ p ∈ w'.store.payments, p ∈ w.store.payments ∨ p.orderId = some order.id ∧ p.status = .succeeded

theorem Steps.charged (steps : Steps c order w tasks w') (calm : w.faults = [])
    (keys : (w.store.payments.map (·.id)).Nodup) (numbered : ∀ p ∈ w.store.payments, p.id.val < w.nextId)
    (room : w'.nextId ≤ Uuid.limit) : Charged order w w' := by
  have before := steps.before Store.samePayments
  have after := steps.after Store.samePayments
  have counted := (Payments.record_plain _).counts.follows steps.ranPayment
  have below : ∀ p ∈ w.store.payments, p.id.val < steps.invoiced.nextId := fun p hp =>
    Nat.lt_of_lt_of_le (numbered p hp) before.nextId
  have room₁ := Nat.le_trans after.nextId room
  suffices charged : Charged order { w with nextId := steps.invoiced.nextId } steps.recorded by
    constructor
    · rw [after.store]
      exact charged.keys
    · rw [after.store]
      exact fun p hp => Nat.lt_of_lt_of_le (charged.numbered p hp) after.nextId
    · rw [after.store]
      exact charged.rows
  have same := before.store
  rcases Payments.record_cases (before.calm calm) steps.ranPayment with
    ⟨-, -, is⟩ | ⟨r, found, ⟨-, is⟩ | ⟨-, -, is⟩⟩ <;> rw [is] at room₁ ⊢
  · have fresh : ∀ p ∈ w.store.payments, p.id ≠ .ofNat steps.invoiced.nextId := fun p hp =>
      Uuid.ne_ofNat (below p hp) room₁
    constructor
    · simpa [same, List.nodup_append, Payments.newPayment] using ⟨keys, fresh⟩
    · intro p hp
      rcases List.mem_append.mp hp with old | new
      · exact Nat.lt_succ_of_lt (below p (same ▸ old))
      · rw [List.mem_singleton.mp new]
        exact (Uuid.val_ofNat room₁).symm ▸ Nat.lt_succ_self _
    · intro p hp
      rcases List.mem_append.mp hp with old | new
      · exact .inl (same ▸ old)
      · rw [List.mem_singleton.mp new]
        exact .inr ⟨rfl, rfl⟩
  · exact ⟨same ▸ keys, same ▸ below, fun p hp => .inl (same ▸ hp)⟩
  · constructor
    · exact nodup_changeRows (same ▸ keys) fun _ => rfl
    · intro p hp
      obtain ⟨x, hx, rfl⟩ := mem_changeRows.mp hp
      have := below x (same ▸ hx)
      split <;> exact this
    · intro p hp
      obtain ⟨x, hx, rfl⟩ := mem_changeRows.mp hp
      split
      · exact .inr ⟨rfl, rfl⟩
      · exact .inl (same ▸ hx)

end Checkout

end HostingBilling
