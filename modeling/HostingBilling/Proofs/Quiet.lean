import HostingBilling.Proofs.Constraints
import HostingBilling.Proofs.Footprints
import HostingBilling.Reprovision
import HostingBilling.Worker

/-!
# Operations that leave the provisioning work alone

The ledger, invoices, payments and reminders are apart from the provisioning work. Refunds and the
suspension, termination and expiry of services at most refund a paid order and put a service out of use.
Whatever comes of them, no job and no task has changed, no row was added to the tables of orders, lines
and services, and a terminated service is still terminated.
-/

namespace HostingBilling

open Store (Apart Declines Quiet Still)

private abbrev still : Chain Store.Still := Still.chain

private abbrev quiet : Chain Store.Quiet := Quiet.chain

private abbrev apart : Chain Store.Apart := Apart.chain

private abbrev declines : Chain Store.Declines := Declines.chain

namespace Ledger

theorem claim_apart (e : GatewayEvent) : (claim e).Keeps Apart :=
  claim_keeps apart (fun _ _ => ⟨rfl, rfl, rfl, rfl, rfl⟩) e

theorem claim_still (e : GatewayEvent) : (claim e).Keeps Still := (claim_apart e).mono Apart.still

end Ledger

namespace Orders

theorem moveOrder_still (now : Instant) (id : Uuid) (source target : OrderStatus) (s : Store) :
    s.Still (s.moveOrder now id source target).2 :=
  ⟨map_changeRows _ fun _ => rfl, rfl, rfl, rfl, rfl⟩

theorem move_still (id : Uuid) (source target : OrderStatus) : (move id source target).Keeps Still :=
  still.bind (still.ofExcept _) fun _ => still.change _ fun _ _ => moveOrder_still _ _ _ _ _

theorem takeBack_still (id : Uuid) : (takeBack id).Keeps Still := by
  refine still.bind (still.ofExcept _) fun target => still.change _ fun now s => ?_
  unfold Store.revertOrder
  split
  · exact still.refl s
  · exact moveOrder_still _ _ _ _ _

/-- An order that stands elsewhere stays there. -/
theorem moveOrder_of_ne {s : Store} (keys : (s.orders.map (·.id)).Nodup) {id : Uuid}
    {source : OrderStatus}
    (elsewhere : (s.order? id).map (·.status) ≠ some source) (now : Instant) (target : OrderStatus) :
    (s.moveOrder now id source target).2 = s := by
  have unselected : ∀ x ∈ s.orders, (x.id == id && x.status == source) = false := by
    intro x hx
    by_cases is : x.id = id
    · have found : s.order? id = some x := is ▸ find?_key keys hx
      have : x.status ≠ source := by
        intro same
        rw [found, Option.map_some, same] at elsewhere
        exact elsewhere rfl
      simp [this]
    · simp [is]
  simp only [Store.moveOrder, changeRows_of_none unselected]

theorem refund_declines (id : Uuid) : (move id .paid .refunded).Keeps Declines := by
  change (pure OrderStatus.refunded >>= fun target => change _ _ : Action Bool).Keeps _
  rw [pure_bind]
  refine declines.change _ fun now s => ⟨?_, rfl, (Declines.refl s).services, rfl, rfl⟩
  refine forall₂_changeRows (fun _ => .inl rfl) fun r _ selected => .inr ⟨?_, now, rfl⟩
  simp only [Bool.and_eq_true, beq_iff_eq] at selected
  exact selected.2

end Orders

namespace Invoices

theorem ensureInitial_apart (order : OrderRow) (items : List ItemRow) :
    (ensureInitial order items).Keeps Apart :=
  ensureInitial_keeps apart (fun _ _ => ⟨rfl, rfl, rfl, rfl, rfl⟩) (fun _ _ => ⟨rfl, rfl, rfl, rfl, rfl⟩)
    order items

theorem ensureInitial_still (order : OrderRow) (items : List ItemRow) :
    (ensureInitial order items).Keeps Still := (ensureInitial_apart order items).mono Apart.still

end Invoices

namespace Payments

theorem record_apart (p : SettledPayment) : (record p).Keeps Apart :=
  record_keeps apart (fun _ _ => ⟨rfl, rfl, rfl, rfl, rfl⟩) p

theorem record_still (p : SettledPayment) : (record p).Keeps Still := (record_apart p).mono Apart.still

theorem setStatus_apart (id : Uuid) (status : PaymentStatus) : (setStatus id status).Keeps Apart :=
  apart.change _ fun _ _ => ⟨rfl, rfl, rfl, rfl, rfl⟩

theorem recordRefund_apart (id : Uuid) (x : Refund) : (recordRefund id x).Keeps Apart := by
  refine apart.bind apart.freshId fun _ => apart.change _ fun now s => ?_
  dsimp only [Store.recordRefund]
  split <;> exact ⟨rfl, rfl, rfl, rfl, rfl⟩

end Payments

namespace Reversal

theorem failPayment_declines (intent : IntentId) : (failPayment intent).Keeps Declines := by
  refine Action.Keeps.mono Apart.declines (apart.transaction (apart.bind (apart.ask _ _) ?_))
  rintro (_ | payment)
  · exact apart.pure _
  · dsimp only
    split
    · exact Payments.setStatus_apart _ _
    · exact apart.pure _

theorem recordRefunds_apart (id : Uuid) (refunds : List Refund) :
    (recordRefunds id refunds).Keeps Apart := by
  induction refunds with
  | nil => exact apart.pure _
  | cons r rest ih => exact apart.bind (Payments.recordRefund_apart _ _) fun _ => ih

theorem refundOrder_declines (id : Uuid) : (refundOrder id).Keeps Declines := by
  apply declines.bind (declines.ask _ _)
  intro status
  split
  · exact declines.bind (Orders.refund_declines id) fun _ => declines.pure _
  · exact declines.pure _

theorem refund_declines (r : RefundReport) : (refund r).Keeps Declines := by
  unfold refund
  split
  · refine declines.transaction (declines.bind (declines.ask _ _) ?_)
    rintro (_ | payment)
    · exact declines.pure _
    · apply declines.bind ((recordRefunds_apart _ _).mono Apart.declines)
      intro _
      split
      · apply declines.bind ((Payments.setStatus_apart _ _).mono Apart.declines)
        intro _
        split
        · exact refundOrder_declines _
        · exact declines.pure _
      · exact declines.pure _
  · exact declines.pure _

theorem dispute_declines (d : Dispute) : (dispute d).Keeps Declines :=
  (dispute_keeps apart (fun _ _ => ⟨rfl, rfl, rfl, rfl, rfl⟩) d).mono Apart.declines

end Reversal

namespace Services

theorem takeBack_quiet (id : Uuid) : (takeBack id).Keeps Quiet := by
  refine quiet.change _ fun now s => Store.quiet_changeServices (fun r selected => ?_) s
  refine ⟨rfl, rfl, rfl, rfl, fun terminated => ?_⟩
  simp [terminated] at selected

end Services

namespace Store.Declines

/-- A lifecycle change asks that a service is not terminated, or terminates it. -/
theorem tends : Store.Tends Declines where
  toChain := chain
  suspends now id reason s := by
    refine Store.declines_changeServices (fun r selected => ?_) s
    refine ⟨⟨rfl, rfl, rfl, rfl, fun terminated => ?_⟩, .inr (.inl rfl)⟩
    simp [terminated] at selected
  terminates now id s := by
    refine Store.declines_changeServices (fun r _ => ?_) s
    exact ⟨⟨rfl, rfl, rfl, rfl, fun _ => rfl⟩, .inr (.inr rfl)⟩
  expires now id s := by
    refine Store.declines_changeServices (fun r selected => ?_) s
    refine ⟨⟨rfl, rfl, rfl, rfl, fun terminated => ?_⟩, .inr (.inl rfl)⟩
    simp [Store.isExpired, terminated] at selected
  audits s _ := ⟨(refl s).orders, rfl, (refl s).services, rfl, rfl⟩
  invoices s _ := ⟨(refl s).orders, rfl, (refl s).services, rfl, rfl⟩
  lines s _ := ⟨(refl s).orders, rfl, (refl s).services, rfl, rfl⟩

end Store.Declines

theorem Checkout.settleOrder_still (order : OrderRow) : (settleOrder order).Keeps Still :=
  Action.Keeps.ite (still.pure _) (still.bind (Orders.move_still _ _ _) fun _ => still.pure _)

end HostingBilling
