import HostingBilling.Proofs.Checkout.Recording
import Mathlib.Data.List.Pairwise

/-!
# The intents and sessions of payments

No two payments share an intent or a checkout session, and a checkout finds its payment by the one or the
other. Main statement: recording its payment adds one, brings one up to date, keeps a refunded one, or is
refused; it is refused exactly when an open payment has the intent and another payment the session.
-/

namespace HostingBilling

/-! ## Keys that may be missing -/

section keys

variable {ρ κ : Type} {key : ρ → Option κ} {rows before after : List ρ} {a b r r' : ρ}

theorem eq_of_optionalKey (distinct : (rows.filterMap key).Nodup) (ha : a ∈ rows) (hb : b ∈ rows) {k : κ}
    (hak : key a = some k) (hbk : key b = some k) : a = b := by
  have symm : Std.Symm fun a b => ∀ k, key a = some k → ∀ k', key b = some k' → k ≠ k' :=
    ⟨fun _ _ h k hk k' hk' same => h k' hk' k hk same.symm⟩
  by_contra apart
  exact (List.pairwise_filterMap.mp distinct).forall ha hb apart k hak k hbk rfl

theorem nodup_optionalKey_cons (distinct : (rows.filterMap key).Nodup)
    (free : ∀ x ∈ rows, ∀ k, key r = some k → key x ≠ some k) : ((r :: rows).filterMap key).Nodup := by
  cases hk : key r with
  | none => simpa [List.filterMap_cons, hk] using distinct
  | some k =>
    rw [List.filterMap_cons_some hk, List.nodup_cons]
    refine ⟨fun twice => ?_, distinct⟩
    obtain ⟨x, hx, same⟩ := List.mem_filterMap.mp twice
    exact free x hx k hk same

theorem nodup_optionalKey_append (distinct : (rows.filterMap key).Nodup)
    (free : ∀ x ∈ rows, ∀ k, key r = some k → key x ≠ some k) : ((rows ++ [r]).filterMap key).Nodup :=
  ((List.perm_append_singleton r rows).filterMap key).nodup_iff.mpr (nodup_optionalKey_cons distinct free)

/-- A row whose key no other row has may take the place of any row. -/
theorem nodup_optionalKey_replace (distinct : ((before ++ r :: after).filterMap key).Nodup)
    (free : ∀ x ∈ before ++ after, ∀ k, key r' = some k → key x ≠ some k) :
    ((before ++ r' :: after).filterMap key).Nodup := by
  have others : (before ++ after).Sublist (before ++ r :: after) :=
    (List.sublist_cons_self r after).append_left before
  have distinct := distinct.sublist (others.filterMap key)
  exact (List.perm_middle.filterMap key).nodup_iff.mpr (nodup_optionalKey_cons distinct free)

/-- Where a key tells rows apart, the rows before and after the one of that key do not change with it. -/
theorem changeRows_at {key : ρ → κ} [BEq κ] [LawfulBEq κ] {change : ρ → ρ}
    (distinct : ((before ++ r :: after).map key).Nodup) :
    changeRows (fun x => key x == key r) change (before ++ r :: after) = before ++ change r :: after := by
  rw [List.map_append, List.map_cons] at distinct
  obtain ⟨-, later, apart⟩ := List.nodup_append.mp distinct
  have left : changeRows (fun x => key x == key r) change before = before :=
    changeRows_of_none fun x hx => by
      have := apart (key x) (List.mem_map_of_mem hx) (key r) List.mem_cons_self
      simpa using this
  have right : changeRows (fun x => key x == key r) change after = after :=
    changeRows_of_none fun x hx => by
      have other : key x ≠ key r := fun same =>
        (List.nodup_cons.mp later).1 (same ▸ List.mem_map_of_mem hx)
      simpa using other
  simp only [changeRows] at left right ⊢
  rw [List.map_append, List.map_cons, left, right]
  simp

end keys

/-! ## The payment of a checkout -/

/-- Payments can be told apart, and no two of them share an intent or a checkout session. -/
structure Store.Keyed (s : Store) : Prop where
  ids : (s.payments.map (·.id)).Nodup
  intents : (s.payments.filterMap (·.intent)).Nodup
  sessions : (s.payments.filterMap (·.session)).Nodup

def PaymentOutcome.id : PaymentOutcome → Uuid
  | created id => id
  | updated id => id
  | kept id => id

namespace SettledPayment

/-- The checkout gives an intent, and the payment has it. -/
def SharesIntent (p : SettledPayment) (r : PaymentRow) : Prop :=
  ∃ intent, p.intent = some intent ∧ r.intent = some intent.text

def SharesSession (p : SettledPayment) (r : PaymentRow) : Prop := r.session = some p.session

/-- The payment of the checkout: the one that has its intent, or, if none has, the one that has its
session. -/
structure Concerns (p : SettledPayment) (payments : List PaymentRow) (r : PaymentRow) : Prop where
  here : r ∈ payments
  shares : p.SharesIntent r ∨ (∀ x ∈ payments, ¬ p.SharesIntent x) ∧ p.SharesSession r

/-- An open payment has the intent of the checkout, and another payment has its session. -/
def Clashes (p : SettledPayment) (payments : List PaymentRow) : Prop :=
  ∃ r ∈ payments, p.SharesIntent r ∧ r.status ≠ .refunded ∧ ∃ x ∈ payments, x ≠ r ∧ p.SharesSession x

/-- The payment as the settled checkout has it; an intent of its own stays if the checkout gives none. -/
structure Settles (p : SettledPayment) (r : PaymentRow) : Prop where
  user : r.userId = p.userId
  order : r.orderId = some p.orderId
  invoice : r.invoiceId = some p.invoiceId
  amount : r.amountCents = p.amountCents ∧ r.currency = p.currency
  intent : ∀ intent, p.intent = some intent → r.intent = some intent.text
  session : r.session = some p.session
  status : r.status = .succeeded
  method : r.method = "card"

/-- What recording the payment of a checkout answers, and the payments it leaves. -/
inductive Recording (p : SettledPayment) (payments : List PaymentRow) :
    Except Failure PaymentOutcome → List PaymentRow → Prop
  | created {row : PaymentRow} (noIntent : ∀ x ∈ payments, ¬ p.SharesIntent x)
      (noSession : ∀ x ∈ payments, ¬ p.SharesSession x) (new : ∀ x ∈ payments, x.id ≠ row.id)
      (settled : p.Settles row) :
      Recording p payments (.ok (.created row.id)) (payments ++ [row])
  | updated {before after : List PaymentRow} {r row : PaymentRow} (split : payments = before ++ r :: after)
      (concerned : p.Concerns payments r) (open_ : r.status ≠ .refunded) (same : row.id = r.id)
      (settled : p.Settles row) (intent : p.intent = none → row.intent = r.intent)
      (alone : ∀ x ∈ before ++ after, ¬ p.SharesIntent x ∧ ¬ p.SharesSession x) :
      Recording p payments (.ok (.updated row.id)) (before ++ row :: after)
  | kept {r : PaymentRow} (concerned : p.Concerns payments r) (refunded : r.status = .refunded) :
      Recording p payments (.ok (.kept r.id)) payments
  | refused (clashes : p.Clashes payments) :
      Recording p payments
        (.error (.database (.duplicateKey "payments_stripe_checkout_session_id_key"))) payments

end SettledPayment

namespace Store.Keyed

open SettledPayment

variable {s : Store} {p : SettledPayment} {r : PaymentRow}

theorem sharesIntent (h : s.Keyed) {a b : PaymentRow} (ha : a ∈ s.payments) (hb : b ∈ s.payments)
    (left : p.SharesIntent a) (right : p.SharesIntent b) : a = b := by
  obtain ⟨i, given, hai⟩ := left
  obtain ⟨j, given', hbj⟩ := right
  cases given.symm.trans given'
  exact eq_of_optionalKey h.intents ha hb hai hbj

theorem sharesSession (h : s.Keyed) {a b : PaymentRow} (ha : a ∈ s.payments) (hb : b ∈ s.payments)
    (left : p.SharesSession a) (right : p.SharesSession b) : a = b :=
  eq_of_optionalKey h.sessions ha hb left right

/-- The search by intent and then by session finds the payment of the checkout. -/
theorem paymentOf_eq_some (h : s.Keyed) : s.paymentOf p = some r ↔ p.Concerns s.payments r := by
  have bySession : s.paymentBySession p.session = some r ↔ r ∈ s.payments ∧ p.SharesSession r := by
    constructor
    · intro found
      have shares := List.find?_some found
      exact ⟨List.mem_of_find?_eq_some found, by simpa [SharesSession] using shares⟩
    · rintro ⟨here, shares⟩
      refine find?_of_only here (by simpa [SharesSession] using shares) fun x hx same => ?_
      exact h.sharesSession hx here (by simpa [SharesSession] using same) shares
  cases hi : p.intent with
  | none =>
    have none_shares (x : PaymentRow) : ¬ p.SharesIntent x := by
      rintro ⟨i, given, -⟩
      rw [hi] at given
      cases given
    simp only [paymentOf, hi, Option.bind_none, Option.none_or, bySession]
    constructor
    · rintro ⟨here, shares⟩
      exact ⟨here, .inr ⟨fun x _ => none_shares x, shares⟩⟩
    · rintro ⟨here, shares⟩
      exact ⟨here, (shares.resolve_left (none_shares r)).2⟩
  | some i =>
    have shares_iff (x : PaymentRow) : p.SharesIntent x ↔ x.intent = some i.text := by
      simp [SharesIntent, hi]
    cases found : s.paymentByIntent i.text with
    | none =>
      have none_shares : ∀ x ∈ s.payments, ¬ p.SharesIntent x := by
        intro x hx
        rw [shares_iff]
        simpa using List.find?_eq_none.mp found x hx
      simp only [paymentOf, hi, Option.bind_some, found, Option.none_or, bySession]
      constructor
      · rintro ⟨here, shares⟩
        exact ⟨here, .inr ⟨none_shares, shares⟩⟩
      · rintro ⟨here, shares⟩
        exact ⟨here, (shares.resolve_left (none_shares r here)).2⟩
    | some a =>
      have here := List.mem_of_find?_eq_some found
      have shares : p.SharesIntent a := by
        rw [shares_iff]
        simpa using List.find?_some found
      simp only [paymentOf, hi, Option.bind_some, found, Option.some_or, Option.some.injEq]
      constructor
      · rintro rfl
        exact ⟨here, .inl shares⟩
      · rintro ⟨hr, sharesIntent | ⟨none_shares, -⟩⟩
        · exact h.sharesIntent here hr shares sharesIntent
        · exact absurd shares (none_shares a here)

theorem paymentOf_eq_none (h : s.Keyed) : s.paymentOf p = none ↔
    ∀ x ∈ s.payments, ¬ p.SharesIntent x ∧ ¬ p.SharesSession x := by
  rw [Option.eq_none_iff_forall_ne_some]
  simp only [ne_eq, h.paymentOf_eq_some]
  constructor
  · intro none_concerned
    have noIntent : ∀ x ∈ s.payments, ¬ p.SharesIntent x :=
      fun x hx shares => none_concerned x ⟨hx, .inl shares⟩
    exact fun x hx => ⟨noIntent x hx, fun shares => none_concerned x ⟨hx, .inr ⟨noIntent, shares⟩⟩⟩
  · rintro free x ⟨here, shares | ⟨-, shares⟩⟩
    · exact (free x here).1 shares
    · exact (free x here).2 shares

/-- The intent of the payment of a checkout is on no other payment. -/
theorem intent_free (h : s.Keyed) (concerned : p.Concerns s.payments r) :
    ∀ x ∈ s.payments, x.id ≠ r.id → ((p.intent.map (·.text)) <|> r.intent).isSome = true →
      x.intent ≠ ((p.intent.map (·.text)) <|> r.intent) := by
  intro x hx other given same
  cases hi : p.intent with
  | none =>
    obtain ⟨intent, has⟩ := Option.isSome_iff_exists.mp given
    simp only [hi, Option.map_none] at has same
    have := eq_of_optionalKey h.intents hx concerned.here (same.trans has) has
    exact other (congrArg PaymentRow.id this)
  | some i =>
    have shares : p.SharesIntent x := ⟨i, hi, by simpa [hi] using same⟩
    rcases concerned.shares with sharesIntent | ⟨none_shares, -⟩
    · exact other (congrArg PaymentRow.id (h.sharesIntent hx concerned.here shares sharesIntent))
    · exact none_shares x hx shares

/-- All that can be taken is the session. -/
theorem checkPaymentKeys (h : s.Keyed) (concerned : p.Concerns s.payments r) :
    s.checkPaymentKeys r.id ((p.intent.map (·.text)) <|> r.intent) p.session =
      if s.sessionTaken r.id p.session then
        .error (.duplicateKey "payments_stripe_checkout_session_id_key") else .ok () := by
  have intent := Payments.intentTaken_eq_false.mpr (h.intent_free concerned)
  rw [Store.checkPaymentKeys, intent, if_neg Bool.false_ne_true]

theorem sessionTaken_iff (h : s.Keyed) (concerned : p.Concerns s.payments r)
    (open_ : r.status ≠ .refunded) :
    s.sessionTaken r.id p.session = true ↔ p.Clashes s.payments := by
  have taken : s.sessionTaken r.id p.session = true ↔
      ∃ x ∈ s.payments, x.id ≠ r.id ∧ p.SharesSession x := by
    simp [sessionTaken, SharesSession]
  rw [taken]
  constructor
  · rintro ⟨x, hx, other, session⟩
    have apart : x ≠ r := fun same => other (congrArg PaymentRow.id same)
    rcases concerned.shares with shares | ⟨-, shares⟩
    · exact ⟨r, concerned.here, shares, open_, x, hx, apart, session⟩
    · exact absurd (h.sharesSession hx concerned.here session shares) apart
  · rintro ⟨a, ha, shares, -, x, hx, apart, session⟩
    have same : a = r := by
      rcases concerned.shares with sharesIntent | ⟨none_shares, -⟩
      · exact h.sharesIntent ha concerned.here shares sharesIntent
      · exact absurd shares (none_shares a ha)
    subst same
    exact ⟨x, hx, fun id => apart (eq_of_key h.ids hx ha id), session⟩

/-- A payment with an identifier, an intent and a session that no other has is added. -/
theorem add (h : s.Keyed) (new : ∀ x ∈ s.payments, x.id ≠ r.id)
    (intent : ∀ x ∈ s.payments, ∀ k, r.intent = some k → x.intent ≠ some k)
    (session : ∀ x ∈ s.payments, ∀ k, r.session = some k → x.session ≠ some k) :
    Store.Keyed { s with payments := s.payments ++ [r] } where
  ids := by simpa [List.nodup_append] using ⟨h.ids, new⟩
  intents := nodup_optionalKey_append h.intents intent
  sessions := nodup_optionalKey_append h.sessions session

/-- So is a payment that takes the place of one with the same identifier. -/
theorem replace (h : s.Keyed) {before after : List PaymentRow} {r' : PaymentRow}
    (split : s.payments = before ++ r :: after) (id : r'.id = r.id)
    (intent : ∀ x ∈ before ++ after, ∀ k, r'.intent = some k → x.intent ≠ some k)
    (session : ∀ x ∈ before ++ after, ∀ k, r'.session = some k → x.session ≠ some k) :
    Store.Keyed { s with payments := before ++ r' :: after } where
  ids := by simpa [split, id] using h.ids
  intents := nodup_optionalKey_replace (split ▸ h.intents) intent
  sessions := nodup_optionalKey_replace (split ▸ h.sessions) session

end Store.Keyed

namespace SettledPayment

variable {p : SettledPayment} {payments later : List PaymentRow} {answer : Except Failure PaymentOutcome}

/-- An intent is never erased. -/
theorem Recording.intents (h : p.Recording payments answer later) :
    ∀ r ∈ payments, ∃ r' ∈ later, r'.id = r.id ∧ (r.intent.isSome = true → r'.intent.isSome = true) := by
  intro x hx
  cases h with
  | created => exact ⟨x, List.mem_append_left _ hx, rfl, id⟩
  | @updated before after r row split _ _ same settled kept =>
    rw [split, List.perm_middle.mem_iff] at hx
    rcases List.mem_cons.mp hx with rfl | hx
    · refine ⟨row, by simp, same, fun has => ?_⟩
      cases hi : p.intent with
      | none => rwa [kept hi]
      | some i => rw [settled.intent i hi]; rfl
    · exact ⟨x, List.perm_middle.mem_iff.mpr (List.mem_cons_of_mem _ hx), rfl, id⟩
  | kept => exact ⟨x, hx, rfl, id⟩
  | refused => exact ⟨x, hx, rfl, id⟩

end SettledPayment

namespace Store.Keyed

open SettledPayment

variable {s s' : Store} {p : SettledPayment} {answer : Except Failure PaymentOutcome}

theorem concerns_unique (h : s.Keyed) {a b : PaymentRow} (ha : p.Concerns s.payments a)
    (hb : p.Concerns s.payments b) : a = b :=
  Option.some.inj ((h.paymentOf_eq_some.mpr ha).symm.trans (h.paymentOf_eq_some.mpr hb))

theorem failed_iff (h : s.Keyed) {later : List PaymentRow} (recorded : p.Recording s.payments answer later) :
    (∃ e, answer = .error e) ↔ p.Clashes s.payments := by
  cases recorded with
  | created noIntent =>
    refine iff_of_false (by simp) fun ⟨r, hr, shares, _⟩ => noIntent r hr shares
  | @updated before after r row split concerned open_ _ _ _ alone =>
    refine iff_of_false (by simp) fun ⟨a, ha, shares, _, x, hx, apart, session⟩ => ?_
    have only : ∀ y ∈ s.payments, p.SharesIntent y ∨ p.SharesSession y → y = r := by
      intro y hy either
      rw [split, List.perm_middle.mem_iff] at hy
      rcases List.mem_cons.mp hy with same | hy
      · exact same
      · exact (either.elim (alone y hy).1 (alone y hy).2).elim
    exact apart ((only x hx (.inr session)).trans (only a ha (.inl shares)).symm)
  | @kept r concerned refunded =>
    refine iff_of_false (by simp) fun ⟨a, ha, shares, open_, _⟩ => ?_
    exact open_ (h.concerns_unique ⟨ha, .inl shares⟩ concerned ▸ refunded)
  | refused clashes => exact iff_of_true ⟨_, rfl⟩ clashes

/-- The payment that was recorded is the payment of the checkout from then on. -/
theorem concerned_after {outcome : PaymentOutcome}
    (recorded : p.Recording s.payments (.ok outcome) s'.payments) :
    ∃ r, p.Concerns s'.payments r ∧ r.id = outcome.id := by
  have settled_concerns {r : PaymentRow} (here : r ∈ s'.payments) (settled : p.Settles r)
      (noIntent : p.intent = none → ∀ x ∈ s'.payments, ¬ p.SharesIntent x) : p.Concerns s'.payments r := by
    cases hi : p.intent with
    | none => exact ⟨here, .inr ⟨noIntent hi, settled.session⟩⟩
    | some i => exact ⟨here, .inl ⟨i, hi, settled.intent i hi⟩⟩
  have unshared (none_given : p.intent = none) (x : PaymentRow) : ¬ p.SharesIntent x := by
    rintro ⟨i, given, -⟩
    rw [none_given] at given
    cases given
  generalize answered : (Except.ok outcome : Except Failure PaymentOutcome) = answer at recorded
  generalize left : s'.payments = later at recorded settled_concerns ⊢
  cases recorded with
  | @created row _ _ _ settled =>
    cases answered
    exact ⟨row, settled_concerns (by simp) settled fun none_given x _ => unshared none_given x, rfl⟩
  | @updated _ _ r row _ _ _ _ settled =>
    cases answered
    exact ⟨row, settled_concerns (by simp) settled fun none_given x _ => unshared none_given x, rfl⟩
  | @kept r concerned =>
    cases answered
    exact ⟨r, concerned, rfl⟩
  | refused => cases answered

theorem outcome_id (h : s.Keyed) {outcome : PaymentOutcome} {r : PaymentRow} {later : List PaymentRow}
    (concerned : p.Concerns s.payments r) (recorded : p.Recording s.payments (.ok outcome) later) :
    outcome.id = r.id := by
  generalize answered : (Except.ok outcome : Except Failure PaymentOutcome) = answer at recorded
  cases recorded with
  | created noIntent noSession =>
    rcases concerned.shares with shares | ⟨-, shares⟩
    · exact (noIntent r concerned.here shares).elim
    · exact (noSession r concerned.here shares).elim
  | updated _ concerned' _ same =>
    cases answered
    exact same.trans (congrArg PaymentRow.id (h.concerns_unique concerned' concerned))
  | kept concerned' =>
    cases answered
    exact congrArg PaymentRow.id (h.concerns_unique concerned' concerned)
  | refused => cases answered

end Store.Keyed

/-! ## Recording it -/

namespace Payments

open Store Store.Keyed SettledPayment

variable {w : World} {p : SettledPayment}

/-- What recording the payment of a checkout in `w` answers and leaves. -/
structure Records (p : SettledPayment) (w : World) (answer : Except Failure PaymentOutcome)
    (w' : World) : Prop where
  ran : (record p).run w = (answer, w')
  recording : p.Recording w.store.payments answer w'.store.payments
  rest : w' = { w with nextId := w'.nextId, store := { w.store with payments := w'.store.payments } }
  counted : w'.nextId ≤ w.nextId + 1
  keyed : w'.store.Keyed

/-- Another payment that is open has the session: nothing is recorded. -/
theorem record_refused (calm : w.faults = []) {r : PaymentRow} {e : DatabaseFailure}
    (found : w.store.paymentOf p = some r) (open_ : r.status ≠ .refunded)
    (taken : w.store.checkPaymentKeys r.id ((p.intent.map (·.text)) <|> r.intent) p.session = .error e) :
    (record p).run w = (.error (.database e), w) := by
  rw [record, Action.run_bind_of_ok (run_ofCheckout calm p)]
  simp only [found]
  rw [if_neg open_, Action.run_bind, run_execute calm]
  simp only [updatePayment, taken, bind, Except.bind]

theorem settles_newPayment (now : Instant) (id : Uuid) (p : SettledPayment) :
    p.Settles (newPayment now id p) where
  user := rfl
  order := rfl
  invoice := rfl
  amount := ⟨rfl, rfl⟩
  intent := fun i given => by simp [newPayment, given]
  session := rfl
  status := rfl
  method := rfl

theorem settles_settled (now : Instant) (p : SettledPayment) (r : PaymentRow) :
    p.Settles (settled now p r) where
  user := rfl
  order := rfl
  invoice := rfl
  amount := ⟨rfl, rfl⟩
  intent := fun i given => by simp [settled, given]
  session := rfl
  status := rfl
  method := rfl

section

variable (calm : w.faults = []) (keyed : w.store.Keyed)

include calm keyed

/-- No payment has the intent or the session: one is added. -/
theorem records_first (fresh : ∀ r ∈ w.store.payments, r.id ≠ .ofNat w.nextId)
    (none_yet : w.store.paymentOf p = none) :
    ∃ w', Records p w (.ok (.created (.ofNat w.nextId))) w' := by
  have none_shares := keyed.paymentOf_eq_none.mp none_yet
  have noIntent : ∀ x ∈ w.store.payments, ∀ k, p.intent.map (·.text) = some k → x.intent ≠ some k := by
    intro x hx k given same
    obtain ⟨i, hi, rfl⟩ := Option.map_eq_some_iff.mp given
    exact (none_shares x hx).1 ⟨i, hi, same⟩
  have free : w.store.checkPaymentKeys (.ofNat w.nextId) (p.intent.map (·.text)) p.session = .ok () := by
    refine checkPaymentKeys_ok.mpr ⟨fun x hx _ given same => ?_, fun x hx _ => (none_shares x hx).2⟩
    obtain ⟨k, hk⟩ := Option.isSome_iff_exists.mp given
    exact noIntent x hx k hk (same.trans hk)
  refine ⟨_, record_first calm none_yet free, ?_, rfl, Nat.le_refl _, ?_⟩
  · exact .created (fun x hx => (none_shares x hx).1) (fun x hx => (none_shares x hx).2) fresh
      (settles_newPayment w.now (.ofNat w.nextId) p)
  · refine keyed.add fresh noIntent fun x hx k has same => ?_
    exact (none_shares x hx).2 (same.trans has.symm)

/-- The payment of the checkout is open and no other has the session: it is brought up to date. -/
theorem records_update {r : PaymentRow} (concerned : p.Concerns w.store.payments r)
    (open_ : r.status ≠ .refunded) (free : ¬ p.Clashes w.store.payments) :
    ∃ w', Records p w (.ok (.updated r.id)) w' := by
  have found := keyed.paymentOf_eq_some.mpr concerned
  have passes := keyed.checkPaymentKeys concerned
  rw [if_neg (fun taken => free ((keyed.sessionTaken_iff concerned open_).mp taken))] at passes
  obtain ⟨noIntent, noSession⟩ := checkPaymentKeys_ok.mp passes
  have ran := record_updated calm found open_ passes
  obtain ⟨before, after, split⟩ := List.append_of_mem concerned.here
  rw [split, changeRows_at (split ▸ keyed.ids)] at ran
  have others : ∀ x ∈ before ++ after, x ∈ w.store.payments ∧ x.id ≠ r.id := by
    intro x hx
    have distinct := keyed.ids
    rw [split, (List.perm_middle.map _).nodup_iff, List.map_cons, List.nodup_cons] at distinct
    refine ⟨?_, fun same => distinct.1 (same ▸ List.mem_map_of_mem hx)⟩
    rw [split, List.perm_middle.mem_iff]
    exact List.mem_cons_of_mem _ hx
  have freeIntent : ∀ x ∈ before ++ after, ∀ k, (settled w.now p r).intent = some k →
      x.intent ≠ some k := by
    intro x hx k has same
    obtain ⟨hx, other⟩ := others x hx
    exact noIntent x hx other (Option.isSome_of_eq_some has) (same.trans has.symm)
  have freeSession : ∀ x ∈ before ++ after, ¬ p.SharesSession x :=
    fun x hx => noSession x (others x hx).1 (others x hx).2
  refine ⟨_, ran, ?_, rfl, Nat.le_succ _, ?_⟩
  · change p.Recording _ (.ok (.updated (settled w.now p r).id)) (before ++ settled w.now p r :: after)
    refine .updated split concerned open_ rfl (settles_settled w.now p r)
      (fun none_given => by simp [settled, none_given]) fun x hx => ⟨?_, freeSession x hx⟩
    rintro ⟨i, given, has⟩
    exact freeIntent x hx i.text (by simp [settled, given]) has
  · refine keyed.replace split rfl freeIntent fun x hx k has same => ?_
    exact freeSession x hx (same.trans has.symm)

/-- Some payment is the one of the checkout: it is kept, brought up to date, or the checkout is refused. -/
theorem records_concerned {r : PaymentRow} (concerned : p.Concerns w.store.payments r) :
    ∃ answer w', Records p w answer w' := by
  have found := keyed.paymentOf_eq_some.mpr concerned
  by_cases refunded : r.status = .refunded
  · exact ⟨_, w, record_kept calm found refunded, .kept concerned refunded, rfl, Nat.le_succ _, keyed⟩
  · by_cases clashes : p.Clashes w.store.payments
    · have fails := keyed.checkPaymentKeys concerned
      rw [if_pos ((keyed.sessionTaken_iff concerned refunded).mpr clashes)] at fails
      exact ⟨_, w, record_refused calm found refunded fails, .refused clashes, rfl, Nat.le_succ _, keyed⟩
    · exact ⟨_, records_update calm keyed concerned refunded clashes⟩

/-- However the payments stand, recording one of a checkout is one of the four. -/
theorem records (fresh : ∀ r ∈ w.store.payments, r.id ≠ .ofNat w.nextId) (p : SettledPayment) :
    ∃ answer w', Records p w answer w' := by
  cases found : w.store.paymentOf p with
  | none => exact ⟨_, records_first calm keyed fresh found⟩
  | some r => exact records_concerned calm keyed (keyed.paymentOf_eq_some.mp found)

/-- Recording it again finds the same payment, and changes nothing but its time. -/
theorem records_again (numbered : ∀ r ∈ w.store.payments, r.id.val < w.nextId)
    (room : w.nextId < Uuid.limit) {outcome : PaymentOutcome} {w' : World}
    (first : Records p w (.ok outcome) w') (later : Instant) :
    ∃ outcome' w'', Records p { w' with now := later } (.ok outcome') w'' ∧ outcome'.id = outcome.id ∧
      w''.nextId = w'.nextId ∧
      w''.store.payments.map PaymentRow.untimed = w'.store.payments.map PaymentRow.untimed := by
  have still_calm : w'.faults = [] := by rw [first.rest]; exact calm
  obtain ⟨-, ids, recorded⟩ :=
    record_ok calm keyed.ids numbered first.ran (Nat.le_trans first.counted (Nat.succ_le_of_lt room))
  obtain ⟨outcome', payments, ran, timed, -, -⟩ :=
    record_again (w := { w' with now := later }) still_calm ids recorded
  obtain ⟨r, concerned, isOutcome⟩ := concerned_after first.recording
  obtain ⟨answer, w'', second⟩ :=
    records_concerned (w := { w' with now := later }) still_calm first.keyed concerned
  obtain ⟨rfl, rfl⟩ := Prod.mk.inj (second.ran.symm.trans ran)
  refine ⟨outcome', _, second, ?_, rfl, timed⟩
  exact (first.keyed.outcome_id concerned second.recording).trans isOutcome

end

/-- **The payment of a checkout is recorded once.** Whatever payments there are, no two of which share an
intent or a session, recording the payment of a checkout adds one, brings one up to date, keeps a refunded
one or is refused, and it leaves them as unique as before. It is refused exactly when an open payment has the
intent and another payment the session. Recorded again, it is the same payment with a new time. -/
theorem record_once (calm : w.faults = []) (keyed : w.store.Keyed)
    (numbered : ∀ r ∈ w.store.payments, r.id.val < w.nextId) (room : w.nextId < Uuid.limit)
    (p : SettledPayment) :
    ∃ answer w', Records p w answer w' ∧ ((∃ e, answer = .error e) ↔ p.Clashes w.store.payments) ∧
      (∀ r ∈ w.store.payments, ∃ r' ∈ w'.store.payments, r'.id = r.id ∧
        (r.intent.isSome = true → r'.intent.isSome = true)) ∧
      ∀ outcome, answer = .ok outcome → ∀ later, ∃ outcome' w'',
        Records p { w' with now := later } (.ok outcome') w'' ∧ outcome'.id = outcome.id ∧
          w''.nextId = w'.nextId ∧
          w''.store.payments.map PaymentRow.untimed = w'.store.payments.map PaymentRow.untimed := by
  have fresh : ∀ r ∈ w.store.payments, r.id ≠ .ofNat w.nextId :=
    fun r hr => Uuid.ne_ofNat (numbered r hr) room
  obtain ⟨answer, w', first⟩ := records calm keyed fresh p
  refine ⟨answer, w', first, keyed.failed_iff first.recording, first.recording.intents, ?_⟩
  rintro outcome rfl later
  exact records_again calm keyed numbered room first later

/-- An open payment has an intent, and another payment the session that goes with it at the gateway. -/
def crossedPayments : World := World.start { Store.empty with
  payments := [
    ⟨.ofNat 1, .ofNat 9, some (.ofNat 5), none, some "pi_1", none, 500, "USD", .failed, "card", ⟨900, 0⟩,
      ⟨900, 0⟩⟩,
    ⟨.ofNat 2, .ofNat 9, some (.ofNat 5), none, none, some "cs_1", 500, "USD", .pending, "card", ⟨900, 0⟩,
      ⟨900, 0⟩⟩] } ⟨1000, 0⟩ 100 ⟨"", "", ""⟩

def crossingPayment : SettledPayment where
  userId := .ofNat 9
  orderId := .ofNat 5
  invoiceId := .ofNat 6
  intent := some ⟨"pi_1"⟩
  session := "cs_1"
  amountCents := 500
  currency := "USD"

theorem record_once_crossed : ∃ e w', Records crossingPayment crossedPayments (.error e) w' := by
  obtain ⟨answer, w', recorded, failed, -⟩ := record_once (w := crossedPayments) rfl
    ⟨by decide, by decide, by decide⟩ (by decide) (by decide) crossingPayment
  have clashes : crossingPayment.Clashes crossedPayments.store.payments :=
    ⟨_, List.mem_cons_self, ⟨⟨"pi_1"⟩, rfl, rfl⟩, by decide, _, List.mem_cons_of_mem _ List.mem_cons_self,
      fun same => absurd (congrArg PaymentRow.intent same) (by decide), rfl⟩
  obtain ⟨e, rfl⟩ := failed.mpr clashes
  exact ⟨e, w', recorded⟩

end Payments

end HostingBilling
