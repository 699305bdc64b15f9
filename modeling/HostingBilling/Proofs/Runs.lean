import HostingBilling.TaskQueue

/-!
# How actions run

An action run on a world gives an answer or a failure, and the world it got to. Here are the equations of
the parts that actions are built from, what a statement does in a world without faults, and what all
statements of an action together do to the store when each of them keeps to a relation.
-/

namespace HostingBilling

namespace Action

variable {α β : Type} {w w' : World}

@[simp] theorem run_pure (a : α) (w : World) : (pure a : Action α).run w = (.ok a, w) := rfl

@[simp] theorem run_throw (e : Failure) (w : World) :
    (throw e : Action α).run w = (.error e, w) := rfl

theorem run_bind (a : Action α) (f : α → Action β) (w : World) :
    (a >>= f).run w = match a.run w with
      | (.ok x, w') => (f x).run w'
      | (.error e, w') => (.error e, w') := by
  change (ExceptT.bind a f : Action β) w = _
  simp only [ExceptT.bind, ExceptT.mk, run]
  change (match a w with | (x, w') => ExceptT.bindCont f x w') = _
  rcases a w with ⟨x | x, w'⟩ <;> rfl

theorem run_bind_of_ok {a : Action α} {x : α} (h : a.run w = (.ok x, w')) (f : α → Action β) :
    (a >>= f).run w = (f x).run w' := by
  rw [run_bind, h]

theorem run_bind_of_error {a : Action α} {e : Failure} (h : a.run w = (.error e, w'))
    (f : α → Action β) : (a >>= f).run w = (.error e, w') := by
  rw [run_bind, h]

/-- What goes through to the end has gone through at every step. -/
theorem run_bind_ok {a : Action α} {f : α → Action β} {b : β} (h : (a >>= f).run w = (.ok b, w')) :
    ∃ x w₁, a.run w = (.ok x, w₁) ∧ (f x).run w₁ = (.ok b, w') := by
  rw [run_bind] at h
  rcases hr : a.run w with ⟨x | x, w₁⟩
  · rw [hr] at h
    cases h
  · rw [hr] at h
    exact ⟨x, w₁, rfl, h⟩

/-- The answer that is made at the end is no part of the world that is left. -/
theorem run_answer (a : Action α) (f : α → β) (w : World) :
    ((a >>= fun x => pure (f x)).run w).2 = (a.run w).2 := by
  rw [run_bind]
  rcases a.run w with ⟨_ | _, _⟩ <;> rfl

/-- The answer determines the run, up to the world that it got to. -/
theorem run_eq_of_fst {a : Action α} {r : Except Failure α} (h : (a.run w).1 = r) :
    a.run w = (r, (a.run w).2) := by
  rw [← h]

theorem exists_of_isOk {r : Except Failure α} (h : r.isOk = true) : ∃ x, r = .ok x := by
  cases r with
  | error e => cases h
  | ok x => exact ⟨x, rfl⟩

@[simp] theorem run_attempt (a : Action α) (w : World) :
    a.attempt.run w = (.ok (a.run w).1, (a.run w).2) := rfl

@[simp] theorem run_ofExcept_ok (a : α) (w : World) : (ofExcept (.ok a)).run w = (.ok a, w) := rfl

@[simp] theorem run_ofExcept_error (e : Failure) (w : World) :
    (ofExcept (.error e) : Action α).run w = (.error e, w) := rfl

theorem run_ofExcept (x : Except Failure α) (w : World) : (ofExcept x).run w = (x, w) := by
  cases x <;> rfl

@[simp] theorem run_now (w : World) : now.run w = (.ok w.now, w) := rfl

@[simp] theorem run_freshId (w : World) :
    freshId.run w = (.ok (Uuid.ofNat w.nextId), { w with nextId := w.nextId + 1 }) := rfl

theorem run_transaction (body : Action α) (w : World) :
    (transaction body).run w = match body.run w with
      | (.ok a, w') => (.ok a, w')
      | (.error e, w') => (.error e, { w' with store := w.store }) := rfl

theorem run_transaction_of_ok {body : Action α} {a : α} (h : body.run w = (.ok a, w')) :
    (transaction body).run w = (.ok a, w') := by
  rw [run_transaction, h]

theorem run_transaction_ok {body : Action α} {a : α}
    (h : (transaction body).run w = (.ok a, w')) : body.run w = (.ok a, w') := by
  rw [run_transaction] at h
  rcases hr : body.run w with ⟨e | x, w₁⟩ <;> rw [hr] at h <;> cases h
  rfl

theorem run_execute_ok {s : Statement} {f : Instant → Store → Except DatabaseFailure (α × Store)} {x : α}
    (ran : (execute s f).run w = (.ok x, w')) :
    ∃ store faults, f w.now w.store = .ok (x, store) ∧
      w' = { w with faults := faults, store := store } := by
  unfold execute run at ran
  cases hit : (strike s w.faults).1 with
  | true =>
    simp only [hit, if_true] at ran
    cases ran
  | false =>
    simp only [hit, Bool.false_eq_true, if_false] at ran
    rcases answer : f w.now w.store with failure | ⟨a, store⟩
    · simp only [answer] at ran
      cases ran
    · simp only [answer] at ran
      cases ran
      exact ⟨_, _, rfl, rfl⟩

/-- A statement that is never refused leaves what it asks for, or is struck and leaves the store as it
was. -/
theorem store_change (s : Statement) (f : Instant → Store → α × Store) (w : World) :
    ((change s f).run w).2.store = w.store ∨
      ((change s f).run w).2.store = (f w.now w.store).2 := by
  unfold change execute run
  dsimp only
  split
  · exact .inl rfl
  · exact .inr rfl

/-- A statement that is not struck. -/
theorem run_execute_unstruck {s : Statement} (unstruck : (strike s w.faults).1 = false)
    (f : Instant → Store → Except DatabaseFailure (α × Store)) :
    (execute s f).run w = match f w.now w.store with
      | .ok (a, store) => (.ok a, { w with faults := (strike s w.faults).2, store := store })
      | .error e => (.error (.database e), { w with faults := (strike s w.faults).2 }) := by
  unfold execute run
  simp only [unstruck, Bool.false_eq_true, if_false]
  rcases f w.now w.store with e | ⟨a, store⟩ <;> rfl

/-- A statement that is struck leaves the store as it was. -/
theorem run_execute_struck {s : Statement} (struck : (strike s w.faults).1 = true)
    (f : Instant → Store → Except DatabaseFailure (α × Store)) :
    (execute s f).run w =
      (.error (.database .injected), { w with faults := (strike s w.faults).2 }) := by
  unfold execute run
  simp only [struck, if_true]

end Action

/-! ## Statements without faults -/

/-- No fault waits for the statement. -/
def World.Spares (w : World) (s : Statement) : Prop := ∀ f ∈ w.faults, f.statement ≠ s

theorem World.spares_of_calm {w : World} (calm : w.faults = []) (s : Statement) : w.Spares s := by
  simp [Spares, calm]

theorem strike_spared {s : Statement} {faults : List Fault} (spared : ∀ f ∈ faults, f.statement ≠ s) :
    strike s faults = (false, faults) := by
  induction faults with
  | nil => rfl
  | cons f rest ih =>
    obtain ⟨here, there⟩ := List.forall_mem_cons.mp spared
    rw [strike, if_neg here, ih there]

/-- A statement uses up faults that wait for it, and brings none. -/
theorem strike_spares (s : Statement) {t : Statement} {faults : List Fault}
    (spared : ∀ f ∈ faults, f.statement ≠ t) : ∀ f ∈ (strike s faults).2, f.statement ≠ t := by
  induction faults with
  | nil => exact spared
  | cons f rest ih =>
    obtain ⟨here, there⟩ := List.forall_mem_cons.mp spared
    rw [strike]
    split
    · next is =>
      cases f.after with
      | zero => exact there
      | succ n => exact List.forall_mem_cons.mpr ⟨fun same => here (is.trans same), ih there⟩
    · exact List.forall_mem_cons.mpr ⟨here, ih there⟩

section spared

variable {α : Type} {w : World} {s : Statement} (spared : w.Spares s)

include spared

theorem run_execute_spared (f : Instant → Store → Except DatabaseFailure (α × Store)) :
    (execute s f).run w = match f w.now w.store with
      | .ok (a, store) => (.ok a, { w with store := store })
      | .error e => (.error (.database e), w) := by
  have passes := strike_spared spared
  rw [Action.run_execute_unstruck (by rw [passes]), passes]

theorem run_change_spared (f : Instant → Store → α × Store) :
    (change s f).run w = (.ok (f w.now w.store).1, { w with store := (f w.now w.store).2 }) := by
  rw [change, run_execute_spared spared]

end spared

section calm

variable {α : Type} {w : World} (calm : w.faults = []) (s : Statement)

include calm

theorem run_execute (f : Instant → Store → Except DatabaseFailure (α × Store)) :
    (execute s f).run w = match f w.now w.store with
      | .ok (a, store) => (.ok a, { w with store := store })
      | .error e => (.error (.database e), w) :=
  run_execute_spared (World.spares_of_calm calm s) f

theorem run_change (f : Instant → Store → α × Store) :
    (change s f).run w = (.ok (f w.now w.store).1, { w with store := (f w.now w.store).2 }) :=
  run_change_spared (World.spares_of_calm calm s) f

theorem run_ask (f : Instant → Store → α) :
    (ask s f).run w = (.ok (f w.now w.store), w) := by
  rw [ask, run_execute calm]

omit s in
/-- A sweep runs while no other one of its name does. -/
theorem run_withLease {name : String} (free : name ∉ w.leases) (skipped : α) (sweep : Action α) :
    (TaskQueue.withLease name skipped sweep).run w = sweep.run w := by
  have leased : (ask .takeLease fun _ _ => () : Action Unit).run w = (.ok (), w) := run_ask calm _ _
  rw [TaskQueue.withLease, Action.run_bind_of_ok leased,
    Action.run_bind_of_ok (show (get : Action World).run w = (.ok w, w) from rfl), if_neg (by simpa using free)]

end calm

/-! ## What every statement keeps -/

/-- One world follows from another while the clock stands still: identifiers are only used up, no fault
appears, and the stores are related. -/
structure Follows (R : Store → Store → Prop) (w w' : World) : Prop where
  now : w'.now = w.now
  nextId : w.nextId ≤ w'.nextId
  spares : ∀ s, w.Spares s → w'.Spares s
  store : R w.store w'.store

theorem Follows.calm {R : Store → Store → Prop} {w w' : World} (h : Follows R w w')
    (calm : w.faults = []) : w'.faults = [] := by
  cases left : w'.faults with
  | nil => rfl
  | cons f rest =>
    have spared := h.spares f.statement (World.spares_of_calm calm _)
    exact absurd rfl (spared f (by simp [left]))

/-- A relation that holds along any sequence of statements. -/
structure Chain (R : Store → Store → Prop) : Prop where
  refl : ∀ s, R s s
  trans : ∀ {a b c}, R a b → R b c → R a c

/-- Whatever comes of the action, the store it leaves is related to the one it found. -/
def Action.Keeps {α : Type} (R : Store → Store → Prop) (a : Action α) : Prop :=
  ∀ w, Follows R w (a.run w).2

theorem Action.Keeps.follows {α : Type} {R : Store → Store → Prop} {a : Action α} {r : Except Failure α}
    {w w' : World} (ha : a.Keeps R) (ran : a.run w = (r, w')) : Follows R w w' := by
  have := ha w
  rwa [ran] at this

theorem Follows.mono {R S : Store → Store → Prop} (h : ∀ {a b}, R a b → S a b) {w w' : World}
    (hw : Follows R w w') : Follows S w w' := ⟨hw.now, hw.nextId, hw.spares, h hw.store⟩

theorem Action.Keeps.mono {α : Type} {R S : Store → Store → Prop} (h : ∀ {a b}, R a b → S a b)
    {a : Action α} (ha : a.Keeps R) : a.Keeps S := fun w => (ha w).mono h

theorem Action.Keeps.attempt {α : Type} {R : Store → Store → Prop} {a : Action α} (ha : a.Keeps R) :
    a.attempt.Keeps R := fun w => ha w

theorem Action.Keeps.ite {α : Type} {R : Store → Store → Prop} {c : Prop} [Decidable c]
    {a b : Action α} (ha : a.Keeps R) (hb : b.Keeps R) : (if c then a else b).Keeps R := by
  split
  · exact ha
  · exact hb

/-- The relation that asks nothing of the stores. -/
theorem Chain.all : Chain fun _ _ : Store => True := ⟨fun _ => trivial, fun _ _ => trivial⟩

namespace Chain

variable {α β : Type} {R : Store → Store → Prop} (h : Chain R)

include h

theorem follows_refl (w : World) : Follows R w w := ⟨rfl, Nat.le_refl _, fun _ spared => spared, h.refl _⟩

theorem follows_trans {a b c : World} (hab : Follows R a b) (hbc : Follows R b c) : Follows R a c where
  now := hbc.now.trans hab.now
  nextId := Nat.le_trans hab.nextId hbc.nextId
  spares s spared := hbc.spares s (hab.spares s spared)
  store := h.trans hab.store hbc.store

theorem pure (a : α) : (Pure.pure a : Action α).Keeps R := fun w => h.follows_refl w

theorem throw (e : Failure) : (MonadExcept.throw e : Action α).Keeps R := fun w => h.follows_refl w

theorem bind {a : Action α} {f : α → Action β} (ha : a.Keeps R) (hf : ∀ x, (f x).Keeps R) :
    (a >>= f).Keeps R := by
  intro w
  have first := ha w
  rw [Action.run_bind]
  rcases hr : a.run w with ⟨e | x, w₁⟩
  · rw [hr] at first
    exact first
  · rw [hr] at first
    exact h.follows_trans first (hf x w₁)

theorem ofExcept (x : Except Failure α) : (Action.ofExcept x).Keeps R := by
  cases x
  · exact h.throw _
  · exact h.pure _

theorem now : Action.now.Keeps R := fun w => h.follows_refl w

theorem freshId : Action.freshId.Keeps R := fun _ =>
  ⟨rfl, Nat.le_succ _, fun _ spared => spared, h.refl _⟩

theorem transaction {a : Action α} (ha : a.Keeps R) : (HostingBilling.transaction a).Keeps R := by
  intro w
  have first := ha w
  rw [Action.run_transaction]
  rcases hr : a.run w with ⟨e | x, w₁⟩
  · rw [hr] at first
    exact ⟨first.now, first.nextId, first.spares, h.refl _⟩
  · rw [hr] at first
    exact first

theorem execute (s : Statement) {f : Instant → Store → Except DatabaseFailure (α × Store)}
    (hf : ∀ now store a store', f now store = .ok (a, store') → R store store') :
    (HostingBilling.execute s f).Keeps R := by
  intro w
  unfold HostingBilling.execute Action.run
  have spares (t : Statement) (spared : w.Spares t) : ∀ f ∈ (strike s w.faults).2, f.statement ≠ t :=
    strike_spares s spared
  dsimp only
  split
  · exact ⟨rfl, Nat.le_refl _, spares, h.refl _⟩
  · split
    · next found => exact ⟨rfl, Nat.le_refl _, spares, hf _ _ _ _ found⟩
    · exact ⟨rfl, Nat.le_refl _, spares, h.refl _⟩

theorem change (s : Statement) {f : Instant → Store → α × Store}
    (hf : ∀ now store, R store (f now store).2) : (HostingBilling.change s f).Keeps R := by
  apply h.execute
  intro now store a store' found
  have := hf now store
  rw [(Except.ok.inj found : f now store = (a, store'))] at this
  exact this

theorem ask (s : Statement) (f : Instant → Store → α) : (HostingBilling.ask s f).Keeps R := by
  apply h.execute
  intro now store a store' found
  cases found
  exact h.refl _

end Chain

/-! ## Actions that never fail -/

/-- Whatever the world, there is an answer. -/
def Action.Total {α : Type} (a : Action α) : Prop := ∀ w, ∃ x w', a.run w = (.ok x, w')

namespace Action.Total

variable {α β : Type}

theorem pure (a : α) : (Pure.pure a : Action α).Total := fun w => ⟨a, w, rfl⟩

theorem attempt (a : Action α) : a.attempt.Total := fun _ => ⟨_, _, rfl⟩

theorem bind {a : Action α} {f : α → Action β} (first : a.Total) (rest : ∀ x, (f x).Total) :
    (a >>= f).Total := by
  intro w
  obtain ⟨x, w₁, ran⟩ := first w
  rw [Action.run_bind_of_ok ran]
  exact rest x w₁

end Action.Total

/-! ## Actions that catch no failure -/

/-- Built from statements, with no failure caught on the way. -/
inductive Action.Plain : {α : Type} → Action α → Prop
  | pure {α : Type} (a : α) : Plain (Pure.pure a : Action α)
  | throw {α : Type} (e : Failure) : Plain (MonadExcept.throw e : Action α)
  | now : Plain Action.now
  | freshId : Plain Action.freshId
  | execute {α : Type} (s : Statement)
      (f : Instant → Store → Except DatabaseFailure (α × Store)) : Plain (HostingBilling.execute s f)
  | bind {α β : Type} {a : Action α} {f : α → Action β} (first : Plain a)
      (rest : ∀ x, Plain (f x)) : Plain (a >>= f)
  | transaction {α : Type} {a : Action α} (body : Plain a) : Plain (HostingBilling.transaction a)

namespace Action.Plain

variable {α : Type} {a : Action α}

theorem ofExcept (x : Except Failure α) : Plain (Action.ofExcept x) := by
  cases x
  · exact throw _
  · exact pure _

theorem change (s : Statement) (f : Instant → Store → α × Store) :
    (HostingBilling.change s f).Plain := execute s _

theorem ask (s : Statement) (f : Instant → Store → α) : (HostingBilling.ask s f).Plain := execute s _

theorem ite {c : Prop} [Decidable c] {b : Action α} (ha : a.Plain) (hb : b.Plain) :
    (if c then a else b).Plain := by
  split
  · exact ha
  · exact hb

/-- Identifiers are only used up. -/
theorem counts (h : a.Plain) : a.Keeps fun _ _ => True := by
  induction h with
  | pure a => exact Chain.all.pure a
  | throw e => exact Chain.all.throw e
  | now => exact Chain.all.now
  | freshId => exact Chain.all.freshId
  | execute s f => exact Chain.all.execute s fun _ _ _ _ _ => trivial
  | bind _ _ first rest => exact Chain.all.bind first rest
  | transaction _ body => exact Chain.all.transaction body

/-- Statements change the store, use up identifiers and meet faults; nothing else changes. -/
theorem frame (h : a.Plain) (w : World) : ∃ store nextId faults,
    (a.run w).2 = { w with store := store, nextId := nextId, faults := faults } := by
  induction h generalizing w with
  | pure a => exact ⟨_, _, _, rfl⟩
  | throw e => exact ⟨_, _, _, rfl⟩
  | now => exact ⟨_, _, _, rfl⟩
  | freshId => exact ⟨_, _, _, rfl⟩
  | execute s f =>
    unfold HostingBilling.execute Action.run
    dsimp only
    split
    · exact ⟨_, _, _, rfl⟩
    · split <;> exact ⟨_, _, _, rfl⟩
  | @bind _ _ a f _ _ first rest =>
    obtain ⟨store, nextId, faults, left⟩ := first w
    rw [Action.run_bind]
    rcases ran : a.run w with ⟨e | x, w₁⟩
    · rw [ran] at left
      exact ⟨store, nextId, faults, left⟩
    · rw [ran] at left
      obtain ⟨store', nextId', faults', left'⟩ := rest x w₁
      refine ⟨store', nextId', faults', left'.trans ?_⟩
      rw [show w₁ = _ from left]
  | @transaction _ a _ body =>
    obtain ⟨store, nextId, faults, left⟩ := body w
    rw [Action.run_transaction]
    rcases ran : a.run w with ⟨e | x, w₁⟩
    · rw [ran] at left
      refine ⟨w.store, nextId, faults, ?_⟩
      rw [show w₁ = _ from left]
    · rw [ran] at left
      exact ⟨store, nextId, faults, left⟩

/-- What has gone through in spite of the faults goes through without them, in the same way. -/
theorem steady (h : a.Plain) {w w' : World} {x : α} (ran : a.run w = (.ok x, w')) :
    a.run { w with faults := [] } = (.ok x, { w' with faults := [] }) := by
  induction h generalizing w w' with
  | pure a => cases ran; rfl
  | throw e => cases ran
  | now => cases ran; rfl
  | freshId => cases ran; rfl
  | execute s f =>
    obtain ⟨store, faults, found, rfl⟩ := Action.run_execute_ok ran
    rw [run_execute (by rfl)]
    simp only [found]
  | bind _ _ first rest =>
    obtain ⟨y, w₁, ranFirst, ranRest⟩ := Action.run_bind_ok ran
    rw [Action.run_bind_of_ok (first ranFirst)]
    exact rest y ranRest
  | transaction _ body =>
    have ran := body (Action.run_transaction_ok ran)
    rw [Action.run_transaction, ran]

/-- A transaction that fails has only used up identifiers. -/
theorem undone (h : a.Plain) {R : Store → Store → Prop} (chain : Chain R) {w w' : World} {e : Failure}
    (ran : (HostingBilling.transaction a).run w = (.error e, w')) : Follows R w w' := by
  have counted := h.counts w
  rw [Action.run_transaction] at ran
  rcases inner : a.run w with ⟨_ | _, w₁⟩
  · rw [inner] at ran counted
    cases ran
    exact ⟨counted.now, counted.nextId, counted.spares, chain.refl _⟩
  · rw [inner] at ran
    cases ran

end Action.Plain

end HostingBilling
