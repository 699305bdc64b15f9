import HostingBilling.Store
import Mathlib.Data.List.Find
import Mathlib.Data.List.Forall2
import Mathlib.Data.List.Nodup

/-!
# Changing rows

A change of selected rows keeps the places of all rows and every field that it does not touch. Where a
key tells rows apart, a key names at most one row.
-/

namespace HostingBilling

variable {ρ κ : Type} {selects : ρ → Bool} {change : ρ → ρ} {rows : List ρ}

theorem mem_changeRows {r : ρ} :
    r ∈ changeRows selects change rows ↔
      ∃ x ∈ rows, r = if selects x then change x else x := by
  simp only [changeRows, List.mem_map]
  exact ⟨fun ⟨x, hx, h⟩ => ⟨x, hx, h.symm⟩, fun ⟨x, hx, h⟩ => ⟨x, hx, h.symm⟩⟩

/-- A field that the change leaves alone is the same in every place. -/
theorem map_changeRows (field : ρ → κ) (same : ∀ r, field (change r) = field r) :
    (changeRows selects change rows).map field = rows.map field := by
  simp only [changeRows, List.map_map]
  apply List.map_congr_left
  intro r _
  simp only [Function.comp]
  split
  · exact same r
  · rfl

theorem nodup_changeRows {field : ρ → κ} (h : (rows.map field).Nodup)
    (same : ∀ r, field (change r) = field r) :
    ((changeRows selects change rows).map field).Nodup := by
  rw [map_changeRows field same]
  exact h

/-- Rows outside of a part are none of its business when the change stays inside. -/
theorem filter_changeRows_of_not (keeps : ρ → Bool)
    (outside : ∀ r ∈ rows, keeps r = true → selects r = false)
    (inside : ∀ r ∈ rows, selects r = true → keeps (change r) = keeps r) :
    (changeRows selects change rows).filter keeps = rows.filter keeps := by
  induction rows with
  | nil => rfl
  | cons r rest ih =>
    have tail := ih (fun x hx => outside x (List.mem_cons_of_mem _ hx))
      (fun x hx => inside x (List.mem_cons_of_mem _ hx))
    simp only [changeRows, List.map_cons, List.filter_cons] at tail ⊢
    rw [tail]
    cases hs : selects r with
    | false => simp
    | true =>
      have hk : keeps r = false := by
        cases h : keeps r
        · rfl
        · have := outside r List.mem_cons_self h
          rw [hs] at this; cases this
      have := inside r List.mem_cons_self hs
      simp [this, hk]

/-- A change that leaves a part as it is may be made in the part. -/
theorem filter_changeRows (keeps : ρ → Bool) (same : ∀ r, keeps (change r) = keeps r) :
    (changeRows selects change rows).filter keeps = changeRows selects change (rows.filter keeps) := by
  have here (r : ρ) : keeps (if selects r = true then change r else r) = keeps r := by
    split
    · exact same r
    · rfl
  simp only [changeRows, List.filter_map]
  congr 1
  exact List.filter_congr fun r _ => here r

/-- The rows outside of a part are as they were if only rows of the part change. -/
theorem filter_not_changeRows (keeps : ρ → Bool) (inside : ∀ r ∈ rows, selects r = true → keeps r = true)
    (same : ∀ r, keeps (change r) = keeps r) :
    (changeRows selects change rows).filter (fun r => !keeps r) = rows.filter fun r => !keeps r := by
  apply filter_changeRows_of_not
  · intro r hr outside
    cases selected : selects r with
    | false => rfl
    | true => simp [inside r hr selected] at outside
  · intro r _ _
    rw [same]

/-- What is only found in a part may be looked for there. -/
theorem any_filter_of (keeps : ρ → Bool) (inside : ∀ r ∈ rows, selects r = true → keeps r = true) :
    (rows.filter keeps).any selects = rows.any selects := by
  rw [Bool.eq_iff_iff, List.any_eq_true, List.any_eq_true]
  constructor
  · rintro ⟨r, hr, is⟩
    exact ⟨r, (List.mem_filter.mp hr).1, is⟩
  · rintro ⟨r, hr, is⟩
    exact ⟨r, List.mem_filter.mpr ⟨hr, inside r hr is⟩, is⟩

theorem find?_filter_of (keeps : ρ → Bool) (inside : ∀ r ∈ rows, selects r = true → keeps r = true) :
    (rows.filter keeps).find? selects = rows.find? selects := by
  rw [List.find?_filter]
  apply List.find?_congr
  intro r hr
  cases is : selects r with
  | false => simp
  | true => simp [inside r hr is]

theorem changeRows_of_none (h : ∀ r ∈ rows, selects r = false) :
    changeRows selects change rows = rows := by
  unfold changeRows
  conv_rhs => rw [← List.map_id rows]
  apply List.map_congr_left
  intro r hr
  simp [h r hr]

theorem changeRows_congr {chooses : ρ → Bool} (same : ∀ r ∈ rows, selects r = chooses r) :
    changeRows selects change rows = changeRows chooses change rows := by
  apply List.map_congr_left
  intro r hr
  rw [same r hr]

/-- One change after another is one change of all the rows, if no changed row is chosen again. -/
theorem changeRows_or {chooses : ρ → Bool} (once : ∀ r, selects r = true → chooses (change r) = false) :
    changeRows chooses change (changeRows selects change rows) =
      changeRows (fun r => selects r || chooses r) change rows := by
  simp only [changeRows, List.map_map]
  apply List.map_congr_left
  intro r _
  by_cases chosen : selects r = true
  · simp [chosen, once r chosen]
  · simp [chosen]

/-- A change, and then one of just the rows that were changed, are one change. -/
theorem changeRows_changeRows {chooses : ρ → Bool} {next : ρ → ρ}
    (again : ∀ r ∈ rows, selects r = true → chooses (change r) = true)
    (others : ∀ r ∈ rows, selects r = false → chooses r = false) :
    changeRows chooses next (changeRows selects change rows) =
      changeRows selects (fun r => next (change r)) rows := by
  simp only [changeRows, List.map_map]
  apply List.map_congr_left
  intro r hr
  cases chosen : selects r with
  | true => simp [chosen, again r hr chosen]
  | false => simp [chosen, others r hr chosen]

/-- Rows that were there without one to change, with one more at the end. -/
theorem changeRows_append (rest : List ρ) (none_ : ∀ r ∈ rows, selects r = false) :
    changeRows selects change (rows ++ rest) = rows ++ changeRows selects change rest := by
  rw [changeRows, List.map_append]
  exact congrArg (· ++ _) (changeRows_of_none none_)

/-- A search for what the change leaves alone finds the same row, changed. -/
theorem find?_changeRows_of_mem {p : ρ → Bool} (same : ∀ r ∈ rows, selects r = true → p (change r) = p r) :
    (changeRows selects change rows).find? p =
      (rows.find? p).map fun r => if selects r then change r else r := by
  induction rows with
  | nil => rfl
  | cons r rest ih =>
    have here : p (if selects r then change r else r) = p r := by
      split
      · next selected => exact same r List.mem_cons_self selected
      · rfl
    have tail := ih fun x hx => same x (List.mem_cons_of_mem _ hx)
    rw [changeRows] at tail ⊢
    rw [List.map_cons, List.find?_cons, List.find?_cons, here, tail]
    cases p r <;> rfl

theorem find?_changeRows {p : ρ → Bool} (same : ∀ r, p (change r) = p r) :
    (changeRows selects change rows).find? p =
      (rows.find? p).map fun r => if selects r then change r else r :=
  find?_changeRows_of_mem fun r _ _ => same r

/-- A search that keeps one of two rows at each step ends with a row. -/
theorem mem_of_foldl_choice {choose : Option ρ → ρ → Option ρ}
    (choice : ∀ best r, choose best r = some r ∨ choose best r = best) {best : Option ρ} {a : ρ}
    (found : rows.foldl choose best = some a) : a ∈ rows ∨ best = some a := by
  induction rows generalizing best with
  | nil => exact .inr found
  | cons r rest ih =>
    rcases ih found with there | here
    · exact .inl (List.mem_cons_of_mem _ there)
    · rcases choice best r with new | old
      · rw [new] at here
        cases here
        exact .inl List.mem_cons_self
      · exact .inr (old.symm.trans here)

/-- Where a key tells rows apart, equal keys are the same row. -/
theorem eq_of_key {key : ρ → κ} (h : (rows.map key).Nodup) {a b : ρ} (ha : a ∈ rows)
    (hb : b ∈ rows) (same : key a = key b) : a = b :=
  List.inj_on_of_nodup_map h ha hb same

/-- Where a key tells rows apart, a search by key finds the row that has it. -/
theorem find?_key [BEq κ] [LawfulBEq κ] {key : ρ → κ} (h : (rows.map key).Nodup) {a : ρ}
    (ha : a ∈ rows) : (rows.find? fun r => key r == key a) = some a := by
  cases found : rows.find? fun r => key r == key a with
  | none =>
    have := List.find?_eq_none.mp found a ha
    simp at this
  | some b =>
    have hk : key b = key a := by simpa using List.find?_some found
    rw [eq_of_key h (List.mem_of_find?_eq_some found) ha hk]

theorem find?_key_none [BEq κ] [LawfulBEq κ] {key : ρ → κ} {k : κ}
    (h : (rows.find? fun r => key r == k) = none) : ∀ r ∈ rows, key r ≠ k := by
  intro r hr
  simpa using List.find?_eq_none.mp h r hr

theorem find?_of_only {p : ρ → Bool} {a : ρ} (ha : a ∈ rows)
    (holds : p a = true) (only : ∀ x ∈ rows, p x = true → x = a) : rows.find? p = some a := by
  cases found : rows.find? p with
  | none => exact absurd holds (List.find?_eq_none.mp found a ha)
  | some b => rw [only b (List.mem_of_find?_eq_some found) (List.find?_some found)]

theorem countP_eq_one {p : ρ → Bool} (distinct : rows.Nodup) {a : ρ} (ha : a ∈ rows)
    (holds : p a = true) (only : ∀ x ∈ rows, p x = true → x = a) : rows.countP p = 1 := by
  rw [List.countP_eq_length_filter]
  have all : ∀ x ∈ rows.filter p, x = a := by
    intro x hx
    obtain ⟨hx, same⟩ := List.mem_filter.mp hx
    exact only x hx same
  have distinct := distinct.filter p
  have here : a ∈ rows.filter p := List.mem_filter.mpr ⟨ha, holds⟩
  match rows.filter p, all, distinct, here with
  | [_], _, _, _ => rfl
  | x :: y :: _, all, distinct, _ =>
    have same := (all x (by simp)).trans (all y (by simp)).symm
    simp [same] at distinct

theorem countP_le_one {p : ρ → Bool} (distinct : rows.Nodup)
    (only : ∀ a ∈ rows, ∀ b ∈ rows, p a = true → p b = true → a = b) : rows.countP p ≤ 1 := by
  by_cases some_ : ∃ a ∈ rows, p a = true
  · obtain ⟨a, ha, holds⟩ := some_
    exact Nat.le_of_eq (countP_eq_one distinct ha holds fun x hx holds' => only x hx a ha holds' holds)
  · have none_ : rows.countP p = 0 := List.countP_eq_zero.mpr fun a ha holds => some_ ⟨a, ha, holds⟩
    rw [none_]
    exact Nat.zero_le 1

/-- Whether there is a row to find, as a number. -/
theorem countP_eq_any {p : ρ → Bool} (distinct : rows.Nodup)
    (only : ∀ a ∈ rows, ∀ b ∈ rows, p a = true → p b = true → a = b) :
    rows.countP p = if rows.any p then 1 else 0 := by
  split
  · next some_ =>
    have least : 0 < rows.countP p := List.countP_pos_iff.mpr (List.any_eq_true.mp some_)
    have most := countP_le_one distinct only
    omega
  · next none_ =>
    exact List.countP_eq_zero.mpr fun a ha holds => none_ (List.any_eq_true.mpr ⟨a, ha, holds⟩)

/-- Rows that a change puts out of a count are as many fewer. -/
theorem countP_changeRows_add {counts : ρ → Bool}
    (lost : ∀ r, selects r = true → counts r = true ∧ counts (change r) = false) :
    (changeRows selects change rows).countP counts + rows.countP selects = rows.countP counts := by
  induction rows with
  | nil => rfl
  | cons r rest ih =>
    rw [changeRows, List.map_cons, List.countP_cons, List.countP_cons, List.countP_cons, ← ih, changeRows]
    cases chosen : selects r with
    | false => simp; omega
    | true => simp [lost r chosen]; omega

/-! ## Parts without a row in common -/

section parts

variable {p q : ρ → Bool} {xs ys : List ρ}

/-- A part has no rows in another. -/
theorem filter_filter_not (apart : ∀ r, p r = true → q r = false) (xs : List ρ) :
    (xs.filter fun r => !q r).filter p = xs.filter p := by
  rw [List.filter_filter]
  apply List.filter_congr
  intro r _
  cases own : p r with
  | false => simp
  | true => simp [apart r own]

/-- Lists that differ only in one part have the same rows in another. -/
theorem filter_eq_of_rest (apart : ∀ r, p r = true → q r = false)
    (rest : (xs.filter fun r => !q r) = ys.filter fun r => !q r) : xs.filter p = ys.filter p := by
  rw [← filter_filter_not apart xs, rest, filter_filter_not apart ys]

theorem mem_of_rest (rest : (xs.filter fun r => !q r) = ys.filter fun r => !q r) {r : ρ} (hr : r ∈ xs)
    (outside : q r = false) : r ∈ ys := by
  have there : r ∈ xs.filter fun r => !q r := List.mem_filter.mpr ⟨hr, by simp [outside]⟩
  rw [rest] at there
  exact (List.mem_filter.mp there).1

/-- Two changes, each of one part and the same whether the other was made before, lead to the same rows in
either order. -/
theorem perm_of_parts {base one two oneTwo twoOne : List ρ} (apart : ∀ r, p r = true → q r = false)
    (first : (one.filter fun r => !p r) = base.filter fun r => !p r)
    (second : (two.filter fun r => !q r) = base.filter fun r => !q r)
    (thenSecond : (oneTwo.filter fun r => !q r) = one.filter fun r => !q r)
    (thenFirst : (twoOne.filter fun r => !p r) = two.filter fun r => !p r)
    (sameFirst : twoOne.filter p = one.filter p) (sameSecond : oneTwo.filter q = two.filter q) :
    oneTwo.Perm twoOne := by
  have apart' : ∀ r, q r = true → p r = false := by
    intro r own
    cases other : p r with
    | false => rfl
    | true => rw [apart r other] at own; cases own
  have left : (one.filter p ++ (one.filter fun r => !q r).filter fun r => !p r).Perm
      (one.filter fun r => !q r) := by
    have parts := List.filter_append_perm p (one.filter fun r => !q r)
    rwa [filter_filter_not apart] at parts
  have right : (two.filter q ++ (two.filter fun r => !p r).filter fun r => !q r).Perm
      (two.filter fun r => !p r) := by
    have parts := List.filter_append_perm q (two.filter fun r => !p r)
    rwa [filter_filter_not apart'] at parts
  have neither : ((one.filter fun r => !q r).filter fun r => !p r) =
      (two.filter fun r => !p r).filter fun r => !q r := by
    rw [List.filter_comm, first, List.filter_comm, ← second, List.filter_comm]
  have whole := List.filter_append_perm q oneTwo
  have whole' := List.filter_append_perm p twoOne
  rw [sameSecond, thenSecond] at whole
  rw [sameFirst, thenFirst] at whole'
  have swap : (two.filter q ++ (one.filter p ++ (one.filter fun r => !q r).filter fun r => !p r)).Perm
      (one.filter p ++ (two.filter q ++ (two.filter fun r => !p r).filter fun r => !q r)) := by
    rw [neither, ← List.append_assoc, ← List.append_assoc]
    exact List.perm_append_comm.append_right _
  exact whole.symm.trans ((left.symm.append_left _).trans (swap.trans ((right.append_left _).trans whole')))

end parts

/-! ## Sorting -/

theorem perm_orderedInsert (before : ρ → ρ → Bool) (a : ρ) (rows : List ρ) :
    (orderedInsert before a rows).Perm (a :: rows) := by
  induction rows with
  | nil => exact .refl _
  | cons b rest ih =>
    unfold orderedInsert
    split
    · exact .refl _
    · exact (ih.cons b).trans (.swap a b rest)

theorem perm_sortRows (before : ρ → ρ → Bool) (rows : List ρ) : (sortRows before rows).Perm rows := by
  have go (acc : List ρ) : (rows.foldl (fun acc r => orderedInsert before r acc) acc).Perm
      (rows ++ acc) := by
    induction rows generalizing acc with
    | nil => exact .refl _
    | cons r rest ih =>
      apply (ih _).trans
      exact ((perm_orderedInsert before r acc).append_left rest).trans List.perm_middle
  simpa [sortRows] using go []

/-! ## Rows in the same places -/

section places

variable {R : ρ → ρ → Prop} {a b c : List ρ}

theorem forall₂_changeRows (refl : ∀ r, R r r) (h : ∀ r ∈ rows, selects r = true → R r (change r)) :
    List.Forall₂ R rows (changeRows selects change rows) := by
  induction rows with
  | nil => exact .nil
  | cons r rest ih =>
    refine .cons ?_ (ih fun x hx => h x (List.mem_cons_of_mem _ hx))
    dsimp only
    split
    · next hs => exact h r List.mem_cons_self hs
    · exact refl r

theorem forall₂_trans (trans : ∀ {x y z}, R x y → R y z → R x z) (hab : List.Forall₂ R a b)
    (hbc : List.Forall₂ R b c) : List.Forall₂ R a c := by
  induction hab generalizing c with
  | nil => exact hbc
  | cons head _ ih =>
    cases hbc with
    | cons head' tail' => exact .cons (trans head head') (ih tail')

theorem exists_right_of_forall₂ {σ : Type} {R : ρ → σ → Prop} {xs : List ρ} {ys : List σ}
    (h : List.Forall₂ R xs ys) {x : ρ} (hx : x ∈ xs) : ∃ y ∈ ys, R x y := by
  induction h with
  | nil => cases hx
  | cons head _ ih =>
    rcases List.mem_cons.mp hx with rfl | hx
    · exact ⟨_, List.mem_cons_self, head⟩
    · obtain ⟨y, hy, r⟩ := ih hx
      exact ⟨y, List.mem_cons_of_mem _ hy, r⟩

theorem exists_left_of_forall₂ {σ : Type} {R : ρ → σ → Prop} {xs : List ρ} {ys : List σ}
    (h : List.Forall₂ R xs ys) {y : σ} (hy : y ∈ ys) : ∃ x ∈ xs, R x y :=
  exists_right_of_forall₂ (R := fun y x => R x y) h.flip hy

/-- A search for what the rows in the same places agree on finds them in the same place. -/
theorem find?_of_forall₂ {p : ρ → Bool} (same : ∀ {x y}, R x y → p y = p x) (h : List.Forall₂ R a b) {x : ρ}
    (found : a.find? p = some x) : ∃ y, b.find? p = some y ∧ R x y := by
  induction h with
  | nil => cases found
  | @cons u v _ _ head _ ih =>
    rw [List.find?_cons] at found ⊢
    rw [same head]
    cases here : p u with
    | true =>
      rw [here] at found
      cases found
      exact ⟨v, rfl, head⟩
    | false =>
      rw [here] at found
      exact ih found

theorem map_eq_of_forall₂ {field : ρ → κ} (same : ∀ {x y}, R x y → field y = field x)
    (h : List.Forall₂ R a b) : b.map field = a.map field := by
  induction h with
  | nil => rfl
  | cons head _ ih => rw [List.map_cons, List.map_cons, same head, ih]

/-- What holds of any two on one side passes to those in the same places on the other. -/
theorem pairwise_of_forall₂ {σ : Type} {R : ρ → σ → Prop} {P : ρ → ρ → Prop} {Q : σ → σ → Prop}
    {xs : List ρ} {ys : List σ} (pass : ∀ {x x' y y'}, R x y → R x' y' → P x x' → Q y y')
    (h : List.Forall₂ R xs ys) (apart : xs.Pairwise P) : ys.Pairwise Q := by
  induction h with
  | nil => exact .nil
  | cons head tail ih =>
    obtain ⟨first, rest⟩ := List.pairwise_cons.mp apart
    refine List.pairwise_cons.mpr ⟨fun y' hy' => ?_, ih rest⟩
    obtain ⟨x', hx', left⟩ := exists_left_of_forall₂ tail hy'
    exact pass head left (first x' hx')

/-- Distinct keys on one side make distinct keys on the other. -/
theorem nodup_of_forall₂ {σ ι : Type} {R : ρ → σ → Prop} {xs : List ρ} {ys : List σ} {key : ρ → κ}
    {field : σ → ι} (same : ∀ {x x' y y'}, R x y → R x' y' → field y = field y' → key x = key x')
    (h : List.Forall₂ R xs ys) (distinct : (xs.map key).Nodup) : (ys.map field).Nodup := by
  induction h with
  | nil => exact List.nodup_nil
  | @cons x y xs ys head tail ih =>
    obtain ⟨apart, distinct⟩ := List.nodup_cons.mp distinct
    refine List.nodup_cons.mpr ⟨fun twice => ?_, ih distinct⟩
    obtain ⟨y', hy', is⟩ := List.mem_map.mp twice
    obtain ⟨x', hx', other⟩ := exists_left_of_forall₂ tail hy'
    exact apart (List.mem_map.mpr ⟨x', hx', same other head is⟩)

end places

end HostingBilling
