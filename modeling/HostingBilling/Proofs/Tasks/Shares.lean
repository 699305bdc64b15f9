import HostingBilling.Worker
import Mathlib.Data.Nat.Count

/-!
# Shares of the polls

A worker counts its polls in a word of 64 bits, and the poll at each tick prefers one queue. The queues take
turns by the remainder of the tick, so ten ticks in a row serve each queue by its share. Ten does not divide the
number of ticks: where the count starts over, the turn of a queue comes up to six ticks late, and still every
queue is preferred within sixteen ticks wherever they start.
-/

namespace HostingBilling

namespace QueueName

variable {start : Nat}

theorem preferred_eq (tick : Nat) :
    preferred tick = if tick % 10 < 6 then critical else if tick % 10 < 9 then default else low := by
  have total : totalShare = 10 := rfl
  have slot : tick % 10 < 10 := Nat.mod_lt _ (by decide)
  rw [preferred, total]
  simp only [all, ofSlot, share]
  grind

theorem preferred_add_ten (tick : Nat) : preferred (tick + 10) = preferred tick := by
  rw [preferred_eq, preferred_eq, Nat.add_mod_right]

/-- Each queue is looked at once, and those after the preferred one in the order of priority. -/
theorem visits_order (tick : Nat) : (visits tick).head? = some (preferred tick) ∧
    (visits tick).Perm [critical, default, low] ∧ (visits tick).tail.Sublist [critical, default, low] := by
  rw [visits]
  cases preferred tick <;> decide

/-! ## Ten ticks -/

/-- A property that repeats after so many numbers holds equally often wherever as many are counted. -/
theorem count_periodic {p : Nat → Prop} [DecidablePred p] {k : Nat} (periodic : ∀ n, p (n + k) ↔ p n)
    (start : Nat) : Nat.count (fun i => p (start + i)) k = Nat.count p k := by
  have before := Nat.count_add p start k
  have after := Nat.count_add p k start
  have same : Nat.count (fun i => p (k + i)) start = Nat.count p start := by
    simp only [Nat.add_comm k, periodic]
  rw [Nat.add_comm k start, same] at after
  omega

theorem iterate_nextTick (small : start < 2 ^ 64) (i : Nat) :
    nextTick^[i] start = (start + i) % 2 ^ 64 := by
  induction i with
  | zero => exact (Nat.mod_eq_of_lt small).symm
  | succ i ih =>
    rw [Function.iterate_succ_apply', ih, nextTick]
    omega

theorem count_preferred (fits : start + 10 ≤ 2 ^ 64) (q : QueueName) :
    Nat.count (fun i => preferred (nextTick^[i] start) = q) 10 = q.share := by
  have straight : ∀ i < 10, nextTick^[i] start = start + i := by
    intro i hi
    rw [iterate_nextTick (by omega), Nat.mod_eq_of_lt (by omega)]
  calc Nat.count (fun i => preferred (nextTick^[i] start) = q) 10
      = Nat.count (fun i => preferred (start + i) = q) 10 :=
        Nat.le_antisymm (Nat.count_mono_left fun i hi is => straight i hi ▸ is)
          (Nat.count_mono_left fun i hi is => (straight i hi).symm ▸ is)
    _ = Nat.count (fun t => preferred t = q) 10 :=
        count_periodic (p := fun t => preferred t = q) (fun t => by rw [preferred_add_ten]) start
    _ = q.share := by cases q <;> decide

/-! ## Sixteen ticks -/

/-- Every remainder comes within sixteen ticks. The last one of it before the count starts over lies at most
sixteen ticks ahead of the first one after. -/
theorem exists_slot (small : start < 2 ^ 64) {slot : Nat} (lt : slot < 10) :
    ∃ i < 16, nextTick^[i] start % 10 = slot := by
  simp only [iterate_nextTick small]
  by_cases ahead : start + (slot + 10 - start % 10) % 10 < 2 ^ 64
  · exact ⟨(slot + 10 - start % 10) % 10, by omega, by omega⟩
  · exact ⟨2 ^ 64 - start + slot, by omega, by omega⟩

theorem exists_preferred (small : start < 2 ^ 64) (q : QueueName) :
    ∃ i < 16, preferred (nextTick^[i] start) = q := by
  have slot (s : Nat) (lt : s < 10) (is : preferred s = q) : ∃ i < 16, preferred (nextTick^[i] start) = q := by
    obtain ⟨i, hi, comes⟩ := exists_slot small lt
    refine ⟨i, hi, ?_⟩
    rw [← is, preferred_eq, preferred_eq, comes, Nat.mod_eq_of_lt lt]
  cases q with
  | critical => exact slot 0 (by decide) (by decide)
  | default => exact slot 6 (by decide) (by decide)
  | low => exact slot 9 (by decide) (by decide)

end QueueName

/-! ## The ticks of a pool -/

namespace Worker

open QueueName (nextTick)

variable (o : Outside)

/-- A number of turns of a pool, in its world. -/
def turns (n : Nat) (ticks : List Nat) (w : World) : List Nat × World :=
  (fun s : List Nat × World => turn o s.1 s.2)^[n] (ticks, w)

theorem turns_add (m n : Nat) (ticks : List Nat) (w : World) :
    turns o (m + n) ticks w = turns o m (turns o n ticks w).1 (turns o n ticks w).2 :=
  Function.iterate_add_apply _ m n (ticks, w)

/-- The workers whose turn it was stand at the end of the row, one tick on. -/
theorem turns_append (front back : List Nat) (w : World) :
    (turns o front.length (front ++ back) w).1 = back ++ front.map nextTick := by
  induction front generalizing back w with
  | nil => simp [turns]
  | cons tick front ih =>
    rw [List.length_cons, turns_add]
    have once : turns o 1 (tick :: front ++ back) w = ((front ++ (back ++ [nextTick tick])),
        ((poll o tick).run w).2) := by
      simp [turns, turn]
    rw [once, ih]
    simp

/-- After so many rounds every worker is as many ticks on. -/
theorem turns_rounds (n : Nat) (ticks : List Nat) (w : World) :
    (turns o (n * ticks.length) ticks w).1 = ticks.map nextTick^[n] := by
  induction n with
  | zero => simp [turns]
  | succ n ih =>
    have round := turns_append o (turns o (n * ticks.length) ticks w).1 []
      (turns o (n * ticks.length) ticks w).2
    rw [ih, List.append_nil, List.nil_append, List.length_map, ← ih] at round
    rw [Nat.succ_mul, Nat.add_comm, turns_add, round, ih, List.map_map]
    congr 1
    funext tick
    exact (Function.iterate_succ_apply' nextTick n tick).symm

end Worker

namespace QueueName

/-- **The polls of a worker are shared out by weight.** Every poll looks at each queue once, after the preferred
one in the order of priority. Of ten ticks in a row, six prefer the critical queue, three the default one and
one the low one, where the count does not start over in between. Within sixteen ticks every queue is preferred,
also across the place where it does. The ticks of a worker follow each other in this way: a round of a pool
moves each of its workers on by one. -/
theorem fair_polls :
    (∀ tick, (visits tick).head? = some (preferred tick) ∧
      (visits tick).Perm [critical, default, low] ∧ (visits tick).tail.Sublist [critical, default, low]) ∧
    (∀ start, start + 10 ≤ 2 ^ 64 →
      Nat.count (fun i => preferred (nextTick^[i] start) = critical) 10 = 6 ∧
      Nat.count (fun i => preferred (nextTick^[i] start) = default) 10 = 3 ∧
      Nat.count (fun i => preferred (nextTick^[i] start) = low) 10 = 1) ∧
    (∀ start, start < 2 ^ 64 → ∀ q, ∃ i < 16, preferred (nextTick^[i] start) = q) ∧
    ∀ o n ticks w, (Worker.turns o (n * ticks.length) ticks w).1 = ticks.map nextTick^[n] := by
  refine ⟨visits_order, fun start fits => ⟨?_, ?_, ?_⟩, fun start small q => exists_preferred small q,
    Worker.turns_rounds⟩
  · exact count_preferred fits critical
  · exact count_preferred fits default
  · exact count_preferred fits low

/-- The last ten ticks before the count starts over, and the sixteen that begin right after the last turn of the
low queue. -/
theorem fair_polls_wrap :
    Nat.count (fun i => preferred (nextTick^[i] (2 ^ 64 - 10)) = low) 10 = 1 ∧
      ∃ i < 16, preferred (nextTick^[i] (2 ^ 64 - 6)) = low := by
  obtain ⟨-, shares, reached, -⟩ := fair_polls
  exact ⟨(shares (2 ^ 64 - 10) (by decide)).2.2, reached (2 ^ 64 - 6) (by decide) low⟩

/-- Fifteen ticks do not always do. -/
example : ∀ i < 15, preferred (nextTick^[i] (2 ^ 64 - 6)) ≠ low := by decide

end QueueName

end HostingBilling
