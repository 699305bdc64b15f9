import HostingBilling.Proofs.Independence.Statements
import HostingBilling.Schedule
import Mathlib.Data.List.Range

/-!
# Firing on time

Two timers share one loop, which a submission holds up. Main statement: whatever the submissions take and
whatever becomes of them, each firing of a sweep serves a multiple of the sweep's interval of its own, one that
has come, and where submissions take no time each multiple is served as it comes.
-/

namespace HostingBilling.Schedule

variable {c : Course} {s : State} {k : Sweep} {interval m stop : Nat}

/-! ## One firing -/

namespace Timer

/-- A timer that fired is due at a later multiple of its interval. -/
theorem rearm_later (grace interval m now : Nat) :
    ∃ n, m < n ∧ rearm grace ⟨interval, interval * m⟩ now = ⟨interval, interval * n⟩ := by
  unfold rearm
  split
  · refine ⟨m + ((now - interval * m) / interval + 1), Nat.lt_add_of_pos_right (Nat.succ_pos _), ?_⟩
    simp only [Nat.mul_add]
  · exact ⟨m + 1, Nat.lt_succ_self m, rfl⟩

theorem rearm_interval (grace : Nat) (t : Timer) (now : Nat) : (t.rearm grace now).interval = t.interval := by
  unfold rearm
  split <;> rfl

theorem le_rearm (grace : Nat) (t : Timer) (now : Nat) :
    t.deadline + t.interval ≤ (t.rearm grace now).deadline := by
  unfold rearm
  split
  · exact Nat.add_le_add_left (Nat.le_mul_of_pos_right _ (Nat.succ_pos _)) _
  · exact Nat.le_refl _

/-- A timer that fired on time is due one interval later. -/
theorem rearm_prompt (grace : Nat) (t : Timer) :
    t.rearm grace t.deadline = ⟨t.interval, t.deadline + t.interval⟩ :=
  if_neg (by omega)

end Timer

namespace State

theorem next_due (c : Course) (s : State) : (s.next c).due = (s.timer (s.next c).sweep).deadline := rfl

/-- A sweep is not fired before it is due. -/
theorem due_le_time (c : Course) (s : State) : (s.next c).due ≤ (s.next c).time := by
  have woken : s.expiry.deadline ≤ s.wake ∨ s.renewal.deadline ≤ s.wake := by
    unfold wake
    omega
  change (s.timer (s.turn c)).deadline ≤ s.wake
  unfold turn
  split
  · next early => exact woken.resolve_left (Nat.not_le.mpr early)
  · next expiry =>
    split
    · exact Nat.not_lt.mp expiry
    · next renewal =>
      split
      · exact Nat.not_lt.mp expiry
      · exact Nat.not_lt.mp renewal

theorem timer_fire_self (c : Course) (s : State) (f : Firing) :
    (s.fire c f).timer f.sweep = (s.timer f.sweep).rearm c.grace f.time := by
  unfold fire
  cases f.sweep <;> rfl

theorem timer_fire_other (c : Course) (s : State) {f : Firing} (other : f.sweep ≠ k) :
    (s.fire c f).timer k = s.timer k := by
  obtain ⟨time, sweep, due⟩ := f
  cases sweep <;> cases k <;> first | exact absurd rfl other | rfl

theorem clock_fire (c : Course) (s : State) (f : Firing) : (s.fire c f).clock = f.time + c.takes s.count := by
  unfold fire
  cases f.sweep <;> rfl

end State

/-! ## The firings of one sweep -/

/-- The firings of a sweep. -/
def Sweep.among (k : Sweep) (fs : List Firing) : List Firing := fs.filter (·.sweep = k)

theorem Sweep.among_cons_self {f : Firing} (is : f.sweep = k) (fs : List Firing) :
    k.among (f :: fs) = f :: k.among fs := List.filter_cons_of_pos (by simpa using is)

theorem Sweep.among_cons_other {f : Firing} (other : f.sweep ≠ k) (fs : List Firing) :
    k.among (f :: fs) = k.among fs := List.filter_cons_of_neg (by simpa using other)

/-- The firings serve multiples of the interval from the given one on, each its own and once it has come. -/
structure Serve (interval first : Nat) (fs : List Firing) : Prop where
  own : fs.Pairwise (·.due < ·.due)
  multiple : ∀ f ∈ fs, ∃ n, first ≤ n ∧ f.due = interval * n
  come : ∀ f ∈ fs, f.due ≤ f.time
  count : ∀ t, fs.countP (·.time ≤ t) ≤ t / interval + 1 - first

namespace Serve

theorem nil (interval first : Nat) : Serve interval first [] where
  own := .nil
  multiple _ h := nomatch h
  come _ h := nomatch h
  count _ := Nat.zero_le _

/-- A firing for one multiple goes before firings for later ones. -/
theorem cons (pos : 0 < interval) {f : Firing} {fs : List Firing} {n : Nat} (due : f.due = interval * m)
    (come : f.due ≤ f.time) (later : m < n) (rest : Serve interval n fs) : Serve interval m (f :: fs) where
  own := by
    refine .cons (fun g hg => ?_) rest.own
    obtain ⟨i, hi, is⟩ := rest.multiple g hg
    rw [due, is]
    exact Nat.mul_lt_mul_of_pos_left (by omega) pos
  multiple g hg := by
    rcases List.mem_cons.mp hg with rfl | hg
    · exact ⟨m, Nat.le_refl m, due⟩
    · obtain ⟨i, hi, is⟩ := rest.multiple g hg
      exact ⟨i, by omega, is⟩
  come g hg := by
    rcases List.mem_cons.mp hg with rfl | hg
    · exact come
    · exact rest.come g hg
  count t := by
    have counted := rest.count t
    rw [List.countP_cons]
    split
    · next past =>
      have reached : m ≤ t / interval := by
        rw [Nat.le_div_iff_mul_le pos, Nat.mul_comm, ← due]
        exact Nat.le_trans come (by simpa using past)
      omega
    · omega

end Serve

namespace State

/-- Of one sweep the firings of a run serve multiples of its interval. -/
theorem runFor_serve (c : Course) (stop : Nat) (pos : 0 < interval) (timer : s.timer k = ⟨interval, interval * m⟩)
    (fuel : Nat) : Serve interval m (k.among (s.runFor c stop fuel)) := by
  induction fuel generalizing s m with
  | zero => exact .nil _ _
  | succ fuel ih =>
    rw [runFor]
    split
    · -- a firing of this sweep moves its timer to a later multiple, one of the other sweep leaves it
      by_cases is : (s.next c).sweep = k
      · obtain ⟨n, later, rearmed⟩ := Timer.rearm_later c.grace interval m (s.next c).time
        rw [Sweep.among_cons_self is]
        refine .cons pos ?_ (due_le_time c s) later (ih ?_)
        · rw [next_due, is, timer]
        · rw [← rearmed, ← timer, ← is]
          exact timer_fire_self c s _
      · rw [Sweep.among_cons_other is]
        exact ih ((timer_fire_other c s is).trans timer)
    · exact .nil _ _

end State

/-! ## How many firings there are -/

/-- How many multiples of its interval a timer has left before `stop`. -/
def Timer.left (stop : Nat) (t : Timer) : Nat := (stop + t.interval - 1 - t.deadline) / t.interval

namespace Timer

variable {t t' : Timer}

theorem left_of_le (pos : 0 < t.interval) (past : stop ≤ t.deadline) : t.left stop = 0 :=
  Nat.div_eq_of_lt (by omega)

theorem left_of_lt (pos : 0 < t.interval) (before : t.deadline < stop) :
    t.left stop = left stop ⟨t.interval, t.deadline + t.interval⟩ + 1 := by
  have split : stop + t.interval - 1 - t.deadline =
      stop + t.interval - 1 - (t.deadline + t.interval) + t.interval := by omega
  rw [left, split, Nat.add_div_right _ pos, left]

theorem left_anti (same : t'.interval = t.interval) (le : t.deadline ≤ t'.deadline) :
    t'.left stop ≤ t.left stop := by
  rw [left, left, same]
  exact Nat.div_le_div_right (by omega)

theorem left_rearm_lt (pos : 0 < t.interval) (before : t.deadline < stop) (grace now : Nat) :
    (t.rearm grace now).left stop < t.left stop := by
  rw [left_of_lt pos before]
  exact Nat.lt_succ_of_le (left_anti (t := ⟨t.interval, t.deadline + t.interval⟩) (rearm_interval grace t now)
    (le_rearm grace t now))

theorem left_start (stop interval : Nat) : (start interval).left stop = (stop - 1) / interval := by
  rw [left, start]
  dsimp only
  congr 1
  omega

end Timer

namespace State

/-- How many multiples both timers have left before `stop`. -/
def left (stop : Nat) (s : State) : Nat := s.expiry.left stop + s.renewal.left stop

theorem left_timer_le (stop : Nat) (s : State) (k : Sweep) : (s.timer k).left stop ≤ s.left stop := by
  cases k
  · exact Nat.le_add_right _ _
  · exact Nat.le_add_left _ _

/-- Both timers have positive intervals. -/
def Positive (s : State) : Prop := ∀ k, 0 < (s.timer k).interval

theorem Positive.fire (h : s.Positive) (c : Course) (f : Firing) : (s.fire c f).Positive := by
  intro k
  by_cases is : f.sweep = k
  · subst is
    rw [timer_fire_self, Timer.rearm_interval]
    exact h f.sweep
  · rw [timer_fire_other c s is]
    exact h k

/-- A firing uses up a multiple that was left. -/
theorem left_fire_lt (positive : s.Positive) (before : (s.next c).time < stop) :
    (s.fire c (s.next c)).left stop < s.left stop := by
  have used : ((s.fire c (s.next c)).timer (s.next c).sweep).left stop <
      (s.timer (s.next c).sweep).left stop := by
    rw [timer_fire_self]
    exact Timer.left_rearm_lt (positive _) (Nat.lt_of_le_of_lt (due_le_time c s) before) _ _
  have kept (k : Sweep) (other : (s.next c).sweep ≠ k) :
      ((s.fire c (s.next c)).timer k).left stop = (s.timer k).left stop := by
    rw [timer_fire_other c s other]
  cases is : (s.next c).sweep with
  | expiry =>
    rw [is] at used
    exact Nat.add_lt_add_of_lt_of_le used (Nat.le_of_eq (kept .renewal (by simp [is])))
  | renewal =>
    rw [is] at used
    exact Nat.add_lt_add_of_le_of_lt (Nat.le_of_eq (kept .expiry (by simp [is]))) used

/-- A run is not cut short by fuel for all the multiples that are left. -/
theorem runFor_add (positive : s.Positive) {fuel : Nat} (enough : s.left stop ≤ fuel) (more : Nat) :
    s.runFor c stop (fuel + more) = s.runFor c stop fuel := by
  induction fuel generalizing s with
  | zero =>
    cases more with
    | zero => rfl
    | succ more =>
      -- no multiple is left, and a firing would use one up
      rw [Nat.zero_add, runFor, runFor]
      refine if_neg fun before => ?_
      have := left_fire_lt positive before
      omega
  | succ fuel ih =>
    rw [Nat.succ_add, runFor, runFor]
    split
    · next before =>
      have := left_fire_lt positive before
      rw [ih (positive.fire c _) (by omega)]
    · rfl

/-! ## Submissions that take no time -/

/-- No timer is overdue. -/
def Prompt (s : State) : Prop := ∀ k, s.clock ≤ (s.timer k).deadline

theorem Prompt.time_le (h : s.Prompt) (c : Course) (k : Sweep) : (s.next c).time ≤ (s.timer k).deadline := by
  have expiry : s.clock ≤ s.expiry.deadline := h .expiry
  have renewal : s.clock ≤ s.renewal.deadline := h .renewal
  have woken : s.wake ≤ s.expiry.deadline ∧ s.wake ≤ s.renewal.deadline := by
    unfold wake
    omega
  cases k
  · exact woken.1
  · exact woken.2

/-- A sweep is fired when it is due. -/
theorem Prompt.time_eq (h : s.Prompt) (c : Course) : (s.next c).time = (s.timer (s.next c).sweep).deadline :=
  Nat.le_antisymm (h.time_le c _) (due_le_time c s)

theorem Prompt.fire (h : s.Prompt) (idle : c.takes s.count = 0) : (s.fire c (s.next c)).Prompt := by
  intro k
  rw [clock_fire, idle, Nat.add_zero]
  by_cases is : (s.next c).sweep = k
  · rw [← is, timer_fire_self]
    exact Nat.le_trans (h.time_le c _) (Nat.le_trans (Nat.le_add_right _ _) (Timer.le_rearm _ _ _))
  · rw [timer_fire_other c s is]
    exact h.time_le c k

/-- Where submissions take no time, a sweep is fired at each multiple of its interval that is left. -/
theorem runFor_times (idle : ∀ i, c.takes i = 0) (prompt : s.Prompt) (positive : s.Positive) {fuel : Nat}
    (enough : s.left stop ≤ fuel) (k : Sweep) : (k.among (s.runFor c stop fuel)).map (·.time) =
      List.range' (s.timer k).deadline ((s.timer k).left stop) (s.timer k).interval := by
  induction fuel generalizing s with
  | zero =>
    have none : (s.timer k).left stop = 0 := by
      have := left_timer_le stop s k
      omega
    rw [none]
    rfl
  | succ fuel ih =>
    rw [runFor]
    split
    · next before =>
      have fewer := left_fire_lt positive before
      have rest := ih (prompt.fire (idle _)) (positive.fire c _) (by omega)
      by_cases is : (s.next c).sweep = k
      · -- the list begins with the deadline, and goes on one interval later as the timer does
        have time : (s.next c).time = (s.timer k).deadline := is ▸ prompt.time_eq c
        have rearmed : (s.fire c (s.next c)).timer k =
            ⟨(s.timer k).interval, (s.timer k).deadline + (s.timer k).interval⟩ := by
          rw [← Timer.rearm_prompt c.grace, ← time, ← is]
          exact timer_fire_self c s _
        rw [rearmed] at rest
        rw [Sweep.among_cons_self is, List.map_cons, rest, Timer.left_of_lt (positive k) (time ▸ before), time]
        rfl
      · rw [Sweep.among_cons_other is, rest, timer_fire_other c s is]
    · next after =>
      rw [Timer.left_of_le (positive k) (Nat.le_trans (Nat.not_lt.mp after) (prompt.time_le c k))]
      rfl

/-! ## Submissions and what becomes of them -/

/-- The firings are those that take place whatever the queue answers, and each of them offers its sweep. -/
theorem submitFor_run (o : Outside) (c : Course) (stop fuel : Nat) (s : State) (w : World) :
    ∃ w', (s.submitFor o c stop fuel).run w = (.ok (s.runFor c stop fuel), w') ∧
      w'.offered = w.offered ++ (s.runFor c stop fuel).map fun f => .scan f.kind := by
  induction fuel generalizing s w with
  | zero => exact ⟨w, rfl, (List.append_nil _).symm⟩
  | succ fuel ih =>
    rw [submitFor, runFor]
    split
    · have offers := TaskQueue.receive_offered o.durable (o.refusal? w.offered.length (.scan (s.next c).kind))
        (.scan (s.next c).kind) { w with offered := w.offered ++ [.scan (s.next c).kind] }
      rw [← TaskQueue.submit_run] at offers
      obtain ⟨w', ran, rest⟩ := ih (s.fire c (s.next c)) ((TaskQueue.submit o (.scan (s.next c).kind)).run w).2
      refine ⟨w', ?_, ?_⟩
      · rw [Action.run_bind_of_ok (Action.run_attempt _ w), Action.run_bind_of_ok ran]
        rfl
      · rw [rest, offers, List.map_cons, List.append_assoc, List.singleton_append]
    · exact ⟨w, rfl, (List.append_nil _).symm⟩

end State

/-! ## The cadence of each sweep -/

/-- The interval of a sweep. -/
def Sweep.every (expireEvery renewalEvery : Nat) : Sweep → Nat
  | .expiry => expireEvery
  | .renewal => renewalEvery

section start

variable {expireEvery renewalEvery : Nat}

theorem State.timer_start (k : Sweep) : (State.start expireEvery renewalEvery).timer k =
    ⟨k.every expireEvery renewalEvery, k.every expireEvery renewalEvery⟩ := by
  cases k <;> rfl

theorem Sweep.every_pos (expiry : 0 < expireEvery) (renewal : 0 < renewalEvery) (k : Sweep) :
    0 < k.every expireEvery renewalEvery := by
  cases k
  · exact expiry
  · exact renewal

theorem State.prompt_start : (State.start expireEvery renewalEvery).Prompt := fun _ => Nat.zero_le _

theorem State.left_start_le (expireEvery renewalEvery stop : Nat) :
    (State.start expireEvery renewalEvery).left stop ≤ fuel expireEvery renewalEvery stop := by
  have less (interval : Nat) : (stop - 1) / interval ≤ stop / interval := Nat.div_le_div_right (Nat.sub_le _ _)
  change (Timer.start expireEvery).left stop + (Timer.start renewalEvery).left stop ≤
    stop / expireEvery + stop / renewalEvery + 2
  rw [Timer.left_start, Timer.left_start]
  exact Nat.le_trans (Nat.add_le_add (less _) (less _)) (Nat.le_add_right _ 2)

end start

/-- Over any submission times, any choices between two timers that are both due, and any tolerance for lateness:
the firings of each sweep serve rising positive multiples of its interval that have come, so by any time there are
no more than whole intervals have passed, and none in the first interval. Where submissions take no time a sweep
is fired at each multiple of its own interval. Whatever the queue and the world are, the same firings take place,
each of them offers its sweep, and the run goes on until its end. -/
theorem cadence (c : Course) (expireEvery renewalEvery stop : Nat) (expiry : 0 < expireEvery)
    (renewal : 0 < renewalEvery) :
    (∀ k : Sweep, let own := k.among (firings c expireEvery renewalEvery stop)
      let interval := k.every expireEvery renewalEvery
      own.Pairwise (·.due < ·.due) ∧
        (∀ f ∈ own, interval ∣ f.due ∧ 0 < f.due ∧ f.due ≤ f.time ∧ interval ≤ f.time) ∧
        (∀ t, own.countP (·.time ≤ t) ≤ t / interval) ∧
        ((∀ i, c.takes i = 0) → own.map (·.time) = List.range' interval ((stop - 1) / interval) interval)) ∧
    (∀ (o : Outside) (w : World), ∃ w', (submissions o c expireEvery renewalEvery stop).run w =
        (.ok (firings c expireEvery renewalEvery stop), w') ∧
      w'.offered = w.offered ++ (firings c expireEvery renewalEvery stop).map fun f => .scan f.kind) ∧
    ∀ more, (State.start expireEvery renewalEvery).runFor c stop (fuel expireEvery renewalEvery stop + more) =
      firings c expireEvery renewalEvery stop := by
  have positive : (State.start expireEvery renewalEvery).Positive := fun k => by
    rw [State.timer_start]
    exact Sweep.every_pos expiry renewal k
  have enough := State.left_start_le expireEvery renewalEvery stop
  refine ⟨fun k => ?_, fun o w => State.submitFor_run o c stop _ _ w, State.runFor_add positive enough⟩
  have pos := Sweep.every_pos expiry renewal k
  have timer : (State.start expireEvery renewalEvery).timer k =
      ⟨k.every expireEvery renewalEvery, k.every expireEvery renewalEvery * 1⟩ := by
    rw [State.timer_start, Nat.mul_one]
  have serve := State.runFor_serve c stop pos timer (fuel expireEvery renewalEvery stop)
  refine ⟨serve.own, fun f hf => ?_, fun t => serve.count t, fun idle => ?_⟩
  · obtain ⟨n, first, due⟩ := serve.multiple f hf
    have come := serve.come f hf
    have whole : k.every expireEvery renewalEvery ≤ f.due := due ▸ Nat.le_mul_of_pos_right _ first
    exact ⟨⟨n, due⟩, Nat.lt_of_lt_of_le pos whole, come, Nat.le_trans whole come⟩
  · have times := State.runFor_times idle State.prompt_start positive enough k
    rw [State.timer_start] at times
    have left := Timer.left_start stop (k.every expireEvery renewalEvery)
    rw [Timer.start] at left
    rwa [left] at times

/-- The first submission takes so long that both timers are overdue when it ends, and multiples are passed over. -/
theorem cadence_overslept :
    let slow : Course := ⟨5, fun _ => false, fun i => if i = 0 then 250 else 0⟩
    let idle : Course := ⟨0, fun _ => true, fun _ => 0⟩
    0 < 60 ∧ 0 < 100 ∧
      firings slow 60 100 401 = [⟨60, .expiry, 60⟩, ⟨310, .renewal, 100⟩, ⟨310, .expiry, 120⟩,
        ⟨360, .expiry, 360⟩, ⟨400, .renewal, 400⟩] ∧
      (∀ t, (Sweep.expiry.among (firings slow 60 100 401)).countP (·.time ≤ t) ≤ t / 60) ∧
      (∀ i, idle.takes i = 0) ∧
      (Sweep.renewal.among (firings idle 60 100 401)).map (·.time) = List.range' 100 (400 / 100) 100 := by
  intro slow idle
  obtain ⟨slowly, -, -⟩ := cadence slow 60 100 401 (by decide) (by decide)
  obtain ⟨promptly, -, -⟩ := cadence idle 60 100 401 (by decide) (by decide)
  exact ⟨by decide, by decide, by decide, (slowly .expiry).2.2.1, fun _ => rfl,
    (promptly .renewal).2.2.2 fun _ => rfl⟩

end HostingBilling.Schedule
