import HostingBilling.Program
import HostingBilling.Proofs.Json.Additions
import Mathlib.Algebra.Group.Nat.Defs
import Mathlib.Data.List.TakeWhile

/-!
# Configurations that a worker can run

What a configuration is accepted for is one thing, what the worker needs of it another. Of its numbers only that of
the workers is looked at when it is read, and only for not being zero. But a timer needs an interval, and the
database connections, one for each worker and five more, are counted in a word of 32 bits.

Main statement: an accepted configuration can be run just if both intervals name a number other than zero and
there are at most 4294967290 workers.
-/

namespace HostingBilling

namespace Text

/-- A decimal digit other than zero. -/
def isCounting (c : Char) : Bool := '1' ≤ c && c ≤ '9'

/-- A number has a digit other than zero unless it is zero. -/
theorem digit?_pos_iff {c : Char} {v : Nat} (read : digit? c = some v) : 0 < v ↔ isCounting c = true := by
  have order (a b : Char) : a ≤ b ↔ a.toNat ≤ b.toNat := Iff.rfl
  have zero : '0'.toNat = 48 := rfl
  have one : '1'.toNat = 49 := rfl
  simp only [digit?, order, Option.ite_none_right_eq_some, Option.some.injEq] at read
  simp only [isCounting, order, Bool.and_eq_true, decide_eq_true_eq]
  omega

theorem foldlM_digits_pos_iff {cs : List Char} {a n : Nat}
    (read : cs.foldlM (fun n c => (digit? c).map (n * 10 + ·)) a = some n) :
    0 < n ↔ 0 < a ∨ cs.any isCounting = true := by
  induction cs generalizing a with
  | nil =>
    cases read
    simp
  | cons c cs ih =>
    rw [List.foldlM_cons] at read
    cases digit : digit? c with
    | none =>
      rw [digit] at read
      cases read
    | some v =>
      rw [digit] at read
      rw [ih read, List.any_cons, Bool.or_eq_true, ← digit?_pos_iff digit, ← or_assoc]
      exact or_congr_left (by dsimp only; omega)

theorem digits?_pos_iff {cs : List Char} {n : Nat} (read : digits? cs = some n) :
    0 < n ↔ cs.any isCounting = true := by
  cases cs with
  | nil => cases read
  | cons c cs => simpa using foldlM_digits_pos_iff (show (c :: cs).foldlM _ 0 = some n from read)

theorem word?_pos_iff {s : String} {n : Nat} (read : word? s = some n) :
    0 < n ↔ s.toList.any isCounting = true := by
  obtain ⟨read, -⟩ := Option.filter_eq_some_iff.mp read
  split at read
  · next cs is =>
    have sign : isCounting '+' = false := by decide
    rw [digits?_pos_iff read, is, List.any_cons, sign, Bool.false_or]
  · exact digits?_pos_iff read

theorem word?_lt {s : String} {n : Nat} (read : word? s = some n) : n < 2 ^ 64 := by
  simpa using (Option.filter_eq_some_iff.mp read).2

/-- What is never taken off is looked for in vain at the ends. -/
theorem any_dropWhile {α : Type} {taken p : α → Bool} (stays : ∀ c, p c = true → taken c = false)
    (cs : List α) : (cs.dropWhile taken).any p = cs.any p := by
  conv_rhs => rw [← List.takeWhile_append_dropWhile (p := taken) (l := cs), List.any_append]
  have front : (cs.takeWhile taken).any p = false := by
    rw [List.any_eq_false]
    intro c hc is
    exact Bool.false_ne_true ((stays c is).symm.trans (List.mem_takeWhile_imp hc))
  rw [front, Bool.false_or]

theorem any_trim (s : String) : (trim s).toList.any isCounting = s.toList.any isCounting := by
  have stays (c : Char) (counts : isCounting c = true) : isBlank c = false := by
    have order (a b : Char) : a ≤ b ↔ a.toNat ≤ b.toNat := Iff.rfl
    have one : '1'.toNat = 49 := rfl
    have nine : '9'.toNat = 57 := rfl
    simp only [isCounting, order, Bool.and_eq_true, decide_eq_true_eq] at counts
    simp only [isBlank, Bool.or_eq_false_iff, Bool.and_eq_false_iff, decide_eq_false_iff_not, beq_eq_false_iff_ne]
    omega
  rw [trim, String.toList_ofList, strip, List.any_reverse, any_dropWhile stays, List.any_reverse,
    any_dropWhile stays]

end Text

namespace Configuration

/-- The text of the variable, if it is set, names a number other than zero. -/
def Counts (env : Environment) (key : String) : Prop :=
  ∀ raw, value? env key = some raw → raw.toList.any Text.isCounting = true

variable {env : Environment} {c : Configuration} {key : String} {default n : Nat}

theorem number_ok (read : number env key default = .ok n) :
    value? env key = none ∧ n = default ∨
      ∃ raw, value? env key = some raw ∧ Text.word? (Text.trim raw) = some n := by
  unfold number at read
  split at read
  · next unset => cases read; exact .inl ⟨unset, rfl⟩
  · next raw set =>
    split at read
    · next n word => cases read; exact .inr ⟨raw, set, word⟩
    · cases read

theorem number_pos_iff (read : number env key default = .ok n) (positive : 0 < default) :
    0 < n ↔ Counts env key := by
  rcases number_ok read with ⟨unset, rfl⟩ | ⟨raw, set, word⟩
  · simp [Counts, unset, positive]
  · rw [Text.word?_pos_iff word, Text.any_trim]
    simp [Counts, set]

theorem number_lt (read : number env key default = .ok n) (small : default < 2 ^ 64) : n < 2 ^ 64 := by
  rcases number_ok read with ⟨-, rfl⟩ | ⟨raw, -, word⟩
  · exact small
  · exact Text.word?_lt word

/-- What the worker works with has been read, and there is at least one worker. -/
structure Accepted (env : Environment) (c : Configuration) : Prop where
  workers : number env "WORKER_CONCURRENCY" 10 = .ok c.workerConcurrency
  worker : c.workerConcurrency ≠ 0
  expiry : number env "EXPIRE_SCAN_INTERVAL_SECS" 3600 = .ok c.expireScanSeconds
  renewal : number env "RENEWAL_SCAN_INTERVAL_SECS" 86400 = .ok c.renewalScanSeconds

theorem accepted_of_ok (ok : ofEnvironment env = .ok c) : Accepted env c := by
  unfold ofEnvironment at ok
  split at ok
  · next url set =>
    obtain ⟨workers, readWorkers, ok⟩ := Json.bind_eq_ok.mp ok
    by_cases idle : workers = 0
    · rw [if_pos idle] at ok
      cases ok
    · rw [if_neg idle] at ok
      obtain ⟨_, -, ok⟩ := Json.bind_eq_ok.mp ok
      obtain ⟨_, readExpiry, ok⟩ := Json.bind_eq_ok.mp ok
      obtain ⟨_, readRenewal, ok⟩ := Json.bind_eq_ok.mp ok
      obtain ⟨_, -, ok⟩ := Json.bind_eq_ok.mp ok
      obtain ⟨_, -, ok⟩ := Json.bind_eq_ok.mp ok
      cases ok
      exact ⟨readWorkers, idle, readExpiry, readRenewal⟩
  · cases ok

/-- What the worker needs of the numbers in its configuration: an interval for each timer, and a connection for each
worker and five more. Whether the clock reaches as far as an interval is long is left open. -/
structure Runs (c : Configuration) : Prop where
  expiry : 0 < c.expireScanSeconds
  renewal : 0 < c.renewalScanSeconds
  connections : Program.connections? c.workerConcurrency = some (c.workerConcurrency + 5)

/-- The connections are counted exactly as long as their number fits. -/
theorem connections?_eq_iff (workers : Nat) :
    Program.connections? workers = some (workers + 5) ↔ workers ≤ 4294967290 := by
  simp only [Program.connections?, Option.ite_none_right_eq_some, Option.some.injEq]
  omega

/-- Where the number does not fit, the worker does not start, or has fewer connections than workers. -/
theorem connections?_of_many {workers : Nat} (many : 4294967290 < workers) :
    Program.connections? workers = none ∨ ∃ n, Program.connections? workers = some n ∧ n < workers := by
  simp only [Program.connections?]
  split
  · exact .inr ⟨_, rfl, by omega⟩
  · exact .inl rfl

/-- The number of workers is cut to 32 bits before it is counted on: here five connections are left for them all. -/
example : Program.connections? 4294967296 = some 5 := by decide

theorem Accepted.runs_iff (accepted : Accepted env c) :
    c.Runs ↔ Counts env "EXPIRE_SCAN_INTERVAL_SECS" ∧ Counts env "RENEWAL_SCAN_INTERVAL_SECS" ∧
      c.workerConcurrency ≤ 4294967290 := by
  rw [← number_pos_iff accepted.expiry (by decide), ← number_pos_iff accepted.renewal (by decide),
    ← connections?_eq_iff]
  exact ⟨fun ⟨expiry, renewal, connections⟩ => ⟨expiry, renewal, connections⟩,
    fun ⟨expiry, renewal, connections⟩ => ⟨expiry, renewal, connections⟩⟩

/-- **What an accepted configuration can run.** The worker can run an accepted configuration just if each of the
two intervals, where it is set, names a number other than zero, and there are at most 4294967290 workers. There is
at least one, and their number fits a word of 64 bits. With more than 4294967290 of them, the worker ends before it
has connected, or it has fewer connections than workers. -/
theorem accepted_runs_iff (ok : ofEnvironment env = .ok c) :
    (c.Runs ↔ Counts env "EXPIRE_SCAN_INTERVAL_SECS" ∧ Counts env "RENEWAL_SCAN_INTERVAL_SECS" ∧
      c.workerConcurrency ≤ 4294967290) ∧
    (0 < c.workerConcurrency ∧ c.workerConcurrency < 2 ^ 64) ∧
    (4294967290 < c.workerConcurrency →
      (∀ around w, Program.runWorker env around w = .error .tooManyConnections) ∨
        ∃ n, Program.connections? c.workerConcurrency = some n ∧ n < c.workerConcurrency) := by
  have accepted := accepted_of_ok ok
  refine ⟨accepted.runs_iff, ⟨Nat.pos_of_ne_zero accepted.worker, number_lt accepted.workers (by decide)⟩,
    fun many => (connections?_of_many many).imp_left fun overflows around w => ?_⟩
  have configured : Program.configure env = .ok c := by rw [Program.configure, ok]
  rw [Program.runWorker, configured]
  simp [overflows, bind, Except.bind]

/-- As many workers as there can be, and an interval with blanks, a sign and leading zeros around its digits. -/
def fullEnvironment : Environment := [("DATABASE_URL", "postgres://billing"),
  ("WORKER_CONCURRENCY", "4294967290"), ("EXPIRE_SCAN_INTERVAL_SECS", " +060 ")]

def fullConfiguration : Configuration where
  databaseUrl := "postgres://billing"
  webhookSecret := none
  listenAddress := "0.0.0.0:3000"
  adminToken := none
  workerConcurrency := 4294967290
  provisionStepMillis := 500
  expireScanSeconds := 60
  renewalScanSeconds := 86400
  settingsReloadSeconds := 60
  renewalWebhookUrl := ""
  renewalWebhookToken := ""
  notificationTimeoutSeconds := 5

theorem ofEnvironment_full : ofEnvironment fullEnvironment = .ok fullConfiguration := by
  rfl

theorem accepted_runs_iff_full : ofEnvironment fullEnvironment = .ok fullConfiguration ∧ fullConfiguration.Runs := by
  refine ⟨ofEnvironment_full, (accepted_runs_iff ofEnvironment_full).1.mpr ⟨?_, ?_, by decide⟩⟩
  · intro raw set
    cases set
    rfl
  · intro raw set
    cases set

/-- A zero interval is accepted. -/
theorem accepted_not_running : ¬ ∀ (env : Environment) (c : Configuration), ofEnvironment env = .ok c → c.Runs := by
  intro claimed
  have runs := claimed [("DATABASE_URL", "postgres://billing"), ("EXPIRE_SCAN_INTERVAL_SECS", "0")]
    { fullConfiguration with workerConcurrency := 10, expireScanSeconds := 0 } rfl
  exact Nat.lt_irrefl 0 runs.expiry

end Configuration

end HostingBilling
