import HostingBilling.Ledger
import HostingBilling.Proofs.InstantOrder
import HostingBilling.Proofs.Rows

/-!
# Who owns an event

Any number of deliveries meet at the ledger, and their statements interleave freely: the claim, the
count of a refused claim, and the mark at the end. The clock moves in between as it likes. A delivery
whose claim was granted marks the row once, no later than two minutes after the claim, or never.

Main statement: an event has one row and one owner at a time, it is finished at most once and refused
from then on, and its row counts every claim that has returned.
-/

namespace HostingBilling.Ledger

/-- How far a delivery has come. -/
inductive Progress where
  /-- The claim was refused and is still to be counted. -/
  | refused
  | counted
  /-- The claim was granted at an instant, and the row is not marked. -/
  | holding (row : Uuid) (since : Instant)
  | finished (row : Uuid)
  | failed (row : Uuid)

/-- A delivery that has reached the ledger. -/
structure Visit where
  event : GatewayEvent
  progress : Progress

/-- The ledger, and the deliveries in the order of their claims. -/
structure Traffic where
  now : Instant
  rows : List EventRow
  visits : List Visit

def Progress.ofClaim (now : Instant) : Option Uuid → Progress
  | some row => .holding row now
  | none => .refused

/-- The row that a granted claim gave. -/
def Progress.row? : Progress → Option Uuid
  | .refused => none
  | .counted => none
  | .holding row _ => some row
  | .finished row => some row
  | .failed row => some row

/-- Whether the call that claims has returned. A refused one returns after it is counted. -/
def Progress.hasReturned : Progress → Bool
  | .refused => false
  | _ => true

def Progress.isHolding : Progress → Bool
  | .holding _ _ => true
  | _ => false

def Progress.isFinished : Progress → Bool
  | .finished _ => true
  | _ => false

/-- Whether a delivery of the event has come as far as asked. -/
def Visit.reaches (eventId : String) (stage : Progress → Bool) (v : Visit) : Bool :=
  v.event.id.text == eventId && stage v.progress

/-- The deliveries of an event that have come as far as asked. -/
def Traffic.number (s : Traffic) (eventId : String) (stage : Progress → Bool) : Nat :=
  s.visits.countP (Visit.reaches eventId stage)

/-- One statement of one delivery, or a wait. -/
inductive Step : Traffic → Traffic → Prop
  | wait (s : Traffic) (later : Instant) (forward : s.now ≤ later) :
      Step s { s with now := later }
  | claim (s : Traffic) (e : GatewayEvent) (id : Uuid) (fresh : ∀ r ∈ s.rows, r.id ≠ id) :
      Step s { s with
        rows := (claimRow s.now id e s.rows).2
        visits := s.visits ++ [⟨e, .ofClaim s.now (claimRow s.now id e s.rows).1⟩] }
  | count (s : Traffic) (i : Nat) (e : GatewayEvent) (here : s.visits[i]? = some ⟨e, .refused⟩) :
      Step s { s with
        rows := countDelivery e.id.text s.rows
        visits := s.visits.set i ⟨e, .counted⟩ }
  | finish (s : Traffic) (i : Nat) (e : GatewayEvent) (row : Uuid) (since : Instant)
      (here : s.visits[i]? = some ⟨e, .holding row since⟩)
      (inTime : s.now ≤ since.addSeconds claimSeconds) :
      Step s { s with
        rows := markRow s.now row none s.rows
        visits := s.visits.set i ⟨e, .finished row⟩ }
  | fail (s : Traffic) (i : Nat) (e : GatewayEvent) (row : Uuid) (since : Instant) (error : String)
      (here : s.visits[i]? = some ⟨e, .holding row since⟩)
      (inTime : s.now ≤ since.addSeconds claimSeconds) :
      Step s { s with
        rows := markRow s.now row (some error) s.rows
        visits := s.visits.set i ⟨e, .failed row⟩ }

/-- What can come of an empty ledger. -/
inductive Reachable : Traffic → Prop
  | start (now : Instant) : Reachable ⟨now, [], []⟩
  | next {s t : Traffic} : Reachable s → Step s t → Reachable t

/-- The delivery holds a claim that is not marked and not older than two minutes. -/
def Traffic.Owns (s : Traffic) (i : Nat) (eventId : String) : Prop :=
  ∃ e row since, s.visits[i]? = some ⟨e, .holding row since⟩ ∧ e.id.text = eventId ∧
    s.now ≤ since.addSeconds claimSeconds

/-- What every statement keeps. A claim in time is told by its row, which is why no other delivery can
take the event over before it is marked or too old. -/
structure Orderly (s : Traffic) : Prop where
  keys : (s.rows.map (·.id)).Nodup
  events : (s.rows.map (·.eventId)).Nodup
  placed : ∀ v ∈ s.visits, ∃ r ∈ s.rows, r.eventId = v.event.id.text ∧
    ∀ row, v.progress.row? = some row → r.id = row
  counted : ∀ r ∈ s.rows, r.deliveries = s.number r.eventId Progress.hasReturned
  current : ∀ (i : Nat) (e : GatewayEvent) (row : Uuid) (since : Instant),
    s.visits[i]? = some ⟨e, .holding row since⟩ → s.now ≤ since.addSeconds claimSeconds →
      ∀ r ∈ s.rows, r.eventId = e.id.text → r.processed = false ∧ r.error = none ∧ r.claimedAt = since
  alone : ∀ i j eventId, s.Owns i eventId → s.Owns j eventId → i = j
  closed : ∀ v ∈ s.visits, v.progress.isFinished = true →
    ∀ r ∈ s.rows, r.eventId = v.event.id.text → r.processed = true ∧ r.error = none
  once : ∀ eventId, s.number eventId Progress.isFinished ≤ 1

/-! ## Lists of deliveries -/

theorem getElem?_concat_eq_some {α : Type} {l : List α} {a b : α} {i : Nat} :
    (l ++ [b])[i]? = some a ↔ l[i]? = some a ∨ (i = l.length ∧ b = a) := by
  rw [List.getElem?_append]
  split
  · next h => simp; omega
  · next h =>
    have hn : l[i]? = none := List.getElem?_eq_none (by omega)
    rw [hn, List.getElem?_singleton]
    split <;> simp <;> omega

theorem getElem?_set_eq_some {α : Type} {l : List α} {a b : α} {i j : Nat}
    (h : (l.set i b)[j]? = some a) : (j = i ∧ a = b) ∨ (j ≠ i ∧ l[j]? = some a) := by
  rw [List.getElem?_set] at h
  split at h
  · next same =>
    split at h
    · exact Or.inl ⟨same.symm, (Option.some.inj h).symm⟩
    · cases h
  · next other => exact Or.inr ⟨fun e => other e.symm, h⟩

theorem countP_set_of {α : Type} (p : α → Bool) {l : List α} {i : Nat} {a : α}
    (here : l[i]? = some a) (b : α) :
    (l.set i b).countP p + (if p a then 1 else 0) = l.countP p + (if p b then 1 else 0) := by
  obtain ⟨bound, eq⟩ := List.getElem?_eq_some_iff.mp here
  rw [List.countP_set bound, eq]
  have positive : p a = true → 0 < l.countP p := fun h =>
    List.countP_pos_iff.mpr ⟨a, List.mem_of_getElem? here, h⟩
  cases h : p a
  · simp
  · have := positive h
    simp only [↓reduceIte]
    omega

/-- A delivery moves on without coming nearer to a stage, or reaches it. -/
theorem number_set {s : Traffic} {i : Nat} {e : GatewayEvent} {was : Progress}
    (here : s.visits[i]? = some ⟨e, was⟩) (becomes : Progress) (eventId : String)
    (stage : Progress → Bool) (before : stage was = false) :
    (s.visits.set i ⟨e, becomes⟩).countP (Visit.reaches eventId stage) =
      s.number eventId stage + if e.id.text = eventId ∧ stage becomes = true then 1 else 0 := by
  have h := countP_set_of (Visit.reaches eventId stage) here ⟨e, becomes⟩
  simpa [Visit.reaches, before, Traffic.number] using h

theorem number_concat (visits : List Visit) (e : GatewayEvent) (progress : Progress)
    (eventId : String) (stage : Progress → Bool) :
    (visits ++ [Visit.mk e progress]).countP (Visit.reaches eventId stage) =
      visits.countP (Visit.reaches eventId stage) +
        if e.id.text = eventId ∧ stage progress = true then 1 else 0 := by
  simp [List.countP_append, List.countP_singleton, Visit.reaches]

/-! ## Owners -/

section owners

variable {s : Traffic} {rows : List EventRow} {e : GatewayEvent} {progress : Progress} {eventId : String}

/-- Who owns an event after a new delivery has come did so before, or is the new delivery. -/
theorem Traffic.Owns.of_concat {i : Nat}
    (owns : Traffic.Owns { s with rows := rows, visits := s.visits ++ [⟨e, progress⟩] } i eventId) :
    s.Owns i eventId ∨ i = s.visits.length ∧ e.id.text = eventId ∧ progress.isHolding = true := by
  obtain ⟨e', row, since, here, of, inTime⟩ := owns
  rcases getElem?_concat_eq_some.mp here with here | ⟨last, eq⟩
  · exact Or.inl ⟨e', row, since, here, of, inTime⟩
  · cases eq
    exact Or.inr ⟨last, of, rfl⟩

/-- A delivery that moves on to hold nothing gives no event an owner. -/
theorem Traffic.Owns.of_set {i j : Nat} (lets : progress.isHolding = false)
    (owns : Traffic.Owns { s with rows := rows, visits := s.visits.set i ⟨e, progress⟩ } j eventId) :
    s.Owns j eventId := by
  obtain ⟨e', row, since, here, of, inTime⟩ := owns
  rcases getElem?_set_eq_some here with ⟨-, eq⟩ | ⟨-, here⟩
  · cases eq
    cases lets
  · exact ⟨e', row, since, here, of, inTime⟩

theorem Orderly.alone_concat (h : Orderly s)
    (unowned : progress.isHolding = true → ∀ i, ¬ s.Owns i e.id.text) (i j : Nat)
    (first : Traffic.Owns { s with rows := rows, visits := s.visits ++ [⟨e, progress⟩] } i eventId)
    (second : Traffic.Owns { s with rows := rows, visits := s.visits ++ [⟨e, progress⟩] } j eventId) :
    i = j := by
  rcases first.of_concat with first | ⟨hi, of, holds⟩
  · rcases second.of_concat with second | ⟨-, rfl, holds⟩
    · exact h.alone i j eventId first second
    · exact absurd first (unowned holds i)
  · rcases second.of_concat with second | ⟨hj, -, -⟩
    · subst of
      exact absurd second (unowned holds j)
    · exact hi.trans hj.symm

/-- While an event has an owner, no delivery has finished it. -/
theorem Orderly.unfinished (h : Orderly s) {i : Nat} (owns : s.Owns i eventId) :
    ∀ v ∈ s.visits, v.progress.isFinished = true → v.event.id.text ≠ eventId := by
  intro v hv isFinished of
  obtain ⟨e, row, since, here, rfl, inTime⟩ := owns
  obtain ⟨r, hr, ofEvent, -⟩ := h.placed v hv
  have processed := (h.closed v hv isFinished r hr ofEvent).1
  rw [(h.current i e row since here inTime r hr (ofEvent.trans of)).1] at processed
  cases processed

/-- A claim in time is on a row that no delivery may take over: it has no error, and was claimed when the
owner says. -/
theorem Orderly.not_mayReclaim (h : Orderly s) {i : Nat} (owns : s.Owns i eventId) {r : EventRow}
    (hr : r ∈ s.rows) (same : r.eventId = eventId) : mayReclaim s.now r = false := by
  obtain ⟨e, row, since, here, rfl, inTime⟩ := owns
  obtain ⟨-, noError, claimed⟩ := h.current i e row since here inTime r hr same
  have fresh : ¬ since < s.now.addSeconds (-claimSeconds) := by
    rw [Instant.lt_addSeconds_neg]
    exact not_lt.mpr inTime
  simp [mayReclaim, noError, claimed, fresh]

end owners

/-! ## Rows -/

/-- A delivery keeps its row when rows change and keep their keys. -/
theorem placed_changeRows {rows : List EventRow} {selects : EventRow → Bool}
    {change : EventRow → EventRow}
    (keys : ∀ r, (change r).id = r.id ∧ (change r).eventId = r.eventId) {eventId : String}
    {row? : Option Uuid}
    (placed : ∃ r ∈ rows, r.eventId = eventId ∧ ∀ row, row? = some row → r.id = row) :
    ∃ r ∈ changeRows selects change rows, r.eventId = eventId ∧ ∀ row, row? = some row → r.id = row := by
  obtain ⟨r, hr, of, isRow⟩ := placed
  refine ⟨_, mem_changeRows.mpr ⟨r, hr, rfl⟩, ?_⟩
  split
  · exact ⟨(keys r).2.trans of, fun row told => (keys r).1.trans (isRow row told)⟩
  · exact ⟨of, isRow⟩

/-- A row has the identifier that a delivery was told exactly if it is the row of its event. -/
theorem Orderly.row_iff {s : Traffic} (h : Orderly s) {v : Visit} (hv : v ∈ s.visits) {row : Uuid}
    (told : v.progress.row? = some row) {x : EventRow} (hx : x ∈ s.rows) :
    x.id = row ↔ x.eventId = v.event.id.text := by
  obtain ⟨r, hr, of, isRow⟩ := h.placed v hv
  have isRow := isRow row told
  constructor
  · intro c
    rw [eq_of_key h.keys hx hr (c.trans isRow.symm)]
    exact of
  · intro c
    rw [eq_of_key h.events hx hr (c.trans of.symm)]
    exact isRow

/-! ## What each statement keeps -/

theorem Orderly.wait {s : Traffic} (h : Orderly s) {later : Instant} (forward : s.now ≤ later) :
    Orderly { s with now := later } where
  keys := h.keys
  events := h.events
  placed := h.placed
  counted := h.counted
  current i e row since here inTime := h.current i e row since here (le_trans forward inTime)
  alone i j eventId := by
    rintro ⟨e, row, since, here, of, inTime⟩ ⟨e', row', since', here', of', inTime'⟩
    apply h.alone i j eventId
    · exact ⟨e, row, since, here, of, le_trans forward inTime⟩
    · exact ⟨e', row', since', here', of', le_trans forward inTime'⟩
  closed := h.closed
  once := h.once

/-- An event that was never seen gets a row, and the delivery owns it. -/
theorem Orderly.claim_new {s : Traffic} (h : Orderly s) (e : GatewayEvent) (id : Uuid)
    (fresh : ∀ r ∈ s.rows, r.id ≠ id) (unseen : ∀ r ∈ s.rows, r.eventId ≠ e.id.text) :
    Orderly { s with
      rows := s.rows ++ [newRow s.now id e]
      visits := s.visits ++ [⟨e, .holding id s.now⟩] } := by
  have other : ∀ v ∈ s.visits, v.event.id.text ≠ e.id.text := by
    intro v hv same
    obtain ⟨r, hr, ofEvent, -⟩ := h.placed v hv
    exact unseen r hr (ofEvent.trans same)
  have none_yet : ∀ stage, s.number e.id.text stage = 0 := by
    intro stage
    apply List.countP_eq_zero.mpr
    intro v hv
    simp [Visit.reaches, other v hv]
  constructor
  · simpa [newRow, List.nodup_append] using ⟨h.keys, fun r hr => fresh r hr⟩
  · simpa [newRow, List.nodup_append] using ⟨h.events, fun r hr => unseen r hr⟩
  · intro v hv
    rcases List.mem_append.mp hv with hv | hv
    · obtain ⟨r, hr, rest⟩ := h.placed v hv
      exact ⟨r, List.mem_append_left _ hr, rest⟩
    · obtain rfl := List.mem_singleton.mp hv
      exact ⟨newRow s.now id e, by simp, rfl, by simp [Progress.row?, newRow]⟩
  · intro r hr
    simp only [Traffic.number, number_concat]
    rcases List.mem_append.mp hr with hr | hr
    · have := h.counted r hr
      simpa [Traffic.number, (unseen r hr).symm] using this
    · obtain rfl := List.mem_singleton.mp hr
      have := none_yet Progress.hasReturned
      simp only [Traffic.number] at this
      simp [newRow, this, Progress.hasReturned]
  · intro i e' row since here inTime r hr same
    rcases getElem?_concat_eq_some.mp here with here | ⟨-, eq⟩
    · have seen := other _ (List.mem_of_getElem? here)
      rcases List.mem_append.mp hr with hr | hr
      · exact h.current i e' row since here inTime r hr same
      · obtain rfl := List.mem_singleton.mp hr
        exact absurd same.symm seen
    · cases eq
      rcases List.mem_append.mp hr with hr | hr
      · exact absurd same (unseen r hr)
      · obtain rfl := List.mem_singleton.mp hr
        exact ⟨rfl, rfl, rfl⟩
  · intro i j eventId
    apply h.alone_concat
    rintro - k ⟨e', row, since, here, of, -⟩
    exact other _ (List.mem_of_getElem? here) of
  · intro v hv isFinished r hr same
    rcases List.mem_append.mp hv with hv | hv
    · rcases List.mem_append.mp hr with hr | hr
      · exact h.closed v hv isFinished r hr same
      · obtain rfl := List.mem_singleton.mp hr
        exact absurd same.symm (other v hv)
    · obtain rfl := List.mem_singleton.mp hv
      cases isFinished
  · intro eventId
    simp only [Traffic.number, number_concat]
    simpa [Progress.isFinished, Traffic.number] using h.once eventId

theorem Orderly.claim_refused {s : Traffic} (h : Orderly s) (e : GatewayEvent) {r : EventRow}
    (hr : r ∈ s.rows) (same : r.eventId = e.id.text) :
    Orderly { s with visits := s.visits ++ [⟨e, .refused⟩] } where
  keys := h.keys
  events := h.events
  placed v hv := by
    rcases List.mem_append.mp hv with hv | hv
    · exact h.placed v hv
    · obtain rfl := List.mem_singleton.mp hv
      exact ⟨r, hr, same, by simp [Progress.row?]⟩
  counted x hx := by
    simp only [Traffic.number, number_concat]
    simpa [Progress.hasReturned, Traffic.number] using h.counted x hx
  current i e' row since here := by
    rcases getElem?_concat_eq_some.mp here with here | ⟨-, eq⟩
    · exact h.current i e' row since here
    · cases eq
  alone i j eventId := by
    apply h.alone_concat
    intro holds
    cases holds
  closed v hv isFinished := by
    rcases List.mem_append.mp hv with hv | hv
    · exact h.closed v hv isFinished
    · obtain rfl := List.mem_singleton.mp hv
      cases isFinished
  once eventId := by
    simp only [Traffic.number, number_concat]
    simpa [Progress.isFinished, Traffic.number] using h.once eventId

/-- An event with an error, or with a claim that is too old, changes hands. -/
theorem Orderly.claim_taken {s : Traffic} (h : Orderly s) (e : GatewayEvent) {r : EventRow}
    (hr : r ∈ s.rows) (same : r.eventId = e.id.text) (may : mayReclaim s.now r = true) :
    Orderly { s with
      rows := changeRows (fun x => x.eventId == e.id.text) (reclaimed s.now) s.rows
      visits := s.visits ++ [⟨e, .holding r.id s.now⟩] } := by
  have unowned : ∀ i, ¬ s.Owns i e.id.text := by
    intro i owns
    have := h.not_mayReclaim owns hr same
    rw [may] at this
    cases this
  have unfinished : ∀ v ∈ s.visits, v.progress.isFinished = true → v.event.id.text ≠ e.id.text := by
    intro v hv isFinished of
    obtain ⟨processed, noError⟩ := h.closed v hv isFinished r hr (same.trans of.symm)
    simp [mayReclaim, processed, noError] at may
  constructor
  · exact nodup_changeRows h.keys fun _ => rfl
  · exact nodup_changeRows h.events fun _ => rfl
  · intro v hv
    apply placed_changeRows
    · intro _
      exact ⟨rfl, rfl⟩
    · rcases List.mem_append.mp hv with hv | hv
      · exact h.placed v hv
      · obtain rfl := List.mem_singleton.mp hv
        exact ⟨r, hr, same, by simp [Progress.row?]⟩
  · intro y hy
    obtain ⟨x, hx, rfl⟩ := mem_changeRows.mp hy
    have count := h.counted x hx
    simp only [Traffic.number, number_concat] at count ⊢
    by_cases of : x.eventId = e.id.text
    · simp [of, reclaimed, Progress.hasReturned] at count ⊢
      omega
    · have of' : ¬ e.id.text = x.eventId := fun c => of c.symm
      simpa [of, of'] using count
  · intro i e' row since here inTime y hy sameEvent
    obtain ⟨x, hx, rfl⟩ := mem_changeRows.mp hy
    by_cases of : x.eventId = e.id.text
    · rcases getElem?_concat_eq_some.mp here with here | ⟨-, eq⟩
      · have : e'.id.text = e.id.text := by simpa [of, reclaimed] using sameEvent.symm
        exact absurd ⟨e', row, since, here, this, inTime⟩ (unowned i)
      · cases eq
        simp [of, reclaimed]
    · rw [if_neg (by simpa using of)] at sameEvent ⊢
      rcases getElem?_concat_eq_some.mp here with here | ⟨-, eq⟩
      · exact h.current i e' row since here inTime x hx sameEvent
      · cases eq
        exact absurd sameEvent of
  · intro i j eventId
    exact h.alone_concat (fun _ => unowned) i j
  · intro v hv isFinished y hy sameEvent
    obtain ⟨x, hx, rfl⟩ := mem_changeRows.mp hy
    rcases List.mem_append.mp hv with hv | hv
    · by_cases of : x.eventId = e.id.text
      · have : v.event.id.text = e.id.text := by simpa [of, reclaimed] using sameEvent.symm
        exact absurd this (unfinished v hv isFinished)
      · rw [if_neg (by simpa using of)] at sameEvent ⊢
        exact h.closed v hv isFinished x hx sameEvent
    · obtain rfl := List.mem_singleton.mp hv
      cases isFinished
  · intro eventId
    simp only [Traffic.number, number_concat]
    simpa [Progress.isFinished, Traffic.number] using h.once eventId

theorem Orderly.count {s : Traffic} (h : Orderly s) {i : Nat} {e : GatewayEvent}
    (here : s.visits[i]? = some ⟨e, .refused⟩) :
    Orderly { s with
      rows := countDelivery e.id.text s.rows
      visits := s.visits.set i ⟨e, .counted⟩ } := by
  have hv₀ : (⟨e, .refused⟩ : Visit) ∈ s.visits := List.mem_of_getElem? here
  constructor
  · exact nodup_changeRows h.keys fun _ => rfl
  · exact nodup_changeRows h.events fun _ => rfl
  · intro v hv
    apply placed_changeRows
    · intro _
      exact ⟨rfl, rfl⟩
    · rcases List.mem_or_eq_of_mem_set hv with hv | rfl
      · exact h.placed v hv
      · obtain ⟨x, hx, of, -⟩ := h.placed _ hv₀
        exact ⟨x, hx, of, by simp [Progress.row?]⟩
  · intro y hy
    obtain ⟨x, hx, rfl⟩ := mem_changeRows.mp hy
    have count := h.counted x hx
    simp only [Traffic.number, number_set here .counted _ Progress.hasReturned rfl] at count ⊢
    by_cases of : x.eventId = e.id.text
    · simp [of, Progress.hasReturned] at count ⊢
      omega
    · have of' : ¬ e.id.text = x.eventId := fun c => of c.symm
      simpa [of, of'] using count
  · intro j e' row since there inTime y hy sameEvent
    obtain ⟨x, hx, rfl⟩ := mem_changeRows.mp hy
    rcases getElem?_set_eq_some there with ⟨-, eq⟩ | ⟨-, there⟩
    · cases eq
    · have sameEvent : x.eventId = e'.id.text := by
        rw [← sameEvent]; split <;> rfl
      have := h.current j e' row since there inTime x hx sameEvent
      split <;> exact this
  · intro j k eventId first second
    exact h.alone j k eventId (first.of_set rfl) (second.of_set rfl)
  · intro v hv isFinished y hy sameEvent
    obtain ⟨x, hx, rfl⟩ := mem_changeRows.mp hy
    rcases List.mem_or_eq_of_mem_set hv with hv | rfl
    · have sameEvent : x.eventId = v.event.id.text := by
        rw [← sameEvent]; split <;> rfl
      have := h.closed v hv isFinished x hx sameEvent
      split <;> exact this
    · cases isFinished
  · intro eventId
    have := h.once eventId
    simp only [Traffic.number, number_set here .counted _ Progress.isFinished rfl] at this ⊢
    simpa [Progress.isFinished] using this

/-- How a mark leaves the delivery that set it. -/
def Progress.ofMark (row : Uuid) : Option String → Progress
  | none => .finished row
  | some _ => .failed row

@[simp] theorem Progress.row?_ofMark (row : Uuid) (error : Option String) :
    (ofMark row error).row? = some row := by
  cases error <;> rfl

@[simp] theorem Progress.hasReturned_ofMark (row : Uuid) (error : Option String) :
    (ofMark row error).hasReturned = true := by
  cases error <;> rfl

@[simp] theorem Progress.isHolding_ofMark (row : Uuid) (error : Option String) :
    (ofMark row error).isHolding = false := by
  cases error <;> rfl

/-- A finished mark raises the number of ends of its event, which was none while it had an owner. -/
theorem Orderly.once_mark {s : Traffic} (h : Orderly s) {i : Nat} {e : GatewayEvent} {row : Uuid}
    {since : Instant} (error : Option String) (here : s.visits[i]? = some ⟨e, .holding row since⟩)
    (owns : s.Owns i e.id.text) (eventId : String) :
    (s.visits.set i ⟨e, .ofMark row error⟩).countP (Visit.reaches eventId Progress.isFinished) ≤ 1 := by
  have before := h.once eventId
  rw [number_set here (.ofMark row error) eventId Progress.isFinished rfl]
  split
  · next ends =>
    have zero : s.number eventId Progress.isFinished = 0 := by
      apply List.countP_eq_zero.mpr
      intro v hv reached
      simp only [Visit.reaches, Bool.and_eq_true, beq_iff_eq] at reached
      exact h.unfinished owns v hv reached.2 (reached.1.trans ends.1.symm)
    omega
  · omega

/-- The owner marks its row. No other delivery of the event is in time, and none has finished it. -/
theorem Orderly.mark {s : Traffic} (h : Orderly s) {i : Nat} {e : GatewayEvent} {row : Uuid}
    {since : Instant} (error : Option String)
    (here : s.visits[i]? = some ⟨e, .holding row since⟩)
    (inTime : s.now ≤ since.addSeconds claimSeconds) :
    Orderly { s with
      rows := markRow s.now row error s.rows
      visits := s.visits.set i ⟨e, .ofMark row error⟩ } := by
  have hv₀ : (⟨e, .holding row since⟩ : Visit) ∈ s.visits := List.mem_of_getElem? here
  have owns : s.Owns i e.id.text := ⟨e, row, since, here, rfl, inTime⟩
  have marks {x : EventRow} (hx : x ∈ s.rows) : x.id = row ↔ x.eventId = e.id.text :=
    h.row_iff hv₀ rfl hx
  constructor
  · exact nodup_changeRows h.keys fun _ => rfl
  · exact nodup_changeRows h.events fun _ => rfl
  · intro v hv
    apply placed_changeRows
    · intro _
      exact ⟨rfl, rfl⟩
    · rcases List.mem_or_eq_of_mem_set hv with hv | rfl
      · exact h.placed v hv
      · simp only [Progress.row?_ofMark]
        exact h.placed _ hv₀
  · intro y hy
    obtain ⟨x, hx, rfl⟩ := mem_changeRows.mp hy
    have count := h.counted x hx
    have same := countP_set_of (Visit.reaches x.eventId Progress.hasReturned) here ⟨e, .ofMark row error⟩
    have held : (Progress.holding row since).hasReturned = true := rfl
    simp only [Visit.reaches, Progress.hasReturned_ofMark, held, Nat.add_right_cancel_iff] at same
    split <;> simpa [Traffic.number, Visit.reaches, same] using count
  · intro j e' row' since' there inTime' y hy sameEvent
    obtain ⟨x, hx, rfl⟩ := mem_changeRows.mp hy
    rcases getElem?_set_eq_some there with ⟨-, eq⟩ | ⟨other, there⟩
    · cases error <;> cases eq
    · have sameEvent : x.eventId = e'.id.text := by
        rw [← sameEvent]; split <;> rfl
      have untouched : ¬ x.id = row := by
        intro c
        have of : e'.id.text = e.id.text := sameEvent.symm.trans ((marks hx).mp c)
        exact other (h.alone j i e.id.text ⟨e', row', since', there, of, inTime'⟩ owns)
      rw [if_neg (by simpa using untouched)]
      exact h.current j e' row' since' there inTime' x hx sameEvent
  · intro j k eventId first second
    apply h.alone j k eventId
    · exact first.of_set (Progress.isHolding_ofMark row error)
    · exact second.of_set (Progress.isHolding_ofMark row error)
  · intro v hv isFinished y hy sameEvent
    obtain ⟨x, hx, rfl⟩ := mem_changeRows.mp hy
    have sameEvent : x.eventId = v.event.id.text := by
      rw [← sameEvent]; split <;> rfl
    rcases List.mem_or_eq_of_mem_set hv with hv | rfl
    · have untouched : ¬ x.id = row := by
        intro c
        exact h.unfinished owns v hv isFinished (sameEvent.symm.trans ((marks hx).mp c))
      rw [if_neg (by simpa using untouched)]
      exact h.closed v hv isFinished x hx sameEvent
    · have touched : x.id = row := (marks hx).mpr sameEvent
      cases error with
      | none => simp [touched]
      | some text => cases isFinished
  · exact h.once_mark error here owns

theorem step_orderly {s t : Traffic} (step : Step s t) (h : Orderly s) : Orderly t := by
  cases step with
  | wait later forward => exact h.wait forward
  | claim e id fresh =>
    unfold claimRow
    cases found : s.rows.find? fun r => r.eventId == e.id.text with
    | none => exact h.claim_new e id fresh (find?_key_none found)
    | some r =>
      have hr := List.mem_of_find?_eq_some found
      have same : r.eventId = e.id.text := by simpa using List.find?_some found
      cases may : mayReclaim s.now r with
      | true => simpa [may, Progress.ofClaim] using h.claim_taken e hr same may
      | false => simpa [may, Progress.ofClaim] using h.claim_refused e hr same
  | count i e here => exact h.count here
  | finish i e row since here inTime => exact h.mark none here inTime
  | fail i e row since error here inTime => exact h.mark (some error) here inTime

theorem reachable_orderly {s : Traffic} (h : Reachable s) : Orderly s := by
  induction h with
  | start now =>
    constructor <;> simp [Traffic.number, Traffic.Owns]
  | next _ step ih => exact step_orderly step ih

/-- A finished event is refused, whoever claims it and whenever. -/
theorem Orderly.claim_finished {s : Traffic} (h : Orderly s) {v : Visit} (hv : v ∈ s.visits)
    (isFinished : v.progress.isFinished = true) (now : Instant) (id : Uuid) (e : GatewayEvent)
    (same : e.id.text = v.event.id.text) : (claimRow now id e s.rows).1 = none := by
  obtain ⟨r, hr, of, -⟩ := h.placed v hv
  obtain ⟨processed, noError⟩ := h.closed v hv isFinished r hr of
  have found : (s.rows.find? fun x => x.eventId == e.id.text) = some r := by
    rw [same, ← of]
    exact find?_key h.events hr
  simp [claimRow, found, mayReclaim, processed, noError]

/-- **One owner, one end.** However the deliveries interleave, an event has at most one row, and a row
as soon as it was claimed; at most one delivery holds a claim on it that is not marked and not older
than two minutes; at most one delivery finishes it, and every later claim is refused; and its row counts
the claims that have returned. -/
theorem event_exclusive {s : Traffic} (h : Reachable s) (eventId : String) :
    s.rows.countP (·.eventId == eventId) ≤ 1 ∧
    (∀ v ∈ s.visits, v.event.id.text = eventId → ∃ r ∈ s.rows, r.eventId = eventId) ∧
    (∀ i j, s.Owns i eventId → s.Owns j eventId → i = j) ∧
    s.number eventId Progress.isFinished ≤ 1 ∧
    (0 < s.number eventId Progress.isFinished → ∀ (now : Instant) (id : Uuid) (e : GatewayEvent),
      e.id.text = eventId → (claimRow now id e s.rows).1 = none) ∧
    ∀ r ∈ s.rows, r.eventId = eventId → r.deliveries = s.number eventId Progress.hasReturned := by
  have ok := reachable_orderly h
  refine ⟨?_, ?_, fun i j => ok.alone i j eventId, ok.once eventId, ?_, ?_⟩
  · have := List.nodup_iff_count_le_one.mp ok.events eventId
    simpa [List.count, List.countP_map, Function.comp_def] using this
  · rintro v hv rfl
    obtain ⟨r, hr, of, -⟩ := ok.placed v hv
    exact ⟨r, hr, of⟩
  · intro some_finished now id e same
    obtain ⟨v, hv, reached⟩ := List.countP_pos_iff.mp some_finished
    simp only [Visit.reaches, Bool.and_eq_true, beq_iff_eq] at reached
    exact ok.claim_finished hv reached.2 now id e (same.trans reached.1.symm)
  · rintro r hr rfl
    exact ok.counted r hr

/-- Two minutes and one second after a claim that was never marked, the second delivery owns the event
and the third is refused. -/
theorem event_exclusive_after_takeover :
    ∃ s : Traffic, Reachable s ∧ s.visits.length = 3 ∧ s.Owns 1 "evt_1" ∧
      ∀ i, s.Owns i "evt_1" → i = 1 := by
  let e : GatewayEvent := ⟨⟨"evt_1"⟩, "charge.refunded", .null⟩
  let s₀ : Traffic := ⟨⟨0, 0⟩, [newRow ⟨0, 0⟩ (.ofNat 1) e], [⟨e, .holding (.ofNat 1) ⟨0, 0⟩⟩]⟩
  have first : Reachable s₀ := .next (.start ⟨0, 0⟩) (.claim _ e (.ofNat 1) (by simp))
  have later := first.next (.wait _ ⟨121, 0⟩ (by decide))
  have second := later.next (.claim _ e (.ofNat 2) (by decide))
  have third := second.next (.claim _ e (.ofNat 3) (by decide))
  have counted := third.next (.count _ 2 e rfl)
  refine ⟨_, counted, rfl, ⟨e, .ofNat 1, ⟨121, 0⟩, rfl, rfl, by decide⟩, fun i h => ?_⟩
  exact (event_exclusive counted "evt_1").2.2.1 i 1 h ⟨e, .ofNat 1, ⟨121, 0⟩, rfl, rfl, by decide⟩

end HostingBilling.Ledger
