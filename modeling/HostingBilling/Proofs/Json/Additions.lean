import HostingBilling.Json.Shape
import Mathlib.Data.List.Basic

/-!
# Documents that grow

A gateway adds members to its documents as it likes, and gives a reference as a bare identifier or as the
whole object. A `Reading` says what is read of a document, and an `Edit` is one change that leaves what is read
as it is. A decoder is steady under a reading if it gives for a document and the edited one the same value or
the same complaint; here this is shown for the parts that the decoders of records are built from.
-/

namespace HostingBilling.Json

/-- What is decoded in two steps has been decoded in both. -/
theorem bind_eq_ok {ε α β : Type} {x : Except ε α} {f : α → Except ε β} {b : β} :
    (x >>= f) = .ok b ↔ ∃ a, x = .ok a ∧ f a = .ok b := by
  cases x with
  | error e => exact ⟨nofun, fun ⟨_, absurd, _⟩ => nomatch absurd⟩
  | ok a => exact ⟨fun h => ⟨a, rfl, h⟩, fun ⟨_, is, h⟩ => Except.ok.inj is ▸ h⟩

/-- What is read of a document. -/
inductive Reading where
  /-- All of it. -/
  | whole
  /-- A text, or the text that an object has under `id`. -/
  | reference
  /-- Each item of an array. -/
  | items (each : Reading)
  /-- The members of an object under these names; in an array, the items in this order. -/
  | record (fields : List (String × Reading))

/-- One change of a document that leaves what is read of it as it is. -/
inductive Edit : Reading → Json → Json → Prop
  /-- An object has one more member, under a name that is not read. -/
  | add {fields : List (String × Reading)} {key : String} (unread : key ∉ fields.map Prod.fst)
      (before after : List (String × Json)) (v : Json) :
      Edit (.record fields) (.object (before ++ after)) (.object (before ++ (key, v) :: after))
  /-- A reference that is an object has one more member. -/
  | enlarge {key : String} (unread : key ≠ "id") (before after : List (String × Json)) (v : Json) :
      Edit .reference (.object (before ++ after)) (.object (before ++ (key, v) :: after))
  /-- An object stands in the place of its identifier. -/
  | expand {s : String} {members : List (String × Json)} (id : members.lookup "id" = some (.text s)) :
      Edit .reference (.text s) (.object members)
  /-- The change is within a member that is read. -/
  | member {fields : List (String × Reading)} {key : String} {r : Reading} {v v' : Json}
      (read : fields.lookup key = some r) (inner : Edit r v v') (before after : List (String × Json)) :
      Edit (.record fields) (.object (before ++ (key, v) :: after)) (.object (before ++ (key, v') :: after))
  /-- The change is within an item of a record that is given as an array. -/
  | position {fields : List (String × Reading)} {key : String} {r : Reading} {v v' : Json}
      {before : List Json} (read : fields[before.length]? = some (key, r)) (inner : Edit r v v')
      (after : List Json) : Edit (.record fields) (.array (before ++ v :: after)) (.array (before ++ v' :: after))
  /-- The change is within an item of a list. -/
  | item {r : Reading} {v v' : Json} (inner : Edit r v v') (before after : List Json) :
      Edit (.items r) (.array (before ++ v :: after)) (.array (before ++ v' :: after))

/-- The decoder gives the same value or the same complaint before and after any edit. -/
def Steady {α : Type} (f : Decoder α) (r : Reading) : Prop := ∀ ⦃v v' : Json⦄, Edit r v v' → f v = f v'

variable {α β : Type} {f : Decoder α} {r : Reading} {v v' : Json}

theorem steady_whole (f : Decoder α) : Steady f .whole := fun _ _ h => nomatch h

/-- No edit begins or ends with null. -/
theorem Edit.ne_null (h : Edit r v v') : v ≠ .null ∧ v' ≠ .null := by
  cases h <;> exact ⟨nofun, nofun⟩

theorem asOptional_of_ne_null (f : Decoder α) (h : v ≠ .null) : asOptional f v = (f v).map some := by
  cases v with
  | null => exact absurd rfl h
  | _ => rfl

theorem Steady.asOptional (h : Steady f r) : Steady (Json.asOptional f) r := by
  intro v v' edit
  obtain ⟨before, after⟩ := edit.ne_null
  rw [asOptional_of_ne_null f before, asOptional_of_ne_null f after, h edit]

theorem Steady.asList (h : Steady f r) : Steady (Json.asList f) (.items r) := by
  intro v v' edit
  cases edit with
  | item inner before after => simp only [Json.asList, List.mapM_append, List.mapM_cons, h inner]

theorem Steady.check (h : Steady f r) (name : String) : Steady (field name f).check r :=
  fun _ _ edit => congrArg (Except.map fun _ => ()) (h edit)

theorem asText_eq_ok {v : Json} {s : String} : asText v = .ok s ↔ v = .text s := by
  constructor
  · intro h
    cases v <;> cases h
    rfl
  · rintro rfl
    rfl

theorem need_eq_ok {m : List (String × Json)} {name : String} {f : Decoder α} {a : α} :
    need m name f = .ok a ↔ ∃ v, m.lookup name = some v ∧ f v = .ok a := by
  unfold need
  cases m.lookup name with
  | none => exact ⟨nofun, fun ⟨_, absurd, _⟩ => nomatch absurd⟩
  | some v => exact ⟨fun h => ⟨v, rfl, h⟩, fun ⟨_, is, h⟩ => Option.some.inj is ▸ h⟩

/-! ## Records -/

/-- The fields of a shape are read, each in its place. -/
inductive Reads : List Field → List (String × Reading) → Prop
  | nil (rest : List (String × Reading)) : Reads [] rest
  | cons {f : Field} {fields : List Field} {r : Reading} {rest : List (String × Reading)}
      (steady : Steady f.check r) (more : Reads fields rest) :
      Reads (f :: fields) ((f.name, r) :: rest)

variable {s : Shape} {fields : List Field} {reading : List (String × Reading)} {key name : String}

/-- A field that is read whole. -/
theorem Reads.plain {f : Field} (more : Reads fields reading) : Reads (f :: fields) ((f.name, .whole) :: reading) :=
  .cons (steady_whole _) more

theorem Reads.find?_unread (h : Reads fields reading) (unread : key ∉ reading.map Prod.fst) :
    fields.find? (fun f => f.name == key) = none := by
  induction h with
  | nil => rfl
  | cons _ _ ih =>
    obtain ⟨other, rest⟩ := not_or.mp (fun h => unread (List.mem_cons.mpr h))
    rw [List.find?_cons_of_neg (by simpa using fun same => other same.symm)]
    exact ih rest

/-- The check of a field is steady under what is read of it. -/
theorem Reads.find?_read (h : Reads fields reading) {f : Field}
    (found : fields.find? (fun f => f.name == key) = some f) (read : reading.lookup key = some r) :
    Steady f.check r := by
  induction h with
  | nil => cases found
  | @cons g _ _ _ steady _ ih =>
    by_cases is : g.name = key
    · rw [List.find?_cons_of_pos (by simpa using is)] at found
      rw [is, List.lookup_cons_self] at read
      cases found
      cases read
      exact steady
    · have other : (key == g.name) = false := by simpa using fun same => is same.symm
      rw [List.find?_cons_of_neg (by simpa using is)] at found
      rw [List.lookup_cons, other] at read
      exact ih found read

/-- The members that one document has under the names that are read are those of the other, up to edits. -/
def Akin (reading : List (String × Reading)) (m m' : List (String × Json)) : Prop :=
  ∀ name r, reading.lookup name = some r → m.lookup name = m'.lookup name ∨
    ∃ v v', m.lookup name = some v ∧ m'.lookup name = some v' ∧ Edit r v v'

theorem lookup_middle (before after : List (String × Json)) (key : String) (v : Json) (name : String) :
    (before ++ (key, v) :: after).lookup name =
      (before.lookup name).or (if name = key then some v else after.lookup name) := by
  rw [List.lookup_append, List.lookup_cons]
  by_cases h : name = key
  · simp [h]
  · simp [h, beq_eq_false_iff_ne.mpr h]

theorem lookup_add (other : name ≠ key) (before after : List (String × Json)) (v : Json) :
    (before ++ (key, v) :: after).lookup name = (before ++ after).lookup name := by
  rw [lookup_middle, if_neg other, List.lookup_append]

theorem mem_names_of_lookup (read : reading.lookup name = some r) : name ∈ reading.map Prod.fst := by
  induction reading with
  | nil => cases read
  | cons entry rest ih =>
    rw [List.lookup_cons] at read
    split at read
    · next is => exact List.mem_cons.mpr (.inl (beq_iff_eq.mp is))
    · exact List.mem_cons_of_mem _ (ih read)

theorem akin_add (unread : key ∉ reading.map Prod.fst) (before after : List (String × Json)) (v : Json) :
    Akin reading (before ++ after) (before ++ (key, v) :: after) := by
  intro name r read
  have other : name ≠ key := fun same => unread (same ▸ mem_names_of_lookup read)
  exact .inl (lookup_add other before after v).symm

theorem akin_member (read : reading.lookup key = some r) (inner : Edit r v v')
    (before after : List (String × Json)) :
    Akin reading (before ++ (key, v) :: after) (before ++ (key, v') :: after) := by
  intro name r' read'
  rw [lookup_middle, lookup_middle]
  by_cases is : name = key
  · subst is
    obtain rfl : r' = r := Option.some.inj (read'.symm.trans read)
    cases before.lookup name with
    | some _ => exact .inl rfl
    | none => exact .inr ⟨v, v', by simp, by simp, inner⟩
  · rw [if_neg is, if_neg is]
    exact .inl rfl

/-- A member that is read is there before and after an edit, itself the same or edited. -/
theorem Edit.member? (h : Edit (.record reading) v v') (read : reading.lookup name = some r) :
    v.member? name = v'.member? name ∨
      ∃ x x', v.member? name = some x ∧ v'.member? name = some x' ∧ Edit r x x' := by
  cases h with
  | add unread before after x => exact akin_add unread before after x name r read
  | member read' inner before after => exact akin_member read' inner before after name r read
  | position => exact .inl rfl

section akin

variable {m m' : List (String × Json)} (h : Akin reading m m') (name : String)
  (read : reading.lookup name = some r) (steady : Steady f r)

include h read steady

theorem Akin.need : need m name f = need m' name f := by
  unfold Json.need
  rcases h name r read with same | ⟨v, v', before, after, edit⟩
  · rw [same]
  · rw [before, after]
    exact steady edit

theorem Akin.needOr (default : α) : needOr m name f default = needOr m' name f default := by
  unfold Json.needOr
  rcases h name r read with same | ⟨v, v', before, after, edit⟩
  · rw [same]
  · rw [before, after]
    exact steady edit

theorem Akin.optional : optional m name f = optional m' name f := h.needOr name read steady.asOptional none

end akin

namespace Shape

theorem checkMembers_append (s : Shape) (before after : List (String × Json)) :
    s.checkMembers (before ++ after) = (do s.checkMembers before; s.checkMembers after) := by
  induction before with
  | nil => rfl
  | cons entry rest ih =>
    simp only [List.cons_append, checkMembers, ih]
    split
    · rw [bind_assoc]
    · rfl

theorem checkMembers_add (reads : Reads s.fields reading) (unread : key ∉ reading.map Prod.fst)
    (before after : List (String × Json)) (v : Json) :
    s.checkMembers (before ++ (key, v) :: after) = s.checkMembers (before ++ after) := by
  rw [checkMembers_append, checkMembers_append, checkMembers, reads.find?_unread unread]

theorem checkMembers_member (reads : Reads s.fields reading) (read : reading.lookup key = some r)
    (inner : Edit r v v') (before after : List (String × Json)) :
    s.checkMembers (before ++ (key, v) :: after) = s.checkMembers (before ++ (key, v') :: after) := by
  rw [checkMembers_append, checkMembers_append, checkMembers, checkMembers]
  cases found : s.fields.find? fun f => f.name == key with
  | none => rfl
  | some f => simp only [reads.find?_read found read inner]

/-- Two readings of a record that end alike: with the same complaint, or with members that are akin. -/
def Alike (reading : List (String × Reading)) (a b : Except String (List (String × Json))) : Prop :=
  (∃ e, a = .error e ∧ b = .error e) ∨ ∃ m m', a = .ok m ∧ b = .ok m' ∧ Akin reading m m'

theorem Alike.of_eq {a b : Except String (List (String × Json))} (h : a = b) : Alike reading a b := by
  subst h
  cases a with
  | error e => exact .inl ⟨e, rfl, rfl⟩
  | ok m => exact .inr ⟨m, m, rfl, rfl, fun _ _ _ => .inl rfl⟩

/-- Pairing goes on past an item in its own place. -/
theorem Alike.cons {rest : List (String × Reading)} {a b : Except String (List (String × Json))}
    (h : Alike rest a b) (name : String) (r : Reading) (x : Json) : Alike ((name, r) :: rest)
      (do return (name, x) :: (← a)) (do return (name, x) :: (← b)) := by
  obtain ⟨e, rfl, rfl⟩ | ⟨m, m', rfl, rfl, akin⟩ := h
  · exact .inl ⟨e, rfl, rfl⟩
  · refine .inr ⟨_, _, rfl, rfl, fun other r' read => ?_⟩
    by_cases is : other = name
    · subst is
      exact .inl (by rw [List.lookup_cons_self, List.lookup_cons_self])
    · rw [List.lookup_cons, beq_eq_false_iff_ne.mpr is] at read ⊢
      rw [List.lookup_cons, beq_eq_false_iff_ne.mpr is]
      exact akin other r' read

theorem pairItems_position (s : Shape) (count : Nat) (reads : Reads fields reading) {before : List Json}
    (read : reading[before.length]? = some (key, r)) (inner : Edit r v v') (after : List Json) :
    Alike reading (s.pairItems count fields (before ++ v :: after))
      (s.pairItems count fields (before ++ v' :: after)) := by
  induction reads generalizing before with
  | nil rest => cases before <;> exact .of_eq rfl
  | @cons f fields r₀ rest steady _ ih =>
    cases before with
    | nil =>
      cases read
      simp only [List.nil_append, pairItems, steady inner]
      cases f.check v' with
      | error e => exact .of_eq rfl
      | ok _ =>
        cases s.pairItems count fields after with
        | error e => exact .of_eq rfl
        | ok m => exact .inr ⟨_, _, rfl, rfl, akin_member List.lookup_cons_self inner [] m⟩
    | cons x before =>
      simp only [List.cons_append, pairItems]
      cases f.check x with
      | error e => exact .of_eq rfl
      | ok _ => exact (ih read).cons f.name r₀ x

theorem read_alike (reads : Reads s.fields reading) (edit : Edit (.record reading) v v') :
    Alike reading (s.read v) (s.read v') := by
  cases edit with
  | add unread before after x =>
    simp only [read, checkMembers_add reads unread]
    cases s.checkMembers (before ++ after) with
    | error e => exact .of_eq rfl
    | ok _ => exact .inr ⟨_, _, rfl, rfl, akin_add unread before after x⟩
  | @member _ key _ x x' read inner before after =>
    simp only [Shape.read, checkMembers_member reads read inner]
    cases s.checkMembers (before ++ (key, x') :: after) with
    | error e => exact .of_eq rfl
    | ok _ => exact .inr ⟨_, _, rfl, rfl, akin_member read inner before after⟩
  | position read inner after =>
    simp only [Shape.read, List.length_append, List.length_cons]
    exact pairItems_position s _ reads read inner after

end Shape

/-- A record is read alike from a document and an edited one if what is built from its members depends only on
those that are read. -/
theorem steady_record (reads : Reads s.fields reading) {build : List (String × Json) → Except String α}
    (depends : ∀ m m', Akin reading m m' → build m = build m') :
    Steady (fun v => s.read v >>= build) (.record reading) := by
  intro v v' edit
  change s.read v >>= build = s.read v' >>= build
  obtain ⟨e, before, after⟩ | ⟨m, m', before, after, akin⟩ := Shape.read_alike reads edit
  · rw [before, after]
  · rw [before, after]
    exact depends m m' akin

end HostingBilling.Json
