import HostingBilling.Proofs.Json.Additions
import Mathlib.Data.List.Forall2

/-!
# What a decoder accepts

A decoder runs through a document and complains of the first thing that does not fit. Here it is said of a
document, without running anything, what it means as a record: which values it has under which names, and of
which kinds they are. Main statement: a record is read exactly if all its values are of their kinds, and then
what is read are its values.
-/

namespace HostingBilling.Json

/-! ## Single values -/

/-- The decoder gives exactly what a document means. -/
def Means {α : Type} (f : Decoder α) (R : Json → α → Prop) : Prop := ∀ v a, f v = .ok a ↔ R v a

def Says (v : Json) (s : String) : Prop := v = .text s

/-- A whole number of 64 bits. -/
def Counts (v : Json) (n : Int) : Prop := v = .int n ∧ n < 0x8000000000000000

/-- The documents that mean something. -/
def Kind {α : Type} (R : Json → α → Prop) (v : Json) : Prop := ∃ a, R v a

/-- Null means nothing, and any other document what it means. -/
inductive Optionally {α : Type} (R : Json → α → Prop) : Json → Option α → Prop
  | null : Optionally R .null none
  | value {v : Json} {a : α} (there : v ≠ .null) (means : R v a) : Optionally R v (some a)

/-- What may be missing means nothing then. -/
inductive Perhaps {α : Type} (R : Json → α → Prop) : Option Json → Option α → Prop
  | missing : Perhaps R none none
  | given {v : Json} {o : Option α} (means : Optionally R v o) : Perhaps R (some v) o

variable {α β : Type} {f : Decoder α} {R : Json → α → Prop}

theorem asText_means : Means asText Says := fun _ _ => asText_eq_ok

theorem asInteger_means : Means asInteger Counts := by
  intro v n
  cases v with
  | int m =>
    by_cases fits : m < 0x8000000000000000
    · rw [asInteger, if_pos fits]
      refine ⟨fun is => ?_, fun is => ?_⟩
      · cases is
        exact ⟨rfl, fits⟩
      · cases is.1
        rfl
    · rw [asInteger, if_neg fits]
      refine ⟨nofun, fun is => ?_⟩
      cases is.1
      exact absurd is.2 fits
  | null | bool | double | text | array | object => exact ⟨nofun, fun is => nomatch is.1⟩

theorem Means.asOptional (h : Means f R) : Means (asOptional f) (Optionally R) := by
  intro v o
  by_cases null : v = .null
  · subst null
    refine ⟨fun is => ?_, fun is => ?_⟩
    · cases is
      exact .null
    · cases is with
      | null => rfl
      | value there => exact absurd rfl there
  · rw [asOptional_of_ne_null f null]
    refine ⟨fun is => ?_, fun is => ?_⟩
    · cases read : f v with
      | error e =>
        rw [read] at is
        cases is
      | ok a =>
        rw [read] at is
        cases is
        exact .value null ((h v a).mp read)
    · cases is with
      | null => exact absurd rfl null
      | value _ means => rw [(h v _).mpr means]; rfl

theorem Means.mapM (h : Means f R) {items : List Json} {as : List α} :
    items.mapM f = .ok as ↔ List.Forall₂ R items as := by
  induction items generalizing as with
  | nil =>
    rw [List.mapM_nil, List.forall₂_nil_left_iff]
    exact ⟨fun is => by cases is; rfl, fun is => is ▸ rfl⟩
  | cons v rest ih =>
    rw [List.mapM_cons, bind_eq_ok]
    constructor
    · rintro ⟨a, first, more⟩
      obtain ⟨as, others, is⟩ := bind_eq_ok.mp more
      cases is
      exact .cons ((h v a).mp first) (ih.mp others)
    · intro all
      cases all with
      | cons first others => exact ⟨_, (h v _).mpr first, bind_eq_ok.mpr ⟨_, ih.mpr others, rfl⟩⟩

/-- A list of documents means what these mean. -/
def Lists (R : Json → α → Prop) (v : Json) (as : List α) : Prop :=
  ∃ items, v = .array items ∧ List.Forall₂ R items as

theorem Means.asList (h : Means f R) : Means (asList f) (Lists R) := by
  intro v as
  cases v with
  | array items =>
    refine h.mapM.trans ⟨fun all => ⟨items, rfl, all⟩, ?_⟩
    rintro ⟨_, ⟨⟩, all⟩
    exact all
  | null | bool | int | double | text | object => exact ⟨nofun, fun ⟨_, is, _⟩ => nomatch is⟩

theorem Means.need (h : Means f R) {m : List (String × Json)} {name : String} {a : α} :
    need m name f = .ok a ↔ ∃ v, m.lookup name = some v ∧ R v a := by
  rw [need_eq_ok]
  exact exists_congr fun v => and_congr_right fun _ => h v a

theorem Means.optional (h : Means f R) {m : List (String × Json)} {name : String} {o : Option α} :
    optional m name f = .ok o ↔ Perhaps R (m.lookup name) o := by
  unfold Json.optional needOr
  cases m.lookup name with
  | none =>
    refine ⟨fun is => ?_, fun is => ?_⟩
    · cases is
      exact .missing
    · cases is
      rfl
  | some v => exact (h.asOptional v o).trans ⟨.given, fun | .given means => means⟩

/-! ### What is made of the values -/

section made

variable {g : α → β} {S : Json → β → Prop} (made : ∀ {v : Json} {b : β}, (∃ a, R v a ∧ g a = b) ↔ S v b)

include made

theorem lists_made {v : Json} {bs : List β} : (∃ as, Lists R v as ∧ as.map g = bs) ↔ Lists S v bs := by
  constructor
  · rintro ⟨as, ⟨items, rfl, all⟩, rfl⟩
    exact ⟨items, rfl, List.forall₂_map_right_iff.mpr (all.imp fun v a means => made.mp ⟨a, means, rfl⟩)⟩
  · rintro ⟨items, rfl, all⟩
    obtain ⟨as, means, is⟩ : ∃ as, List.Forall₂ R items as ∧ as.map g = bs := by
      induction all with
      | nil => exact ⟨[], .nil, rfl⟩
      | cons first _ ih =>
        obtain ⟨a, means, rfl⟩ := made.mpr first
        obtain ⟨as, others, rfl⟩ := ih
        exact ⟨a :: as, .cons means others, rfl⟩
    exact ⟨as, ⟨items, rfl, means⟩, is⟩

theorem kind_made {v : Json} : Kind R v ↔ Kind S v :=
  ⟨fun ⟨a, means⟩ => ⟨g a, made.mp ⟨a, means, rfl⟩⟩, fun ⟨_, means⟩ =>
    let ⟨a, means, _⟩ := made.mpr means
    ⟨a, means⟩⟩

theorem optionally_made {v : Json} {o : Option β} :
    (∃ raw, Optionally R v raw ∧ raw.map g = o) ↔ Optionally S v o := by
  constructor
  · rintro ⟨_, _ | ⟨there, means⟩, rfl⟩
    · exact .null
    · exact .value there (made.mp ⟨_, means, rfl⟩)
  · rintro (_ | ⟨there, meant⟩)
    · exact ⟨none, .null, rfl⟩
    · obtain ⟨a, means, rfl⟩ := made.mpr meant
      exact ⟨some a, .value there means, rfl⟩

end made

/-- A text that may be missing. -/
theorem perhaps_text {o : Option Json} {text? : Option String} : Perhaps Says o text? ↔
    o = none ∧ text? = none ∨ o = some .null ∧ text? = none ∨ ∃ s, o = some (.text s) ∧ text? = some s := by
  constructor
  · rintro (_ | ⟨_ | ⟨_, rfl⟩⟩)
    · exact .inl ⟨rfl, rfl⟩
    · exact .inr (.inl ⟨rfl, rfl⟩)
    · exact .inr (.inr ⟨_, rfl, rfl⟩)
  · rintro (⟨rfl, rfl⟩ | ⟨rfl, rfl⟩ | ⟨s, rfl, rfl⟩)
    · exact .missing
    · exact .given .null
    · exact .given (.value nofun rfl)

/-! ## Records -/

/-- The values of a record by name. One that is written as a list has them in the order of the names. -/
def entries (names : List String) : Json → List (String × Json)
  | object members => members
  | array items => names.zip items
  | _ => []

/-- A kind of value for each of some names. -/
abbrev Kinds := List (String × (Json → Prop))

/-- What a record of these kinds has under a name. -/
def given (kinds : Kinds) (name : String) (v : Json) : Option Json :=
  (v.entries (kinds.map (·.1))).lookup name

/-- A record with values of these kinds: an object whose members under these names are of their kinds, whatever
others there are, or a list of one value of each kind. -/
inductive IsRecord (kinds : Kinds) : Json → Prop
  | object {members : List (String × Json)}
      (fit : ∀ m ∈ members, ∀ kind, kinds.lookup m.1 = some kind → kind m.2) : IsRecord kinds (.object members)
  | array {items : List Json} (fit : List.Forall₂ (fun k v => k.2 v) kinds items) : IsRecord kinds (.array items)

variable {kinds : Kinds} {kind : Json → Prop} {name : String} {v x : Json}

/-- What a record has under a name is of its kind. -/
theorem IsRecord.fits (record : v.IsRecord kinds) (has : v.given kinds name = some x)
    (is : kinds.lookup name = some kind) : kind x := by
  cases record with
  | @object members fit =>
    obtain ⟨before, after, there, -⟩ := List.lookup_eq_some_iff.mp has
    have among : (name, x) ∈ members :=
      (show members = _ from there) ▸ List.mem_append_right before List.mem_cons_self
    exact fit (name, x) among kind is
  | @array items fit =>
    change ((kinds.map (·.1)).zip items).lookup name = some x at has
    induction fit with
    | nil => cases is
    | @cons k y kinds items first _ ih =>
      rw [List.map_cons, List.zip_cons_cons, List.lookup_cons] at has
      rw [List.lookup_cons] at is
      cases same : name == k.1 with
      | true =>
        simp only [same] at has is
        cases has
        cases is
        exact first
      | false =>
        simp only [same] at has is
        exact ih is has

/-- What may be missing from a record means something. -/
theorem IsRecord.perhaps (record : v.IsRecord kinds)
    (is : kinds.lookup name = some (Kind (Optionally R))) :
    ∃ o, Perhaps R (v.given kinds name) o := by
  cases has : v.given kinds name with
  | none => exact ⟨none, .missing⟩
  | some x =>
    obtain ⟨o, means⟩ := record.fits has is
    exact ⟨o, .given means⟩

/-- The fields of a shape check for these kinds. -/
inductive Checks : List Field → Kinds → Prop
  | nil : Checks [] []
  | cons {f : Field} {kind : Json → Prop} {fields : List Field} {kinds : Kinds}
      (check : ∀ v, f.check v = .ok () ↔ kind v) (more : Checks fields kinds) :
      Checks (f :: fields) ((f.name, kind) :: kinds)

variable {s : Shape} {fields : List Field}

theorem Means.check (h : Means f R) (name : String) (v : Json) :
    (field name f).check v = .ok () ↔ Kind R v := by
  simp only [field]
  cases read : f v with
  | error e =>
    refine ⟨nofun, fun ⟨a, means⟩ => ?_⟩
    rw [(h v a).mpr means] at read
    cases read
  | ok a => exact ⟨fun _ => ⟨a, (h v a).mp read⟩, fun _ => rfl⟩

/-- One more field. -/
theorem Checks.field (h : Means f R) (name : String) (more : Checks fields kinds) :
    Checks (field name f :: fields) ((name, Kind R) :: kinds) :=
  .cons (h.check name) more

theorem Checks.find? (h : Checks fields kinds) (key : String) :
    fields.find? (fun f => f.name == key) = none ∧ kinds.lookup key = none ∨
      ∃ f kind, fields.find? (fun f => f.name == key) = some f ∧ kinds.lookup key = some kind ∧
        ∀ v, f.check v = .ok () ↔ kind v := by
  induction h with
  | nil => exact .inl ⟨rfl, rfl⟩
  | @cons f kind fields kinds check _ ih =>
    by_cases is : f.name = key
    · exact .inr ⟨f, kind, List.find?_cons_of_pos (by simpa using is), is ▸ List.lookup_cons_self, check⟩
    · have other : (key == f.name) = false := by simpa using fun same => is same.symm
      rw [List.find?_cons_of_neg (by simpa using is), List.lookup_cons, other]
      exact ih

theorem checkMembers_eq_ok (h : Checks s.fields kinds) {members : List (String × Json)} :
    s.checkMembers members = .ok () ↔ ∀ m ∈ members, ∀ kind, kinds.lookup m.1 = some kind → kind m.2 := by
  induction members with
  | nil => exact ⟨fun _ _ hm => (List.not_mem_nil hm).elim, fun _ => rfl⟩
  | cons m rest ih =>
    obtain ⟨key, v⟩ := m
    rw [Shape.checkMembers, List.forall_mem_cons]
    rcases h.find? key with ⟨unknown, none_⟩ | ⟨f, kind, known, is, check⟩
    · rw [unknown]
      refine ih.trans ⟨fun all => ⟨fun kind is => ?_, all⟩, And.right⟩
      rw [none_] at is
      cases is
    · rw [known]
      dsimp only
      rw [bind_eq_ok]
      constructor
      · rintro ⟨_, first, others⟩
        refine ⟨fun kind' is' => ?_, ih.mp others⟩
        cases is.symm.trans is'
        exact (check v).mp first
      · rintro ⟨first, others⟩
        exact ⟨(), (check v).mpr (first kind is), ih.mpr others⟩

theorem pairItems_eq_ok (h : Checks fields kinds) (needed : fields.all (!·.defaulted) = true) (count : Nat)
    {items : List Json} {m : List (String × Json)} : s.pairItems count fields items = .ok m ↔
      List.Forall₂ (fun k v => k.2 v) kinds items ∧ m = (kinds.map (·.1)).zip items := by
  induction h generalizing items m with
  | nil =>
    cases items with
    | nil => exact ⟨fun is => ⟨.nil, by cases is; rfl⟩, fun is => is.2 ▸ rfl⟩
    | cons v rest =>
      constructor
      · rintro ⟨⟩
      · rintro ⟨⟨⟩, -⟩
  | @cons f kind fields kinds check _ ih =>
    obtain ⟨needs, more⟩ := Bool.and_eq_true_iff.mp (List.all_cons.symm.trans needed)
    have needs : f.defaulted = false := by simpa using needs
    cases items with
    | nil =>
      rw [Shape.pairItems, needs]
      constructor
      · rintro ⟨⟩
      · rintro ⟨⟨⟩, -⟩
    | cons v rest =>
      rw [Shape.pairItems, bind_eq_ok]
      constructor
      · rintro ⟨_, first, read⟩
        obtain ⟨m', others, is⟩ := bind_eq_ok.mp read
        cases is
        obtain ⟨all, rfl⟩ := (ih more).mp others
        exact ⟨.cons ((check v).mp first) all, rfl⟩
      · rintro ⟨all, rfl⟩
        cases all with
        | cons first others =>
          exact ⟨(), (check v).mpr first, bind_eq_ok.mpr ⟨_, (ih more).mpr ⟨others, rfl⟩, rfl⟩⟩

theorem read_object_eq_ok (h : Checks s.fields kinds) {members m : List (String × Json)} :
    s.read (.object members) = .ok m ↔ (object members).IsRecord kinds ∧ m = members := by
  rw [Shape.read, bind_eq_ok]
  constructor
  · rintro ⟨_, checked, is⟩
    cases is
    exact ⟨.object ((checkMembers_eq_ok h).mp checked), rfl⟩
  · rintro ⟨⟨fit⟩, rfl⟩
    exact ⟨(), (checkMembers_eq_ok h).mpr fit, rfl⟩

/-- **A record is read exactly if its values are of their kinds.** What is read are its values. -/
theorem read_eq_ok (h : Checks s.fields kinds) (needed : s.fields.all (!·.defaulted) = true)
    {m : List (String × Json)} :
    s.read v = .ok m ↔ v.IsRecord kinds ∧ m = v.entries (kinds.map (·.1)) := by
  cases v with
  | object members => exact read_object_eq_ok h
  | array items =>
    rw [Shape.read, pairItems_eq_ok h needed]
    refine and_congr_left fun _ => ⟨.array, fun record => ?_⟩
    cases record with
    | array fit => exact fit
  | null | bool | int | double | text =>
    constructor
    · rintro ⟨⟩
    · rintro ⟨⟨⟩, -⟩

/-- What is built of a record is built of its values. -/
theorem read_bind_eq_ok (h : Checks s.fields kinds) (needed : s.fields.all (!·.defaulted) = true)
    {build : List (String × Json) → Except String β} {b : β} :
    (s.read v >>= build) = .ok b ↔ v.IsRecord kinds ∧ build (v.entries (kinds.map (·.1))) = .ok b := by
  rw [bind_eq_ok]
  constructor
  · rintro ⟨m, read, built⟩
    obtain ⟨record, rfl⟩ := (read_eq_ok h needed).mp read
    exact ⟨record, built⟩
  · rintro ⟨record, built⟩
    exact ⟨_, (read_eq_ok h needed).mpr ⟨record, rfl⟩, built⟩

end HostingBilling.Json
