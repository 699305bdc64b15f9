import HostingBilling.Instant.Text
import HostingBilling.Store

/-!
# Columns

A column is one field of a row as it stands in a document: how it is shown, and how a value is put in
its place. A value of the wrong kind leaves the field as it was.
-/

namespace HostingBilling

structure Column (ρ : Type) where
  name : String
  display : ρ → Json
  put : Json → ρ → ρ

namespace Column

variable {ρ : Type}

/-- A column of values that a partial reader takes back. -/
def of (encode : α → Json) (decode : Json → Option α) (name : String) (get : ρ → α)
    (set : α → ρ → ρ) : Column ρ where
  name
  display r := encode (get r)
  put v r := match decode v with
    | some a => set a r
    | none => r

def textOf? : Json → Option String
  | .text s => some s
  | _ => none

def intOf? : Json → Option Int
  | .int n => some n
  | _ => none

def flagOf? : Json → Option Bool
  | .bool b => some b
  | _ => none

def uuidOf? (v : Json) : Option Uuid := (textOf? v).bind Uuid.parse?

def instantOf? (v : Json) : Option Instant := (textOf? v).bind Instant.parse?

def ofInstant (t : Instant) : Json := .text t.toZuluText

/-- Null for nothing. -/
def optional? (decode : Json → Option α) : Json → Option (Option α)
  | .null => some none
  | v => (decode v).map some

def text : String → (ρ → String) → (String → ρ → ρ) → Column ρ := of .text textOf?

def int : String → (ρ → Int) → (Int → ρ → ρ) → Column ρ := of .int intOf?

def flag : String → (ρ → Bool) → (Bool → ρ → ρ) → Column ρ := of .bool flagOf?

def uuid : String → (ρ → Uuid) → (Uuid → ρ → ρ) → Column ρ := of Uuid.encode uuidOf?

def instant : String → (ρ → Instant) → (Instant → ρ → ρ) → Column ρ := of ofInstant instantOf?

/-- A whole document as a field. -/
def document : String → (ρ → Json) → (Json → ρ → ρ) → Column ρ := of id some

def text? : String → (ρ → Option String) → (Option String → ρ → ρ) → Column ρ :=
  of (Json.ofOption .text) (optional? textOf?)

def uuid? : String → (ρ → Option Uuid) → (Option Uuid → ρ → ρ) → Column ρ :=
  of (Json.ofOption Uuid.encode) (optional? uuidOf?)

def instant? : String → (ρ → Option Instant) → (Option Instant → ρ → ρ) → Column ρ :=
  of (Json.ofOption ofInstant) (optional? instantOf?)

/-- One of several values, by its name. -/
def named (all : List α) (toName : α → String) :
    String → (ρ → α) → (α → ρ → ρ) → Column ρ :=
  of (fun a => .text (toName a)) fun v => (textOf? v).bind fun s => all.find? fun a => toName a == s

end Column

/-- A row as an object. -/
def rowDocument (columns : List (Column ρ)) (r : ρ) : Json :=
  .ofMembers (columns.map fun c => (c.name, c.display r))

/-- Puts the members that name a column over the fields of a row. -/
def putMembers (columns : List (Column ρ)) (v : Json) (r : ρ) : ρ :=
  columns.foldl (fun r c => match v.member? c.name with
    | some a => c.put a r
    | none => r) r

end HostingBilling
