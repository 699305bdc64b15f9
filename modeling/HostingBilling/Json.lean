import HostingBilling.Double

/-!
# Documents

Gateway events, task payloads and stored details are documents. A number is an integer where 64 bits
hold it and else a double. The members of an object stand in ascending order of their keys, each key
once: `insert` keeps that order and lets the later value win.
-/

namespace HostingBilling

inductive Json where
  | null
  | bool (value : Bool)
  | int (value : Int)
  | double (value : Double)
  | text (value : String)
  | array (items : List Json)
  | object (members : List (String × Json))
  deriving Inhabited, Repr

namespace Json

/-- Puts a member in its place by key, over any earlier member of that key. -/
def insert (key : String) (value : Json) : List (String × Json) → List (String × Json)
  | [] => [(key, value)]
  | (k, v) :: rest =>
    if key < k then (key, value) :: (k, v) :: rest
    else if key = k then (key, value) :: rest
    else (k, v) :: insert key value rest

/-- An object from members in any order. The last member of a key wins. -/
def ofMembers (members : List (String × Json)) : Json :=
  object (members.foldl (fun acc m => insert m.1 m.2 acc) [])

/-- The member of a key. -/
def member? (key : String) : Json → Option Json
  | object members => members.lookup key
  | _ => none

/-- The members of one object laid over those of another, key by key. -/
def overlay (base added : List (String × Json)) : List (String × Json) :=
  added.foldl (fun acc m => insert m.1 m.2 acc) base

def ofOption (f : α → Json) : Option α → Json
  | none => null
  | some a => f a

end Json

end HostingBilling
