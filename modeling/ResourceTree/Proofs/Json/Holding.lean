import Mathlib.Data.List.Perm.Basic
import ResourceTree.Json.Reader
import ResourceTree.Proofs.Dictionary
import ResourceTree.Proofs.Json.Documents

/-!
# Documents that hold a value

A document holds a value if nothing in it breaks off and it has the parts of the value, the members of
an object in any order. The text of a value and the value itself, with its members sorted, are such
documents, so what a reader makes of every document that holds a value it makes of both.
-/

namespace ResourceTree.Json
set_option autoImplicit false

/-- Nothing breaks off. -/
def Ending.Sound : Ending → Prop
  | .broken _ => False
  | _ => True

mutual

inductive Document.Holds : Document → Value → Prop where
  | null : Holds .null .null
  | bool (b : Bool) : Holds (.bool b) (.bool b)
  | number (n : Number) : Holds (.number (.ok n)) (.number n)
  | text (s : String) : Holds (.text (.ok s)) (.text s)
  | array {ds : List Document} {vs : List Value} {e : Ending} (sound : e.Sound)
    (items : HoldsItems ds vs) : Holds (.array false ds e) (.array vs)
  | object {found order : List (Except Fault String × Document)} {members : List (String × Value)}
    {e : Ending} (sound : e.Sound) (perm : found.Perm order) (each : HoldsMembers order members) :
    Holds (.object false found e) (.object members)

inductive Document.HoldsItems : List Document → List Value → Prop where
  | nil : HoldsItems [] []
  | cons {d : Document} {v : Value} {ds : List Document} {vs : List Value} (head : d.Holds v)
    (tail : HoldsItems ds vs) : HoldsItems (d :: ds) (v :: vs)

inductive Document.HoldsMembers : List (Except Fault String × Document) → List (String × Value) →
    Prop where
  | nil : HoldsMembers [] []
  | cons {k : String} {d : Document} {v : Value} {order : List (Except Fault String × Document)}
    {members : List (String × Value)} (head : d.Holds v) (tail : HoldsMembers order members) :
    HoldsMembers ((.ok k, d) :: order) ((k, v) :: members)

end

namespace Document

/-! ## Parts -/

/-- Documents hold a list of values one by one. -/
theorem holdsItems_iff {ds : List Document} {vs : List Value} :
    HoldsItems ds vs ↔ List.Forall₂ Holds ds vs := by
  constructor
  · intro items
    induction vs generalizing ds with
    | nil => cases items; exact .nil
    | cons v vs ih =>
      cases items with
      | cons head tail => exact .cons head (ih tail)
  · intro each
    induction each with
    | nil => exact .nil
    | cons head _ ih => exact .cons head ih

/-- A member has a key and holds a value. -/
def HoldsMember (found : Except Fault String × Document) (member : String × Value) : Prop :=
  found.1 = .ok member.1 ∧ found.2.Holds member.2

/-- Members hold a list of keys and values one by one. -/
theorem holdsMembers_iff {order : List (Except Fault String × Document)}
    {members : List (String × Value)} :
    HoldsMembers order members ↔ List.Forall₂ HoldsMember order members := by
  constructor
  · intro each
    induction members generalizing order with
    | nil => cases each; exact .nil
    | cons m members ih =>
      cases each with
      | cons head tail => exact .cons ⟨rfl, head⟩ (ih tail)
  · intro each
    induction each with
    | nil => exact .nil
    | @cons found member _ _ head _ ih =>
      obtain ⟨key, d⟩ := found
      obtain ⟨rfl, holds⟩ := head
      exact .cons holds ih

/-- The order of its members does not change how deep an object nests. -/
theorem depthMembers_perm {found order : List (Except Fault String × Document)}
    (perm : found.Perm order) : depthMembers found = depthMembers order := by
  induction perm with
  | nil => rfl
  | cons m _ ih => rw [depthMembers, depthMembers, ih]
  | swap m m' rest =>
    simp only [depthMembers]
    omega
  | trans _ _ ih ih' => rw [ih, ih']

mutual

/-- A document that holds a value nests as deep as the value. -/
theorem Holds.depth_eq {d : Document} (v : Value) (holds : d.Holds v) :
    d.depth = (ofValue v).depth := by
  match v, holds with
  | .null, .null => rfl
  | .bool _, .bool _ => rfl
  | .number _, .number _ => rfl
  | .text _, .text _ => rfl
  | .array vs, .array _ items =>
    rw [ofValue, depth, depth, HoldsItems.depth_eq vs items]
  | .object members, .object _ perm each =>
    rw [ofValue, depth, depth, depthMembers_perm perm, HoldsMembers.depth_eq members each]

theorem HoldsItems.depth_eq {ds : List Document} (vs : List Value) (items : HoldsItems ds vs) :
    depthItems ds = depthItems (ofItems vs) := by
  match vs, items with
  | [], .nil => rfl
  | v :: vs, .cons head tail =>
    rw [ofItems, depthItems, depthItems, Holds.depth_eq v head, HoldsItems.depth_eq vs tail]

theorem HoldsMembers.depth_eq {order : List (Except Fault String × Document)}
    (members : List (String × Value)) (each : HoldsMembers order members) :
    depthMembers order = depthMembers (ofMembers members) := by
  match members, each with
  | [], .nil => rfl
  | (k, v) :: members, .cons head tail =>
    rw [ofMembers, depthMembers, depthMembers, Holds.depth_eq v head,
      HoldsMembers.depth_eq members tail]

end

/-- A member nests no deeper than all members together. -/
theorem depth_le_of_mem {k : String} {v : Value} {members : List (String × Value)}
    (member : (k, v) ∈ members) : (ofValue v).depth ≤ depthMembers (ofMembers members) := by
  induction members with
  | nil => cases member
  | cons m members ih =>
    rw [ofMembers, depthMembers]
    rcases List.mem_cons.1 member with rfl | member
    · exact Nat.le_max_left _ _
    · exact le_trans (ih member) (Nat.le_max_right _ _)

/-! ## Texts and values -/

mutual

/-- The document of a printed value holds it. -/
theorem holds_parsed (v : Value) : v.parsed.Holds v := by
  match v with
  | .null => exact .null
  | .bool b => exact .bool b
  | .number n => exact .number n
  | .text s => exact .text s
  | .array vs => exact .array trivial (holds_parsedItems vs)
  | .object members => exact .object trivial (.refl _) (holds_parsedMembers members)

theorem holds_parsedItems (vs : List Value) : HoldsItems (Value.parsedItems vs) vs := by
  match vs with
  | [] => exact .nil
  | v :: vs => exact .cons (holds_parsed v) (holds_parsedItems vs)

theorem holds_parsedMembers (members : List (String × Value)) :
    HoldsMembers (Value.parsedMembers members) members := by
  match members with
  | [] => exact .nil
  | (k, v) :: members => exact .cons (holds_parsed v) (holds_parsedMembers members)

end

mutual

/-- The document of a value that was never text holds it. -/
theorem holds_ofValue (v : Value) : (ofValue v).Holds v := by
  match v with
  | .null => exact .null
  | .bool b => exact .bool b
  | .number n => exact .number n
  | .text s => exact .text s
  | .array vs => exact .array trivial (holds_ofItems vs)
  | .object members => exact .object trivial (.refl _) (holds_ofMembers members)

theorem holds_ofItems (vs : List Value) : HoldsItems (ofItems vs) vs := by
  match vs with
  | [] => exact .nil
  | v :: vs => exact .cons (holds_ofValue v) (holds_ofItems vs)

theorem holds_ofMembers (members : List (String × Value)) :
    HoldsMembers (ofMembers members) members := by
  match members with
  | [] => exact .nil
  | (k, v) :: members => exact .cons (holds_ofValue v) (holds_ofMembers members)

end

end Document

namespace Value

mutual

/-- A value with the members of its objects in key order. -/
def sorted : Value → Value
  | .array items => .array (sortedItems items)
  | .object members => .object (Dictionary.ofEntries (sortedMembers members))
  | v => v

def sortedItems : List Value → List Value
  | [] => []
  | v :: rest => v.sorted :: sortedItems rest

def sortedMembers : List (String × Value) → List (String × Value)
  | [] => []
  | (k, v) :: rest => (k, v.sorted) :: sortedMembers rest

end

/-- Sorting what stands in the members leaves their keys in place. -/
theorem keys_sortedMembers (members : List (String × Value)) :
    (sortedMembers members).map Prod.fst = members.map Prod.fst := by
  induction members with
  | nil => rfl
  | cons m members ih => rw [sortedMembers, List.map_cons, List.map_cons, ih]

end Value

namespace Document

theorem ofMembers_eq_map (members : List (String × Value)) :
    ofMembers members = members.map fun m => (.ok m.1, ofValue m.2) := by
  induction members with
  | nil => rfl
  | cons m members ih => rw [ofMembers, ih, List.map_cons]

mutual

/-- The document of a sorted value holds the value itself, since the order of members does not
count. -/
theorem holds_sorted (v : Value) (plain : v.Plain) : (ofValue v.sorted).Holds v := by
  match v, plain with
  | .null, _ => exact .null
  | .bool b, _ => exact .bool b
  | .number n, _ => exact .number n
  | .text s, _ => exact .text s
  | .array vs, plain => exact .array trivial (holds_sortedItems vs plain)
  | .object members, plain =>
    have distinct : ((Value.sortedMembers members).map Prod.fst).Nodup := by
      rw [Value.keys_sortedMembers]
      exact plain.1
    have perm : (ofMembers (Dictionary.ofEntries (Value.sortedMembers members))).Perm
        (ofMembers (Value.sortedMembers members)) := by
      rw [ofMembers_eq_map, ofMembers_eq_map]
      exact (Dictionary.ofEntries_perm distinct).map _
    exact .object trivial perm (holds_sortedMembers members plain.2)

theorem holds_sortedItems (vs : List Value) (plain : Value.PlainItems vs) :
    HoldsItems (ofItems (Value.sortedItems vs)) vs := by
  match vs, plain with
  | [], _ => exact .nil
  | v :: vs, plain => exact .cons (holds_sorted v plain.1) (holds_sortedItems vs plain.2)

theorem holds_sortedMembers (members : List (String × Value)) (plain : Value.PlainMembers members) :
    HoldsMembers (ofMembers (Value.sortedMembers members)) members := by
  match members, plain with
  | [], _ => exact .nil
  | (k, v) :: members, plain =>
    exact .cons (holds_sorted v plain.1) (holds_sortedMembers members plain.2)

end

end Document

end ResourceTree.Json
