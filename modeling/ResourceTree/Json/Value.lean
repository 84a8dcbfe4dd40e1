import ResourceTree.Dictionary

/-!
# JSON values

Numbers are whole numbers in the range of signed or unsigned sixty-four bit words, or doubles.
An object that is read holds its members in key order; one that is made to be printed holds them
in the order in which they are to appear.
-/

namespace ResourceTree.Json
set_option autoImplicit false

/-- A number: `whole` keeps to the range from `-2 ^ 63` to below `2 ^ 64`. -/
inductive Number where
  | whole (n : Int)
  | double (x : Float)

inductive Value where
  | null
  | bool (b : Bool)
  | number (n : Number)
  | text (s : String)
  | array (items : List Value)
  | object (members : List (String × Value))

instance : Inhabited Value := ⟨.null⟩

/-- The member of an object under a key. -/
def Value.get? (key : String) : Value → Option Value
  | .object members => Dictionary.get? key members
  | _ => none

/-- A whole number. -/
def Value.ofNat (n : Nat) : Value := .number (.whole n)

/-- An object from members in any order. -/
def Value.ofMembers (members : List (String × Value)) : Value :=
  .object (Dictionary.ofEntries members)

/-- A text, or null where there is none. -/
def Value.ofText? : Option String → Value
  | none => .null
  | some s => .text s

end ResourceTree.Json
