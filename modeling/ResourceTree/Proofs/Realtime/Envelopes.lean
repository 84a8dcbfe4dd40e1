import ResourceTree.Proofs.Wire.Written
import ResourceTree.Realtime.Message

/-!
# Envelopes read back

The text frame of an envelope is read as that envelope, with the members of its payload in key order.
The frame is one more container around the payload, so the payload must leave one level free.
-/

namespace ResourceTree.Envelope
set_option autoImplicit false

open Json (Document Placed Reader Value)
open Json.Reader (Takes takes_text)
open Wire (Members Keeps Within keeps_reader optionalText within_text)

attribute [local simp] List.lookup_append List.lookup_cons

/-- The members of the frame of an envelope. -/
def members (e : Envelope) : Members :=
  [("type", .text e.type)] ++ optionalText "clientId" e.clientId ++ optionalText "op" e.op
    ++ [("message", e.message)]

/-- An envelope is printed as the object of its members. -/
theorem toText_eq (e : Envelope) : e.toText = Json.print (.object e.members) := by
  have asList : ∀ (name : String) (field : Option String),
      (field.toList.map fun s => (name, Value.text s)) = optionalText name field := by
    intro name field
    cases field <;> rfl
  rw [toText, asList, asList]
  rfl

/-- The members are read back, those of the message in the order of their keys. -/
theorem keeps_members (e : Envelope) (plain : e.message.Plain) :
    Keeps read (.object e.members) { e with message := e.message.sorted } := by
  cases e
  refine keeps_reader rfl ?_ (by decide) ?_ fun s offers => ?_
  · exact Within.all _ |>.append (within_text _ _) |>.append (within_text _ _) |>.append (.all _)
  · simp [members, Value.PlainMembers, plain]
  simp only [members] at offers
  refine Placed.seq_ok ?_ (offers.withDefault (by simp) (Reader.takes_value _ plain) _)
  refine Placed.seq_ok ?_ (offers.optionalText (by simp))
  refine Placed.seq_ok ?_ (offers.optionalText (by simp))
  exact Placed.map_ok _ (offers.required (by simp) (takes_text _))

/-- The message stands one level deeper than the envelope. -/
theorem depth_members (e : Envelope) :
    (Document.ofValue (.object e.members)).depth = (Document.ofValue e.message).depth + 1 := by
  obtain ⟨type, clientId, op, message⟩ := e
  cases clientId <;> cases op <;>
    simp [members, optionalText, Document.ofValue, Document.ofMembers, Document.depth,
      Document.depthMembers]

/-- An envelope comes through its text, as long as the frame leaves room for the depth of the
message. -/
theorem ofText_toText (e : Envelope) (plain : e.message.Plain)
    (shallow : (Document.ofValue e.message).depth < Document.nestingLimit) :
    ofText e.toText = .ok { e with message := e.message.sorted } := by
  have keeps := keeps_members e plain
  rw [toText_eq, ofText]
  exact Reader.ofText_print keeps.takes keeps.plain (by rw [depth_members]; exact shallow)

end ResourceTree.Envelope
