import ResourceTree.Archive.Base64
import ResourceTree.Archive.Gzip
import ResourceTree.Decode
import ResourceTree.Json.Printer
import ResourceTree.Text.Blank
import ResourceTree.Wire.Printer
import ResourceTree.Wire.Reader

/-!
# Snapshots

A node record as it travels: as a JSON document, or that document compressed and in Base64. Both
forms are read into a tree, or refused for a cause that is named.
-/

namespace ResourceTree
set_option autoImplicit false

/-- Why a payload is refused. -/
inductive PayloadError where
  | base64 (f : Archive.Base64.Fault)
  | gzip (f : Archive.Gzip.Fault)
  | json (f : Json.Fault)
  | record (e : DecodeError)

/-- The wording of a refused record. -/
def DecodeError.message : DecodeError → String
  | .timestamp field value => "Invalid timestamp in " ++ field ++ ": " ++ Text.quoted value
  | .unknownStatus status => "Invalid resource status: " ++ Text.quoted status

namespace PayloadError

def message : PayloadError → String
  | base64 f => "Invalid base64 payload: " ++ f.message
  | gzip f => "Failed to inflate gzip payload: " ++ f.message
  | json f => "Malformed JSON payload: " ++ f.message
  | record e => e.message

/-- The wording of the error and of the faults that it wraps, the outermost first. -/
def chain (e : PayloadError) : List String :=
  match e with
  | base64 f => [e.message, f.message]
  | gzip f => [e.message, f.message]
  | json f => [e.message, f.message]
  | record _ => [e.message]

end PayloadError

namespace Snapshot

/-- The tree of a node record. -/
def decode (w : Wire.Node) : Except PayloadError Tree :=
  (Decode.node w).mapError .record

/-- A record read from a JSON document. -/
def readText {α : Type} (r : Json.Reader α) (s : String) : Except PayloadError α :=
  (Json.Reader.ofText r s).mapError .json

/-- A record read from a JSON value. -/
def readValue {α : Type} (r : Json.Reader α) (v : Json.Value) : Except PayloadError α :=
  (Json.Reader.ofValue r v).mapError .json

/-- The record in a compressed payload, which may have blanks around it. -/
def inflate (payload : String) : Except PayloadError Wire.Node := do
  let packed ← (Archive.Base64.decode (Text.trim payload).toUTF8.toList).mapError .base64
  let json ← (Archive.Gzip.unpack packed).mapError .gzip
  (Json.Reader.ofBytes Wire.Node.read json).mapError .json

/-- The tree in a compressed payload. -/
def decodeCompressed (payload : String) : Except PayloadError Tree := do
  decode (← inflate payload)

/-- The bytes of the JSON document of a record. -/
def document (w : Wire.Node) : String := Json.print w.toValue

/-- The compressed payload of a record. -/
def compress (w : Wire.Node) : String :=
  String.ofList ((Archive.Base64.encode (Archive.Gzip.pack (document w).toUTF8.toList)).map
    fun b => Char.ofNat b.toNat)

end Snapshot

end ResourceTree
