import ResourceTree.Proofs.Archive.Base64
import ResourceTree.Proofs.Archive.Gzip
import ResourceTree.Proofs.Realtime.Envelopes
import ResourceTree.Proofs.Realtime.Resync
import ResourceTree.SnapshotFile

/-!
# All routes of a snapshot lead to the same tree

A record travels as a document or as a compressed payload, in a file or in a message, with blanks
around it or without. Every route reads the record that was written, and so comes to what decoding
the record itself comes to.
-/

namespace ResourceTree.Snapshot
set_option autoImplicit false

open Archive (Base64.encode Gzip.unpack)
open Json (Document Reader Value)
open Wire (keeps_node)

/-- Only blanks. -/
def Blank (s : String) : Prop := ∀ c ∈ s.toList, Text.isBlank c = true

instance (s : String) : Decidable (Blank s) :=
  List.decidableBAll _ s.toList

/-- The payload is the Base64 text of a gzip member, whoever packed it, with the document of the
record as its content. -/
def Carries (payload : String) (w : Wire.Node) : Prop :=
  ∃ packed, payload = String.ofList ((Base64.encode packed).map fun b => Char.ofNat b.toNat) ∧
    Gzip.unpack packed = .ok (document w).toUTF8.toList

/-- The payload that is printed for a record carries it. -/
theorem carries_compress (w : Wire.Node) : Carries (compress w) w :=
  ⟨_, rfl, Archive.Gzip.unpack_pack _⟩

/-! ## The two texts -/

/-- The text of an object ends with its closing brace. -/
theorem printMembers_eq (members : List (String × Value)) :
    ∃ body, Json.printMembers members = body ++ ['\x7d'] := by
  induction members with
  | nil => exact ⟨[], rfl⟩
  | cons m members ih =>
    obtain ⟨k, v⟩ := m
    obtain ⟨body, tail⟩ := ih
    exact ⟨_, by rw [Json.printMembers, tail, ← List.append_assoc]⟩

/-- The document of a record stands between braces. -/
theorem document_eq (w : Wire.Node) :
    ∃ body, (document w).toList = '\x7b' :: (body ++ ['\x7d']) := by
  obtain ⟨r, children⟩ := w
  rw [document, Json.print, String.toList_ofList, Wire.Node.toValue]
  cases r.leading ++ [("children", .array (Wire.Node.toValues children))] ++ r.trailing with
  | nil => exact ⟨[], rfl⟩
  | cons m members =>
    obtain ⟨k, v⟩ := m
    obtain ⟨body, tail⟩ := printMembers_eq members
    exact ⟨Json.printText k ++ ':' :: (Json.printChars v ++ body), by simp [Json.printChars, tail]⟩

/-- So no blank stands at either end of the document of a record. -/
theorem bare_document (w : Wire.Node) : Text.Bare (document w).toList := by
  obtain ⟨body, whole⟩ := document_eq w
  rw [whole]
  constructor
  · rintro _ ⟨⟩
    rfl
  · rw [← List.cons_append, List.getLast?_concat]
    rintro _ ⟨⟩
    rfl

theorem isBlank_printable {c : Char} (low : 0x20 < c.toNat) (high : c.toNat < 0x7B) :
    Text.isBlank c = false := by
  simp only [Text.isBlank, Bool.or_eq_false_iff, Bool.and_eq_false_iff, decide_eq_false_iff_not,
    beq_eq_false_iff_ne, ne_eq]
  omega

section Payload

variable {w : Wire.Node} {payload : String}

/-- A payload is made of characters between the space and the brace. -/
theorem Carries.printable (carries : Carries payload w) :
    ∀ c ∈ payload.toList, 0x20 < c.toNat ∧ c.toNat < 0x7B := by
  obtain ⟨packed, rfl, -⟩ := carries
  intro c member
  rw [String.toList_ofList] at member
  obtain ⟨b, found, rfl⟩ := List.mem_map.1 member
  have bounds := Archive.Base64.encode_printable packed b found
  rwa [Text.toNat_ofNat (by omega)]

/-- So it holds no blank either. -/
theorem Carries.bare (carries : Carries payload w) : Text.Bare payload.toList where
  first c member :=
    have bounds := carries.printable c (List.mem_of_mem_head? member)
    isBlank_printable bounds.1 bounds.2
  last c member :=
    have bounds := carries.printable c (List.mem_of_getLast? member)
    isBlank_printable bounds.1 bounds.2

/-- No payload begins with a brace, so that it is not mistaken for a document. -/
theorem Carries.head?_ne (carries : Carries payload w) : payload.toList.head? ≠ some '\x7b' := by
  intro brace
  have bounds := carries.printable '\x7b' (List.mem_of_mem_head? brace)
  exact absurd bounds.2 (by decide)

/-- A payload is unpacked into the bytes of the document. -/
theorem Carries.base64 (carries : Carries payload w) :
    ∃ packed, Archive.Base64.decode payload.toUTF8.toList = .ok packed ∧
      Gzip.unpack packed = .ok (document w).toUTF8.toList := by
  obtain ⟨packed, rfl, unpacked⟩ := carries
  have bytes := Text.utf8_ofBytes fun b member =>
    lt_trans (Archive.Base64.encode_printable packed b member).2 (by decide)
  refine ⟨packed, ?_, unpacked⟩
  rw [Text.bytes_eq, String.toList_ofList, bytes, Archive.Base64.decode_encode]

end Payload

/-! ## The routes -/

/-- A failure to decode what a file held. -/
def undecoded (path : String) (e : PayloadError) : Failure :=
  e.failure.within ("Failed to decode snapshot: " ++ path)

/-- What every route makes of a record and of a payload that carries it. -/
structure RoutesAgree (w : Wire.Node) (payload : String) : Prop where
  inflated : ∀ before after, Blank before → Blank after →
    inflate (before ++ payload ++ after) = .ok w
  decoded : ∀ before after, Blank before → Blank after →
    decodeCompressed (before ++ payload ++ after) = decode w
  plainFile : ∀ path before after, Blank before → Blank after →
    load path (.file (before ++ document w ++ after)) = (decode w).mapError (undecoded path)
  packedFile : ∀ path before after, Blank before → Blank after →
    load path (.file (before ++ payload ++ after)) = (decode w).mapError (undecoded path)
  /-- A message with the value of the record, as it is written or as its document is read, and one
  with the payload. -/
  messages : ∃ read, Reader.ofText Reader.value (document w) = .ok read ∧
    ∀ v ∈ [w.toValue, read], ∀ (r : Router) (e : Envelope), e.kind? = some .tree →
      r.handle { e with message := v } = r.handle { e with message := .text payload }
  /-- Text frames, where the frame itself leaves room for the record. -/
  frames : (Document.ofValue w.toValue).depth < Document.nestingLimit →
    ∀ (r : Router) (e : Envelope), e.kind? = some .tree →
      r.handleText { e with message := w.toValue }.toText =
        r.handleText { e with message := .text payload }.toText

/-- A file that was read is what its text is. -/
theorem load_file (path text : String) : load path (.file text) = ofText path text := rfl

section Routes

variable {w : Wire.Node} {payload : String} (typed : w.WellTyped)
  (shallow : (Document.ofValue w.toValue).depth ≤ Document.nestingLimit)

include typed shallow

/-- The record is found in its payload, whatever blanks stand around it. -/
theorem inflate_eq (carries : Carries payload w) {before after : String} (blankBefore : Blank before)
    (blankAfter : Blank after) : inflate (before ++ payload ++ after) = .ok w := by
  obtain ⟨packed, decoded, unpacked⟩ := carries.base64
  have keeps := keeps_node w typed
  have read : Reader.ofBytes Wire.Node.read (document w).toUTF8.toList = .ok w :=
    Reader.ofText_print keeps.takes keeps.plain shallow
  rw [inflate, Text.trim_padded carries.bare blankBefore blankAfter, decoded]
  simp only [Except.mapError, bind, Except.bind, unpacked, read]

/-- A payload with blanks around it is decoded as the record. -/
theorem decodeCompressed_eq (carries : Carries payload w) {before after : String}
    (blankBefore : Blank before) (blankAfter : Blank after) :
    decodeCompressed (before ++ payload ++ after) = decode w := by
  rw [decodeCompressed, inflate_eq typed shallow carries blankBefore blankAfter]
  rfl

theorem decodeCompressed_payload (carries : Carries payload w) :
    decodeCompressed payload = decode w := by
  have blank : Blank "" := by simp [Blank]
  have decoded := decodeCompressed_eq typed shallow carries blank blank
  rwa [String.empty_append, String.append_empty] at decoded

/-- A file with the document of a record is decoded as the record. -/
theorem load_plain (path : String) {before after : String} (blankBefore : Blank before)
    (blankAfter : Blank after) :
    load path (.file (before ++ document w ++ after)) = (decode w).mapError (undecoded path) := by
  obtain ⟨body, whole⟩ := document_eq w
  have keeps := keeps_node w typed
  have read : Reader.ofText Wire.Node.read (document w) = .ok w :=
    Reader.ofText_print keeps.takes keeps.plain shallow
  have brace : (document w).toList.head? = some '\x7b' := by
    rw [whole]
    rfl
  rw [load_file, ofText, Text.trim_padded (bare_document w) blankBefore blankAfter]
  simp only [brace, if_true, read, Except.mapError, bind, Except.bind, pure, Except.pure]
  rfl

/-- A file with the payload of a record is decoded as the record. -/
theorem load_packed (carries : Carries payload w) (path : String) {before after : String}
    (blankBefore : Blank before) (blankAfter : Blank after) :
    load path (.file (before ++ payload ++ after)) = (decode w).mapError (undecoded path) := by
  have unpadded := decodeCompressed_payload typed shallow carries
  rw [load_file, ofText, Text.trim_padded carries.bare blankBefore blankAfter]
  simp only [carries.head?_ne, if_false, unpadded, bind, Except.bind, pure, Except.pure]
  rfl

end Routes

/-! ## Messages -/

/-- A message that holds the record is decoded as the record. -/
theorem snapshotOf_eq {w : Wire.Node} (typed : w.WellTyped) {v : Value}
    (holds : (Document.ofValue v).Holds w.toValue) : Router.snapshotOf v = decode w := by
  have read : readValue Wire.Node.read v = .ok w := by
    rw [readValue, Reader.ofValue, (keeps_node w typed).takes _ holds]
    rfl
  cases v with
  | text s =>
    obtain ⟨r, children⟩ := w
    cases holds
  | _ =>
    simp only [Router.snapshotOf, read, bind, Except.bind]

/-- Messages that are decoded alike are routed alike. -/
theorem handle_tree_congr {e : Envelope} (kind : e.kind? = some .tree) {v v' : Value}
    (same : Router.snapshotOf v = Router.snapshotOf v') (r : Router) :
    r.handle { e with message := v } = r.handle { e with message := v' } := by
  have tree : r.handleTree v = r.handleTree v' := by
    simp only [Router.handleTree, same]
  have known : ∀ v, ({ e with message := v } : Envelope).kind? = some .tree := fun _ => kind
  rw [Router.handle_of_kind (known v), Router.handle_of_kind (known v')]
  simp only [Router.dispatch, tree]

/-- All routes agree, for every payload that carries the record; the compressed record is one. -/
theorem routes_agree (w : Wire.Node) (typed : w.WellTyped)
    (shallow : (Document.ofValue w.toValue).depth ≤ Document.nestingLimit) :
    Carries (compress w) w ∧ ∀ payload, Carries payload w → RoutesAgree w payload := by
  refine ⟨carries_compress w, fun payload carries => ?_⟩
  have plain := (keeps_node w typed).plain
  have packed : Router.snapshotOf (.text payload) = decode w :=
    decodeCompressed_payload typed shallow carries
  have written : Router.snapshotOf w.toValue = decode w :=
    snapshotOf_eq typed (Document.holds_ofValue _)
  have read : Router.snapshotOf w.toValue.sorted = decode w :=
    snapshotOf_eq typed (Document.holds_sorted _ plain)
  constructor
  case inflated => exact fun _ _ => inflate_eq typed shallow carries
  case decoded => exact fun _ _ => decodeCompressed_eq typed shallow carries
  case plainFile => exact fun path _ _ => load_plain typed shallow path
  case packedFile => exact fun path _ _ => load_packed typed shallow carries path
  case messages =>
    refine ⟨_, Reader.ofText_print (Reader.takes_value _ plain) plain shallow, ?_⟩
    intro v member r e kind
    rcases List.mem_cons.1 member with rfl | member
    · exact handle_tree_congr kind (written.trans packed.symm) r
    · cases List.mem_singleton.1 member
      exact handle_tree_congr kind (read.trans packed.symm) r
  case frames =>
    intro room r e kind
    have plainFrame := Envelope.ofText_toText { e with message := w.toValue } plain room
    have packedFrame := Envelope.ofText_toText { e with message := .text payload } trivial
      (show 0 < Document.nestingLimit by decide)
    rw [Router.handleText_of_envelope plainFrame, Router.handleText_of_envelope packedFrame]
    exact handle_tree_congr kind (read.trans packed.symm) r

/-- An application with an event and labels, and below it a deployment and a claim. -/
def shipped : Wire.Node :=
  .node
    { uid := "app", name := "π \"shop\"", kind := "Kustomization", version := some "v1"
      parentIds := ["root", ""], createdAt := "2025-01-01T00:00:00Z"
      annotations := [("a", "\t\\"), ("ü", "")], labels := [("team", "web")]
      status := some "success"
      conditions := [{ lastTransitionTime := "2025-01-01T00:00:00Z", type := "Ready"
                       status := "True", message := "", reason := "Done" }]
      events := [{ uid := "e", kind := "Pod", name := "", ns := "web", reason := "", message := "\u0001"
                   source := "", type := "Normal", firstObserved := "2025-01-01T00:00:00Z"
                   lastObserved := "2025-01-01T00:00:00Z", count := -7, resourceUid := "app" }]
      kustomization := some { sourceRef := some { kind := "GitRepository", name := "src", ns := none }
                              dependsOn := ["base"] } }
    [.node { uid := "web", kind := "Deployment", createdAt := "2025-01-01T00:00:00Z"
             deployment := some { replicas := 3, images := ["web:1"] } } [],
      .node { uid := "data", kind := "PersistentVolumeClaim", createdAt := "2025-01-01T00:00:00Z"
              volumeClaim := some { accessModes := [], capacity := [("storage", "1Gi")] } } []]

/-- A record with children, on each of the routes. -/
theorem routes_agree_shipped :
    shipped.WellTyped ∧ (Document.ofValue shipped.toValue).depth < Document.nestingLimit ∧
      RoutesAgree shipped (compress shipped) ∧
      inflate ("\n " ++ compress shipped ++ "\t") = .ok shipped ∧
      ∃ t, decode shipped = .ok t := by
  have typed : shipped.WellTyped := by decide +kernel
  have shallow : (Document.ofValue shipped.toValue).depth < Document.nestingLimit := by decide +kernel
  obtain ⟨carries, agree⟩ := routes_agree shipped typed (Nat.le_of_lt shallow)
  have routes := agree _ carries
  have sound : (decode shipped).isOk = true := by decide +kernel
  refine ⟨typed, shallow, routes, routes.inflated _ _ (by decide) (by decide), ?_⟩
  cases read : decode shipped with
  | ok t => exact ⟨t, rfl⟩
  | error e => rw [read] at sound; cases sound

end ResourceTree.Snapshot
