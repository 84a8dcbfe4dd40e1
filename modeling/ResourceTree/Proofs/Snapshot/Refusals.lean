import ResourceTree.Proofs.Json.Causes
import ResourceTree.Proofs.Wire.Fair
import ResourceTree.Snapshot

/-!
# What a refusal says

A record is refused in one line, whatever stands in it: all that a wording takes over from a record is
quoted. So is a payload that does not come to a record, and one that does.
-/

namespace ResourceTree
set_option autoImplicit false

open Text (Unbroken unbroken_nat unbroken_quoted)

/-! ## Records -/

/-- The wording of the refusal stands on one line. -/
def DecodeError.Clean (e : DecodeError) : Prop := Unbroken e.message

/-- The value stands quoted in the wording, so that a line feed in it does no harm. -/
theorem DecodeError.clean_timestamp {field : String} (plain : Unbroken field) (value : String) :
    (timestamp field value).Clean :=
  .append (.append (.append (by decide) plain) (by decide)) (unbroken_quoted value)

/-- An unknown status stands quoted in the wording too. -/
theorem DecodeError.clean_unknownStatus (status : String) : (unknownStatus status).Clean :=
  .append (by decide) (unbroken_quoted status)

namespace Decode

/-- The decoder refuses in one line only. -/
abbrev CleanIn {α : Type} (x : Except DecodeError α) : Prop := RefusedFor DecodeError.Clean x

theorem clean_time {field : String} (plain : Unbroken field) (value : String) :
    CleanIn (time field value) := by
  unfold time
  split
  · exact .ok _
  · exact .error (DecodeError.clean_timestamp plain value)

theorem clean_optionalTime {field : String} (plain : Unbroken field) (value : Option String) :
    CleanIn (optionalTime field value) := by
  unfold optionalTime
  split
  · exact .ok _
  · exact (clean_time plain _).bind fun t => .ok _

theorem clean_status (name : Option String) : CleanIn (status name) := by
  unfold status
  split
  · exact .ok _
  · split
    · exact .ok _
    · exact .error (DecodeError.clean_unknownStatus _)

theorem clean_condition (w : Wire.Condition) : CleanIn (condition w) :=
  (clean_time (by decide) _).bind fun _ => .ok _

theorem clean_event (w : Wire.Event) : CleanIn (event w) :=
  (clean_time (by decide) _).bind fun _ => (clean_time (by decide) _).bind fun _ => .ok _

theorem clean_log (w : Wire.Log) : CleanIn (log w) :=
  (clean_time (by decide) _).bind fun _ => .ok _

theorem clean_flux (own : Wire.Flux) (reconciling suspended : Bool) (handledAt : Option String) :
    CleanIn (flux own reconciling suspended handledAt) := by
  refine (clean_optionalTime (by decide) _).bind fun first => ?_
  have synced (handled : Option Instant) :
      CleanIn (optionalTime "fluxMetadata.lastSyncAt" own.lastSyncAt >>= fun lastSyncAt =>
        .ok { isReconciling := own.isReconciling || reconciling
              isSuspended := own.isSuspended || suspended
              lastHandledReconcileAt := handled, lastSyncAt : Flux }) :=
    (clean_optionalTime (by decide) _).bind fun _ => .ok _
  cases first with
  | some t => exact synced (some t)
  | none => exact (clean_optionalTime (by decide) _).bind synced

theorem clean_metadata (w : Wire.Record) : CleanIn (metadata w) := by
  unfold metadata
  simp only
  split
  any_goals exact .ok _
  all_goals exact (clean_flux _ _ _ _).map _

/-- Of all that a record says of itself only times and the status can be refused. -/
theorem clean_head (w : Wire.Record) : CleanIn (head w) :=
  (clean_metadata w).bind fun _ => (clean_status _).bind fun _ => (clean_time (by decide) _).bind
    fun _ => (clean_optionalTime (by decide) _).bind fun _ => .ok _

mutual

/-- No record is refused in more than one line, however deep the refused part stands. -/
theorem clean_under (parentId : Option String) (w : Wire.Node) : CleanIn (under parentId w) := by
  cases w with
  | node w cs =>
    rw [under]
    exact (clean_head w).bind fun _ => (clean_underAll _ cs).bind fun _ =>
      (RefusedFor.mapM clean_condition _).bind fun _ =>
        (RefusedFor.mapM clean_event _).bind fun _ => .ok _

theorem clean_underAll (parentId : Option String) (ws : List Wire.Node) :
    CleanIn (underAll parentId ws) := by
  cases ws with
  | nil => exact .ok []
  | cons w ws =>
    rw [underAll]
    exact (clean_under _ w).bind fun _ => (clean_underAll _ ws).bind fun _ => .ok _

end

end Decode

/-! ## Payloads -/

/-- A fault of the alphabet or the padding names numbers and bytes alone. -/
theorem Archive.Base64.Fault.unbroken_message (f : Archive.Base64.Fault) : Unbroken f.message := by
  cases f with
  | symbol offset byte | lastSymbol offset byte =>
    exact .append (.append (.append (.append (by decide) (unbroken_nat _)) (by decide))
      (unbroken_nat _)) (by decide)
  | length count => exact .append (by decide) (unbroken_nat count)
  | padding => decide

theorem Archive.Gzip.Fault.unbroken_message (f : Archive.Gzip.Fault) : Unbroken f.message := by
  cases f with
  | stream f => cases f <;> decide
  | header | fieldTooLong | checksum | ended => decide

namespace PayloadError

/-- The wording of the refusal stands on one line. -/
def Clean (e : PayloadError) : Prop := Unbroken e.message

/-- A payload that is no Base64 is refused on one line. -/
theorem clean_base64 (f : Archive.Base64.Fault) : (base64 f).Clean :=
  .append (by decide) f.unbroken_message

/-- A payload that cannot be unpacked is refused on one line. -/
theorem clean_gzip (f : Archive.Gzip.Fault) : (gzip f).Clean :=
  .append (by decide) f.unbroken_message

/-- A fault in the JSON document stands behind a heading. -/
theorem clean_json {f : Json.Fault} (clean : f.Clean) : (json f).Clean :=
  .append (by decide) clean

end PayloadError

namespace Snapshot

abbrev CleanIn {α : Type} (x : Except PayloadError α) : Prop := RefusedFor PayloadError.Clean x

/-- A record that cannot be decoded keeps its wording as a payload. -/
theorem clean_record {α : Type} {x : Except DecodeError α} (clean : Decode.CleanIn x) :
    CleanIn (x.mapError .record) :=
  clean.mapError fun _ clean => clean

/-- A value that a fair reader refuses is refused on one line. -/
theorem clean_readValue {α : Type} {r : Json.Reader α} (fair : r.Fair) (v : Json.Value) :
    CleanIn (readValue r v) :=
  (fair.ofValue v).mapError fun _ => PayloadError.clean_json

/-- No decoded record is refused in more than one line. -/
theorem clean_decode (w : Wire.Node) : CleanIn (decode w) := clean_record (Decode.clean_under _ w)

/-- No compressed payload is refused in more than one line, at whichever of its three layers. -/
theorem clean_inflate (payload : String) : CleanIn (inflate payload) :=
  ((RefusedFor.any _).mapError fun f _ => PayloadError.clean_base64 f).bind fun _ =>
    ((RefusedFor.any _).mapError fun f _ => PayloadError.clean_gzip f).bind fun json =>
      (Wire.fair_node.ofBytes json).mapError fun _ => PayloadError.clean_json

/-- The tree in a compressed payload is refused on one line, if at all. -/
theorem clean_decodeCompressed (payload : String) : CleanIn (decodeCompressed payload) :=
  (clean_inflate payload).bind clean_decode

end Snapshot

end ResourceTree
