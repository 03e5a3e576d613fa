import MixerPanel.Proofs.Agreement
import MixerPanel.Proofs.Frames
import MixerPanel.Proofs.Layout

/-!
# Frames are read back from their texts

The text of a frame decodes to the frame again.  A frame holds its payload in one of three ways: a
variant without content is a name, one with content is an object with the name over the content, and
an operation of a patch is an object with its kind among its members.  The members of an operation
are set aside until the kind is known, so they are read twice, and the second time no level of
nesting is counted.

* `Reads` — a reader takes a value from an outline wherever there is room for it
* `reads_word64`, `reads_any`, `reads_listOf`, `reads_name`, `reads_member`, `reads_record` — one
  lemma per kind of reader
* `Operation.reads` — an operation, whatever its kind
* `Response.values` — the values that a response holds as they are
* `ResponseFrame.Writable` — what such values may be: as they are when read from a text, without a
  real, and not nested too deeply
* `frame_round_trip` — frames are read back, so no two have the same text

The values must be free of reals because a real is read in two roundings, and may come back with
another last digit.  That they be ordered says no more than that they are documents, since every
document has its members in canonical order.
-/

namespace MixerPanel

namespace Json

open Outline

/-- The reader takes `a` from the outline of a value, wherever the limit of nesting leaves room for
it. -/
def Reads {α : Type} (read : Reader α) (j : Json) (a : α) : Prop :=
  ∀ origin : Origin, origin.Fits j → read origin (ofJson j) = .ok a

/-! ## Plain types and lists -/

section Combinators

variable {α : Type}

theorem reads_text (s : String) : Reads text (.string s) s := fun _ _ => rfl

theorem reads_word64 (n : UInt64) : Reads word64 (nat n) n := by
  intro origin _
  have bound : n.toNat < UInt64.size := n.toNat_lt
  simp [ofJson, word64, natural, Lexeme.ok, bound]

theorem reads_any {j : Json} (ordered : j.Ordered) : Reads any j j := by
  intro origin fits
  rw [any_ofJson j fits, canonical_of_ordered j ordered]

theorem Reads.map {β : Type} {read : Reader α} {j : Json} {a : α} (reads : Reads read j a)
    (f : α → β) : Reads (fun origin o => (read origin o).map f) j (f a) := by
  intro origin fits
  exact congrArg (Except.map f) (reads origin fits)

theorem readItems_ofItems {read : Reader α} {write : α → Json} {as : List α} {origin : Origin}
    (each : ∀ a ∈ as, Reads read (write a) a) (fits : ∀ j ∈ as.map write, origin.Fits j) :
    readItems read origin (ofItems (as.map write)) = .ok as := by
  induction as with
  | nil => rfl
  | cons a as ih =>
      obtain ⟨first, others⟩ := List.forall_mem_cons.mp each
      obtain ⟨fitsFirst, fitsOthers⟩ := List.forall_mem_cons.mp fits
      simp [ofItems, readItems, first origin fitsFirst, ih others fitsOthers, pure, Except.pure]

theorem reads_listOf {read : Reader α} {write : α → Json} {as : List α}
    (each : ∀ a ∈ as, Reads read (write a) a) : Reads (listOf read) (.list (as.map write)) as := by
  intro origin fits
  obtain ⟨inner, entered, fitsEach⟩ := Origin.fits_list.mp fits
  simp [ofJson, listOf, entered, readItems_ofItems each fitsEach, pure, Except.pure]

/-! ## Choices -/

theorem reads_name {variants : Variants α} {name : String} {a : α}
    (named : variants.ofName name = .ok a) : Reads variants.choice (.string name) a := by
  intro origin _
  cases origin <;> exact named

theorem reads_member {variants : Variants α} {name : String} {read : Reader α} {j : Json} {a : α}
    (named : variants.named name = .ok (.holding read)) (reads : Reads read j a) :
    Reads variants.choice (.object [(name, j)]) a := by
  intro origin fits
  obtain ⟨inner, entered, each⟩ := Origin.fits_object.mp fits
  show variants.choice origin (.object [(.ok name, ofJson j)] .closed) = _
  rw [choice_of_member entered, Variants.ofMember, named]
  exact reads inner (each _ List.mem_cons_self)

/-! ## Records -/

theorem reads_record {fields : Fields α} (checked : fields.Checked)
    {members : List (String × Json)} {a : α} (name : String)
    (distinct : (members.map Prod.fst).Nodup)
    (made : ∀ origin : Origin, (∀ member ∈ members, origin.Fits member.2) →
      fields.ofNames origin (fun field => (Keyed.lookup field members).map ofJson) = .ok a) :
    Reads (fields.record name) (.object members) a := by
  intro origin fits
  obtain ⟨inner, entered, each⟩ := Origin.fits_object.mp fits
  exact Fields.record_ofJson checked entered distinct (made inner each)

end Combinators

/-! ## Operations of a patch -/

namespace Operation

theorem surveyTag_ofMembers {origin : Origin} {kind : Option OperationKind}
    {members : List (String × Json)} (untagged : ∀ member ∈ members, member.1 ≠ tag)
    (fits : ∀ member ∈ members, origin.Fits member.2) :
    surveyTag origin kind (ofMembers members) = .ok kind := by
  induction members with
  | nil => rfl
  | cons member rest ih =>
      obtain ⟨key, value⟩ := member
      obtain ⟨other, untaggedRest⟩ := List.forall_mem_cons.mp untagged
      obtain ⟨fitsFirst, fitsRest⟩ := List.forall_mem_cons.mp fits
      simp [ofMembers, surveyTag, other, any_ofJson value fitsFirst, ih untaggedRest fitsRest]

theorem untagged_ofMembers {members : List (String × Json)}
    (untagged : ∀ member ∈ members, member.1 ≠ tag) :
    Operation.untagged (ofMembers members) = ofMembers members := by
  rw [Operation.untagged, ofMembers_eq_map, List.filter_eq_self, List.forall_mem_map]
  intro member mem
  simpa [Except.toOption] using untagged member mem

theorem checked_fields (kind : OperationKind) : kind.fields.Checked := by
  cases kind <;> apply_rules [Fields.checked_seq, Fields.checked_map, Fields.checked_field]

theorem kindReader_name (kind : OperationKind) (origin : Origin) :
    OperationKind.reader origin (ofJson (.string kind.name)) = .ok kind := by
  cases kind <;> rfl

/-- **An operation is read** as soon as the fields of its kind are read from the members that were
set aside. -/
theorem reads_of_fields {k : OperationKind} {members : List (String × Json)} {op : Operation}
    (untagged : ∀ member ∈ members, member.1 ≠ tag) (distinct : (members.map Prod.fst).Nodup)
    (made : k.fields.ofNames .setAside
      (fun field => (Keyed.lookup field members).map ofJson) = .ok op) :
    Reads reader (.object ((tag, .string k.name) :: members)) op := by
  intro origin fits
  obtain ⟨inner, entered, each⟩ := Origin.fits_object.mp fits
  have fitsMembers := (List.forall_mem_cons.mp each).2
  -- the first walk finds the kind, the second reads the members that the first has set aside
  have found : surveyTag inner none (ofMembers ((tag, .string k.name) :: members))
      = .ok (some k) := by
    simp [ofMembers, surveyTag, kindReader_name, surveyTag_ofMembers untagged fitsMembers]
  have left : Operation.untagged (ofMembers ((tag, .string k.name) :: members))
      = ofMembers members := by
    have tagged : Operation.untagged (ofMembers ((tag, .string k.name) :: members))
        = Operation.untagged (ofMembers members) := rfl
    rw [tagged, untagged_ofMembers untagged]
  have read := Fields.readMembers_ofMembers (checked_fields k) distinct made
  simp [ofJson, reader, entered, found, left, read]

/-- The kinds with a path and a value. -/
theorem reads_of_value {k : OperationKind} {make : String → Json → Operation}
    (fields : k.fields
      = make <$> Fields.required "path" text <*> Fields.required "value" any)
    (path : String) {value : Json} (ordered : value.Ordered) :
    Reads reader (.object [(tag, .string k.name), ("path", .string path), ("value", value)])
      (make path value) := by
  have readPath : text .setAside (ofJson (.string path)) = .ok path := rfl
  have readValue : any .setAside (ofJson value) = .ok value := reads_any ordered .setAside trivial
  refine reads_of_fields ?_ ?_ ?_
  · simp [tag]
  · simp
  · simp [fields, Fields.ofNames_field_of_some, Keyed.lookup_cons, readPath, readValue]

/-- The kinds with a source and a path. -/
theorem reads_of_source {k : OperationKind} {make : String → String → Operation}
    (fields : k.fields
      = make <$> Fields.required "from" text <*> Fields.required "path" text)
    (source path : String) :
    Reads reader
      (.object [(tag, .string k.name), ("from", .string source), ("path", .string path)])
      (make source path) := by
  have readText (s : String) : text .setAside (ofJson (.string s)) = .ok s := rfl
  refine reads_of_fields ?_ ?_ ?_
  · simp [tag]
  · simp
  · simp [fields, Fields.ofNames_field_of_some, Keyed.lookup_cons, readText]

/-- The values that an operation holds as they are. -/
def values : Operation → List Json
  | add _ value | replace _ value | test _ value => [value]
  | remove _ | move _ _ | copy _ _ => []

/-- **An operation is read back**, whatever its kind. -/
theorem reads {op : Operation} (ordered : ∀ j ∈ op.values, j.Ordered) :
    Reads reader op.toJson op := by
  cases op with
  | add path value => exact reads_of_value (k := .add) rfl path (ordered _ (by simp [values]))
  | replace path value =>
      exact reads_of_value (k := .replace) rfl path (ordered _ (by simp [values]))
  | test path value => exact reads_of_value (k := .test) rfl path (ordered _ (by simp [values]))
  | move source path => exact reads_of_source (k := .move) rfl source path
  | copy source path => exact reads_of_source (k := .copy) rfl source path
  | remove path =>
      have readPath : text .setAside (ofJson (.string path)) = .ok path := rfl
      refine reads_of_fields (k := .remove) ?_ ?_ ?_
      · simp [tag]
      · simp
      · simp [OperationKind.fields, Fields.ofNames_field_of_some, Keyed.lookup_cons, readPath]

theorem integral_toJson {op : Operation} (integral : ∀ j ∈ op.values, j.Integral) :
    op.toJson.Integral := by
  cases op <;> simp_all [toJson, values]

end Operation

end Json

open Json

/-! ## Payloads -/

theorem Request.reads (r : Request) : Reads Request.reader r.toJson r := by
  cases r <;> exact reads_name rfl

namespace Response

/-- The values that a response holds as they are. -/
def values : Response → List Json
  | ok => []
  | err _ => []
  | status document => [document]
  | patch operations => operations.flatMap Json.Operation.values

theorem reads {r : Response} (ordered : ∀ j ∈ r.values, j.Ordered) :
    Reads reader r.toJson r := by
  cases r with
  | ok => exact reads_name rfl
  | err message => exact reads_member rfl ((reads_text message).map err)
  | status document =>
      have isDocument : document.Ordered := ordered _ List.mem_cons_self
      exact reads_member rfl ((reads_any isDocument).map status)
  | patch operations =>
      have each : ∀ op ∈ operations, Reads Json.Operation.reader op.toJson op := fun op mem =>
        Json.Operation.reads fun j isValue => ordered j (List.mem_flatMap.mpr ⟨op, mem, isValue⟩)
      exact reads_member rfl ((reads_listOf each).map patch)

theorem integral_toJson {r : Response} (integral : ∀ j ∈ r.values, j.Integral) :
    r.toJson.Integral := by
  cases r with
  | ok | err message => simp [toJson]
  | status document => simpa [toJson, values] using integral
  | patch operations =>
      have each : ∀ op ∈ operations, op.toJson.Integral := fun op mem =>
        Json.Operation.integral_toJson fun j isValue =>
          integral j (List.mem_flatMap.mpr ⟨op, mem, isValue⟩)
      simpa [toJson, Json.Patch.toJson] using each

end Response

/-! ## Frames -/

/-- Without reals and within the limit of nesting, a written value is read by any reader that takes
it from its outline. -/
theorem Json.Reads.ofText_write {α : Type} {read : Reader α} {j : Json} {a : α}
    (reads : Reads read j a) (integral : j.Integral) (within : j.NestsWithin 127) :
    ofText read j.write = .ok a := by
  have fits : (Origin.text Origin.maxLevels).Fits j := within
  refine ofText_eq_ok_iff.mpr ?_
  rw [layOut_write integral]
  exact ⟨reads _ fits, rfl⟩

/-- A frame is read as soon as its payload is. -/
theorem Json.reads_frame {α β : Type} {make : UInt64 → α → β} {read : Reader α} {data : Json}
    {a : α} (name : String) (id : UInt64) (reads : Reads read data a) :
    Reads (Fields.record name
        (make <$> Fields.required "id" word64 <*> Fields.required "data" read))
      (.object [("id", .nat id), ("data", data)]) (make id a) := by
  have checked :
      (make <$> Fields.required "id" word64 <*> Fields.required "data" read).Checked := by
    apply_rules [Fields.checked_seq, Fields.checked_map, Fields.checked_field]
  refine reads_record checked name (by simp) fun origin fits => ?_
  have readId := reads_word64 id origin (fits _ List.mem_cons_self)
  have readData := reads origin (fits _ (List.mem_cons_of_mem _ List.mem_cons_self))
  simp [Fields.ofNames_field_of_some, Keyed.lookup_cons, readId, readData]

theorem RequestFrame.ofText_encode (f : RequestFrame) : ofText reader f.encode = .ok f := by
  have reads : Reads reader f.toJson f := reads_frame _ f.id f.data.reads
  refine reads.ofText_write ?_ ?_
  · simp [toJson, Request.toJson]
  · simp [toJson, Request.toJson, NestsWithin]

namespace ResponseFrame

/-- The values in the frame are documents without reals, and are not nested too deeply where they
stand. -/
structure Writable (f : ResponseFrame) : Prop where
  ordered : ∀ j ∈ f.data.values, j.Ordered
  integral : ∀ j ∈ f.data.values, j.Integral
  nested : f.toJson.NestsWithin 127

/-- **The room for a value in a frame** is what the frame leaves: two levels are above a document,
and four above the value of an operation. -/
theorem nestsWithin_iff {f : ResponseFrame} : f.toJson.NestsWithin 127 ↔
    (∀ document, f.data = .status document → document.NestsWithin 125) ∧
    ∀ operations, f.data = .patch operations → ∀ op ∈ operations, ∀ j ∈ op.values,
      j.NestsWithin 123 := by
  obtain ⟨id, data⟩ := f
  cases data with
  | ok | err message | status document => simp [toJson, Response.toJson, NestsWithin]
  | patch operations =>
      have operation : ∀ op : Json.Operation,
          op.toJson.NestsWithin 124 ↔ ∀ j ∈ op.values, j.NestsWithin 123 := by
        intro op
        cases op <;> simp [Json.Operation.toJson, Json.Operation.values, NestsWithin]
      simp [toJson, Response.toJson, Json.Patch.toJson, NestsWithin, operation]

theorem decode_encode {f : ResponseFrame} (writable : f.Writable) : decode f.encode = .ok f := by
  have reads : Reads reader f.toJson f := reads_frame _ f.id (Response.reads writable.ordered)
  have isData := Response.integral_toJson writable.integral
  refine reads.ofText_write ?_ writable.nested
  simp [toJson, isData]

end ResponseFrame

/-- **Frames are read back from their texts**, so that different frames have different texts.  The
text that a session sends is that of the frame with the request, under the id under which the
request is outstanding from then on; nothing else that is outstanding changes. -/
theorem frame_round_trip :
    (∀ f : RequestFrame, Json.ofText RequestFrame.reader f.encode = .ok f) ∧
    (∀ f : ResponseFrame, f.Writable → ResponseFrame.decode f.encode = .ok f) ∧
    (∀ f g : RequestFrame, f.encode = g.encode → f = g) ∧
    (∀ f g : ResponseFrame, f.Writable → g.Writable → f.encode = g.encode → f = g) ∧
    ∀ (s : Session) (data : Request), ∃ frame,
      Json.ofText RequestFrame.reader (s.request data).2.1 = .ok frame ∧ frame.data = data ∧
        ∀ id, (s.request data).1.tracker.request? id
          = if id = frame.id then some data else s.tracker.request? id := by
  refine ⟨RequestFrame.ofText_encode, fun _ => ResponseFrame.decode_encode, ?_, ?_, ?_⟩
  · intro f g same
    have read := g.ofText_encode
    rw [← same, f.ofText_encode] at read
    exact Except.ok.inj read
  · intro f g writable writable' same
    have read := ResponseFrame.decode_encode writable'
    rw [← same, ResponseFrame.decode_encode writable] at read
    exact Except.ok.inj read
  · intro s data
    exact ⟨⟨s.tracker.nextId, data⟩, RequestFrame.ofText_encode _, rfl,
      s.tracker.request?_track data⟩

/-- A patch under the greatest id, with every kind of character in its texts that is escaped. -/
def greatest : ResponseFrame :=
  let least := Number.negative ⟨0x7fffffffffffffff, by decide⟩
  let value := Json.object [("\"", .list [.null, .number least]), ("\\", .nat broadcastId)]
  ⟨broadcastId, .patch [.test "/a~1b" value, .move "/\n" "/\t", .remove "", .add "/-" value,
    .copy "/0" "/\x01", .replace "/é" (.string "\x7f")]⟩

theorem greatest_round_trip : ResponseFrame.decode greatest.encode = .ok greatest := by
  have ascends : "\"" < "\\" := by decide +kernel
  refine frame_round_trip.2.1 greatest ⟨?_, ?_, ?_⟩
  · simpa [greatest, Response.values, Json.Operation.values, Keyed.Ascending] using ascends
  · simp [greatest, Response.values, Json.Operation.values]
  · simp [greatest, ResponseFrame.toJson, Response.toJson, Json.Patch.toJson,
      Json.Operation.toJson, NestsWithin]

end MixerPanel
