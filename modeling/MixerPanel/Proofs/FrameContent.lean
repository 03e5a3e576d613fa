import MixerPanel.Proofs.FrameRoundTrip
import MixerPanel.Proofs.RefusedFrames
import MixerPanel.Proofs.ResponseReading
import MixerPanel.Proofs.StatusParsers

/-!
# What a frame does depends on its id and its payload

A frame is a text, and there are many texts for the same frame.  The members of its object may come
in any order, with blanks and escapes of any kind, and there may be other members, which are passed
over on a way of its own: nothing is built of them, no level of nesting is counted, and a numeral
may be beyond all numbers.

* `ResponseFrame.Holds` — a text that spells an object with a given id and a given payload
* `ResponseFrame.alike_decode` — what such a text decodes to is determined by the two
* `ResponseFrame.decode_of_holds` — every spelling of a frame decodes as that frame
* `ResponseFrame.Misnamed`, `ResponseFrame.decode_of_misnamed` — an object with a name that is no
  text does not decode, whatever else it holds
* `frame_decided_by_id_and_data` — so the session and the store cannot tell two spellings apart

The names of the members are texts, so that they can be told apart.  A name with half of a surrogate
pair is none, and is refused even over a member that nobody looks at
(`half_a_pair_in_a_name_refused`).
-/

namespace MixerPanel

open Json Json.Outline

/-! ## Numbers -/

namespace Json

theorem agrees_word64 : Agrees word64 := fun origin o v conveys =>
  (agrees_natural _ _ origin o v conveys).map_eq UInt64.ofNat

/-- A number is the same from a text and from its value even if keys are repeated in it, since what
has keys is no number. -/
theorem alike_word64 {origin : Origin} {o : Outline} {v : Json} (read : any origin o = .ok v) :
    Alike (· = ·) (word64 origin o) (ofValue word64 v) := by
  cases o with
  | fault f => cases read
  | atom l => exact agrees_word64 _ _ _ ⟨read, .atom l⟩
  | quotation l => exact agrees_word64 _ _ _ ⟨read, .quotation l⟩
  | list items ending =>
      obtain ⟨-, inner, values, -, -, rfl⟩ := any_list_eq_ok_iff.mp read
      exact .error
  | object members ending =>
      obtain ⟨-, inner, values, -, -, rfl⟩ := any_object_eq_ok_iff.mp read
      exact .error

end Json

theorem Json.Operation.keysDistinct_toJson {op : Json.Operation}
    (ordered : ∀ j ∈ op.values, j.Ordered) : (ofJson op.toJson).KeysDistinct := by
  have values : ∀ j ∈ op.values, (ofJson j).KeysDistinct := fun j isValue =>
    keysDistinct_of_ordered j (ordered j isValue)
  cases op <;> simp_all [toJson, tag, Json.Operation.values]

theorem Response.keysDistinct_toJson {r : Response} (ordered : ∀ j ∈ r.values, j.Ordered) :
    (ofJson r.toJson).KeysDistinct := by
  cases r with
  | ok | err message => simp [toJson]
  | status document =>
      have isDocument : document.Ordered := ordered _ List.mem_cons_self
      simpa [toJson] using keysDistinct_of_ordered document isDocument
  | patch operations =>
      have each : ∀ op ∈ operations, (ofJson op.toJson).KeysDistinct := fun op mem =>
        op.keysDistinct_toJson fun j isValue =>
          ordered j (List.mem_flatMap.mpr ⟨op, mem, isValue⟩)
      simpa [toJson, Json.Patch.toJson] using each

/-! ## Names that are no texts -/

theorem Json.exists_error_then {α : Type} {first : Json.Result Unit} {next : Json.Result α}
    (fails : ∃ e, next = .error e) : ∃ e, (first >>= fun _ => next) = .error e := by
  obtain ⟨e, rfl⟩ := fails
  cases first with
  | error e => exact ⟨e, rfl⟩
  | ok => exact ⟨e, rfl⟩

namespace Json.Fields

/-- **A name that is no text** stops the walk over the members, if nothing has stopped it before. -/
theorem survey_of_misnamed (checks : List (String × (Origin → Outline → Json.Result Unit)))
    (origin : Origin) (seen : List String) {members : List (Lexeme String × Outline)}
    (misnamed : ∃ member ∈ members, ∀ name, member.1.read ≠ .ok name) :
    ∃ e, survey checks origin seen members = .error e := by
  induction members generalizing seen with
  | nil => simp at misnamed
  | cons member rest ih =>
      obtain ⟨key, o⟩ := member
      unfold survey
      cases read : key.read with
      | error e => exact ⟨e, rfl⟩
      | ok name =>
          have later : ∃ member ∈ rest, ∀ name, member.1.read ≠ .ok name := by
            simpa [read] using misnamed
          simp only [ok_bind]
          split
          · -- a field, which may be there twice
            split_ifs
            · exact ⟨_, rfl⟩
            · exact exists_error_then (ih (name :: seen) later)
          · exact exists_error_then (ih seen later)

theorem readMembers_of_misnamed {α : Type} (fields : Fields α) (origin : Origin)
    {members : List (Lexeme String × Outline)} (ending : ObjectEnd)
    (misnamed : ∃ member ∈ members, ∀ name, member.1.read ≠ .ok name) :
    ∃ e, fields.readMembers origin members ending = .error e := by
  obtain ⟨e, stops⟩ := survey_of_misnamed fields.checks origin [] misnamed
  exact ⟨e, by rw [readMembers, stops]; rfl⟩

end Json.Fields

namespace ResponseFrame

/-! ## Texts of a frame -/

/-- The origin of what is inside the object of a frame: one of the levels is used up. -/
def inside : Origin := .text 127

/-- The text is an object whose members have names, no two the same.  Under `id` it holds the one
value, and under `data` the other, in which no key is repeated; `none` is for a member that is not
there. -/
inductive Holds (text : String) (id data : Option Json) : Prop
  | mk {members : List (Lexeme String × Outline)} {names : List String}
      (spells : Spells text (.object members .closed))
      (named : List.Forall₂ (fun member name => member.1.read = .ok name) members names)
      (distinct : names.Nodup)
      (isId : Option.Rel (fun o j => any inside o = .ok j) (Fields.find members "id") id)
      (isData : Option.Rel (Conveys inside) (Fields.find members "data") data)

/-- A part of a frame, read from its value, which must be there. -/
def part {α : Type} (name : String) (read : Reader α) : Option Json → Json.Result α
  | some j => ofValue read j
  | none => .mismatch (.missingField name)

/-- The frame that is made of the values of its id and its payload. -/
def ofParts (id data : Option Json) : Json.Result ResponseFrame := do
  let make ← (part "id" word64 id).map mk
  (part "data" Response.reader data).map make

theorem alike_part {α : Type} {read : Reader α} {R : Outline → Json → Prop} {origin : Origin}
    {name : String} {find : String → Option Outline} {found : Option Json}
    (alike : ∀ o j, R o j → Alike (· = ·) (read origin o) (ofValue read j))
    (related : Option.Rel R (find name) found) :
    Alike (· = ·) ((Fields.required name read).ofNames origin find) (part name read found) := by
  simp only [Fields.required, Fields.field]
  generalize find name = there at related
  cases related with
  | some holds => exact alike _ _ holds
  | none => exact .error

/-- **What a text decodes to** is determined by the id and the payload that it holds. -/
theorem alike_decode {text : String} {id data : Option Json} (holds : Holds text id data) :
    Alike (· = ·) (decode text) (ofParts id data) := by
  obtain ⟨spells, named, distinct, isId, isData⟩ := holds
  have laidOut := layOut_of_spells spells
  have passable := (pass_object_eq_ok_iff.mp (pass_of_spells spells)).1
  rw [decode, ofText_of_complete _ (by rw [laidOut]), laidOut]
  refine (Fields.alike_readMembers ?_ inside named distinct
    fun member mem => (passable member mem).2).trans ?_
  · apply_rules [Fields.checked_seq, Fields.checked_map, Fields.checked_field]
  rw [Fields.ofNames_seq, Fields.ofNames_map]
  have sameId := alike_part (fun o j => alike_word64) isId
  have sameData := alike_part (fun o j => Response.agrees inside o j) isData
  refine (sameId.map_eq mk).bind fun make _ same => ?_
  subst same
  exact sameData.map_eq make

/-- **Two texts with the same id and the same payload** decode to the same frame, or to none. -/
theorem decode_cases {text other : String} {id data : Option Json} (holds : Holds text id data)
    (holdsOther : Holds other id data) :
    decode text = decode other ∨
      ∃ e f, decode text = .error e ∧ decode other = .error f := by
  have alike := (alike_decode holds).trans (alike_decode holdsOther).symm
  generalize decode text = one, decode other = another at alike
  cases alike with
  | ok same => exact .inl (congrArg _ same)
  | @error e f => exact .inr ⟨e, f, rfl, rfl⟩

/-- The text is an object with a member whose name is no text: it has half of a surrogate pair. -/
def Misnamed (text : String) : Prop :=
  ∃ members, Spells text (.object members .closed) ∧
    ∃ member ∈ members, ∀ name, member.1.read ≠ .ok name

/-- **An object with a name that is no text** does not decode. -/
theorem decode_of_misnamed {text : String} (misnamed : Misnamed text) :
    ∃ e, decode text = .error e := by
  obtain ⟨members, spells, named⟩ := misnamed
  have laidOut := layOut_of_spells spells
  rw [decode, ofText_of_complete _ (by rw [laidOut]), laidOut]
  exact Fields.readMembers_of_misnamed _ inside .closed named

/-! ## Written frames -/

/-- **A written frame** holds its id and its payload. -/
theorem holds_encode {f : ResponseFrame} (writable : f.Writable) :
    Holds f.encode (some (.nat f.id)) (some f.data.toJson.canonical) := by
  have integral : f.toJson.Integral := by
    simp [toJson, Response.integral_toJson writable.integral]
  have room : inside.Fits f.data.toJson :=
    writable.nested _ (List.mem_cons_of_mem _ List.mem_cons_self)
  have conveys : Conveys inside (ofJson f.data.toJson) f.data.toJson.canonical :=
    ⟨any_ofJson _ room, Response.keysDistinct_toJson writable.ordered⟩
  refine .mk (spells_write integral) (Fields.named_ofMembers _) (by simp) ?_ ?_
  · exact .some rfl
  · exact .some conveys

/-- **Every spelling of a frame** decodes as that frame. -/
theorem decode_of_holds {f : ResponseFrame} (writable : f.Writable) {text : String}
    (holds : Holds text (some (.nat f.id)) (some f.data.toJson.canonical)) :
    decode text = .ok f := by
  have decoded := decode_encode writable
  rcases decode_cases holds (holds_encode writable) with same | ⟨e, e', -, refused⟩
  · exact same.trans decoded
  · rw [decoded] at refused
    cases refused

end ResponseFrame

/-- A text that cannot be decoded leaves everything as it is. -/
theorem Desk.step_of_undecodable (d : Desk) {text : String} {e : Json.ReadError}
    (bad : ResponseFrame.decode text = .error e) :
    d.step (.message text) = ⟨d, .error (.undecodable e), [], []⟩ := by
  show d.handled (d.session.handle d.store text) = _
  rw [Session.handle_of_undecodable _ bad]
  rfl

/-- **What a frame does depends on its id and its payload only.**  Take two texts, each one object
with no key twice, neither in the object nor in its payload, which hold equal ids and equal
payloads, or lack the same of the two.  However they are written, and whatever other members they
have, the session and the store end in the same state, the same is logged and told to the listeners,
and the reply is the same, except that a text that cannot be decoded may be refused for another
reason.

The members have names that are texts.  An object with another name cannot be decoded, whatever its
id and its payload, and leaves everything as it is. -/
theorem frame_decided_by_id_and_data (d : Desk) :
    (∀ (text other : String) (id data : Option Json),
      ResponseFrame.Holds text id data → ResponseFrame.Holds other id data →
      let o := d.step (.message text)
      let o' := d.step (.message other)
      o.desk = o'.desk ∧ o.log = o'.log ∧ o.deliveries = o'.deliveries ∧
        (o.reply = o'.reply ∨
          ∃ e f, o.reply = .error (.undecodable e) ∧ o'.reply = .error (.undecodable f))) ∧
    ∀ text, ResponseFrame.Misnamed text →
      ∃ e, d.step (.message text) = ⟨d, .error (.undecodable e), [], []⟩ := by
  constructor
  · intro text other id data holds holdsOther o o'
    rcases ResponseFrame.decode_cases holds holdsOther with same | ⟨e, f, refused, refusedOther⟩
    · have handled : d.session.handle d.store text = d.session.handle d.store other := by
        simp only [Session.handle, same]
      have step : o = o' := congrArg d.handled handled
      rw [step]
      exact ⟨rfl, rfl, rfl, .inl rfl⟩
    · have first : o = ⟨d, .error (.undecodable e), [], []⟩ := d.step_of_undecodable refused
      have second : o' = ⟨d, .error (.undecodable f), [], []⟩ :=
        d.step_of_undecodable refusedOther
      rw [first, second]
      exact ⟨rfl, rfl, rfl, .inr ⟨e, f, rfl, rfl⟩⟩
  · intro text misnamed
    obtain ⟨e, bad⟩ := ResponseFrame.decode_of_misnamed misnamed
    exact ⟨e, d.step_of_undecodable bad⟩

/-- Two objects with the same id and the same payload.  One has another member, with half of a
surrogate pair for a name, and it alone is refused. -/
theorem half_a_pair_in_a_name_refused :
    let members : List (String × Json) := [("id", .nat broadcastId), ("data", .string "Ok")]
    let half := Spelled.quoted [.unit 0xd800]
    let plain := "\x7b\"id\":18446744073709551615,\"data\":\"Ok\"\x7d"
    let text := "\x7b\"\\ud800\":1,\"id\":18446744073709551615,\"data\":\"Ok\"\x7d"
    Spells plain (.object (ofMembers members) .closed) ∧
      Spells text (.object ((half, ofJson (.nat 1)) :: ofMembers members) .closed) ∧
      (Desk.empty.step (.message plain)).reply = .ok (.handled (.acknowledged none)) ∧
      ∃ e, (Desk.empty.step (.message text)).reply = .error (.undecodable e) := by
  intro members half plain text
  have integral : (Json.object members).Integral := by simp [members]
  have written : plain = ResponseFrame.encode ⟨broadcastId, .ok⟩ := by decide +kernel
  have spellsPlain : Spells plain (.object (ofMembers members) .closed) := by
    rw [written]
    exact spells_write integral
  have spells : Spells text (.object ((half, ofJson (.nat 1)) :: ofMembers members) .closed) := by
    have others := Spelled.members_toChars members integral (List.cons_ne_nil _ _) []
    have chars : text.toList = '\x7b' :: '"' :: '\\' :: 'u' :: 'd' :: '8' :: '0' :: '0' :: '"'
        :: ':' :: '1' :: ',' :: (membersToChars members ++ ['\x7d']) := by decide +kernel
    refine ⟨.nil _, ?_, .nil _⟩
    rw [chars]
    exact .object (.cons ⟨.nil _, .unit rfl (.closed _), .nil _, .nil _⟩
      (Spelled.value_toChars (.nat 1) trivial _) (.nil _) others)
  have decoded : ResponseFrame.decode plain = .ok ⟨broadcastId, .ok⟩ := by
    rw [written]
    exact ResponseFrame.decode_encode
      ⟨nofun, nofun, ResponseFrame.nestsWithin_iff.mpr ⟨nofun, nofun⟩⟩
  refine ⟨spellsPlain, spells, ?_, ?_⟩
  · show (Desk.empty.handled (Desk.empty.session.handle Desk.empty.store plain)).reply = _
    rw [Session.handle_of_broadcast _ decoded rfl]
    rfl
  · obtain ⟨e, bad⟩ :=
      ResponseFrame.decode_of_misnamed ⟨_, spells, _, List.mem_cons_self, fun _ => nofun⟩
    exact ⟨e, by rw [Desk.step_of_undecodable _ bad]⟩

/-! ## One frame in two spellings -/

namespace Respelled

open Json.Spelled

/-- A frame with one operation. -/
def frame : ResponseFrame := ⟨7, .patch [.remove "/a"]⟩

/-- The payload of the frame, with the members of the operation the other way round. -/
def payload : Json :=
  .object [("Patch", .list [.object [("path", .string "/a"), ("op", .string "remove")]])]

/-- A spelling of the payload. -/
def data : String := "\x7b\"Patch\":[\x7b\"path\":\"\\/a\",\"op\":\"remove\"\x7d]\x7d"

/-- JSON that stands for no value: a number beyond all numbers and half of a surrogate pair. -/
def unread : String := "[1e999,\"\\ud800\"]"

/-- The frame with its id at the end, with blanks and escapes, and with another member in front. -/
def text : String :=
  " \x7b\"far\":" ++ unread ++ ",\n\"d\\u0061ta\" : " ++ data ++ ",\t\"id\":7\x7d"

/-- Characters that need no escape stand for themselves. -/
theorem chars_plain (cs : List Char) (plain : ∀ c ∈ cs, c ≠ '"' ∧ c ≠ '\\' ∧ 0x20 ≤ c.toNat)
    (t : List Char) : Chars (cs ++ '"' :: t) (cs.map .char) t := by
  induction cs with
  | nil => exact .closed t
  | cons c cs ih =>
      obtain ⟨⟨notMark, notEscape, notControl⟩, others⟩ := List.forall_mem_cons.mp plain
      exact .plain notMark notEscape notControl (ih others)

theorem value_unread : ∃ o, ∀ t, Value (unread.toList ++ t) o t := by
  obtain ⟨huge, isHuge⟩ : ∃ o, ∀ t, Value ('1' :: 'e' :: '9' :: '9' :: '9' :: t) o t :=
    ⟨_, fun _ => .number (.unsigned ⟨.positive (.one rfl _) (by decide), .absent _,
      .present (.inl rfl) (.absent _) (.cons rfl (.cons rfl (.one rfl _)))⟩)⟩
  refine ⟨.list [huge, .quotation (quoted [.unit 0xd800])] .closed, fun t => ?_⟩
  simp only [unread, String.reduceToList, List.cons_append, List.nil_append]
  exact .list (.cons (.nil _) (isHuge _) (.nil _)
    (.last (.nil _) (.quotation (.unit rfl (.closed _))) (.nil _)))

theorem value_data (t : List Char) : Value (data.toList ++ t) (ofJson payload) t := by
  have patch (t : List Char) := chars_plain ['P', 'a', 't', 'c', 'h'] (by simp) t
  have path (t : List Char) := chars_plain ['p', 'a', 't', 'h'] (by simp) t
  have a (t : List Char) := chars_plain ['a'] (by simp) t
  have op (t : List Char) := chars_plain ['o', 'p'] (by simp) t
  have remove (t : List Char) := chars_plain ['r', 'e', 'm', 'o', 'v', 'e'] (by simp) t
  simp only [data, String.reduceToList, List.cons_append, List.nil_append]
  exact .object (.last ⟨.nil _, patch _, .nil _, .nil _⟩
    (.list (.last (.nil _) (.object
      (.cons ⟨.nil _, path _, .nil _, .nil _⟩ (.quotation (.escape rfl (a _))) (.nil _)
        (.last ⟨.nil _, op _, .nil _, .nil _⟩ (.quotation (remove _)) (.nil _))))
      (.nil _))) (.nil _))

theorem spells_text : ∃ o, Spells text (.object [(.ok "far", o), (.ok "data", ofJson payload),
    (.ok "id", .atom (.ok (.number (.natural 7))))] .closed) := by
  have blank {c : Char} (isBlank : isBlank c = true) (t : List Char) : Blanks (c :: t) t :=
    .cons isBlank (.nil t)
  have far (t : List Char) := chars_plain ['f', 'a', 'r'] (by simp) t
  have data (t : List Char) : Chars
      ('d' :: '\\' :: 'u' :: '0' :: '0' :: '6' :: '1' :: 't' :: 'a' :: '"' :: t)
      [.char 'd', .unit 0x61, .char 't', .char 'a'] t :=
    .plain (by decide) (by decide) (by decide) (.unit rfl (chars_plain ['t', 'a'] (by simp) t))
  have id (t : List Char) := chars_plain ['i', 'd'] (by simp) t
  have seven (t : List Char) : Value ('7' :: t) (.atom (.ok (.number (.natural 7)))) t :=
    .number (n := ⟨false, [7], none, none⟩)
      (.unsigned ⟨.positive (.one rfl t) (by decide), .absent t, .absent t⟩)
  obtain ⟨o, isUnread⟩ := value_unread
  refine ⟨o, ?_⟩
  constructor
  · simp only [text, String.toList_append, String.reduceToList, List.append_assoc,
      List.cons_append, List.nil_append]
    exact blank rfl _
  · exact .object
      (.cons ⟨.nil _, far _, .nil _, .nil _⟩ (isUnread _) (.nil _)
      (.cons ⟨blank rfl _, data _, blank rfl _, blank rfl _⟩ (value_data _) (.nil _)
      (.last ⟨blank rfl _, id _, .nil _, .nil _⟩ (seven _) (.nil _))))
  · exact .nil _

/-- The text holds what the frame holds. -/
theorem holds_text :
    ResponseFrame.Holds text (some (.nat frame.id)) (some frame.data.toJson.canonical) := by
  obtain ⟨o, spells⟩ := spells_text
  have nested : payload.NestsWithin 126 := by simp [payload, NestsWithin]
  have conveys : Conveys ResponseFrame.inside (ofJson payload) payload.canonical :=
    ⟨any_ofJson payload nested, by simp [payload]⟩
  constructor
  · exact spells
  · exact .cons rfl (.cons rfl (.cons rfl .nil))
  · show ["far", "data", "id"].Nodup
    decide
  · exact .some rfl
  · exact .some conveys

end Respelled

/-- A written frame and another spelling of it hold the same id and payload, so nothing tells the
two apart; and an object is refused for a name. -/
theorem respelled_like_written :
    let id := some (.nat Respelled.frame.id)
    let data := some Respelled.frame.data.toJson.canonical
    let written := Desk.empty.step (.message Respelled.frame.encode)
    let respelled := Desk.empty.step (.message Respelled.text)
    let misnamed := "\x7b\"\\ud800\":null\x7d"
    ResponseFrame.Holds Respelled.frame.encode id data ∧
      ResponseFrame.Holds Respelled.text id data ∧
      written.desk = respelled.desk ∧ written.log = respelled.log ∧
      written.deliveries = respelled.deliveries ∧
      (written.reply = respelled.reply ∨
        ∃ e f, written.reply = .error (.undecodable e) ∧
          respelled.reply = .error (.undecodable f)) ∧
      ∃ e, Desk.empty.step (.message misnamed) = ⟨.empty, .error (.undecodable e), [], []⟩ := by
  intro id data written respelled misnamed
  have writable : Respelled.frame.Writable :=
    ⟨by simp [Respelled.frame, Response.values, Json.Operation.values],
      by simp [Respelled.frame, Response.values, Json.Operation.values],
      by simp [Respelled.frame, ResponseFrame.nestsWithin_iff, Json.Operation.values]⟩
  have holds := ResponseFrame.holds_encode writable
  have chars : misnamed.toList = '\x7b' :: '"' :: '\\' :: 'u' :: 'd' :: '8' :: '0' :: '0' :: '"'
      :: ':' :: 'n' :: 'u' :: 'l' :: 'l' :: ['\x7d'] := by decide +kernel
  have spells : Spells misnamed
      (.object [(Spelled.quoted [.unit 0xd800], ofJson .null)] .closed) := by
    refine ⟨.nil _, ?_, .nil _⟩
    rw [chars]
    exact .object
      (.last ⟨.nil _, .unit rfl (.closed _), .nil _, .nil _⟩ (.null _) (.nil _))
  have unread : ∀ name, (Spelled.quoted [.unit 0xd800]).read ≠ .ok name := by
    rintro name ⟨⟩
  have isMisnamed : ResponseFrame.Misnamed misnamed :=
    ⟨_, spells, _, List.mem_singleton_self _, unread⟩
  obtain ⟨alike, refused⟩ := frame_decided_by_id_and_data .empty
  obtain ⟨desk, log, deliveries, reply⟩ := alike _ _ _ _ holds Respelled.holds_text
  exact ⟨holds, Respelled.holds_text, desk, log, deliveries, reply, refused misnamed isMisnamed⟩

end MixerPanel
