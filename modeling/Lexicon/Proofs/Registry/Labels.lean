import Lexicon.Proofs.Conformance.Labels

namespace Lexicon

open Lexicon.Outcome

/-!
# Ways in and their labels

Records, bodies of calls and values of any definition go through one check, each under a label of
its own.

* `Address.isNamedBy_iff` — which types name a collection;
* `validateRecord_of_named`, `validateRecord_of_other`, `validateRecord_of_untyped` — a record is
  checked as its schema says once it names its collection, and refused if it does not;
* `checkBody_alike` — bodies with equal schemas have the same verdicts below their labels;
* `entry_points_differ_in_labels` — all ways in differ in their labels only.
-/

/-- A type names an address if it parses to it. -/
theorem Address.isNamedBy_iff {address : Address} {type : String} :
    address.isNamedBy type = true ↔ Address.parse type none = .ok address := by
  unfold isNamedBy
  cases parse type none <;> simp

namespace Registry

variable {registry : Registry} {reference type : String} {address : Address}
  {schema : ObjectSchema} {fields : List (String × Value)} {value : Value}

/-! ### Records -/

/-- A value whose type names the collection is checked against the schema of its records. -/
theorem validateRecord_of_named (h : registry.recordAt reference = .ok (address, schema))
    (htype : fields.lookup "$type" = some (.string type))
    (hnamed : Address.parse type none = .ok address) :
    registry.validateRecord reference (.object fields) =
      registry.checkObject address.document schema (.object fields) "Record" := by
  rw [validateRecord, h, ok_bind]
  simp only [Value.bind_string?_eq_some.2 htype, if_pos (Address.isNamedBy_iff.2 hnamed)]

/-- A value whose type names something else, or cannot be read, is no record of the collection. -/
theorem validateRecord_of_other (h : registry.recordAt reference = .ok (address, schema))
    (htype : fields.lookup "$type" = some (.string type))
    (hother : Address.parse type none ≠ .ok address) :
    registry.validateRecord reference (.object fields) =
      .error (.violation "" (.recordTypeMismatch address.render type)) := by
  rw [validateRecord, h, ok_bind]
  simp only [Value.bind_string?_eq_some.2 htype, if_neg (mt Address.isNamedBy_iff.1 hother)]
  rfl

/-- A value that is no record for the lack of a type fails at the place of the type. -/
theorem validateRecord_of_untyped (h : registry.recordAt reference = .ok (address, schema))
    (htype : ∀ type, fields.lookup "$type" ≠ some (.string type)) :
    registry.validateRecord reference (.object fields) =
      .error (.violation "Record/$type" .notString) := by
  have hnone : (fields.lookup "$type").bind Value.string? = none := by
    rw [Option.eq_none_iff_forall_ne_some]
    exact fun type => mt Value.bind_string?_eq_some.1 (htype type)
  rw [validateRecord, h, ok_bind]
  simp only [hnone]
  rfl

/-- Any value at all is checked against a record definition as its records are. -/
theorem validate_of_record {description key : Option String}
    (hparse : Address.parse reference none = .ok address)
    (hresolve : registry.resolve address = .ok (.record description key schema)) :
    registry.validate reference value =
      registry.checkObject address.document schema value "Record" := by
  rw [validate, Address.locate_eq_ok.2 hparse, ok_bind, lookUp_eq_ok.2 hresolve]
  rfl

/-! ### Bodies -/

/-- Bodies with equal schemas, in one document, are checked alike below their labels. -/
theorem checkBody_alike {address' : Address} {body body' : Option Body} {label label' : Path}
    (hlabel : label ≠ "") (hlabel' : label' ≠ "") (hdocument : address.document = address'.document)
    (hschema : body.bind Body.schema = body'.bind Body.schema) (value : Value) :
    Alike (Failure.Moved label label') (registry.checkBody address body value label)
      (registry.checkBody address' body' value label') := by
  unfold checkBody
  rw [hschema, hdocument]
  cases body'.bind Body.schema with
  | none => exact .ok ()
  | some schema => exact checkValue_alike hlabel hlabel' address'.document schema value 0

/-- **All ways in are one check under different labels.**  Under two paths, neither of them empty, a
    value passes the same checks, or fails them with the same failure, told below either path.  So
    the input of one call and the output of another one, with equal schemas in one document, have
    the same verdict below `Input` and below `Output`.  An object that names a collection, in any
    spelling, is judged as a record of it just as any value is against the definition; a value that
    is no object, or that names no type, or another one, is no record. -/
theorem entry_points_differ_in_labels (registry : Registry) :
    (∀ base descriptor value hops p q, p ≠ "" → q ≠ "" →
      Alike (Failure.Moved p q) (registry.checkValue base descriptor value p hops)
        (registry.checkValue base descriptor value q hops)) ∧
    (∀ input output address address' body body' value,
      registry.inputAt input = .ok (address, body) →
      registry.outputAt output = .ok (address', body') →
      address.document = address'.document → body.bind Body.schema = body'.bind Body.schema →
      Alike (Failure.Moved "Input" "Output") (registry.validateInput input value)
        (registry.validateOutput output value)) ∧
    (∀ reference address description key schema, Address.parse reference none = .ok address →
      registry.resolve address = .ok (.record description key schema) →
      (∀ value type, value.get? "$type" = some (.string type) →
        Address.parse type none = .ok address →
        registry.validateRecord reference value = registry.validate reference value) ∧
      (∀ value, (∀ fields, value ≠ .object fields) →
        registry.validateRecord reference value = .error (.violation "Record" .notObject)) ∧
      (∀ fields, (∀ type, fields.lookup "$type" ≠ some (.string type)) →
        registry.validateRecord reference (.object fields) =
          .error (.violation "Record/$type" .notString)) ∧
      (∀ value type, value.get? "$type" = some (.string type) →
        Address.parse type none ≠ .ok address →
        registry.validateRecord reference value =
          .error (.violation "" (.recordTypeMismatch address.render type)))) := by
  refine ⟨fun base descriptor value hops p q hp hq => checkValue_alike hp hq base descriptor value
    hops, ?_, ?_⟩
  · intro input output address address' body body' value hinput houtput hdocument hschema
    rw [validateInput, validateOutput, hinput, houtput, ok_bind, ok_bind]
    exact checkBody_alike (by decide) (by decide) hdocument hschema value
  · intro reference address description key schema hparse hresolve
    have hrecord : registry.recordAt reference = .ok (address, schema) :=
      recordAt_eq_ok.2 ⟨hparse, description, key, hresolve⟩
    refine ⟨fun value type htype hnamed => ?_, fun value hplain => ?_,
      fun fields hfields => validateRecord_of_untyped hrecord hfields, fun value type htype h => ?_⟩
    · -- A definition of records checks an object against the same schema as its collection does.
      obtain ⟨fields, rfl, hlookup⟩ := Value.get?_eq_some.1 htype
      rw [validateRecord_of_named hrecord hlookup hnamed, validate_of_record hparse hresolve]
    · have hnone : value.object? = none := by
        cases value with
        | object fields => exact absurd rfl (hplain fields)
        | _ => rfl
      rw [validateRecord_of_plain hnone, hrecord]
      rfl
    · obtain ⟨fields, rfl, hlookup⟩ := Value.get?_eq_some.1 htype
      exact validateRecord_of_other hrecord hlookup h

/-- A theatre, which takes a seat and answers with a seat when one is booked. -/
def theatre : Registry where
  documents := [
    { Document.empty "com.example.ticket" with definitions := [
        ("main", .record none (some "tid")
          ⟨none, [("seats", .array none (.ref none "#seat") {})], ["seats"], []⟩),
        ("seat", .object ⟨none, [("row", .integer none { minimum := some 1 })], ["row"], []⟩),
        ("book", .procedure none none (some ⟨none, "application/json", some (.ref none "#seat")⟩)
          (some ⟨some "The seat", "text/json", some (.ref none "#seat")⟩) none)] }]

/-- A seat in a row that no theatre has. -/
def pitSeat : Value := .object [("row", .integer 0)]

/-- A ticket for that seat, which names its collection in a roundabout way. -/
def pitTicket : Value :=
  .object [("$type", .string "lex:com.example.ticket#main"), ("seats", .array [pitSeat])]

/-- The seat is refused for its row under every label, and so is the ticket, as a record and as any
    value; as the type of a record, that of a seat will not do. -/
theorem entry_points_differ_in_labels_theatre :
    Alike (Failure.Moved "Seat" "Left/box")
      (theatre.checkValue "com.example.ticket" (.ref none "#seat") pitSeat "Seat" 0)
      (.error (.violation "Left/box/row" (.belowMinimum 1))) ∧
    theatre.validateInput "com.example.ticket#book" pitSeat =
      .error (.violation "Input/row" (.belowMinimum 1)) ∧
    Alike (Failure.Moved "Input" "Output")
      (.error (.violation "Input/row" (.belowMinimum 1)))
      (theatre.validateOutput "com.example.ticket#book" pitSeat) ∧
    theatre.validate "com.example.ticket" pitTicket =
      .error (.violation "Record/seats/row" (.belowMinimum 1)) ∧
    theatre.validateRecord "com.example.ticket" pitTicket =
      theatre.validate "com.example.ticket" pitTicket ∧
    theatre.validateRecord "com.example.ticket" (.array [pitTicket]) =
      .error (.violation "Record" .notObject) ∧
    theatre.validateRecord "com.example.ticket" pitSeat =
      .error (.violation "Record/$type" .notString) ∧
    theatre.validateRecord "com.example.ticket"
        (.object [("$type", .string "com.example.ticket#seat")]) =
      .error (.violation "" (.recordTypeMismatch "lex:com.example.ticket"
        "com.example.ticket#seat")) := by
  obtain ⟨hpaths, hbodies, hrecords⟩ := entry_points_differ_in_labels theatre
  have hseat : theatre.checkValue "com.example.ticket" (.ref none "#seat") pitSeat "Left/box" 0 =
      .error (.violation "Left/box/row" (.belowMinimum 1)) := by cbv
  have hinput : theatre.validateInput "com.example.ticket#book" pitSeat =
      .error (.violation "Input/row" (.belowMinimum 1)) := by cbv
  have hticket : theatre.validate "com.example.ticket" pitTicket =
      .error (.violation "Record/seats/row" (.belowMinimum 1)) := by cbv
  have hparse : Address.parse "com.example.ticket" none =
      .ok ⟨"com.example.ticket", "main"⟩ := by cbv
  have hmarked : Address.parse "lex:com.example.ticket#main" none =
      .ok ⟨"com.example.ticket", "main"⟩ := by cbv
  have hother : Address.parse "com.example.ticket#seat" none =
      .ok ⟨"com.example.ticket", "seat"⟩ := by cbv
  have hmoved := hpaths "com.example.ticket" (.ref none "#seat") pitSeat 0 "Seat" "Left/box"
    (by decide) (by decide)
  have hbody := hbodies "com.example.ticket#book" "com.example.ticket#book" _ _ _ _ pitSeat rfl rfl
    rfl rfl
  obtain ⟨hnamed, hplain, huntyped, hmismatch⟩ := hrecords "com.example.ticket" _ _ _ _ hparse rfl
  refine ⟨hseat ▸ hmoved, hinput, hinput ▸ hbody, hticket,
    hnamed pitTicket _ rfl hmarked, hplain (.array [pitTicket]) (by simp),
    huntyped _ (by simp [Assoc.lookup_cons]), hmismatch _ _ rfl ?_⟩
  rw [hother]
  simp

end Registry

end Lexicon
