import Lexicon.Proofs.Conformance.Hops
import Lexicon.Proofs.Registry.Labels

namespace Lexicon

open Lexicon.Outcome

/-!
# The spelling of types

A value names its type by a reference, and references to one definition are spelled in several ways:
with the mark in front or not, and with the name of the main definition or not.  A union reads the
type of the value, and so does the next one that the value is led on to; records read it, too.  They
all compare addresses, so the spelling is of no account unless the type is described as a property.

* `Value.withType` — an object with a type, spelled in some way;
* `LeadsTo.respelled` — a value is led to the same address under every spelling;
* `EndsUntyped` — where a value may end up, so that its type is not looked at as a property;
* `checkValue_of_steps_respelled` — it is then judged alike, however far the way there is;
* `spelling_of_types_never_matters` — unions, and records.
-/

namespace Value

/-- An object whose type is named in some way, in the place of the type that it named before. -/
def withType (fields : List (String × Value)) (type : String) : Value :=
  .object (Assoc.insert fields "$type" (.string type))

theorem get?_withType (fields : List (String × Value)) (type : String) :
    (withType fields type).get? "$type" = some (.string type) :=
  Assoc.lookup_insert_self fields "$type" _

end Value

variable {first second : String} {given : Address} {fields : List (String × Value)}
  {place place' : String × Descriptor}

/-- Where a value may end up, so that the spelling of its type is not looked at any more: at an
    object that does not declare the type as a property, where nothing is known, or at a union that
    has the type for none of its members. -/
inductive EndsUntyped (value : Value) : String × Descriptor → Prop where
  | object {base schema} : "$type" ∉ Assoc.keys schema.properties →
      EndsUntyped value (base, .object schema)
  | unknown {base description} : EndsUntyped value (base, .unknown description)
  | stranger {base description members closed} :
      (∀ address, ¬ LeadsTo value (base, .union description members closed) address) →
      EndsUntyped value (base, .union description members closed)

/-! ### The way is the same -/

section Respelled

variable (hfirst : Address.parse first none = .ok given)
  (hsecond : Address.parse second none = .ok given)
include hfirst hsecond

/-- The type leads a value to where its other spellings lead it. -/
theorem LeadsTo.respelled {address : Address}
    (h : LeadsTo (Value.withType fields first) place address) :
    LeadsTo (Value.withType fields second) place address := by
  cases h with
  | ref hparse => exact .ref hparse
  | member hmembers htype hparse hmember =>
    rw [Value.get?_withType] at htype
    cases htype
    rw [hfirst] at hparse
    cases hparse
    exact .member hmembers (Value.get?_withType fields second) hsecond hmember

end Respelled

/-! ### Objects -/

/-- Of an object that differs in the type, all other properties are the same. -/
theorem lookup_withType {name : String} (h : name ≠ "$type") (first second : String) :
    (Assoc.insert fields "$type" (.string first)).lookup name =
      (Assoc.insert fields "$type" (.string second)).lookup name := by
  rw [Assoc.lookup_insert_of_ne h, Assoc.lookup_insert_of_ne h]

/-- The type is there in every spelling, so the same names are missing. -/
theorem checkRequiredNames_withType (required : List String) (path : Path) (first second : String) :
    checkRequiredNames required (Assoc.insert fields "$type" (.string first)) path =
      checkRequiredNames required (Assoc.insert fields "$type" (.string second)) path := by
  have hkeys : Assoc.hasKey (Assoc.insert fields "$type" (.string first)) =
      Assoc.hasKey (Assoc.insert fields "$type" (.string second)) := by
    funext name
    unfold Assoc.hasKey
    by_cases h : name = "$type"
    · rw [h, Assoc.lookup_insert_self, Assoc.lookup_insert_self, Option.isSome_some,
        Option.isSome_some]
    · rw [lookup_withType h first second]
  unfold checkRequiredNames
  rw [hkeys]

namespace Registry

variable {registry : Registry} {base : String} {hops k : Nat} {path : Path}

/-- An object schema that does not declare the type has no check for how it is spelled. -/
theorem checkObject_withType {schema : ObjectSchema} (h : "$type" ∉ Assoc.keys schema.properties)
    (first second : String) :
    registry.checkObject base schema (Value.withType fields first) path =
      registry.checkObject base schema (Value.withType fields second) path := by
  unfold Value.withType
  rw [checkObject_eq, checkObject_eq, checkRequiredNames_withType _ _ first second]
  refine congrArg _ (funext fun _ => forM_congr fun property hmem => ?_)
  have hname : property.1 ≠ "$type" := by
    rintro hname
    exact h (hname ▸ List.mem_map_of_mem hmem)
  have hlookup : (Assoc.insert fields "$type" (.string first)).lookup property.1 =
      (Assoc.insert fields "$type" (.string second)).lookup property.1 :=
    lookup_withType hname first second
  cases hfield : (Assoc.insert fields "$type" (.string first)).lookup property.1 with
  | none => rw [checkProperty_of_none hfield, checkProperty_of_none (hlookup ▸ hfield)]
  | some field => rw [checkProperty_of_some hfield, checkProperty_of_some (hlookup ▸ hfield)]

section Respelled

variable (hfirst : Address.parse first none = .ok given)
  (hsecond : Address.parse second none = .ok given)
include hfirst hsecond

/-- Where the type is not looked at as a property, its spelling is of no account. -/
theorem checkValue_of_endsUntyped (h : EndsUntyped (Value.withType fields first) place) :
    registry.checkValue place.1 place.2 (Value.withType fields first) path hops =
      registry.checkValue place.1 place.2 (Value.withType fields second) path hops := by
  cases h with
  | object hproperties =>
    rw [checkValue, checkValue]
    exact checkObject_withType hproperties first second
  | unknown => rw [checkValue_unknown, checkValue_unknown]
  | @stranger base description members closed hstranger =>
    have htype (type : String) :
        ((Value.withType fields type).get? "$type").bind Value.string? = some type :=
      Value.bind_string?_eq_some.2 (Value.get?_withType fields type)
    rw [checkValue, checkValue, htype, htype]
    dsimp only
    cases haddresses : unionMembers base members with
    | error failure => rfl
    | ok addresses =>
      rw [ok_bind, ok_bind, Address.locate_eq_ok.2 hfirst, Address.locate_eq_ok.2 hsecond, ok_bind,
        ok_bind]
      -- The type is none of the members, or the union would lead on.
      have hother : ¬ addresses.contains given := fun hcontains => hstranger given
        (.member (exists_unionMembers_eq_ok.1 ⟨addresses, haddresses⟩)
          (Value.get?_withType fields first) hfirst
          ((mem_unionMembers haddresses).1 (List.contains_iff_mem.1 hcontains)))
      rw [if_neg hother, if_neg hother]

/-- **Spellings lead to the same verdict.**  By induction on the hops that lead to the end: each of
    them is made under both spellings, or is one too many under both. -/
theorem checkValue_of_steps_respelled
    (h : Steps (registry.Hop (Value.withType fields first)) k place place')
    (hend : EndsUntyped (Value.withType fields first) place') (hops : Nat) :
    registry.checkValue place.1 place.2 (Value.withType fields first) path hops =
      registry.checkValue place.1 place.2 (Value.withType fields second) path hops := by
  induction h generalizing hops with
  | refl place => exact checkValue_of_endsUntyped hfirst hsecond hend
  | head hhop _ ih =>
    have hhop' := hhop
    obtain ⟨hleads, hresolve⟩ := hhop'
    -- The hop is one for the other spelling as well.
    have hhop' := Hop.mk (hleads.respelled hfirst hsecond) hresolve
    by_cases hlt : hops < registry.settings.maxHops
    · rw [checkValue_of_hop hhop hlt, checkValue_of_hop hhop' hlt]
      exact ih hend (hops + 1)
    · rw [checkValue_gives_up hhop hlt, checkValue_gives_up hhop' hlt]

end Respelled

/-- **The spelling of a type never matters.**  Take two spellings of one address.  If hops lead an
    object of that type from a union to where its type is not looked at as a property, then the
    union judges it alike under both spellings, failures included.  A record is refused for its type
    exactly when the type does not stand for the collection, and where the collection does not
    declare the type as a property, records have one verdict for all spellings. -/
theorem spelling_of_types_never_matters (registry : Registry) :
    (∀ base description members closed fields first second given,
      Address.parse first none = .ok given → Address.parse second none = .ok given →
      ∀ k place, Steps (registry.Hop (Value.withType fields first)) k
          (base, .union description members closed) place →
        EndsUntyped (Value.withType fields first) place → ∀ path hops,
        registry.checkValue base (.union description members closed)
            (Value.withType fields first) path hops =
          registry.checkValue base (.union description members closed)
            (Value.withType fields second) path hops) ∧
    (∀ reference address description key schema, Address.parse reference none = .ok address →
      registry.resolve address = .ok (.record description key schema) →
      (∀ fields type,
        registry.validateRecord reference (Value.withType fields type) =
            .error (.violation "" (.recordTypeMismatch address.render type)) ↔
          Address.parse type none ≠ .ok address) ∧
      ("$type" ∉ Assoc.keys schema.properties → ∀ fields first second,
        Address.parse first none = .ok address → Address.parse second none = .ok address →
        registry.validateRecord reference (Value.withType fields first) =
          registry.validateRecord reference (Value.withType fields second))) := by
  refine ⟨fun base description members closed fields first second given hfirst hsecond k place
    hsteps hend path hops => checkValue_of_steps_respelled hfirst hsecond hsteps hend hops, ?_⟩
  intro reference address description key schema hparse hresolve
  have hrecord : registry.recordAt reference = .ok (address, schema) :=
    recordAt_eq_ok.2 ⟨hparse, description, key, hresolve⟩
  -- In all spellings the type is there.
  have htype (fields : List (String × Value)) (type : String) :
      (Assoc.insert fields "$type" (.string type)).lookup "$type" = some (.string type) :=
    Value.get?_withType fields type
  refine ⟨fun fields type => ⟨fun hmismatch hnamed => ?_, fun hother => ?_⟩,
    fun hproperties fields first second hfirst hsecond => ?_⟩
  · -- What the schema says is told below the label of records.
    unfold Value.withType at hmismatch
    rw [validateRecord_of_named hrecord (htype fields type) hnamed] at hmismatch
    obtain ⟨suffix, hpath⟩ := exists_suffix_of_checkObject (by decide) hmismatch
    simp at hpath
  · exact validateRecord_of_other hrecord (htype fields type) hother
  · unfold Value.withType
    rw [validateRecord_of_named hrecord (htype fields first) hfirst,
      validateRecord_of_named hrecord (htype fields second) hsecond]
    exact checkObject_withType hproperties first second

/-- A depot for parcels, which may be described as boxes, and for letters, of which it knows only
    that they are no parcels. -/
def depot : Registry where
  documents := [
    { Document.empty "com.example.depot" with definitions := [
        ("main", .record none (some "tid")
          ⟨none, [("floor", .integer none { maximum := some 3 })], [], []⟩)] },
    { Document.empty "com.example.parcel" with definitions := [
        ("main", .ref none "#box"),
        ("box", .object ⟨none, [("weight", .integer none { minimum := some 1 })], ["weight"], []⟩),
        ("letter", .union none ["#main"] (some true))] }]

/-- What the depot takes in. -/
def freight : Descriptor :=
  .union none ["com.example.parcel", "com.example.parcel#letter"] (some true)

/-- A parcel and a letter are refused for the same reasons under every spelling of their types, and
    a record of the depot is, too; one of another type is refused for its type. -/
theorem spelling_of_types_never_matters_depot :
    Address.parse "lex:com.example.parcel#main" none = .ok ⟨"com.example.parcel", "main"⟩ ∧
    Address.parse "com.example.parcel" none = .ok ⟨"com.example.parcel", "main"⟩ ∧
    depot.checkValue "com.example.depot" freight
        (Value.withType [("weight", .integer 0)] "lex:com.example.parcel#main") "Object" 0 =
      .error (.violation "Object/weight" (.belowMinimum 1)) ∧
    depot.checkValue "com.example.depot" freight
        (Value.withType [("weight", .integer 0)] "com.example.parcel") "Object" 0 =
      .error (.violation "Object/weight" (.belowMinimum 1)) ∧
    depot.checkValue "com.example.depot" freight
        (Value.withType [] "lex:com.example.parcel#letter") "Object" 0 =
      depot.checkValue "com.example.depot" freight
        (Value.withType [] "com.example.parcel#letter") "Object" 0 ∧
    depot.validateRecord "com.example.depot"
        (Value.withType [("floor", .integer 4)] "com.example.depot#main") =
      depot.validateRecord "com.example.depot"
        (Value.withType [("floor", .integer 4)] "lex:com.example.depot") ∧
    depot.validateRecord "com.example.depot" (Value.withType [] "com.example.parcel") =
      .error (.violation "" (.recordTypeMismatch "lex:com.example.depot" "com.example.parcel")) := by
  obtain ⟨hunions, hrecords⟩ := spelling_of_types_never_matters depot
  have hmain : Address.parse "lex:com.example.parcel#main" none =
      .ok ⟨"com.example.parcel", "main"⟩ := by cbv
  have hshort : Address.parse "com.example.parcel" none =
      .ok ⟨"com.example.parcel", "main"⟩ := by cbv
  have hletter : Address.parse "lex:com.example.parcel#letter" none =
      .ok ⟨"com.example.parcel", "letter"⟩ := by cbv
  have hbare : Address.parse "com.example.parcel#letter" none =
      .ok ⟨"com.example.parcel", "letter"⟩ := by cbv
  have hdepot : Address.parse "com.example.depot" none = .ok ⟨"com.example.depot", "main"⟩ := by cbv
  have hlong : Address.parse "com.example.depot#main" none =
      .ok ⟨"com.example.depot", "main"⟩ := by cbv
  have hmarked : Address.parse "lex:com.example.depot" none =
      .ok ⟨"com.example.depot", "main"⟩ := by cbv
  have hparcel : Address.parse "com.example.parcel" (some "com.example.depot") =
      .ok ⟨"com.example.parcel", "main"⟩ := by cbv
  have hthere : Address.parse "com.example.parcel#letter" (some "com.example.depot") =
      .ok ⟨"com.example.parcel", "letter"⟩ := by cbv
  have hbox : Address.parse "#box" (some "com.example.parcel") =
      .ok ⟨"com.example.parcel", "box"⟩ := by cbv
  have hlocal : Address.parse "#main" (some "com.example.parcel") =
      .ok ⟨"com.example.parcel", "main"⟩ := by cbv
  have hmembers (member : String) (hmember : member ∈ ["com.example.parcel",
      "com.example.parcel#letter"]) :
      ∃ address, Address.parse member (some "com.example.depot") = .ok address := by
    simp only [List.mem_cons, List.not_mem_nil, or_false] at hmember
    rcases hmember with rfl | rfl
    · exact ⟨_, hparcel⟩
    · exact ⟨_, hthere⟩
  -- The parcel is led on by its type, and then by a reference.
  have hunion := hunions "com.example.depot" none _ (some true) [("weight", .integer 0)] _ _ _
    hmain hshort 2 _
    (.head (.mk (.member hmembers rfl hmain ⟨_, List.mem_cons_self, hparcel⟩) rfl)
      (.head (.mk (.ref hbox) rfl) (.refl _)))
    (.object (by decide)) "Object" 0
  have hheavy : depot.checkValue "com.example.depot" freight
      (Value.withType [("weight", .integer 0)] "lex:com.example.parcel#main") "Object" 0 =
        .error (.violation "Object/weight" (.belowMinimum 1)) := by cbv
  -- The letter is led to another union, which has no letter among its members.
  have hstranger (address : Address) :
      ¬ LeadsTo (Value.withType [] "lex:com.example.parcel#letter")
        ("com.example.parcel", .union none ["#main"] (some true)) address := by
    rintro (_ | ⟨-, htype, hgiven, member, hmember, hread⟩)
    cases htype
    cases hletter.symm.trans hgiven
    rw [List.mem_singleton] at hmember
    rw [hmember, hlocal] at hread
    simp at hread
  have hrefused := hunions "com.example.depot" none _ (some true) [] _ _ _ hletter hbare 1 _
    (.head (.mk (.member hmembers rfl hletter ⟨_, List.mem_cons_of_mem _ List.mem_cons_self,
      hthere⟩) rfl) (.refl _))
    (.stranger hstranger) "Object" 0
  obtain ⟨hmismatch, hsame⟩ := hrecords "com.example.depot" _ _ _ _ hdepot rfl
  refine ⟨hmain, hshort, hheavy, hunion.symm.trans hheavy, hrefused,
    hsame (by decide) _ _ _ hlong hmarked, (hmismatch [] "com.example.parcel").2 ?_⟩
  rw [hshort]
  simp

end Registry

end Lexicon
