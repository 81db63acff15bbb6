import Lexicon.Proofs.Defaults.Fill
import Lexicon.Proofs.Descriptor.Canonical
import Lexicon.Proofs.Registry.Counterparts

namespace Lexicon.Registry

open Lexicon.Outcome

/-!
# Canonical references keep all answers

A relative reference is read in the document in which the walk through a value is at the moment.  A
registry may just as well have all its references in canonical form.

* `checkValue_canonical` — every check comes out the same;
* `fillProperties_canonical` — so does every filling;
* `meetCounterparts_canonical` — a reference leads to a definition and to its canonical form;
* `canonical_keeps_answers` — and so does every answer of the registry.

What carries the induction is that the document of the walk is always a proper part of a reference:
it was one at the start, and each hop leads to a document that a reference names.
-/

variable {registry : Registry} {base : String} {hops : Nat}

/-! ### References -/

/-- A canonical reference leads to where the reference leads. -/
theorem locate_canonicalReference (hbase : IsReferencePart base) (reference : String) :
    Address.locate (canonicalReference base reference) (some base) =
      Address.locate reference (some base) := by
  unfold Address.locate
  rw [parse_canonicalReference hbase]

/-- What a reference leads to from a proper document has a proper document itself. -/
theorem isReferencePart_of_locate {reference : String} {address : Address}
    (hbase : ∀ b ∈ (some base), IsReferencePart b)
    (h : Address.locate reference (some base) = .ok address) :
    IsReferencePart address.document :=
  (Address.isProper_of_parse hbase (Address.locate_eq_ok.1 h)).document

/-- Members in canonical form are the same addresses. -/
theorem unionMembers_canonical (hbase : IsReferencePart base) (members : List String) :
    unionMembers base (members.map (canonicalReference base)) = unionMembers base members := by
  unfold unionMembers
  rw [List.mapM_map]
  congr 1
  funext member
  exact locate_canonicalReference hbase member

/-! ### Checks -/

/-- One hop leads to the same verdict, if the check behind it does. -/
theorem checkTarget_canonical {address : Address} {value : Value} {path : Path}
    (hnext : hops < registry.settings.maxHops → ∀ descriptor,
      registry.canonical.checkValue address.document (descriptor.canonical address.document) value
          path (hops + 1) =
        registry.checkValue address.document descriptor value path (hops + 1)) :
    registry.canonical.checkTarget address value path hops =
      registry.checkTarget address value path hops := by
  rw [checkTarget, checkTarget]
  show (if hops < registry.settings.maxHops then _ else _) = _
  by_cases hlt : hops < registry.settings.maxHops
  · rw [if_pos hlt, if_pos hlt, lookUp_canonical]
    cases registry.lookUp address with
    | error failure => rfl
    | ok descriptor => exact hnext hlt descriptor
  · rw [if_neg hlt, if_neg hlt]
    rfl

/-- **Checks come out the same.**  With canonical references, every check has the verdict that it
    had before, path and all.  By induction along the validator. -/
theorem checkValue_canonical (hbase : IsReferencePart base) (descriptor : Descriptor)
    (value : Value) (path : Path) (hops : Nat) :
    registry.canonical.checkValue base (descriptor.canonical base) value path hops =
      registry.checkValue base descriptor value path hops := by
  induction value, hops using value_hops_induction registry.settings.maxHops
    generalizing base descriptor path with
  | step value hops ihvalue ihhops =>
    -- The document of an address that was read can be named, so the induction goes on in it.
    have htarget (address : Address) (hdocument : IsReferencePart address.document) :
        registry.canonical.checkTarget address value path hops =
          registry.checkTarget address value path hops :=
      checkTarget_canonical fun hlt target => ihhops hlt hdocument target path
    have hbase' : ∀ b ∈ some base, IsReferencePart b := fun b hb => Option.some.inj hb ▸ hbase
    cases descriptor with
    | array description items rules =>
      cases value with
      | array values =>
        rw [Descriptor.canonical, checkArray_eq, checkArray_eq]
        refine congrArg _ (funext fun _ => forM_congr fun item hmem => ?_)
        exact ihvalue item 0 (sizeOf_item_lt hmem) hbase items path
      | _ => unfold Descriptor.canonical checkValue; rfl
    | object schema =>
      cases value with
      | object fields =>
        rw [Descriptor.canonical, checkValue, checkValue, checkObject_eq, checkObject_eq,
          ObjectSchema.required_canonical, ObjectSchema.isNullable_canonical,
          ObjectSchema.properties_canonical, Descriptor.canonicalEntries_eq]
        refine congrArg _ (funext fun _ => List.forM_map.trans (forM_congr fun property _ => ?_))
        refine checkProperty_congr fun field hfield => ?_
        exact ihvalue field 0 (sizeOf_field_lt hfield) hbase property.2 _
      | _ => rw [Descriptor.canonical, checkValue, checkValue]; unfold checkObject; rfl
    | ref description target =>
      rw [Descriptor.canonical, checkValue, checkValue, locate_canonicalReference hbase]
      cases hlocate : Address.locate target (some base) with
      | error failure => rfl
      | ok address => exact htarget address (isReferencePart_of_locate hbase' hlocate)
    | union description members closed =>
      rw [Descriptor.canonical, checkValue, checkValue, unionMembers_canonical hbase]
      cases (value.get? "$type").bind Value.string? with
      | none => rfl
      | some type =>
        dsimp only
        cases unionMembers base members with
        | error failure => rfl
        | ok addresses =>
          cases hgiven : Address.locate type none with
          | error failure => rfl
          | ok given =>
            -- The type of a value stands alone, and so names its document.
            have hproper : given.IsProper :=
              Address.isProper_of_parse (by simp) (Address.locate_eq_ok.1 hgiven)
            rw [ok_bind, ok_bind, ok_bind, ok_bind, htarget given hproper.document]
    | _ => unfold Descriptor.canonical checkValue; rfl

/-- Parameters with canonical references judge as before. -/
theorem checkParams_canonical (hbase : IsReferencePart base) (schema : ParamsSchema)
    (value : Value) (label : Path) :
    registry.canonical.checkParams base (schema.canonical base) value label =
      registry.checkParams base schema value label := by
  cases value with
  | object fields =>
    rw [checkParams_eq, checkParams_eq, ParamsSchema.required_canonical,
      ParamsSchema.properties_canonical, Descriptor.canonicalEntries_eq]
    refine congrArg _ (funext fun _ => List.forM_map.trans (forM_congr fun property _ => ?_))
    refine checkProperty_congr fun field _ => ?_
    exact checkValue_canonical hbase property.2 field _ 0
  | _ => rfl

/-! ### Fillings -/

/-- The references lead to the same descriptor, made canonical in the same document. -/
theorem followRefs_canonical (hbase : IsReferencePart base) (descriptor : Descriptor) (path : Path)
    (hops : Nat) :
    registry.canonical.followRefs base (descriptor.canonical base) path hops =
      (registry.followRefs base descriptor path hops).map fun target =>
        (target.1, target.2.canonical target.1) := by
  induction hleft : registry.settings.maxHops - hops generalizing base descriptor hops with
  | zero =>
    cases descriptor with
    | ref description target =>
      have hlt : ¬ hops < registry.settings.maxHops := by omega
      have hlt' : ¬ hops < registry.canonical.settings.maxHops := hlt
      rw [Descriptor.canonical, followRefs, followRefs, if_neg hlt, if_neg hlt']
      rfl
    | _ => unfold Descriptor.canonical; simp only [followRefs]; rfl
  | succ left ih =>
    cases descriptor with
    | ref description target =>
      have hlt : hops < registry.settings.maxHops := by omega
      have hlt' : hops < registry.canonical.settings.maxHops := hlt
      rw [Descriptor.canonical, followRefs_ref hlt, followRefs_ref hlt',
        locate_canonicalReference hbase]
      cases hlocate : Address.locate target (some base) with
      | error failure => rfl
      | ok address =>
        -- The next reference stands in the document that this one names.
        have hdocument : IsReferencePart address.document :=
          isReferencePart_of_locate (fun b hb => Option.some.inj hb ▸ hbase) hlocate
        rw [ok_bind, ok_bind, lookUp_canonical]
        cases registry.lookUp address with
        | error failure => rfl
        | ok next => exact ih hdocument next (hops + 1) (by omega)
    | _ => unfold Descriptor.canonical; simp only [followRefs]; rfl

/-- The references lead from a proper document to a proper document. -/
theorem isReferencePart_of_followRefs {descriptor : Descriptor} {path : Path}
    {target : String × Descriptor} (hbase : IsReferencePart base)
    (h : registry.followRefs base descriptor path hops = .ok target) :
    IsReferencePart target.1 := by
  fun_induction followRefs registry base descriptor path hops with
  | case1 base hops description reference hlt ih =>
    obtain ⟨address, hlocate, h⟩ := bind_eq_ok.1 h
    obtain ⟨next, -, h⟩ := bind_eq_ok.1 h
    have hdocument : IsReferencePart address.document :=
      isReferencePart_of_locate (fun b hb => Option.some.inj hb ▸ hbase) hlocate
    exact ih address next hdocument h
  | case2 => cases h
  | case3 => cases h; exact hbase

/-- A default does not depend on references. -/
theorem default?_canonical (base : String) (descriptor : Descriptor) :
    (descriptor.canonical base).default? = descriptor.default? := by
  cases descriptor <;> rfl

/-- A property is filled alike, if all smaller objects are. -/
theorem fillProperty_canonical (hbase : IsReferencePart base) (name : String)
    (descriptor : Descriptor) (fields : List (String × Value)) (path : Path)
    (hinner : ∀ inner, sizeOf inner < sizeOf fields → ∀ base, IsReferencePart base →
      ∀ properties path filled,
        registry.canonical.fillProperties base (Descriptor.canonicalEntries base properties) inner
            path filled =
          registry.fillProperties base properties inner path filled) :
    registry.canonical.fillProperty base name (descriptor.canonical base) fields path =
      registry.fillProperty base name descriptor fields path := by
  cases hfield : fields.lookup name with
  | none =>
    rw [fillProperty_of_none hfield, fillProperty_of_none hfield, default?_canonical]
  | some field =>
    cases field with
    | object inner =>
      rw [fillProperty_of_object hfield, fillProperty_of_object hfield,
        followRefs_canonical hbase]
      cases htarget : registry.followRefs base descriptor (path.child name) 0 with
      | error failure => rfl
      | ok target =>
        have hdocument := isReferencePart_of_followRefs hbase htarget
        obtain ⟨document, definition⟩ := target
        cases definition with
        | object schema =>
          -- The object is filled in the document in which the references end.
          have hfill := hinner inner (sizeOf_inner_lt hfield) document hdocument
            schema.properties (path.child name) inner
          rw [← ObjectSchema.properties_canonical] at hfill
          show (registry.canonical.fillProperties document (schema.canonical document).properties
            inner (path.child name) inner >>= fun inner => pure (some (Value.object inner))) = _
          rw [hfill]
          rfl
        | _ => rfl
    | _ => rw [fillProperty_of_plain hfield rfl, fillProperty_of_plain hfield rfl]

/-- **Fillings come out the same.**  With canonical references, the entries of every object are
    filled as they were before. -/
theorem fillProperties_canonical (hbase : IsReferencePart base)
    (properties : List (String × Descriptor)) (fields : List (String × Value)) (path : Path)
    (filled : List (String × Value)) :
    registry.canonical.fillProperties base (Descriptor.canonicalEntries base properties) fields
        path filled =
      registry.fillProperties base properties fields path filled := by
  induction hsize : sizeOf fields using Nat.strong_induction_on
    generalizing base properties fields path filled with
  | _ size ihsize =>
    -- The objects below the entries are smaller; the properties come one after the other.
    have hinner : ∀ inner, sizeOf inner < sizeOf fields → ∀ base, IsReferencePart base →
        ∀ properties path filled,
          registry.canonical.fillProperties base (Descriptor.canonicalEntries base properties)
              inner path filled =
            registry.fillProperties base properties inner path filled :=
      fun inner hlt base hbase properties path filled =>
        ihsize _ (hsize ▸ hlt) hbase properties inner path filled rfl
    induction properties generalizing filled with
    | nil => rw [Descriptor.canonicalEntries, fillProperties, fillProperties]
    | cons property rest ih =>
      obtain ⟨name, descriptor⟩ := property
      have hproperty := fillProperty_canonical hbase name descriptor fields path hinner
      rw [Descriptor.canonicalEntries, fillProperties_cons, fillProperties_cons, hproperty]
      refine congrArg _ (funext fun value => ?_)
      exact ih _

/-- Properties with canonical references fill as before. -/
theorem fill_canonical (hbase : IsReferencePart base) (properties : List (String × Descriptor))
    (value : Value) (label : Path) :
    registry.canonical.fill base (Descriptor.canonicalEntries base properties) value label =
      registry.fill base properties value label := by
  cases value with
  | object fields =>
    rw [fill_object, fill_object, fillProperties_canonical hbase]
  | _ => rfl

/-! ### All answers -/

/-- The second descriptor is the canonical form of the first one, in a document that references can
    name. -/
def IsCanonicalForm (document : String) (descriptor descriptor' : Descriptor) : Prop :=
  IsReferencePart document ∧ descriptor' = descriptor.canonical document

/-- The second schema is the canonical form of the first one, in a document that references can
    name. -/
def IsCanonicalParams (document : String) (schema schema' : ParamsSchema) : Prop :=
  IsReferencePart document ∧ schema' = schema.canonical document

/-- A definition is met by its canonical form: all parts of it are made canonical. -/
theorem counterparts_canonical (hbase : IsReferencePart base) (definition : Descriptor) :
    Descriptor.Counterparts (IsCanonicalForm base) (IsCanonicalParams base) definition
      (definition.canonical base) := by
  -- In canonical form there is a body, or a schema in it, where there was one before.
  have hbody (body : Option Body) : Option.Rel (IsCanonicalForm base) (body.bind Body.schema)
      ((Body.canonicalIfAny base body).bind Body.schema) := by
    rw [Body.schema_canonicalIfAny]
    exact relOption_map fun _ _ => ⟨hbase, rfl⟩
  have hparams (parameters : Option ParamsSchema) : Option.Rel (IsCanonicalParams base) parameters
      (ParamsSchema.canonicalIfAny base parameters) := by
    rw [ParamsSchema.canonicalIfAny_eq]
    exact relOption_map fun _ _ => ⟨hbase, rfl⟩
  refine ⟨⟨hbase, Descriptor.described_canonical base definition⟩,
    (Descriptor.rootLabel_canonical base definition).symm, ?_, ?_, ?_, ?_⟩
  · cases definition with
    | record description key schema => exact .some ⟨hbase, rfl⟩
    | _ => exact .none
  · cases definition with
    | query description parameters output errors
    | procedure description parameters input output errors => exact .some (hparams parameters)
    | _ => exact .none
  · cases definition with
    | procedure description parameters input output errors => exact .some (hbody input)
    | _ => exact .none
  · cases definition with
    | query description parameters output errors
    | procedure description parameters input output errors => exact .some (hbody output)
    | _ => exact .none

/-- A definition with canonical references stands in for the original, in every role. -/
theorem meetCounterparts_canonical (α : Type) (registry : Registry) :
    MeetCounterparts (Eq : Except Failure α → Except Failure α → Prop) IsCanonicalForm
      IsCanonicalParams registry registry.canonical := by
  refine .of_related (fun _ => rfl) fun address hdocument => ?_
  rw [lookUp_canonical]
  cases registry.lookUp address with
  | error failure => exact .error failure
  | ok definition => exact .ok (counterparts_canonical hdocument definition)

/-- **Canonical references keep all answers.**  If every reference and every member of a union is
    replaced by its canonical form, read in its own document, wherever it has one, then every check
    and every filling comes out as before: the same value, or the same failure with the same path. -/
theorem canonical_keeps_answers (registry : Registry) (reference : String) (value : Value) :
    registry.canonical.validate reference value = registry.validate reference value ∧
    registry.canonical.validateRecord reference value = registry.validateRecord reference value ∧
    registry.canonical.validateParams reference value = registry.validateParams reference value ∧
    registry.canonical.validateInput reference value = registry.validateInput reference value ∧
    registry.canonical.validateOutput reference value = registry.validateOutput reference value ∧
    registry.canonical.fillRecord reference value = registry.fillRecord reference value ∧
    registry.canonical.fillParams reference value = registry.fillParams reference value := by
  have hvalue : ∀ document schema schema' value path, IsCanonicalForm document schema schema' →
      registry.checkValue document schema value path 0 =
        registry.canonical.checkValue document schema' value path 0 := by
    rintro document schema _ value path ⟨hdocument, rfl⟩
    exact (checkValue_canonical hdocument schema value path 0).symm
  have hparams : ∀ document schema schema' value label, IsCanonicalParams document schema schema' →
      registry.checkParams document schema value label =
        registry.canonical.checkParams document schema' value label := by
    rintro document schema _ value label ⟨hdocument, rfl⟩
    exact (checkParams_canonical hdocument schema value label).symm
  have hrecord : ∀ document schema schema' value label,
      IsCanonicalForm document (.object schema) (.object schema') →
      registry.fill document schema.properties value label =
        registry.canonical.fill document schema'.properties value label := by
    rintro document schema schema' value label ⟨hdocument, h⟩
    obtain rfl : schema' = schema.canonical document := Descriptor.object.inj h
    rw [ObjectSchema.properties_canonical, fill_canonical hdocument]
  have hfill : ∀ document schema schema' value label, IsCanonicalParams document schema schema' →
      registry.fill document schema.properties value label =
        registry.canonical.fill document schema'.properties value label := by
    rintro document schema _ value label ⟨hdocument, rfl⟩
    rw [ParamsSchema.properties_canonical, fill_canonical hdocument]
  -- Each way in meets definitions in canonical form, and does the same with them.
  have hchecks := meetCounterparts_canonical Unit registry
  have hfillings := meetCounterparts_canonical Value registry
  exact ⟨(hchecks.validate hvalue reference value).symm,
    (hchecks.validateRecord hvalue reference value).symm,
    (hchecks.validateParams hparams reference value).symm,
    (hchecks.validateInput hvalue reference value).symm,
    (hchecks.validateOutput hvalue reference value).symm,
    (hfillings.fillRecord hrecord reference value).symm,
    (hfillings.fillParams hfill reference value).symm⟩

end Lexicon.Registry
