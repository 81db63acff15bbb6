import Lexicon.Proofs.Defaults.Extension

namespace Lexicon

open Lexicon.Outcome

/-!
# Filling twice

What has been filled stays as it is when it is filled again.  A default that has come in is no
object, so that the second filling enters just the objects that the first one has entered, along the
same references.

* `Unchanged` — filling a property gives it the value that it has, if it gives it any;
* `fillProperties_of_unchanged` — then the entries stay as they are;
* `fillProperties_filled` — filled entries can be filled, and stay as they are;
* `filling_is_idempotent` — so do filled records and filled parameters.
-/

/-- A default is no object. -/
theorem Descriptor.DeclaresDefault.object?_eq_none {descriptor : Descriptor} {value : Value}
    (h : descriptor.DeclaresDefault value) : value.object? = none := by
  cases h <;> rfl

namespace Registry

variable {registry : Registry} {base : String} {path : Path}

/-- Filling a property succeeds, and leaves the entries as they are. -/
def Unchanged (registry : Registry) (base name : String) (descriptor : Descriptor)
    (fields : List (String × Value)) (path : Path) : Prop :=
  ∃ value, registry.fillProperty base name descriptor fields path = .ok value ∧
    Assoc.update fields name value = fields

/-- If filling leaves each property as it is, then it leaves the entries as they are. -/
theorem fillProperties_of_unchanged {properties : List (String × Descriptor)}
    {fields : List (String × Value)}
    (h : ∀ name descriptor, (name, descriptor) ∈ properties →
      Unchanged registry base name descriptor fields path) :
    registry.fillProperties base properties fields path fields = .ok fields := by
  induction properties with
  | nil => rw [fillProperties]
  | cons property rest ih =>
    obtain ⟨name, descriptor⟩ := property
    obtain ⟨value, hvalue, hupdate⟩ := h name descriptor List.mem_cons_self
    rw [fillProperties_cons, hvalue, ok_bind, hupdate]
    exact ih fun other d hmem => h other d (List.mem_cons_of_mem _ hmem)

/-- **Filled entries can be filled, and stay as they are.**  By induction on the object, following
    how the first filling has treated each property: what it has added is no object and stays, what
    it has entered is entered again and stays by the induction, and what it has left it leaves
    again. -/
theorem fillProperties_filled (hnames : registry.NamesDiffer) {definition : Descriptor}
    (hdefinition : definition.NamesDiffer) {fields result : List (String × Value)}
    (h : registry.fillProperties base definition.declared fields path fields = .ok result) :
    registry.fillProperties base definition.declared result path result = .ok result := by
  induction hsize : sizeOf fields using Nat.strong_induction_on
    generalizing base definition fields result path with
  | _ size ih =>
    have hfilled := filledAs_of_fillProperties hdefinition.nodup h
    refine fillProperties_of_unchanged fun name descriptor hmem => ?_
    obtain ⟨value, hvalue, hresult⟩ := hfilled.declared name descriptor hmem
    cases fillProperty_eq_ok.1 hvalue with
    | absent hfield =>
      rw [hfield, Option.or_none] at hresult
      cases hdefault : descriptor.default? with
      | none =>
        -- Nothing has come in, and nothing will.
        rw [hdefault] at hresult
        exact ⟨none, hdefault ▸ fillProperty_of_none hresult, rfl⟩
      | some default =>
        -- What has come in is there now, and is not entered.
        rw [hdefault] at hresult
        have hplain := (Descriptor.default?_eq_some.1 hdefault).object?_eq_none
        exact ⟨none, fillProperty_of_plain hresult hplain, rfl⟩
    | @entered _ _ _ filled hfield htarget hinner =>
      -- The references do not depend on the object, so they lead to the same schema again.
      have hschema := of_followRefs (hdefinition.of_mem_declared hmem)
        (fun _ _ hresolve => hnames.of_resolve hresolve) htarget
      have hagain := ih _ (hsize ▸ sizeOf_inner_lt hfield) hschema hinner rfl
      exact ⟨some (.object filled), fillProperty_eq_ok.2 (.entered hresult htarget hagain),
        Assoc.insert_eq_self hresult⟩
    | elsewhere hfield htarget hkind =>
      rw [hfield] at hresult
      exact ⟨none, fillProperty_eq_ok.2 (.elsewhere hresult htarget hkind), rfl⟩
    | plain hfield hplain =>
      rw [hfield] at hresult
      exact ⟨none, fillProperty_of_plain hresult hplain, rfl⟩

/-- A filled value can be filled, and stays as it is. -/
theorem fill_filled (hnames : registry.NamesDiffer) {definition : Descriptor}
    (hdefinition : definition.NamesDiffer) {value filled : Value} {label : Path}
    (h : registry.fill base definition.declared value label = .ok filled) :
    registry.fill base definition.declared filled label = .ok filled := by
  rcases fill_eq_ok.1 h with ⟨hplain, rfl⟩ | ⟨fields, result, rfl, rfl, hfill⟩
  · exact h
  · exact fill_eq_ok.2 (.inr ⟨result, result, rfl, rfl,
      fillProperties_filled hnames hdefinition hfill⟩)

/-- **Filling is idempotent.**  What a record has become by filling is what it becomes by filling
    once more, and so it is with the parameters of a call. -/
theorem filling_is_idempotent (registry : Registry) (hnames : registry.NamesDiffer)
    (reference : String) (value filled : Value) :
    (registry.fillRecord reference value = .ok filled →
      registry.fillRecord reference filled = .ok filled) ∧
    (registry.fillParams reference value = .ok filled →
      registry.fillParams reference filled = .ok filled) := by
  constructor
  · intro h
    obtain ⟨⟨address, schema⟩, hrecord, hfill⟩ := bind_eq_ok.1 h
    rw [fillRecord_eq hrecord]
    exact fill_filled hnames (hnames.of_recordAt hrecord) hfill
  · intro h
    obtain ⟨⟨address, parameters⟩, hparameters, hfill⟩ := bind_eq_ok.1 h
    cases parameters with
    | none => rw [fillParams_of_none hparameters]
    | some schema =>
      rw [fillParams_of_some hparameters]
      exact fill_filled hnames (hnames.of_parametersAt hparameters) hfill

/-- Neither the filled answer nor the filled parameters of the search change when filled again. -/
theorem filling_is_idempotent_notebook :
    notebook.NamesDiffer ∧
    (notebook.fillRecord "com.example.note" answer = .ok answered ∧
      notebook.fillRecord "com.example.note" answered = .ok answered) ∧
    (notebook.fillParams "com.example.note#search" (.object []) =
        .ok (.object [("limit", .integer 10)]) ∧
      notebook.fillParams "com.example.note#search" (.object [("limit", .integer 10)]) =
        .ok (.object [("limit", .integer 10)])) := by
  have hnames := notebook_namesDiffer
  have hrecord : notebook.fillRecord "com.example.note" answer = .ok answered := by cbv
  have hparams : notebook.fillParams "com.example.note#search" (.object []) =
      .ok (.object [("limit", .integer 10)]) := by cbv
  exact ⟨hnames, ⟨hrecord, (filling_is_idempotent notebook hnames _ _ _).1 hrecord⟩,
    ⟨hparams, (filling_is_idempotent notebook hnames _ _ _).2 hparams⟩⟩

end Registry

end Lexicon
