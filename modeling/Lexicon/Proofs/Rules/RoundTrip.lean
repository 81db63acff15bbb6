import Lexicon.Proofs.Json.Field
import Lexicon.Rules.Json

namespace Lexicon

open Lexicon.Json

/-!
# Rules are read as they were written

The rules of a descriptor stand behind its other fields, none of which has the name of a rule.

* `StringRules.ofFields?_append`, `IntegerRules.ofFields?_append`, … — each sort of rules is found
  again behind fields with other names;
* `StringRules.keys_toFields`, `IntegerRules.keys_toFields`, … — no other keys are written.
-/

variable (before : List (String × Json))

namespace StringRules

variable (rules : StringRules)

theorem ofFields?_append (h : ∀ name ∈ fieldNames, before.lookup name = none) :
    ofFields? (before ++ rules.toFields) = some rules := by
  simp only [fieldNames, List.forall_mem_cons] at h
  simp [ofFields?, toFields, h, List.lookup_append]

theorem keys_toFields : Assoc.keys rules.toFields ⊆ fieldNames := by
  simp [toFields, keys_entry_subset, fieldNames]

end StringRules

namespace IntegerRules

variable (rules : IntegerRules)

theorem ofFields?_append (h : ∀ name ∈ fieldNames, before.lookup name = none) :
    ofFields? (before ++ rules.toFields) = some rules := by
  simp only [fieldNames, List.forall_mem_cons] at h
  simp [ofFields?, toFields, h, List.lookup_append]

theorem keys_toFields : Assoc.keys rules.toFields ⊆ fieldNames := by
  simp [toFields, keys_entry_subset, fieldNames]

end IntegerRules

namespace BooleanRules

variable (rules : BooleanRules)

theorem ofFields?_append (h : ∀ name ∈ fieldNames, before.lookup name = none) :
    ofFields? (before ++ rules.toFields) = some rules := by
  simp only [fieldNames, List.forall_mem_cons] at h
  simp [ofFields?, toFields, h]

theorem keys_toFields : Assoc.keys rules.toFields ⊆ fieldNames := by
  simp [toFields, keys_entry_subset, fieldNames]

end BooleanRules

namespace LengthRules

variable (rules : LengthRules)

theorem ofFields?_append (h : ∀ name ∈ fieldNames, before.lookup name = none) :
    ofFields? (before ++ rules.toFields) = some rules := by
  simp only [fieldNames, List.forall_mem_cons] at h
  simp [ofFields?, toFields, h]

theorem keys_toFields : Assoc.keys rules.toFields ⊆ fieldNames := by
  simp [toFields, keys_entry_subset, fieldNames]

end LengthRules

namespace BlobRules

variable (rules : BlobRules)

theorem ofFields?_append (h : ∀ name ∈ fieldNames, before.lookup name = none) :
    ofFields? (before ++ rules.toFields) = some rules := by
  simp only [fieldNames, List.forall_mem_cons] at h
  simp [ofFields?, toFields, h]

theorem keys_toFields : Assoc.keys rules.toFields ⊆ fieldNames := by
  simp [toFields, keys_entry_subset, fieldNames]

end BlobRules

end Lexicon
