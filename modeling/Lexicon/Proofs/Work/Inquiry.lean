import Lexicon.Proofs.Outcome
import Lexicon.Registry
import Mathlib

namespace Lexicon

open Lexicon.Outcome

/-!
# Inquiries

An inquiry is a computation that knows nothing of a registry but what it asks for.  It is a tree
without infinite branches, so it comes to an end whatever it is told; and nothing that it learns
from the registry goes uncounted.

* `Inquiry` — an inquiry, `Inquiry.run registry` what comes of it in a registry;
* `Inquiry.hops`, `Inquiry.entries` — how many references it follows, and how often it goes into a
  value;
* `Inquiry.Paced registry limit left` — it makes at most `limit` hops between two steps into the
  value, the first of which is at most `left` hops away;
* `hops_le_of_paced` — then the steps into the value bound all hops.
-/

/-- A computation that asks a registry for definitions. -/
inductive Inquiry (α : Type) where
  | answer (outcome : Except Failure α)
  /-- The definition that all is about. -/
  | find (address : Address) (next : Descriptor → Inquiry α)
  /-- The definition behind a reference, or behind the type that a value of a union names. -/
  | hop (address : Address) (next : Descriptor → Inquiry α)
  /-- From here on a value is looked at, which is a part of the one looked at before. -/
  | enter (next : Inquiry α)

namespace Inquiry

variable {α β : Type}

/-- One inquiry, and another one on its result. -/
def bind : Inquiry α → (α → Inquiry β) → Inquiry β
  | answer (.ok a), f => f a
  | answer (.error failure), _ => answer (.error failure)
  | find address next, f => find address fun definition => (next definition).bind f
  | hop address next, f => hop address fun definition => (next definition).bind f
  | enter next, f => enter (next.bind f)

instance : Monad Inquiry where
  pure a := answer (.ok a)
  bind := bind

/-! ### Inquiries in a registry -/

section

variable (registry : Registry)

/-- What comes of an inquiry; it ends where a definition is not found. -/
def run : Inquiry α → Except Failure α
  | answer outcome => outcome
  | find address next | hop address next => do
    let definition ← registry.lookUp address
    (next definition).run
  | enter next => next.run

/-- The number of hops made, the last one of which may have led nowhere. -/
def hops : Inquiry α → Nat
  | answer _ => 0
  | find address next =>
    match registry.lookUp address with
    | .ok definition => (next definition).hops
    | .error _ => 0
  | hop address next =>
    match registry.lookUp address with
    | .ok definition => (next definition).hops + 1
    | .error _ => 1
  | enter next => next.hops

/-- The number of steps into the value. -/
def entries : Inquiry α → Nat
  | answer _ => 0
  | find address next | hop address next =>
    match registry.lookUp address with
    | .ok definition => (next definition).entries
    | .error _ => 0
  | enter next => next.entries + 1

/-- There are at most `left` hops before a step into the value, and at most `limit` of them after
    each such step and before the next one. -/
def Paced (limit : Nat) : Nat → Inquiry α → Prop
  | _, answer _ => True
  | left, find address next =>
    ∀ definition, registry.lookUp address = .ok definition → Paced limit left (next definition)
  | left, hop address next => ∃ fewer, left = fewer + 1 ∧
    ∀ definition, registry.lookUp address = .ok definition → Paced limit fewer (next definition)
  | _, enter next => Paced limit limit next

end

variable {registry : Registry} {limit left : Nat}

@[simp] theorem bind_eq_bind (x : Inquiry α) (f : α → Inquiry β) : x >>= f = x.bind f := rfl

/-! ### One inquiry after another -/

/-- An inquiry on the result of another one goes on where that one ends, or fails as it does. -/
@[simp] theorem run_bind (x : Inquiry α) (f : α → Inquiry β) :
    (x.bind f).run registry = x.run registry >>= fun a => (f a).run registry := by
  induction x with
  | answer outcome => cases outcome <;> rfl
  | find address next ih | hop address next ih =>
    simp only [bind, run, bind_assoc, ih]
  | enter next ih => exact ih

/-- Two inquiries go into the value as often as both of them do. -/
theorem entries_bind_le {x : Inquiry α} {f : α → Inquiry β} {n : Nat}
    (h : ∀ a, x.run registry = .ok a → (f a).entries registry ≤ n) :
    (x.bind f).entries registry ≤ x.entries registry + n := by
  induction x with
  | answer outcome =>
    cases outcome with
    | ok a => simpa [bind, entries] using h a rfl
    | error failure => simp [bind, entries]
  | find address next ih | hop address next ih =>
    simp only [bind, entries, run] at h ⊢
    cases hlookUp : registry.lookUp address with
    | ok definition =>
      rw [hlookUp] at h
      exact ih definition h
    | error failure => exact Nat.zero_le _
  | enter next ih =>
    have := ih h
    simp only [bind, entries]
    omega

/-- An outcome is at hand without going into the value. -/
theorem entries_bind_answer_le {outcome : Except Failure α} {f : α → Inquiry β} {n : Nat}
    (h : ∀ a, (f a).entries registry ≤ n) :
    ((answer outcome).bind f).entries registry ≤ n :=
  (entries_bind_le fun a _ => h a).trans_eq (Nat.zero_add n)

namespace Paced

/-- More hops may be left than are made. -/
theorem mono {x : Inquiry α} {more : Nat} (h : Paced registry limit left x) (hle : left ≤ more) :
    Paced registry limit more x := by
  induction x generalizing left more with
  | answer outcome => trivial
  | find address next ih =>
    exact fun definition hfound => ih definition (h definition hfound) hle
  | hop address next ih =>
    obtain ⟨fewer, rfl, hnext⟩ := h
    obtain ⟨fewer', rfl⟩ : ∃ fewer', more = fewer' + 1 := ⟨more - 1, by omega⟩
    exact ⟨fewer', rfl, fun definition hfound =>
      ih definition (hnext definition hfound) (by omega)⟩
  | enter next => exact h

/-- An inquiry keeps its pace if it goes on with no hop before the next step into the value. -/
theorem bind {x : Inquiry α} {f : α → Inquiry β} (h : Paced registry limit left x)
    (hf : ∀ a, x.run registry = .ok a → Paced registry limit 0 (f a)) :
    Paced registry limit left (x.bind f) := by
  induction x generalizing left with
  | answer outcome =>
    cases outcome with
    | ok a => exact (hf a rfl).mono (Nat.zero_le _)
    | error failure => trivial
  | find address next ih =>
    intro definition hfound
    rw [run, hfound] at hf
    exact ih definition (h definition hfound) hf
  | hop address next ih =>
    obtain ⟨fewer, rfl, hnext⟩ := h
    refine ⟨fewer, rfl, fun definition hfound => ?_⟩
    rw [run, hfound] at hf
    exact ih definition (hnext definition hfound) hf
  | enter next ih => exact ih h hf

/-- An outcome is at hand without any hop. -/
theorem bind_answer {outcome : Except Failure α} {f : α → Inquiry β}
    (hf : ∀ a, Paced registry limit left (f a)) :
    Paced registry limit left ((answer outcome).bind f) := by
  cases outcome with
  | ok a => exact hf a
  | error failure => trivial

end Paced

/-- **The steps into the value bound the hops.** -/
theorem hops_le_of_paced {x : Inquiry α} (h : Paced registry limit left x) :
    x.hops registry ≤ left + limit * x.entries registry := by
  induction x generalizing left with
  | answer outcome => exact Nat.zero_le _
  | find address next ih =>
    simp only [hops, entries]
    cases hfound : registry.lookUp address with
    | ok definition => exact ih definition (h definition hfound)
    | error failure => exact Nat.zero_le _
  | hop address next ih =>
    -- This hop is one of those that are left, whether or not it leads anywhere.
    obtain ⟨fewer, rfl, hnext⟩ := h
    simp only [hops, entries]
    cases hfound : registry.lookUp address with
    | ok definition =>
      have hrest : (next definition).hops registry ≤
          fewer + limit * (next definition).entries registry :=
        ih definition (hnext definition hfound)
      simp only
      omega
    | error failure =>
      simp only
      omega
  | enter next ih =>
    -- One step more pays for all hops up to the next one.
    have hrest : next.hops registry ≤ limit + limit * next.entries registry := ih h
    simp only [hops, entries]
    rw [Nat.mul_succ]
    omega

end Inquiry

end Lexicon
