import Mathlib.Data.List.Forall2

namespace Lexicon.Outcome

/-!
# Outcomes of checks

Every check, look-up and filling ends in an `Except`.  This file has the laws by which such outcomes
are taken apart, so that no later proof unfolds the sequencing of steps.

* `bind_eq_ok`, `then_eq_ok`, `mapError_eq_ok` — when a sequence of steps succeeds;
* `forM_eq_ok`, `mapM_eq_ok` — when all steps along a list do;
* `bind_eq_error`, `then_eq_error`, `forM_eq_error` — how a sequence fails, and at which item;
* `Agree excused x y` — `y` is the outcome `x`, unless `x` failed for an excused reason.  It is kept
  by sequencing (`Agree.bind`, `Agree.forM`), which makes it the relation of choice between two runs
  of one check;
* `Related r x y` — the two failed alike, or have results that are related by `r`;
* `Alike r x y` — the two have the same result, or failed with failures that are related by `r`;
* `relOption_refl`, `relOption_map`, `relOption_cases` — options whose values are related.
-/

variable {ε ε' α β : Type}

/-! ### Success -/

/-- A sequence succeeds iff its first step does, and its second one on the result of the first. -/
theorem bind_eq_ok {x : Except ε α} {f : α → Except ε β} {b : β} :
    x >>= f = .ok b ↔ ∃ a, x = .ok a ∧ f a = .ok b := by
  cases x <;> simp [bind, Except.bind]

/-- A check followed by another step. -/
theorem then_eq_ok {x : Except ε Unit} {y : Except ε β} {b : β} :
    (do x; y) = .ok b ↔ x = .ok () ∧ y = .ok b := by
  rw [bind_eq_ok]
  constructor
  · rintro ⟨⟨⟩, hx, hy⟩; exact ⟨hx, hy⟩
  · rintro ⟨hx, hy⟩; exact ⟨(), hx, hy⟩

@[simp] theorem ok_bind (a : α) (f : α → Except ε β) : (Except.ok a >>= f) = f a := rfl

@[simp] theorem error_bind (e : ε) (f : α → Except ε β) :
    (Except.error e >>= f) = .error e := rfl

@[simp] theorem pure_eq_ok (a : α) : (pure a : Except ε α) = .ok a := rfl

@[simp] theorem throw_eq_error (e : ε) : (throw e : Except ε α) = .error e := rfl

/-- Renaming errors changes no success. -/
@[simp] theorem mapError_eq_ok (x : Except ε α) (rename : ε → ε') (a : α) :
    x.mapError rename = .ok a ↔ x = .ok a := by
  cases x with
  | ok _ => rw [Except.mapError, Except.ok.injEq, Except.ok.injEq]
  | error _ => simp [Except.mapError]

/-- Changing the result changes neither success nor errors. -/
theorem map_eq_ok {x : Except ε α} {f : α → β} {b : β} :
    x.map f = .ok b ↔ ∃ a, x = .ok a ∧ f a = b := by
  cases x <;> simp [Except.map]

/-- A check along a list succeeds iff it succeeds on every item. -/
theorem forM_eq_ok {items : List α} {f : α → Except ε Unit} :
    items.forM f = .ok () ↔ ∀ item ∈ items, f item = .ok () := by
  induction items with
  | nil => simp [List.forM]
  | cons item rest ih =>
    show (do f item; rest.forM f) = .ok () ↔ _
    rw [then_eq_ok, ih, List.forall_mem_cons]

/-- Checks along a list are the same if they are on every item. -/
theorem forM_congr {items : List α} {f g : α → Except ε Unit} (h : ∀ item ∈ items, f item = g item) :
    items.forM f = items.forM g := by
  induction items with
  | nil => rfl
  | cons item rest ih =>
    rw [List.forall_mem_cons] at h
    show (do f item; rest.forM f) = (do g item; rest.forM g)
    rw [h.1, ih h.2]

/-- Checks along two lists are the same if they are item by item. -/
theorem forM_eq_of_forall₂ {items : List α} {items' : List β} {f : α → Except ε Unit}
    {g : β → Except ε Unit} (h : List.Forall₂ (fun a b => f a = g b) items items') :
    items.forM f = items'.forM g := by
  induction h with
  | nil => rfl
  | cons hhead _ ih => exact congrArg₂ (fun x y => x >>= fun _ => y) hhead ih

/-- A step along a list gives the results on its items, in order. -/
theorem mapM_eq_ok {items : List α} {f : α → Except ε β} {results : List β} :
    items.mapM f = .ok results ↔ List.Forall₂ (fun a b => f a = .ok b) items results := by
  induction items generalizing results with
  | nil => simp [eq_comm]
  | cons item rest ih =>
    rw [List.mapM_cons, bind_eq_ok]
    constructor
    · rintro ⟨b, hb, h⟩
      obtain ⟨bs, hbs, h⟩ := bind_eq_ok.1 h
      cases h
      exact .cons hb (ih.1 hbs)
    · rintro (_ | ⟨hb, hbs⟩)
      exact ⟨_, hb, bind_eq_ok.2 ⟨_, ih.2 hbs, rfl⟩⟩

/-- A step along a list succeeds iff it succeeds on every item. -/
theorem exists_mapM_eq_ok {items : List α} {f : α → Except ε β} :
    (∃ results, items.mapM f = .ok results) ↔ ∀ item ∈ items, ∃ b, f item = .ok b := by
  simp only [mapM_eq_ok]
  induction items with
  | nil => simp
  | cons item rest ih =>
    rw [List.forall_mem_cons, ← ih]
    constructor
    · rintro ⟨_, _ | ⟨hb, hbs⟩⟩
      exact ⟨⟨_, hb⟩, _, hbs⟩
    · rintro ⟨⟨b, hb⟩, bs, hbs⟩
      exact ⟨b :: bs, .cons hb hbs⟩

/-! ### Failure -/

/-- A sequence fails as its first step does, or as its second one on the result of the first. -/
theorem bind_eq_error {x : Except ε α} {f : α → Except ε β} {e : ε} :
    x >>= f = .error e ↔ x = .error e ∨ ∃ a, x = .ok a ∧ f a = .error e := by
  cases x <;> simp [bind, Except.bind]

/-- A check followed by another step. -/
theorem then_eq_error {x : Except ε Unit} {y : Except ε β} {e : ε} :
    (do x; y) = .error e ↔ x = .error e ∨ x = .ok () ∧ y = .error e := by
  rw [bind_eq_error]
  constructor
  · rintro (hx | ⟨⟨⟩, hx, hy⟩)
    · exact .inl hx
    · exact .inr ⟨hx, hy⟩
  · rintro (hx | ⟨hx, hy⟩)
    · exact .inl hx
    · exact .inr ⟨(), hx, hy⟩

/-- Renaming errors makes no new ones. -/
theorem mapError_eq_error {x : Except ε α} {rename : ε → ε'} {e' : ε'} :
    x.mapError rename = .error e' ↔ ∃ e, x = .error e ∧ rename e = e' := by
  cases x <;> simp [Except.mapError]

/-- A check along a list fails as it does on the first item on which it fails. -/
theorem forM_eq_error {items : List α} {f : α → Except ε Unit} {e : ε} :
    items.forM f = .error e ↔ ∃ earlier item later, items = earlier ++ item :: later ∧
      (∀ other ∈ earlier, f other = .ok ()) ∧ f item = .error e := by
  induction items with
  | nil => simp [List.forM]
  | cons head rest ih =>
    show (do f head; rest.forM f) = .error e ↔ _
    rw [then_eq_error]
    constructor
    · -- The first step fails, or it succeeds and a later one fails.
      rintro (hhead | ⟨hhead, hrest⟩)
      · exact ⟨[], head, rest, rfl, by simp, hhead⟩
      · obtain ⟨earlier, item, later, rfl, hearlier, hitem⟩ := ih.1 hrest
        exact ⟨head :: earlier, item, later, rfl, List.forall_mem_cons.2 ⟨hhead, hearlier⟩, hitem⟩
    · rintro ⟨_ | ⟨first, earlier⟩, item, later, hsplit, hearlier, hitem⟩
      · obtain ⟨rfl, rfl⟩ := List.cons_eq_cons.1 hsplit
        exact .inl hitem
      · obtain ⟨rfl, rfl⟩ := List.cons_eq_cons.1 hsplit
        obtain ⟨hhead, hearlier⟩ := List.forall_mem_cons.1 hearlier
        exact .inr ⟨hhead, ih.2 ⟨earlier, item, later, rfl, hearlier, hitem⟩⟩

/-- A step along a list fails as it does on some item. -/
theorem exists_of_mapM_eq_error {items : List α} {f : α → Except ε β} {e : ε}
    (h : items.mapM f = .error e) : ∃ item ∈ items, f item = .error e := by
  induction items with
  | nil => cases h
  | cons item rest ih =>
    rw [List.mapM_cons] at h
    rcases bind_eq_error.1 h with hitem | ⟨b, -, h⟩
    · exact ⟨item, List.mem_cons_self, hitem⟩
    rcases bind_eq_error.1 h with hrest | ⟨bs, -, h⟩
    · obtain ⟨other, hmem, hother⟩ := ih hrest
      exact ⟨other, List.mem_cons_of_mem _ hmem, hother⟩
    · cases h

/-! ### Agreement of two runs -/

/-- Two outcomes agree if they are the same, or the first is an excused failure. -/
def Agree (excused : ε → Prop) (x y : Except ε α) : Prop :=
  x = y ∨ ∃ e, x = .error e ∧ excused e

namespace Agree

variable {excused : ε → Prop}

theorem refl (x : Except ε α) : Agree excused x x := .inl rfl

theorem error {e : ε} (h : excused e) (y : Except ε α) : Agree excused (.error e) y :=
  .inr ⟨e, rfl, h⟩

/-- A result is settled. -/
theorem eq_ok {x y : Except ε α} (h : Agree excused x y) {a : α} (hx : x = .ok a) : y = .ok a := by
  subst hx
  rcases h with rfl | ⟨_, h, -⟩
  · rfl
  · cases h

/-- A failure that is not excused is settled. -/
theorem eq_error {x y : Except ε α} (h : Agree excused x y) {e : ε} (hx : x = .error e)
    (he : ¬ excused e) : y = .error e := by
  subst hx
  rcases h with rfl | ⟨_, h, hexcused⟩
  · rfl
  · cases h
    exact absurd hexcused he

/-- Sequences agree if their steps do. -/
theorem bind {x y : Except ε α} {f g : α → Except ε β} (h : Agree excused x y)
    (hfg : ∀ a, x = .ok a → Agree excused (f a) (g a)) : Agree excused (x >>= f) (y >>= g) := by
  rcases h with rfl | ⟨e, rfl, he⟩
  · cases x with
    | error e => exact refl _
    | ok a => exact hfg a rfl
  · exact error he _

/-- Changing the result keeps agreement. -/
theorem map {x y : Except ε α} (h : Agree excused x y) (f : α → β) :
    Agree excused (x.map f) (y.map f) := by
  rcases h with rfl | ⟨e, rfl, he⟩
  · exact refl _
  · exact error he _

/-- Checks along a list agree if they agree on every item. -/
theorem forM {items : List α} {f g : α → Except ε Unit}
    (h : ∀ item ∈ items, Agree excused (f item) (g item)) :
    Agree excused (items.forM f) (items.forM g) := by
  induction items with
  | nil => exact refl _
  | cons item rest ih =>
    rw [List.forall_mem_cons] at h
    exact h.1.bind fun _ _ => ih h.2

end Agree

/-! ### Related results of two runs -/

/-- Two outcomes are the same failure, or results that are related. -/
inductive Related (r : α → β → Prop) : Except ε α → Except ε β → Prop where
  | ok {a : α} {b : β} : r a b → Related r (.ok a) (.ok b)
  | error (e : ε) : Related r (.error e) (.error e)

namespace Related

variable {γ δ : Type} {r : α → β → Prop} {s : γ → δ → Prop}

/-- Sequences are related if their steps are. -/
theorem bind {x : Except ε α} {y : Except ε β} {f : α → Except ε γ} {g : β → Except ε δ}
    (h : Related r x y) (hfg : ∀ a b, r a b → Related s (f a) (g b)) :
    Related s (x >>= f) (y >>= g) := by
  cases h with
  | ok hab => exact hfg _ _ hab
  | error e => exact .error e

theorem map {x : Except ε α} {y : Except ε β} {f : α → γ} {g : β → δ} (h : Related r x y)
    (hfg : ∀ a b, r a b → s (f a) (g b)) : Related s (x.map f) (y.map g) := by
  cases h with
  | ok hab => exact .ok (hfg _ _ hab)
  | error e => exact .error e

/-- What is done with related results succeeds in both runs, if it does on any related results. -/
theorem bind_eq_ok_iff {x : Except ε α} {y : Except ε β} {f : α → Except ε γ} {g : β → Except ε γ}
    {c : γ} (h : Related r x y) (hfg : ∀ a b, r a b → (f a = .ok c ↔ g b = .ok c)) :
    x >>= f = .ok c ↔ y >>= g = .ok c := by
  cases h with
  | ok hab => exact hfg _ _ hab
  | error e => exact Iff.rfl

end Related

/-! ### Related failures of two runs -/

/-- Two outcomes are the same result, or failures that are related. -/
inductive Alike (r : ε → ε' → Prop) : Except ε α → Except ε' α → Prop where
  | ok (a : α) : Alike r (.ok a) (.ok a)
  | error {e : ε} {e' : ε'} : r e e' → Alike r (.error e) (.error e')

namespace Alike

variable {r s : ε → ε' → Prop}

/-- Sequences come out alike if their steps do. -/
theorem bind {x : Except ε α} {y : Except ε' α} {f : α → Except ε β} {g : α → Except ε' β}
    (h : Alike r x y) (hfg : ∀ a, Alike r (f a) (g a)) : Alike r (x >>= f) (y >>= g) := by
  cases h with
  | ok a => exact hfg a
  | error he => exact .error he

/-- Checks along a list come out alike if they do on every item. -/
theorem forM {items : List α} {f : α → Except ε Unit} {g : α → Except ε' Unit}
    (h : ∀ item ∈ items, Alike r (f item) (g item)) : Alike r (items.forM f) (items.forM g) := by
  induction items with
  | nil => exact .ok ()
  | cons item rest ih =>
    rw [List.forall_mem_cons] at h
    exact h.1.bind fun _ => ih h.2

theorem mono {x : Except ε α} {y : Except ε' α} (h : Alike r x y)
    (hrs : ∀ e e', r e e' → s e e') : Alike s x y := by
  cases h with
  | ok a => exact .ok a
  | error he => exact .error (hrs _ _ he)

end Alike

/-! ### Related options -/

section Options

variable {r : α → α → Prop} {option : Option α}

theorem relOption_refl (h : ∀ a ∈ option, r a a) : Option.Rel r option option := by
  cases option with
  | none => exact .none
  | some a => exact .some (h a rfl)

/-- An option is related to what becomes of it, if its value is. -/
theorem relOption_map {s : α → β → Prop} {f : α → β} (h : ∀ a ∈ option, s a (f a)) :
    Option.Rel s option (option.map f) := by
  cases option with
  | none => exact .none
  | some a => exact .some (h a rfl)

/-- Two results that are related are both missing, or both there. -/
theorem relOption_cases {s : α → β → Prop} {x : Option α} {y : Option β} (h : Option.Rel s x y) :
    x = none ∧ y = none ∨ ∃ a b, x = some a ∧ y = some b ∧ s a b := by
  cases h with
  | none => exact .inl ⟨rfl, rfl⟩
  | some hab => exact .inr ⟨_, _, rfl, rfl, hab⟩

end Options

end Lexicon.Outcome
