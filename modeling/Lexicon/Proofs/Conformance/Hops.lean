import Mathlib
import Lexicon.Proofs.Defaults.Fill

namespace Lexicon

open Lexicon.Outcome

/-!
# Hops

A reference leads to another definition, and so does a union that has the type of the value among
its members.  Both walks along them count: a check up to the first descriptor that is neither, and a
filling up to the first one that is no reference.

* `Steps r k a b` — `k` steps of a relation lead from `a` to `b`;
* `LeadsTo`, `Hop`, `RefHop` — one hop for a value, and one by a reference;
* `Settles` — no hop is to be made where the value is;
* `checkValue_of_steps`, `followRefs_of_steps` — what either walk comes to after `k` hops;
* `exists_steps_of_followRefs` — the walk along references ends where hops lead to;
* `hop_limit_is_exact` — both walks go `k` hops iff the limit is no less than `k`.
-/

/-- The relation leads from one thing to another in a number of steps. -/
inductive Steps {α : Type} (r : α → α → Prop) : Nat → α → α → Prop where
  | refl (a : α) : Steps r 0 a a
  | head {k : Nat} {a b c : α} : r a b → Steps r k b c → Steps r (k + 1) a c

namespace Steps

variable {α : Type} {r s : α → α → Prop} {k : Nat} {a b : α}

/-- Steps are followed by more steps. -/
theorem trans {l : Nat} {c : α} (h : Steps r k a b) (h' : Steps r l b c) :
    Steps r (l + k) a c := by
  induction h with
  | refl => exact h'
  | head hstep _ ih => exact .head hstep (ih h')

/-- Steps of a relation are as many steps of any relation that has these steps. -/
theorem mono (h : Steps r k a b) (hrs : ∀ a b, r a b → s a b) : Steps s k a b := by
  induction h with
  | refl => exact .refl _
  | head hstep _ ih => exact .head (hrs _ _ hstep) ih

/-- A relation that leads each thing to one other thing at most comes to one end. -/
theorem end_unique {l : Nat} {c : α} (hr : ∀ a b c, r a b → r a c → b = c) (h : Steps r k a b)
    (h' : Steps r l a c) (hb : ∀ d, ¬ r b d) (hc : ∀ d, ¬ r c d) : b = c := by
  induction h generalizing l with
  | refl a =>
    cases h' with
    | refl => rfl
    | head hstep _ => exact absurd hstep (hb _)
  | head hstep _ ih =>
    cases h' with
    | refl => exact absurd hstep (hc _)
    | head hstep' hsteps =>
      cases hr _ _ _ hstep hstep'
      exact ih hsteps hb

/-- Where each thing of a sort leads to another one of the sort, steps never come to an end. -/
theorem exists_of_forall {P : α → Prop} (hP : ∀ a, P a → ∃ b, r a b ∧ P b) (ha : P a) (k : Nat) :
    ∃ b, Steps r k a b := by
  induction k generalizing a with
  | zero => exact ⟨a, .refl a⟩
  | succ k ih =>
    obtain ⟨b, hstep, hb⟩ := hP a ha
    obtain ⟨c, hsteps⟩ := ih hb
    exact ⟨c, .head hstep hsteps⟩

end Steps

/-- The address at which a value is described further: that behind a reference, or that of the
    member of a union which the value names as its type. -/
inductive LeadsTo (value : Value) : String × Descriptor → Address → Prop where
  | ref {base description target address} :
      Address.parse target (some base) = .ok address →
      LeadsTo value (base, .ref description target) address
  | member {base description members closed type given} :
      (∀ member ∈ members, ∃ address, Address.parse member (some base) = .ok address) →
      value.get? "$type" = some (.string type) → Address.parse type none = .ok given →
      (∃ member ∈ members, Address.parse member (some base) = .ok given) →
      LeadsTo value (base, .union description members closed) given

/-- A descriptor that does not lead a value on: no reference, whatever it may stand for, and no
    union with the type of the value among its members. -/
def Settles (value : Value) (place : String × Descriptor) : Prop :=
  place.2.kind ≠ .ref ∧ ∀ address, ¬ LeadsTo value place address

namespace Registry

variable {registry : Registry} {base : String} {descriptor : Descriptor} {value : Value}
  {path : Path} {hops k : Nat} {address : Address} {place place' : String × Descriptor}

/-- One hop: from a descriptor in its document to the definition that it leads the value to. -/
inductive Hop (registry : Registry) (value : Value) :
    String × Descriptor → String × Descriptor → Prop where
  | mk {place address definition} :
      LeadsTo value place address → registry.resolve address = .ok definition →
      Hop registry value place (address.document, definition)

/-- One hop by a reference, which is the same for every value. -/
inductive RefHop (registry : Registry) : String × Descriptor → String × Descriptor → Prop where
  | mk {base description target address definition} :
      Address.parse target (some base) = .ok address →
      registry.resolve address = .ok definition →
      RefHop registry (base, .ref description target) (address.document, definition)

/-- A reference leads every value on. -/
theorem RefHop.hop (h : registry.RefHop place place') (value : Value) :
    registry.Hop value place place' := by
  obtain ⟨hparse, hresolve⟩ := h
  exact .mk (.ref hparse) hresolve

/-- A reference leads to one place at most. -/
theorem RefHop.unique {place'' : String × Descriptor} (h : registry.RefHop place place')
    (h' : registry.RefHop place place'') : place' = place'' := by
  obtain ⟨hparse, hresolve⟩ := h
  obtain ⟨hparse', hresolve'⟩ := h'
  cases hparse.symm.trans hparse'
  cases hresolve.symm.trans hresolve'
  rfl

/-- Only references are followed without a value. -/
theorem not_refHop_of_kind (h : place.2.kind ≠ .ref) (place' : String × Descriptor) :
    ¬ registry.RefHop place place' := by
  rintro ⟨-, -⟩
  exact h rfl

/-! ### One hop -/

/-- A check goes where the descriptor leads the value. -/
theorem checkValue_of_leadsTo (h : LeadsTo value place address) :
    registry.checkValue place.1 place.2 value path hops =
      registry.checkTarget address value path hops := by
  cases h with
  | ref hparse => rw [checkValue, Address.locate_eq_ok.2 hparse, ok_bind]
  | member hmembers htype hgiven hmember =>
    -- The members are read from the document of the union, and the type from nowhere.
    obtain ⟨addresses, haddresses⟩ := exists_unionMembers_eq_ok.2 hmembers
    have hcontains : addresses.contains address :=
      List.contains_iff_mem.2 ((mem_unionMembers haddresses).2 hmember)
    rw [checkValue, Value.bind_string?_eq_some.2 htype]
    dsimp only
    rw [haddresses, ok_bind, Address.locate_eq_ok.2 hgiven, ok_bind, if_pos hcontains]

/-- Below the limit, a check goes on behind the hop, and counts it. -/
theorem checkValue_of_hop (h : registry.Hop value place place')
    (hlt : hops < registry.settings.maxHops) :
    registry.checkValue place.1 place.2 value path hops =
      registry.checkValue place'.1 place'.2 value path (hops + 1) := by
  obtain ⟨hleads, hresolve⟩ := h
  rw [checkValue_of_leadsTo hleads, checkTarget, if_pos hlt, lookUp_eq_ok.2 hresolve, ok_bind]

/-- At the limit, a check gives up before it looks where the hop leads. -/
theorem checkValue_gives_up (h : registry.Hop value place place')
    (hlimit : ¬ hops < registry.settings.maxHops) :
    registry.checkValue place.1 place.2 value path hops =
      .error (.resolution (.tooManyHops registry.settings.maxHops path)) := by
  obtain ⟨hleads, -⟩ := h
  rw [checkValue_of_leadsTo hleads, checkTarget, if_neg hlimit]

/-- A descriptor that leads the value nowhere judges it alike, however many hops have been made. -/
theorem checkValue_of_settles (h : Settles value place) (hops hops' : Nat) :
    registry.checkValue place.1 place.2 value path hops =
      registry.checkValue place.1 place.2 value path hops' := by
  obtain ⟨base, descriptor⟩ := place
  obtain ⟨hkind, hleads⟩ := h
  cases descriptor with
  | ref => exact absurd rfl hkind
  | union description members closed =>
    rw [checkValue, checkValue]
    cases htype : (value.get? "$type").bind Value.string? with
    | none => rfl
    | some type =>
      dsimp only
      cases haddresses : unionMembers base members with
      | error failure => rfl
      | ok addresses =>
        rw [ok_bind, ok_bind]
        cases hgiven : Address.locate type none with
        | error failure => rfl
        | ok given =>
          -- The type is none of the members, or the union would lead on.
          have hstranger : ¬ addresses.contains given := fun hcontains => hleads given
            (.member (exists_unionMembers_eq_ok.1 ⟨addresses, haddresses⟩)
              (Value.bind_string?_eq_some.1 htype) (Address.locate_eq_ok.1 hgiven)
              ((mem_unionMembers haddresses).1 (List.contains_iff_mem.1 hcontains)))
          rw [ok_bind, ok_bind, if_neg hstranger, if_neg hstranger]
  -- No other descriptor looks at the hops that have been made.
  | _ => unfold checkValue; rfl

/-! ### Many hops -/

/-- **A check after a number of hops.**  It has gone on to where these lead, unless there have been
    more of them than the limit allows.  By induction on the hops. -/
theorem checkValue_of_steps (h : Steps (registry.Hop value) k place place')
    (hhops : hops ≤ registry.settings.maxHops) (path : Path) :
    registry.checkValue place.1 place.2 value path hops =
      if hops + k ≤ registry.settings.maxHops then
        registry.checkValue place'.1 place'.2 value path (hops + k)
      else .error (.resolution (.tooManyHops registry.settings.maxHops path)) := by
  induction h generalizing hops with
  | refl place => rw [Nat.add_zero, if_pos hhops]
  | @head k place next place' hhop _ ih =>
    -- The limit is compared before the hop: the last one it allows starts right below it.
    by_cases hlt : hops < registry.settings.maxHops
    · rw [checkValue_of_hop hhop hlt, ih (Nat.succ_le_of_lt hlt),
        show hops + (k + 1) = hops + 1 + k by omega]
    · rw [checkValue_gives_up hhop hlt, if_neg (by omega)]

/-- **The walk along references after a number of hops.**  It has gone on to where these lead,
    unless there have been more of them than the limit allows. -/
theorem followRefs_of_steps (h : Steps registry.RefHop k place place')
    (hhops : hops ≤ registry.settings.maxHops) (path : Path) :
    registry.followRefs place.1 place.2 path hops =
      if hops + k ≤ registry.settings.maxHops then
        registry.followRefs place'.1 place'.2 path (hops + k)
      else .error (.resolution (.tooManyHops registry.settings.maxHops path)) := by
  induction h generalizing hops with
  | refl place => rw [Nat.add_zero, if_pos hhops]
  | @head k place next place' hhop _ ih =>
    obtain ⟨hparse, hresolve⟩ := hhop
    by_cases hlt : hops < registry.settings.maxHops
    · -- One reference is followed, and the others are counted from the next hop on.
      rw [followRefs_ref hlt, Address.locate_eq_ok.2 hparse, ok_bind, lookUp_eq_ok.2 hresolve,
        ok_bind, show hops + (k + 1) = hops + 1 + k by omega]
      exact ih (Nat.succ_le_of_lt hlt)
    · rw [followRefs, if_neg hlt, if_neg (by omega)]

/-- The walk along references ends where hops by references lead to, at no reference. -/
theorem exists_steps_of_followRefs
    (h : registry.followRefs base descriptor path hops = .ok place) :
    (∃ k, Steps registry.RefHop k (base, descriptor) place) ∧ place.2.kind ≠ .ref := by
  fun_induction followRefs registry base descriptor path hops with
  | case1 base hops description target hlt ih =>
    obtain ⟨address, hlocate, h⟩ := bind_eq_ok.1 h
    obtain ⟨next, hlookUp, h⟩ := bind_eq_ok.1 h
    obtain ⟨⟨k, hsteps⟩, hend⟩ := ih address next h
    exact ⟨⟨k + 1, .head (.mk (Address.locate_eq_ok.1 hlocate) (lookUp_eq_ok.1 hlookUp)) hsteps⟩,
      hend⟩
  | case2 => cases h
  | case3 base hops descriptor hkind =>
    cases h
    exact ⟨⟨0, .refl _⟩, fun href => by cases descriptor <;> cases href; exact hkind _ _ rfl⟩

/-- **The limit on hops is exact, and both walks share it.**  A value is checked from a descriptor
    on, no hops having been made.  If `k` hops lead it to a descriptor that leads it no further,
    then its verdict is that of this descriptor where the limit is at least `k`, and the check gives
    up at the path of the value where the limit is less.  It gives up, too, where the hops never
    come to an end.  If the hops are by references only, then the walk of a filling comes to the
    same descriptor, in the same document, and under the same limits. -/
theorem hop_limit_is_exact (registry : Registry) (base : String) (descriptor : Descriptor)
    (path : Path) :
    (∀ value k place, Steps (registry.Hop value) k (base, descriptor) place → Settles value place →
      (k ≤ registry.settings.maxHops → ∀ hops,
        registry.checkValue base descriptor value path 0 =
          registry.checkValue place.1 place.2 value path hops) ∧
      (registry.settings.maxHops < k →
        registry.checkValue base descriptor value path 0 =
          .error (.resolution (.tooManyHops registry.settings.maxHops path)))) ∧
    (∀ value, (∀ k, ∃ place, Steps (registry.Hop value) k (base, descriptor) place) →
      registry.checkValue base descriptor value path 0 =
        .error (.resolution (.tooManyHops registry.settings.maxHops path))) ∧
    (∀ k place, Steps registry.RefHop k (base, descriptor) place → place.2.kind ≠ .ref →
      ((∃ found, registry.followRefs base descriptor path 0 = .ok found) ↔
        k ≤ registry.settings.maxHops) ∧
      (k ≤ registry.settings.maxHops →
        registry.followRefs base descriptor path 0 = .ok place ∧
        ∀ value, registry.checkValue base descriptor value path 0 =
          registry.checkValue place.1 place.2 value path k) ∧
      (registry.settings.maxHops < k →
        registry.followRefs base descriptor path 0 =
          .error (.resolution (.tooManyHops registry.settings.maxHops path)))) ∧
    ((∀ k, ∃ place, Steps registry.RefHop k (base, descriptor) place) →
      registry.followRefs base descriptor path 0 =
        .error (.resolution (.tooManyHops registry.settings.maxHops path))) := by
  have hcheck {value : Value} {k : Nat} {place : String × Descriptor}
      (h : Steps (registry.Hop value) k (base, descriptor) place) :=
    checkValue_of_steps h (Nat.zero_le registry.settings.maxHops) path
  have hwalk {k : Nat} {place : String × Descriptor}
      (h : Steps registry.RefHop k (base, descriptor) place) :=
    followRefs_of_steps h (Nat.zero_le registry.settings.maxHops) path
  -- No hops are made at the start, so the limit is compared with the number of steps.
  simp only [Nat.zero_add] at hcheck hwalk
  refine ⟨fun value k place h hsettles => ⟨fun hle hops => ?_, fun hlt => ?_⟩, fun value h => ?_,
    fun k place h hend => ⟨⟨?_, fun hle => ⟨place, ?_⟩⟩, fun hle => ⟨?_, fun value => ?_⟩,
      fun hlt => ?_⟩, fun h => ?_⟩
  · rw [hcheck h, if_pos hle]
    exact checkValue_of_settles hsettles k hops
  · rw [hcheck h, if_neg (Nat.not_le.2 hlt)]
  · -- Endless hops are also one more than the limit allows.
    obtain ⟨place, h⟩ := h (registry.settings.maxHops + 1)
    rw [hcheck h, if_neg (by omega)]
  · rintro ⟨found, hfound⟩
    by_contra hlt
    rw [hwalk h, if_neg hlt] at hfound
    cases hfound
  · rw [hwalk h, if_pos hle, followRefs_of_not_ref hend]
  · rw [hwalk h, if_pos hle, followRefs_of_not_ref hend]
  · rw [hcheck (h.mono fun _ _ hhop => hhop.hop value), if_pos hle]
  · rw [hwalk h, if_neg (Nat.not_le.2 hlt)]
  · obtain ⟨place, h⟩ := h (registry.settings.maxHops + 1)
    rw [hwalk h, if_neg (by omega)]

/-- A relay, in which a baton goes from document to document; in the round it never arrives. -/
def relay (max : Nat) : Registry where
  documents := [
    { Document.empty "com.example.relay" with definitions := [
        ("main", .ref none "com.example.baton"),
        ("round", .ref none "com.example.baton#round")] },
    { Document.empty "com.example.baton" with definitions := [
        ("main", .union none ["#hand", "com.example.relay#round"] (some true)),
        ("hand", .ref none "#palm"),
        ("palm", .object ⟨none, [("fingers", .integer none {})], ["fingers"], []⟩),
        ("round", .ref none "com.example.relay#round")] }]
  settings := { maxHops := max }

/-- What is passed on: a hand, of which nothing else is known. -/
def hand : Value :=
  .object [("$type", .string "com.example.baton#hand")]

/-- The union that the references lead to. -/
def batons : Descriptor :=
  .union none ["#hand", "com.example.relay#round"] (some true)

/-- Two references lead from the relay to the union. -/
theorem relay_refHops (max : Nat) :
    Steps (relay max).RefHop 2 ("com.example.relay", .ref none "#main")
      ("com.example.baton", batons) := by
  have hmain : Address.parse "#main" (some "com.example.relay") =
      .ok ⟨"com.example.relay", "main"⟩ := by cbv
  have hbaton : Address.parse "com.example.baton" (some "com.example.relay") =
      .ok ⟨"com.example.baton", "main"⟩ := by cbv
  exact .head (.mk hmain rfl) (.head (.mk hbaton rfl) (.refl _))

/-- Four hops lead the hand from the relay to the object that decides about it. -/
theorem relay_hops (max : Nat) :
    Steps ((relay max).Hop hand) 4 ("com.example.relay", .ref none "#main")
      ("com.example.baton", .object ⟨none, [("fingers", .integer none {})], ["fingers"], []⟩) := by
  have hhand : Address.parse "#hand" (some "com.example.baton") =
      .ok ⟨"com.example.baton", "hand"⟩ := by cbv
  have hround : Address.parse "com.example.relay#round" (some "com.example.baton") =
      .ok ⟨"com.example.relay", "round"⟩ := by cbv
  have htype : Address.parse "com.example.baton#hand" none =
      .ok ⟨"com.example.baton", "hand"⟩ := by cbv
  have hpalm : Address.parse "#palm" (some "com.example.baton") =
      .ok ⟨"com.example.baton", "palm"⟩ := by cbv
  have hmember : LeadsTo hand ("com.example.baton", batons) ⟨"com.example.baton", "hand"⟩ := by
    refine .member ?_ rfl htype ⟨"#hand", List.mem_cons_self, hhand⟩
    simp [hhand, hround]
  have hrefs := (relay_refHops max).mono fun _ _ hhop => hhop.hop hand
  exact hrefs.trans (.head (.mk hmember rfl) (.head (.mk (.ref hpalm) rfl) (.refl _)))

/-- The round has no end. -/
theorem relay_round (max k : Nat) :
    ∃ place, Steps (relay max).RefHop k ("com.example.relay", .ref none "#round") place := by
  have hround : Address.parse "#round" (some "com.example.relay") =
      .ok ⟨"com.example.relay", "round"⟩ := by cbv
  have hthere : Address.parse "com.example.baton#round" (some "com.example.relay") =
      .ok ⟨"com.example.baton", "round"⟩ := by cbv
  have hback : Address.parse "com.example.relay#round" (some "com.example.baton") =
      .ok ⟨"com.example.relay", "round"⟩ := by cbv
  -- From each of three references the next hop leads to one of them again.
  refine Steps.exists_of_forall (P := fun place =>
    place = ("com.example.relay", .ref none "#round") ∨
    place = ("com.example.relay", .ref none "com.example.baton#round") ∨
    place = ("com.example.baton", .ref none "com.example.relay#round")) ?_ (.inl rfl) k
  rintro place (rfl | rfl | rfl)
  · exact ⟨_, .mk hround rfl, .inr (.inl rfl)⟩
  · exact ⟨_, .mk hthere rfl, .inr (.inr rfl)⟩
  · exact ⟨_, .mk hback rfl, .inr (.inl rfl)⟩

/-- Four hops, by references and a union, lead the hand to the palm, and two of them to the union.
    Each walk goes that far under a limit of as many hops, and not under one less; no limit is high
    enough for the round. -/
theorem hop_limit_is_exact_relay :
    4 ≤ (relay 4).settings.maxHops ∧
      (relay 4).checkValue "com.example.relay" (.ref none "#main") hand "Object" 0 =
        .error (.violation "Object" (.missingProperty "fingers")) ∧
      (relay 3).settings.maxHops < 4 ∧
      (relay 3).checkValue "com.example.relay" (.ref none "#main") hand "Object" 0 =
        .error (.resolution (.tooManyHops 3 "Object")) ∧
      2 ≤ (relay 2).settings.maxHops ∧
      (relay 2).followRefs "com.example.relay" (.ref none "#main") "Object" 0 =
        .ok ("com.example.baton", batons) ∧
      (relay 1).settings.maxHops < 2 ∧
      (relay 1).followRefs "com.example.relay" (.ref none "#main") "Object" 0 =
        .error (.resolution (.tooManyHops 1 "Object")) ∧
      (relay 9).checkValue "com.example.relay" (.ref none "#round") hand "Object" 0 =
        .error (.resolution (.tooManyHops 9 "Object")) ∧
      (relay 9).followRefs "com.example.relay" (.ref none "#round") "Object" 0 =
        .error (.resolution (.tooManyHops 9 "Object")) := by
  have hsettles : Settles hand
      ("com.example.baton", .object ⟨none, [("fingers", .integer none {})], ["fingers"], []⟩) :=
    ⟨by decide, fun _ h => by cases h⟩
  have hpalm : (relay 4).checkValue "com.example.baton"
      (.object ⟨none, [("fingers", .integer none {})], ["fingers"], []⟩) hand "Object" 0 =
        .error (.violation "Object" (.missingProperty "fingers")) := by cbv
  obtain ⟨hfour, -⟩ := hop_limit_is_exact (relay 4) "com.example.relay" (.ref none "#main") "Object"
  obtain ⟨hthree, -⟩ :=
    hop_limit_is_exact (relay 3) "com.example.relay" (.ref none "#main") "Object"
  obtain ⟨-, -, htwo, -⟩ :=
    hop_limit_is_exact (relay 2) "com.example.relay" (.ref none "#main") "Object"
  obtain ⟨-, -, hone, -⟩ :=
    hop_limit_is_exact (relay 1) "com.example.relay" (.ref none "#main") "Object"
  obtain ⟨-, hcheck, -, hwalk⟩ :=
    hop_limit_is_exact (relay 9) "com.example.relay" (.ref none "#round") "Object"
  have hround (k : Nat) := relay_round 9 k
  refine ⟨by decide, ((hfour hand 4 _ (relay_hops 4) hsettles).1 (by decide) 0).trans hpalm,
    by decide, (hthree hand 4 _ (relay_hops 3) hsettles).2 (by decide), by decide,
    ((htwo 2 _ (relay_refHops 2) (by decide)).2.1 (by decide)).1, by decide,
    (hone 2 _ (relay_refHops 1) (by decide)).2.2 (by decide), hcheck hand fun k => ?_,
    hwalk hround⟩
  obtain ⟨place, hsteps⟩ := hround k
  exact ⟨place, hsteps.mono fun _ _ hhop => hhop.hop hand⟩

end Registry

end Lexicon
