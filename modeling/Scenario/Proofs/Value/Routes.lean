import Scenario.Loading

/-! # Routes into values

A route leads step by step into a value: by the names of mappings and by the places of lists. What
is put at the end of a route is there afterwards (`Value.step?_putStep_self`), and what other steps
lead to is not touched (`Value.step?_putStep_of_ne`). -/

namespace Scenario

namespace Value

variable {v w : Value} {es : List (Value × Value)} {vs : List Value} {name other : String}
  {step step' : Step} {i : Nat}

/-- The items of a list; a tuple and a set count as one. -/
def items? (v : Value) : Option (List Value) :=
  match v.exposed with
  | .list vs | .tuple vs | .set vs => some vs
  | _ => none

@[simp] theorem items?_list (vs : List Value) : items? (.list vs) = some vs := rfl
@[simp] theorem items?_map (es : List (Value × Value)) : items? (.map es) = none := rfl
@[simp] theorem entries?_list (vs : List Value) : entries? (.list vs) = none := rfl
@[simp] theorem entries?_map (es : List (Value × Value)) : entries? (.map es) = some es := rfl

/-- A value with items is no mapping. -/
theorem entries?_of_items? (h : v.items? = some vs) : entries? v = none := by
  unfold items? at h
  unfold entries?
  split at h <;> simp_all

/-- A mapping has no items. -/
theorem items?_of_entries? (h : entries? v = some es) : v.items? = none := by
  cases hvs : v.items? with
  | none => rfl
  | some vs =>
      rw [entries?_of_items? hvs] at h
      cases h

/-- What one step into a value leads to. -/
def step? (v : Value) : Step → Option Value
  | .field name => (entries? v).bind (field? name)
  | .index i => v.items?.bind (·[i]?)

/-- What a route leads to. -/
def follow? : List Step → Value → Option Value
  | [], v => some v
  | step :: loc, v => (v.step? step).bind (follow? loc)

/-- Whether something can be put where a step leads: under any name of a mapping, and in the place
of an item. -/
def Takes (v : Value) : Step → Prop
  | .field _ => ∃ es, entries? v = some es
  | .index i => ∃ vs, v.items? = some vs ∧ i < vs.length

/-- The value with another one where a step leads. An entry that is not there is added; a tuple or a
set becomes a list. -/
def putStep (v w : Value) : Step → Value
  | .field name => ((entries? v).map fun es => .map (put (.text name) w es)).getD v
  | .index i => (v.items?.map fun vs => .list (vs.set i w)).getD v

/-- The value with another one at the end of a route. -/
def putAt (w : Value) : List Step → Value → Value
  | [], _ => w
  | step :: loc, v => v.putStep (putAt w loc ((v.step? step).getD .null)) step

/-! ## Entries -/

/-- A name is no other key than itself. -/
theorem sameKey_text (key : Value) (name : String) :
    sameKey key (.text name) = true ↔ key = .text name := by
  cases key <;> simp [sameKey, asInteger?]

/-- What is put under a name is found there, and what is under other names stays. -/
theorem field?_put (w : Value) (es : List (Value × Value)) :
    field? name (put (.text other) w es) = if other = name then some w else field? name es := by
  unfold put
  induction es with
  | nil => simp [Entries.put, field?]
  | cons e es ih =>
      obtain ⟨key, v⟩ := e
      by_cases hkey : key = .text other
      · subst hkey
        rw [Entries.put, if_pos ((sameKey_text _ _).mpr rfl), field?, field?]
        split <;> rfl
      · rw [Entries.put, if_neg (mt (sameKey_text _ _).mp hkey)]
        cases key with
        | text s =>
            have hs : s ≠ other := fun h => hkey (congrArg _ h)
            rw [field?, field?, ih]
            split
            · next hname => rw [if_neg (hname ▸ hs.symm)]
            · rfl
        | _ => exact ih

/-! ## Steps -/

/-- What is put where a step leads is there. -/
theorem step?_putStep_self (h : v.Takes step) : (v.putStep w step).step? step = some w := by
  cases step with
  | field name =>
      obtain ⟨es, hes⟩ := h
      simp [putStep, step?, hes, field?_put]
  | index i =>
      obtain ⟨vs, hvs, hi⟩ := h
      simp [putStep, step?, hvs, hi]

/-- What other steps lead to is not touched. -/
theorem step?_putStep_of_ne (h : step' ≠ step) :
    (v.putStep w step).step? step' = v.step? step' := by
  cases step with
  | field name =>
      cases hes : entries? v with
      | none => simp [putStep, hes]
      | some es =>
          have hvs := items?_of_entries? hes
          cases step' with
          | field name' =>
              have hname : name ≠ name' := fun hname => h (congrArg _ hname.symm)
              simp [putStep, step?, hes, field?_put, hname]
          | index i => simp [putStep, step?, hes, hvs]
  | index i =>
      cases hvs : v.items? with
      | none => simp [putStep, hvs]
      | some vs =>
          cases step' with
          | field name' => simp [putStep, step?, hvs, entries?_of_items? hvs]
          | index i' =>
              have hi : i ≠ i' := fun hi => h (congrArg _ hi.symm)
              simp [putStep, step?, hvs, hi]

/-- Values into which the same steps can be taken: both are mappings, or both have as many items. -/
structure SameKind (v v' : Value) : Prop where
  entries : (entries? v').isSome = (entries? v).isSome
  items : v'.items?.map List.length = v.items?.map List.length

theorem SameKind.refl (v : Value) : SameKind v v := ⟨rfl, rfl⟩

theorem SameKind.trans {u : Value} (h : SameKind u v) (h' : SameKind v w) : SameKind u w :=
  ⟨h'.entries.trans h.entries, h'.items.trans h.items⟩

theorem SameKind.takes {v' : Value} (h : SameKind v v') (ht : v.Takes step) : v'.Takes step := by
  cases step with
  | field name =>
      obtain ⟨es, hes⟩ := ht
      exact Option.isSome_iff_exists.mp (by rw [h.entries, hes]; rfl)
  | index i =>
      obtain ⟨vs, hvs, hi⟩ := ht
      have hlength := h.items
      rw [hvs, Option.map_some] at hlength
      obtain ⟨vs', hvs', heq⟩ := Option.map_eq_some_iff.mp hlength
      exact ⟨vs', hvs', heq ▸ hi⟩

theorem SameKind.isSome_items? {v' : Value} (h : SameKind v v') :
    v'.items?.isSome = v.items?.isSome := by
  rw [← Option.isSome_map, h.items, Option.isSome_map]

/-- Where there is an item, there was one before. -/
theorem SameKind.exists_item {v' : Value} (h : SameKind v v')
    (hw : v'.step? (.index i) = some w) : ∃ u, v.step? (.index i) = some u := by
  obtain ⟨vs', hvs', hi'⟩ := Option.bind_eq_some_iff.mp hw
  have hitems := h.items
  rw [hvs', Option.map_some] at hitems
  obtain ⟨vs, hvs, hlength⟩ := Option.map_eq_some_iff.mp hitems.symm
  have hi : i < vs.length := hlength ▸ (List.getElem?_eq_some_iff.mp hi').1
  exact ⟨vs[i], by simp [step?, hvs, hi]⟩

/-- What is put into a value does not change its kind. -/
theorem sameKind_putStep (v w : Value) (step : Step) : SameKind v (v.putStep w step) := by
  cases step with
  | field name =>
      cases hes : entries? v with
      | none => simpa [putStep, hes] using SameKind.refl v
      | some es =>
          have hvs := items?_of_entries? hes
          constructor <;> simp [putStep, hes, hvs]
  | index i =>
      cases hvs : v.items? with
      | none => simpa [putStep, hvs] using SameKind.refl v
      | some vs => constructor <;> simp [putStep, hvs, entries?_of_items? hvs]

end Value

end Scenario
