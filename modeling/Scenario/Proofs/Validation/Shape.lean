import Scenario.Proofs.Validation.Scalar
import Scenario.Proofs.Value.Routes

/-! # Shapes of data

A decoder reads a value as data of a declared shape. `Shape` tells the shape by itself: the kinds of
the simple data, what may be null, what is a list, and the keys of a mapping in the order in which
they are declared. Which values are valid (`Shape.Accepts`) and where a value is at fault
(`Shape.Lacks`, `Shape.Unfit`) is said along routes into the value.

`Shape.issues` lists the faults of a value: all that it lacks (`Shape.mem_issues_missing_iff`), all
that is unfit in it (`Shape.exists_mem_issues_iff`), and none only if it is valid
(`Shape.issues_eq_nil_iff`). -/

namespace Scenario

/-- A key of a mapping. -/
structure Key where
  name : String
  required : Bool := false
deriving DecidableEq, Repr

/-- A declared shape of data. -/
inductive Shape where
  /-- Any value. -/
  | any
  | scalar (kind : Scalar)
  /-- Null, or a value of a shape. -/
  | optional (s : Shape)
  /-- A list of values of a shape. -/
  | list (s : Shape)
  /-- A mapping that stands for a node, with keys in the order of their declarations and the shape
  of what is under each of them. -/
  | node (name : String) (keys : List Key) (under : String → Shape)
    (distinct : (keys.map Key.name).Nodup)

namespace Shape

/-- Whether a value is valid. -/
def Accepts : Shape → Value → Prop
  | .any, _ => True
  | .scalar kind, v => kind.issues v = []
  | .optional s, v => v = .null ∨ s.Accepts v
  | .list s, v => ∃ vs, v.items? = some vs ∧ ∀ w ∈ vs, s.Accepts w
  | .node _ keys under _, v => ∃ es, entries? v = some es ∧ ∀ key ∈ keys,
      match Value.field? key.name es with
      | some w => (under key.name).Accepts w
      | none => key.required = false

/-- Whether a value is none of a shape, whatever is in it. -/
def Rejects : Shape → Value → Prop
  | .any, _ => False
  | .scalar kind, v => kind.issues v ≠ []
  | .optional s, v => v ≠ .null ∧ s.Rejects v
  | .list _, v => v.items? = none
  | .node .., v => entries? v = none

/-- Whether a mapping has to have a key. -/
def Requires : Shape → String → Prop
  | .optional s, name => s.Requires name
  | .node _ keys _ _, name => ⟨name, true⟩ ∈ keys
  | _, _ => False

/-- The shape of what a step leads to. -/
def child? : Shape → Step → Option Shape
  | .optional s, step => s.child? step
  | .list s, .index _ => some s
  | .node _ keys under _, .field name =>
    if name ∈ keys.map Key.name then some (under name) else none
  | _, _ => none

/-- The shape of what a route leads to. -/
def at? : List Step → Shape → Option Shape
  | [], s => some s
  | step :: loc, s => (s.child? step).bind (at? loc)

/-- A mapping in a value lacks a key that it has to have; the route ends with the key. -/
def Lacks (s : Shape) (v : Value) (loc : List Step) : Prop :=
  ∃ before name s' w es, loc = before ++ [.field name] ∧
    at? before s = some s' ∧ s'.Requires name ∧
    Value.follow? before v = some w ∧ entries? w = some es ∧ Value.field? name es = none

/-- What a route leads to is none of the shape declared for it. -/
def Unfit (s : Shape) (v : Value) (loc : List Step) : Prop :=
  ∃ s' w, at? loc s = some s' ∧ Value.follow? loc v = some w ∧ s'.Rejects w

end Shape

/-! ## Faults of parts -/

/-- The fault of a part, seen from the whole. -/
def Issue.under (step : Step) (i : Issue) : Issue := { i with loc := step :: i.loc }

/-- The faults of parts, each of which a step leads to, seen from the whole. -/
def Issue.gather (parts : List (Step × List Issue)) : List Issue :=
  parts.flatMap fun (step, issues) => issues.map (Issue.under step)

namespace Shape

/-- The faults of what is under a key, or that the key is not there. -/
def issuesUnder (issues : Value → List Issue) (required : Bool) : Option Value → List Issue
  | some w => issues w
  | none => if required then [⟨[], .missing⟩] else []

/-- The faults of a value, in the order of the declarations. -/
def issues : Shape → Value → List Issue
  | .any, _ => []
  | .scalar kind, v => kind.issues v
  | .optional s, v =>
    match v with
    | .null => []
    | v => s.issues v
  | .list s, v =>
    match v.items? with
    | some vs => Issue.gather (vs.mapIdx fun i w => (.index i, s.issues w))
    | none => [⟨[], .listType⟩]
  | .node name keys under _, v =>
    match entries? v with
    | some es => Issue.gather (keys.map fun key =>
        (.field key.name,
          issuesUnder (under key.name).issues key.required (Value.field? key.name es)))
    | none => [⟨[], .nodeType name⟩]

end Shape

/-! ## Faults below a step -/

namespace Issue

variable {parts : List (Step × List Issue)} {step : Step} {loc : List Step} {c : Complaint}
  {i : Issue}

theorem gather_cons (step : Step) (issues : List Issue) (parts : List (Step × List Issue)) :
    gather ((step, issues) :: parts) = issues.map (Issue.under step) ++ gather parts := rfl

theorem gather_eq_nil_iff : gather parts = [] ↔ ∀ p ∈ parts, p.2 = [] := by
  simp [gather, List.flatMap_eq_nil_iff]

/-- The faults of parts lie below the steps to them. -/
theorem mem_gather_iff :
    i ∈ gather parts ↔ ∃ p ∈ parts, ∃ j ∈ p.2, i = j.under p.1 := by
  simp [gather, eq_comm]

theorem mem_gather_cons_iff :
    ⟨step :: loc, c⟩ ∈ gather parts ↔ ∃ issues, (step, issues) ∈ parts ∧ ⟨loc, c⟩ ∈ issues := by
  rw [mem_gather_iff]
  constructor
  · rintro ⟨⟨step', issues⟩, hp, ⟨loc', c'⟩, hj, hi⟩
    obtain ⟨hloc, rfl⟩ := Issue.mk.inj hi
    obtain ⟨rfl, rfl⟩ := List.cons_eq_cons.mp hloc
    exact ⟨issues, hp, hj⟩
  · rintro ⟨issues, hp, hj⟩
    exact ⟨_, hp, _, hj, rfl⟩

theorem nil_not_mem_gather : (⟨[], c⟩ : Issue) ∉ gather parts := by
  rw [mem_gather_iff]
  rintro ⟨p, -, j, -, hi⟩
  cases hi

end Issue

namespace Shape

variable {s : Shape} {v w : Value} {es : List (Value × Value)} {vs : List Value} {name : String}
  {keys : List Key} {under : String → Shape} {distinct : (keys.map Key.name).Nodup} {step : Step}
  {loc : List Step} {c : Complaint}

/-- Null is accepted where it may stand, and any other value is read for what it is. -/
theorem issues_optional (h : v ≠ .null) : (optional s).issues v = s.issues v := by
  cases v <;> first | rfl | exact absurd rfl h

theorem issues_list_of_items? (h : v.items? = some vs) :
    (list s).issues v = Issue.gather (vs.mapIdx fun i w => (.index i, s.issues w)) := by
  simp only [issues, h]

theorem issues_list_of_none (h : v.items? = none) : (list s).issues v = [⟨[], .listType⟩] := by
  simp only [issues, h]

theorem issues_node_of_entries? (h : entries? v = some es) :
    (node name keys under distinct).issues v = Issue.gather (keys.map fun key =>
      (.field key.name,
        issuesUnder (under key.name).issues key.required (Value.field? key.name es))) := by
  simp only [issues, h]

theorem issues_node_of_none (h : entries? v = none) :
    (node name keys under distinct).issues v = [⟨[], .nodeType name⟩] := by
  simp only [issues, h]

/-- A mapping lacks the key that a step names, and has to have it. -/
def LacksKey (s : Shape) (v : Value) (step : Step) : Prop :=
  ∃ name es, step = .field name ∧ s.Requires name ∧ entries? v = some es ∧
    Value.field? name es = none

/-- Faults below a place of a list are those of the item there. -/
theorem mem_issues_list_iff {i : Nat} :
    ⟨.index i :: loc, c⟩ ∈ (list s).issues v ↔
      ∃ w, v.step? (.index i) = some w ∧ ⟨loc, c⟩ ∈ s.issues w := by
  cases hvs : v.items? with
  | none => simp [issues_list_of_none hvs, Value.step?, hvs]
  | some vs =>
      rw [issues_list_of_items? hvs, Issue.mem_gather_cons_iff, Value.step?, hvs, Option.bind_some]
      constructor
      · rintro ⟨issues, hpart, hmem⟩
        obtain ⟨j, hj, heq⟩ := List.mem_mapIdx.mp hpart
        cases heq
        exact ⟨_, List.getElem?_eq_getElem hj, hmem⟩
      · rintro ⟨w, hw, hmem⟩
        obtain ⟨hi, rfl⟩ := List.getElem?_eq_some_iff.mp hw
        exact ⟨_, List.mem_mapIdx.mpr ⟨i, hi, rfl⟩, hmem⟩

/-- No fault of a list lies below a name. -/
theorem field_not_mem_issues_list : ⟨.field name :: loc, c⟩ ∉ (list s).issues v := by
  cases hvs : v.items? with
  | none => simp [issues_list_of_none hvs]
  | some vs => simp [issues_list_of_items? hvs, Issue.mem_gather_cons_iff, List.mem_mapIdx]

/-- Faults below a name are those under the key of this name. -/
theorem mem_issues_node_iff {x : String} :
    ⟨.field x :: loc, c⟩ ∈ (node name keys under distinct).issues v ↔
      ∃ es required, entries? v = some es ∧ ⟨x, required⟩ ∈ keys ∧
        ⟨loc, c⟩ ∈ issuesUnder (under x).issues required (Value.field? x es) := by
  cases hes : entries? v with
  | none => simp [issues_node_of_none hes]
  | some es =>
      rw [issues_node_of_entries? hes, Issue.mem_gather_cons_iff]
      constructor
      · rintro ⟨issues, hpart, hmem⟩
        obtain ⟨key, hkey, heq⟩ := List.mem_map.mp hpart
        cases heq
        exact ⟨es, key.required, rfl, hkey, hmem⟩
      · rintro ⟨es', required, heq, hkey, hmem⟩
        cases heq
        exact ⟨_, List.mem_map_of_mem hkey, hmem⟩

/-- No fault of a mapping lies below a place. -/
theorem index_not_mem_issues_node {i : Nat} :
    ⟨.index i :: loc, c⟩ ∉ (node name keys under distinct).issues v := by
  cases hes : entries? v with
  | none => simp [issues_node_of_none hes]
  | some es => simp [issues_node_of_entries? hes, Issue.mem_gather_cons_iff]

/-- Under a key there are the faults of the value, or the key is missing. -/
theorem mem_issuesUnder_iff {issues : Value → List Issue} {required : Bool} {o : Option Value} :
    ⟨loc, c⟩ ∈ issuesUnder issues required o ↔
      (∃ w, o = some w ∧ ⟨loc, c⟩ ∈ issues w) ∨
        o = none ∧ required = true ∧ loc = [] ∧ c = .missing := by
  cases o with
  | some w => simp [issuesUnder]
  | none => cases required <;> simp [issuesUnder]

theorem mem_map_name_iff {x : String} :
    x ∈ keys.map Key.name ↔ ∃ required, ⟨x, required⟩ ∈ keys := by
  constructor
  · intro hx
    obtain ⟨key, hkey, rfl⟩ := List.mem_map.mp hx
    exact ⟨key.required, hkey⟩
  · rintro ⟨required, hkey⟩
    exact List.mem_map_of_mem hkey

/-- Below a name, a mapping leads to what is under a declared key. -/
theorem child?_node_eq_some_iff {x : String} :
    (node name keys under distinct).child? (.field x) = some s ↔
      (∃ required, ⟨x, required⟩ ∈ keys) ∧ under x = s := by
  rw [child?, ← mem_map_name_iff]
  split <;> simp [*]

/-- The faults below a step are those of what the step leads to, or that the key is not there. -/
theorem mem_issues_cons_iff :
    ⟨step :: loc, c⟩ ∈ s.issues v ↔
      (∃ s' w, s.child? step = some s' ∧ v.step? step = some w ∧ ⟨loc, c⟩ ∈ s'.issues w) ∨
        loc = [] ∧ c = .missing ∧ s.LacksKey v step := by
  induction s with
  | any => simp [issues, child?, LacksKey, Requires]
  | scalar kind =>
      have hnot : ⟨step :: loc, c⟩ ∉ (scalar kind).issues v := by
        rcases kind.issues_cases v with h | ⟨c', -, h⟩ <;> simp [issues, h]
      simp [hnot, child?, LacksKey, Requires]
  | optional s ih =>
      by_cases hv : v = .null
      · subst hv
        have hentries : entries? .null = none := rfl
        have hstep : Value.step? .null step = none := by cases step <;> rfl
        simp [issues, hstep, LacksKey, hentries]
      · rw [issues_optional hv, ih]
        rfl
  | list s ih =>
      cases step with
      | field x => simp [field_not_mem_issues_list, child?, LacksKey, Requires]
      | index i => simp [mem_issues_list_iff, child?, LacksKey]
  | node name keys under distinct ih =>
      cases step with
      | index i => simp [index_not_mem_issues_node, child?, LacksKey]
      | field x =>
          rw [mem_issues_node_iff]
          constructor
          · rintro ⟨es, required, hes, hkey, hmem⟩
            have hstep : v.step? (.field x) = Value.field? x es := by
              rw [Value.step?, hes, Option.bind_some]
            rcases mem_issuesUnder_iff.mp hmem with ⟨w, hw, hmem⟩ | ⟨hnone, rfl, rfl, rfl⟩
            · exact .inl ⟨under x, w, child?_node_eq_some_iff.mpr ⟨⟨required, hkey⟩, rfl⟩,
                hstep.trans hw, hmem⟩
            · exact .inr ⟨rfl, rfl, x, es, rfl, hkey, hes, hnone⟩
          · rintro (⟨s', w, hs', hw, hmem⟩ | ⟨rfl, rfl, y, es, hy, hkey, hes, hnone⟩)
            · obtain ⟨⟨required, hkey⟩, rfl⟩ := child?_node_eq_some_iff.mp hs'
              obtain ⟨es, hes, hw⟩ := Option.bind_eq_some_iff.mp hw
              exact ⟨es, required, hes, hkey, mem_issuesUnder_iff.mpr (.inl ⟨w, hw, hmem⟩)⟩
            · cases hy
              exact ⟨es, true, hes, hkey,
                mem_issuesUnder_iff.mpr (.inr ⟨hnone, rfl, rfl, rfl⟩)⟩

/-- A fault at the value itself is that it is none of the shape. -/
theorem exists_root_mem_issues_iff : (∃ c, ⟨[], c⟩ ∈ s.issues v) ↔ s.Rejects v := by
  induction s with
  | any => simp [issues, Rejects]
  | scalar kind =>
      rcases kind.issues_cases v with h | ⟨c', -, h⟩ <;> simp [issues, Rejects, h]
  | optional s ih =>
      by_cases hv : v = .null
      · subst hv
        simp [issues, Rejects]
      · rw [issues_optional hv, ih, Rejects, and_iff_right hv]
  | list s ih =>
      cases hvs : v.items? with
      | none => simp [issues_list_of_none hvs, Rejects, hvs]
      | some vs => simp [issues_list_of_items? hvs, Rejects, hvs, Issue.nil_not_mem_gather]
  | node name keys under distinct ih =>
      cases hes : entries? v with
      | none => simp [issues_node_of_none hes, Rejects, hes]
      | some es => simp [issues_node_of_entries? hes, Rejects, hes, Issue.nil_not_mem_gather]

/-- A fault at the value itself is the only one, and it is not that the value is missing. -/
theorem issues_eq_of_root_mem (h : ⟨[], c⟩ ∈ s.issues v) :
    s.issues v = [⟨[], c⟩] ∧ c ≠ .missing := by
  induction s with
  | any => cases h
  | scalar kind =>
      rw [issues] at h ⊢
      rcases kind.issues_cases v with hnone | ⟨c', hc', hone⟩
      · rw [hnone] at h
        cases h
      · rw [hone] at h ⊢
        cases List.mem_singleton.mp h
        exact ⟨rfl, hc'⟩
  | optional s ih =>
      by_cases hv : v = .null
      · subst hv
        cases h
      · rw [issues_optional hv] at h ⊢
        exact ih h
  | list s ih =>
      cases hvs : v.items? with
      | none =>
          rw [issues_list_of_none hvs] at h ⊢
          cases List.mem_singleton.mp h
          exact ⟨rfl, nofun⟩
      | some vs =>
          rw [issues_list_of_items? hvs] at h
          exact absurd h Issue.nil_not_mem_gather
  | node name keys under distinct ih =>
      cases hes : entries? v with
      | none =>
          rw [issues_node_of_none hes] at h ⊢
          cases List.mem_singleton.mp h
          exact ⟨rfl, nofun⟩
      | some es =>
          rw [issues_node_of_entries? hes] at h
          exact absurd h Issue.nil_not_mem_gather

/-! ## Soundness and completeness -/

theorem unfit_nil_iff : s.Unfit v [] ↔ s.Rejects v := by
  constructor
  · rintro ⟨s', w, hs', hw, h⟩
    cases hs'
    cases hw
    exact h
  · exact fun h => ⟨s, v, rfl, rfl, h⟩

theorem unfit_cons_iff :
    s.Unfit v (step :: loc) ↔
      ∃ s' w, s.child? step = some s' ∧ v.step? step = some w ∧ s'.Unfit w loc := by
  unfold Unfit
  simp only [at?, Value.follow?, Option.bind_eq_some_iff]
  constructor
  · rintro ⟨s', w, ⟨s₁, hs₁, hs'⟩, ⟨w₁, hw₁, hw⟩, h⟩
    exact ⟨s₁, w₁, hs₁, hw₁, s', w, hs', hw, h⟩
  · rintro ⟨s₁, w₁, hs₁, hw₁, s', w, hs', hw, h⟩
    exact ⟨s', w, ⟨s₁, hs₁, hs'⟩, ⟨w₁, hw₁, hw⟩, h⟩

theorem not_lacks_nil : ¬s.Lacks v [] := by
  rintro ⟨before, name, s', w, es, hloc, -⟩
  exact List.append_ne_nil_of_right_ne_nil before (List.cons_ne_nil _ _) hloc.symm

theorem lacks_cons_iff :
    s.Lacks v (step :: loc) ↔
      (∃ s' w, s.child? step = some s' ∧ v.step? step = some w ∧ s'.Lacks w loc) ∨
        loc = [] ∧ s.LacksKey v step := by
  constructor
  · rintro ⟨before, name, s', w, es, hloc, hs', hrequires, hw, hes, hnone⟩
    cases before with
    | nil =>
        obtain ⟨rfl, rfl⟩ := List.cons_eq_cons.mp hloc
        cases hs'
        cases hw
        exact .inr ⟨rfl, name, es, rfl, hrequires, hes, hnone⟩
    | cons first before =>
        obtain ⟨rfl, rfl⟩ := List.cons_eq_cons.mp hloc
        obtain ⟨s₁, hs₁, hs'⟩ := Option.bind_eq_some_iff.mp hs'
        obtain ⟨w₁, hw₁, hw⟩ := Option.bind_eq_some_iff.mp hw
        exact .inl ⟨s₁, w₁, hs₁, hw₁, before, name, s', w, es, rfl, hs', hrequires, hw, hes, hnone⟩
  · rintro (⟨s₁, w₁, hs₁, hw₁, before, name, s', w, es, rfl, hs', hrequires, hw, hes, hnone⟩ |
      ⟨rfl, name, es, rfl, hrequires, hes, hnone⟩)
    · exact ⟨step :: before, name, s', w, es, rfl, Option.bind_eq_some_iff.mpr ⟨s₁, hs₁, hs'⟩,
        hrequires, Option.bind_eq_some_iff.mpr ⟨w₁, hw₁, hw⟩, hes, hnone⟩
    · exact ⟨[], name, s, v, es, rfl, rfl, hrequires, rfl, hes, hnone⟩

/-- What is told to be missing is exactly what a mapping lacks. -/
theorem mem_issues_missing_iff : ⟨loc, .missing⟩ ∈ s.issues v ↔ s.Lacks v loc := by
  induction loc generalizing s v with
  | nil => exact iff_of_false (fun h => (issues_eq_of_root_mem h).2 rfl) not_lacks_nil
  | cons step loc ih =>
      rw [mem_issues_cons_iff, lacks_cons_iff]
      simp only [ih, true_and]

/-- The other faults are told exactly where there is a value that is none of the shape declared for
it. -/
theorem exists_mem_issues_iff :
    (∃ c, c ≠ .missing ∧ ⟨loc, c⟩ ∈ s.issues v) ↔ s.Unfit v loc := by
  induction loc generalizing s v with
  | nil =>
      rw [unfit_nil_iff, ← exists_root_mem_issues_iff]
      constructor
      · rintro ⟨c, -, h⟩
        exact ⟨c, h⟩
      · rintro ⟨c, h⟩
        exact ⟨c, (issues_eq_of_root_mem h).2, h⟩
  | cons step loc ih =>
      rw [unfit_cons_iff]
      simp only [mem_issues_cons_iff, ← ih]
      constructor
      · rintro ⟨c, hc, ⟨s', w, hs', hw, h⟩ | ⟨-, rfl, -⟩⟩
        · exact ⟨s', w, hs', hw, c, hc, h⟩
        · exact absurd rfl hc
      · rintro ⟨s', w, hs', hw, c, hc, h⟩
        exact ⟨c, hc, .inl ⟨s', w, hs', hw, h⟩⟩

/-- A value has no faults exactly when it is valid. -/
theorem issues_eq_nil_iff : s.issues v = [] ↔ s.Accepts v := by
  induction s generalizing v with
  | any => simp [issues, Accepts]
  | scalar kind => rfl
  | optional s ih =>
      by_cases hv : v = .null
      · subst hv
        simp [issues, Accepts]
      · rw [issues_optional hv, ih, Accepts, or_iff_right hv]
  | list s ih =>
      rw [Accepts]
      cases hvs : v.items? with
      | none => simp [issues_list_of_none hvs]
      | some vs =>
          rw [issues_list_of_items? hvs, Issue.gather_eq_nil_iff]
          simp only [Option.some.injEq, exists_eq_left', ← ih]
          constructor
          · intro h w hw
            obtain ⟨i, hi, rfl⟩ := List.mem_iff_getElem.mp hw
            exact h _ (List.mem_mapIdx.mpr ⟨i, hi, rfl⟩)
          · intro h p hp
            obtain ⟨i, hi, rfl⟩ := List.mem_mapIdx.mp hp
            exact h _ (List.getElem_mem hi)
  | node name keys under distinct ih =>
      rw [Accepts]
      cases hes : entries? v with
      | none => simp [issues_node_of_none hes]
      | some es =>
          rw [issues_node_of_entries? hes, Issue.gather_eq_nil_iff]
          simp only [List.forall_mem_map, Option.some.injEq, exists_eq_left']
          refine forall₂_congr fun key _ => ?_
          cases Value.field? key.name es with
          | some w => exact ih key.name
          | none => cases key.required <;> simp [issuesUnder]

/-- Without faults, nothing is lacking or unfit. -/
theorem issues_eq_nil_iff_forall_loc :
    s.issues v = [] ↔ ∀ loc, ¬s.Lacks v loc ∧ ¬s.Unfit v loc := by
  simp only [← mem_issues_missing_iff, ← exists_mem_issues_iff]
  constructor
  · intro h
    simp [h]
  · refine fun h => List.eq_nil_iff_forall_not_mem.mpr fun ⟨loc, c⟩ hi => ?_
    by_cases hc : c = .missing
    · exact (h loc).1 (hc ▸ hi)
    · exact (h loc).2 ⟨c, hc, hi⟩

/-- A mapping has the same faults with a valid entry under a key that may be left out. -/
theorem issues_node_cons {other : String} (hnone : Value.field? other es = none)
    (hw : (under other).Accepts w) (hleft : ⟨other, true⟩ ∉ keys) :
    (node name keys under distinct).issues (.map ((.text other, w) :: es)) =
      (node name keys under distinct).issues (.map es) := by
  rw [issues_node_of_entries? rfl, issues_node_of_entries? rfl]
  refine congrArg Issue.gather (List.map_congr_left fun key hkey => ?_)
  rw [Value.field?]
  split
  · next hname =>
    subst hname
    rw [hnone]
    cases hrequired : key.required with
    | false => rw [issuesUnder, issues_eq_nil_iff.mpr hw]; rfl
    | true => exact absurd (hrequired ▸ hkey) hleft
  · rfl

end Shape
end Scenario
