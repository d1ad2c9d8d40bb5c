import Scenario.Proofs.Validation.Shape

/-! # Decoders of a shape

A decoder follows a shape if it reads exactly the values that have no faults, and of any other tells
the faults that the shape has. Decoders that are put together from others follow the shape that is
put together in the same way. -/

namespace Scenario

/-- A reading succeeds if there are no faults, and else it tells them. -/
inductive Checked.Tells {α : Type} : Checked α → List Issue → Prop where
  | ok (a : α) : Tells (.ok a) []
  | error {issues : List Issue} (h : issues ≠ []) : Tells (.error issues) issues

/-- A decoder tells of every value the faults that a shape has. -/
def Decoder.Follows {α : Type} (d : Decoder α) (s : Shape) : Prop := ∀ v, (d v).Tells (s.issues v)

variable {α β : Type}

namespace Issue

theorem gather_singleton (step : Step) (issues : List Issue) :
    gather [(step, issues)] = issues.map (Issue.under step) := List.append_nil _

theorem gather_append (parts parts' : List (Step × List Issue)) :
    gather (parts ++ parts') = gather parts ++ gather parts' := List.flatMap_append

end Issue

namespace Checked

variable {x : Checked α} {f : Checked (α → β)} {is js : List Issue}
  {parts parts' : List (Step × List Issue)}

theorem StopsAtOnce.tells (h : x.StopsAtOnce) : x.Tells x.issues := by
  cases h with
  | ok a => exact .ok a
  | fail hc => exact .error (List.cons_ne_nil _ _)

theorem Tells.of_eq (h : x.Tells is) (heq : is = js) : x.Tells js := heq ▸ h

theorem Tells.error_iff (h : x.Tells is) : x = .error js ↔ js = is ∧ is ≠ [] := by
  cases h with
  | ok a => simp
  | error his => simp [his, eq_comm]

theorem Tells.exists_ok_iff (h : x.Tells is) : (∃ a, x = .ok a) ↔ is = [] := by
  cases h with
  | ok a => simp
  | error his => simp [his]

theorem Tells.map (g : α → β) (h : x.Tells is) : (g <$> x).Tells is := by
  cases h with
  | ok a => exact .ok _
  | error his => exact .error his

theorem Tells.both {y : Checked β} (hx : x.Tells is) (hy : y.Tells js) :
    (both x y).Tells (is ++ js) := by
  cases hx with
  | ok a =>
      cases hy with
      | ok b => exact .ok _
      | error hjs => exact .error hjs
  | error his =>
      cases hy with
      | ok b => rw [List.append_nil]; exact .error his
      | error hjs => exact .error (List.append_ne_nil_of_left_ne_nil his _)

theorem Tells.under (step : Step) (h : x.Tells is) :
    (x.under step).Tells (is.map (Issue.under step)) := by
  cases h with
  | ok a => exact .ok a
  | error his => exact .error (mt List.map_eq_nil_iff.mp his)

/-- The faults of a function and of its argument are told side by side. -/
theorem Tells.ap (hf : f.Tells (Issue.gather parts)) (hx : x.Tells (Issue.gather parts')) :
    (f.ap x).Tells (Issue.gather (parts ++ parts')) := by
  rw [Issue.gather_append]
  exact (hf.both hx).map _

end Checked

namespace Decoder

open Checked

variable {d : Decoder α} {s : Shape} {es : List (Value × Value)} {name : String} {default : α}

theorem follows_scalar {kind : Scalar} (h : ∀ v, (d v).StopsAtOnce)
    (hissues : ∀ v, kind.issues v = (d v).issues) : d.Follows (.scalar kind) := by
  intro v
  rw [Shape.issues, hissues]
  exact (h v).tells

theorem follows_text : text.Follows (.scalar .text) := follows_scalar stopsAtOnce_text fun _ => rfl

theorem follows_int : int.Follows (.scalar .int) := follows_scalar stopsAtOnce_int fun _ => rfl

theorem follows_bool : bool.Follows (.scalar .bool) := follows_scalar stopsAtOnce_bool fun _ => rfl

theorem follows_any : any.Follows .any := fun v => .ok v

theorem Follows.optional (h : d.Follows s) : Decoder.Follows (optional d) (.optional s) := by
  intro v
  cases v with
  | null => exact .ok none
  | _ => exact (h _).map some

theorem Follows.items (h : d.Follows s) (i : Nat) (vs : List Value) :
    (items d i vs).Tells
      (Issue.gather (vs.mapIdx fun j v => (.index (i + j), s.issues v))) := by
  induction vs generalizing i with
  | nil => exact .ok []
  | cons v vs ih =>
      rw [Decoder.items, List.mapIdx_cons, Issue.gather_cons]
      refine ((h v).under (.index i)).both ((ih (i + 1)).of_eq ?_) |>.map _
      simp only [Nat.add_assoc, Nat.add_comm 1]

theorem list_of_items? {v : Value} {vs : List Value} (h : v.items? = some vs) :
    list d v = items d 0 vs := by
  unfold Value.items? at h
  unfold Decoder.list
  split at h <;> simp_all

theorem list_of_none {v : Value} (h : v.items? = none) : list d v = fail .listType := by
  unfold Value.items? at h
  unfold Decoder.list
  split at h <;> simp_all

theorem Follows.list (h : d.Follows s) : Decoder.Follows (list d) (.list s) := by
  intro v
  cases hvs : v.items? with
  | none =>
      rw [list_of_none hvs, Shape.issues_list_of_none hvs]
      exact .error (List.cons_ne_nil _ _)
  | some vs =>
      rw [list_of_items? hvs, Shape.issues_list_of_items? hvs]
      simpa only [Nat.zero_add] using h.items 0 vs

theorem node_of_entries? {read : List (Value × Value) → Checked α} {v : Value}
    (h : entries? v = some es) : node name read v = read es := by
  unfold entries? at h
  unfold node
  split at h <;> simp_all

theorem node_of_none {read : List (Value × Value) → Checked α} {v : Value}
    (h : entries? v = none) : node name read v = fail (.nodeType name) := by
  unfold entries? at h
  unfold node
  split at h <;> simp_all

/-- A mapping is read as its entries are. -/
theorem follows_node {read : List (Value × Value) → Checked α} {keys : List Key}
    {under : String → Shape} {distinct : (keys.map Key.name).Nodup}
    (h : ∀ es, (read es).Tells (Issue.gather (keys.map fun key =>
      (.field key.name,
        Shape.issuesUnder (under key.name).issues key.required (Value.field? key.name es))))) :
    Decoder.Follows (node name read) (.node name keys under distinct) := by
  intro v
  cases hes : entries? v with
  | none =>
      rw [node_of_none hes, Shape.issues_node_of_none hes]
      exact .error (List.cons_ne_nil _ _)
  | some es =>
      rw [node_of_entries? hes, Shape.issues_node_of_entries? hes]
      exact h es

/-- A field that has to be there. -/
theorem Follows.required (h : d.Follows s) :
    (required es name d).Tells
      (Issue.gather [(.field name, Shape.issuesUnder s.issues true (Value.field? name es))]) := by
  rw [Issue.gather_singleton]
  refine Tells.under (.field name) ?_
  cases Value.field? name es with
  | none => exact .error (List.cons_ne_nil _ _)
  | some v => exact h v

/-- A field that may be left out. -/
theorem Follows.withDefault (h : d.Follows s) :
    (withDefault es name d default).Tells
      (Issue.gather [(.field name, Shape.issuesUnder s.issues false (Value.field? name es))]) := by
  rw [Issue.gather_singleton, Checked.withDefault]
  cases Value.field? name es with
  | none => exact .ok default
  | some v => exact (h v).under (.field name)

end Decoder

end Scenario
