import Mathlib.Data.List.Lex
import Mathlib.Data.List.Nodup
import Mathlib.Order.Lex
import Scenario.Proofs.Validation.Shape

/-! # The order of faults

A document is gone through from its start: at each mapping by the keys in the order in which they
are declared, at each list by its items, and in depth first. Faults are told in this order
(`Shape.pairwise_before_issues`), so that no place is named twice (`Shape.nodup_loc_issues`). -/

namespace Scenario
namespace Shape

/-- The place of a step among those that can be taken: that of the key among those declared, or of
the item. -/
def ordinal : Shape → Step → Nat
  | .optional s, step => s.ordinal step
  | .node _ keys _ _, .field name => (keys.map Key.name).idxOf name
  | _, .index i => i
  | _, .field _ => 0

/-- The place of a route in a document, step by step. -/
def place : List Step → Shape → List Nat
  | [], _ => []
  | step :: loc, s => s.ordinal step :: (s.child? step).elim [] (place loc)

/-- A fault lies before another in the document. -/
def Before (s : Shape) (i j : Issue) : Prop := place i.loc s < place j.loc s

variable {s : Shape} {v : Value} {vs : List Value} {name : String} {keys : List Key}
  {under : String → Shape} {distinct : (keys.map Key.name).Nodup} {loc : List Step}

theorem place_optional : place loc (optional s) = place loc s := by
  cases loc <;> rfl

/-- Names without repetition stand at increasing places. -/
theorem pairwise_idxOf_of_nodup {names : List String} (h : names.Nodup) :
    names.Pairwise fun a b => names.idxOf a < names.idxOf b := by
  refine List.pairwise_iff_getElem.mpr fun i j hi hj hij => ?_
  rw [h.idxOf_getElem i hi, h.idxOf_getElem j hj]
  exact hij

/-- Steps to parts follow each other. -/
def Follow (s : Shape) (parts : List (Step × List Issue)) : Prop :=
  parts.Pairwise fun p q => s.ordinal p.1 < s.ordinal q.1

theorem follow_items : (list s).Follow (vs.mapIdx fun i w => (.index i, s.issues w)) := by
  refine List.pairwise_iff_getElem.mpr fun i j hi hj hij => ?_
  rw [List.getElem_mapIdx, List.getElem_mapIdx]
  exact hij

theorem follow_keys {issuesAt : Key → List Issue} :
    (node name keys under distinct).Follow
      (keys.map fun key => (.field key.name, issuesAt key)) := by
  have hnames := List.pairwise_map.mp (pairwise_idxOf_of_nodup distinct)
  exact List.pairwise_map.mpr (hnames.imp id)

/-- Parts that follow each other have different steps. -/
theorem Follow.nodup {parts : List (Step × List Issue)} (h : s.Follow parts) :
    (parts.map Prod.fst).Nodup :=
  List.pairwise_map.mpr (h.imp fun {p q} hlt heq => by
    rw [heq] at hlt
    exact lt_irrefl _ hlt)

/-- Faults of parts that follow each other are in order if the faults of each of them are. -/
theorem Follow.pairwise_before {parts : List (Step × List Issue)} (h : s.Follow parts)
    (hparts : ∀ p ∈ parts, ∃ s', s.child? p.1 = some s' ∧ p.2.Pairwise s'.Before) :
    (Issue.gather parts).Pairwise s.Before := by
  refine List.pairwise_flatMap.mpr ⟨fun p hp => ?_, h.imp fun {p q} hlt => ?_⟩
  · obtain ⟨s', hs', hp'⟩ := hparts p hp
    refine List.pairwise_map.mpr (hp'.imp fun {i j} hij => ?_)
    rw [Before, Issue.under, Issue.under, place, place, hs']
    exact List.cons_lt_cons_iff.mpr (.inr ⟨rfl, hij⟩)
  · intro i hi j hj
    obtain ⟨i', -, rfl⟩ := List.mem_map.mp hi
    obtain ⟨j', -, rfl⟩ := List.mem_map.mp hj
    exact List.cons_lt_cons_iff.mpr (.inl hlt)

/-- Faults are told in the order of the document. -/
theorem pairwise_before_issues : (s.issues v).Pairwise s.Before := by
  induction s generalizing v with
  | any => exact .nil
  | scalar kind =>
      rw [issues]
      rcases kind.issues_cases v with h | ⟨c, -, h⟩ <;> simp [h]
  | optional s ih =>
      by_cases hv : v = .null
      · subst hv
        exact .nil
      · rw [issues_optional hv]
        exact ih.imp fun {i j} hij => by rwa [Before, place_optional, place_optional]
  | list s ih =>
      cases hvs : v.items? with
      | none => simp [issues_list_of_none hvs]
      | some vs =>
          rw [issues_list_of_items? hvs]
          refine follow_items.pairwise_before fun p hp => ?_
          obtain ⟨i, hi, rfl⟩ := List.mem_mapIdx.mp hp
          exact ⟨s, rfl, ih⟩
  | node name keys under distinct ih =>
      cases hes : entries? v with
      | none => simp [issues_node_of_none hes]
      | some es =>
          rw [issues_node_of_entries? hes]
          refine follow_keys.pairwise_before fun p hp => ?_
          obtain ⟨key, hkey, rfl⟩ := List.mem_map.mp hp
          refine ⟨under key.name, if_pos (List.mem_map_of_mem hkey), ?_⟩
          cases Value.field? key.name es with
          | some w => exact ih key.name
          | none => cases key.required <;> simp [issuesUnder]

/-- No two faults are told of the same place. -/
theorem nodup_loc_issues : ((s.issues v).map Issue.loc).Nodup :=
  List.pairwise_map.mpr (pairwise_before_issues.imp fun {i j} hlt heq => by
    rw [Before, heq] at hlt
    exact lt_irrefl _ hlt)

end Shape
end Scenario
