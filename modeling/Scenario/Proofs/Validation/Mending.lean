import Scenario.Proofs.Validation.Order

/-! # Mending of faults

Where a fault is told, another value is put: in place of the one that is at fault, or under the key
that is missing. When each of these values is valid for what is declared there, so is the whole
(`Shape.Mends.accepts_mended`). All faults are thus told at once, and there is no fault that cannot
be mended (`Shape.exists_mends`). -/

namespace Scenario

/-- A value with other values where faults are told. -/
def mended (w : List Step → Value) (issues : List Issue) (v : Value) : Value :=
  issues.foldl (fun v i => Value.putAt (w i.loc) i.loc v) v

/-- What a step leads to when the faults below it are mended. It is added if it is not there. -/
def mendedBelow (w : List Step → Value) (step : Step) (issues : List Issue) (o : Option Value) :
    Option Value :=
  if issues = [] then o else some (mended (fun loc => w (step :: loc)) issues (o.getD .null))

section Mended

variable {w : List Step → Value} {v u : Value} {step step' : Step} {i : Issue} {is js : List Issue}
  {parts : List (Step × List Issue)}

@[simp] theorem mended_nil : mended w [] v = v := rfl

theorem mended_cons :
    mended w (i :: is) v = mended w is (Value.putAt (w i.loc) i.loc v) := rfl

theorem mended_append : mended w (is ++ js) v = mended w js (mended w is v) := List.foldl_append

@[simp] theorem mendedBelow_some :
    mendedBelow w step is (some u) = some (mended (fun loc => w (step :: loc)) is u) := by
  unfold mendedBelow
  split
  · next his => rw [his, mended_nil]
  · rfl

/-- Of what is mended below a step, nothing else changes. -/
structure MendsBelow (w : List Step → Value) (step : Step) (is : List Issue) (v v' : Value) :
    Prop where
  sameKind : v.SameKind v'
  below : v'.step? step = mendedBelow w step is (v.step? step)
  others : ∀ step' ≠ step, v'.step? step' = v.step? step'

/-- Faults below a step are mended in what the step leads to. -/
theorem mendsBelow_map_under (h : v.Takes step) :
    MendsBelow w step is v (mended w (is.map (Issue.under step)) v) := by
  induction is generalizing v with
  | nil => exact ⟨.refl v, rfl, fun _ _ => rfl⟩
  | cons i is ih =>
      rw [List.map_cons, mended_cons]
      -- The first fault is mended in place, the others in what has come of it.
      have hkind := v.sameKind_putStep
        (Value.putAt (w (step :: i.loc)) i.loc ((v.step? step).getD .null)) step
      obtain ⟨hsame, hbelow, hothers⟩ := ih (hkind.takes h)
      refine ⟨hkind.trans hsame, ?_, fun step' hne => ?_⟩
      · refine hbelow.trans ?_
        rw [Value.step?_putStep_self h, mendedBelow_some, mendedBelow,
          if_neg (List.cons_ne_nil i is), mended_cons]
      · exact (hothers step' hne).trans (Value.step?_putStep_of_ne hne)

/-- Faults of parts are mended part by part, when each part has its own step. -/
structure MendsParts (w : List Step → Value) (parts : List (Step × List Issue)) (v v' : Value) :
    Prop where
  sameKind : v.SameKind v'
  each : ∀ p ∈ parts, v'.step? p.1 = mendedBelow w p.1 p.2 (v.step? p.1)
  others : ∀ step ∉ parts.map Prod.fst, v'.step? step = v.step? step

theorem mendsParts_gather (hsteps : (parts.map Prod.fst).Nodup) (h : ∀ p ∈ parts, v.Takes p.1) :
    MendsParts w parts v (mended w (Issue.gather parts) v) := by
  induction parts generalizing v with
  | nil => exact ⟨.refl v, nofun, fun _ _ => rfl⟩
  | cons p parts ih =>
      obtain ⟨step, is⟩ := p
      obtain ⟨hstep, hsteps⟩ := List.nodup_cons.mp hsteps
      obtain ⟨htakes, h⟩ := List.forall_mem_cons.mp h
      rw [Issue.gather_cons, mended_append]
      have hfirst : MendsBelow w step is v _ := mendsBelow_map_under htakes
      obtain ⟨hsame, heach, hothers⟩ := ih hsteps fun p hp => hfirst.sameKind.takes (h p hp)
      refine ⟨hfirst.sameKind.trans hsame, ?_, ?_⟩
      · refine List.forall_mem_cons.mpr ⟨(hothers step hstep).trans hfirst.below, fun p hp => ?_⟩
        have hne : p.1 ≠ step := ne_of_mem_of_not_mem (List.mem_map_of_mem hp) hstep
        rw [heach p hp, hfirst.others p.1 hne]
      · intro step' hstep'
        obtain ⟨hne, hrest⟩ := not_or.mp (mt List.mem_cons.mpr hstep')
        rw [hothers step' hrest, hfirst.others step' hne]

end Mended

namespace Shape

variable {s s' : Shape} {w : List Step → Value} {v u : Value} {step : Step} {vs : List Value}
  {es : List (Value × Value)} {name : String} {keys : List Key} {under : String → Shape}
  {distinct : (keys.map Key.name).Nodup}

/-- The values that mend a value are valid where they are put. -/
def Mends (s : Shape) (v : Value) (w : List Step → Value) : Prop :=
  ∀ i ∈ s.issues v, ∀ s', at? i.loc s = some s' → s'.Accepts (w i.loc)

/-- What mends a value mends what is in it. -/
theorem Mends.below (h : s.Mends v w) (hs : s.child? step = some s') (hu : v.step? step = some u) :
    s'.Mends u fun loc => w (step :: loc) := by
  intro i hi s'' hs''
  refine h ⟨step :: i.loc, i.complaint⟩ (mem_issues_cons_iff.mpr (.inl ⟨s', u, hs, hu, hi⟩)) s'' ?_
  rw [at?, hs]
  exact hs''

/-- What is none of a shape is replaced as a whole. -/
theorem Mends.accepts_mended_of_rejects (h : s.Mends v w) (hv : s.Rejects v) :
    s.Accepts (mended w (s.issues v) v) := by
  obtain ⟨c, hc⟩ := exists_root_mem_issues_iff.mpr hv
  rw [(issues_eq_of_root_mem hc).1]
  exact h _ hc s rfl

/-- A list is valid if what is at each place of it is. -/
theorem accepts_list (hv : v.items?.isSome)
    (h : ∀ i u, v.step? (.index i) = some u → s.Accepts u) : (list s).Accepts v := by
  obtain ⟨vs, hvs⟩ := Option.isSome_iff_exists.mp hv
  refine ⟨vs, hvs, fun u hu => ?_⟩
  obtain ⟨i, hi, rfl⟩ := List.mem_iff_getElem.mp hu
  exact h i _ (by simp [Value.step?, hvs, hi])

/-- A mapping is valid if what is under each key is, and the keys that are not there may be left
out. -/
theorem accepts_node (hv : (entries? v).isSome)
    (h : ∀ key ∈ keys, match v.step? (.field key.name) with
      | some u => (under key.name).Accepts u
      | none => key.required = false) : (node name keys under distinct).Accepts v := by
  obtain ⟨es, hes⟩ := Option.isSome_iff_exists.mp hv
  refine ⟨es, hes, fun key hkey => ?_⟩
  have hkey := h key hkey
  rw [Value.step?, hes] at hkey
  exact hkey

/-- The faults in a list are mended item by item. -/
theorem mendsParts_list (hvs : v.items? = some vs) :
    MendsParts w (vs.mapIdx fun i u => (.index i, s.issues u)) v
      (mended w ((list s).issues v) v) := by
  rw [issues_list_of_items? hvs]
  refine mendsParts_gather follow_items.nodup fun p hp => ?_
  obtain ⟨i, hi, rfl⟩ := List.mem_mapIdx.mp hp
  exact ⟨vs, hvs, hi⟩

/-- The faults in a mapping are mended key by key. -/
theorem mendsParts_node (hes : entries? v = some es) :
    MendsParts w
      (keys.map fun key => (.field key.name,
        issuesUnder (under key.name).issues key.required (Value.field? key.name es))) v
      (mended w ((node name keys under distinct).issues v) v) := by
  rw [issues_node_of_entries? hes]
  refine mendsParts_gather
    (Follow.nodup (s := node name keys under distinct) follow_keys) fun p hp => ?_
  obtain ⟨key, -, rfl⟩ := List.mem_map.mp hp
  exact ⟨es, hes⟩

/-- What is missing is mended with a value for the key. -/
theorem Mends.accepts_of_lacks (h : s.Mends v w) (hs : s.child? (.field name) = some s')
    (hv : s.LacksKey v (.field name)) : s'.Accepts (w [.field name]) := by
  refine h ⟨[.field name], .missing⟩ (mem_issues_cons_iff.mpr (.inr ⟨rfl, rfl, hv⟩)) s' ?_
  rw [at?, hs]
  rfl

/-- A value is valid when all faults in it are mended. -/
theorem Mends.accepts_mended (h : s.Mends v w) : s.Accepts (mended w (s.issues v) v) := by
  induction s generalizing v w with
  | any => trivial
  | scalar kind =>
      by_cases hv : kind.issues v = []
      · rw [issues, hv]
        exact hv
      · exact h.accepts_mended_of_rejects hv
  | optional s ih =>
      by_cases hv : (optional s).Rejects v
      · exact h.accepts_mended_of_rejects hv
      by_cases hnull : v = .null
      · subst hnull
        exact .inl rfl
      rw [issues_optional hnull]
      refine .inr (ih fun i hi s' hs' => ?_)
      rw [Mends, issues_optional hnull] at h
      obtain ⟨loc, c⟩ := i
      cases loc with
      | nil => exact absurd ⟨hnull, exists_root_mem_issues_iff.mp ⟨c, hi⟩⟩ hv
      | cons step loc => exact h _ hi s' hs'
  | list s ih =>
      cases hvs : v.items? with
      | none => exact h.accepts_mended_of_rejects hvs
      | some vs =>
          have hmends := mendsParts_list (s := s) (w := w) hvs
          refine accepts_list (hmends.sameKind.isSome_items?.trans (by rw [hvs]; rfl)) ?_
          intro i u' hu'
          obtain ⟨u, hu⟩ := hmends.sameKind.exists_item hu'
          have hi : vs[i]? = some u := by rwa [Value.step?, hvs] at hu
          obtain ⟨hlt, rfl⟩ := List.getElem?_eq_some_iff.mp hi
          have heach := hmends.each _ (List.mem_mapIdx.mpr ⟨i, hlt, rfl⟩)
          rw [hu', hu, mendedBelow_some] at heach
          rw [Option.some.inj heach]
          exact ih (h.below rfl hu)
  | node name keys under distinct ih =>
      cases hes : entries? v with
      | none => exact h.accepts_mended_of_rejects hes
      | some es =>
          have hmends : MendsParts w _ v (mended w ((node name keys under distinct).issues v) v) :=
            mendsParts_node hes
          refine accepts_node (hmends.sameKind.entries.trans (by rw [hes]; rfl)) ?_
          intro key hkey
          have hchild : (node name keys under distinct).child? (.field key.name) =
              some (under key.name) := if_pos (List.mem_map_of_mem hkey)
          have hstep : v.step? (.field key.name) = Value.field? key.name es := by
            rw [Value.step?, hes, Option.bind_some]
          rw [hmends.each _ (List.mem_map.mpr ⟨key, hkey, rfl⟩), hstep]
          cases hu : Value.field? key.name es with
          | some u =>
              rw [mendedBelow_some]
              exact ih key.name (h.below hchild (hstep.trans hu))
          | none =>
              cases hrequired : key.required with
              | false => rfl
              | true =>
                  have hrequires : (node name keys under distinct).Requires key.name := by
                    rw [Requires, ← hrequired]
                    exact hkey
                  exact h.accepts_of_lacks hchild ⟨key.name, es, rfl, hrequires, hes, hu⟩

/-! ## Values that mend -/

/-- A valid value of a shape: empty, zero or false, and with only the keys that it has to have. -/
def sample : Shape → Value
  | .any => .null
  | .scalar .text => .text ""
  | .scalar .int => .int 0
  | .scalar .bool => .bool false
  | .optional _ => .null
  | .list _ => .list []
  | .node _ keys under _ =>
    .map ((keys.filter Key.required).map fun key => (.text key.name, (under key.name).sample))

/-- What is under a name in a mapping of named values. -/
theorem field?_map_name (keys : List Key) (f : String → Value) (x : String) :
    Value.field? x (keys.map fun key => (.text key.name, f key.name)) =
      if x ∈ keys.map Key.name then some (f x) else none := by
  induction keys with
  | nil => rfl
  | cons key keys ih =>
      rw [List.map_cons, Value.field?, ih, List.map_cons]
      by_cases hx : key.name = x
      · simp [hx]
      · simp [hx, Ne.symm hx]

theorem accepts_sample (s : Shape) : s.Accepts s.sample := by
  induction s with
  | any => trivial
  | scalar kind => cases kind <;> rfl
  | optional s ih => exact .inl rfl
  | list s ih => exact ⟨[], rfl, nofun⟩
  | node name keys under distinct ih =>
      refine ⟨_, rfl, fun key hkey => ?_⟩
      have hfield := field?_map_name (keys.filter Key.required) (fun x => (under x).sample) key.name
      rw [hfield]
      by_cases hin : key.name ∈ (keys.filter Key.required).map Key.name
      · rw [if_pos hin]
        exact ih key.name
      · rw [if_neg hin]
        cases hrequired : key.required with
        | false => rfl
        | true => exact absurd (List.mem_map_of_mem (List.mem_filter.mpr ⟨hkey, hrequired⟩)) hin

/-- Every value can be mended. -/
theorem exists_mends (s : Shape) (v : Value) : ∃ w, s.Mends v w := by
  refine ⟨fun loc => ((at? loc s).map sample).getD .null, fun i _ s' hs' => ?_⟩
  dsimp only
  rw [hs']
  exact s'.accepts_sample

end Shape
end Scenario
