import Scenario.Yaml.Document

/-! # Faults of scalars while a text is read

A text is made into tokens, and the tokens into nodes. A scalar that cannot be read does not stop
the first step: its fault is kept in a last token (`ensures_tokenize`). It stops the second one when
the reading of nodes comes to that token (`ensures_readDocument`). -/

namespace Scenario.Yaml

/-! ## What is ensured of a step -/

section Ensures

variable {α β : Type} {Fault Fault' : ScalarFault → Prop} {P P' : α → Prop} {Q : β → Prop}
  {x : Except Error α} {f : α → Except Error β}

/-- The result of a step has a property, and so has the fault of a scalar that stops it. -/
inductive Ensures (Fault : ScalarFault → Prop) (P : α → Prop) : Except Error α → Prop where
  | ok {a : α} (h : P a) : Ensures Fault P (.ok a)
  | malformed : Ensures Fault P (.error .malformed)
  | scalar {fault : ScalarFault} (h : Fault fault) : Ensures Fault P (.error (.scalar fault))

theorem Ensures.bind (hx : Ensures Fault P x) (hf : ∀ a, P a → Ensures Fault Q (f a)) :
    Ensures Fault Q (x >>= f) := by
  cases hx with
  | ok h => exact hf _ h
  | malformed => exact .malformed
  | scalar h => exact .scalar h

theorem Ensures.map {g : α → β} (hx : Ensures Fault P x) (hg : ∀ a, P a → Q (g a)) :
    Ensures Fault Q (g <$> x) := by
  cases hx with
  | ok h => exact .ok (hg _ h)
  | malformed => exact .malformed
  | scalar h => exact .scalar h

theorem Ensures.mono (hx : Ensures Fault P x) (hfault : ∀ e, Fault e → Fault' e)
    (hP : ∀ a, P a → P' a) : Ensures Fault' P' x := by
  cases hx with
  | ok h => exact .ok (hP _ h)
  | malformed => exact .malformed
  | scalar h => exact .scalar (hfault _ h)

/-- The result of a step is what the step gives. -/
theorem Ensures.self (hx : Ensures Fault P x) : Ensures Fault (fun a => x = .ok a) x := by
  cases hx with
  | ok _ => exact .ok rfl
  | malformed => exact .malformed
  | scalar h => exact .scalar h

theorem Ensures.fault {fault : ScalarFault} (h : Ensures Fault P (.error (.scalar fault))) :
    Fault fault := by
  cases h with
  | scalar h => exact h

/-- A step whose faults are all allowed ensures nothing else. -/
theorem Ensures.of_forall (h : ∀ fault, Fault fault) (x : Except Error α) :
    Ensures Fault (fun _ => True) x := by
  match x with
  | .ok _ => exact .ok trivial
  | .error .malformed => exact .malformed
  | .error (.scalar fault) => exact .scalar (h fault)

/-- A property that every step keeps is kept by all steps together. -/
theorem Ensures.foldlM {γ : Type} {step : α → γ → Except Error α} {a : α} {cs : List γ}
    (ha : P a) (hstep : ∀ a c, P a → Ensures Fault P (step a c)) :
    Ensures Fault P (cs.foldlM step a) := by
  induction cs generalizing a with
  | nil => exact .ok ha
  | cons c cs ih =>
      rw [List.foldlM_cons]
      exact (hstep a c ha).bind fun b hb => ih hb

end Ensures

/-! ## Nodes from tokens -/

variable {α β : Type} {tokens rest : List Token} {ctx : NodeContext} {fuel : Nat}

/-- A reader leaves tokens of those it is given, and the fault of a scalar that stops it stands
among them. -/
def Reads (tokens : List Token) : Except Error (NodeRead α) → Prop :=
  Ensures (fun fault => .broken fault ∈ tokens) fun r => r.2.2 ⊆ tokens

theorem Reads.of_subset {x : Except Error (NodeRead α)} (hx : Reads rest x)
    (h : rest ⊆ tokens) : Reads tokens x :=
  Ensures.mono hx (fun _ hfault => h hfault) fun _ hr => List.Subset.trans hr h

theorem Reads.bind {x : Except Error (NodeRead α)} {f : NodeRead α → Except Error (NodeRead β)}
    (hx : Reads tokens x) (hf : ∀ a ctx rest, Reads rest (f (a, ctx, rest))) :
    Reads tokens (x >>= f) :=
  Ensures.bind hx fun r hr => (hf r.1 r.2.1 r.2.2).of_subset hr

/-- What comes after a reader may be stopped by the tokens that are left. -/
theorem Reads.bind_ensures {x : Except Error (NodeRead α)} {f : NodeRead α → Except Error β}
    (hx : Reads tokens x)
    (hf : ∀ a ctx rest,
      Ensures (fun fault => .broken fault ∈ rest) (fun _ => True) (f (a, ctx, rest))) :
    Ensures (fun fault => .broken fault ∈ tokens) (fun _ => True) (x >>= f) :=
  Ensures.bind hx fun r hr => (hf r.1 r.2.1 r.2.2).mono (fun _ hfault => hr hfault) fun _ h => h

theorem Reads.ok {a : α} (h : rest ⊆ tokens) :
    Reads tokens (.ok (a, ctx, rest)) :=
  Ensures.ok h

theorem ensures_refused {P : α → Prop} (tokens : List Token) :
    Ensures (fun fault => .broken fault ∈ tokens) P (refused tokens) := by
  unfold refused Token.refusal
  split
  · exact .scalar List.mem_cons_self
  · exact .malformed

theorem reads_addEmpty (ctx : NodeContext) (tokens : List Token) :
    Reads tokens (ctx.addEmpty tokens) :=
  .ok (List.Subset.refl tokens)

theorem nodeProperties_subset (tokens : List Token) : (nodeProperties tokens).2.2 ⊆ tokens := by
  unfold nodeProperties
  split <;> simp

theorem ensures_tagName? {Fault : ScalarFault → Prop} (ctx : NodeContext) (t : Option TagSource) :
    Ensures Fault (fun _ => True) (ctx.tagName? t) := by
  unfold NodeContext.tagName?
  split
  · exact .ok trivial
  · split
    · exact .ok trivial
    · split
      · exact .ok trivial
      · exact .malformed

theorem reads_empty (anchor : Option String) (hasTag : Bool) (name : Option String)
    (ctx : NodeContext) (tokens : List Token) :
    Reads tokens (readEmpty anchor hasTag name ctx tokens) := by
  unfold readEmpty
  split
  · exact .ok (List.Subset.refl tokens)
  · exact ensures_refused tokens

/-- Every reader of nodes with some fuel leaves tokens of those it is given. -/
structure ReadsAll (fuel : Nat) : Prop where
  node : ∀ place ctx tokens, Reads tokens (readNode fuel place ctx tokens)
  content : ∀ place anchor hasTag name ctx tokens,
    Reads tokens (readContent fuel place anchor hasTag name ctx tokens)
  blockItems : ∀ ctx tokens, Reads tokens (readBlockItems fuel ctx tokens)
  indentlessItems : ∀ ctx tokens, Reads tokens (readIndentlessItems fuel ctx tokens)
  blockEntries : ∀ ctx tokens, Reads tokens (readBlockEntries fuel ctx tokens)
  blockPart : ∀ ctx tokens, Reads tokens (readBlockPart fuel ctx tokens)
  flowItems : ∀ first ctx tokens, Reads tokens (readFlowItems fuel first ctx tokens)
  flowEntries : ∀ first ctx tokens, Reads tokens (readFlowEntries fuel first ctx tokens)

-- With one unit of fuel more, every reader goes on with the others. What a reader does after a
-- choice is a function of its own (`items`, `value`, `later`), of which the same is proved first.
section step

variable (ih : ReadsAll fuel)

include ih

theorem reads_blockItems (ctx : NodeContext) (tokens : List Token) :
    Reads tokens (readBlockItems (fuel + 1) ctx tokens) := by
  unfold readBlockItems
  split
  · exact .ok (List.subset_cons_self _ _)
  · next rest =>
    refine Reads.of_subset ?_ (List.subset_cons_self _ _)
    extract_lets items
    have hitems : ∀ item ctx rest, Reads rest (items (item, ctx, rest)) := fun _ ctx rest =>
      (ih.blockItems ctx rest).bind fun _ _ rest => .ok (List.Subset.refl rest)
    split
    · exact (reads_addEmpty ctx _).bind hitems
    · exact (reads_addEmpty ctx _).bind hitems
    · exact (ih.node .block ctx rest).bind hitems
  · exact ensures_refused _

theorem reads_indentlessItems (ctx : NodeContext) (tokens : List Token) :
    Reads tokens (readIndentlessItems (fuel + 1) ctx tokens) := by
  unfold readIndentlessItems
  split
  · next rest =>
    refine Reads.of_subset ?_ (List.subset_cons_self _ _)
    extract_lets items
    have hitems : ∀ item ctx rest, Reads rest (items (item, ctx, rest)) := fun _ ctx rest =>
      (ih.indentlessItems ctx rest).bind fun _ _ rest => .ok (List.Subset.refl rest)
    split
    any_goals exact (reads_addEmpty ctx _).bind hitems
    exact (ih.node .block ctx rest).bind hitems
  · exact .ok (List.Subset.refl _)

theorem reads_blockPart (ctx : NodeContext) (tokens : List Token) :
    Reads tokens (readBlockPart (fuel + 1) ctx tokens) := by
  unfold readBlockPart
  split
  · exact reads_addEmpty ctx tokens
  · exact ih.node .blockPart ctx tokens

theorem reads_blockEntries (ctx : NodeContext) (tokens : List Token) :
    Reads tokens (readBlockEntries (fuel + 1) ctx tokens) := by
  unfold readBlockEntries
  split
  · exact .ok (List.subset_cons_self _ _)
  · next rest =>
    refine Reads.of_subset ?_ (List.subset_cons_self _ _)
    refine (ih.blockPart ctx rest).bind fun key ctx rest => ?_
    dsimp -zeta only
    extract_lets entries
    have hentries : ∀ value ctx rest, Reads rest (entries (value, ctx, rest)) := fun _ ctx rest =>
      (ih.blockEntries ctx rest).bind fun _ _ rest => .ok (List.Subset.refl rest)
    split
    · next rest =>
      exact ((ih.blockPart ctx rest).bind hentries).of_subset (List.subset_cons_self _ _)
    · exact (reads_addEmpty ctx rest).bind hentries
  · exact ensures_refused _

theorem reads_flowItems (first : Bool) (ctx : NodeContext) (tokens : List Token) :
    Reads tokens (readFlowItems (fuel + 1) first ctx tokens) := by
  unfold readFlowItems
  split
  · exact .ok (List.subset_cons_self _ _)
  · extract_lets later
    have hlater : ∀ rest, Reads rest (later rest) := by
      intro rest
      dsimp -zeta only [later]
      split
      · exact .ok (List.subset_cons_self _ _)
      · next rest =>
        refine Reads.of_subset ?_ (List.subset_cons_self _ _)
        extract_lets value
        have hvalue : ∀ key ctx rest, Reads rest (value (key, ctx, rest)) := by
          intro key ctx rest
          dsimp -zeta only [value]
          extract_lets items
          have hitems : ∀ v ctx rest, Reads rest (items (v, ctx, rest)) := fun _ _ rest =>
            (ih.flowItems false _ rest).bind fun _ _ rest => .ok (List.Subset.refl rest)
          split
          · exact ((reads_addEmpty ctx _).bind hitems).of_subset (List.drop_subset 1 _)
          · exact ((reads_addEmpty ctx _).bind hitems).of_subset (List.drop_subset 1 _)
          · exact ((ih.node .flow ctx _).bind hitems).of_subset (List.subset_cons_self _ _)
          · exact (reads_addEmpty ctx rest).bind hitems
        split
        any_goals exact (reads_addEmpty _ _).bind hvalue
        exact (ih.node .flow _ _).bind hvalue
      · refine (ih.node .flow ctx _).bind fun _ ctx rest => ?_
        exact (ih.flowItems false ctx rest).bind fun _ _ rest => .ok (List.Subset.refl rest)
    split
    · exact hlater tokens
    · exact (hlater _).of_subset (List.subset_cons_self _ _)
    · exact (ensures_refused tokens).bind fun rest h => (hlater rest).of_subset h

theorem reads_flowEntries (first : Bool) (ctx : NodeContext) (tokens : List Token) :
    Reads tokens (readFlowEntries (fuel + 1) first ctx tokens) := by
  unfold readFlowEntries
  split
  · exact .ok (List.subset_cons_self _ _)
  · extract_lets value later
    have hvalue : ∀ key ctx rest, Reads rest (value (key, ctx, rest)) := by
      intro key ctx rest
      dsimp -zeta only [value]
      extract_lets entries
      have hentries : ∀ v ctx rest, Reads rest (entries (v, ctx, rest)) := fun _ _ rest =>
        (ih.flowEntries false _ rest).bind fun _ _ rest => .ok (List.Subset.refl rest)
      split
      · exact ((reads_addEmpty ctx _).bind hentries).of_subset (List.drop_subset 1 _)
      · exact ((reads_addEmpty ctx _).bind hentries).of_subset (List.drop_subset 1 _)
      · exact ((ih.node .flow ctx _).bind hentries).of_subset (List.subset_cons_self _ _)
      · exact (reads_addEmpty ctx rest).bind hentries
    have hlater : ∀ rest, Reads rest (later rest) := by
      intro rest
      dsimp -zeta only [later]
      split
      · exact .ok (List.subset_cons_self _ _)
      · refine Reads.of_subset ?_ (List.subset_cons_self _ _)
        split
        any_goals exact (reads_addEmpty _ _).bind hvalue
        exact (ih.node .flow _ _).bind hvalue
      · refine (ih.node .flow ctx _).bind fun _ ctx rest => ?_
        refine (reads_addEmpty ctx rest).bind fun _ ctx rest => ?_
        exact (ih.flowEntries false ctx rest).bind fun _ _ rest => .ok (List.Subset.refl rest)
    split
    · exact hlater tokens
    · exact (hlater _).of_subset (List.subset_cons_self _ _)
    · exact (ensures_refused tokens).bind fun rest h => (hlater rest).of_subset h

theorem reads_content (place : NodePlace) (anchor : Option String) (hasTag : Bool)
    (name : Option String) (ctx : NodeContext) (tokens : List Token) :
    Reads tokens (readContent (fuel + 1) place anchor hasTag name ctx tokens) := by
  unfold readContent
  split
  · exact .ok (List.subset_cons_self _ _)
  · refine Reads.of_subset ?_ (List.subset_cons_self _ _)
    exact (ih.flowItems true _ _).bind fun _ _ rest => .ok (List.Subset.refl rest)
  · refine Reads.of_subset ?_ (List.subset_cons_self _ _)
    exact (ih.flowEntries true _ _).bind fun _ _ rest => .ok (List.Subset.refl rest)
  · split
    · exact (ih.indentlessItems _ _).bind fun _ _ rest => .ok (List.Subset.refl rest)
    · exact reads_empty _ _ _ _ _
  · split
    · refine Reads.of_subset ?_ (List.subset_cons_self _ _)
      exact (ih.blockItems _ _).bind fun _ _ rest => .ok (List.Subset.refl rest)
    · exact reads_empty _ _ _ _ _
  · split
    · refine Reads.of_subset ?_ (List.subset_cons_self _ _)
      exact (ih.blockEntries _ _).bind fun _ _ rest => .ok (List.Subset.refl rest)
    · exact reads_empty _ _ _ _ _
  · exact reads_empty _ _ _ _ _

theorem reads_node (place : NodePlace) (ctx : NodeContext) (tokens : List Token) :
    Reads tokens (readNode (fuel + 1) place ctx tokens) := by
  unfold readNode
  split
  · split
    · exact .ok (List.subset_cons_self _ _)
    · exact .malformed
  · exact .scalar (List.mem_cons_of_mem _ List.mem_cons_self)
  · have hrest := nodeProperties_subset tokens
    generalize nodeProperties tokens = properties at hrest ⊢
    obtain ⟨anchor, tag, rest⟩ := properties
    refine Ensures.bind (ensures_tagName? ctx tag) fun name _ => ?_
    refine Reads.of_subset ?_ hrest
    split
    · exact ensures_refused _
    · split
      · exact .malformed
      · exact ih.content _ _ _ _ _ _

end step

theorem readsAll : ∀ fuel, ReadsAll fuel
  | 0 => {
      node := fun _ _ tokens => ensures_refused tokens
      content := fun _ _ _ _ _ tokens => ensures_refused tokens
      blockItems := fun _ tokens => ensures_refused tokens
      indentlessItems := fun _ tokens => ensures_refused tokens
      blockEntries := fun _ tokens => ensures_refused tokens
      blockPart := fun _ tokens => ensures_refused tokens
      flowItems := fun _ _ tokens => ensures_refused tokens
      flowEntries := fun _ _ tokens => ensures_refused tokens }
  | fuel + 1 =>
    have ih := readsAll fuel
    { node := reads_node ih
      content := reads_content ih
      blockItems := reads_blockItems ih
      indentlessItems := reads_indentlessItems ih
      blockEntries := reads_blockEntries ih
      blockPart := reads_blockPart ih
      flowItems := reads_flowItems ih
      flowEntries := reads_flowEntries ih }

/-! ## Documents from tokens -/

theorem ensures_readDirectives (versionSeen : Bool) (handles : List (String × String))
    (tokens : List Token) :
    Ensures (fun fault => .broken fault ∈ tokens) (fun r => r.2 ⊆ tokens)
      (readDirectives versionSeen handles tokens) := by
  fun_induction readDirectives versionSeen handles tokens
  case case1 | case3 => exact .malformed
  case case6 tokens _ _ _ => exact .ok (List.Subset.refl tokens)
  all_goals
    rename_i ih
    exact ih.mono (fun _ h => List.mem_cons_of_mem _ h) fun _ h => List.subset_cons_of_subset _ h

theorem ensures_readEnd (tokens : List Token) :
    Ensures (fun fault => .broken fault ∈ tokens) (fun _ => True) (readEnd tokens) := by
  fun_induction readEnd tokens with
  | case1 => exact .ok trivial
  | case2 rest ih => exact ih.mono (fun _ h => List.mem_cons_of_mem _ h) fun _ h => h
  | case3 tokens =>
      refine (ensures_readDirectives false [] tokens).bind fun r hr => ?_
      exact (ensures_refused r.2).mono (fun _ h => hr h) fun _ h => h

theorem ensures_toDocument (root : NodeId) (ctx : NodeContext) (tokens : List Token) :
    Ensures (fun fault => .broken fault ∈ tokens) (fun _ => True)
      (ctx.toDocument root tokens) :=
  (ensures_readEnd tokens).bind fun _ _ => .ok trivial

/-- What keeps tokens from being read as a document is that they break its rules, or the fault of a
scalar that is one of them. -/
theorem ensures_readDocument (tokens : List Token) :
    Ensures (fun fault => .broken fault ∈ tokens) (fun _ => True) (readDocument tokens) := by
  unfold readDocument
  extract_lets fuel finish finish'
  have hfinish : ∀ root ctx rest,
      Ensures (fun fault => .broken fault ∈ rest) (fun _ => True) (finish (root, ctx, rest)) :=
    fun root ctx rest => (ensures_toDocument root ctx rest).map fun _ _ => trivial
  split
  case h_1 => exact .ok trivial
  -- A document after directives, or after a mark.
  case h_2 | h_3 =>
    refine (ensures_readDirectives false [] _).bind fun r hr => ?_
    refine Ensures.mono ?_ (fun _ h => hr h) fun _ h => h
    dsimp -zeta only
    split
    · next rest hrest =>
      rw [hrest]
      refine Ensures.mono ?_ (fun _ h => List.mem_cons_of_mem _ h) fun _ h => h
      extract_lets ctx
      split
      · exact (reads_addEmpty ctx rest).bind_ensures hfinish
      · exact ((readsAll fuel).node .block ctx rest).bind_ensures hfinish
    · exact ensures_refused _
  case h_4 =>
    exact ((readsAll fuel).node .block _ _).bind_ensures hfinish

/-! ## Tokens from text -/

theorem ensures_dropStaleKeys {Fault : ScalarFault → Prop} (s : TokenState) :
    Ensures Fault (fun _ => True) s.dropStaleKeys := by
  unfold TokenState.dropStaleKeys
  extract_lets
  split
  · exact .malformed
  · exact .ok trivial

theorem ensures_dropKey {Fault : ScalarFault → Prop} (s : TokenState) :
    Ensures Fault (fun _ => True) s.dropKey := by
  unfold TokenState.dropKey
  split
  · exact .malformed
  · exact .ok trivial

theorem ensures_run {Fault : ScalarFault → Prop} (fuel : Nat) (s : TokenState) :
    Ensures Fault (fun _ => True) (s.run fuel) := by
  induction fuel generalizing s with
  | zero => exact .malformed
  | succ fuel ih =>
      have happroach : Ensures Fault (fun _ => True) s.approach :=
        (ensures_dropStaleKeys _).bind fun _ _ => .ok trivial
      unfold TokenState.run
      refine happroach.bind fun here _ => ?_
      split
      · exact (ensures_dropKey _).bind fun _ _ => .ok trivial
      · split
        · exact ih _
        · exact .malformed
        · exact (ensures_dropStaleKeys _).bind fun _ _ => .ok trivial

/-- No fault of a scalar keeps a text from being made into tokens. -/
theorem ensures_tokenize {Fault : ScalarFault → Prop} (text : List Char) :
    Ensures Fault (fun _ => True) (tokenize text) := by
  unfold tokenize
  extract_lets
  split
  · exact ensures_run _ _
  · exact .malformed

end Scenario.Yaml
