import Scenario.Proofs.Yaml.Reading

/-! # Where the faults of scalars lie

A text of YAML that breaks no rule of the format may still have a scalar that is marked as a value
of a kind, or has the form of one, without being one. Nothing else keeps such a text from having a
value (`hasFault_of_load`). -/

namespace Scenario.Yaml

/-! ## Nodes while a document is valued -/

/-- A node stays what it is while a document is valued: a key of the default value may become a
text, and a mapping gets the entries that are merged into it. -/
def Node.Becomes (n n' : Node) : Prop :=
  (n'.tag = n.tag ∨ n.tag = .value ∧ n'.tag = .text) ∧
    match n, n' with
    | .scalar _ text, .scalar _ text' => text' = text
    | .sequence .., .sequence .. | .mapping .., .mapping .. => True
    | _, _ => False

theorem Node.Becomes.refl (n : Node) : n.Becomes n := by
  cases n <;> exact ⟨.inl rfl, by trivial⟩

theorem Node.Becomes.trans {n n' n'' : Node} (h : n.Becomes n') (h' : n'.Becomes n'') :
    n.Becomes n'' := by
  obtain ⟨htag, hkind⟩ := h
  obtain ⟨htag', hkind'⟩ := h'
  constructor
  · rcases htag with htag | ⟨hvalue, htext⟩
    · rw [htag] at htag'
      exact htag'
    · rcases htag' with htag' | ⟨hvalue', -⟩
      · exact .inr ⟨hvalue, htag'.trans htext⟩
      · rw [htext] at hvalue'
        cases hvalue'
  · cases n <;> cases n' <;> cases n'' <;> simp_all

/-- The nodes of a document while it is valued. -/
def Document.Covers (d : Document) (nodes : NodeTable) : Prop :=
  ∀ (id : NodeId) (n' : Node), nodes[id]? = some n' →
    ∃ n : Node, d.nodes[id]? = some n ∧ n.Becomes n'

variable {d : Document} {nodes : NodeTable} {id : NodeId} {n : Node} {s : Construction}

theorem Document.covers_nodes (d : Document) : d.Covers d.nodes :=
  fun _ n h => ⟨n, h, .refl n⟩

theorem Document.Covers.setIfInBounds (h : d.Covers nodes) (hn : nodes[id]? = some n) {n' : Node}
    (hbecomes : n.Becomes n') : d.Covers (nodes.setIfInBounds id n') := by
  intro i m hm
  rw [Array.getElem?_setIfInBounds] at hm
  split at hm
  · next heq =>
    subst heq
    split at hm
    · cases hm
      obtain ⟨n₀, h₀, hn₀⟩ := h id n hn
      exact ⟨n₀, h₀, hn₀.trans hbecomes⟩
    · cases hm
  · exact h i m hm

theorem Document.Covers.retagDefault (h : d.Covers nodes) (k : NodeId) :
    d.Covers (retagDefault nodes k) := by
  unfold Yaml.retagDefault
  split
  · next n hn =>
    split
    · next hvalue =>
      refine h.setIfInBounds hn ?_
      cases n <;> exact ⟨.inr ⟨hvalue, rfl⟩, by trivial⟩
    · exact h
  · exact h

theorem Document.Covers.foldl_retagDefault (h : d.Covers nodes) (ks : List NodeId) :
    d.Covers (ks.foldl Yaml.retagDefault nodes) := by
  induction ks generalizing nodes with
  | nil => exact h
  | cons k ks ih => exact ih (h.retagDefault k)

theorem ensures_mergeMappings {flattened : NodeId → NodeTable → Except Error NodeTable}
    (hflattened : ∀ id nodes, d.Covers nodes →
      Ensures (fun _ => False) d.Covers (flattened id nodes))
    (found : List (NodeId × NodeId)) (sources : List NodeId) (h : d.Covers nodes) :
    Ensures (fun _ => False) (fun r => d.Covers r.2)
      (mergeMappings flattened found sources nodes) := by
  induction sources generalizing found nodes with
  | nil => exact .ok h
  | cons source sources ih =>
      refine (hflattened source nodes h).bind fun nodes' h' => ?_
      split
      · exact ih _ h'
      · exact .malformed

theorem ensures_mergeSources (nodes : NodeTable) (id : NodeId) :
    Ensures (fun _ => False) (fun _ => True) (mergeSources nodes id) := by
  unfold mergeSources
  split
  · exact .ok trivial
  · exact .ok trivial
  · exact .malformed

/-- Flattening a mapping keeps the nodes what they are, and finds no scalar at fault. -/
theorem ensures_flattenOnto (fuel : Nat) (merged : List (NodeId × NodeId)) (id : NodeId)
    (h : d.Covers nodes) :
    Ensures (fun _ => False) d.Covers (flattenOnto fuel merged id nodes) := by
  induction fuel generalizing merged id nodes with
  | zero => exact .malformed
  | succ fuel ih =>
      unfold flattenOnto
      split
      · next tag entries hid =>
        have hset : ∀ entries', d.Covers (nodes.setIfInBounds id (.mapping tag entries')) :=
          fun _ => h.setIfInBounds hid ⟨.inl rfl, trivial⟩
        split
        · exact .ok ((hset _).foldl_retagDefault _)
        · refine (ensures_mergeSources _ _).bind fun sources _ => ?_
          refine (ensures_mergeMappings (fun _ _ h' => ih [] _ h') [] sources (hset _)).bind ?_
          exact fun r hr => ih _ _ hr
      · exact .malformed

/-! ## Scalars at fault -/

/-- A scalar of a document has not the form of its kind, or a mapping is marked as a scalar. -/
def Document.FaultyAt (d : Document) (id : NodeId) (fault : ScalarFault) : Prop :=
  (∃ tag text, d.nodes[id]? = some (.scalar tag text) ∧
    scalarValue tag text = .error (.scalar fault)) ∨
  ∃ tag entries, d.nodes[id]? = some (.mapping tag entries) ∧ tag.emptyCollection? = none

theorem Document.Covers.ensures_scalarDatum (h : d.Covers nodes) (hn : nodes[id]? = some n)
    (htag : n.tag.emptyCollection? = none) :
    Ensures (d.FaultyAt id) (fun _ => True) (scalarDatum nodes id n) := by
  obtain ⟨n₀, h₀, htags, hkind⟩ := h id n hn
  cases n with
  | sequence tag items =>
      unfold scalarDatum scalarText
      rw [hn]
      exact .malformed
  | mapping tag entries =>
      refine .of_forall (fun fault => .inr ?_) _
      cases n₀ with
      | mapping tag₀ entries₀ =>
          refine ⟨tag₀, entries₀, h₀, ?_⟩
          rcases htags with heq | ⟨hvalue, -⟩
          · obtain rfl : tag = tag₀ := heq
            exact htag
          · obtain rfl : tag₀ = .value := hvalue
            rfl
      | scalar | sequence => cases hkind
  | scalar tag text =>
      cases n₀ with
      | scalar tag₀ text₀ =>
          obtain rfl : text = text₀ := hkind
          have hvalue : Ensures (d.FaultyAt id) (fun _ => True) (scalarValue tag text) := by
            rcases htags with heq | ⟨-, htext⟩
            · obtain rfl : tag = tag₀ := heq
              cases hx : scalarValue tag text with
              | ok v => exact .ok trivial
              | error e =>
                  cases e with
                  | malformed => exact .malformed
                  | scalar fault => exact .scalar (.inl ⟨tag, text, h₀, hx⟩)
            · obtain rfl : tag = .text := htext
              exact .ok trivial
          have htext : Ensures (d.FaultyAt id) (· = text)
              (scalarText nodes (nodes.size + 1) id) := by
            rw [scalarText, hn]
            exact .ok rfl
          unfold scalarDatum
          refine htext.bind ?_
          rintro _ rfl
          cases tag with
          | float =>
              dsimp only [Node.tag]
              split
              · exact .ok trivial
              · exact hvalue.bind fun v _ => .ok trivial
          | _ => exact hvalue.bind fun v _ => .ok trivial
      | sequence | mapping => cases hkind

/-! ## Nodes that are met -/

namespace Construction

/-- A step of valuing a document keeps its nodes, or is stopped by a scalar of it. -/
def Keeps (d : Document) : Except Error Construction → Prop :=
  Ensures (fun fault => ∃ id, d.FaultyAt id fault) fun s => d.Covers s.nodes

theorem keeps_meet (h : d.Covers s.nodes) (id : NodeId) : Keeps d (s.meet id) := by
  unfold meet
  split
  · exact .ok h
  · exact .malformed
  · next n _ hn =>
    split
    · exact .ok h
    · next htag =>
      split
      · exact .malformed
      · refine ((h.ensures_scalarDatum hn htag).mono (fun _ hf => ⟨id, hf⟩) fun _ h => h).bind ?_
        exact fun _ _ => .ok h

theorem keeps_meetEntry (h : d.Covers s.nodes) (entry : NodeId × NodeId) :
    Keeps d (s.meetEntry entry) := by
  refine (keeps_meet h entry.1).bind fun s' h' => ?_
  split
  · exact .malformed
  · exact keeps_meet h' entry.2

theorem ensures_meetEntries (h : d.Covers s.nodes) (id : NodeId) :
    Ensures (fun fault => ∃ id, d.FaultyAt id fault) (fun r => d.Covers r.2.nodes)
      (s.meetEntries id) := by
  have hflatten := ensures_flattenOnto (s.nodes.entryCount + 1) [] id h
  refine (hflatten.mono (fun _ hf => hf.elim) fun _ h => h).bind fun nodes hnodes => ?_
  split
  · next entries _ =>
    have hmet : Keeps d (entries.foldlM meetEntry { s with nodes }) :=
      Ensures.foldlM hnodes fun _ entry h' => keeps_meetEntry h' entry
    exact hmet.bind fun _ h' => .ok h'
  · exact .malformed

theorem ensures_meetPairs (h : d.Covers s.nodes) (items : List NodeId) :
    Ensures (fun fault => ∃ id, d.FaultyAt id fault) (fun r => d.Covers r.2.nodes)
      (s.meetPairs items) := by
  induction items generalizing s with
  | nil => exact .ok h
  | cons item items ih =>
      unfold meetPairs
      split
      · next k v _ =>
        refine (keeps_meet h k).bind fun s₁ h₁ => ?_
        refine (keeps_meet h₁ v).bind fun s₂ h₂ => ?_
        exact (ih h₂).bind fun _ h₃ => .ok h₃
      · exact .malformed

theorem keeps_fill (h : d.Covers s.nodes) (id : NodeId) : Keeps d (s.fill id) := by
  unfold fill
  split
  · next items _ _ =>
    have hmet : Keeps d (items.foldlM meet s) :=
      Ensures.foldlM h fun _ item h' => keeps_meet h' item
    exact hmet.bind fun _ h' => .ok h'
  · exact (ensures_meetPairs h _).bind fun _ h' => .ok h'
  · exact (ensures_meetEntries h id).bind fun _ h' => .ok h'
  · exact (ensures_meetEntries h id).bind fun _ h' => .ok h'
  · exact .malformed

theorem keeps_fillAll (fuel : Nat) (h : d.Covers s.nodes) : Keeps d (s.fillAll fuel) := by
  induction fuel generalizing s with
  | zero => exact .ok h
  | succ fuel ih =>
      unfold fillAll
      split
      · exact .ok h
      · have hfilled : Keeps d (s.waiting.reverse.foldlM fill { s with waiting := [] }) :=
          Ensures.foldlM h fun _ id h' => keeps_fill h' id
        exact hfilled.bind fun _ h' => ih h'

end Construction

/-- Only a scalar at fault keeps a document from having a value, if not its form. -/
theorem Document.ensures_value (d : Document) :
    Ensures (fun fault => ∃ id, d.FaultyAt id fault) (fun _ => True) d.value := by
  have hconstruct : Construction.Keeps d d.construct :=
    (Construction.keeps_meet d.covers_nodes d.root).bind fun _ h' =>
      Construction.keeps_fillAll _ h'
  exact hconstruct.bind fun _ _ => .ok trivial

/-! ## Texts -/

/-- A text has a scalar at fault: one that cannot be read, or one of its document. -/
def HasFault (text : List Char) (fault : ScalarFault) : Prop :=
  ∃ tokens, tokenize text = .ok tokens ∧
    (.broken fault ∈ tokens ∨
      ∃ d id, readDocument tokens = .ok (some d) ∧ d.FaultyAt id fault)

/-- Only a scalar at fault keeps a text from having a value, if not its form. -/
theorem ensures_load (text : List Char) :
    Ensures (HasFault text) (fun _ => True) (load text) := by
  refine (ensures_tokenize text).self.bind fun tokens htokens => ?_
  have hread : Ensures (HasFault text) (fun _ => True) (readDocument tokens) :=
    (ensures_readDocument tokens).mono (fun _ h => ⟨tokens, htokens, .inl h⟩) fun _ h => h
  refine hread.self.bind fun document hdocument => ?_
  cases document with
  | none => exact .ok trivial
  | some d =>
      refine d.ensures_value.mono (fun fault hfault => ?_) fun _ h => h
      obtain ⟨id, hfaulty⟩ := hfault
      exact ⟨tokens, htokens, .inr ⟨d, id, hdocument, hfaulty⟩⟩

theorem hasFault_of_load {text : List Char} {fault : ScalarFault}
    (h : load text = .error (.scalar fault)) : HasFault text fault :=
  (h ▸ ensures_load text).fault

end Scenario.Yaml
