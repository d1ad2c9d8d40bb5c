import Scenario.Path

/-! # Normal forms of paths

A path that is read from a text is normal: its parts hold no slashes, and none of them is empty or
means the directory itself (`Path.normal_ofText`). A normal path is read back from its own text
(`Path.ofText_text`), so that the text of a path means the same path as the text it was read from
(`Path.ofText_text_ofText`). -/

namespace Scenario

namespace PathRoot

/-- The root of a path is told by its leading slashes, if no more of them follow. -/
theorem ofChars_text_append (r : PathRoot) {cs : List Char} (h : cs.head? ≠ some '/') :
    ofChars (r.text.toList ++ cs) = r := by
  cases cs with
  | nil => cases r <;> rfl
  | cons c cs =>
      have hc : c ≠ '/' := fun heq => h (congrArg some heq)
      cases r <;> simp [text, ofChars, hc]

end PathRoot

namespace Path

variable {p : Path} {cs piece : List Char} {pieces : List (List Char)}

/-- The pieces between slashes hold none. -/
theorem not_mem_of_mem_splitOn (h : piece ∈ cs.splitOn '/') : '/' ∉ piece := by
  induction cs generalizing piece with
  | nil =>
      rw [List.splitOn_nil, List.mem_singleton] at h
      rw [h]
      exact List.not_mem_nil
  | cons c cs ih =>
      rw [List.splitOn_cons_eq_if_modifyHead] at h
      split at h
      · rcases List.mem_cons.mp h with rfl | h
        · exact List.not_mem_nil
        · exact ih h
      · next hc =>
        obtain ⟨first, rest, hsplit⟩ := List.exists_cons_of_ne_nil (List.splitOn_ne_nil '/' cs)
        rw [hsplit, List.modifyHead_cons] at h
        rw [hsplit] at ih
        rcases List.mem_cons.mp h with rfl | h
        · rw [List.mem_cons, not_or]
          exact ⟨fun heq => hc (beq_iff_eq.mpr heq.symm), ih List.mem_cons_self⟩
        · exact ih (List.mem_cons_of_mem first h)

/-- A slash in front of a text adds no part. -/
theorem filter_splitOn_slash_cons (cs : List Char) :
    (('/' :: cs).splitOn '/').filter isPart = (cs.splitOn '/').filter isPart := by
  rw [List.splitOn_cons_eq_if_modifyHead, if_pos (beq_self_eq_true '/')]
  exact List.filter_cons_of_neg (by decide)

/-- The root in front of a text adds no part. -/
theorem filter_splitOn_root_append (root : PathRoot) (cs : List Char) :
    ((root.text.toList ++ cs).splitOn '/').filter isPart = (cs.splitOn '/').filter isPart := by
  cases root with
  | relative => rfl
  | single => exact filter_splitOn_slash_cons cs
  | double => exact (filter_splitOn_slash_cons _).trans (filter_splitOn_slash_cons cs)

/-- Parts with slashes between them are the parts of the whole. -/
theorem filter_splitOn_intercalate (h : ∀ piece ∈ pieces, isPart piece = true ∧ '/' ∉ piece) :
    ((['/'].intercalate pieces).splitOn '/').filter isPart = pieces := by
  by_cases hnil : pieces = []
  · subst hnil
    rfl
  · rw [List.splitOn_intercalate '/' (fun piece hp => (h piece hp).2) hnil]
    exact List.filter_eq_self.mpr fun piece hp => (h piece hp).1

/-- A path in its normal form. -/
def Normal (p : Path) : Prop := ∀ part ∈ p.parts, isPart part.toList = true ∧ '/' ∉ part.toList

theorem normal_ofText (t : String) : (ofText t).Normal := by
  intro part hpart
  obtain ⟨piece, hpiece, rfl⟩ := List.mem_map.mp hpart
  obtain ⟨hsplit, hkept⟩ := List.mem_filter.mp hpiece
  rw [String.toList_ofList]
  exact ⟨hkept, not_mem_of_mem_splitOn hsplit⟩

theorem Normal.forall_mem_pieces (h : p.Normal) :
    ∀ piece ∈ p.parts.map String.toList, isPart piece = true ∧ '/' ∉ piece :=
  List.forall_mem_map.mpr h

/-- Parts with slashes between them do not start with a slash. -/
theorem head?_intercalate_ne (h : ∀ piece ∈ pieces, isPart piece = true ∧ '/' ∉ piece) :
    (['/'].intercalate pieces).head? ≠ some '/' := by
  cases pieces with
  | nil => nofun
  | cons piece pieces =>
      obtain ⟨hpart, hslash⟩ := h piece List.mem_cons_self
      cases piece with
      | nil => cases hpart
      | cons c cs =>
          have hc : c ≠ '/' := fun heq => hslash (heq ▸ List.mem_cons_self)
          cases pieces with
          | nil => simpa using hc
          | cons piece' pieces => simpa [List.intercalate_cons_cons] using hc

/-- A normal path is read back from its text. -/
theorem ofText_text (h : p.Normal) : ofText p.text = p := by
  obtain ⟨root, parts⟩ := p
  unfold text
  split
  · next hempty =>
    obtain ⟨rfl, rfl⟩ : root = .relative ∧ parts = [] := hempty
    rfl
  · have hpieces := h.forall_mem_pieces
    have hslash : "/".toList = ['/'] := rfl
    rw [ofText, String.toList_append, String.toList_intercalate, hslash,
      filter_splitOn_root_append, filter_splitOn_intercalate hpieces,
      root.ofChars_text_append (head?_intercalate_ne hpieces), List.map_map]
    simp

/-- The text of a path means the path again. -/
theorem ofText_text_ofText (t : String) : ofText (ofText t).text = ofText t :=
  ofText_text (normal_ofText t)

/-- The text of a path is not empty. -/
theorem text_ofText_ne_empty (t : String) : (ofText t).text ≠ "" := by
  intro h
  have hempty := ofText_text_ofText t
  rw [h] at hempty
  rw [← hempty] at h
  exact absurd h (by decide)

end Path
end Scenario
