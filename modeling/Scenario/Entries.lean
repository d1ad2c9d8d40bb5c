/-! # Entries of mappings

A mapping is the list of its entries in the order in which their keys first appear. -/

namespace Scenario.Entries

variable {κ β : Type}

/-- The entries with a value put under a key: in the key's place if it is there, else at the end.
`same` tells whether two keys are the same. -/
def put (same : κ → κ → Bool) (key : κ) (value : β) : List (κ × β) → List (κ × β)
  | [] => [(key, value)]
  | (k, v) :: rest =>
    if same k key then (k, value) :: rest else (k, v) :: put same key value rest

/-- Entries with each key once: the last value under a key counts, in the place of the first. -/
def ofPairs (same : κ → κ → Bool) (pairs : List (κ × β)) : List (κ × β) :=
  pairs.foldl (fun entries p => put same p.1 p.2 entries) []

/-- A key that is not there yet comes last. -/
theorem put_of_all_not (same : κ → κ → Bool) (key : κ) (value : β) (entries : List (κ × β))
    (h : ∀ e ∈ entries, same e.1 key = false) :
    put same key value entries = entries ++ [(key, value)] := by
  induction entries with
  | nil => rfl
  | cons e rest ih =>
    have he := h e List.mem_cons_self
    have hrest := ih fun e' he' => h e' (List.mem_cons_of_mem e he')
    simp [put, he, hrest]

end Scenario.Entries
