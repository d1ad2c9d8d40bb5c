import Scenario.Number.Digits

/-! # Digits written and read

The decimal digits of a number have the number as their value, with no needless zero in front; in
base sixteen, digits up to a width are found one after another. -/

namespace Scenario.Digits

variable {n : Nat}

/-! ## Base ten -/

/-- A number is the value of its digits. -/
theorem value_toDigits (n : Nat) : value (Nat.toDigits 10 n) = n := by
  have h := Nat.ofDigitChars_ten_toDigits (n := n)
  rw [Nat.ofDigitChars_eq_foldl] at h
  simpa only [value, Nat.mul_comm] using h

theorem isDigit_of_mem_toDigits {c : Char} (h : c ∈ Nat.toDigits 10 n) : c.isDigit = true :=
  Nat.isDigit_of_mem_toDigits (by decide) (by decide) h

theorem exists_toDigits_eq_cons (n : Nat) :
    ∃ c ds, Nat.toDigits 10 n = c :: ds ∧ c.isDigit = true := by
  obtain ⟨c, ds, h⟩ := List.exists_cons_of_ne_nil (Nat.toDigits_ne_nil (b := 10) (n := n))
  exact ⟨c, ds, h, isDigit_of_mem_toDigits (h ▸ List.mem_cons_self)⟩

/-- The digits of a number begin with a zero only if the number is zero. -/
theorem eq_zero_of_toDigits {rest : List Char} (h : Nat.toDigits 10 n = '0' :: rest) : n = 0 := by
  induction n using Nat.strongRecOn generalizing rest with
  | ind n ih =>
    by_cases hn : n < 10
    · rw [Nat.toDigits_of_lt_base hn] at h
      exact Nat.digitChar_eq_zero.mp (List.cons.inj h).1
    · -- The first digit is that of the number without its last digit.
      rw [Nat.toDigits_of_base_le (by decide) (by omega)] at h
      obtain ⟨c, ds, hds, -⟩ := exists_toDigits_eq_cons (n / 10)
      rw [hds, List.cons_append] at h
      rw [(List.cons.inj h).1] at hds
      have := ih (n / 10) (by omega) hds
      omega

theorem length_toDigits_le {k : Nat} (hk : 0 < k) (h : ¬ Nat.pow 10 k ≤ n) :
    (Nat.toDigits 10 n).length ≤ k :=
  (Nat.length_toDigits_le_iff (by decide) hk).mpr (Nat.lt_of_not_le h)

/-- A number that is not too long has as many digits as are read, at most. -/
theorem length_toDigits_le_maxCount {i : Int} (h : isLong i = false) :
    (Nat.toDigits 10 i.natAbs).length ≤ maxCount := by
  rw [isLong, decide_eq_false_iff_not] at h
  exact length_toDigits_le (by decide) h

/-! ## Base sixteen -/

theorem ofHex?_digitChar (h : n < 16) : ofHex? n.digitChar = some n := by
  decide +revert

/-- The last digit is that of the remainder. -/
theorem hexPadded_succ {width : Nat} (h : 0 < width) (n : Nat) :
    hexPadded (width + 1) n = hexPadded width (n / 16) ++ [(n % 16).digitChar] := by
  unfold hexPadded
  by_cases hn : n < 16
  · rw [Nat.toDigits_of_lt_base hn, Nat.div_eq_of_lt hn, Nat.mod_eq_of_lt hn, Nat.toDigits_zero]
    obtain ⟨width, rfl⟩ := Nat.exists_eq_add_one.mpr h
    exact congrArg (· ++ [n.digitChar]) (List.replicate_succ' ..)
  · rw [Nat.toDigits_of_base_le (by decide) (by omega)]
    simp [Nat.add_sub_add_right]

theorem hexPadded_one (h : n < 16) : hexPadded 1 n = [n.digitChar] := by
  unfold hexPadded
  rw [Nat.toDigits_of_lt_base h]
  rfl

/-- The four digits of a unit of sixteen bits. -/
theorem hexPadded_four (h : n < 0x10000) :
    hexPadded 4 n = [(n / 16 / 16 / 16).digitChar, (n / 16 / 16 % 16).digitChar,
      (n / 16 % 16).digitChar, (n % 16).digitChar] := by
  rw [hexPadded_succ (by decide), hexPadded_succ (by decide), hexPadded_succ (by decide),
    hexPadded_one (by omega)]
  rfl

end Scenario.Digits
