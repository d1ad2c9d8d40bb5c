import Scenario.Proofs.Json.Text

/-! # JSON documents written and read

Behind a value stands a comma or a new line (`Json.Ends`), at which the digits of a number end; in
front of it stand blanks only, since no value begins with one (`Json.Begins`). The reader is told
step by step, and its fuel is never more than the characters that it has before it.

So a document is read back from its text with the halves in its texts joined
(`Json.Plain.ofChars_pretty`), unless there are numbers in it that are no whole ones, or whole ones
with too many digits, or an object that repeats a name. -/

namespace Scenario

namespace Entries

variable {β : Type}

theorem foldl_put_of_nodup (pairs before : List (String × β))
    (h : ((before ++ pairs).map Prod.fst).Nodup) :
    pairs.foldl (fun entries p => put (· == ·) p.1 p.2 entries) before = before ++ pairs := by
  induction pairs generalizing before with
  | nil => exact (List.append_nil before).symm
  | cons p pairs ih =>
      have hp : ∀ e ∈ before, (e.1 == p.1) = false := by
        intro e he
        rw [List.map_append, List.nodup_append] at h
        exact beq_eq_false_iff_ne.mpr (h.2.2 _ (List.mem_map_of_mem he) _ List.mem_cons_self)
      rw [List.append_cons] at h
      rw [List.foldl_cons, put_of_all_not _ _ _ _ hp, ih _ h, ← List.append_cons]

/-- Entries with different keys stay as they are. -/
theorem ofPairs_of_nodup {pairs : List (String × β)} (h : (pairs.map Prod.fst).Nodup) :
    ofPairs (· == ·) pairs = pairs :=
  foldl_put_of_nodup pairs [] h

end Entries

namespace Json

variable {j : Json} {items : List Json} {name : String} {members : List (String × Json)}
  {level outer fuel : Nat} {cs rest : List Char}

/-! ## Documents with joined halves -/

mutual

/-- A document with the halves in all its texts joined. -/
def joined : Json → Json
  | .text s => .text (Text.joined s)
  | .list items => .list (joinedItems items)
  | .object members => .object (joinedMembers members)
  | j => j

/-- Items with the halves in all their texts joined. -/
def joinedItems : List Json → List Json
  | [] => []
  | j :: rest => j.joined :: joinedItems rest

/-- Members with the halves in their names and in all their texts joined. -/
def joinedMembers : List (String × Json) → List (String × Json)
  | [] => []
  | (name, j) :: rest => (Text.joined name, j.joined) :: joinedMembers rest

end

mutual

/-- Whether there is a text in a document with two halves that are a way to write a character. -/
def hasPair : Json → Bool
  | .text s => Text.hasPair s
  | .list items => itemsHavePair items
  | .object members => membersHavePair members
  | _ => false

/-- Whether there is such a text in items. -/
def itemsHavePair : List Json → Bool
  | [] => false
  | j :: rest => j.hasPair || itemsHavePair rest

/-- Whether there is such a text in members, or a name of one is such a text. -/
def membersHavePair : List (String × Json) → Bool
  | [] => false
  | (name, j) :: rest => Text.hasPair name || j.hasPair || membersHavePair rest

end

/-! ## Blanks -/

/-- The text of a value: something that is not blank comes first, and no closing bracket. -/
def Begins (cs : List Char) : Prop :=
  ∃ c rest, cs = c :: rest ∧ isBlank c = false ∧ c ≠ ']' ∧ c ≠ Char.ofNat 0xFEFF

theorem Begins.append (h : Begins cs) (rest : List Char) : Begins (cs ++ rest) := by
  obtain ⟨c, cs, rfl, hc⟩ := h
  exact ⟨c, cs ++ rest, rfl, hc⟩

theorem Begins.skipBlanks_eq (h : Begins cs) : skipBlanks cs = cs := by
  obtain ⟨c, cs, rfl, hc, -⟩ := h
  exact List.dropWhile_cons_of_neg (Bool.eq_false_iff.mp hc)

/-- A new line is skipped with its indentation. -/
theorem skipBlanks_newLine (level : Nat) (cs : List Char) :
    skipBlanks (newLine level ++ cs) = skipBlanks cs := by
  unfold skipBlanks
  apply List.dropWhile_append_of_pos
  intro c hc
  rcases List.mem_cons.mp hc with rfl | hc
  · rfl
  · rw [List.eq_of_mem_replicate hc]
    rfl

/-! ## Numbers -/

/-- What stands behind a value: a comma or a new line. -/
inductive Ends : List Char → Prop where
  | comma (rest : List Char) : Ends (',' :: rest)
  | newLine (level : Nat) (rest : List Char) : Ends (newLine level ++ rest)

theorem Ends.exists_cons (h : Ends rest) :
    ∃ c after, rest = c :: after ∧ (c = ',' ∨ c = '\n') := by
  cases h with
  | comma after => exact ⟨_, after, rfl, .inl rfl⟩
  | newLine level after => exact ⟨_, _, rfl, .inr rfl⟩

theorem readWhole_toDigits (n : Nat) (h : Ends rest) :
    readWhole (Nat.toDigits 10 n ++ rest) = some (Nat.toDigits 10 n, rest) := by
  obtain ⟨c, ds, hds, hdigit⟩ := Digits.exists_toDigits_eq_cons n
  have hdigits : ∀ d ∈ Nat.toDigits 10 n, d.isDigit = true := fun _ =>
    Digits.isDigit_of_mem_toDigits
  obtain ⟨e, after, rfl, he⟩ := h.exists_cons
  have hend : e.isDigit = false := by
    rcases he with rfl | rfl <;> rfl
  by_cases hc : c = '0'
  · rw [hc] at hds
    rw [Digits.eq_zero_of_toDigits hds]
    rfl
  · have htake : (Nat.toDigits 10 n ++ e :: after).takeWhile Char.isDigit = Nat.toDigits 10 n := by
      rw [List.takeWhile_append_of_pos hdigits, List.takeWhile_cons_of_neg (by simp [hend]),
        List.append_nil]
    have hdrop : (Nat.toDigits 10 n ++ e :: after).dropWhile Char.isDigit = e :: after := by
      rw [List.dropWhile_append_of_pos hdigits, List.dropWhile_cons_of_neg (by simp [hend])]
    rw [hds, List.cons_append] at htake hdrop ⊢
    rw [readWhole.eq_2 c _ fun h => absurd h hc, if_pos hdigit, htake, hdrop]

theorem Ends.readFraction_eq (h : Ends rest) : readFraction rest = ([], rest) := by
  obtain ⟨c, after, rfl, hc⟩ := h.exists_cons
  rcases hc with rfl | rfl <;> rfl

theorem Ends.readExponent_eq (h : Ends rest) : readExponent rest = (none, rest) := by
  obtain ⟨c, after, rfl, hc⟩ := h.exists_cons
  rcases hc with rfl | rfl <;> rfl

theorem readUnsigned_toDigits (negative : Bool) {n : Nat}
    (hn : (Nat.toDigits 10 n).length ≤ Digits.maxCount) (h : Ends rest) :
    readUnsigned negative (Nat.toDigits 10 n ++ rest) =
      some (.ok (.int (if negative then -n else n), rest)) := by
  unfold readUnsigned
  rw [readWhole_toDigits n h]
  dsimp only [Option.bind_eq_bind, Option.bind_some]
  rw [h.readFraction_eq]
  dsimp only
  rw [h.readExponent_eq]
  dsimp only
  simp only [List.isEmpty_nil, Option.isNone_none, Bool.and_self, if_true]
  rw [if_neg (Nat.not_lt.mpr hn), Digits.value_toDigits]

/-- A whole number is written with its digits, behind a sign if it is negative. -/
theorem toList_int_cases (n : Int) :
    (∃ m : Nat, n = m ∧ (toString n).toList = Nat.toDigits 10 m) ∨
    ∃ m : Nat, n = -m ∧ (toString n).toList = '-' :: Nat.toDigits 10 m := by
  cases n with
  | ofNat m =>
      refine .inl ⟨m, rfl, ?_⟩
      show (Nat.repr m).toList = _
      rw [Nat.repr_eq_ofList_toDigits, String.toList_ofList]
  | negSucc m =>
      refine .inr ⟨m + 1, rfl, ?_⟩
      show ("-" ++ Nat.repr (m + 1)).toList = _
      simp only [Nat.repr_eq_ofList_toDigits, String.toList_append, String.toList_ofList]
      rfl

theorem ne_of_isDigit {c d : Char} (hc : c.isDigit = true) (hd : d.isDigit = false) : c ≠ d := by
  rintro rfl
  rw [hc] at hd
  cases hd

/-- A whole number begins with a digit or a sign. -/
theorem exists_toList_int_eq_cons (n : Int) :
    ∃ c cs, (toString n).toList = c :: cs ∧ (c = '-' ∨ c.isDigit = true) := by
  obtain ⟨m, -, h⟩ | ⟨m, -, h⟩ := toList_int_cases n
  · obtain ⟨c, ds, hds, hc⟩ := Digits.exists_toDigits_eq_cons m
    exact ⟨c, ds, h.trans hds, .inr hc⟩
  · exact ⟨_, _, h, .inl rfl⟩

theorem begins_int (n : Int) : Begins (toString n).toList := by
  obtain ⟨c, cs, h, rfl | hc⟩ := exists_toList_int_eq_cons n
  · exact ⟨_, cs, h, rfl, by decide, by decide⟩
  · refine ⟨c, cs, h, ?_, ne_of_isDigit hc rfl, ne_of_isDigit hc rfl⟩
    have hne {d : Char} (hd : d.isDigit = false) : decide (c = d) = false :=
      decide_eq_false (ne_of_isDigit hc hd)
    simp only [isBlank, hne (d := ' ') rfl, hne (d := '\t') rfl, hne (d := '\n') rfl,
      hne (d := '\r') rfl, Bool.or_self]

/-- Digits are no word, with or without a sign in front. -/
theorem find?_words_of_isDigit {c : Char} (h : c.isDigit = true) :
    words.find? (fun w => w.1.isPrefixOf (c :: cs)) = none ∧
    words.find? (fun w => w.1.isPrefixOf ('-' :: c :: cs)) = none := by
  have hne {d : Char} (hd : d.isDigit = false) : (d == c) = false :=
    beq_eq_false_iff_ne.mpr (ne_of_isDigit h hd).symm
  constructor
  · simp [words, List.isPrefixOf, hne]
  · simp [words, List.isPrefixOf, hne]

theorem readScalar_of_isDigit {c : Char} (h : c.isDigit = true) :
    readScalar (c :: cs) =
      (readUnsigned false (c :: cs)).getD (.error (.at .expectedValue (c :: cs))) := by
  have hc : c ≠ '-' := ne_of_isDigit h rfl
  unfold readScalar
  rw [(find?_words_of_isDigit h).1]
  show readNumber (c :: cs) = _
  unfold readNumber
  split
  · next heq => exact absurd (List.cons.inj heq).1 hc
  · rfl

theorem readScalar_neg_of_isDigit {c : Char} (h : c.isDigit = true) :
    readScalar ('-' :: c :: cs) =
      (readUnsigned true (c :: cs)).getD (.error (.at .expectedValue ('-' :: c :: cs))) := by
  unfold readScalar
  rw [(find?_words_of_isDigit h).2]
  rfl

/-- A whole number is read back, if it is not too long. -/
theorem readScalar_int {n : Int} (hn : Digits.isLong n = false) (h : Ends rest) :
    readScalar ((toString n).toList ++ rest) = .ok (.int n, rest) := by
  have hlength := Digits.length_toDigits_le_maxCount hn
  obtain ⟨m, rfl, htext⟩ | ⟨m, rfl, htext⟩ := toList_int_cases n
  · obtain ⟨c, ds, hds, hc⟩ := Digits.exists_toDigits_eq_cons m
    have hread := readUnsigned_toDigits false hlength h
    rw [Int.natAbs_natCast, hds, List.cons_append] at hread
    rw [htext, hds, List.cons_append, readScalar_of_isDigit hc, hread]
    rfl
  · obtain ⟨c, ds, hds, hc⟩ := Digits.exists_toDigits_eq_cons m
    rw [Int.natAbs_neg] at hlength
    have hread := readUnsigned_toDigits true hlength h
    rw [Int.natAbs_natCast, hds, List.cons_append] at hread
    rw [htext, hds, List.cons_append, List.cons_append, readScalar_neg_of_isDigit hc, hread]
    rfl

/-! ## Steps of the reader -/

section Steps

variable {after next : List Char}

theorem readValue_list (hbegins : Begins (skipBlanks rest))
    (h : readItems fuel (skipBlanks rest) = .ok (items, after)) :
    readValue (fuel + 1) ('[' :: rest) = .ok (.list items, after) := by
  obtain ⟨c, cs, hcs, -, hc, -⟩ := hbegins
  rw [readValue.eq_3]
  rw [hcs] at h ⊢
  split
  · next heq => exact absurd (List.cons.inj heq).1 hc
  · rw [h]
    rfl

theorem readItems_last (hj : readValue fuel cs = .ok (j, rest))
    (hrest : skipBlanks rest = ']' :: after) : readItems (fuel + 1) cs = .ok ([j], after) := by
  rw [readItems, hj]
  simp only [bind, Except.bind, hrest]
  rfl

theorem readItems_cons (hj : readValue fuel cs = .ok (j, rest))
    (hrest : skipBlanks rest = ',' :: next)
    (h : readItems fuel (skipBlanks next) = .ok (items, after)) :
    readItems (fuel + 1) cs = .ok (j :: items, after) := by
  rw [readItems, hj]
  simp only [bind, Except.bind, hrest, h]
  rfl

theorem readValue_object (hnames : (members.map Prod.fst).Nodup)
    (hbegins : ∀ cs, skipBlanks rest ≠ '\x7d' :: cs)
    (h : readMembers fuel (skipBlanks rest) = .ok (members, after)) :
    readValue (fuel + 1) ('\x7b' :: rest) = .ok (.object members, after) := by
  rw [readValue.eq_4]
  split
  · next heq => exact absurd heq (hbegins _)
  · rw [h]
    show Except.ok (objectOf members, after) = _
    rw [objectOf, Entries.ofPairs_of_nodup hnames]

theorem readMembers_last (hname : readName cs = .ok (name, rest))
    (hj : readValue fuel rest = .ok (j, next)) (hnext : skipBlanks next = '\x7d' :: after) :
    readMembers (fuel + 1) cs = .ok ([(name, j)], after) := by
  rw [readMembers, hname]
  simp only [bind, Except.bind, hj, hnext]
  rfl

theorem readMembers_cons {cs' : List Char} (hname : readName cs = .ok (name, rest))
    (hj : readValue fuel rest = .ok (j, next)) (hnext : skipBlanks next = ',' :: cs')
    (h : readMembers fuel (skipBlanks cs') = .ok (members, after)) :
    readMembers (fuel + 1) cs = .ok ((name, j) :: members, after) := by
  rw [readMembers, hname]
  simp only [bind, Except.bind, hj, hnext, h]
  rfl

/-- The name of a member is read back with the blank that follows its colon. -/
theorem readName_writeText (name : String) (h : Begins cs) :
    readName (writeText name ++ ':' :: ' ' :: cs) = .ok (Text.joined name, cs) := by
  unfold writeText
  rw [List.cons_append, List.append_assoc, List.singleton_append, readName, readText_escaped]
  show Except.ok (Text.joined name, skipBlanks cs) = _
  rw [h.skipBlanks_eq]

end Steps

/-! ## Documents -/

/-- A document is read back, with its halves joined, from where it is written, inside any number of
levels; its text is fuel enough. -/
structure ReadsBack (j : Json) : Prop where
  begins (level : Nat) : Begins (writeIndented level j)
  read {level fuel : Nat} {rest : List Char} (hfuel : (writeIndented level j).length ≤ fuel)
    (h : Ends rest) : readValue fuel (writeIndented level j ++ rest) = .ok (j.joined, rest)

/-- Items are read back one after another, up to the closing bracket. -/
theorem readItems_written (h : ∀ i ∈ j :: items, ReadsBack i)
    (hfuel : (writeIndented level j).length + (writeItems level items).length < fuel) :
    readItems fuel (writeIndented level j ++
      (writeItems level items ++ (newLine outer ++ ']' :: rest))) =
        .ok (joinedItems (j :: items), rest) := by
  -- Each item takes one step, and its comma pays for it.
  induction items generalizing j fuel with
  | nil =>
      obtain ⟨fuel, rfl⟩ := Nat.exists_eq_add_one_of_ne_zero (by omega : fuel ≠ 0)
      have hj := h j List.mem_cons_self
      apply readItems_last (hj.read (by omega) (.newLine outer _))
      exact skipBlanks_newLine outer _
  | cons i items ih =>
      obtain ⟨fuel, rfl⟩ := Nat.exists_eq_add_one_of_ne_zero (by omega : fuel ≠ 0)
      rw [writeItems] at hfuel ⊢
      simp only [List.length_cons, List.length_append] at hfuel
      rw [List.cons_append, List.append_assoc, List.append_assoc]
      have hj := h j List.mem_cons_self
      have hi := h i (List.mem_cons_of_mem _ List.mem_cons_self)
      apply readItems_cons (hj.read (by omega) (.comma _)) rfl
      rw [skipBlanks_newLine, ((hi.begins level).append _).skipBlanks_eq]
      exact ih (fun k hk => h k (List.mem_cons_of_mem _ hk)) (by omega)

/-- Members are read back one after another, up to the closing brace. -/
theorem readMembers_written (hj : ReadsBack j) (h : ∀ m ∈ members, ReadsBack m.2)
    (hfuel : (writeIndented level j).length + (writeMembers level members).length < fuel) :
    readMembers fuel (writeText name ++ ':' :: ' ' :: (writeIndented level j ++
      (writeMembers level members ++ (newLine outer ++ '\x7d' :: rest)))) =
        .ok (joinedMembers ((name, j) :: members), rest) := by
  induction members generalizing name j fuel with
  | nil =>
      obtain ⟨fuel, rfl⟩ := Nat.exists_eq_add_one_of_ne_zero (by omega : fuel ≠ 0)
      apply readMembers_last (readName_writeText name ((hj.begins level).append _))
        (hj.read (by omega) (.newLine outer _))
      exact skipBlanks_newLine outer _
  | cons m members ih =>
      obtain ⟨name', i⟩ := m
      obtain ⟨fuel, rfl⟩ := Nat.exists_eq_add_one_of_ne_zero (by omega : fuel ≠ 0)
      obtain ⟨hi, h⟩ := List.forall_mem_cons.mp h
      rw [writeMembers] at hfuel ⊢
      simp only [List.length_cons, List.length_append] at hfuel
      simp only [List.cons_append, List.append_assoc]
      apply readMembers_cons (readName_writeText name ((hj.begins level).append _))
        (hj.read (by omega) (.comma _)) rfl
      rw [skipBlanks_newLine]
      exact ih hi h (by omega)

/-- A document is read back if one step of the reader gives it, since no text is empty. -/
theorem ReadsBack.of_step (hbegins : ∀ level, Begins (writeIndented level j))
    (hread : ∀ level fuel rest, (writeIndented level j).length ≤ fuel + 1 → Ends rest →
      readValue (fuel + 1) (writeIndented level j ++ rest) = .ok (j.joined, rest)) :
    ReadsBack j where
  begins := hbegins
  read {level fuel rest} hfuel h := by
    obtain ⟨c, cs, hcs, -⟩ := hbegins level
    rw [hcs, List.length_cons] at hfuel
    obtain ⟨fuel, rfl⟩ := Nat.exists_eq_add_one_of_ne_zero (by omega : fuel ≠ 0)
    exact hread level fuel rest (by rwa [hcs, List.length_cons]) h

/-- A value that is no text, list or object is read as a word or a number. -/
theorem readValue_of_ne {c : Char} (hquote : c ≠ '"') (hbracket : c ≠ '[') (hbrace : c ≠ '\x7b') :
    readValue (fuel + 1) (c :: cs) = readScalar (c :: cs) :=
  readValue.eq_5 (c :: cs) fuel (fun _ h => absurd (List.cons.inj h).1 hquote)
    (fun _ h => absurd (List.cons.inj h).1 hbracket) fun _ h => absurd (List.cons.inj h).1 hbrace

theorem readsBack_null : ReadsBack .null := by
  apply ReadsBack.of_step
  · intro level
    exact ⟨'n', ['u', 'l', 'l'], rfl, rfl, by decide, by decide⟩
  · intro level fuel rest _ _
    exact readValue_of_ne (by decide) (by decide) (by decide)

theorem readsBack_bool (b : Bool) : ReadsBack (.bool b) := by
  apply ReadsBack.of_step
  · intro level
    cases b with
    | false => exact ⟨'f', ['a', 'l', 's', 'e'], rfl, rfl, by decide, by decide⟩
    | true => exact ⟨'t', ['r', 'u', 'e'], rfl, rfl, by decide, by decide⟩
  · intro level fuel rest _ _
    cases b with
    | false => exact readValue_of_ne (by decide) (by decide) (by decide)
    | true => exact readValue_of_ne (by decide) (by decide) (by decide)

theorem readsBack_int {n : Int} (hn : Digits.isLong n = false) : ReadsBack (.int n) := by
  apply ReadsBack.of_step
  · intro level
    exact begins_int n
  · intro level fuel rest _ hrest
    show readValue (fuel + 1) ((toString n).toList ++ rest) = .ok (.int n, rest)
    rw [← readScalar_int hn hrest]
    obtain ⟨c, cs, hcs, rfl | hc⟩ := exists_toList_int_eq_cons n
    · rw [hcs]
      exact readValue_of_ne (by decide) (by decide) (by decide)
    · rw [hcs]
      exact readValue_of_ne (ne_of_isDigit hc rfl) (ne_of_isDigit hc rfl) (ne_of_isDigit hc rfl)

theorem readsBack_text (s : String) : ReadsBack (.text s) := by
  apply ReadsBack.of_step
  · intro level
    exact ⟨'"', _, rfl, rfl, by decide, by decide⟩
  · intro level fuel rest _ _
    rw [writeIndented, writeText, List.cons_append, List.append_assoc, List.singleton_append,
      readValue, readText_escaped]
    rfl

theorem readsBack_list (h : ∀ j ∈ items, ReadsBack j) : ReadsBack (.list items) := by
  apply ReadsBack.of_step
  · intro level
    cases items <;> exact ⟨'[', _, rfl, rfl, by decide, by decide⟩
  · intro level fuel rest hfuel _
    cases items with
    | nil => rfl
    | cons j items =>
        rw [writeIndented] at hfuel ⊢
        simp only [List.length_cons, List.length_append] at hfuel
        simp only [List.cons_append, List.append_assoc, List.nil_append]
        have hbegins := ((h j List.mem_cons_self).begins (level + 1)).append
          (writeItems (level + 1) items ++ (newLine level ++ ']' :: rest))
        apply readValue_list
        · rwa [skipBlanks_newLine, hbegins.skipBlanks_eq]
        · rw [skipBlanks_newLine, hbegins.skipBlanks_eq]
          exact readItems_written h (by omega)

theorem joinedMembers_map_fst (members : List (String × Json)) :
    (joinedMembers members).map Prod.fst = members.map fun m => Text.joined m.1 := by
  induction members with
  | nil => rfl
  | cons m members ih =>
      rw [joinedMembers, List.map_cons, ih]
      rfl

theorem readsBack_object (hnames : (members.map fun m => Text.joined m.1).Nodup)
    (h : ∀ m ∈ members, ReadsBack m.2) : ReadsBack (.object members) := by
  apply ReadsBack.of_step
  · intro level
    cases members <;> exact ⟨'\x7b', _, rfl, rfl, by decide, by decide⟩
  · intro level fuel rest hfuel _
    cases members with
    | nil => rfl
    | cons m members =>
        obtain ⟨name, j⟩ := m
        obtain ⟨hj, h⟩ := List.forall_mem_cons.mp h
        rw [writeIndented] at hfuel ⊢
        simp only [List.length_cons, List.length_append] at hfuel
        simp only [List.cons_append, List.append_assoc, List.nil_append]
        rw [← joinedMembers_map_fst] at hnames
        apply readValue_object hnames
        · intro cs
          rw [skipBlanks_newLine]
          exact nofun
        · rw [skipBlanks_newLine]
          exact readMembers_written hj h (by omega)

/-! ## Plain documents -/

/-- A document without floating-point numbers, in which no whole number is too long to be read and
no two members of an object have one name once its halves are joined. -/
inductive Plain : Json → Prop where
  | null : Plain .null
  | bool (b : Bool) : Plain (.bool b)
  | int {n : Int} (h : Digits.isLong n = false) : Plain (.int n)
  | text (s : String) : Plain (.text s)
  | list {items : List Json} (h : ∀ j ∈ items, Plain j) : Plain (.list items)
  | object {members : List (String × Json)}
      (hnames : (members.map fun m => Text.joined m.1).Nodup) (h : ∀ m ∈ members, Plain m.2) :
      Plain (.object members)

theorem Plain.readsBack (h : Plain j) : ReadsBack j := by
  induction h with
  | null => exact readsBack_null
  | bool b => exact readsBack_bool b
  | int h => exact readsBack_int h
  | text s => exact readsBack_text s
  | list _ ih => exact readsBack_list ih
  | object hnames _ ih => exact readsBack_object hnames ih

theorem Plain.readDocument_eq (h : Plain j) :
    readDocument (writeIndented 0 j ++ newLine 0) = .ok j.joined := by
  have hbegins := (h.readsBack.begins 0).append (newLine 0)
  have hmark : (writeIndented 0 j ++ newLine 0).head? ≠ some (Char.ofNat 0xFEFF) := by
    obtain ⟨c, cs, hcs, -, -, hc⟩ := hbegins
    rw [hcs]
    exact fun h => hc (Option.some.inj h)
  have hfuel : (writeIndented 0 j).length ≤ 2 * (writeIndented 0 j ++ newLine 0).length + 2 := by
    rw [List.length_append]
    omega
  have hread := h.readsBack.read hfuel (.newLine 0 [])
  rw [List.append_nil] at hread
  unfold readDocument
  rw [if_neg hmark, hbegins.skipBlanks_eq, hread]
  rfl

theorem toList_pretty (j : Json) :
    (j.pretty ++ "\n").toList = writeIndented 0 j ++ newLine 0 := by
  unfold pretty
  rw [String.toList_append, String.toList_ofList]
  rfl

/-- A plain document is read back from its text, behind which the line ends, with its halves
joined. -/
theorem Plain.ofChars_pretty (h : Plain j) :
    ofChars (j.pretty ++ "\n").toList = .ok j.joined := by
  unfold ofChars
  rw [toList_pretty, h.readDocument_eq]

theorem joinedItems_eq_self_iff (h : ∀ i ∈ items, (i.joined = i ↔ i.hasPair = false)) :
    joinedItems items = items ↔ itemsHavePair items = false := by
  induction items with
  | nil => exact iff_of_true rfl rfl
  | cons i items ih =>
      obtain ⟨hi, h⟩ := List.forall_mem_cons.mp h
      rw [joinedItems, itemsHavePair, List.cons.injEq, Bool.or_eq_false_iff, hi, ih h]

theorem joinedMembers_eq_self_iff (h : ∀ m ∈ members, (m.2.joined = m.2 ↔ m.2.hasPair = false)) :
    joinedMembers members = members ↔ membersHavePair members = false := by
  induction members with
  | nil => exact iff_of_true rfl rfl
  | cons m members ih =>
      obtain ⟨hm, h⟩ := List.forall_mem_cons.mp h
      rw [joinedMembers, membersHavePair, List.cons.injEq, Prod.mk.injEq, Bool.or_eq_false_iff,
        Bool.or_eq_false_iff, Text.joined_eq_self_iff, hm, ih h]

/-- A plain document stays as it is unless two halves in one of its texts are a way to write a
character. -/
theorem Plain.joined_eq_self_iff (h : Plain j) : j.joined = j ↔ j.hasPair = false := by
  induction h with
  | null => exact iff_of_true rfl rfl
  | bool b => exact iff_of_true rfl rfl
  | int h => exact iff_of_true rfl rfl
  | text s =>
      rw [joined, hasPair, Json.text.injEq]
      exact Text.joined_eq_self_iff
  | list _ ih =>
      rw [joined, hasPair, Json.list.injEq]
      exact joinedItems_eq_self_iff ih
  | object _ _ ih =>
      rw [joined, hasPair, Json.object.injEq]
      exact joinedMembers_eq_self_iff ih

end Json

end Scenario
