import LogShipping.Record.Fields

namespace LogShipping.Fields

def last? (key : String) (changes : Fields) : Option FieldValue :=
  find? key changes.reverse

private theorem find?_append (key : String) (first second : Fields) :
    find? key (first ++ second) = (find? key first).or (find? key second) := by
  induction first with
  | nil => rfl
  | cons entry rest ih =>
      obtain ⟨k, v⟩ := entry
      by_cases hk : k = key
      · simp [find?, hk]
      · simp [find?, hk, ih]

private theorem last?_cons (key : String) (entry : String × FieldValue) (rest : Fields) :
    last? key (entry :: rest) = (last? key rest).or (find? key [entry]) := by
  rw [last?, List.reverse_cons, find?_append]
  rfl

private theorem find?_set (key : String) (entry : String × FieldValue) (fields : Fields) :
    find? key (set entry.1 entry.2 fields) = (find? key [entry]).or (find? key fields) := by
  obtain ⟨k, v⟩ := entry
  by_cases hk : k = key
  · subst hk
    simp [find?]
  · rw [find?_set_ne (Ne.symm hk)]
    simp [find?, hk]

theorem find?_setAll (key : String) (changes fields : Fields) :
    find? key (setAll changes fields) = (last? key changes).or (find? key fields) := by
  induction changes generalizing fields with
  | nil => rfl
  | cons entry rest ih =>
      calc find? key (setAll (entry :: rest) fields)
          = (last? key rest).or (find? key (set entry.1 entry.2 fields)) := ih _
        _ = (last? key rest).or ((find? key [entry]).or (find? key fields)) := by rw [find?_set]
        _ = (last? key (entry :: rest)).or (find? key fields) := by
          rw [last?_cons, Option.or_assoc]

private theorem keys_cons (entry : String × FieldValue) (rest : Fields) :
    keys (entry :: rest) = entry.1 :: keys rest := rfl

theorem find?_eq_none_iff {key : String} {fields : Fields} :
    find? key fields = none ↔ key ∉ fields.keys := by
  induction fields with
  | nil => simp [find?, keys]
  | cons entry rest ih =>
      obtain ⟨k, v⟩ := entry
      by_cases hk : k = key
      · simp [find?, keys_cons, hk]
      · simp [find?, keys_cons, hk, Ne.symm hk, ih]

theorem last?_eq_none_iff {key : String} {fields : Fields} :
    last? key fields = none ↔ key ∉ fields.keys := by
  rw [last?, find?_eq_none_iff, keys, List.map_reverse, List.mem_reverse]
  rfl

theorem find?_eq_last? {key : String} {fields : Fields} (h : fields.keys.count key ≤ 1) :
    find? key fields = last? key fields := by
  induction fields with
  | nil => rfl
  | cons entry rest ih =>
      obtain ⟨k, v⟩ := entry
      rw [keys_cons, List.count_cons] at h
      rw [last?_cons]
      by_cases hk : k = key
      · have hnone : last? key rest = none := by
          rw [last?_eq_none_iff, ← List.count_eq_zero]
          simpa [hk] using h
        simp [find?, hk, hnone]
      · have hrest : (keys rest).count key ≤ 1 := by
          simpa [hk] using h
        simp [find?, hk, ih hrest]

theorem exists_split_of_last? {key : String} {value : FieldValue} {fields : Fields}
    (h : last? key fields = some value) :
    ∃ before after, fields = before ++ (key, value) :: after ∧ key ∉ keys after := by
  induction fields with
  | nil => cases h
  | cons entry rest ih =>
      rw [last?_cons] at h
      cases hrest : last? key rest with
      | some value' =>
          rw [hrest, Option.some_or] at h
          obtain ⟨before, after, rfl, hafter⟩ := ih (h ▸ hrest)
          exact ⟨entry :: before, after, rfl, hafter⟩
      | none =>
          obtain ⟨k, v⟩ := entry
          rw [hrest, Option.none_or] at h
          by_cases hk : k = key
          · subst hk
            obtain rfl : v = value := by simpa [find?] using h
            exact ⟨[], rest, rfl, last?_eq_none_iff.mp hrest⟩
          · simp [find?, hk] at h

private theorem count_keys_set (key : String) (entry : String × FieldValue) (fields : Fields) :
    (set entry.1 entry.2 fields).keys.count key ≤ 1 ↔ fields.keys.count key ≤ 1 := by
  by_cases hmem : entry.1 ∈ fields.keys
  · rw [keys_set_of_mem entry.2 hmem]
  · rw [keys_set_of_not_mem entry.2 hmem, List.count_append]
    by_cases hk : entry.1 = key
    · have hzero : fields.keys.count key = 0 := List.count_eq_zero.mpr (hk ▸ hmem)
      simp [hzero, hk]
    · simp [hk]

private theorem count_keys_setAll (key : String) (changes fields : Fields) :
    (setAll changes fields).keys.count key ≤ 1 ↔ fields.keys.count key ≤ 1 := by
  induction changes generalizing fields with
  | nil => rfl
  | cons entry rest ih => exact (ih _).trans (count_keys_set key entry fields)

theorem last?_setAll_of_once {key : String} {fields : Fields} (h : fields.keys.count key ≤ 1)
    (changes : Fields) :
    last? key (setAll changes fields) = (last? key changes).or (last? key fields) := by
  -- The key is still there once at most, so its last value is the one that a look-up finds.
  rw [← find?_eq_last? h, ← find?_setAll]
  exact (find?_eq_last? ((count_keys_setAll key changes fields).mpr h)).symm

private theorem last?_set_ne {key other : String} (hne : other ≠ key) (value : FieldValue)
    (fields : Fields) : last? other (set key value fields) = last? other fields := by
  induction fields with
  | nil => simp [set, last?, find?, Ne.symm hne]
  | cons entry rest ih =>
      obtain ⟨k, v⟩ := entry
      by_cases hk : k = key
      · simp [set, last?_cons, find?, hk, Ne.symm hne]
      · simp [set, last?_cons, hk, ih]

/-- Setting a key changes its first entry, which is not its last. -/
theorem last?_set_self {key : String} {fields : Fields} (h : 1 < fields.keys.count key)
    (value : FieldValue) : last? key (set key value fields) = last? key fields := by
  induction fields with
  | nil => simp [keys] at h
  | cons entry rest ih =>
      obtain ⟨k, v⟩ := entry
      rw [keys_cons, List.count_cons] at h
      by_cases hk : k = key
      · have hmem : key ∈ keys rest := by
          rw [← List.count_pos_iff]
          simpa [hk] using h
        have hsome : last? key rest ≠ none := fun hnone => last?_eq_none_iff.mp hnone hmem
        obtain ⟨last, hlast⟩ := Option.ne_none_iff_exists'.mp hsome
        simp [set, hk, last?_cons, hlast]
      · have hrest : 1 < (keys rest).count key := by
          simpa [hk] using h
        simp [set, hk, last?_cons, ih hrest]

theorem last?_setAll_of_repeated {key : String} {fields : Fields} (h : 1 < fields.keys.count key)
    (changes : Fields) : last? key (setAll changes fields) = last? key fields := by
  induction changes generalizing fields with
  | nil => rfl
  | cons entry rest ih =>
      have hstill : 1 < (set entry.1 entry.2 fields).keys.count key :=
        Nat.lt_of_not_le (mt (count_keys_set key entry fields).mp (Nat.not_le_of_lt h))
      have hset : last? key (set entry.1 entry.2 fields) = last? key fields := by
        by_cases hk : key = entry.1
        · subst hk
          exact last?_set_self h entry.2
        · exact last?_set_ne hk entry.2 fields
      exact (ih hstill).trans hset

end LogShipping.Fields
