import LogShipping.Json.Document

namespace LogShipping

namespace Json

namespace Document

def keys (d : Document) : List String :=
  d.map Prod.fst

def Sorted (d : Document) : Prop :=
  d.keys.Pairwise (· < ·)

def putAll (entries : List (String × Scalar)) (d : Document) : Document :=
  entries.foldl (fun d entry => d.put entry.1 entry.2) d

private theorem mem_keys_put {key other : String} {value : Scalar} {d : Document} :
    other ∈ (d.put key value).keys ↔ other = key ∨ other ∈ d.keys := by
  induction d with
  | nil => simp [put, keys]
  | cons entry rest ih =>
      obtain ⟨k, v⟩ := entry
      by_cases hk : key = k
      · simp [put, keys, hk]
      · by_cases hlt : key < k
        · simp [put, keys, hk, hlt]
        · simp only [keys] at ih
          simp only [put, keys, hk, hlt, if_false, List.map_cons, List.mem_cons, ih]
          constructor
          · rintro (hfirst | hput | hrest)
            · exact .inr (.inl hfirst)
            · exact .inl hput
            · exact .inr (.inr hrest)
          · rintro (hput | hfirst | hrest)
            · exact .inr (.inl hput)
            · exact .inl hfirst
            · exact .inr (.inr hrest)

private theorem Sorted.put {d : Document} (h : d.Sorted) (key : String) (value : Scalar) :
    (d.put key value).Sorted := by
  induction d with
  | nil => simp [Sorted, Document.put, keys]
  | cons entry rest ih =>
      obtain ⟨k, v⟩ := entry
      obtain ⟨hfirst, hrest⟩ := List.pairwise_cons.mp h
      by_cases hk : key = k
      · subst hk
        simpa [Sorted, Document.put, keys] using h
      · by_cases hlt : key < k
        · simp only [Sorted, Document.put, keys, hk, hlt, if_false, if_true, List.map_cons]
          apply List.pairwise_cons.mpr
          refine ⟨?_, h⟩
          intro other hmem
          rcases List.mem_cons.mp hmem with rfl | hother
          · exact hlt
          · exact String.lt_trans hlt (hfirst other hother)
        · have hgt : k < key := Std.lt_of_le_of_ne (String.not_lt.mp hlt) (Ne.symm hk)
          simp only [Sorted, Document.put, keys, hk, hlt, if_false, List.map_cons]
          apply List.pairwise_cons.mpr
          refine ⟨?_, ih hrest⟩
          intro other hmem
          rcases mem_keys_put.mp hmem with rfl | hother
          · exact hgt
          · exact hfirst other hother

theorem Sorted.nodup {d : Document} (h : d.Sorted) : d.keys.Nodup := by
  apply List.Pairwise.imp _ h
  intro key other hlt
  exact String.ne_of_lt hlt

theorem mem_of_get? {key : String} {value : Scalar} {d : Document} (h : d.get? key = some value) :
    (key, value) ∈ d := by
  induction d with
  | nil => cases h
  | cons entry rest ih =>
      obtain ⟨k, v⟩ := entry
      by_cases hk : key = k
      · simp only [get?, hk, if_true, Option.some.injEq] at h
        simp [hk, h]
      · simp only [get?, hk, if_false] at h
        exact List.mem_cons_of_mem _ (ih h)

theorem Sorted.putAll {d : Document} (h : d.Sorted) (entries : List (String × Scalar)) :
    (d.putAll entries).Sorted := by
  induction entries generalizing d with
  | nil => exact h
  | cons entry rest ih => exact ih (h.put entry.1 entry.2)

theorem mem_keys_putAll {entries : List (String × Scalar)} {key : String} {d : Document} :
    key ∈ (putAll entries d).keys ↔ key ∈ entries.map Prod.fst ∨ key ∈ d.keys := by
  induction entries generalizing d with
  | nil => simp [putAll]
  | cons entry rest ih =>
      have hrest := ih (d := d.put entry.1 entry.2)
      rw [mem_keys_put] at hrest
      simp only [List.map_cons, List.mem_cons]
      constructor
      · intro hmem
        rcases hrest.mp hmem with hlater | hput | hold
        · exact .inl (.inr hlater)
        · exact .inl (.inl hput)
        · exact .inr hold
      · rintro ((hput | hlater) | hold)
        · exact hrest.mpr (.inr (.inl hput))
        · exact hrest.mpr (.inl hlater)
        · exact hrest.mpr (.inr (.inr hold))

theorem get?_putAll_of_not_mem {entries : List (String × Scalar)} {key : String}
    (h : key ∉ entries.map Prod.fst) (d : Document) : (putAll entries d).get? key = d.get? key := by
  induction entries generalizing d with
  | nil => rfl
  | cons entry rest ih =>
      simp only [List.map_cons, List.mem_cons, not_or] at h
      have hlater := ih h.2 (d.put entry.1 entry.2)
      exact hlater.trans (get?_put_ne h.1 entry.2 d)

theorem get?_putAll_last {before after : List (String × Scalar)} {key : String} {value : Scalar}
    (h : key ∉ after.map Prod.fst) (d : Document) :
    (putAll (before ++ (key, value) :: after) d).get? key = some value := by
  have hsplit : putAll (before ++ (key, value) :: after) d =
      putAll after ((putAll before d).put key value) := by
    simp [putAll]
  rw [hsplit, get?_putAll_of_not_mem h]
  exact get?_put_self key value (putAll before d)

end Document

end Json

end LogShipping
