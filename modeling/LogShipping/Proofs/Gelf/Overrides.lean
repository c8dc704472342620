import LogShipping.Proofs.Gelf.Faithful

namespace LogShipping

namespace Gelf

open Json

private theorem carries_last? {r : Record} {key : String} {value : FieldValue}
    (h : r.fields.last? key = some value) :
    ∃ carried, ("_" ++ key, carried) ∈ (document r).values ∧ Carries value carried := by
  obtain ⟨before, after, hsplit, hafter⟩ := Fields.exists_split_of_last? h
  exact ⟨(member value).value, mem_values (mem_document_of_field hsplit hafter),
    carries_member value⟩

/-- Both ways to read a key of a completed record give its last value in the call, or else its last
value in the base fields, if these have the key once at most. Of a base key that is there twice the
text has the last base value, whatever the call sets; a look-up gives the last value of the call, or
else the first base value. -/
theorem complete_overrides (draft : Draft) (origin : Origin) (base : Fields) :
    let r := draft.complete origin base
    ∃ members, read (encode r) = some (.object members) ∧ (members.map Prod.fst).Nodup ∧
      ∀ key,
        (base.keys.count key ≤ 1 →
          r.field? key = (draft.fields.last? key).or (base.last? key) ∧
          ∀ value, (draft.fields.last? key).or (base.last? key) = some value →
            ∃ carried, ("_" ++ key, carried) ∈ members ∧ Carries value carried) ∧
        (1 < base.keys.count key →
          r.field? key = (draft.fields.last? key).or (base.find? key) ∧
          ∃ value carried, base.last? key = some value ∧ ("_" ++ key, carried) ∈ members ∧
            Carries value carried) := by
  intro r
  refine ⟨(document r).values, read_render (document r), ?_, fun key => ⟨fun honce => ?_,
    fun hrepeated => ?_⟩⟩
  · rw [names_values]
    exact (sorted_document r).nodup
  · have hlast : r.fields.last? key = (draft.fields.last? key).or (base.last? key) :=
      Fields.last?_setAll_of_once honce draft.fields
    refine ⟨?_, fun value hvalue => carries_last? (hlast.trans hvalue)⟩
    rw [← Fields.find?_eq_last? honce]
    exact Fields.find?_setAll key draft.fields base
  · have hlast : r.fields.last? key = base.last? key :=
      Fields.last?_setAll_of_repeated hrepeated draft.fields
    have hmem : key ∈ base.keys := List.count_pos_iff.mp (Nat.lt_trans Nat.one_pos hrepeated)
    have hsome : base.last? key ≠ none := fun hnone => Fields.last?_eq_none_iff.mp hnone hmem
    obtain ⟨value, hvalue⟩ := Option.ne_none_iff_exists'.mp hsome
    obtain ⟨carried, hcarried, hcarries⟩ := carries_last? (hlast.trans hvalue)
    exact ⟨Fields.find?_setAll key draft.fields base, value, carried, hvalue, hcarried, hcarries⟩

/-- The value of the call is found by a look-up and missing in the text, and without it a look-up
gives the first of two base values. -/
theorem override_missing_in_text :
    let base : Fields := [("a", .whole 1), ("a", .whole 2)]
    let origin : Origin := { host := "box", processId := 42, processName := "svc" }
    let draft : Draft :=
      { severity := .error, message := "boom", thread := "T"
        time := { seconds := 5, nanos := 5000000 }, fields := [("a", .whole 3)] }
    let r := draft.complete origin base
    draft.fields.last? "a" = some (.whole 3) ∧ r.field? "a" = some (.whole 3) ∧
      (∃ members, read (encode r) = some (.object members) ∧
        ∀ carried, ("_a", carried) ∈ members → ¬Carries (.whole 3) carried) ∧
      base.last? "a" = some (.whole 2) ∧
      ({ draft with fields := [] }.complete origin base).field? "a" = some (.whole 1) := by
  intro base origin draft r
  refine ⟨by decide, by decide, ⟨(document r).values, read_render (document r), ?_⟩, by decide,
    by decide⟩
  intro carried hcarried hcarries
  have hsplit : r.fields = [("a", .whole 3)] ++ ("a", .whole 2) :: [] := rfl
  have hmember : ("_a", Value.number (signedDigits 2)) ∈ (document r).values :=
    mem_values (mem_document_of_field hsplit (by decide))
  have hnodup : ((document r).values.map Prod.fst).Nodup := by
    rw [names_values]
    exact (sorted_document r).nodup
  obtain ⟨-, rfl⟩ := Prod.mk.inj (List.inj_on_of_nodup_map hnodup hcarried hmember rfl)
  cases hcarries with
  | whole integer =>
      rw [wholeOf?_signedDigits] at integer
      exact absurd integer (by decide)

end Gelf

end LogShipping
