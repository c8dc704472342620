import LogShipping.Numeric.NumberText

/-!
Extra fields of a record: an ordered list of keys with values. Setting a key keeps the place of its
first entry. The list itself may hold a key twice, when it was handed over whole.
-/

namespace LogShipping

inductive FieldValue where
  | text (value : String)
  | whole (value : Int64)
  | real (value : Binary64)
  deriving DecidableEq

namespace FieldValue

def display : FieldValue → String
  | text s => s
  | whole n => signedText n.toInt
  | real x => x.text

/-- Equality as values: numbers of different kinds differ, and reals compare as numbers. -/
def agrees : FieldValue → FieldValue → Bool
  | text a, text b => a == b
  | whole a, whole b => a == b
  | real a, real b => a.agrees b
  | _, _ => false

end FieldValue

abbrev Fields := List (String × FieldValue)

namespace Fields

/-- Replaces the value of the first entry for `key`, or adds an entry at the end. -/
def set (key : String) (value : FieldValue) : Fields → Fields
  | [] => [(key, value)]
  | (k, v) :: rest =>
    if k = key then (k, value) :: rest else (k, v) :: set key value rest

def find? (key : String) : Fields → Option FieldValue
  | [] => none
  | (k, v) :: rest => if k = key then some v else find? key rest

def keys (fields : Fields) : List String :=
  fields.map Prod.fst

def setAll (changes fields : Fields) : Fields :=
  changes.foldl (fun acc entry => set entry.1 entry.2 acc) fields

@[simp] theorem find?_set_self (key : String) (value : FieldValue) (fields : Fields) :
    find? key (set key value fields) = some value := by
  induction fields with
  | nil => simp [set, find?]
  | cons entry rest ih =>
      obtain ⟨k, v⟩ := entry
      by_cases h : k = key <;> simp [set, find?, h, ih]

theorem find?_set_ne {key other : String} (hne : other ≠ key) (value : FieldValue)
    (fields : Fields) : find? other (set key value fields) = find? other fields := by
  induction fields with
  | nil => simp [set, find?, Ne.symm hne]
  | cons entry rest ih =>
      obtain ⟨k, v⟩ := entry
      grind [set, find?]

theorem keys_set_of_mem {key : String} {fields : Fields} (value : FieldValue)
    (h : key ∈ keys fields) : keys (set key value fields) = keys fields := by
  induction fields with
  | nil => simp [keys] at h
  | cons entry rest ih =>
      obtain ⟨k, v⟩ := entry
      by_cases hk : k = key
      · simp [set, keys, hk]
      · have hrest : key ∈ keys rest := by
          simpa [keys, Ne.symm hk] using h
        simpa [set, keys, hk] using ih hrest

theorem keys_set_of_not_mem {key : String} {fields : Fields} (value : FieldValue)
    (h : key ∉ keys fields) : keys (set key value fields) = keys fields ++ [key] := by
  induction fields with
  | nil => simp [set, keys]
  | cons entry rest ih =>
      obtain ⟨k, v⟩ := entry
      simp only [keys, List.map_cons, List.mem_cons, not_or] at h
      have hk : k ≠ key := Ne.symm h.1
      simpa [set, keys, hk] using ih h.2

end Fields

end LogShipping
