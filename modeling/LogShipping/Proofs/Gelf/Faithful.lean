import LogShipping.Gelf
import LogShipping.Proofs.Json.Members
import LogShipping.Proofs.Json.RoundTrip
import LogShipping.Proofs.Numeric.Finite
import LogShipping.Proofs.Record.Fields

namespace LogShipping

namespace Gelf

open Json

/-- What a reader may find where a field value was written. -/
inductive Carries : FieldValue → Value → Prop
  | text (s : String) : Carries (.text s) (.text s)
  | whole {n : Int64} {token : List Char} (integer : wholeOf? token = some n.toInt) :
      Carries (.whole n) (.number token)
  | finite {x : Binary64} {token : List Char} {v : Rat} (value : valueOf? token = some v)
      (rounds : Binary64.RoundsTo v x) (signed : token.head? = some '-' ↔ x.negative = true)
      (marked : '.' ∈ token ∨ 'e' ∈ token) (fractional : wholeOf? token = none) :
      Carries (.real x) (.number token)
  | infinite {x : Binary64} {negative : Bool} (special : x.decode = .infinite negative) :
      Carries (.real x) (.text (if negative then "-inf" else "inf"))
  | nan {x : Binary64} (special : x.decode = .nan) : Carries (.real x) (.text "NaN")

def headerNames : List String :=
  ["version", "host", "short_message", "timestamp", "level", "_process_id", "_process",
    "_thread_id"]

structure Decodes (r : Record) (members : List (String × Value)) : Prop where
  nodup : (members.map Prod.fst).Nodup
  names : ∀ name, name ∈ members.map Prod.fst ↔
    name ∈ headerNames ∨ ∃ key ∈ r.fields.keys, name = "_" ++ key
  version : ("version", .text "1.1") ∈ members
  host : ("host", .text r.origin.host) ∈ members
  message : ("short_message", .text r.message) ∈ members
  time : ∃ token, ("timestamp", .number token) ∈ members ∧
    Carries (.real (timestamp r.time)) (.number token)
  level : ∃ token, ("level", .number token) ∈ members ∧ wholeOf? token = some r.severity.level
  field : ∀ (before : Fields) (key : String) (value : FieldValue) (after : Fields),
    r.fields = before ++ (key, value) :: after → key ∉ after.keys →
    ∃ carried, ("_" ++ key, carried) ∈ members ∧ Carries value carried
  processId : "process_id" ∉ r.fields.keys → ∃ token, ("_process_id", .number token) ∈ members ∧
    wholeOf? token = some r.origin.processId.toNat
  process : "process" ∉ r.fields.keys → ("_process", .text r.origin.processName) ∈ members
  thread : "thread_id" ∉ r.fields.keys → ("_thread_id", .text r.thread) ∈ members

private theorem carries_token {x : Binary64} {token : List Char}
    (h : NumberStyle.document.finite? x = some token) : Carries (.real x) (.number token) := by
  obtain ⟨v, hdenotes, hrounds⟩ := NumberStyle.denotes_of_finite? h
  have hmarked := NumberStyle.marked_of_finite? h
  exact .finite (valueOf?_of_denotes hdenotes) hrounds (NumberStyle.signed_of_finite? h) hmarked
    (wholeOf?_eq_none hmarked)

private theorem carries_real {x : Binary64} : Carries (.real x) (member (.real x)).value := by
  cases hfinite : NumberStyle.document.finite? x with
  | some token =>
      simp only [member, hfinite, Option.isSome_some, if_true, Scalar.value]
      exact carries_token hfinite
  | none =>
      simp only [member, hfinite, Option.isSome_none, Bool.false_eq_true, if_false, Scalar.value]
      cases hdecode : x.decode with
      | finite negative significand exponent => simp [NumberStyle.finite?, hdecode] at hfinite
      | infinite negative =>
          have hcarries := Carries.infinite hdecode
          cases negative with
          | false => simpa [Binary64.specialText, hdecode] using hcarries
          | true => simpa [Binary64.specialText, hdecode] using hcarries
      | nan => simpa [Binary64.specialText, hdecode] using Carries.nan hdecode

theorem carries_member (value : FieldValue) : Carries value (member value).value := by
  cases value with
  | text s => exact .text s
  | whole n => exact .whole (wholeOf?_signedDigits n.toInt)
  | real x => exact carries_real

def headerEntries (r : Record) : List (String × Scalar) :=
  [("version", .text formatVersion),
    ("host", .text r.origin.host),
    ("short_message", .text r.message),
    ("timestamp", .real (timestamp r.time)),
    ("level", .whole r.severity.level),
    ("_process_id", .whole r.origin.processId.toNat),
    ("_process", .text r.origin.processName),
    ("_thread_id", .text r.thread)]

/-- The fields under the names of their members. -/
def fieldEntries (fields : Fields) : List (String × Scalar) :=
  fields.map fun field => (memberName field.1, member field.2)

private theorem document_eq (r : Record) :
    document r = Document.putAll (fieldEntries r.fields) (Document.putAll (headerEntries r) []) := by
  simp [document, header, Document.putAll, headerEntries, fieldEntries, List.foldl_map]

theorem sorted_document (r : Record) : (document r).Sorted := by
  have hempty : Document.Sorted [] := List.Pairwise.nil
  rw [document_eq]
  exact (hempty.putAll (headerEntries r)).putAll (fieldEntries r.fields)

private theorem memberName_inj {key other : String} (h : memberName key = memberName other) :
    key = other := by
  apply String.ext
  have hchars := congrArg String.toList h
  simpa [memberName] using hchars

private theorem mem_fieldEntries {key : String} {fields : Fields} :
    memberName key ∈ (fieldEntries fields).map Prod.fst ↔ key ∈ fields.keys := by
  simp only [fieldEntries, Fields.keys, List.map_map, List.mem_map, Function.comp]
  constructor
  · rintro ⟨field, hmem, hname⟩
    exact ⟨field, hmem, memberName_inj hname⟩
  · rintro ⟨field, hmem, rfl⟩
    exact ⟨field, hmem, rfl⟩

/-- Only names that begin with an underscore can be those of fields. -/
theorem not_mem_fieldEntries {name : String} (h : name.toList.head? ≠ some '_')
    (fields : Fields) : name ∉ (fieldEntries fields).map Prod.fst := by
  intro hmem
  simp only [fieldEntries, List.map_map, List.mem_map, Function.comp] at hmem
  obtain ⟨field, -, rfl⟩ := hmem
  exact h (by simp [memberName])

private theorem mem_document_of_header {r : Record} {name : String} {scalar : Scalar}
    (h : (name, scalar) ∈ headerEntries r)
    (hfields : name ∉ (fieldEntries r.fields).map Prod.fst) : (name, scalar) ∈ document r := by
  have hnames : (headerEntries r).map Prod.fst = headerNames := rfl
  have hnodup : headerNames.Nodup := by decide
  obtain ⟨before, after, hsplit⟩ := List.append_of_mem h
  rw [← hnames, hsplit, List.map_append, List.map_cons] at hnodup
  have hafter : name ∉ after.map Prod.fst :=
    (List.nodup_cons.mp (List.nodup_append.mp hnodup).2.1).1
  apply Document.mem_of_get?
  rw [document_eq, Document.get?_putAll_of_not_mem hfields, hsplit]
  exact Document.get?_putAll_last hafter []

theorem mem_document_of_field {r : Record} {before after : Fields} {key : String}
    {value : FieldValue} (h : r.fields = before ++ (key, value) :: after)
    (hafter : key ∉ after.keys) : (memberName key, member value) ∈ document r := by
  apply Document.mem_of_get?
  have hsplit : fieldEntries r.fields =
      fieldEntries before ++ (memberName key, member value) :: fieldEntries after := by
    simp [h, fieldEntries]
  rw [document_eq, hsplit]
  apply Document.get?_putAll_last
  rw [mem_fieldEntries]
  exact hafter

private theorem mem_keys_document {r : Record} {name : String} :
    name ∈ (document r).keys ↔ name ∈ headerNames ∨ ∃ key ∈ r.fields.keys, name = "_" ++ key := by
  have hnames : (headerEntries r).map Prod.fst = headerNames := rfl
  rw [document_eq, Document.mem_keys_putAll, Document.mem_keys_putAll, hnames]
  constructor
  · rintro (hfield | hheader | hnone)
    · right
      simp only [fieldEntries, List.map_map, List.mem_map, Function.comp] at hfield
      obtain ⟨field, hmem, rfl⟩ := hfield
      exact ⟨field.1, List.mem_map.mpr ⟨field, hmem, rfl⟩, rfl⟩
    · exact .inl hheader
    · cases hnone
  · rintro (hheader | ⟨key, hkey, rfl⟩)
    · exact .inr (.inl hheader)
    · exact .inl (mem_fieldEntries.mpr hkey)

theorem names_values (d : Document) : d.values.map Prod.fst = d.keys := by
  simp [Document.values, Document.keys, Function.comp_def]

theorem mem_values {name : String} {scalar : Scalar} {d : Document} (h : (name, scalar) ∈ d) :
    (name, scalar.value) ∈ d.values :=
  List.mem_map.mpr ⟨(name, scalar), h, rfl⟩

private theorem finite_timestamp {t : Moment} (h : t.InSpan) :
    ∃ token, NumberStyle.document.finite? (timestamp t) = some token := by
  have hmillis : (Binary64.ofInt t.millis).exponentField ≤ 53 + 1026 :=
    Binary64.exponentField_ofRatio_le _ (by decide) h.natAbs_millis_lt
  have hseconds : (timestamp t).exponentField ≤
      max ((Binary64.ofInt t.millis).exponentField + 5) 1079 :=
    Binary64.exponentField_divNat_le (by decide) (by omega)
  apply NumberStyle.finite?_of_exponentField
  omega

private theorem mem_values_of_header {r : Record} (name : String) (scalar : Scalar)
    (h : (name, scalar) ∈ headerEntries r) (hname : name.toList.head? ≠ some '_') :
    (name, scalar.value) ∈ (document r).values :=
  mem_values (mem_document_of_header h (not_mem_fieldEntries hname r.fields))

private theorem mem_values_of_process {r : Record} (key : String) (scalar : Scalar)
    (h : (memberName key, scalar) ∈ headerEntries r) (hkey : key ∉ r.fields.keys) :
    (memberName key, scalar.value) ∈ (document r).values := by
  rw [← mem_fieldEntries] at hkey
  exact mem_values (mem_document_of_header h hkey)

theorem decodes_document {r : Record} (hspan : r.time.InSpan) :
    Decodes r (document r).values where
  nodup := by
    rw [names_values]
    exact (sorted_document r).nodup
  names := by
    intro name
    rw [names_values]
    exact mem_keys_document
  version := mem_values_of_header "version" (.text formatVersion) (by simp [headerEntries])
    (by decide)
  host := mem_values_of_header "host" (.text r.origin.host) (by simp [headerEntries]) (by decide)
  message := mem_values_of_header "short_message" (.text r.message) (by simp [headerEntries])
    (by decide)
  time := by
    obtain ⟨token, hfinite⟩ := finite_timestamp hspan
    have hvalue : (Scalar.real (timestamp r.time)).value = .number token := by
      simp only [Scalar.value, hfinite]
    have hmember : ("timestamp", (Scalar.real (timestamp r.time)).value) ∈ (document r).values :=
      mem_values_of_header "timestamp" _ (by simp [headerEntries]) (by decide)
    rw [hvalue] at hmember
    exact ⟨token, hmember, carries_token hfinite⟩
  level := by
    refine ⟨signedDigits r.severity.level, ?_, wholeOf?_signedDigits _⟩
    exact mem_values_of_header "level" (.whole r.severity.level) (by simp [headerEntries])
      (by decide)
  field := by
    intro before key value after hsplit hafter
    exact ⟨(member value).value, mem_values (mem_document_of_field hsplit hafter),
      carries_member value⟩
  processId := by
    intro hkey
    refine ⟨signedDigits r.origin.processId.toNat, ?_, wholeOf?_signedDigits _⟩
    exact mem_values_of_process "process_id" (.whole r.origin.processId.toNat)
      (by simp [headerEntries, memberName]) hkey
  process := by
    intro hkey
    exact mem_values_of_process "process" (.text r.origin.processName)
      (by simp [headerEntries, memberName]) hkey
  thread := by
    intro hkey
    exact mem_values_of_process "thread_id" (.text r.thread) (by simp [headerEntries, memberName])
      hkey

/-- The text of every record is read as one object, which has the members of the record and no
others. -/
theorem encode_faithful (r : Record) (hspan : r.time.InSpan) :
    ∃ members, read (encode r) = some (.object members) ∧ Decodes r members :=
  ⟨(document r).values, read_render (document r), decodes_document hspan⟩

/-- The last of two fields in the place of a member of the process, and a name of the header that is
not in the way of a field. -/
theorem encode_faithful_overridden :
    let r : Record :=
      { severity := .warning, message := "line one\nline two"
        origin := { host := "db-1", processId := 4242, processName := "storaged" }
        thread := "ThreadId(3)", time := { seconds := -8334601228800, nanos := 1999999999 }
        fields := [("process_id", .whole 7), ("version", .text "2"), ("process_id", .text "last")] }
    ∃ members, read (encode r) = some (.object members) ∧ ("version", .text "1.1") ∈ members ∧
      ("_process_id", .text "last") ∈ members := by
  intro r
  obtain ⟨members, hread, hdecodes⟩ := encode_faithful r ⟨by decide, by decide, by decide⟩
  obtain ⟨carried, hmember, hcarries⟩ :=
    hdecodes.field [("process_id", .whole 7), ("version", .text "2")] "process_id" (.text "last") []
      rfl (by decide)
  cases hcarries with
  | text => exact ⟨members, hread, hdecodes.version, hmember⟩

end Gelf

end LogShipping
