import LogShipping.Proofs.Numeric.DocumentText

namespace LogShipping

namespace Json

private theorem hexValue?_hexDigit : ∀ d < 16, hexValue? (hexDigit d) = some d := by
  decide

private theorem codeUnit?_hexDigits {n : Nat} (h : n < 0x20) :
    codeUnit? '0' '0' (hexDigit (n / 16)) (hexDigit (n % 16)) = some n := by
  have hzero : hexValue? '0' = some 0 := rfl
  have hhigh := hexValue?_hexDigit (n / 16) (by omega)
  have hlow := hexValue?_hexDigit (n % 16) (by omega)
  simp only [codeUnit?, hzero, hhigh, hlow, Option.bind_eq_bind, Option.bind_some, Option.pure_def,
    Option.some.injEq]
  omega

/-- The ways in which a character can stand in a string. -/
inductive Escaped (c : Char) : List Char → Prop
  | short {mark : Char} (meaning : unescape? mark = some c) (hmark : mark ≠ 'u') :
      Escaped c ['\\', mark]
  | control (low : c.toNat < 0x20) :
      Escaped c ['\\', 'u', '0', '0', hexDigit (c.toNat / 16), hexDigit (c.toNat % 16)]
  | plain (hquote : c ≠ '"') (hbackslash : c ≠ '\\') (high : ¬ c.toNat < 0x20) : Escaped c [c]

theorem escaped_escape (c : Char) : Escaped c (escape c) := by
  by_cases hquote : c = '"'
  · subst hquote
    exact .short rfl (by decide)
  by_cases hbackslash : c = '\\'
  · subst hbackslash
    exact .short rfl (by decide)
  unfold escape
  rw [if_neg hquote, if_neg hbackslash]
  split
  · rename_i hshort
    subst hshort
    exact .short rfl (by decide)
  split
  · rename_i hshort
    subst hshort
    exact .short rfl (by decide)
  split
  · rename_i hshort
    subst hshort
    exact .short rfl (by decide)
  split
  · rename_i hshort
    subst hshort
    exact .short rfl (by decide)
  split
  · rename_i hshort
    subst hshort
    exact .short rfl (by decide)
  split
  · rename_i low
    exact .control low
  · rename_i high
    exact .plain hquote hbackslash high

private theorem Escaped.readText_append {c : Char} {chars : List Char} (h : Escaped c chars)
    (rest : List Char) :
    readText (chars ++ rest) = (readText rest).map fun (text, rest) => (c :: text, rest) := by
  cases h with
  | @short mark meaning hmark => simp [readText, meaning, hmark]
  | control low =>
      have hunit := codeUnit?_hexDigits low
      have hlow : isLowHalf c.toNat = false := by
        simp only [isLowHalf, decide_eq_false_iff_not]
        omega
      have hhigh : isHighHalf c.toNat = false := by
        simp only [isHighHalf, decide_eq_false_iff_not]
        omega
      simp [readText, hunit, hlow, hhigh]
  | plain hquote hbackslash high => simp [readText, hbackslash, high]

/-- A string is read up to its closing quote. -/
theorem readText_flatMap_escape (chars rest : List Char) :
    readText (chars.flatMap escape ++ '"' :: rest) = some (chars, rest) := by
  induction chars with
  | nil => simp [readText]
  | cons c chars ih =>
      rw [List.flatMap_cons, List.append_assoc, (escaped_escape c).readText_append, ih]
      rfl

def Scalar.value : Scalar → Value
  | text s => .text s
  | whole n => .number (signedDigits n)
  | real x =>
    match NumberStyle.document.finite? x with
    | some token => .number token
    | none => .text x.specialText

private theorem readValue_quote (fuel : Nat) (s : String) (rest : List Char) :
    readValue (fuel + 1) (quote s ++ rest) = some (.text s, rest) := by
  have hread := readText_flatMap_escape s.toList rest
  simp [readValue, quote, skipBlanks, isBlank, hread]

private theorem Denotes.leading {token : List Char} {v : Rat} (h : Denotes token v) :
    ∃ c rest, token = c :: rest ∧ (c = '-' ∨ isDigit c = true) := by
  cases h with
  | positive hunsigned =>
      obtain ⟨c, rest, htoken, hdigit⟩ := hunsigned.leading
      exact ⟨c, rest, htoken, .inr hdigit⟩
  | negative hunsigned => exact ⟨'-', _, rfl, .inl rfl⟩

private theorem readValue_number (fuel : Nat) {token rest : List Char} {v : Rat}
    (h : Denotes token v) (hrest : Stops rest) :
    readValue (fuel + 1) (token ++ rest) = some (.number token, rest) := by
  have hread := readNumber_append h hrest
  obtain ⟨c, tail, rfl, hc⟩ := h.leading
  have hother : ∀ d, isDigit d = false → d ≠ '-' → c ≠ d := by
    rintro d hd hminus rfl
    rcases hc with hc | hc
    · exact hminus hc
    · rw [hd] at hc
      cases hc
  have hblank : isBlank c = false := by
    simp [isBlank, hother ' ' (by decide) (by decide), hother '\t' (by decide) (by decide),
      hother '\n' (by decide) (by decide), hother '\r' (by decide) (by decide)]
  simp only [List.cons_append] at hread ⊢
  simp [readValue, skipBlanks, hblank, hread, hother 'n' (by decide) (by decide),
    hother 't' (by decide) (by decide), hother 'f' (by decide) (by decide),
    hother '"' (by decide) (by decide), hother '[' (by decide) (by decide),
    hother '\x7b' (by decide) (by decide)]

private theorem readValue_render (fuel : Nat) (scalar : Scalar) {rest : List Char}
    (hrest : Stops rest) : readValue (fuel + 1) (scalar.render ++ rest) = some
    (scalar.value, rest) := by
  cases scalar with
  | text s => exact readValue_quote fuel s rest
  | whole n => exact readValue_number fuel (denotes_signedDigits n) hrest
  | real x =>
      cases hfinite : NumberStyle.document.finite? x with
      | none =>
          simp only [Scalar.render, Scalar.value, hfinite]
          exact readValue_quote fuel x.specialText rest
      | some token =>
          obtain ⟨v, hdenotes, -⟩ := NumberStyle.denotes_of_finite? hfinite
          simp only [Scalar.render, Scalar.value, hfinite]
          exact readValue_number fuel hdenotes hrest

def Document.values (d : Document) : List (String × Value) :=
  d.map fun member => (member.1, member.2.value)

private theorem stops_comma (rest : List Char) : Stops (',' :: rest) := by
  intro c hmem
  have hc : c = ',' := by simpa using hmem.symm
  subst hc
  decide

private theorem stops_brace (rest : List Char) : Stops ('\x7d' :: rest) := by
  intro c hmem
  have hc : c = '\x7d' := by simpa using hmem.symm
  subst hc
  decide

private theorem readMembers_last (fuel : Nat) (member : String × Scalar) (rest : List Char) :
    readMembers (fuel + 2) (renderMember member ++ '\x7d' :: rest) =
      some ([(member.1, member.2.value)], rest) := by
  have hvalue := readValue_render fuel member.2 (stops_brace rest)
  have hkey := readText_flatMap_escape member.1.toList
    (':' :: (member.2.render ++ '\x7d' :: rest))
  simp [readMembers, renderMember, quote, skipBlanks, isBlank, hkey, hvalue]

private theorem readMembers_cons (fuel : Nat) (member : String × Scalar) (rest : List Char) :
    readMembers (fuel + 2) (renderMember member ++ ',' :: rest) =
      (readMembers (fuel + 1) rest).map fun (members, rest) =>
        ((member.1, member.2.value) :: members, rest) := by
  have hvalue := readValue_render fuel member.2 (stops_comma rest)
  have hkey := readText_flatMap_escape member.1.toList
    (':' :: (member.2.render ++ ',' :: rest))
  simp [readMembers, renderMember, quote, skipBlanks, isBlank, hkey, hvalue]

private theorem readMembers_render (fuel : Nat) {d : Document} (hd : d ≠ []) (rest : List Char) :
    readMembers (d.length + fuel + 1) (renderMembers d ++ '\x7d' :: rest) =
      some (d.values, rest) := by
  induction d with
  | nil => exact absurd rfl hd
  | cons member others ih =>
      cases others with
      | nil =>
          rw [show [member].length + fuel + 1 = fuel + 2 by simp; omega]
          exact readMembers_last fuel member rest
      | cons next others =>
          have htail := ih (by simp)
          have hlength : (member :: next :: others).length + fuel + 1 =
              others.length + fuel + 1 + 2 := by
            simp only [List.length_cons]
            omega
          have hlength' : (next :: others).length + fuel + 1 = others.length + fuel + 1 + 1 := by
            simp only [List.length_cons]
            omega
          rw [hlength'] at htail
          rw [hlength, renderMembers, List.append_assoc, List.cons_append, readMembers_cons, htail]
          · rfl
          · simp

private theorem length_le_renderMembers (d : Document) : d.length ≤ (renderMembers d).length := by
  induction d with
  | nil => exact Nat.zero_le _
  | cons member others ih =>
      cases others with
      | nil => simp [renderMembers, renderMember, quote]
      | cons next others =>
          simp only [renderMembers, List.length_append, List.length_cons] at ih ⊢
          omega

private theorem renderMembers_leading {d : Document} (hd : d ≠ []) :
    ∃ tail, renderMembers d = '"' :: tail := by
  cases d with
  | nil => exact absurd rfl hd
  | cons member others =>
      cases others with
      | nil => exact ⟨_, rfl⟩
      | cons next others => exact ⟨_, rfl⟩

private theorem readValue_object (fuel : Nat) (d : Document) (rest : List Char) :
    readValue (d.length + fuel + 2) (d.render ++ rest) = some (.object d.values, rest) := by
  by_cases hd : d = []
  · subst hd
    simp [Document.render, renderMembers, readValue, skipBlanks, isBlank, Document.values]
  · have hread := readMembers_render fuel hd rest
    obtain ⟨tail, htail⟩ := renderMembers_leading hd
    rw [htail] at hread
    simp only [List.cons_append] at hread
    simp [Document.render, readValue, skipBlanks, isBlank, htail, hread]

/-- A rendered document is read as its members, and nothing is left over. -/
theorem read_render (d : Document) :
    read (String.ofList d.render) = some (.object d.values) := by
  have hmembers := length_le_renderMembers d
  have hrender : d.render.length = (renderMembers d).length + 2 := by
    simp [Document.render]
  have hfuel : 2 * d.render.length + 2 = d.length + (2 * d.render.length - d.length) + 2 := by
    omega
  have hread := readValue_object (2 * d.render.length - d.length) d []
  rw [List.append_nil, ← hfuel] at hread
  simp only [read, String.toList_ofList, hread]
  rfl

end Json

end LogShipping
