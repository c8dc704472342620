import LogShipping.Proofs.Json.RoundTrip
import LogShipping.Text.Utf8

namespace LogShipping

namespace Text

private theorem zero_ne_ofNat {n : Nat} (hpos : 0 < n) (hlt : n < 256) :
    (0 : UInt8) ≠ UInt8.ofNat n := by
  intro h
  have hvalue : 0 = n % 256 := congrArg UInt8.toNat h
  omega

private theorem zero_notMem_utf8EncodeChar {c : Char} (h : c.toNat ≠ 0) :
    (0 : UInt8) ∉ String.utf8EncodeChar c := by
  have hvalue : c.val.toNat ≠ 0 := h
  simp only [String.utf8EncodeChar]
  split
  · simp only [List.mem_singleton]
    exact zero_ne_ofNat (by omega) (by omega)
  split
  · simp only [List.mem_cons, List.not_mem_nil, or_false, not_or]
    exact ⟨zero_ne_ofNat (by omega) (by omega), zero_ne_ofNat (by omega) (by omega)⟩
  split
  · simp only [List.mem_cons, List.not_mem_nil, or_false, not_or]
    exact ⟨zero_ne_ofNat (by omega) (by omega), zero_ne_ofNat (by omega) (by omega),
      zero_ne_ofNat (by omega) (by omega)⟩
  · simp only [List.mem_cons, List.not_mem_nil, or_false, not_or]
    exact ⟨zero_ne_ofNat (by omega) (by omega), zero_ne_ofNat (by omega) (by omega),
      zero_ne_ofNat (by omega) (by omega), zero_ne_ofNat (by omega) (by omega)⟩

theorem zero_notMem_utf8 {text : String} (h : ∀ c ∈ text.toList, c.toNat ≠ 0) :
    (0 : UInt8) ∉ utf8 text := by
  intro hmem
  obtain ⟨c, hc, hbyte⟩ := List.mem_flatMap.mp hmem
  exact zero_notMem_utf8EncodeChar (h c hc) hbyte

end Text

namespace Json

def NoControl (s : List Char) : Prop :=
  ∀ c ∈ s, 0x20 ≤ c.toNat

private theorem NoControl.append {s t : List Char} (hs : NoControl s) (ht : NoControl t) :
    NoControl (s ++ t) := by
  intro c hmem
  rcases List.mem_append.mp hmem with hleft | hright
  · exact hs c hleft
  · exact ht c hright

private theorem NoControl.cons {c : Char} {s : List Char} (hc : 0x20 ≤ c.toNat) (hs : NoControl s) :
    NoControl (c :: s) := by
  intro d hmem
  rcases List.mem_cons.mp hmem with rfl | hrest
  · exact hc
  · exact hs d hrest

private theorem noControl_nil : NoControl [] := by
  intro c hmem
  cases hmem

private theorem noControl_of_isDigit {digits : List Char} (h : ∀ c ∈ digits, isDigit c = true) :
    NoControl digits := by
  intro c hmem
  have hdigit := h c hmem
  simp only [isDigit, decide_eq_true_eq] at hdigit
  exact Nat.le_trans (by decide) hdigit.1

private theorem IsUnsigned.noControl {token : List Char} {v : Rat} (h : IsUnsigned token v) :
    NoControl token := by
  cases h with
  | parts hwhole hfraction hexponent =>
      refine (NoControl.append ?_ ?_).append ?_
      · cases hwhole with
        | zero => exact noControl_nil.cons (by decide)
        | leading first nonzero digits =>
            exact (noControl_of_isDigit digits).cons
              (noControl_of_isDigit (by simpa using first) _ (List.mem_singleton_self _))
      · cases hfraction with
        | absent => exact noControl_nil
        | point hdigits => exact (noControl_of_isDigit hdigits.all).cons (by decide)
      · cases hexponent with
        | absent => exact noControl_nil
        | power signed hdigits =>
            have hrest := noControl_of_isDigit hdigits.all
            rcases signed with rfl | rfl
            · exact (hrest.cons (by decide)).cons (by decide)
            · exact (hrest.cons (by decide)).cons (by decide)

private theorem Denotes.noControl {token : List Char} {v : Rat} (h : Denotes token v) :
    NoControl token := by
  cases h with
  | positive hunsigned => exact hunsigned.noControl
  | negative hunsigned => exact hunsigned.noControl.cons (by decide)

private theorem hexDigit_not_control : ∀ d < 16, 0x20 ≤ (hexDigit d).toNat := by
  decide

/-- The marks of short escapes are letters, quotes and strokes. -/
theorem mark_not_control {mark c : Char} (h : unescape? mark = some c) : 0x20 ≤ mark.toNat := by
  have hmark : mark ∈ ['"', '\\', '/', 'b', 'f', 'n', 'r', 't'] := by
    unfold unescape? at h
    grind
  have hall : ∀ d ∈ ['"', '\\', '/', 'b', 'f', 'n', 'r', 't'], 0x20 ≤ d.toNat := by simp
  exact hall mark hmark

private theorem Escaped.noControl {c : Char} {chars : List Char} (h : Escaped c chars) :
    NoControl chars := by
  cases h with
  | short meaning hmark =>
      exact (noControl_nil.cons (mark_not_control meaning)).cons (by decide)
  | control low =>
      have hhigh := hexDigit_not_control (c.toNat / 16) (by omega)
      have hlow := hexDigit_not_control (c.toNat % 16) (Nat.mod_lt _ (by decide))
      exact ((((noControl_nil.cons hlow).cons hhigh).cons (by decide)).cons (by decide)).cons
        (by decide) |>.cons (by decide)
  | plain hquote hbackslash high => exact noControl_nil.cons (Nat.le_of_not_lt high)

private theorem noControl_quote (s : String) : NoControl (quote s) := by
  have hescaped : NoControl (s.toList.flatMap escape) := by
    intro c hmem
    obtain ⟨d, -, hd⟩ := List.mem_flatMap.mp hmem
    exact (escaped_escape d).noControl c hd
  exact (hescaped.cons (by decide)).append (noControl_nil.cons (by decide))

private theorem Scalar.noControl_render (scalar : Scalar) : NoControl scalar.render := by
  cases scalar with
  | text s => exact noControl_quote s
  | whole n => exact (denotes_signedDigits n).noControl
  | real x =>
      cases hfinite : NumberStyle.document.finite? x with
      | none =>
          simp only [Scalar.render, hfinite]
          exact noControl_quote x.specialText
      | some token =>
          obtain ⟨v, hdenotes, -⟩ := NumberStyle.denotes_of_finite? hfinite
          simp only [Scalar.render, hfinite]
          exact hdenotes.noControl

private theorem noControl_renderMember (member : String × Scalar) : NoControl
    (renderMember member) :=
  (noControl_quote member.1).append ((Scalar.noControl_render member.2).cons (by decide))

private theorem noControl_renderMembers (d : Document) : NoControl (renderMembers d) := by
  induction d with
  | nil => exact noControl_nil
  | cons member others ih =>
      cases others with
      | nil => exact noControl_renderMember member
      | cons next others =>
          exact (noControl_renderMember member).append (ih.cons (by decide))

theorem Document.noControl_render (d : Document) : NoControl d.render :=
  ((noControl_renderMembers d).cons (by decide)).append (noControl_nil.cons (by decide))

end Json

end LogShipping
