import LogShipping.Network.FrameBuffer
import Mathlib.Data.List.Infix

namespace LogShipping

namespace Network

def stream (texts : List (List UInt8)) : List UInt8 :=
  texts.flatMap (· ++ [delimiter])

theorem flatMap_frame (messages : List String) :
    messages.flatMap frame = stream (messages.map Text.utf8) := by
  rw [stream, List.flatMap_map]
  rfl

@[simp] theorem stream_cons (text : List UInt8) (texts : List (List UInt8)) :
    stream (text :: texts) = text ++ delimiter :: stream texts := by
  simp [stream]

private theorem notMem_of_mem_splitOn {bytes piece : List UInt8}
    (h : piece ∈ bytes.splitOn delimiter) : delimiter ∉ piece := by
  induction bytes generalizing piece with
  | nil =>
      obtain rfl : piece = [] := by simpa using h
      exact List.not_mem_nil
  | cons byte rest ih =>
      rw [List.splitOn_cons_eq_if_modifyHead] at h
      split at h
      · rcases List.mem_cons.mp h with rfl | hrest
        · exact List.not_mem_nil
        · exact ih hrest
      · rename_i hbyte
        obtain ⟨head, tail, hsplit⟩ :=
          List.exists_cons_of_ne_nil (List.splitOn_ne_nil delimiter rest)
        rw [hsplit, List.modifyHead_cons] at h
        rw [hsplit] at ih
        rcases List.mem_cons.mp h with rfl | htail
        · intro hmem
          rcases List.mem_cons.mp hmem with rfl | hhead
          · exact hbyte (beq_self_eq_true delimiter)
          · exact ih List.mem_cons_self hhead
        · exact ih (List.mem_cons_of_mem head htail)

/-- A part of a frame is a part of its text, or the whole frame with something behind it. -/
theorem prefix_frame_cases {text bytes rest : List UInt8}
    (h : bytes <+: text ++ delimiter :: rest) :
    bytes <+: text ∨ ∃ more, bytes = text ++ delimiter :: more ∧ more <+: rest := by
  obtain ⟨after, hafter⟩ := h
  rcases List.append_eq_append_iff.mp hafter with ⟨middle, htext, -⟩ | ⟨tail, rfl, htail⟩
  · exact .inl ⟨middle, htext.symm⟩
  · cases tail with
    | nil => exact .inl (by simp)
    | cons head more =>
        obtain ⟨rfl, hmore⟩ := List.cons.inj htail
        exact .inr ⟨more, rfl, ⟨after, hmore.symm⟩⟩

/-- Splitting a part of the stream gives texts from the front, none of them changed, and then a part
of the next. -/
theorem splitOn_of_prefix {texts : List (List UInt8)} (hclean : ∀ text ∈ texts, delimiter ∉ text)
    {bytes : List UInt8} (hbegins : bytes <+: stream texts) :
    ∃ m rest, bytes.splitOn delimiter = texts.take m ++ [rest] ∧ m ≤ texts.length ∧
      rest <+: texts[m]?.getD [] ∧ (bytes = stream texts → m = texts.length ∧ rest = []) := by
  induction texts generalizing bytes with
  | nil =>
      obtain rfl : bytes = [] := List.prefix_nil.mp hbegins
      exact ⟨0, [], List.splitOn_nil _, Nat.le_refl _, List.nil_prefix, fun _ => ⟨rfl, rfl⟩⟩
  | cons text texts ih =>
      have htext : delimiter ∉ text := hclean text List.mem_cons_self
      rw [stream_cons] at hbegins ⊢
      rcases prefix_frame_cases hbegins with hpart | ⟨more, rfl, hmore⟩
      · have hbytes : delimiter ∉ bytes := fun hmem => htext (hpart.subset hmem)
        refine ⟨0, bytes, List.splitOn_eq_singleton hbytes, Nat.zero_le _, hpart, ?_⟩
        intro hall
        rw [hall] at hbytes
        simp at hbytes
      · have hrest := ih (fun other hmem => hclean other (List.mem_cons_of_mem _ hmem)) hmore
        obtain ⟨m, rest, hsplit, hm, hpart, hwhole⟩ := hrest
        refine ⟨m + 1, rest, ?_, Nat.succ_le_succ hm, hpart, ?_⟩
        · rw [List.splitOn_append_cons_self_of_not_mem htext, hsplit]
          rfl
        · intro hall
          obtain ⟨rfl, rfl⟩ := hwhole (by simpa using hall)
          exact ⟨rfl, rfl⟩

theorem splitOn_stream_iff (texts : List (List UInt8)) :
    (stream texts).splitOn delimiter = texts ++ [[]] ↔ ∀ text ∈ texts, delimiter ∉ text := by
  constructor
  · intro hsplit text htext
    have hpiece : text ∈ (stream texts).splitOn delimiter := by
      rw [hsplit]
      exact List.mem_append_left _ htext
    exact notMem_of_mem_splitOn hpiece
  · intro hclean
    obtain ⟨m, rest, hsplit, -, -, hwhole⟩ := splitOn_of_prefix hclean (List.prefix_refl _)
    obtain ⟨rfl, rfl⟩ := hwhole rfl
    rw [hsplit, List.take_length]

end Network

end LogShipping
