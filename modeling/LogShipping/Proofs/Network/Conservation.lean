import LogShipping.Device.Scripted
import LogShipping.Network.Traffic
import LogShipping.Proofs.Json.NoControl
import LogShipping.Proofs.Network.Splitting

namespace LogShipping

namespace Text

theorem zero_mem_utf8_iff {text : String} : 0 ∈ utf8 text ↔ '\x00' ∈ text.toList := by
  constructor
  · contrapose
    intro hfree
    apply zero_notMem_utf8
    intro c hc hzero
    obtain rfl : c = '\x00' := Char.toNat_inj.mp hzero
    exact hfree hc
  · intro hmem
    exact List.mem_flatMap.mpr ⟨'\x00', hmem, by decide⟩

end Text

namespace Network

namespace FrameBuffer

open Device (Recorded)

variable {μ : Type} [Device μ]

private theorem write_took_zero {b : FrameBuffer} (h : b.bytes ≠ []) :
    b.write (.took 0) = (b, .error .nothingAccepted) := by
  simp [write, isEmpty, h]

private theorem write_took_succ {b : FrameBuffer} (h : b.bytes ≠ []) (count : Nat) :
    b.write (.took (count + 1)) =
      (⟨b.bytes.drop (count + 1)⟩, .ok (b.bytes.take (count + 1))) := by
  simp [write, isEmpty, h]

private theorem write_failed {b : FrameBuffer} (h : b.bytes ≠ []) (kind : IoError.Kind) :
    b.write (.failed kind) =
      (b, if kind.isTransient then .ok [] else .error (.bare kind)) := by
  simp [write, isEmpty, h]

private theorem write_recorded (bytes : List UInt8) (device : μ) :
    (Device.write bytes (Recorded.of device)).2 =
      { Recorded.of (Device.write bytes device).2 with
        taken := match (Device.write bytes device).1 with
          | .took count => bytes.take count
          | .failed _ => [] } := rfl

private theorem attempt_of_empty {b : FrameBuffer} (h : b.bytes = []) (device : μ) :
    Attempt.of device b = ⟨b, device, .ok 0, b, .of device⟩ := by
  simp [Attempt.of, writeTo, isEmpty, h]

private theorem attempt_of_nonempty {b : FrameBuffer} (h : b.bytes ≠ []) (device : μ) :
    Attempt.of device b =
      ⟨b, device, (b.write (Device.write b.bytes device).1).2.map List.length,
        (b.write (Device.write b.bytes device).1).1,
        (Device.write b.bytes (Recorded.of device)).2⟩ := by
  have hfull : b.isEmpty = false := by simp [isEmpty, h]
  simp only [Attempt.of, writeTo, hfull]
  rfl

private theorem attempt_of_took_zero {b : FrameBuffer} (h : b.bytes ≠ []) {device : μ}
    (hreply : (Device.write b.bytes device).1 = .took 0) :
    Attempt.of device b =
      ⟨b, device, .error .nothingAccepted, b, .of (Device.write b.bytes device).2⟩ := by
  rw [attempt_of_nonempty h, write_recorded, hreply, write_took_zero h]
  rfl

private theorem attempt_of_took_succ {b : FrameBuffer} (h : b.bytes ≠ []) {device : μ} {count : Nat}
    (hreply : (Device.write b.bytes device).1 = .took (count + 1)) :
    Attempt.of device b =
      ⟨b, device, .ok (b.bytes.take (count + 1)).length, ⟨b.bytes.drop (count + 1)⟩,
        { Recorded.of (Device.write b.bytes device).2 with
          taken := b.bytes.take (count + 1) }⟩ := by
  rw [attempt_of_nonempty h, write_recorded, hreply, write_took_succ h]
  rfl

private theorem attempt_of_failed {b : FrameBuffer} (h : b.bytes ≠ []) {device : μ}
    {kind : IoError.Kind} (hreply : (Device.write b.bytes device).1 = .failed kind) :
    Attempt.of device b =
      ⟨b, device, if kind.isTransient then .ok 0 else .error (.bare kind), b,
        .of (Device.write b.bytes device).2⟩ := by
  rw [attempt_of_nonempty h, write_recorded, hreply, write_failed h]
  cases kind.isTransient <;> rfl

/-- What a write returns, what the device took in it, and what it leaves. -/
inductive Course (b : FrameBuffer) : Except IoError Nat → List UInt8 → FrameBuffer → Prop
  | send (taken rest : List UInt8) (split : taken ++ rest = b.bytes) :
      Course b (.ok taken.length) taken ⟨rest⟩
  | fail (e : IoError) : Course b (.error e) [] b

private theorem course_of (device : μ) (b : FrameBuffer) :
    Course b (Attempt.of device b).result (Attempt.of device b).recorded.taken
      (Attempt.of device b).after := by
  have hidle : Course b (.ok 0) [] b := .send [] b.bytes rfl
  by_cases hempty : b.bytes = []
  · rw [attempt_of_empty hempty]
    exact hidle
  · cases hreply : (Device.write b.bytes device).1 with
    | took count =>
        cases count with
        | zero =>
            rw [attempt_of_took_zero hempty hreply]
            exact .fail .nothingAccepted
        | succ count =>
            rw [attempt_of_took_succ hempty hreply]
            exact .send _ _ (List.take_append_drop (count + 1) b.bytes)
    | failed kind =>
        rw [attempt_of_failed hempty hreply]
        cases kind.isTransient with
        | true => exact hidle
        | false => exact .fail (.bare kind)

private theorem Course.length_taken {b rest : FrameBuffer} {count : Nat} {taken : List UInt8}
    (h : Course b (.ok count) taken rest) : taken.length = count := by
  cases h
  rfl

private theorem Course.unchanged {b rest : FrameBuffer} {e : IoError} {taken : List UInt8}
    (h : Course b (.error e) taken rest) : taken = [] ∧ rest = b := by
  cases h
  exact ⟨rfl, rfl⟩

private theorem Course.taken_append {b rest : FrameBuffer} {result : Except IoError Nat}
    {taken : List UInt8} (h : Course b result taken rest) : taken ++ rest.bytes = b.bytes := by
  cases h with
  | send taken rest split => exact split
  | fail e => rfl

structure Attempt.Sound (a : Attempt μ) : Prop where
  /-- An empty buffer leaves the device alone. -/
  idle : a.before.bytes = [] → a.result = .ok 0 ∧ a.recorded = .of a.device
  /-- Any other offers all its bytes once. -/
  asked : a.before.bytes ≠ [] →
    a.recorded.device = (Device.write a.before.bytes a.device).2
  ok : ∀ count, a.result = .ok count →
    a.recorded.taken.length = count ∧ a.recorded.taken ++ a.after.bytes = a.before.bytes
  error : ∀ e, a.result = .error e → a.recorded.taken = [] ∧ a.after = a.before
  starved : a.before.bytes ≠ [] → a.reply = .took 0 →
    ∃ e, a.result = .error e ∧ e.kind = .writeZero
  took : ∀ count, a.before.bytes ≠ [] → a.reply = .took count → 0 < count →
    a.result = .ok count
  failed : ∀ kind, a.before.bytes ≠ [] → a.reply = .failed kind →
    a.after = a.before ∧
      a.result = if kind = .wouldBlock ∨ kind = .interrupted then .ok 0 else .error (.bare kind)

private theorem sound_of [LawfulDevice μ] (device : μ) (b : FrameBuffer) :
    (Attempt.of device b).Sound := by
  have hcourse := course_of device b
  refine ⟨?_, ?_, ?_, ?_, ?_, ?_, ?_⟩
  · intro (hempty : b.bytes = [])
    rw [attempt_of_empty hempty]
    exact ⟨rfl, rfl⟩
  · intro (hfull : b.bytes ≠ [])
    rw [attempt_of_nonempty hfull]
    rfl
  · intro count hok
    rw [hok] at hcourse
    exact ⟨hcourse.length_taken, hcourse.taken_append⟩
  · intro e herror
    rw [herror] at hcourse
    exact hcourse.unchanged
  · intro (hfull : b.bytes ≠ []) (hreply : (Device.write b.bytes device).1 = .took 0)
    rw [attempt_of_took_zero hfull hreply]
    exact ⟨.nothingAccepted, rfl, rfl⟩
  · intro count (hfull : b.bytes ≠ [])
      (hreply : (Device.write b.bytes device).1 = .took count) hpos
    have hcount := LawfulDevice.count_le b.bytes device count hreply
    cases count with
    | zero => exact absurd hpos (Nat.lt_irrefl 0)
    | succ count =>
        rw [attempt_of_took_succ hfull hreply]
        exact congrArg Except.ok (List.length_take_of_le hcount)
  · intro kind (hfull : b.bytes ≠ []) (hreply : (Device.write b.bytes device).1 = .failed kind)
    rw [attempt_of_failed hfull hreply]
    exact ⟨rfl, by simp [IoError.Kind.isTransient]⟩

private theorem map_device_attempts (calls : List (Call μ)) (b : FrameBuffer) :
    (attempts calls b).map Attempt.device = calls.filterMap Call.device? := by
  induction calls generalizing b with
  | nil => rfl
  | cons call rest ih =>
      cases call with
      | push text => exact ih (b.push text)
      | write device => exact congrArg (device :: ·) (ih _)

private theorem sound_of_mem_attempts [LawfulDevice μ] {calls : List (Call μ)} {b : FrameBuffer}
    {a : Attempt μ} (h : a ∈ attempts calls b) : a.Sound := by
  induction calls generalizing b with
  | nil => cases h
  | cons call rest ih =>
      cases call with
      | push text => exact ih h
      | write device =>
          rcases List.mem_cons.mp h with rfl | hrest
          · exact sound_of device b
          · exact ih hrest

private theorem taken_append_afterCalls (calls : List (Call μ)) (b : FrameBuffer) :
    (attempts calls b).flatMap (fun a => a.recorded.taken) ++ (afterCalls calls b).bytes =
      b.bytes ++ (calls.filterMap Call.text?).flatMap frame := by
  induction calls generalizing b with
  | nil => simp [attempts, afterCalls]
  | cons call rest ih =>
      cases call with
      | push text =>
          rw [attempts, afterCalls, ih, bytes_push, List.append_assoc]
          rfl
      | write device =>
          have hmoved := (course_of device b).taken_append
          rw [attempts, afterCalls, List.flatMap_cons, List.append_assoc, ih, ← List.append_assoc,
            hmoved]
          rfl

/-- Whatever is put in and however the devices take it, the bytes they took and those still in the
buffer are the frames of the texts. When the buffer is empty, what was taken splits into the texts
and an empty rest just when no text holds U+0000. -/
theorem bytes_conserved [LawfulDevice μ] (calls : List (Call μ)) :
    let attempts := attempts calls .empty
    let left := afterCalls calls .empty
    let texts := calls.filterMap Call.text?
    let taken := attempts.flatMap fun a => a.recorded.taken
    attempts.map Attempt.device = calls.filterMap Call.device? ∧
      (∀ a ∈ attempts, a.Sound) ∧
      taken ++ left.bytes = texts.flatMap frame ∧
      (left.bytes = [] →
        (taken.splitOn delimiter = texts.map Text.utf8 ++ [[]] ↔
          ∀ text ∈ texts, '\x00' ∉ text.toList)) := by
  intro attempts left texts taken
  have hconserved : taken ++ left.bytes = texts.flatMap frame :=
    taken_append_afterCalls calls .empty
  refine ⟨map_device_attempts calls .empty, ?_, hconserved, ?_⟩
  · intro a hmem
    exact sound_of_mem_attempts hmem
  · intro hempty
    have hstream : taken = stream (texts.map Text.utf8) := by
      rw [← flatMap_frame, ← hconserved, hempty, List.append_nil]
    rw [hstream, splitOn_stream_iff, List.forall_mem_map]
    exact forall₂_congr fun text _ => not_congr Text.zero_mem_utf8_iff

/-- Two texts, one of them empty, taken in pieces by devices that also pause and fail; and a text
that cannot be found again. -/
theorem bytes_conserved_trickled :
    let calls : List (Call Device.Scripted) :=
      [.push "ab", .write { script := { short := some 1 } }, .push "",
        .write { script := { fails := some .wouldBlock } },
        .write { script := { takesNothing := true } },
        .write { script := { fails := some .brokenPipe } }, .write {}, .write {}]
    let torn : List (Call Device.Scripted) := [.push "a\x00b", .write {}]
    let taken := fun calls : List (Call Device.Scripted) =>
      (attempts calls .empty).flatMap fun a => a.recorded.taken
    (afterCalls calls .empty).bytes = [] ∧
      (taken calls).splitOn delimiter = [Text.utf8 "ab", Text.utf8 "", []] ∧
      (taken torn).splitOn delimiter ≠ [Text.utf8 "a\x00b", []] := by
  intro calls torn taken
  have hleft : (afterCalls calls .empty).bytes = [] := by decide
  have htorn : (afterCalls torn .empty).bytes = [] := by decide
  refine ⟨hleft, ?_, ?_⟩
  · exact ((bytes_conserved calls).2.2.2 hleft).mpr (by decide)
  · intro hsplit
    have hclean := ((bytes_conserved torn).2.2.2 htorn).mp hsplit
    exact absurd hclean (by decide)

end FrameBuffer

end Network

end LogShipping
