import LogShipping.Proofs.Gelf.Faithful
import LogShipping.Proofs.Numeric.Rounding
import Mathlib.Algebra.Order.Round
import Mathlib.Data.Rat.Floor

/-!
The milliseconds of a record can be told from its text. Half the distance between doubles is at most
`2 ^ (-11)` seconds in the span of the calendar, just less than half a millisecond, and the time is
rounded only once.
-/

namespace LogShipping

def Moment.truncated (t : Moment) : Rat :=
  t.millis / 1000

private theorem Moment.millis_eq_floor (t : Moment) :
    t.millis = ⌊((t.seconds : Rat) + t.nanos / 10 ^ 9) * 1000⌋ := by
  have hparts : ((t.seconds : Rat) + t.nanos / 10 ^ 9) * 1000 =
      (t.seconds * 1000 : Int) + (t.nanos : Rat) / (1000000 : Nat) := by
    push_cast
    ring
  rw [hparts, Int.floor_intCast_add, Rat.floor_natCast_div_natCast]
  rfl

private theorem Moment.InSpan.abs_truncated_lt {t : Moment} (h : t.InSpan) :
    |t.truncated| < 2 ^ 43 := by
  obtain ⟨hfirst, hlast, hnanos⟩ := h
  have hlow : -(2 ^ 43 * 1000) < t.millis := by
    unfold millis
    omega
  have hhigh : t.millis < 2 ^ 43 * 1000 := by
    unfold millis
    omega
  have hlowCast : (-(2 ^ 43 * 1000) : Rat) < t.millis := by exact_mod_cast hlow
  have hhighCast : (t.millis : Rat) < 2 ^ 43 * 1000 := by exact_mod_cast hhigh
  rw [truncated, abs_lt]
  exact ⟨by linarith, by linarith⟩

namespace Gelf

open Json

/-- The whole milliseconds are a double, so the only rounding is that of the division. -/
theorem timestamp_rounds {t : Moment} (h : t.InSpan) :
    ∃ v, (timestamp t).toRat? = some v ∧ Binary64.RoundsTo t.truncated (timestamp t) ∧
      |v - t.truncated| < 1 / 2000 := by
  obtain ⟨m, q, hdecode, hmagnitude⟩ := Binary64.decode_ofInt h.natAbs_millis_lt
  have hsigned : Binary64.sign (t.millis < 0) * (Binary64.magnitude m q / (1000 : Nat)) =
      t.truncated := by
    rw [← mul_div_assoc, hmagnitude, Binary64.sign_mul_natAbs]
    rfl
  have hbound : Binary64.magnitude m q / (1000 : Nat) < 2 ^ ((-10 : Int) + 53) := by
    have habs : Binary64.magnitude m q / (1000 : Nat) = |t.truncated| := by
      rw [hmagnitude, Nat.cast_natAbs, Int.cast_abs, Moment.truncated, abs_div]
      norm_num
    rw [habs]
    exact_mod_cast h.abs_truncated_lt
  obtain ⟨m', q', hresult, hrounds, herror⟩ :=
    Binary64.divNat_rounds hdecode (show 0 < 1000 by decide) (by decide) (by decide) hbound
  rw [hsigned] at hrounds
  refine ⟨_, Binary64.toRat?_of_decode hresult, hrounds, ?_⟩
  rw [← hsigned, Binary64.abs_sign_sub, abs_sub_comm]
  calc
    _ ≤ (2 : Rat) ^ (-10 : Int) / 2 := herror
    _ < 1 / 2000 := by norm_num

private theorem timestamp_lt {t later : Moment} (h : t.InSpan) (hlater : later.InSpan)
    (hlt : t.millis < later.millis) :
    ∃ v v', (timestamp t).toRat? = some v ∧ (timestamp later).toRat? = some v' ∧ v < v' := by
  obtain ⟨v, hvalue, -, hnear⟩ := timestamp_rounds h
  obtain ⟨v', hvalue', -, hnear'⟩ := timestamp_rounds hlater
  have hbelow := (abs_lt.mp hnear).2
  have habove := (abs_lt.mp hnear').1
  have hstep : (t.millis : Rat) + 1 ≤ later.millis := by exact_mod_cast hlt
  have hapart : t.truncated + 1 / 1000 ≤ later.truncated := by
    rw [Moment.truncated, Moment.truncated]
    linarith
  exact ⟨v, v', hvalue, hvalue', by linarith⟩

private theorem round_of_near {t : Moment} {v : Rat} (h : |v - t.truncated| < 1 / 2000) :
    round (1000 * v) = t.millis := by
  obtain ⟨habove, hbelow⟩ := abs_lt.mp h
  rw [Moment.truncated] at habove hbelow
  rw [round_eq_iff]
  exact ⟨by linarith, by linarith⟩

private theorem exists_timestamp_member {r : Record} (h : r.time.InSpan) :
    ∃ members token w, read (encode r) = some (.object members) ∧
      (members.map Prod.fst).Nodup ∧ ("timestamp", .number token) ∈ members ∧
      valueOf? token = some w ∧ Binary64.RoundsTo w (timestamp r.time) := by
  have hdecodes := decodes_document h
  obtain ⟨token, hmember, hcarries⟩ := hdecodes.time
  cases hcarries with
  | finite hvalue hrounds =>
      exact ⟨_, token, _, read_render (document r), hdecodes.nodup, hmember, hvalue, hrounds⟩

/-- The time that a record is written with is the double nearest to its time in whole milliseconds,
and the number in the text is read as that double. It is so near that the milliseconds can be had
back from it, and later milliseconds have a larger one. -/
theorem timestamp_keeps_millis (r : Record) (hspan : r.time.InSpan) :
    r.time.millis = ⌊((r.time.seconds : Rat) + r.time.nanos / 10 ^ 9) * 1000⌋ ∧
      (Binary64.ofInt r.time.millis).toRat? = some (r.time.millis : Rat) ∧
      ∃ v, (timestamp r.time).toRat? = some v ∧
        Binary64.RoundsTo (r.time.millis / 1000) (timestamp r.time) ∧
        |v - r.time.millis / 1000| < 1 / 2000 ∧
        round (1000 * v) = r.time.millis ∧
        (∀ later : Record, later.time.InSpan → r.time.millis < later.time.millis →
          ∃ v', (timestamp later.time).toRat? = some v' ∧ v < v') ∧
        ∃ members token w, read (encode r) = some (.object members) ∧
          (members.map Prod.fst).Nodup ∧ ("timestamp", .number token) ∈ members ∧
          valueOf? token = some w ∧ Binary64.RoundsTo w (timestamp r.time) := by
  refine ⟨r.time.millis_eq_floor, Binary64.toRat?_ofInt hspan.natAbs_millis_lt, ?_⟩
  obtain ⟨v, hvalue, hrounds, hnear⟩ := timestamp_rounds hspan
  refine ⟨v, hvalue, hrounds, hnear, round_of_near hnear, ?_, exists_timestamp_member hspan⟩
  intro later hlater hlt
  obtain ⟨w, v', hfirst, hsecond, hless⟩ := timestamp_lt hspan hlater hlt
  rw [hvalue, Option.some.injEq] at hfirst
  exact ⟨v', hsecond, hfirst ▸ hless⟩

/-- Two neighbouring milliseconds of a leap second, where the doubles are farthest apart. -/
theorem timestamp_keeps_millis_of_first_day :
    let r : Record :=
      { severity := .info, message := "m"
        origin := { host := "db-1", processId := 4242, processName := "storaged" }
        thread := "t", time := { seconds := -8334601228800, nanos := 1998999999 }, fields := [] }
    let later : Record := { r with time := { seconds := -8334601228800, nanos := 1999999999 } }
    ∃ v v', (timestamp r.time).toRat? = some v ∧ (timestamp later.time).toRat? = some v' ∧
      v < v' ∧ round (1000 * v) = -8334601228798002 ∧ round (1000 * v') = -8334601228798001 := by
  intro r later
  have hspan : r.time.InSpan := ⟨by decide, by decide, by decide⟩
  have hlater : later.time.InSpan := ⟨by decide, by decide, by decide⟩
  obtain ⟨-, -, v, hvalue, -, -, hround, hlt, -⟩ := timestamp_keeps_millis r hspan
  obtain ⟨-, -, w, hvalue', -, -, hround', -, -⟩ := timestamp_keeps_millis later hlater
  obtain ⟨v', hsame, hless⟩ := hlt later hlater (by decide)
  rw [hvalue', Option.some.injEq] at hsame
  exact ⟨v, w, hvalue, hvalue', hsame ▸ hless, hround.trans (by decide), hround'.trans (by decide)⟩

end Gelf

end LogShipping
