import SeriesClient.Proofs.Number.Truncation
import SeriesClient.Timestamp

set_option relaxedAutoImplicit false
set_option autoImplicit false

/-!
# Counts of ticks are rounded down

Every conversion of a timestamp cuts off towards zero, but for counts of ticks that are finer than a
nanosecond: these are rounded down. Before 1970 that is one nanosecond off, unless there is nothing
to round. And a count that denotes no instant is converted to a number, as if it denoted one.

## Main definitions

* `SeriesClient.TickUnit.exponent?` — a unit as a power of ten of a second.
* `SeriesClient.Ticks.exactNanos` — the nanoseconds of a count, with their fraction.

## Main results

* `SeriesClient.Ticks.nanosOf_eq_floor` — the nanoseconds of a count are rounded down.
* `SeriesClient.Timestamp.ticks_roundedDown` — what an application and a column get for a count.

## Design

The exact value of a count is a rational number, found from the power of ten that the name of its
unit stands for; how many ticks of the unit the program counts to a nanosecond does not occur in it.
-/

namespace SeriesClient

/-- The second and the units below it as powers of ten of a second. -/
def TickUnit.exponent? : TickUnit → Option Int
  | second => some 0
  | milli => some (-3)
  | micro => some (-6)
  | nano => some (-9)
  | pico => some (-12)
  | femto => some (-15)
  | atto => some (-18)
  | year | month | week | day | hour | minute => none

namespace Ticks

/-- The nanoseconds of a count of ticks, with their fraction; there are `10 ^ 9` in a second. -/
def exactNanos (count exponent : Int) : ℚ :=
  count * 10 ^ exponent * 10 ^ 9

/-- A unit is a whole number of nanoseconds, or a whole number of it is a nanosecond. -/
lemma exactNanos_size {u : TickUnit} {e : Int} (hu : u.exponent? = some e) (count : Int) :
    (∃ n : Int, u.size = .nanos n ∧ exactNanos count e = (count * n : Int)) ∨
      ∃ d : Nat, u.size = .perNano d ∧ exactNanos count e = count / d := by
  unfold exactNanos
  cases u <;> cases hu
  case second => exact .inl ⟨1000000000, rfl, by push_cast; ring⟩
  case milli => exact .inl ⟨1000000, rfl, by push_cast; ring⟩
  case micro => exact .inl ⟨1000, rfl, by push_cast; ring⟩
  case nano => exact .inl ⟨1, rfl, by push_cast; ring⟩
  case pico => exact .inr ⟨1000, rfl, by push_cast; ring⟩
  case femto => exact .inr ⟨1000000, rfl, by push_cast; ring⟩
  case atto => exact .inr ⟨1000000000, rfl, by push_cast; ring⟩

/-- **The nanoseconds of a count are rounded down.** -/
theorem nanosOf_eq_floor {u : TickUnit} {e : Int} (hu : u.exponent? = some e) (count : Int) :
    nanosOf count u = ⌊exactNanos count e⌋ := by
  unfold nanosOf
  rcases exactNanos_size hu count with ⟨n, hsize, hexact⟩ | ⟨d, hsize, hexact⟩
  · rw [hsize, hexact, Int.floor_intCast]
  · rw [hsize, hexact, Rat.floor_intCast_div_natCast]

/-- A count is negative if and only if its nanoseconds are. -/
lemma exactNanos_nonneg_iff {count e : Int} : 0 ≤ exactNanos count e ↔ 0 ≤ count := by
  have hpower : (0 : ℚ) < 10 ^ e * 10 ^ 9 := mul_pos (zpow_pos (by norm_num) e) (by norm_num)
  rw [exactNanos, mul_assoc, mul_nonneg_iff_of_pos_right hpower, Int.cast_nonneg_iff]

/-- The nanoseconds of a count are rounded down if their exact number fits into 64 bits. -/
lemma toNanos_eq_floor {u : TickUnit} {e count : Int} (hu : u.exponent? = some e)
    (hlower : -2 ^ 63 ≤ exactNanos count e) (hupper : exactNanos count e < 2 ^ 63) :
    (⟨some count, u⟩ : Ticks).toNanos = ⌊exactNanos count e⌋ := by
  have hfloor := nanosOf_eq_floor hu count
  have hlower' : -2 ^ 63 ≤ ⌊exactNanos count e⌋ := Int.le_floor.mpr (by exact_mod_cast hlower)
  have hupper' : ⌊exactNanos count e⌋ < 2 ^ 63 := Int.floor_lt.mpr (by exact_mod_cast hupper)
  rw [toNanos_of_fits (by omega) (by omega), hfloor]

end Ticks

namespace Timestamp

open Ticks

/-- **Counts of ticks are rounded down.** Take a count of ticks of a second or of a unit below it
whose exact number of nanoseconds fits into 64 bits. An application and a column get that number
rounded down, whatever the unit they name. It is the number without its fraction if and only if the
count is not negative or there is no fraction; otherwise it is one less. Division towards zero would
cut the fraction off whenever it is applied to two numbers with this quotient. For no instant both
get the least number of 64 bits.

**Proof sketch.** The unit is a whole number of nanoseconds or a whole number of it is a nanosecond;
so the count is multiplied, or divided and rounded down (`nanosOf_eq_floor`), and as the result fits
it is not wrapped around. Then `floor_eq_towardZero_iff` tells where that cuts the fraction off. -/
theorem ticks_roundedDown {u : TickUnit} {e count : Int} (hu : u.exponent? = some e)
    (hlower : -2 ^ 63 ≤ exactNanos count e) (hupper : exactNanos count e < 2 ^ 63) (unit : Value)
    (cell : Option Precision) :
    (∃ nanos : Int,
      ofApplication (.ticks ⟨some count, u⟩) unit = .ok (some nanos) ∧
      ofCell? (.ticks ⟨some count, u⟩) cell = some nanos ∧
      nanos = ⌊exactNanos count e⌋ ∧
      (nanos = towardZero (exactNanos count e) ↔
        0 ≤ count ∨ ∃ whole : Int, (whole : ℚ) = exactNanos count e) ∧
      (count < 0 → (∀ whole : Int, (whole : ℚ) ≠ exactNanos count e) →
        nanos = towardZero (exactNanos count e) - 1)) ∧
    (∀ (n : Int) (d : Nat), 0 < d → (n : ℚ) / d = exactNanos count e →
      truncDiv n d = towardZero (exactNanos count e)) ∧
    ofApplication (.ticks ⟨none, u⟩) unit = .ok (some (-2 ^ 63)) ∧
    ofCell? (.ticks ⟨none, u⟩) cell = some (-2 ^ 63) := by
  have hnanos := toNanos_eq_floor hu hlower hupper
  refine ⟨⟨⌊exactNanos count e⌋, ?_, ?_, rfl, ?_, ?_⟩, ?_, rfl, rfl⟩
  · rw [ofApplication, hnanos]
  · rw [ofCell?, hnanos]
  · rw [floor_eq_towardZero_iff, exactNanos_nonneg_iff]
  · intro hneg hfraction
    have hneg' : exactNanos count e < 0 := by
      rw [← not_le, exactNanos_nonneg_iff]
      omega
    exact floor_eq_towardZero_sub_one hneg' hfraction
  · rintro n d hd hquotient
    rw [truncDiv_eq_towardZero n hd, hquotient]

/-- One and a half nanoseconds before 1970, and half a nanosecond after. -/
theorem ticks_roundedDown_halves :
    ofApplication (.ticks ⟨some (-1500), .pico⟩) .null = .ok (some (-2)) ∧
      truncDiv (-1500) (1000 : Nat) = -1 ∧
      ofCell? (.ticks ⟨some 500, .pico⟩) none = some 0 := by
  have hbefore : exactNanos (-1500) (-12) = -3 / 2 := by norm_num [exactNanos]
  have hafter : exactNanos 500 (-12) = 1 / 2 := by norm_num [exactNanos]
  have hbefore' : -2 ^ 63 ≤ exactNanos (-1500) (-12) ∧ exactNanos (-1500) (-12) < 2 ^ 63 := by
    rw [hbefore]
    norm_num
  have hafter' : -2 ^ 63 ≤ exactNanos 500 (-12) ∧ exactNanos 500 (-12) < 2 ^ 63 := by
    rw [hafter]
    norm_num
  obtain ⟨⟨nanos, hset, -, hnanos, -, -⟩, hquotient, -, -⟩ :=
    ticks_roundedDown (u := .pico) rfl hbefore'.1 hbefore'.2 .null none
  obtain ⟨⟨nanos', -, hcell, -, hcut, -⟩, -, -, -⟩ :=
    ticks_roundedDown (u := .pico) rfl hafter'.1 hafter'.2 .null none
  have hcut' := hcut.mpr (.inl (by omega))
  have hbelow : towardZero (-3 / 2) = -1 := by norm_num [towardZero]
  have habove : towardZero (1 / 2) = 0 := by norm_num [towardZero]
  rw [hbefore, show ⌊(-3 / 2 : ℚ)⌋ = -2 by norm_num] at hnanos
  rw [hafter, habove] at hcut'
  refine ⟨?_, ?_, ?_⟩
  · rw [hset, hnanos]
  · rw [hquotient (-1500) 1000 (by omega) (by norm_num [hbefore]), hbefore, hbelow]
  · rw [hcell, hcut']

/-- A picosecond before 1970 is converted to a nanosecond before 1970, not to 1970, and no instant
is converted to a number. -/
theorem not_cutOff_lastPico :
    TickUnit.pico.exponent? = some (-12) ∧ towardZero (exactNanos (-1) (-12)) = 0 ∧
      ofApplication (.ticks ⟨some (-1), .pico⟩) .null ≠ .ok (some 0) ∧
      ofCell? (.ticks ⟨some (-1), .pico⟩) none ≠ some 0 ∧
      ofApplication (.ticks ⟨none, .nano⟩) .null ≠ .ok none ∧
      ofCell? (.ticks ⟨none, .nano⟩) none ≠ none := by
  have hexact : exactNanos (-1) (-12) = -1 / 1000 := by norm_num [exactNanos]
  have hnanos : (⟨some (-1), .pico⟩ : Ticks).toNanos = -1 := by decide
  refine ⟨rfl, ?_, ?_, ?_, ?_, ?_⟩
  · rw [hexact]
    norm_num [towardZero]
  · rw [ofApplication, hnanos]
    simp
  · rw [ofCell?, hnanos]
    simp
  · simp [ofApplication]
  · simp [ofCell?]

end Timestamp

end SeriesClient
