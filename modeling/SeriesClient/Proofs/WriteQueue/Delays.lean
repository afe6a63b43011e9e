import SeriesClient.Proofs.Number.Doubling
import SeriesClient.WriteQueue.Retry

set_option relaxedAutoImplicit false
set_option autoImplicit false

/-!
# How long a writer waits

After a failed attempt a writer waits for as long as the server asks for, or else twice as long as
after the attempt before, and never longer than the greatest delay. What the server asks for is
taken as it is, so that it may be less than nothing or no number at all. And the power of two by
which the delay has grown is computed before the greatest delay is looked at, so that it becomes too
large for a double in the end.

## Main definitions

* `SeriesClient.Extended.IsSmaller` — the smaller of two numbers.
* `SeriesClient.Extended.Within` — a number from zero to a limit.

## Main results

* `SeriesClient.Backoff.capped_outcome` — a delay is capped by the limit.
* `SeriesClient.Backoff.delay_outcome` — the delay after each attempt and failure.
* `SeriesClient.Backoff.not_delayed_late` — an attempt after which there is no delay.

## Design

The limit is any value that is a number, the interval a double.
-/

namespace SeriesClient

namespace Extended

/-- A number is the smaller of two: it is one of them, and neither is below it. -/
structure IsSmaller (e a b : Extended) : Prop where
  /-- It is one of the two. -/
  eq_or_eq : e = a ∨ e = b
  /-- The first one is not below it. -/
  not_lt_left : a.lt e = false
  /-- The second one is not below it. -/
  not_lt_right : b.lt e = false

/-- A number is not below zero and not above a limit. -/
structure Within (e limit : Extended) : Prop where
  /-- It is not below zero. -/
  isNonneg : e.IsNonneg
  /-- It is not above the limit. -/
  not_lt : limit.lt e = false

variable {a b c : Extended}

/-- No number is below itself. -/
lemma lt_irrefl (a : Extended) : a.lt a = false := by
  rcases a with _ | _ | _ <;> simp [lt]

/-- The order of numbers is asymmetric. -/
lemma lt_asymm (h : a.lt b = true) : b.lt a = false := by
  rcases a with _ | _ | _ <;> rcases b with _ | _ | _ <;> simp_all [lt]
  exact le_of_lt h

/-- The order of numbers is transitive. -/
lemma lt_trans (hab : a.lt b = true) (hbc : b.lt c = true) : a.lt c = true := by
  rcases a with _ | _ | _ <;> rcases b with _ | _ | _ <;> rcases c with _ | _ | _ <;>
    simp_all [lt]
  exact hab.trans hbc

/-- What is below a number that is below zero is below zero, too. -/
lemma IsNonneg.not_lt (ha : a.IsNonneg) (hb : ¬ b.IsNonneg) : a.lt b = false := by
  rcases hab : a.lt b with _ | _
  · rfl
  · refine absurd ⟨?_, ?_⟩ hb
    · rintro rfl
      cases a <;> nomatch hab
    · rcases hzero : b.lt (.rational 0) with _ | _
      · rfl
      · exact absurd (lt_trans hab hzero) (by rw [ha.2]; exact Bool.false_ne_true)

end Extended

/-- Values that are numbers are compared by these. -/
lemma Value.less?_of_number {v w : Value} {a b : Extended} (hv : v.number? = some a)
    (hw : w.number? = some b) : v.less? w = some (a.lt b) := by
  unfold less?
  split
  · nomatch hv
  · nomatch hv
  · nomatch hv
  · nomatch hv
  · rw [hv, hw]

namespace Backoff

variable {b : Backoff} {limit : Extended} {v : Value} {e : Extended}

/-- A delay is capped by comparing it with the limit. -/
lemma capped_eq (hlimit : b.limit.number? = some limit) (hv : v.number? = some e) :
    b.capped v = .ok (if limit.lt e then b.limit else v) := by
  rw [capped, Value.less?_of_number hlimit hv]
  cases limit.lt e <;> rfl

/-- **A delay that is not below zero is capped by the limit**: what comes out is the smaller of the
two. -/
theorem capped_outcome (hlimit : b.limit.number? = some limit) (hnonneg : limit.IsNonneg)
    (hv : v.number? = some e) (he : e.IsNonneg) :
    ∃ d delay, b.capped v = .ok d ∧ d.number? = some delay ∧ delay.IsSmaller e limit ∧
      delay.Within limit := by
  rw [capped_eq hlimit hv]
  rcases hless : limit.lt e with _ | _
  · exact ⟨v, e, rfl, hv, ⟨.inl rfl, Extended.lt_irrefl e, hless⟩, ⟨he, hless⟩⟩
  · exact ⟨b.limit, limit, rfl, hlimit,
      ⟨.inr rfl, Extended.lt_asymm hless, Extended.lt_irrefl limit⟩,
      ⟨hnonneg, Extended.lt_irrefl limit⟩⟩

/-- What is asked for stays as it is if it is below zero or no number. -/
lemma capped_of_not_nonneg (hlimit : b.limit.number? = some limit) (hnonneg : limit.IsNonneg)
    (hv : v.number? = some e) (he : ¬ e.IsNonneg) : b.capped v = .ok v := by
  rw [capped_eq hlimit hv, hnonneg.not_lt he, if_neg Bool.false_ne_true]

/-- A delay that is a double is multiplied by a power of two, if that is a double, too. -/
lemma doubled_eq (x : Floating) (attempt : Nat) :
    (Value.float x).doubled attempt =
      if attempt < 1024 then .ok (.float (Format.double.multiply x (.twoPow attempt)))
      else .error (.range .doubleOfInteger) := by
  rw [Value.doubled, Value.operand?]
  dsimp only
  rw [integerToDouble_two_pow]
  split <;> rfl

/-- Doubling keeps a number from being below zero. -/
lemma isNonneg_doubled (h : e.IsNonneg) (times : Nat) : (e.doubled times).IsNonneg := by
  obtain ⟨hordered, hnonneg⟩ := h
  rcases e with _ | negative | r
  · exact absurd rfl hordered
  · exact ⟨hordered, hnonneg⟩
  · have hr : (0 : ℚ) ≤ r := not_lt.mp (of_decide_eq_false hnonneg)
    rw [Extended.doubled]
    split
    · exact ⟨by simp, decide_eq_false (not_lt.mpr (by positivity))⟩
    · exact ⟨by simp, rfl⟩

/-- **The delay after each attempt and failure**, for an interval and a limit that are not below
zero. If the server asks for a delay, it is the smaller of that and the limit, unless what it asks
for is below zero or no number, which comes out as it is. If it does not, the delay is the smaller
of the limit and the interval times two to the number of the attempt, which is exact unless it is
too large for a double. That goes on for 1024 attempts; after that there is no delay, since the
power of two is too large for a double.

**Proof sketch.** A double is multiplied by a power of two exactly. Of two numbers that are not
below zero the smaller one is not below zero either, and not above the limit. -/
theorem delay_outcome {x : Floating} (hx : x.IsDouble) (hinterval : x.toExtended.IsNonneg)
    {bound : Value} (hbound : bound.number? = some limit) (hlimit : limit.IsNonneg) (attempt : Nat)
    (fault : Fault) :
    (∀ s, fault.retryAfter? = some s →
        (s.toExtended.IsNonneg → ∃ d delay,
          (⟨.float x, bound⟩ : Backoff).delay attempt fault = .ok d ∧ d.number? = some delay ∧
            delay.IsSmaller s.toExtended limit ∧ delay.Within limit) ∧
        (¬ s.toExtended.IsNonneg →
          (⟨.float x, bound⟩ : Backoff).delay attempt fault = .ok (.float s))) ∧
      (fault.retryAfter? = none →
        (attempt < 1024 → ∃ d delay,
          (⟨.float x, bound⟩ : Backoff).delay attempt fault = .ok d ∧ d.number? = some delay ∧
            delay.IsSmaller (x.toExtended.doubled attempt) limit ∧ delay.Within limit) ∧
        (1024 ≤ attempt → (⟨.float x, bound⟩ : Backoff).delay attempt fault =
          .error (.range .doubleOfInteger))) := by
  constructor
  · intro s hs
    rw [delay, hs]
    exact ⟨fun hnonneg => capped_outcome (b := ⟨.float x, bound⟩) hbound hlimit rfl hnonneg,
      fun hbelow => capped_of_not_nonneg (b := ⟨.float x, bound⟩) hbound hlimit rfl hbelow⟩
  · intro hnone
    rw [delay, hnone]
    dsimp only
    rw [doubled_eq]
    constructor
    · intro hattempt
      rw [if_pos hattempt, ← Format.multiply_two_pow hx hinterval]
      refine capped_outcome (b := ⟨.float x, bound⟩) hbound hlimit rfl ?_
      rw [Format.multiply_two_pow hx hinterval]
      exact isNonneg_doubled hinterval attempt
    · intro hattempt
      rw [if_neg (by omega)]
      rfl

/-- Five seconds. -/
def fiveSeconds : Floating := .finite false 5629499534213120 (-50)

/-- After the third attempt, the first of which was followed by five seconds, there is a delay of at
most five minutes. -/
theorem delay_fiveSeconds :
    fiveSeconds.IsDouble ∧ fiveSeconds.toExtended.IsNonneg ∧
      (Extended.rational 300).IsNonneg ∧
      ∃ d delay, (⟨.float fiveSeconds, .int 300⟩ : Backoff).delay 2 (.http 503 none .none) = .ok d ∧
        d.number? = some delay ∧
        delay.IsSmaller (fiveSeconds.toExtended.doubled 2) (.rational 300) ∧
        delay.Within (.rational 300) := by
  have hdouble : fiveSeconds.IsDouble := ⟨by decide, by decide, by decide, .inr (by decide)⟩
  have hnonneg : fiveSeconds.toExtended.IsNonneg := ⟨nofun, by decide +kernel⟩
  have hlimit : (Extended.rational 300).IsNonneg := ⟨nofun, by decide +kernel⟩
  have hbound : (Value.int 300).number? = some (.rational 300) := rfl
  have hnone : (Fault.http 503 none .none).retryAfter? = none := rfl
  exact ⟨hdouble, hnonneg, hlimit,
    ((delay_outcome hdouble hnonneg hbound hlimit 2 (.http 503 none .none)).2 hnone).1 (by decide)⟩

/-- After the attempt with the number 1024 there is no delay, although the limit is five minutes. -/
theorem not_delayed_late :
    fiveSeconds.IsDouble ∧ fiveSeconds.toExtended.IsNonneg ∧
      ¬ ∃ d, (⟨.float fiveSeconds, .int 300⟩ : Backoff).delay 1024 (.http 503 none .none) =
        .ok d := by
  refine ⟨⟨by decide, by decide, by decide, .inr (by decide)⟩, ⟨nofun, by decide +kernel⟩, ?_⟩
  rintro ⟨d, hd⟩
  have hnone : (Fault.http 503 none .none).retryAfter? = none := rfl
  rw [delay, hnone] at hd
  dsimp only at hd
  rw [doubled_eq, if_neg (by decide)] at hd
  nomatch hd

end Backoff

end SeriesClient
