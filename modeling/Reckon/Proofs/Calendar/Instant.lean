import Reckon.Proofs.Calendar.Iso

/-!
Moments on one line of time.  A moment that is no leap second is known by its nanoseconds since the
epoch, and a shift by milliseconds adds to these; it fails exactly if the day that it leads to
cannot be represented.
-/

namespace Reckon.Calendar

namespace Moment

variable {moment : Moment}

/-- A time of day outside of leap seconds. -/
structure Plain (moment : Moment) : Prop where
  second : moment.second < secondsPerDay
  nano : moment.nano < nanosPerSecond

theorem Plain.wellFormed (plain : moment.Plain) (within : Date.inRange moment.day = true) :
    moment.WellFormed := by
  obtain ⟨second, nano⟩ := plain
  exact ⟨within, second, by omega, fun leap => absurd leap (Nat.not_le.mpr nano)⟩

def instant (moment : Moment) : Int :=
  (moment.day * secondsPerDay + moment.second) * nanosPerSecond + moment.nano

def ofInstant (instant : Int) : Moment where
  day := instant / nanosPerSecond / secondsPerDay
  second := (instant / nanosPerSecond % secondsPerDay).toNat
  nano := (instant % nanosPerSecond).toNat

theorem plain_ofInstant (instant : Int) : (ofInstant instant).Plain := by
  constructor <;> unfold ofInstant secondsPerDay nanosPerSecond <;> dsimp only <;> omega

theorem instant_ofInstant (nanos : Int) : (ofInstant nanos).instant = nanos := by
  unfold instant ofInstant secondsPerDay nanosPerSecond
  dsimp only
  omega

theorem ofInstant_instant (plain : moment.Plain) : ofInstant moment.instant = moment := by
  obtain ⟨second, nano⟩ := plain
  obtain ⟨day, seconds, nanos⟩ := moment
  unfold instant ofInstant secondsPerDay nanosPerSecond at *
  dsimp only at *
  rw [Moment.mk.injEq]
  omega

/-- A moment, if it can be represented. -/
def represented? (moment : Moment) : Option Moment :=
  if Date.inRange moment.day then some moment else none

theorem represented?_eq_some_iff {other : Moment} :
    moment.represented? = some other ↔ other = moment ∧ Date.inRange moment.day = true := by
  unfold represented?
  split
  · rename_i within
    simp [within, eq_comm]
  · rename_i beyond
    simp [beyond]

theorem make?_eq (day seconds : Int) {nano : Nat} (small : nano < nanosPerSecond) :
    make? day seconds nano =
      (ofInstant ((day * secondsPerDay + seconds) * nanosPerSecond + nano)).represented? := by
  have same : ofInstant ((day * secondsPerDay + seconds) * nanosPerSecond + nano) =
      ⟨day + seconds / secondsPerDay, (seconds % secondsPerDay).toNat, nano⟩ := by
    unfold ofInstant secondsPerDay nanosPerSecond at *
    rw [Moment.mk.injEq]
    omega
  rw [same]
  rfl

theorem ofMillis?_eq (millis : Int) :
    ofMillis? millis = (ofInstant (millis * nanosPerMilli)).represented? := by
  have small : (millis % 1000).toNat * nanosPerMilli < nanosPerSecond := by
    unfold nanosPerMilli nanosPerSecond
    omega
  have whole : (0 * secondsPerDay + millis / 1000) * nanosPerSecond +
      ((millis % 1000).toNat * nanosPerMilli : Nat) = millis * nanosPerMilli := by
    unfold nanosPerMilli nanosPerSecond
    omega
  rw [ofMillis?, make?_eq _ _ small, whole]

theorem ofMillis?_eq_some_iff {millis : Int} :
    ofMillis? millis = some moment ↔
      moment.Plain ∧ Date.inRange moment.day = true ∧ moment.instant = millis * nanosPerMilli := by
  rw [ofMillis?_eq, represented?_eq_some_iff]
  constructor
  · rintro ⟨rfl, within⟩
    exact ⟨plain_ofInstant _, within, instant_ofInstant _⟩
  · rintro ⟨plain, within, instant⟩
    rw [← instant, ofInstant_instant plain]
    exact ⟨rfl, within⟩

/-- Milliseconds are added as whole seconds and the rest, both cut toward zero. -/
theorem make?_shifted (day second nano millis : Int) :
    make? day (second + millis.tdiv 1000 +
        (nano + millis.tmod 1000 * nanosPerMilli) / nanosPerSecond)
        ((nano + millis.tmod 1000 * nanosPerMilli) % nanosPerSecond).toNat =
      (ofInstant ((day * secondsPerDay + second) * nanosPerSecond + nano +
        millis * nanosPerMilli)).represented? := by
  have small : ((nano + millis.tmod 1000 * nanosPerMilli) % nanosPerSecond).toNat <
      nanosPerSecond := by
    unfold nanosPerMilli nanosPerSecond
    omega
  rw [make?_eq _ _ small]
  congr 2
  have parts := Int.tmod_add_mul_tdiv millis 1000
  unfold secondsPerDay nanosPerMilli nanosPerSecond
  omega

theorem addMillis?_eq (plain : moment.Plain) (millis : Int) :
    moment.addMillis? millis =
      (ofInstant (moment.instant + millis * nanosPerMilli)).represented? := by
  unfold addMillis?
  dsimp only
  rw [if_pos plain.nano]
  exact make?_shifted moment.day moment.second moment.nano millis

/-! ## Shifts beyond all moments -/

theorem inRange_iff {day : Int} :
    Date.inRange day = true ↔ -96465292 ≤ day ∧ day ≤ 95026236 := by
  have first : Date.firstNumber = -96465292 := by decide
  have last : Date.lastNumber = 95026236 := by decide
  rw [Date.inRange, Bool.and_eq_true, decide_eq_true_iff, decide_eq_true_iff, first, last]

/-- All moments lie within `2 ^ 53` milliseconds of the epoch, so a shift by twice as much leads
beyond them. -/
theorem represented?_of_far {nanos millis : Int} (near : nanos.natAbs ≤ 2 ^ 53 * nanosPerMilli)
    (far : 2 ^ 54 ≤ millis ∨ millis ≤ -2 ^ 54) :
    (ofInstant (nanos + millis * nanosPerMilli)).represented? = none := by
  unfold represented?
  rw [if_neg]
  rw [inRange_iff]
  unfold ofInstant secondsPerDay nanosPerSecond nanosPerMilli at *
  dsimp only
  omega

theorem ofMillis?_of_far {millis : Int} (far : 2 ^ 54 ≤ millis ∨ millis ≤ -2 ^ 54) :
    ofMillis? millis = none := by
  have beyond : (ofInstant (0 + millis * nanosPerMilli)).represented? = none :=
    represented?_of_far (Nat.zero_le _) far
  rwa [Int.zero_add, ← ofMillis?_eq] at beyond

theorem near_instant (within : Date.inRange moment.day = true) (plain : moment.Plain) :
    moment.instant.natAbs ≤ 2 ^ 53 * nanosPerMilli := by
  obtain ⟨second, nano⟩ := plain
  rw [inRange_iff] at within
  unfold instant secondsPerDay nanosPerSecond nanosPerMilli at *
  omega

/-- A shift that leads beyond all moments is refused, from a leap second as well. -/
theorem addMillis?_of_far (formed : moment.WellFormed) {millis : Int}
    (far : 2 ^ 54 ≤ millis ∨ millis ≤ -2 ^ 54) : moment.addMillis? millis = none := by
  obtain ⟨day, second, nano, -⟩ := formed
  rw [inRange_iff] at day
  have beyond (second nano : Int) (least : 0 ≤ second ∧ 0 ≤ nano)
      (most : second ≤ secondsPerDay ∧ nano ≤ nanosPerSecond) :
      make? moment.day (second + millis.tdiv 1000 +
        (nano + millis.tmod 1000 * nanosPerMilli) / nanosPerSecond)
        ((nano + millis.tmod 1000 * nanosPerMilli) % nanosPerSecond).toNat = none := by
    rw [make?_shifted]
    refine represented?_of_far ?_ far
    unfold secondsPerDay nanosPerSecond nanosPerMilli at *
    omega
  unfold addMillis?
  dsimp only
  split
  · exact beyond _ _ (by omega) (by omega)
  · split
    · exact beyond _ _ (by omega) (by omega)
    · split
      · exact beyond _ _ (by omega) (by omega)
      · -- A shift of less than a second is left, which is not far.
        rename_i positive negative
        have parts := Int.tmod_add_mul_tdiv millis 1000
        have rest : (millis.tmod 1000).natAbs < 1000 := by
          rw [Int.natAbs_tmod]
          exact Nat.mod_lt _ (by decide)
        simp only [Bool.or_eq_true, decide_eq_true_eq, not_or] at positive
        omega

/-! ## Whole seconds -/

theorem instant_whole (plain : moment.Plain) :
    moment.whole.instant = moment.instant / nanosPerSecond * nanosPerSecond := by
  have nano := plain.nano
  unfold instant whole nanosPerSecond at *
  dsimp only
  omega

theorem plain_whole (plain : moment.Plain) : moment.whole.Plain := by
  obtain ⟨second, nano⟩ := plain
  refine ⟨second, ?_⟩
  unfold whole nanosPerSecond at *
  dsimp only
  omega

end Moment

end Reckon.Calendar
