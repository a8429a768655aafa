import Rsfu.CheckedArith
import Rsfu.SenderStatistics
import Rsfu.TickRounding

/-! Times of the system clock as NTP timestamps, and NTP timestamps in milliseconds. A second
is 2^32 ticks, so a nanosecond is more than four: rounding to ticks keeps times apart, and
truncating to milliseconds loses at most one of them. -/
namespace Rsfu
open Checked TickRounding

/-- A time in seconds and nanoseconds from `UNIX_EPOCH`. -/
structure SystemTime where
  secs : Int64
  nanos : UInt32
  subsec : nanos < 1000000000

structure Duration where
  secs : UInt64
  nanos : UInt32
  subsec : nanos < 1000000000

/-- A `u128`, which holds it. -/
def Duration.asNanos (d : Duration) : Nat := d.secs.toNat * 1000000000 + d.nanos.toNat

namespace SystemTime

/-- `duration_since(UNIX_EPOCH)`; a time before that is an error. -/
def durationSince (t : SystemTime) : Option Duration :=
  if t.secs < 0 then none else some ⟨t.secs.toUInt64, t.nanos, t.subsec⟩

/-- The time in nanoseconds from the epoch. -/
def sinceEpoch (t : SystemTime) : Int := t.secs.toInt * 1000000000 + t.nanos.toNat

/-- From the epoch on, with fewer than 2^32 whole seconds. -/
structure InEra (t : SystemTime) : Prop where
  since : 0 ≤ t.secs
  early : t.secs.toInt < 4294967296

end SystemTime

structure NtpTime where
  ntpTime : UInt64
  deriving DecidableEq, Repr

namespace NtpTime

/-- `u64::from`. -/
def toU64 (time : NtpTime) : UInt64 := time.ntpTime

/-- `to_ntp_time` behind the nanoseconds of the duration. -/
def ofNanos (nsec : UInt64) : NtpTime :=
  let sec := nsec / 1000000000
  let nsec := (nsec - sec * 1000000000) <<< 32
  let frac := nsec / 1000000000
  let frac := if nsec % 1000000000 ≥ 1000000000 / 2 then frac + 1 else frac
  ⟨sec <<< 32 ||| frac⟩

/-- The same with every intermediate value the exact one. -/
def ofNanosExactly (nsec : UInt64) : Checked NtpTime := do
  let sec := nsec / 1000000000
  let whole ← mul64 sec 1000000000
  let rest ← sub64 nsec whole
  let nsec ← scale64 rest 32
  let frac := nsec / 1000000000
  let frac ← (if nsec % 1000000000 ≥ 1000000000 / 2 then add64 frac 1 else pure frac)
  let high ← scale64 sec 32
  return ⟨high ||| frac⟩

end NtpTime

/-- `none` is the panic of the `unwrap`. -/
def toNtpTime (t : SystemTime) : Option NtpTime :=
  t.durationSince.map fun duration => .ofNanos (UInt64.ofNat duration.asNanos)

def toNtpTimeExactly (t : SystemTime) : Checked NtpTime := do
  let duration ← ofOption t.durationSince
  let nsec ← cast64 duration.asNanos
  NtpTime.ofNanosExactly nsec

def ntpToMillisSinceEpoch (ntp : UInt64) : UInt64 :=
  (((ntp &&& 0xFFFFFFFF) * 1000) >>> 32) + ((ntp >>> 32) * 1000)

def ntpToMillisSinceEpochExactly (ntp : UInt64) : Checked UInt64 := do
  let fraction ← mul64 (ntp &&& 0xFFFFFFFF) 1000
  let seconds ← mul64 (ntp >>> 32) 1000
  add64 (fraction >>> 32) seconds

/-- The ticks of a number of nanoseconds, as the integer operations round them. -/
def ntpTicks (nanos : Nat) : Nat :=
  nanos * 4294967296 / 1000000000 + if 1000000000 ≤ 2 * (nanos * 4294967296 % 1000000000) then 1 else 0

def ticksPerNano : ℚ := 4294967296 / 1000000000

theorem half_lt_ticksPerNano : 1 / 2 < ticksPerNano := by
  unfold ticksPerNano
  norm_num

theorem ntpTicks_eq_ticks (nanos : Nat) : (ntpTicks nanos : ℤ) = ticks ticksPerNano nanos := by
  have quotient : (nanos : ℚ) * ticksPerNano = ((nanos * 4294967296 : ℕ) : ℚ) / (1000000000 : ℕ) := by
    unfold ticksPerNano
    push_cast
    ring
  unfold ticks
  rw [quotient, round_natCast_div (by decide)]
  rfl

/-- Whole seconds are whole ticks. -/
theorem ntpTicks_seconds (s n : Nat) : ntpTicks (s * 1000000000 + n) = s * 4294967296 + ntpTicks n := by
  have quotient : (s * 1000000000 + n) * 4294967296 = n * 4294967296 + 1000000000 * (s * 4294967296) := by ring
  unfold ntpTicks
  rw [quotient, Nat.add_mul_div_left _ _ (by decide), Nat.add_mul_mod_self_left]
  ring

/-- The last nanoseconds of a second are not rounded up to the next one. -/
theorem ntpTicks_lt {nanos : Nat} (subsec : nanos < 1000000000) : ntpTicks nanos < 4294967296 := by
  have below : ticks ticksPerNano nanos < 4294967296 := by
    apply ticks_lt half_lt_ticksPerNano subsec
    unfold ticksPerNano
    norm_num
  rw [← ntpTicks_eq_ticks] at below
  omega

theorem ntpTicks_strictMono : StrictMono ntpTicks := by
  intro m n less
  have ordered : ticks ticksPerNano m < ticks ticksPerNano n := by
    apply ticks_strictMono _ less
    unfold ticksPerNano
    norm_num
  rw [← ntpTicks_eq_ticks, ← ntpTicks_eq_ticks] at ordered
  omega

/-- Milliseconds read from a ntpTicks: one is missing when it is rounded down from a whole number of them. -/
theorem ntpTicks_millis (nanos : Nat) :
    ((ntpTicks nanos * 1000 / 4294967296 : ℕ) : ℤ) =
      ((nanos / 1000000 : ℕ) : ℤ) -
        if nanos % 1000000 = 0 ∧ ntpTicks nanos * 1000000000 < nanos * 4294967296 then 1 else 0 := by
  have read : ((ticks ticksPerNano nanos : ℤ) : ℚ) / ((1000000 : ℕ) * ticksPerNano) =
      ((ntpTicks nanos * 1000 : ℕ) : ℚ) / (4294967296 : ℕ) := by
    rw [← ntpTicks_eq_ticks]
    unfold ticksPerNano
    push_cast
    ring
  have down : ((ticks ticksPerNano nanos : ℤ) : ℚ) < nanos * ticksPerNano ↔
      ntpTicks nanos * 1000000000 < nanos * 4294967296 := by
    rw [← ntpTicks_eq_ticks, Int.cast_natCast]
    unfold ticksPerNano
    rw [← mul_div_assoc, lt_div_iff₀ (by norm_num)]
    norm_cast
  have floor := floor_ticks half_lt_ticksPerNano (c := 1000000) (by decide) nanos
  rw [read, Rat.floor_natCast_div_natCast] at floor
  simp only [down] at floor
  exact floor

/-- A word of 32 bits keeps them all when it is shifted up. -/
theorem toNat_shifted {a : UInt64} (small : a.toNat < 4294967296) : (a <<< 32).toNat = a.toNat * 4294967296 := by
  rw [UInt64.toNat_shiftLeft]
  change a.toNat <<< 32 % 18446744073709551616 = _
  rw [Nat.shiftLeft_eq]
  omega

theorem scale64_value {a : UInt64} (small : a.toNat < 4294967296) : scale64 a 32 = .value (a <<< 32) := by
  have factor : 2 ^ (32 : UInt64).toNat = 4294967296 := rfl
  have size : UInt64.size = 18446744073709551616 := rfl
  apply exactly_value
  rw [factor, size]
  omega

/-- The seconds and the ntpTicks of a timestamp, put together. -/
theorem toNat_joined {sec frac : UInt64} (era : sec.toNat < 4294967296) (small : frac.toNat < 4294967296) :
    (sec <<< 32 ||| frac).toNat = sec.toNat * 4294967296 + frac.toNat := by
  have multiple : sec.toNat * 4294967296 = sec.toNat <<< 32 := (Nat.shiftLeft_eq sec.toNat 32).symm
  rw [UInt64.toNat_or, toNat_shifted era, multiple, ← Nat.shiftLeft_add_eq_or_of_lt small]

theorem toNat_high (ntp : UInt64) : (ntp >>> 32).toNat = ntp.toNat / 4294967296 := by
  rw [UInt64.toNat_shiftRight]
  change ntp.toNat >>> 32 = _
  rw [Nat.shiftRight_eq_div_pow]

theorem toNat_low (ntp : UInt64) : (ntp &&& 0xFFFFFFFF).toNat = ntp.toNat % 4294967296 := by
  rw [UInt64.toNat_and]
  exact Nat.and_two_pow_sub_one_eq_mod ntp.toNat 32

section Operations
variable {nsec : UInt64} {s n : Nat}

theorem toNat_rest (total : nsec.toNat = s * 1000000000 + n) (subsec : n < 1000000000) :
    (nsec / 1000000000).toNat = s ∧ (nsec / 1000000000 * 1000000000).toNat = s * 1000000000 ∧
      (nsec - nsec / 1000000000 * 1000000000).toNat = n := by
  have small := nsec.toNat_lt
  have sec : (nsec / 1000000000).toNat = s := by
    rw [UInt64.toNat_div, total]
    change (s * 1000000000 + n) / 1000000000 = s
    omega
  have whole : (nsec / 1000000000 * 1000000000).toNat = s * 1000000000 := by
    rw [UInt64.toNat_mul, sec]
    change s * 1000000000 % 18446744073709551616 = _
    omega
  refine ⟨sec, whole, ?_⟩
  rw [UInt64.toNat_sub_of_le, whole, total]
  · omega
  · rw [UInt64.le_iff_toNat_le, whole, total]
    omega

theorem rounds_up_iff (scaled : nsec.toNat = n * 4294967296) :
    nsec % 1000000000 ≥ 1000000000 / 2 ↔ 1000000000 ≤ 2 * (n * 4294967296 % 1000000000) := by
  rw [ge_iff_le, UInt64.le_iff_toNat_le, UInt64.toNat_mod, scaled]
  change 500000000 ≤ n * 4294967296 % 1000000000 ↔ _
  omega

theorem toNat_fraction (scaled : nsec.toNat = n * 4294967296) (subsec : n < 1000000000) :
    (if nsec % 1000000000 ≥ 1000000000 / 2 then nsec / 1000000000 + 1 else nsec / 1000000000).toNat =
      ntpTicks n := by
  have quotient : (nsec / 1000000000).toNat = n * 4294967296 / 1000000000 := by
    rw [UInt64.toNat_div, scaled]
    rfl
  unfold ntpTicks
  by_cases up : nsec % 1000000000 ≥ 1000000000 / 2
  · rw [if_pos up, if_pos ((rounds_up_iff scaled).mp up), UInt64.toNat_add, quotient]
    change (n * 4294967296 / 1000000000 + 1) % 18446744073709551616 = _
    omega
  · rw [if_neg up, if_neg fun above => up ((rounds_up_iff scaled).mpr above), quotient, Nat.add_zero]

theorem rounding_value (scaled : nsec.toNat = n * 4294967296) (subsec : n < 1000000000) :
    (if nsec % 1000000000 ≥ 1000000000 / 2 then add64 (nsec / 1000000000) 1 else pure (nsec / 1000000000)) =
      .value (if nsec % 1000000000 ≥ 1000000000 / 2 then nsec / 1000000000 + 1 else nsec / 1000000000) := by
  by_cases up : nsec % 1000000000 ≥ 1000000000 / 2
  · rw [if_pos up, if_pos up]
    apply exactly_value
    rw [UInt64.toNat_div, scaled]
    change n * 4294967296 / 1000000000 + 1 < 18446744073709551616
    omega
  · rw [if_neg up, if_neg up]
    rfl

end Operations

namespace NtpTime
variable {nsec : UInt64} {s n : Nat}

theorem toNat_ofNanos (total : nsec.toNat = s * 1000000000 + n) (era : s < 4294967296) (subsec : n < 1000000000) :
    (ofNanos nsec).toU64.toNat = ntpTicks nsec.toNat := by
  obtain ⟨sec, whole, rest⟩ := toNat_rest total subsec
  have scaled := toNat_shifted (a := nsec - nsec / 1000000000 * 1000000000) (by omega)
  rw [rest] at scaled
  have frac := toNat_fraction scaled subsec
  refine (toNat_joined (by omega) ?_).trans ?_
  · rw [frac]
    exact ntpTicks_lt subsec
  · rw [sec, frac, total, ntpTicks_seconds]

theorem ofNanosExactly_value (total : nsec.toNat = s * 1000000000 + n) (era : s < 4294967296)
    (subsec : n < 1000000000) : ofNanosExactly nsec = .value (ofNanos nsec) := by
  obtain ⟨sec, whole, rest⟩ := toNat_rest total subsec
  have product : mul64 (nsec / 1000000000) 1000000000 = .value (nsec / 1000000000 * 1000000000) := by
    apply exactly_value
    rw [sec]
    change s * 1000000000 < 18446744073709551616
    omega
  have difference : sub64 nsec (nsec / 1000000000 * 1000000000) =
      .value (nsec - nsec / 1000000000 * 1000000000) := by
    apply exactly_value
    rw [UInt64.le_iff_toNat_le, whole, total]
    omega
  have scaled := toNat_shifted (a := nsec - nsec / 1000000000 * 1000000000) (by omega)
  rw [rest] at scaled
  have rounded := rounding_value scaled subsec
  unfold ofNanosExactly
  dsimp only
  rw [product, value_bind, difference, value_bind, scale64_value (by omega), value_bind, rounded, value_bind,
    scale64_value (by omega), value_bind]
  rfl

end NtpTime

theorem SystemTime.InEra.sinceEpoch_nonneg {t : SystemTime} (era : t.InEra) : 0 ≤ t.sinceEpoch := by
  have since : 0 ≤ t.secs.toInt := Int64.le_iff_toInt_le.mp era.since
  unfold sinceEpoch
  omega

theorem SystemTime.InEra.elapsed {t : SystemTime} (era : t.InEra) :
    ∃ duration, t.durationSince = some duration ∧ duration.secs.toNat < 4294967296 ∧
      duration.asNanos = t.sinceEpoch := by
  have since : 0 ≤ t.secs.toInt := Int64.le_iff_toInt_le.mp era.since
  have secs : (t.secs.toUInt64.toNat : ℤ) = t.secs.toInt := by
    rw [Int64.toNat_toUInt64_of_le era.since]
    exact Int.toNat_of_nonneg since
  refine ⟨⟨t.secs.toUInt64, t.nanos, t.subsec⟩, if_neg (Int64.not_lt.mpr era.since), ?_, ?_⟩
  · have early := era.early
    dsimp only
    omega
  · unfold Duration.asNanos sinceEpoch
    rw [← secs]
    norm_cast

/-- A timestamp is the number of ticks since the epoch, and no operation on the way to it leaves the type. -/
theorem toNtpTime_ticks {t : SystemTime} (era : t.InEra) :
    ∃ time, toNtpTime t = some time ∧ toNtpTimeExactly t = .value time ∧
      time.toU64.toNat = ntpTicks t.sinceEpoch.toNat := by
  obtain ⟨duration, elapsed, early, nanos⟩ := era.elapsed
  have subsec : duration.nanos.toNat < 1000000000 := UInt32.lt_iff_toNat_lt.mp duration.subsec
  have fits : duration.asNanos < 18446744073709551616 := by
    unfold Duration.asNanos
    omega
  have total := UInt64.toNat_ofNat_of_lt' fits
  refine ⟨.ofNanos (UInt64.ofNat duration.asNanos), ?_, ?_, ?_⟩
  · rw [toNtpTime, elapsed]
    rfl
  · rw [toNtpTimeExactly, elapsed, ofOption, value_bind, cast64, exactly_value fits, value_bind]
    exact NtpTime.ofNanosExactly_value total early subsec
  · rw [NtpTime.toNat_ofNanos total early subsec, total, ← nanos, Int.toNat_natCast]

theorem mul64_thousand {a : UInt64} (small : a.toNat < 4294967296) :
    mul64 a 1000 = .value (a * 1000) ∧ (a * 1000).toNat = a.toNat * 1000 := by
  have thousand : (1000 : UInt64).toNat = 1000 := rfl
  have size : UInt64.size = 18446744073709551616 := rfl
  have fits : a.toNat * (1000 : UInt64).toNat < UInt64.size := by
    rw [thousand, size]
    omega
  refine ⟨exactly_value fits, ?_⟩
  rw [UInt64.toNat_mul, thousand]
  exact Nat.mod_eq_of_lt fits

/-- Seconds and fraction are read as one number of ticks, and every word is read without an overflow. -/
theorem ntpToMillisSinceEpoch_spec (ntp : UInt64) :
    ntpToMillisSinceEpochExactly ntp = .value (ntpToMillisSinceEpoch ntp) ∧
      (ntpToMillisSinceEpoch ntp).toNat = ntp.toNat * 1000 / 4294967296 := by
  have small := ntp.toNat_lt
  have low := toNat_low ntp
  have high := toNat_high ntp
  obtain ⟨fraction, fraction_toNat⟩ := mul64_thousand (a := ntp &&& 0xFFFFFFFF) (by omega)
  obtain ⟨seconds, seconds_toNat⟩ := mul64_thousand (a := ntp >>> 32) (by omega)
  have size : UInt64.size = 18446744073709551616 := rfl
  have millis := toNat_high ((ntp &&& 0xFFFFFFFF) * 1000)
  rw [fraction_toNat, low] at millis
  rw [high] at seconds_toNat
  have fits : (((ntp &&& 0xFFFFFFFF) * 1000) >>> 32).toNat + ((ntp >>> 32) * 1000).toNat < UInt64.size := by
    rw [millis, seconds_toNat, size]
    omega
  constructor
  · unfold ntpToMillisSinceEpochExactly
    rw [fraction, value_bind, seconds, value_bind]
    exact exactly_value fits
  · refine (UInt64.toNat_add _ _).trans ((Nat.mod_eq_of_lt fits).trans ?_)
    rw [millis, seconds_toNat]
    omega

/-- What a timestamp tells of a time: the whole seconds, the nearest fraction of the last one, and the
milliseconds or one less. -/
structure NtpTime.Tells (time : NtpTime) (t : SystemTime) : Prop where
  seconds : ((time.toU64 >>> 32).toNat : ℤ) = t.secs.toInt
  fraction : ((time.toU64 &&& 0xFFFFFFFF).toNat : ℤ) = round ((t.nanos.toNat : ℚ) * 4294967296 / 1000000000)
  reads : ntpToMillisSinceEpochExactly time.toU64 = .value (ntpToMillisSinceEpoch time.toU64)
  millis : ((ntpToMillisSinceEpoch time.toU64).toNat : ℤ) = t.sinceEpoch / 1000000 ∨
    ((ntpToMillisSinceEpoch time.toU64).toNat : ℤ) = t.sinceEpoch / 1000000 - 1

theorem ntpTicks_eq_round (nanos : Nat) :
    (ntpTicks nanos : ℤ) = round ((nanos : ℚ) * 4294967296 / 1000000000) := by
  rw [ntpTicks_eq_ticks, ticks, ticksPerNano, mul_div_assoc]

theorem NtpTime.Tells.of_ticks {time : NtpTime} {t : SystemTime} (era : t.InEra)
    (counted : time.toU64.toNat = ntpTicks t.sinceEpoch.toNat) : time.Tells t := by
  have since : 0 ≤ t.secs.toInt := Int64.le_iff_toInt_le.mp era.since
  have nonneg := era.sinceEpoch_nonneg
  have total : t.sinceEpoch.toNat = t.secs.toInt.toNat * 1000000000 + t.nanos.toNat := by
    unfold SystemTime.sinceEpoch
    omega
  have below := ntpTicks_lt (UInt32.lt_iff_toNat_lt.mp t.subsec)
  have parts : time.toU64.toNat = t.secs.toInt.toNat * 4294967296 + ntpTicks t.nanos.toNat := by
    rw [counted, total, ntpTicks_seconds]
  obtain ⟨reads, millis⟩ := ntpToMillisSinceEpoch_spec time.toU64
  constructor
  · rw [toNat_high, parts]
    omega
  · rw [toNat_low, parts, ← ntpTicks_eq_round]
    omega
  · exact reads
  · rw [millis, counted, ntpTicks_millis]
    split <;> omega

theorem toNtpTime_lt_iff {t t' : SystemTime} {time time' : NtpTime} (era : t.InEra) (era' : t'.InEra)
    (told : toNtpTime t = some time) (told' : toNtpTime t' = some time') :
    time.toU64 < time'.toU64 ↔ t.sinceEpoch < t'.sinceEpoch := by
  obtain ⟨same, taken, _, counted⟩ := toNtpTime_ticks era
  cases told.symm.trans taken
  obtain ⟨same', taken', _, counted'⟩ := toNtpTime_ticks era'
  cases told'.symm.trans taken'
  have nonneg := era.sinceEpoch_nonneg
  rw [UInt64.lt_iff_toNat_lt, counted, counted', ntpTicks_strictMono.lt_iff_lt]
  omega

/-- The timestamp of every time in the era is made without an overflow, tells the time, and is ordered
as the time is. -/
theorem toNtpTime_tells {t : SystemTime} (era : t.InEra) :
    ∃ time, toNtpTime t = some time ∧ toNtpTimeExactly t = .value time ∧ time.Tells t ∧
      ∀ t' time', t'.InEra → toNtpTime t' = some time' →
        (time.toU64 < time'.toU64 ↔ t.sinceEpoch < t'.sinceEpoch) := by
  obtain ⟨time, told, exact, counted⟩ := toNtpTime_ticks era
  refine ⟨time, told, exact, .of_ticks era counted, ?_⟩
  intro t' time' era' told'
  exact toNtpTime_lt_iff era era' told told'

/-- The last two nanoseconds of the era. -/
theorem toNtpTime_tells_last :
    ∃ time time' : NtpTime, time'.toU64 = 0xFFFFFFFFFFFFFFFC ∧ time'.Tells ⟨4294967295, 999999999, by decide⟩ ∧
      time.toU64 < time'.toU64 := by
  let last : SystemTime := ⟨4294967295, 999999999, by decide⟩
  let before : SystemTime := ⟨4294967295, 999999998, by decide⟩
  obtain ⟨time, told, _, _, ordered⟩ := toNtpTime_tells (t := before) ⟨by decide, by decide⟩
  obtain ⟨time', told', _, tells, _⟩ := toNtpTime_tells (t := last) ⟨by decide, by decide⟩
  refine ⟨time, time', ?_, tells, (ordered last time' ⟨by decide, by decide⟩ told').mpr (by decide)⟩
  cases told'
  decide

end Rsfu
