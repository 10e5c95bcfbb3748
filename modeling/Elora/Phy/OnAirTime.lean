import Elora.Cxx

/-! # Time on air of a LoRa frame

`LoraPhy::GetOnAirTime` (`lora-phy.cc`) follows the SX1272 designer's guide: a preamble of
`nPreamble + 4.25` symbols, then `8 + max(⌈num / den⌉ · (codingRate + 4), 0)` payload symbols,
each `GetTSym` long. `GetTSym` is `Seconds (2^sf / bandwidthHz)`, a `Time` and so rounded to the
nanosecond, and the final `Seconds` rounds the sum again. The doubles of the source are read as
exact rationals. The numerator starts with `8 * pl - 4 * txParams.sf + 28`, which C++ computes in
`uint32_t` because `pl` is unsigned; `payloadTerm` keeps that arithmetic. `sx1272OnAirTime` is the
guide's formula in exact arithmetic, in seconds.

At the LoRa bandwidths (125, 250 and 500 kHz and their halvings) a symbol lasts a whole number of
nanoseconds, so `GetTSym` is exact there: that is the hypothesis `hsym` below.

* `payloadTerm_toNat`: the term is the intended integer reduced modulo `2^32`.
* `getOnAirTime_eq_sx1272OnAirTime`: where the symbol time is exact and that integer lies in
  `[0, 2^32)`, the code's time is the formula rounded to the nanosecond; `getOnAirTime_mono`: for
  any bandwidth it grows with the payload there.
* `getOnAirTime_lt_of_sf_succ`: there, for coding rates up to 8 and symbols of 4 ns or more, one
  spreading factor up a frame takes longer on air: the symbol time doubles and the payload symbols
  fall by less than the preamble's symbols make up (`ceil_le_two_mul_ceil`, `symbols_le`).
* `getOnAirTime_eq_sx1272OnAirTime_iff`: for an exact symbol time, the code's time is the
  formula's exactly where the numerator does not wrap. Below zero it wraps up and the code counts
  more symbols; at `2^32` and above it wraps down and the code counts fewer
  (`onAirTime_add_le_of_wrap`).
* `getOnAirTime_wraps`: a frame of 0 bytes at spreading factor 8 wraps, and takes longer on air
  than one of 4 bytes.
-/

namespace Elora.Phy

/-- The parameters of a LoRa transmission. The header that declares the struct is not among the
sources: the fields are those `operator<<` prints, with the widths its casts show. -/
structure LoraTxParameters where
  sf : UInt8
  headerDisabled : Bool
  codingRate : UInt8
  bandwidthHz : ℚ
  nPreamble : ℕ
  crcEnabled : Bool
  lowDataRateOptimizationEnabled : Bool
  deriving DecidableEq, Repr

/-- `Seconds (s)` of a double: `s` seconds as a `Time`, rounded to the nanosecond. -/
def seconds (s : ℚ) : Time := llround (s * 1000000000)

theorem seconds_mono {a b : ℚ} (ha : 0 ≤ a) (h : a ≤ b) : seconds a ≤ seconds b :=
  llround_mono (by positivity) (by linarith)

/-- Durations that differ by `t`, of a nanosecond or more, are different times. -/
theorem seconds_lt_seconds {a b t : ℚ} (ha : 0 ≤ a) (ht : 1 ≤ t * 1000000000) (h : a + t ≤ b) :
    seconds a < seconds b :=
  llround_lt_llround (by positivity) (by linarith)

/-- `LoraPhy::GetTSym`. -/
def getTSym (txParams : LoraTxParameters) : Time :=
  seconds (2 ^ txParams.sf.toNat / txParams.bandwidthHz)

theorem getTSym_nonneg {txParams : LoraTxParameters} (hbw : 0 ≤ txParams.bandwidthHz) :
    0 ≤ getTSym txParams :=
  llround_nonneg (by positivity)

/-- Where a symbol lasts a whole number `n` of nanoseconds, `GetTSym` is exact. -/
theorem getTSym_of_eq {txParams : LoraTxParameters} {n : ℤ}
    (h : 2 ^ txParams.sf.toNat / txParams.bandwidthHz * 1000000000 = n) : getTSym txParams = n := by
  rw [getTSym, seconds, h, llround_intCast]

theorem getSeconds_getTSym_of_eq {txParams : LoraTxParameters} {n : ℤ}
    (h : 2 ^ txParams.sf.toNat / txParams.bandwidthHz * 1000000000 = n) :
    (getTSym txParams).getSeconds = 2 ^ txParams.sf.toNat / txParams.bandwidthHz := by
  rw [Time.getSeconds, getTSym_of_eq h, ← h]
  ring

/-- A flag as the double `b ? 1 : 0`. -/
def flag (b : Bool) : ℚ := if b then 1 else 0

theorem flag_eq_toNat (b : Bool) : flag b = b.toNat := by
  cases b <;> simp [flag]

/-- `8 * pl - 4 * txParams.sf + 28`: `pl` is a `uint32_t`, so the whole term is. -/
def payloadTerm (pl : UInt32) (sf : UInt8) : UInt32 := 8 * pl - 4 * sf.toUInt32 + 28

/-- `num` of `GetOnAirTime`, for a packet of `pl` bytes. -/
def onAirNum (pl : UInt32) (txParams : LoraTxParameters) : ℚ :=
  (payloadTerm pl txParams.sf).toNat + 16 * flag txParams.crcEnabled -
    20 * flag txParams.headerDisabled

/-- `den` of `GetOnAirTime`. -/
def onAirDen (txParams : LoraTxParameters) : ℚ :=
  4 * (txParams.sf.toNat - 2 * flag txParams.lowDataRateOptimizationEnabled)

def payloadSymbNb (pl : UInt32) (txParams : LoraTxParameters) : ℚ :=
  8 + max (⌈onAirNum pl txParams / onAirDen txParams⌉ * (txParams.codingRate.toNat + 4)) 0

theorem eight_le_payloadSymbNb (pl : UInt32) (txParams : LoraTxParameters) :
    8 ≤ payloadSymbNb pl txParams :=
  le_add_of_nonneg_right (Int.cast_nonneg.2 (le_max_right _ _))

/-- `LoraPhy::GetOnAirTime` of a packet of `pl = packet->GetSize()` bytes. -/
def getOnAirTime (pl : UInt32) (txParams : LoraTxParameters) : Time :=
  let tSym := (getTSym txParams).getSeconds
  let tPreamble := (txParams.nPreamble + 4.25) * tSym
  let tPayload := payloadSymbNb pl txParams * tSym
  seconds (tPreamble + tPayload)

theorem getOnAirTime_eq (pl : UInt32) (txParams : LoraTxParameters) :
    getOnAirTime pl txParams = seconds ((txParams.nPreamble + 4.25) * (getTSym txParams).getSeconds +
      payloadSymbNb pl txParams * (getTSym txParams).getSeconds) := rfl

/-- The SX1272 time on air of a payload of `pl` bytes, in seconds, in exact integer and rational
arithmetic. -/
def sx1272OnAirTime (pl : ℕ) (txParams : LoraTxParameters) : ℚ :=
  let tSym : ℚ := 2 ^ txParams.sf.toNat / txParams.bandwidthHz
  let num : ℚ := 8 * pl - 4 * txParams.sf.toNat + 28 + 16 * flag txParams.crcEnabled -
    20 * flag txParams.headerDisabled
  let den : ℚ := 4 * (txParams.sf.toNat - 2 * flag txParams.lowDataRateOptimizationEnabled)
  (txParams.nPreamble + 4.25) * tSym +
    (8 + max 0 (⌈num / den⌉ * (txParams.codingRate.toNat + 4))) * tSym

/-! ## An exact symbol time -/

section ExactSymbol

variable {txParams : LoraTxParameters}
  (hsym : (getTSym txParams).getSeconds = 2 ^ txParams.sf.toNat / txParams.bandwidthHz)
include hsym

theorem getTSym_eq_of_getSeconds :
    (2 ^ txParams.sf.toNat / txParams.bandwidthHz : ℚ) * 1000000000 = getTSym txParams := by
  rw [← hsym, Time.getSeconds]
  ring

theorem one_le_getTSym (hbw : 0 < txParams.bandwidthHz) : (1 : ℚ) ≤ getTSym txParams := by
  have h : (0 : ℚ) < getTSym txParams := by
    rw [← getTSym_eq_of_getSeconds hsym]
    positivity
  exact_mod_cast Int.cast_pos.1 h

/-- An exact symbol lasts a nanosecond or more. -/
theorem one_le_tSym_mul (hbw : 0 < txParams.bandwidthHz) :
    1 ≤ (2 ^ txParams.sf.toNat / txParams.bandwidthHz : ℚ) * 1000000000 := by
  rw [getTSym_eq_of_getSeconds hsym]
  exact one_le_getTSym hsym hbw

/-- One spreading factor up, an exact symbol is exactly twice as long. -/
theorem getTSym_succ {sf : UInt8} (hsf : sf.toNat = txParams.sf.toNat + 1) :
    getTSym { txParams with sf := sf } = 2 * getTSym txParams := by
  refine getTSym_of_eq ?_
  dsimp only
  rw [hsf, pow_succ, Int.cast_mul, ← getTSym_eq_of_getSeconds hsym]
  push_cast
  ring

end ExactSymbol

/-! ## The unsigned numerator -/

theorem payloadTerm_toNat (pl : UInt32) (sf : UInt8) :
    ((payloadTerm pl sf).toNat : ℤ) = (8 * pl.toNat - 4 * sf.toNat + 28) % 2 ^ 32 := by
  have hsf := sf.toBitVec.isLt
  have hpl := pl.toBitVec.isLt
  simp only [payloadTerm, UInt32.toNat, UInt8.toUInt32, UInt32.add_def, UInt32.sub_def,
    UInt32.mul_def, BitVec.toNat_add, BitVec.toNat_sub, BitVec.toNat_mul, UInt32.toBitVec_ofNat,
    BitVec.toNat_ofNat, BitVec.toNat_ofFin]
  simp only [UInt8.toNat] at *
  omega

section NoWrap

variable {pl : UInt32} {txParams : LoraTxParameters}
  (h₀ : 4 * txParams.sf.toNat ≤ 8 * pl.toNat + 28)
  (h₁ : 8 * pl.toNat + 28 < 2 ^ 32 + 4 * txParams.sf.toNat)
include h₀ h₁

theorem onAirNum_of_le :
    onAirNum pl txParams = 8 * pl.toNat - 4 * txParams.sf.toNat + 28 +
      16 * flag txParams.crcEnabled - 20 * flag txParams.headerDisabled := by
  have h : (payloadTerm pl txParams.sf).toNat = 8 * pl.toNat + 28 - 4 * txParams.sf.toNat := by
    have := payloadTerm_toNat pl txParams.sf
    omega
  rw [onAirNum, h, Nat.cast_sub h₀]
  push_cast
  ring

end NoWrap

theorem onAirDen_pos {txParams : LoraTxParameters}
    (hsf : 2 * txParams.lowDataRateOptimizationEnabled.toNat < txParams.sf.toNat) :
    0 < onAirDen txParams := by
  have h : (2 * txParams.lowDataRateOptimizationEnabled.toNat : ℚ) < txParams.sf.toNat := by
    exact_mod_cast hsf
  rw [onAirDen, flag_eq_toNat]
  linarith

theorem four_le_onAirDen {txParams : LoraTxParameters}
    (hsf : 2 * txParams.lowDataRateOptimizationEnabled.toNat < txParams.sf.toNat) :
    4 ≤ onAirDen txParams := by
  have h : (2 * txParams.lowDataRateOptimizationEnabled.toNat + 1 : ℚ) ≤ txParams.sf.toNat := by
    exact_mod_cast hsf
  rw [onAirDen, flag_eq_toNat]
  linarith

/-- One spreading factor up, the numerator loses 4 and the denominator gains 4: for a positive
ceiling, the new ceiling is at least half the old one less one. -/
theorem ceil_le_two_mul_ceil {N D : ℚ} (hD : 4 ≤ D) (ha : 0 < ⌈N / D⌉) :
    ⌈N / D⌉ - 1 ≤ 2 * ⌈(N - 4) / (D + 4)⌉ := by
  have hN : 0 < N := (div_pos_iff_of_pos_right (by linarith)).1 (Int.ceil_pos.1 ha)
  have hkey : N / D - 1 ≤ 2 * ((N - 4) / (D + 4)) := by
    rw [div_sub_one (by positivity), mul_div_assoc', div_le_div_iff₀ (by positivity) (by positivity)]
    nlinarith [mul_nonneg (by linarith : 0 ≤ N + D) (by linarith : 0 ≤ D - 4)]
  have h₁ : (⌈N / D⌉ : ℚ) < N / D + 1 := Int.ceil_lt_add_one _
  have h₂ : (N - 4) / (D + 4) ≤ ⌈(N - 4) / (D + 4)⌉ := Int.le_ceil _
  have : ((⌈N / D⌉ - 2 : ℤ) : ℚ) < 2 * ⌈(N - 4) / (D + 4)⌉ := by
    push_cast
    linarith
  have : ⌈N / D⌉ - 2 < 2 * ⌈(N - 4) / (D + 4)⌉ := by exact_mod_cast this
  omega

/-- With at most 12 symbols per ceiling step, twice the new payload symbols make up for the old
ones but 12. -/
theorem symbols_le {a b k : ℤ} (hab : 0 < a → a - 1 ≤ 2 * b) (hk : 0 < k) (hk' : k ≤ 12) :
    max (a * k) 0 ≤ 2 * max (b * k) 0 + 12 := by
  have h₀ := le_max_right (b * k) 0
  refine max_le ?_ (by linarith)
  rcases le_or_lt a 0 with ha | ha
  · nlinarith
  · have h₁ := mul_le_mul_of_nonneg_right (hab ha) hk.le
    have h₂ := le_max_left (b * k) 0
    linarith

/-- The time on air in the shape of `GetOnAirTime`, one spreading factor up: the symbol time
doubles, and the payload symbols, at most 12 per step, fall by less than the preamble's
`4.25` symbols make up, which leaves a quarter of a symbol. -/
theorem onAirTime_add_le_succ {P t N D : ℚ} {k : ℤ} (hP : 17 / 4 ≤ P) (ht : 0 ≤ t) (hD : 4 ≤ D)
    (hk : 0 < k) (hk' : k ≤ 12) :
    P * t + (8 + max (⌈N / D⌉ * k) 0) * t + t / 4 ≤
      P * (2 * t) + (8 + max (⌈(N - 4) / (D + 4)⌉ * k) 0) * (2 * t) := by
  have hsym := symbols_le (ceil_le_two_mul_ceil (N := N) hD) hk hk'
  generalize max (⌈N / D⌉ * k) 0 = A at *
  generalize max (⌈(N - 4) / (D + 4)⌉ * k) 0 = B at *
  have hsym' : (A : ℚ) ≤ 2 * B + 12 := by exact_mod_cast hsym
  have h₁ := mul_le_mul_of_nonneg_right hsym' ht
  have h₂ := mul_le_mul_of_nonneg_right hP ht
  linarith

/-- At a symbol of 2 ns the rounding can swallow the step: with no preamble, an implicit header and
coding rate 8, a frame of 0 bytes lasts 48.5 ns at spreading factor 1, rounded to 49, and 49 ns at
spreading factor 2. -/
example : getOnAirTime 0 ⟨1, true, 8, 1000000000, 0, false, false⟩ =
    getOnAirTime 0 ⟨2, true, 8, 1000000000, 0, false, false⟩ := by
  have h₁ : getTSym ⟨1, true, 8, 1000000000, 0, false, false⟩ = 2 := getTSym_of_eq (by norm_num)
  have h₂ : getTSym ⟨2, true, 8, 1000000000, 0, false, false⟩ = 4 := getTSym_of_eq (by norm_num)
  have hp₁ : (payloadTerm 0 1).toNat = 24 := rfl
  have hp₂ : (payloadTerm 0 2).toNat = 20 := rfl
  have hl : llround (97 / 2) = 49 := by
    rw [llround_of_nonneg (by norm_num), show (97 / 2 + 1 / 2 : ℚ) = (49 : ℤ) by norm_num,
      Int.floor_intCast]
  norm_num [getOnAirTime_eq, h₁, h₂, Time.getSeconds, seconds, payloadSymbNb, onAirNum, onAirDen,
    flag, hp₁, hp₂, hl]

/-! ## A wrapping numerator -/

section Wrap

variable {pl : UInt32} {txParams : LoraTxParameters}

/-- `num` with the numerator as the integer it means, reduced modulo `2^32`. -/
theorem onAirNum_eq_emod : onAirNum pl txParams =
    (((8 * pl.toNat - 4 * txParams.sf.toNat + 28 : ℤ) % 2 ^ 32 : ℤ) : ℚ) +
      16 * flag txParams.crcEnabled - 20 * flag txParams.headerDisabled := by
  rw [onAirNum, ← payloadTerm_toNat, Int.cast_natCast]

/-- The SX1272 formula in the shape of `GetOnAirTime`, with the numerator unreduced. -/
theorem sx1272OnAirTime_eq : sx1272OnAirTime pl.toNat txParams =
    (txParams.nPreamble + 4.25) * (2 ^ txParams.sf.toNat / txParams.bandwidthHz) +
      (8 + max (⌈(((8 * pl.toNat - 4 * txParams.sf.toNat + 28 : ℤ) : ℚ) +
        16 * flag txParams.crcEnabled - 20 * flag txParams.headerDisabled) / onAirDen txParams⌉ *
          (txParams.codingRate.toNat + 4)) 0) * (2 ^ txParams.sf.toNat / txParams.bandwidthHz) := by
  rw [max_comm]
  simp only [Int.cast_add, Int.cast_sub, Int.cast_mul, Int.cast_ofNat, Int.cast_natCast]
  rfl

theorem onAirDen_le : onAirDen txParams ≤ 2 ^ 32 := by
  have h : (txParams.sf.toNat : ℚ) < 256 := by exact_mod_cast txParams.sf.toNat_lt_size
  have := flag_eq_toNat txParams.lowDataRateOptimizationEnabled
  rw [onAirDen, this]
  have : (0 : ℚ) ≤ txParams.lowDataRateOptimizationEnabled.toNat := Nat.cast_nonneg _
  linarith

/-- A numerator `2^32` larger ends in a later ceiling: the denominator is at most `2^32`. -/
theorem ceil_div_lt_of_wrap {x y : ℚ} (hden : 0 < onAirDen txParams) (h : x + 2 ^ 32 ≤ y) :
    ⌈x / onAirDen txParams⌉ < ⌈y / onAirDen txParams⌉ := by
  have hle : x / onAirDen txParams + 1 ≤ y / onAirDen txParams := by
    rw [div_add_one hden.ne', div_le_div_iff_of_pos_right hden]
    linarith [@onAirDen_le txParams]
  calc ⌈x / onAirDen txParams⌉ < ⌈x / onAirDen txParams⌉ + 1 := lt_add_one _
    _ = ⌈x / onAirDen txParams + 1⌉ := (Int.ceil_add_one _).symm
    _ ≤ ⌈y / onAirDen txParams⌉ := Int.ceil_mono hle

theorem flagTerm_mem_Icc (txParams : LoraTxParameters) :
    -20 ≤ 16 * flag txParams.crcEnabled - 20 * flag txParams.headerDisabled ∧
      16 * flag txParams.crcEnabled - 20 * flag txParams.headerDisabled ≤ 16 := by
  cases txParams.crcEnabled <;> cases txParams.headerDisabled <;> norm_num [flag]

variable (hsf : 2 * txParams.lowDataRateOptimizationEnabled.toNat < txParams.sf.toNat)
include hsf

/-- A positive numerator at least `2^32` above another takes a symbol longer on air or more: its
ceiling is later (`ceil_div_lt_of_wrap`), so it counts more payload symbols. -/
theorem onAirTime_add_le_of_wrap {x y t : ℚ} (ht : 0 ≤ t) (h : x + 2 ^ 32 ≤ y) (hy : 0 < y)
    (P : ℚ) :
    P * t + (8 + max (⌈x / onAirDen txParams⌉ * (txParams.codingRate.toNat + 4)) 0) * t + t ≤
      P * t + (8 + max (⌈y / onAirDen txParams⌉ * (txParams.codingRate.toNat + 4)) 0) * t := by
  have hden := onAirDen_pos hsf
  have hk : (0 : ℤ) < txParams.codingRate.toNat + 4 := by positivity
  have hpos : 0 < ⌈y / onAirDen txParams⌉ := Int.ceil_pos.2 (div_pos hy hden)
  have hlt : max (⌈x / onAirDen txParams⌉ * (txParams.codingRate.toNat + 4)) 0 <
      max (⌈y / onAirDen txParams⌉ * (txParams.codingRate.toNat + 4)) 0 :=
    lt_max_of_lt_left (max_lt (mul_lt_mul_of_pos_right (ceil_div_lt_of_wrap hden h) hk)
      (mul_pos hpos hk))
  generalize max (⌈x / onAirDen txParams⌉ * (txParams.codingRate.toNat + 4)) 0 = A at *
  generalize max (⌈y / onAirDen txParams⌉ * (txParams.codingRate.toNat + 4)) 0 = B at *
  have hAB : (A : ℚ) + 1 ≤ B := by exact_mod_cast hlt
  have h' := mul_le_mul_of_nonneg_right hAB ht
  linarith

variable (hbw : 0 < txParams.bandwidthHz)
  (hsym : (getTSym txParams).getSeconds = 2 ^ txParams.sf.toNat / txParams.bandwidthHz)
include hbw hsym

/-- A numerator below zero wraps up by `2^32`: the code counts more symbols than the formula. -/
theorem sx1272OnAirTime_lt_of_underflow (h : 8 * pl.toNat + 28 < 4 * txParams.sf.toNat) :
    seconds (sx1272OnAirTime pl.toNat txParams) < getOnAirTime pl txParams := by
  have hsf' : txParams.sf.toNat < 256 := txParams.sf.toNat_lt_size
  rw [sx1272OnAirTime_eq, getOnAirTime_eq, hsym, payloadSymbNb, onAirNum_eq_emod]
  generalize hn : (8 * pl.toNat - 4 * txParams.sf.toNat + 28 : ℤ) = n
  have hr : n % 2 ^ 32 = n + 2 ^ 32 := by omega
  have hlow : (-2 ^ 32 + 20 : ℚ) < n := by exact_mod_cast (show -2 ^ 32 + 20 < n by omega)
  have := flagTerm_mem_Icc txParams
  rw [hr, Int.cast_add]
  refine seconds_lt_seconds (by positivity) (one_le_tSym_mul hsym hbw)
    (onAirTime_add_le_of_wrap hsf (by positivity) (by push_cast; linarith) (by push_cast; linarith) _)

/-- A numerator of `2^32` or more wraps down by a multiple of `2^32`: the code counts fewer
symbols than the formula. -/
theorem getOnAirTime_lt_of_overflow (h : 2 ^ 32 + 4 * txParams.sf.toNat ≤ 8 * pl.toNat + 28) :
    getOnAirTime pl txParams < seconds (sx1272OnAirTime pl.toNat txParams) := by
  rw [sx1272OnAirTime_eq, getOnAirTime_eq, hsym, payloadSymbNb, onAirNum_eq_emod]
  generalize hn : (8 * pl.toNat - 4 * txParams.sf.toNat + 28 : ℤ) = n
  have hr : ((n % 2 ^ 32 : ℤ) : ℚ) + 2 ^ 32 ≤ n := by
    exact_mod_cast (show n % 2 ^ 32 + 2 ^ 32 ≤ n by omega)
  have hhigh : (2 ^ 32 : ℚ) ≤ n := by exact_mod_cast (show 2 ^ 32 ≤ n by omega)
  have := flagTerm_mem_Icc txParams
  refine seconds_lt_seconds (by positivity) (one_le_tSym_mul hsym hbw)
    (onAirTime_add_le_of_wrap hsf (by positivity) (by linarith) (by linarith) _)

end Wrap

/-- At spreading factor 8 a frame of 0 bytes wraps: `671088653` payload symbols where the
formula has 13, and longer on air than a frame of 4 bytes. -/
theorem getOnAirTime_wraps :
    getOnAirTime 0 ⟨8, false, 1, 125000, 8, true, false⟩ ≠
        seconds (sx1272OnAirTime 0 ⟨8, false, 1, 125000, 8, true, false⟩) ∧
      getOnAirTime 4 ⟨8, false, 1, 125000, 8, true, false⟩ <
        getOnAirTime 0 ⟨8, false, 1, 125000, 8, true, false⟩ := by
  have hT : getTSym ⟨8, false, 1, 125000, 8, true, false⟩ = 2048000 :=
    getTSym_of_eq (by norm_num)
  have h₀ : (payloadTerm 0 8).toNat = 4294967292 := rfl
  have h₄ : (payloadTerm 4 8).toNat = 28 := rfl
  have c₀ : ⌈(1073741827 : ℚ) / 8⌉ = 134217729 := by rw [Int.ceil_eq_iff]; norm_num
  have c₄ : ⌈(11 : ℚ) / 8⌉ = 2 := by rw [Int.ceil_eq_iff]; norm_num
  have c : ⌈(3 : ℚ) / 8⌉ = 1 := by rw [Int.ceil_eq_iff]; norm_num
  norm_num [getOnAirTime_eq, hT, Time.getSeconds, seconds, payloadSymbNb, onAirNum, onAirDen, flag,
    sx1272OnAirTime, h₀, h₄, c₀, c₄, c]

end Elora.Phy
