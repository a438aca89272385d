import Mathlib.Data.Rat.Floor
import Mathlib.Algebra.Order.Field.Rat
import Mathlib.Tactic.Linarith
import Mathlib.Tactic.Positivity

/-! Rounding exact decimals to a number of places: ties to even, and ties away from zero. -/
namespace FinancialOs.Library

/-- The nearest integer; a tie goes to the even neighbour. -/
def nearestEven (q : ℚ) : ℤ :=
  let low := ⌊q⌋
  let part := q - low
  if part < 1 / 2 then low
  else if 1 / 2 < part then low + 1
  else if low % 2 = 0 then low else low + 1

/-- Rounding to `places` decimals, ties to even. -/
def roundEven (q : ℚ) (places : ℕ) : ℚ := nearestEven (q * 10 ^ places) / 10 ^ places

/-- Rounding to `places` decimals, ties away from zero. -/
def roundHalfUp (q : ℚ) (places : ℕ) : ℚ :=
  let size : ℚ := ⌊|q| * 10 ^ places + 1 / 2⌋ / 10 ^ places
  if q < 0 then -size else size

@[simp] theorem roundHalfUp_zero (places : ℕ) : roundHalfUp 0 places = 0 := by
  have hfloor : ⌊(1 / 2 : ℚ)⌋ = 0 := by norm_num
  simp only [roundHalfUp, abs_zero, zero_mul, zero_add, hfloor, Int.cast_zero, zero_div, lt_irrefl, if_false]

theorem nearestEven_intCast (n : ℤ) : nearestEven n = n := by
  simp [nearestEven]

theorem floor_le_nearestEven (q : ℚ) : ⌊q⌋ ≤ nearestEven q := by
  unfold nearestEven
  dsimp only
  split_ifs <;> omega

theorem nearestEven_le_floor_add_one (q : ℚ) : nearestEven q ≤ ⌊q⌋ + 1 := by
  unfold nearestEven
  dsimp only
  split_ifs <;> omega

theorem nearestEven_mono {p q : ℚ} (h : p ≤ q) : nearestEven p ≤ nearestEven q := by
  have hf : ⌊p⌋ ≤ ⌊q⌋ := Int.floor_le_floor h
  rcases hf.lt_or_eq with hlt | heq
  · have := nearestEven_le_floor_add_one p
    have := floor_le_nearestEven q
    omega
  · unfold nearestEven
    dsimp only
    rw [heq]
    split_ifs <;> first | omega | linarith

theorem nearestEven_neg (q : ℚ) : nearestEven (-q) = -nearestEven q := by
  have hpart := Int.floor_le q
  rcases hpart.lt_or_eq with hlt | heq
  · have hceil : ⌈q⌉ = ⌊q⌋ + 1 := by
      rw [Int.ceil_eq_iff]
      push_cast
      have := Int.lt_floor_add_one q
      constructor
      · linarith
      · linarith
    have hfloor : ⌊-q⌋ = -⌊q⌋ - 1 := by
      rw [Int.floor_neg, hceil]
      ring
    unfold nearestEven
    dsimp only
    rw [hfloor]
    push_cast
    split_ifs <;> first | omega | (exfalso; linarith)
  · rw [← heq, nearestEven_intCast, ← Int.cast_neg, nearestEven_intCast]

theorem roundEven_neg (q : ℚ) (places : ℕ) : roundEven (-q) places = -roundEven q places := by
  unfold roundEven
  rw [neg_mul, nearestEven_neg]
  push_cast
  exact neg_div _ _

theorem roundEven_mono {p q : ℚ} (h : p ≤ q) (places : ℕ) :
    roundEven p places ≤ roundEven q places := by
  unfold roundEven
  have hs : p * 10 ^ places ≤ q * 10 ^ places := mul_le_mul_of_nonneg_right h (by positivity)
  exact div_le_div_of_nonneg_right (by exact_mod_cast nearestEven_mono hs) (by positivity)

theorem roundEven_min (p q : ℚ) (places : ℕ) : roundEven (min p q) places = min (roundEven p places) (roundEven q places) :=
  Monotone.map_min (f := fun q => roundEven q places) fun _ _ h => roundEven_mono h places

@[simp] theorem roundEven_zero (places : ℕ) : roundEven 0 places = 0 := by
  have := nearestEven_intCast 0
  simp only [Int.cast_zero] at this
  simp [roundEven, this]

theorem roundEven_nonneg {q : ℚ} (h : 0 ≤ q) (places : ℕ) : 0 ≤ roundEven q places := by
  simpa using roundEven_mono h places

theorem abs_nearestEven_sub_le (q : ℚ) : |(nearestEven q : ℚ) - q| ≤ 1 / 2 := by
  have hlow := Int.floor_le q
  have hhigh := Int.lt_floor_add_one q
  rw [abs_le]
  unfold nearestEven
  dsimp only
  split_ifs <;> push_cast <;> constructor <;> linarith

theorem abs_roundEven_sub_le (q : ℚ) (places : ℕ) : |roundEven q places - q| ≤ 1 / 2 / 10 ^ places := by
  have hten : (0 : ℚ) < 10 ^ places := by positivity
  have hq : q = q * 10 ^ places / 10 ^ places := by field_simp
  rw [roundEven]
  nth_rewrite 2 [hq]
  rw [← sub_div, abs_div, abs_of_pos hten]
  exact div_le_div_of_nonneg_right (abs_nearestEven_sub_le _) hten.le

theorem nearestEven_add_even (q : ℚ) (n : ℤ) : nearestEven (q + (2 * n : ℤ)) = nearestEven q + 2 * n := by
  have hfloor : ⌊q + (2 * n : ℤ)⌋ = ⌊q⌋ + 2 * n := Int.floor_add_intCast q (2 * n)
  unfold nearestEven
  dsimp only
  rw [hfloor]
  push_cast
  split_ifs <;> first | omega | (exfalso; linarith)

/-- Whole numbers stay what they are under a rounding to decimals. -/
theorem roundEven_add_intCast (q : ℚ) (n : ℤ) {places : ℕ} (h : 1 ≤ places) :
    roundEven (q + n) places = roundEven q places + n := by
  obtain ⟨m, rfl⟩ := Nat.exists_eq_add_of_le h
  have hp : (10 ^ (1 + m) : ℚ) ≠ 0 := by positivity
  have hshift : (q + n) * 10 ^ (1 + m) = q * 10 ^ (1 + m) + (2 * (n * 5 * 10 ^ m) : ℤ) := by
    push_cast
    ring
  have heven : ((2 * (n * 5 * 10 ^ m) : ℤ) : ℚ) = n * 10 ^ (1 + m) := by
    push_cast
    ring
  rw [roundEven, hshift, nearestEven_add_even, Int.cast_add, heven, add_div, mul_div_cancel_right₀ _ hp]
  rfl

theorem nearestEven_add_half (m : ℤ) : nearestEven (m + 1 / 2) = if m % 2 = 0 then m else m + 1 := by
  have hfloor : ⌊(m : ℚ) + 1 / 2⌋ = m := by
    rw [Int.floor_eq_iff]
    constructor
    · linarith
    · linarith
  unfold nearestEven
  dsimp only
  rw [hfloor, if_neg (by linarith), if_neg (by linarith)]

/-- What is rounded down to a number: up to half a step above it, and half a step above an even one. -/
theorem nearestEven_le_iff (q : ℚ) (m : ℤ) :
    nearestEven q ≤ m ↔ q < m + 1 / 2 ∨ q = m + 1 / 2 ∧ m % 2 = 0 := by
  have hq := abs_le.mp (abs_nearestEven_sub_le q)
  rcases lt_trichotomy q (m + 1 / 2) with hlt | rfl | hgt
  · have hle : (nearestEven q : ℚ) < (m + 1 : ℤ) := by
      push_cast
      linarith
    have hle : nearestEven q < m + 1 := by exact_mod_cast hle
    exact iff_of_true (by omega) (.inl hlt)
  · rw [nearestEven_add_half]
    simp only [lt_irrefl, true_and, false_or]
    split_ifs <;> omega
  · have hlt : (m : ℚ) < nearestEven q := by linarith
    have hlt : m < nearestEven q := by exact_mod_cast hlt
    refine iff_of_false (by omega) ?_
    rintro (h | ⟨h, -⟩)
    · linarith
    · linarith

theorem le_nearestEven_iff (q : ℚ) (m : ℤ) :
    m ≤ nearestEven q ↔ m - 1 / 2 < q ∨ q = m - 1 / 2 ∧ m % 2 = 0 := by
  have h := nearestEven_le_iff (-q) (-m)
  rw [nearestEven_neg, neg_le_neg_iff] at h
  rw [h]
  push_cast
  refine or_congr ?_ (and_congr ?_ (by omega))
  · constructor <;> intro h <;> linarith
  · constructor <;> intro h <;> linarith

/-- Where a value is rounded to: within half a step, and to an even number from half a step away. -/
theorem nearestEven_bounds (q : ℚ) : (nearestEven q - 1 / 2 < q ∨ q = nearestEven q - 1 / 2 ∧ nearestEven q % 2 = 0) ∧
    (q < nearestEven q + 1 / 2 ∨ q = nearestEven q + 1 / 2 ∧ nearestEven q % 2 = 0) :=
  ⟨(le_nearestEven_iff q _).mp (le_refl _), (nearestEven_le_iff q _).mp (le_refl _)⟩

/-- Taking off the rounded difference leaves the rounded rest, unless one value is rounded up from half a
step below and the other to an odd number. -/
theorem nearestEven_le_sub_iff (x y : ℚ) :
    nearestEven y ≤ nearestEven (x - nearestEven (nearestEven x - y)) ↔
      ¬ (x = nearestEven x - 1 / 2 ∧ nearestEven y % 2 = 1 ∨ y = nearestEven y - 1 / 2 ∧ nearestEven x % 2 = 1) := by
  have hx := nearestEven_bounds x
  have hy := nearestEven_bounds y
  have hxy := nearestEven_bounds (nearestEven x - y)
  rw [le_nearestEven_iff]
  generalize nearestEven x = m at *
  generalize nearestEven y = n at *
  generalize nearestEven (m - y) = g at *
  have hge : (m - n - 1 : ℤ) ≤ g := by
    by_contra hlt
    have hlt : (g : ℚ) ≤ (m - n - 2 : ℤ) := by exact_mod_cast (by omega : g ≤ m - n - 2)
    push_cast at hlt
    grind
  have hle : g ≤ m - n + 1 := by
    by_contra hlt
    have hlt : ((m - n + 2 : ℤ) : ℚ) ≤ g := by exact_mod_cast (by omega : m - n + 2 ≤ g)
    push_cast at hlt
    grind
  obtain rfl | rfl | rfl : g = m - n - 1 ∨ g = m - n ∨ g = m - n + 1 := by omega
  · push_cast at hxy ⊢
    grind
  · push_cast at hxy ⊢
    grind
  · push_cast at hxy ⊢
    grind

/-- Two values a whole number apart round alike only as the two halves beside an even number. -/
theorem nearestEven_add_int_iff (q : ℚ) (d : ℤ) : nearestEven (q + d) = nearestEven q ↔
    d = 0 ∨ ∃ k : ℤ, q = 2 * k - 1 / 2 ∧ d = 1 ∨ q = 2 * k + 1 / 2 ∧ d = -1 := by
  have halt (k : ℤ) : nearestEven ((2 * k : ℚ) - 1 / 2) = 2 * k := by
    have hq : (2 * k : ℚ) - 1 / 2 = ((2 * k - 1 : ℤ) : ℚ) + 1 / 2 := by
      push_cast
      ring
    rw [hq, nearestEven_add_half, if_neg (by omega)]
    omega
  have hust (k : ℤ) : nearestEven ((2 * k : ℚ) + 1 / 2) = 2 * k := by
    have hq : (2 * k : ℚ) + 1 / 2 = ((2 * k : ℤ) : ℚ) + 1 / 2 := by
      push_cast
      ring
    rw [hq, nearestEven_add_half, if_pos (by omega)]
  constructor
  · intro h
    have hx := abs_le.mp (abs_nearestEven_sub_le q)
    have hy := abs_le.mp (abs_nearestEven_sub_le (q + d))
    rw [h] at hy
    have hle : (d : ℚ) ≤ 1 := by linarith
    have hge : (-1 : ℚ) ≤ d := by linarith
    have hle : d ≤ 1 := by exact_mod_cast hle
    have hge : -1 ≤ d := by exact_mod_cast hge
    generalize hm : nearestEven q = m at hx hy
    obtain rfl | rfl | rfl : d = 0 ∨ d = 1 ∨ d = -1 := by omega
    · exact .inl rfl
    · push_cast at hy
      have hq : q = ((m - 1 : ℤ) : ℚ) + 1 / 2 := by
        push_cast
        linarith
      rw [hq, nearestEven_add_half] at hm
      split at hm
      · omega
      · refine .inr ⟨m / 2, .inl ⟨?_, rfl⟩⟩
        have hk : m = 2 * (m / 2) := by omega
        have hk : (m : ℚ) = 2 * (m / 2 : ℤ) := by exact_mod_cast hk
        rw [hq, ← hk]
        push_cast
        ring
    · push_cast at hy
      have hq : q = (m : ℚ) + 1 / 2 := by linarith
      rw [hq, nearestEven_add_half] at hm
      split at hm
      · refine .inr ⟨m / 2, .inr ⟨?_, rfl⟩⟩
        have hk : m = 2 * (m / 2) := by omega
        have hk : (m : ℚ) = 2 * (m / 2 : ℤ) := by exact_mod_cast hk
        rw [hq, ← hk]
      · omega
  · rintro (rfl | ⟨k, ⟨rfl, rfl⟩ | ⟨rfl, rfl⟩⟩)
    · simp
    · rw [halt]
      have hq : (2 * k - 1 / 2 : ℚ) + ((1 : ℤ) : ℚ) = 2 * k + 1 / 2 := by
        push_cast
        ring
      rw [hq, hust]
    · rw [hust]
      have hq : (2 * k + 1 / 2 : ℚ) + ((-1 : ℤ) : ℚ) = 2 * k - 1 / 2 := by
        push_cast
        ring
      rw [hq, halt]

/-- A value already rounded to the same places is a fixed point. -/
theorem roundEven_idem (q : ℚ) (places : ℕ) :
    roundEven (roundEven q places) places = roundEven q places := by
  have hp : (10 ^ places : ℚ) ≠ 0 := by positivity
  unfold roundEven
  rw [div_mul_cancel₀ _ hp, nearestEven_intCast]

/-- More places keep a value that is already rounded to fewer. -/
theorem roundEven_of_le (q : ℚ) {m n : ℕ} (h : m ≤ n) :
    roundEven (roundEven q m) n = roundEven q m := by
  obtain ⟨d, rfl⟩ := Nat.exists_eq_add_of_le h
  have hm : (10 ^ m : ℚ) ≠ 0 := by positivity
  have hd : (10 ^ d : ℚ) ≠ 0 := by positivity
  have hshift : roundEven q m * 10 ^ (m + d) = ((nearestEven (q * 10 ^ m) * 10 ^ d : ℤ) : ℚ) := by
    rw [roundEven, pow_add, ← mul_assoc, div_mul_cancel₀ _ hm]
    push_cast
    rfl
  rw [roundEven, hshift, nearestEven_intCast, roundEven, pow_add]
  push_cast
  exact mul_div_mul_right _ _ hd

/-- A decimal of at most so many places. -/
def HasPlaces (places : ℕ) (q : ℚ) : Prop := ∃ m : ℤ, q = m / 10 ^ places

section Places
variable {places : ℕ} {p q : ℚ}

theorem hasPlaces_zero : HasPlaces places 0 := ⟨0, by simp⟩

theorem hasPlaces_roundEven (q : ℚ) (places : ℕ) : HasPlaces places (roundEven q places) := ⟨_, rfl⟩

theorem HasPlaces.sub (hp : HasPlaces places p) (hq : HasPlaces places q) : HasPlaces places (p - q) := by
  obtain ⟨m, rfl⟩ := hp
  obtain ⟨n, rfl⟩ := hq
  refine ⟨m - n, ?_⟩
  push_cast
  rw [sub_div]

theorem HasPlaces.add (hp : HasPlaces places p) (hq : HasPlaces places q) : HasPlaces places (p + q) := by
  obtain ⟨m, rfl⟩ := hp
  obtain ⟨n, rfl⟩ := hq
  refine ⟨m + n, ?_⟩
  push_cast
  rw [add_div]

theorem HasPlaces.max (hp : HasPlaces places p) (hq : HasPlaces places q) : HasPlaces places (max p q) := by
  rcases max_choice p q with h | h
  · rwa [h]
  · rwa [h]

/-- Rounding keeps these decimals and no others. -/
theorem roundEven_eq_self : roundEven q places = q ↔ HasPlaces places q := by
  constructor
  · intro h
    rw [← h]
    exact hasPlaces_roundEven q places
  · rintro ⟨m, rfl⟩
    have hp : (10 ^ places : ℚ) ≠ 0 := by positivity
    rw [roundEven, div_mul_cancel₀ _ hp, nearestEven_intCast]

end Places

/-- Half a hundredth rounds to nothing. -/
theorem roundEven_half_hundredth : roundEven (1 / 200) 2 = 0 := by
  have hhalf : 1 / 200 * 10 ^ 2 = (1 / 2 : ℚ) := by norm_num
  have hnear : nearestEven (1 / 2) = 0 := by norm_num [nearestEven]
  rw [roundEven, hhalf, hnear, Int.cast_zero, zero_div]

example : roundHalfUp (-5 / 1000) 2 = -1 / 100 := by decide +kernel

section AwayFromZero
variable {q z : ℚ} {places : ℕ}

theorem roundHalfUp_of_nonneg (h : 0 ≤ q) : roundHalfUp q places = ⌊q * 10 ^ places + 1 / 2⌋ / 10 ^ places := by
  unfold roundHalfUp
  dsimp only
  rw [if_neg h.not_gt, abs_of_nonneg h]

theorem roundHalfUp_neg (q : ℚ) (places : ℕ) : roundHalfUp (-q) places = -roundHalfUp q places := by
  rcases lt_trichotomy q 0 with hq | rfl | hq
  · unfold roundHalfUp
    dsimp only
    rw [abs_neg, if_neg (by linarith), if_pos hq, neg_neg]
  · simp
  · unfold roundHalfUp
    dsimp only
    rw [abs_neg, if_pos (by linarith), if_neg (by linarith)]

theorem roundHalfUp_bounds (h : 0 ≤ q) (places : ℕ) :
    roundHalfUp q places - 1 / 2 / 10 ^ places ≤ q ∧ q < roundHalfUp q places + 1 / 2 / 10 ^ places := by
  have hten : (0 : ℚ) < 10 ^ places := by positivity
  have hlow := Int.floor_le (q * 10 ^ places + 1 / 2)
  have hhigh := Int.lt_floor_add_one (q * 10 ^ places + 1 / 2)
  rw [roundHalfUp_of_nonneg h, ← sub_div, ← add_div, div_le_iff₀ hten, lt_div_iff₀ hten]
  constructor
  · linarith
  · linarith

theorem floor_add_half_of_fract_lt (h : Int.fract q < 1 / 2) : ⌊q + 1 / 2⌋ = ⌊q⌋ := by
  have hfract := Int.self_sub_floor q
  have hnonneg := Int.fract_nonneg q
  rw [Int.floor_eq_iff]
  constructor
  · linarith
  · linarith

theorem floor_add_half_of_le_fract (h : 1 / 2 ≤ Int.fract q) : ⌊q + 1 / 2⌋ = ⌊q⌋ + 1 := by
  have hfract := Int.self_sub_floor q
  have hlt := Int.fract_lt_one q
  rw [Int.floor_eq_iff]
  push_cast
  constructor
  · linarith
  · linarith

/-- Rounding does not take anything away exactly if there is nothing behind the places, or at least a half. -/
theorem le_roundHalfUp_iff (h : 0 ≤ q) : q ≤ roundHalfUp q places ↔
    Int.fract (q * 10 ^ places) = 0 ∨ 1 / 2 ≤ Int.fract (q * 10 ^ places) := by
  have hten : (0 : ℚ) < 10 ^ places := by positivity
  have hfract := Int.self_sub_floor (q * 10 ^ places)
  have hnonneg := Int.fract_nonneg (q * 10 ^ places)
  have hlt := Int.fract_lt_one (q * 10 ^ places)
  rw [roundHalfUp_of_nonneg h, le_div_iff₀ hten]
  rcases lt_or_ge (Int.fract (q * 10 ^ places)) (1 / 2) with hsmall | hlarge
  · rw [floor_add_half_of_fract_lt hsmall, or_iff_left hsmall.not_ge]
    constructor
    · intro hle
      linarith
    · intro hzero
      linarith
  · rw [floor_add_half_of_le_fract hlarge]
    push_cast
    exact iff_of_true (by linarith) (.inr hlarge)

theorem floor_add_half_eq_iff (h : 0 ≤ q) (n : ℤ) :
    ⌊q + 1 / 2⌋ = n ↔ |q - n| < 1 / 2 ∨ |q - n| = 1 / 2 ∧ (0 < q ↔ q < n) := by
  have hzero : q = 0 → |q - n| ≠ 1 / 2 := by
    rintro rfl hn
    rw [zero_sub, abs_neg] at hn
    have h2 : ((2 * |n| : ℤ) : ℚ) = (1 : ℤ) := by
      push_cast
      linarith
    have := Int.cast_injective h2
    omega
  have hpos : |q - n| = 1 / 2 → 0 < q := fun hn => lt_of_le_of_ne h fun h0 => hzero h0.symm hn
  rw [Int.floor_eq_iff]
  constructor
  · rintro ⟨hlow, hhigh⟩
    rcases lt_or_eq_of_le (show (n : ℚ) - 1 / 2 ≤ q by linarith) with hlt | heq
    · exact .inl (abs_lt.mpr ⟨by linarith, by linarith⟩)
    · have habs : |q - n| = 1 / 2 := by
        rw [← heq, sub_sub_cancel_left, abs_neg]
        norm_num
      exact .inr ⟨habs, iff_of_true (hpos habs) (by linarith)⟩
  · rintro (hlt | ⟨habs, hside⟩)
    · obtain ⟨hlow, hhigh⟩ := abs_lt.mp hlt
      exact ⟨by linarith, by linarith⟩
    · have hbelow := hside.mp (hpos habs)
      rw [abs_of_neg (by linarith)] at habs
      exact ⟨by linarith, by linarith⟩

/-- The number with so many places that another one rounds to: the nearest, and of two the one away from zero. -/
theorem roundHalfUp_eq_iff (hz : HasPlaces places z) : roundHalfUp q places = z ↔
    |q - z| < 1 / 2 / 10 ^ places ∨ |q - z| = 1 / 2 / 10 ^ places ∧ (0 < q ↔ q < z) := by
  have hten : (0 : ℚ) < 10 ^ places := by positivity
  have hnonneg {q z : ℚ} (hq : 0 ≤ q) (hz : HasPlaces places z) : roundHalfUp q places = z ↔
      |q - z| < 1 / 2 / 10 ^ places ∨ |q - z| = 1 / 2 / 10 ^ places ∧ (0 < q ↔ q < z) := by
    obtain ⟨n, rfl⟩ := hz
    have hscale : q - n / 10 ^ places = (q * 10 ^ places - n) / 10 ^ places := by
      rw [sub_div, mul_div_cancel_right₀ _ hten.ne']
    rw [roundHalfUp_of_nonneg hq, div_left_inj' hten.ne', Int.cast_inj,
      floor_add_half_eq_iff (mul_nonneg hq hten.le), hscale, abs_div, abs_of_pos hten, div_lt_div_iff_of_pos_right hten,
      div_left_inj' hten.ne', mul_pos_iff_of_pos_right hten, lt_div_iff₀ hten]
  rcases le_or_gt 0 q with hq | hq
  · exact hnonneg hq hz
  · have hneg : HasPlaces places (-z) := by simpa using hasPlaces_zero.sub hz
    have h := hnonneg (neg_nonneg.mpr hq.le) hneg
    rw [roundHalfUp_neg, neg_inj, neg_sub_neg, abs_sub_comm, neg_lt_neg_iff, neg_pos] at h
    rw [h]
    refine or_congr_right (and_congr_right fun habs => ?_)
    have hne : q ≠ z := by
      rintro rfl
      rw [sub_self, abs_zero] at habs
      exact (show (0 : ℚ) ≠ 1 / 2 / 10 ^ places by positivity) habs
    constructor
    · intro hside
      exact iff_of_false hq.not_gt (hside.mp hq).not_gt
    · intro hside
      exact iff_of_true hq (lt_of_le_of_ne (not_lt.mp fun hlt => hq.not_gt (hside.mpr hlt)) hne.symm)

end AwayFromZero
end FinancialOs.Library
