import FinancialOs.Library.PythonScalars

/-! The value that a text of decimal digits is read as, with and without a decimal point. -/
namespace FinancialOs.Library.NumberText
variable {ds es rest cs : List Char} {c : Char}

theorem ne_of_isDigit {d : Char} (hc : c.isDigit = true) (hd : d.isDigit = false) : c ≠ d := by
  rintro rfl
  rw [hd] at hc
  cases hc

theorem digits_cons (hc : c.isDigit = true) (value count : ℕ) :
    digits (c :: rest) value count = digits rest (10 * value + (c.toNat - 48)) (count + 1) := by
  have hne : c ≠ '_' := ne_of_isDigit hc rfl
  rw [digits, if_pos hc]
  rintro d r rfl
  exact absurd rfl hne

theorem digits_stop (h : ∀ c ∈ rest.head?, c.isDigit = false ∧ c ≠ '_') (value count : ℕ) :
    digits rest value count = (value, count, rest) := by
  cases rest with
  | nil => rfl
  | cons c rest =>
    obtain ⟨hc, hne⟩ := h c rfl
    rw [digits, hc]
    · rfl
    · rintro d r rfl
      exact absurd rfl hne

/-- A run of digits is read to its end. -/
theorem digits_append (hds : ∀ c ∈ ds, c.isDigit = true)
    (hrest : ∀ c ∈ rest.head?, c.isDigit = false ∧ c ≠ '_') (value count : ℕ) :
    digits (ds ++ rest) value count = (Nat.ofDigitChars 10 ds value, count + ds.length, rest) := by
  induction ds generalizing value count with
  | nil => exact digits_stop hrest value count
  | cons c ds ih =>
    obtain ⟨hc, hds⟩ := List.forall_mem_cons.mp hds
    rw [List.cons_append, digits_cons hc, ih hds, Nat.ofDigitChars_cons, List.length_cons]
    congr 2
    omega

theorem isBlank_of_isDigit (hc : c.isDigit = true) : isBlank c = false := by
  have hrange := Char.isDigit_iff_toNat.mp hc
  have hne : ∀ d : Char, d.toNat < 48 → c ≠ d := by
    rintro d hd rfl
    have h48 : '0'.toNat = 48 := rfl
    omega
  have h48 : '0'.toNat = 48 := rfl
  refine decide_eq_false ?_
  rintro (h | h | h | h | h | h)
  · exact hne ' ' (by decide) h
  · exact hne '\t' (by decide) h
  · exact hne '\n' (by decide) h
  · exact hne '\r' (by decide) h
  · omega
  · omega

theorem toLower_of_isDigit (hc : c.isDigit = true) : c.toLower = c := by
  have hupper : ¬(c.val ≥ 'A'.val ∧ c.val ≤ 'Z'.val) := by
    rintro ⟨h, -⟩
    have hle : 65 ≤ c.toNat := UInt32.le_iff_toNat_le.mp h
    have hnine : c.toNat ≤ 57 := (Char.isDigit_iff_toNat.mp hc).2
    omega
  exact dif_neg hupper

theorem strip_of_not_blank (h : ∀ c ∈ cs, isBlank c = false) : strip cs = cs := by
  have hself : ∀ l : List Char, (∀ c ∈ l, isBlank c = false) → l.dropWhile isBlank = l := by
    intro l hl
    cases l with
    | nil => rfl
    | cons c l => rw [List.dropWhile_cons_of_neg (by simp [hl c List.mem_cons_self])]
  have hrev : ∀ c ∈ cs.reverse, isBlank c = false := fun c hc => h c (List.mem_reverse.mp hc)
  rw [strip, hself cs h, hself _ hrev, List.reverse_reverse]

/-- What begins with a digit has no sign and is no word. -/
theorem read_of_isDigit (hc : c.isDigit = true) (hcs : ∀ d ∈ c :: cs, isBlank d = false) :
    read (String.ofList (c :: cs)) =
      (let (whole, wholeCount, rest) := digits (c :: cs) 0 0
      let (fraction, fractionCount, rest) :=
        match rest with
        | '.' :: rest => digits rest 0 0
        | rest => (0, 0, rest)
      if wholeCount + fractionCount = 0 then none
      else (exponent rest).map fun power =>
        scaled false (whole * 10 ^ fractionCount + fraction) (wholeCount + fractionCount)
          (power - fractionCount)) := by
  have hsign : sign (c :: cs) = (false, c :: cs) := by
    rw [sign]
    · rintro r hr
      exact ne_of_isDigit hc rfl (List.cons.inj hr).1
    · rintro r hr
      exact ne_of_isDigit hc rfl (List.cons.inj hr).1
  have hlower : ∀ d w, d.isDigit = false → (c :: cs).map Char.toLower ≠ d :: w := by
    intro d w hd h
    rw [List.map_cons, toLower_of_isDigit hc] at h
    exact ne_of_isDigit hc hd (List.cons.inj h).1
  have hinf : ¬((c :: cs).map Char.toLower = "inf".toList ∨ (c :: cs).map Char.toLower = "infinity".toList) := by
    rintro (h | h)
    · exact hlower 'i' _ rfl h
    · exact hlower 'i' _ rfl h
  have hnan : (c :: cs).map Char.toLower ≠ "nan".toList := hlower 'n' _ rfl
  rw [read, String.toList_ofList, strip_of_not_blank hcs, hsign]
  exact (if_neg hinf).trans (if_neg hnan)

/-- A text of digits. -/
theorem read_digits (hne : ds ≠ []) (hds : ∀ c ∈ ds, c.isDigit = true) :
    read (String.ofList ds) = some (scaled false (Nat.ofDigitChars 10 ds 0) ds.length 0) := by
  have hdigits := @digits_append ds [] hds (by simp) 0 0
  rw [List.append_nil] at hdigits
  have hlen : ds.length ≠ 0 := by simpa using hne
  cases ds with
  | nil => exact absurd rfl hne
  | cons c ds =>
    rw [read_of_isDigit (hds c List.mem_cons_self) fun d hd => isBlank_of_isDigit (hds d hd), hdigits]
    simp [exponent]

/-- Digits, a point and digits. -/
theorem read_point (hne : ds ≠ []) (hds : ∀ c ∈ ds, c.isDigit = true) (hes : ∀ c ∈ es, c.isDigit = true) :
    read (String.ofList (ds ++ '.' :: es)) =
      some (scaled false (Nat.ofDigitChars 10 (ds ++ es) 0) (ds.length + es.length) (-es.length)) := by
  have hpoint : ∀ c ∈ ('.' :: es).head?, c.isDigit = false ∧ c ≠ '_' := by
    rintro c ⟨rfl⟩
    exact ⟨rfl, by decide⟩
  have hwhole := digits_append hds hpoint 0 0
  have hfraction := @digits_append es [] hes (by simp) 0 0
  rw [List.append_nil] at hfraction
  have hblank : ∀ d ∈ ds ++ '.' :: es, isBlank d = false := by
    intro d hd
    rcases List.mem_append.mp hd with hd | hd
    · exact isBlank_of_isDigit (hds d hd)
    rcases List.mem_cons.mp hd with rfl | hd
    · rfl
    · exact isBlank_of_isDigit (hes d hd)
  have hvalue : Nat.ofDigitChars 10 ds 0 * 10 ^ es.length + Nat.ofDigitChars 10 es 0 =
      Nat.ofDigitChars 10 (ds ++ es) 0 := by
    rw [Nat.ofDigitChars_append, @Nat.ofDigitChars_eq_ofDigitChars_zero es (Nat.ofDigitChars 10 ds 0), Nat.mul_comm]
  have hlen : ds.length ≠ 0 := by simpa using hne
  cases ds with
  | nil => exact absurd rfl hne
  | cons c ds =>
    rw [List.cons_append] at hwhole hblank ⊢
    rw [read_of_isDigit (hds c List.mem_cons_self) hblank, hwhole]
    simp only [hfraction, Nat.zero_add, hvalue]
    simp [exponent]

/-- Below the largest double a few digits are read exactly. -/
theorem scaled_eq {mantissa count : ℕ} {power : ℤ} (hcount : count ≤ 300) (hlow : -50 ≤ power) (hpower : power ≤ 0)
    (hle : mantissa < 10 ^ 300) : scaled false mantissa count power = .finite (mantissa * 10 ^ power) := by
  by_cases hzero : mantissa = 0
  · rw [scaled, if_pos (.inl hzero), hzero]
    simp
  have hlow' : ¬(mantissa = 0 ∨ (count : ℤ) + power < -400) := by omega
  have hhigh : ¬400 < (count : ℤ) + power := by omega
  have hdouble : (10 : ℚ) ^ 300 + 2 ^ 970 < 2 ^ 1024 := by
    have h : 10 ^ 300 + 2 ^ 970 < 2 ^ 1024 := by decide +kernel
    exact_mod_cast h
  have hsize : (mantissa : ℚ) * 10 ^ power < 2 ^ 1024 - 2 ^ 970 := by
    have hone : (10 : ℚ) ^ power ≤ 1 := zpow_le_one_of_nonpos₀ (by norm_num) hpower
    calc (mantissa : ℚ) * 10 ^ power ≤ mantissa * 1 := by gcongr
      _ < 10 ^ 300 := by
        rw [mul_one]
        exact_mod_cast hle
      _ < 2 ^ 1024 - 2 ^ 970 := lt_sub_iff_add_lt.mpr hdouble
  rw [scaled, if_neg hlow', if_neg hhigh]
  simp only [if_neg (not_le.mpr hsize), Bool.false_eq_true, if_false]

end FinancialOs.Library.NumberText
