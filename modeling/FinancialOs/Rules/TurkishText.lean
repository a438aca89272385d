import FinancialOs.Rules.QuickEntry

/-! The folding of Turkish text that every keyword pattern is matched against. -/
namespace FinancialOs.Rules
open Library

/-- The letters of `TR_NORM` that are not folded yet. -/
def turkceHarfler : List Char := ['ç', 'ğ', 'ı', 'ö', 'ş', 'ü', 'Ç', 'Ğ', 'İ', 'Ö', 'Ş', 'Ü']

/-- `_BIRLESIK_NOKTA`. -/
def birlesikNokta : Char := '\u0307'

/-- The lower case of single characters, apart from that of the dotted capital I. -/
structure KucukHarfler where
  kucuk : Char → Char
  kucuk_kucuk : ∀ c, kucuk (kucuk c) = kucuk c
  /-- No letter outside the table has a letter of the table as its lower case. -/
  kucuk_turkce : ∀ c, c ∉ turkceHarfler → kucuk c ∉ turkceHarfler
  kucuk_nokta : ∀ c, kucuk c = birlesikNokta ↔ c = birlesikNokta

/-- `str.lower` on one character. -/
def KucukHarfler.lower (k : KucukHarfler) (c : Char) : List Char :=
  if c = 'İ' then ['i', birlesikNokta] else [k.kucuk c]

/-- `normalize`. -/
def normalize (k : KucukHarfler) (metin : List Char) : List Char :=
  ((metin.map trHarf).flatMap k.lower).filter (· ≠ birlesikNokta)

/-- What `normalize` makes of one character. -/
def katlanmis (k : KucukHarfler) (c : Char) : Char := k.kucuk (trHarf c)

theorem trHarf_of_notMem {c : Char} (h : c ∉ turkceHarfler) : trHarf c = c := by
  simp only [turkceHarfler, List.mem_cons, List.not_mem_nil, or_false, not_or] at h
  obtain ⟨h₁, h₂, h₃, h₄, h₅, h₆, h₇, h₈, h₉, h₁₀, h₁₁, h₁₂⟩ := h
  simp only [trHarf, if_neg h₁, if_neg h₂, if_neg h₃, if_neg h₄, if_neg h₅, if_neg h₆, if_neg h₇, if_neg h₈,
    if_neg h₉, if_neg h₁₀, if_neg h₁₁, if_neg h₁₂]

/-- Every letter of the table goes to a letter outside of it, and none to the combining dot. -/
theorem trHarf_of_mem {c : Char} (h : c ∈ turkceHarfler) :
    trHarf c ∉ turkceHarfler ∧ trHarf c ≠ birlesikNokta ∧ c ≠ birlesikNokta := by
  have hall : turkceHarfler.all (fun c => trHarf c ∉ turkceHarfler ∧ trHarf c ≠ birlesikNokta ∧ c ≠ birlesikNokta) := by
    decide
  exact of_decide_eq_true (List.all_eq_true.mp hall c h)

theorem trHarf_turkce (c : Char) : trHarf c ∉ turkceHarfler := by
  by_cases h : c ∈ turkceHarfler
  · exact (trHarf_of_mem h).1
  · rwa [trHarf_of_notMem h]

theorem trHarf_nokta (c : Char) : trHarf c = birlesikNokta ↔ c = birlesikNokta := by
  by_cases h : c ∈ turkceHarfler
  · obtain ⟨-, hfold, hc⟩ := trHarf_of_mem h
    exact iff_of_false hfold hc
  · rw [trHarf_of_notMem h]

section Folding
variable (k : KucukHarfler)

theorem katlanmis_turkce (c : Char) : katlanmis k c ∉ turkceHarfler := k.kucuk_turkce _ (trHarf_turkce c)

theorem katlanmis_nokta (c : Char) : katlanmis k c = birlesikNokta ↔ c = birlesikNokta := by
  rw [katlanmis, k.kucuk_nokta, trHarf_nokta]

theorem katlanmis_katlanmis (c : Char) : katlanmis k (katlanmis k c) = katlanmis k c := by
  rw [katlanmis, trHarf_of_notMem (katlanmis_turkce k c), katlanmis, k.kucuk_kucuk]

/-- Folding is character by character, apart from the combining dots that are left out. -/
theorem normalize_eq (metin : List Char) :
    normalize k metin = (metin.filter (· ≠ birlesikNokta)).map (katlanmis k) := by
  induction metin with
  | nil => rfl
  | cons c metin ih =>
    have hbuyuk : trHarf c ≠ 'İ' := by
      intro h
      apply trHarf_turkce c
      rw [h]
      decide
    have htek : k.lower (trHarf c) = [katlanmis k c] := if_neg hbuyuk
    rw [normalize, List.map_cons, List.flatMap_cons, htek, List.filter_append, List.filter_singleton]
    change _ ++ normalize k metin = _
    rw [ih]
    by_cases hc : c = birlesikNokta
    · rw [List.filter_cons_of_neg (by simpa using hc), decide_eq_false (by simpa [katlanmis_nokta] using hc)]
      rfl
    · rw [List.filter_cons_of_pos (by simpa using hc), decide_eq_true (by simpa [katlanmis_nokta] using hc)]
      rfl

end Folding

section Latin
variable {c : Char}

theorem toLower_of_not_isUpper (h : c.isUpper = false) : c.toLower = c := by
  have hrange : ¬ (c.val ≥ 'A'.val ∧ c.val ≤ 'Z'.val) := of_decide_eq_false h
  exact dif_neg hrange

theorem mem_of_isUpper (h : c.isUpper = true) : c ∈ (List.range' 65 26).map Char.ofNat := by
  obtain ⟨hlow, hhigh⟩ : 'A'.val ≤ c.val ∧ c.val ≤ 'Z'.val := of_decide_eq_true h
  rw [UInt32.le_iff_toNat_le] at hlow hhigh
  have hA : 'A'.val.toNat = 65 := rfl
  have hZ : 'Z'.val.toNat = 90 := rfl
  refine List.mem_map.mpr ⟨c.toNat, List.mem_range'_1.mpr ?_, Char.ofNat_toNat c⟩
  change 65 ≤ c.val.toNat ∧ c.val.toNat < 65 + 26
  omega

/-- What the lower case of a capital is like. -/
theorem toLower_of_isUpper (h : c.isUpper = true) : c.toLower.toLower = c.toLower ∧ c.toLower ∉ turkceHarfler ∧
    c.toLower ≠ birlesikNokta ∧ c ≠ birlesikNokta := by
  have hall : ((List.range' 65 26).map Char.ofNat).all (fun d => d.toLower.toLower = d.toLower ∧
      d.toLower ∉ turkceHarfler ∧ d.toLower ≠ birlesikNokta ∧ d ≠ birlesikNokta) := by decide
  exact of_decide_eq_true (List.all_eq_true.mp hall c (mem_of_isUpper h))

end Latin

/-- The lower case of the letters A to Z; no other letter outside the table has one here. -/
def latinKucukHarfler : KucukHarfler where
  kucuk := Char.toLower
  kucuk_kucuk c := by
    cases h : c.isUpper with
    | true => exact (toLower_of_isUpper h).1
    | false => rw [toLower_of_not_isUpper h, toLower_of_not_isUpper h]
  kucuk_turkce c hc := by
    cases h : c.isUpper with
    | true => exact (toLower_of_isUpper h).2.1
    | false => rwa [toLower_of_not_isUpper h]
  kucuk_nokta c := by
    cases h : c.isUpper with
    | true => exact iff_of_false (toLower_of_isUpper h).2.2.1 (toLower_of_isUpper h).2.2.2
    | false => rw [toLower_of_not_isUpper h]

/-- The letters of the table are folded before they are lowered, so only those of the alphabet are left to lower. -/
theorem trNormalize_eq (metin : String) : trNormalize metin = String.ofList (normalize latinKucukHarfler metin.toList) := by
  have hlower : ∀ c ∈ metin.toList.map trHarf, kucukHarf c = latinKucukHarfler.lower c := by
    intro c hc
    obtain ⟨d, -, rfl⟩ := List.mem_map.mp hc
    have hfold := trHarf_turkce d
    simp only [turkceHarfler, List.mem_cons, List.not_mem_nil, or_false, not_or] at hfold
    obtain ⟨-, -, -, -, -, -, h₁, h₂, h₃, h₄, h₅, h₆⟩ := hfold
    rw [kucukHarf, if_neg h₁, if_neg h₂, if_neg h₃, if_neg h₄, if_neg h₅, if_neg h₆, KucukHarfler.lower, if_neg h₃]
    rfl
  rw [trNormalize, normalize, List.flatMap_congr hlower]
  rfl

end FinancialOs.Rules
