import FinancialOs.Rules.TurkishText

/-! The folded text and the raw one: the same offsets as long as no combining dot is left out. -/
namespace FinancialOs.Guarantees
open Rules

section Offsets
variable {k : KucukHarfler} {metin : List Char}

theorem length_normalize_iff : (normalize k metin).length = metin.length ↔ birlesikNokta ∉ metin := by
  rw [normalize_eq, List.length_map, List.length_filter_eq_length_iff]
  constructor
  · intro h hmem
    exact of_decide_eq_true (h _ hmem) rfl
  · rintro h c hc
    refine decide_eq_true ?_
    rintro rfl
    exact h hc

theorem normalize_of_notMem (h : birlesikNokta ∉ metin) : normalize k metin = metin.map (katlanmis k) := by
  rw [normalize_eq, List.filter_eq_self.mpr]
  intro c hc
  refine decide_eq_true ?_
  rintro rfl
  exact h hc

/-- A folded text has no combining dot, and its letters are folded already. -/
theorem normalize_normalize : normalize k (normalize k metin) = normalize k metin := by
  have hdot : birlesikNokta ∉ normalize k metin := by
    rw [normalize_eq]
    intro hmem
    obtain ⟨c, hc, hdot⟩ := List.mem_map.mp hmem
    exact of_decide_eq_true (List.mem_filter.mp hc).2 ((katlanmis_nokta k c).mp hdot)
  rw [normalize_of_notMem hdot, normalize_eq, List.map_map]
  exact List.map_congr_left fun c _ => katlanmis_katlanmis k c

/-- A text keeps its length, the character at every offset and its folding exactly if it has no combining dot. -/
theorem offsets_kept_iff : ((normalize k metin).length = metin.length ∧
      (∀ i : ℕ, (normalize k metin)[i]? = metin[i]?.map (katlanmis k)) ∧
        normalize k (normalize k metin) = normalize k metin) ↔ birlesikNokta ∉ metin := by
  constructor
  · rintro ⟨hlength, -, -⟩
    exact length_normalize_iff.mp hlength
  · intro h
    refine ⟨length_normalize_iff.mpr h, fun i => ?_, normalize_normalize⟩
    rw [normalize_of_notMem h, List.getElem?_map]

/-- A small i with a dot of its own loses the dot. -/
theorem combining_dot_dropped : ¬ ∀ (k : KucukHarfler) (metin : List Char), (normalize k metin).length = metin.length := by
  intro h
  have hlength := h latinKucukHarfler ['i', birlesikNokta]
  revert hlength
  decide

end Offsets

end FinancialOs.Guarantees
