import FinancialOs.Guarantees.AmountExtraction
import FinancialOs.Routers.Transactions

/-! The exported transactions, read back as a delimited text and cell by cell. -/
namespace FinancialOs.Guarantees
open Library Store Rules Routers

/-- A transaction as the cells of its row tell it. -/
structure OkunanIslem where
  tarih : Date
  tur : TransactionType
  tutar : ℚ
  kategori : String
  aciklama : String
  hesapId : Option ℕ
  kartHarcamasi : Bool
  deriving DecidableEq

def tutarOku (s : String) : ℚ :=
  match s.toList with
  | '-' :: cs => -toFloatTr cs
  | cs => toFloatTr cs

def hesapIdOku (s : String) : Option ℕ := if s = "" then none else some (Nat.ofDigitChars 10 s.toList 0)

def satirOku : List String → Option OkunanIslem
  | [tarih, tur, tutar, kategori, aciklama, hesapId, kart] => do
    let tarih ← Date.fromIso? tarih
    let tur ← TransactionType.ofValue? tur
    return ⟨tarih, tur, tutarOku tutar, kategori, aciklama, hesapIdOku hesapId, kart = "evet"⟩
  | _ => none

/-- The amount in kuruş, the texts as they are shown. -/
def disaAktarilan (t : Transaction) : OkunanIslem :=
  ⟨t.transactionDate, t.transactionType, roundEven t.amount 2, csvHucre t.category, csvHucre t.description,
    t.accountId, t.isCardExpense⟩

section Cells
variable {t : Transaction} {hucre : String}

/-- An amount in a cell: its sign, its units and its two decimals behind a comma. -/
theorem toList_csvTutar (q : ℚ) {n : ℕ} (hn : (nearestEven (|q| * 10 ^ 2)).toNat = n) : (csvTutar q).toList =
    (if q < 0 then ['-'] else []) ++ (Nat.toDigits 10 (n / 100) ++ ',' :: (Date.padded 2 (n % 100)).toList) := by
  have hayni : ∀ cs : List Char, (∀ c ∈ cs, c.isDigit = true) → cs.map (fun c => if c = '.' then ',' else c) = cs := by
    intro cs hcs
    refine (List.map_congr_left fun c hc => if_neg ?_).trans (List.map_id' cs)
    rintro rfl
    exact absurd (hcs '.' hc) (by decide)
  have htam : ∀ c ∈ Nat.toDigits 10 (n / 100), c.isDigit = true := fun c hc =>
    Nat.isDigit_of_mem_toDigits (by decide) (by decide) hc
  have hnokta : (sabitNokta q 2).toList =
      (if q < 0 then ['-'] else []) ++ (Nat.toDigits 10 (n / 100) ++ '.' :: (Date.padded 2 (n % 100)).toList) := by
    rw [sabitNokta, hn]
    by_cases hneg : q < 0
    · simp [hneg, Date.padded, Nat.toString_eq_repr, String.toList_append]
    · simp [hneg, Date.padded, Nat.toString_eq_repr, String.toList_append]
  rw [csvTutar, String.toList_ofList, hnokta, List.map_append, List.map_append, List.map_cons, hayni _ htam,
    hayni _ Date.isDigit_padded]
  rw [if_pos rfl]
  split_ifs
  · rfl
  · rfl

theorem toDigits_cons (n : ℕ) : ∃ c cs, Nat.toDigits 10 n = c :: cs ∧ c.isDigit = true := by
  obtain ⟨c, cs, h⟩ := List.exists_cons_of_ne_nil (@Nat.toDigits_ne_nil n 10)
  have hc : c ∈ Nat.toDigits 10 n := by
    rw [h]
    exact List.mem_cons_self
  exact ⟨c, cs, h, Nat.isDigit_of_mem_toDigits (by decide) (by decide) hc⟩

/-- An amount is read back to the kuruş. -/
theorem tutarOku_csvTutar (q : ℚ) : tutarOku (csvTutar q) = roundEven q 2 := by
  obtain ⟨n, hn⟩ : ∃ n, (nearestEven (|q| * 10 ^ 2)).toNat = n := ⟨_, rfl⟩
  have hkurus : (Date.padded 2 (n % 100)).toList.length = 2 :=
    Date.length_padded (by decide) (Nat.mod_lt n (by decide))
  have htam : ∀ c ∈ Nat.toDigits 10 (n / 100), c.isDigit = true := fun c hc =>
    Nat.isDigit_of_mem_toDigits (by decide) (by decide) hc
  have hdeger : Nat.ofDigitChars 10 (Nat.toDigits 10 (n / 100) ++ (Date.padded 2 (n % 100)).toList) 0 = n := by
    rw [Nat.ofDigitChars_append, Nat.ofDigitChars_ten_toDigits, Nat.ofDigitChars_eq_ofDigitChars_zero,
      Date.ofDigitChars_padded, hkurus]
    omega
  have hoku : toFloatTr (Nat.toDigits 10 (n / 100) ++ ',' :: (Date.padded 2 (n % 100)).toList) = n / 100 := by
    have hsade : (Nat.toDigits 10 (n / 100) ++ ',' :: (Date.padded 2 (n % 100)).toList).filter
        (fun c => !binlikAyraci c) = Nat.toDigits 10 (n / 100) ++ ',' :: (Date.padded 2 (n % 100)).toList := by
      rw [List.filter_append, filter_rakamlar (rakamlar_of_isDigit htam), List.filter_cons_of_pos (by decide),
        filter_rakamlar (rakamlar_of_isDigit Date.isDigit_padded)]
    rw [toFloatTr_eq hsade htam Date.isDigit_padded, hdeger, hkurus]
    norm_num
  have hmutlak : roundEven |q| 2 = n / 100 := by
    have hpos : 0 ≤ nearestEven (|q| * 10 ^ 2) := by
      have h := nearestEven_mono (show (0 : ℚ) ≤ |q| * 10 ^ 2 by positivity)
      rwa [show nearestEven (0 : ℚ) = 0 from nearestEven_intCast 0] at h
    have hcast : (nearestEven (|q| * 10 ^ 2) : ℚ) = n := by
      rw [← hn, ← Int.cast_natCast, Int.toNat_of_nonneg hpos]
    rw [roundEven, hcast]
    norm_num
  rw [tutarOku, toList_csvTutar q hn]
  split_ifs with hneg
  · change -toFloatTr (Nat.toDigits 10 (n / 100) ++ ',' :: (Date.padded 2 (n % 100)).toList) = _
    rw [hoku, ← hmutlak, abs_of_neg hneg, roundEven_neg, neg_neg]
  · obtain ⟨c, cs, hcs, hc⟩ := toDigits_cons (n / 100)
    rw [abs_of_nonneg (not_lt.mp hneg)] at hmutlak
    rw [hmutlak, ← hoku, List.nil_append, hcs, List.cons_append]
    split
    · next h =>
      rw [(List.cons.inj h).1] at hc
      exact absurd hc (by decide)
    · rfl

theorem ofValue?_value (tip : TransactionType) : TransactionType.ofValue? tip.value = some tip := by
  cases tip <;> rfl

theorem hesapIdOku_csvHesapId (id : Option ℕ) : hesapIdOku (csvHesapId id) = id := by
  cases id with
  | none => rfl
  | some id =>
    have hlist : (toString id).toList = Nat.toDigits 10 id := by rw [Nat.toString_eq_repr, Nat.toList_repr]
    have hne : toString id ≠ "" := by
      intro h
      rw [h] at hlist
      exact Nat.toDigits_ne_nil hlist.symm
    rw [csvHesapId, hesapIdOku, if_neg hne, hlist, Nat.ofDigitChars_ten_toDigits]

/-- Nothing is lost but what is below a kuruş, and the texts are as they are shown. -/
theorem satirOku_csvSatiri (t : Transaction) : satirOku (csvSatiri t) = some (disaAktarilan t) := by
  have hkart : decide ((if t.isCardExpense then "evet" else "hayir") = "evet") = t.isCardExpense := by
    cases t.isCardExpense <;> rfl
  rw [csvSatiri, satirOku, Date.fromIso?_isoformat, ofValue?_value, tutarOku_csvTutar, hesapIdOku_csvHesapId, hkart]
  rfl

/-- A text that begins like a formula. -/
def formulGibi (hucre : String) : Bool := hucre.toList.head?.any formulBaslangici

theorem formulBaslangici_of_isDigit {c : Char} (hc : c.isDigit = true) : formulBaslangici c = false := by
  refine decide_eq_false ?_
  rintro (rfl | rfl | rfl | rfl | rfl | rfl) <;> exact absurd hc (by decide)

theorem formulGibi_of_digit {cs : List Char} (hne : cs ≠ []) (hcs : ∀ c ∈ cs, c.isDigit = true) (son : List Char) :
    (cs ++ son).head?.any formulBaslangici = false := by
  obtain ⟨c, cs, rfl⟩ := List.exists_cons_of_ne_nil hne
  rw [List.cons_append, List.head?_cons, Option.any_some]
  exact formulBaslangici_of_isDigit (hcs c List.mem_cons_self)

theorem formulGibi_csvHucre (deger : Option String) : formulGibi (csvHucre deger) = false := by
  cases deger with
  | none => rfl
  | some metin =>
    rw [csvHucre]
    split_ifs with h
    · rw [formulGibi, String.toList_append]
      rfl
    · simpa [formulGibi] using h

/-- Of a row only an amount below zero begins like a formula. -/
theorem formulGibi_csvSatiri (hmem : hucre ∈ csvSatiri t) (h : formulGibi hucre = true) :
    hucre = csvTutar t.amount ∧ t.amount < 0 := by
  have hyok : ∀ {s : String}, formulGibi s = false → s ≠ hucre := by
    rintro s hs rfl
    rw [hs] at h
    cases h
  have hgun : formulGibi t.transactionDate.isoformat = false := by
    rw [formulGibi, Date.toList_isoformat]
    refine formulGibi_of_digit (List.ne_nil_of_length_pos ?_) Date.isDigit_padded _
    rw [Date.length_padded (by decide) (Nat.lt_succ_of_le t.transactionDate.year_range.2)]
    decide
  have htur : formulGibi t.transactionType.value = false := by
    cases t.transactionType <;> rfl
  have hhesap : formulGibi (csvHesapId t.accountId) = false := by
    cases t.accountId with
    | none => rfl
    | some id =>
      have hlist : (toString id).toList = Nat.toDigits 10 id ++ [] := by
        rw [Nat.toString_eq_repr, Nat.toList_repr, List.append_nil]
      rw [csvHesapId, formulGibi, hlist]
      exact formulGibi_of_digit Nat.toDigits_ne_nil (fun c hc => Nat.isDigit_of_mem_toDigits (by decide) (by decide) hc) _
  have hkart : formulGibi (if t.isCardExpense then "evet" else "hayir") = false := by
    cases t.isCardExpense <;> rfl
  have htutar : hucre = csvTutar t.amount := by
    simp only [csvSatiri, List.mem_cons, List.not_mem_nil, or_false] at hmem
    rcases hmem with hm | hm | hm | hm | hm | hm | hm
    · exact absurd hm.symm (hyok hgun)
    · exact absurd hm.symm (hyok htur)
    · exact hm
    · exact absurd hm.symm (hyok (formulGibi_csvHucre _))
    · exact absurd hm.symm (hyok (formulGibi_csvHucre _))
    · exact absurd hm.symm (hyok hhesap)
    · exact absurd hm.symm (hyok hkart)
  refine ⟨htutar, ?_⟩
  by_contra hneg
  refine hyok ?_ htutar.symm
  rw [formulGibi, toList_csvTutar t.amount rfl, if_neg hneg, List.nil_append]
  exact formulGibi_of_digit Nat.toDigits_ne_nil (fun c hc => Nat.isDigit_of_mem_toDigits (by decide) (by decide) hc) _

end Cells

section Order

theorem yeniOnce_iff {a b : ℕ × Transaction} : yeniOnce a b = true ↔ b.2.transactionDate.monthNo < a.2.transactionDate.monthNo ∨
    b.2.transactionDate.monthNo = a.2.transactionDate.monthNo ∧
      (b.2.transactionDate.day < a.2.transactionDate.day ∨
        b.2.transactionDate.day = a.2.transactionDate.day ∧ b.1 ≤ a.1) := by
  rw [yeniOnce]
  split_ifs with h
  · rw [h]
    simp
  · have hfark : b.2.transactionDate.monthNo = a.2.transactionDate.monthNo →
        b.2.transactionDate.day ≠ a.2.transactionDate.day := by
      intro hay hgun
      obtain ⟨hyear, hmonth⟩ := Date.monthNo_eq.mp hay
      refine h (Eq.symm ?_)
      rcases hb : b.2.transactionDate with ⟨y, m, g, _, _, _⟩
      rcases ha : a.2.transactionDate with ⟨y', m', g', _, _, _⟩
      rw [ha, hb] at hyear hmonth hgun
      obtain rfl : y = y' := hyear
      obtain rfl : m = m' := hmonth
      obtain rfl : g = g' := hgun
      rfl
    rw [Date.notBefore, decide_eq_true_iff]
    omega

theorem yeniOnce_trans {a b c : ℕ × Transaction} (hab : yeniOnce a b = true) (hbc : yeniOnce b c = true) : yeniOnce a c = true := by
  rw [yeniOnce_iff] at hab hbc ⊢
  omega

theorem yeniOnce_total (a b : ℕ × Transaction) : (yeniOnce a b || yeniOnce b a) = true := by
  rw [Bool.or_eq_true, yeniOnce_iff, yeniOnce_iff]
  omega

end Order

/-- Whatever the texts of the transactions hold: the exported file is read back as the header and one row for each
transaction of the scope in the range, the newest first; each row tells its transaction to the kuruş, and of its cells
only an amount below zero begins like a formula. -/
theorem export_reads_back (db : Db) (istek : Istek) (baslangic bitis : Option Date) :
    ∃ (govde : List Char) (txns : List (ℕ × Transaction)),
      (exportTransactionsCsv db istek baslangic bitis).2.toList = '\uFEFF' :: govde ∧
      txns.Perm ((kapsamSatirlari db.transactions istek.userId istek.wsId).filter fun r =>
        aralikta baslangic bitis r.2) ∧
      txns.Pairwise (fun a b => yeniOnce a b = true) ∧
      Csv.read ';' false .empty govde =
        some ((csvBasliklar :: txns.map fun r => csvSatiri r.2).map fun r => r.map String.toList) ∧
      ∀ r ∈ txns, satirOku (csvSatiri r.2) = some (disaAktarilan r.2) ∧
        ∀ hucre ∈ csvSatiri r.2, formulGibi hucre = true → hucre = csvTutar r.2.amount ∧ r.2.amount < 0 := by
  have hsirali := @List.pairwise_mergeSort _ yeniOnce (fun _ _ _ => yeniOnce_trans) yeniOnce_total
  refine ⟨_, _, String.toList_ofList, List.mergeSort_perm _ yeniOnce, hsirali _, ?_,
    fun r _ => ⟨satirOku_csvSatiri r.2, ?_⟩⟩
  · rw [Csv.read_write ⟨by decide, by decide⟩, List.map_map]
    rfl
  · intro hucre hmem h
    exact formulGibi_csvSatiri hmem h

end FinancialOs.Guarantees
