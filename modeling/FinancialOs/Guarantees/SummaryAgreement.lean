import FinancialOs.Guarantees.AmountExtraction
import FinancialOs.Guarantees.ProposalIntegrity
import FinancialOs.Library.DecimalText

/-! The check of a proposal's amount against its summary reads the amounts without their signs, so
a summary that writes the amount as it is agrees with it unless the amount is negative. -/
namespace FinancialOs.Guarantees
open Library Store Rules

/-- A text that names no number. -/
def Rakamsiz (s : List Char) : Prop := ∀ c ∈ s, rakamMi c = false

theorem rakamsiz_of_all {s : List Char} (h : s.all (fun c => !rakamMi c) = true) : Rakamsiz s := by
  intro c hc
  simpa using List.all_eq_true.mp h c hc

section Scan
variable {s w onek sonek : List Char} {c : Char} {fuel : ℕ}

theorem isDigit_of_rakamsiz (h : Rakamsiz s) : ∀ c ∈ s, c.isDigit = false := by
  intro c hc
  refine Bool.eq_false_iff.mpr ?_
  intro hdigit
  have htek : Rakamlar [c] := rakamlar_of_isDigit (by simpa using hdigit)
  have hrakam : rakamMi c = true := htek c List.mem_cons_self
  rw [h c hc] at hrakam
  cases hrakam

/-- What holds no digit is passed over. -/
theorem sayiParcalari_onek (h : ∀ c ∈ onek, c.isDigit = false) (hfuel : onek.length ≤ fuel) :
    sayiParcalari fuel (onek ++ s) = sayiParcalari (fuel - onek.length) s := by
  induction onek generalizing fuel with
  | nil => rfl
  | cons c onek ih =>
    obtain ⟨hc, honek⟩ := List.forall_mem_cons.mp h
    cases fuel with
    | zero => cases hfuel
    | succ fuel =>
      rw [List.length_cons] at hfuel ⊢
      rw [List.cons_append, sayiParcalari, hc]
      have hle : onek.length ≤ fuel := by omega
      simpa using ih honek hle

theorem sayiParcalari_nil (fuel : ℕ) : sayiParcalari fuel [] = [] := by
  cases fuel <;> rfl

theorem sayiParcalari_rakamsiz (h : ∀ c ∈ s, c.isDigit = false) (hfuel : s.length ≤ fuel) :
    sayiParcalari fuel s = [] := by
  have hscan := sayiParcalari_onek (s := []) h hfuel
  rwa [List.append_nil, sayiParcalari_nil] at hscan

/-- A number is one piece, up to the first character that is no part of it. -/
theorem sayiParcalari_parca (hc : c.isDigit = true) (hw : ∀ d ∈ w, sayiHarfi d = true)
    (hson : ∀ d ∈ sonek.head?, sayiHarfi d = false) :
    sayiParcalari (fuel + 1) (c :: (w ++ sonek)) = (c :: w) :: sayiParcalari fuel sonek := by
  have htake : sonek.takeWhile sayiHarfi = [] := by
    cases sonek with
    | nil => rfl
    | cons d sonek => rw [List.takeWhile_cons_of_neg (by simp [hson d rfl])]
  have hdrop : sonek.dropWhile sayiHarfi = sonek := by
    cases sonek with
    | nil => rfl
    | cons d sonek => rw [List.dropWhile_cons_of_neg (by simp [hson d rfl])]
  rw [sayiParcalari, if_pos hc, List.takeWhile_append_of_pos hw, List.dropWhile_append_of_pos hw, htake, hdrop,
    List.append_nil]

/-- The only number of a text. -/
theorem ozettekiSayilar_tek {metin : String} (hmetin : metin.toList = onek ++ (c :: w ++ ' ' :: sonek))
    (honek : ∀ d ∈ onek, d.isDigit = false) (hc : c.isDigit = true) (hw : ∀ d ∈ w, sayiHarfi d = true)
    (hsonek : ∀ d ∈ sonek, d.isDigit = false) : ozettekiSayilar metin = (sayiCoz (c :: w)).toList := by
  have hlen : metin.length = onek.length + (w.length + sonek.length + 1) + 1 := by
    rw [← String.length_toList, hmetin]
    simp only [List.length_append, List.length_cons]
    omega
  have hbosluk : ∀ d ∈ ' ' :: sonek, d.isDigit = false := List.forall_mem_cons.mpr ⟨rfl, hsonek⟩
  have hparca : sayiParcalari metin.length metin.toList = [c :: w] := by
    have honek' : onek.length ≤ metin.length := by omega
    have hkalan : metin.length - onek.length = w.length + sonek.length + 1 + 1 := by omega
    have hson : sayiHarfi ' ' = false := rfl
    rw [hmetin, sayiParcalari_onek honek honek', hkalan, List.cons_append,
      sayiParcalari_parca hc hw (by simpa using hson), sayiParcalari_rakamsiz hbosluk (by simp)]
  rw [ozettekiSayilar, hparca]
  cases hoku : sayiCoz (c :: w) <;> simp [hoku]

end Scan

section Read
variable {ds es : List Char}

theorem ne_nokta_of_isDigit (h : ∀ c ∈ ds, c.isDigit = true) : ∀ c ∈ ds, c ≠ '.' ∧ c ≠ ',' := by
  intro c hc
  exact ⟨NumberText.ne_of_isDigit (h c hc) rfl, NumberText.ne_of_isDigit (h c hc) rfl⟩

theorem binlik_kisa (h : ∀ a b c d rest, ds = a :: b :: c :: d :: rest → False) : binlik ds = ds := by
  rw [binlik]
  exact h

/-- The dots that group digits leave the digits. -/
theorem filter_binlik (h : ∀ c ∈ ds, c ≠ '.') : (binlik ds).filter (· ≠ '.') = ds := by
  induction ds using binlik.induct with
  | case1 a b c d rest ih =>
    obtain ⟨ha, hb, hc, hrest⟩ : a ≠ '.' ∧ b ≠ '.' ∧ c ≠ '.' ∧ ∀ e ∈ d :: rest, e ≠ '.' := by
      simpa only [List.forall_mem_cons] using h
    rw [binlik]
    simp only [List.filter_cons, ha, hb, hc, ne_eq, not_false_eq_true, decide_true, if_true, not_true_eq_false,
      decide_false, Bool.false_eq_true, if_false]
    rw [ih hrest]
  | case2 short hshort =>
    rw [binlik_kisa hshort]
    exact List.filter_eq_self.mpr fun c hc => decide_eq_true (h c hc)

/-- The group behind the last dot has three digits. -/
theorem son_grup (h : ∀ c ∈ ds, c ≠ '.') (hnokta : '.' ∈ binlik ds) :
    ((binlik ds).takeWhile (· ≠ '.')).length = 3 := by
  induction ds using binlik.induct with
  | case1 a b c d rest ih =>
    obtain ⟨ha, hb, hc, -⟩ : a ≠ '.' ∧ b ≠ '.' ∧ c ≠ '.' ∧ ∀ e ∈ d :: rest, e ≠ '.' := by
      simpa only [List.forall_mem_cons] using h
    rw [binlik]
    simp [ha, hb, hc]
  | case2 short hshort =>
    rw [binlik_kisa hshort] at hnokta
    exact absurd rfl (h '.' hnokta)

theorem binlik_cons (e : Char) (l : List Char) : ∃ t, binlik (e :: l) = e :: t := by
  match l with
  | [] => exact ⟨[], rfl⟩
  | [b] => exact ⟨[b], rfl⟩
  | [b, c] => exact ⟨[b, c], rfl⟩
  | b :: c :: d :: rest => exact ⟨b :: c :: '.' :: binlik (d :: rest), by rw [binlik]⟩

/-- A number that ends in a digit is not cut. -/
theorem kirpik_eq {ham : List Char} {c : Char} {t : List Char} (hham : ham.reverse = c :: t) (hc : c.isDigit = true) :
    (ham.reverse.dropWhile fun c => c = '.' ∨ c = ',').reverse = ham := by
  have hne : ¬(decide (c = '.' ∨ c = ',') = true) := by
    rw [decide_eq_true_eq]
    rintro (rfl | rfl)
    · cases hc
    · cases hc
  rw [hham, List.dropWhile_cons, if_neg hne, ← hham, List.reverse_reverse]

/-- Grouped digits are read as the digits. -/
theorem sayiCoz_binlik (hne : ds ≠ []) (hds : ∀ c ∈ ds, c.isDigit = true) :
    sayiCoz (binlik ds.reverse).reverse = NumberText.read (String.ofList ds) := by
  have hrev : ∀ c ∈ ds.reverse, c ≠ '.' := fun c hc => (ne_nokta_of_isDigit hds c (List.mem_reverse.mp hc)).1
  obtain ⟨e, l, hel⟩ := List.exists_cons_of_ne_nil (List.reverse_ne_nil_iff.mpr hne)
  have he : e.isDigit = true := hds e (List.mem_reverse.mp (hel ▸ List.mem_cons_self))
  obtain ⟨t, ht⟩ := binlik_cons e l
  have hham : (binlik ds.reverse).reverse.reverse = e :: t := by rw [List.reverse_reverse, hel, ht]
  have hvirgul : ',' ∉ (binlik ds.reverse).reverse := by
    intro h
    rcases mem_binlik (List.mem_reverse.mp h) with h | h
    · exact (ne_nokta_of_isDigit hds ',' (List.mem_reverse.mp h)).2 rfl
    · cases h
  have hgrup : ¬((binlik ds.reverse).reverse.count '.' = 1 ∧
      ((binlik ds.reverse).reverse.reverse.takeWhile (· ≠ '.')).length ≠ 3) := by
    rintro ⟨hcount, hlen⟩
    have hnokta : '.' ∈ binlik ds.reverse := by
      rw [← List.mem_reverse, ← List.count_pos_iff, hcount]
      decide
    rw [List.reverse_reverse] at hlen
    exact hlen (son_grup hrev hnokta)
  have hsade : (binlik ds.reverse).reverse.filter (· ≠ '.') = ds := by
    rw [List.filter_reverse, filter_binlik hrev, List.reverse_reverse]
  simp only [sayiCoz, kirpik_eq hham he, if_neg hvirgul, if_neg hgrup, hsade]

/-- With a comma and decimals behind them, as the digits, a point and the decimals. -/
theorem sayiCoz_virgul (hds : ∀ c ∈ ds, c.isDigit = true) (hne : es ≠ []) (hes : ∀ c ∈ es, c.isDigit = true) :
    sayiCoz ((binlik ds.reverse).reverse ++ ',' :: es) = NumberText.read (String.ofList (ds ++ '.' :: es)) := by
  have hrev : ∀ c ∈ ds.reverse, c ≠ '.' := fun c hc => (ne_nokta_of_isDigit hds c (List.mem_reverse.mp hc)).1
  obtain ⟨e, l, hel⟩ := List.exists_cons_of_ne_nil (List.reverse_ne_nil_iff.mpr hne)
  have he : e.isDigit = true := hes e (List.mem_reverse.mp (hel ▸ List.mem_cons_self))
  have hham : ((binlik ds.reverse).reverse ++ ',' :: es).reverse = e :: (l ++ ',' :: binlik ds.reverse) := by
    simp [hel]
  have hvirgul : ',' ∈ (binlik ds.reverse).reverse ++ ',' :: es := by simp
  have hnokta : es.filter (· ≠ '.') = es :=
    List.filter_eq_self.mpr fun c hc => decide_eq_true (ne_nokta_of_isDigit hes c hc).1
  have hsade : ((binlik ds.reverse).reverse ++ ',' :: es).filter (· ≠ '.') = ds ++ ',' :: es := by
    rw [List.filter_append, List.filter_reverse, filter_binlik hrev, List.reverse_reverse,
      List.filter_cons_of_pos (by decide), hnokta]
  have hayni : ∀ l : List Char, (∀ c ∈ l, c ≠ ',') → l.map (fun c => if c = ',' then '.' else c) = l := by
    intro l hl
    conv_rhs => rw [← List.map_id l]
    apply List.map_congr_left
    intro c hc
    rw [if_neg (hl c hc)]
    rfl
  have hmap : (ds ++ ',' :: es).map (fun c => if c = ',' then '.' else c) = ds ++ '.' :: es := by
    rw [List.map_append, List.map_cons, hayni ds fun c hc => (ne_nokta_of_isDigit hds c hc).2,
      hayni es fun c hc => (ne_nokta_of_isDigit hes c hc).2, if_pos rfl]
  simp only [sayiCoz, kirpik_eq hham he, if_pos hvirgul, hsade, hmap]

end Read

section Amount
variable {deger : ℚ} {ondalik n : ℕ}

/-- An amount without its sign: its units in groups and its decimals. -/
def tutarMetni (ondalik n : ℕ) : List Char :=
  (binlik (Nat.toDigits 10 (n / 10 ^ ondalik)).reverse).reverse ++
    if ondalik = 0 then [] else ',' :: (Date.padded ondalik (n % 10 ^ ondalik)).toList

theorem isDigit_toDigits (n : ℕ) : ∀ c ∈ Nat.toDigits 10 n, c.isDigit = true := fun _ hc =>
  Nat.isDigit_of_mem_toDigits (by decide) (by decide) hc

theorem sayiHarfi_tutarMetni (ondalik n : ℕ) : ∀ c ∈ tutarMetni ondalik n, sayiHarfi c = true := by
  intro c hc
  rcases List.mem_append.mp hc with hc | hc
  · rcases mem_binlik (List.mem_reverse.mp hc) with hc | rfl
    · exact decide_eq_true (.inl (isDigit_toDigits _ c (List.mem_reverse.mp hc)))
    · rfl
  · split at hc
    · cases hc
    · rcases List.mem_cons.mp hc with rfl | hc
      · rfl
      · exact decide_eq_true (.inl (Date.isDigit_padded c hc))

theorem tutarMetni_bas (ondalik n : ℕ) : ∃ c w, tutarMetni ondalik n = c :: w ∧ c.isDigit = true := by
  have hrakam : Rakamlar (Nat.toDigits 10 (n / 10 ^ ondalik)).reverse := rakamlar_of_isDigit fun c hc =>
    isDigit_toDigits _ c (List.mem_reverse.mp hc)
  obtain ⟨ilk, gruplar, hbinlik, hgruplu, -, -⟩ := binlik_bicim _ (by simp [Nat.toDigits_ne_nil]) hrakam
  obtain ⟨c, w, rfl⟩ := List.exists_cons_of_ne_nil hgruplu.ilk_ne
  have hc : rakamMi c = true := hgruplu.ilk_rakam c List.mem_cons_self
  have hmem : c ∈ (binlik (Nat.toDigits 10 (n / 10 ^ ondalik)).reverse).reverse := by
    rw [hbinlik]
    exact List.mem_append_left _ List.mem_cons_self
  refine ⟨c, _, by rw [tutarMetni, hbinlik]; rfl, ?_⟩
  rcases mem_binlik (List.mem_reverse.mp hmem) with h | rfl
  · exact isDigit_toDigits _ c (List.mem_reverse.mp h)
  · rw [rakamMi_of_binlikAyraci rfl] at hc
    cases hc

/-- It is read as the amount it writes. -/
theorem sayiCoz_tutarMetni (hondalik : ondalik ≤ 2) (hn : n < 10 ^ 20) :
    sayiCoz (tutarMetni ondalik n) = some (.finite (n / 10 ^ ondalik)) := by
  have hds := isDigit_toDigits (n / 10 ^ ondalik)
  have hne : Nat.toDigits 10 (n / 10 ^ ondalik) ≠ [] := Nat.toDigits_ne_nil
  have hlen : (Nat.toDigits 10 (n / 10 ^ ondalik)).length ≤ 20 := by
    rw [Nat.length_toDigits_le_iff (by decide) (by decide)]
    exact (Nat.div_le_self n _).trans_lt hn
  have hbuyuk : n < 10 ^ 300 := hn.trans (by decide)
  by_cases hsifir : ondalik = 0
  · subst hsifir
    rw [pow_zero, Nat.div_one] at hne hlen
    rw [tutarMetni, if_pos rfl, List.append_nil, pow_zero, Nat.div_one, sayiCoz_binlik hne (isDigit_toDigits n),
      NumberText.read_digits hne (isDigit_toDigits n), Nat.ofDigitChars_ten_toDigits,
      NumberText.scaled_eq (by omega) (by decide) le_rfl hbuyuk]
    simp
  · have hpos : 0 < ondalik := Nat.pos_of_ne_zero hsifir
    have hes := @Date.isDigit_padded ondalik (n % 10 ^ ondalik)
    have heslen : (Date.padded ondalik (n % 10 ^ ondalik)).toList.length = ondalik :=
      Date.length_padded hpos (Nat.mod_lt n (by positivity))
    have hesne : (Date.padded ondalik (n % 10 ^ ondalik)).toList ≠ [] := List.ne_nil_of_length_pos (by omega)
    have hdeger : Nat.ofDigitChars 10 (Nat.toDigits 10 (n / 10 ^ ondalik) ++
        (Date.padded ondalik (n % 10 ^ ondalik)).toList) 0 = n := by
      rw [Nat.ofDigitChars_append, Nat.ofDigitChars_ten_toDigits, Nat.ofDigitChars_eq_ofDigitChars_zero,
        Date.ofDigitChars_padded, heslen]
      exact Nat.div_add_mod n (10 ^ ondalik)
    rw [tutarMetni, if_neg hsifir, sayiCoz_virgul hds hesne hes, NumberText.read_point hne hds hes, hdeger, heslen,
      NumberText.scaled_eq (by omega) (by omega) (by omega) hbuyuk, zpow_neg, zpow_natCast, div_eq_mul_inv]

/-- A text whose only amount is a formatted one names that amount without its sign. -/
theorem ozettekiSayilar_formatPara {onek sonek : String} (hondalik : ondalik ≤ 2) (hyer : HasPlaces ondalik deger)
    (hsinir : |deger| ≤ finMax) (honek : Rakamsiz onek.toList) (hsonek : Rakamsiz sonek.toList) :
    ozettekiSayilar (onek ++ formatPara deger ondalik ++ sonek) = [.finite |deger|] := by
  obtain ⟨m, hm⟩ := hyer
  have hon : (0 : ℚ) < 10 ^ ondalik := by positivity
  have habs : |deger| * 10 ^ ondalik = ((m.natAbs : ℤ) : ℚ) := by
    rw [hm, abs_div, abs_of_pos hon, div_mul_cancel₀ _ hon.ne', Int.natCast_natAbs, Int.cast_abs]
  have hunits : (nearestEven (|deger| * 10 ^ ondalik)).toNat = m.natAbs := by
    rw [habs, nearestEven_intCast, Int.toNat_natCast]
  have hn : m.natAbs < 10 ^ 20 := by
    have hle : (m.natAbs : ℚ) ≤ 10 ^ 12 * 10 ^ ondalik := by
      calc (m.natAbs : ℚ) = |deger| * 10 ^ ondalik := by
            rw [habs]
            rfl
        _ ≤ finMax * 10 ^ ondalik := by gcongr
    have hpow : (10 : ℚ) ^ ondalik ≤ 10 ^ 2 := pow_le_pow_right₀ (by norm_num) hondalik
    have hlt : (m.natAbs : ℚ) < (10 ^ 20 : ℕ) := by
      push_cast
      linarith
    exact_mod_cast hlt
  obtain ⟨c, w, hbas, hc⟩ := tutarMetni_bas ondalik m.natAbs
  have hw : ∀ d ∈ w, sayiHarfi d = true := fun d hd =>
    sayiHarfi_tutarMetni ondalik m.natAbs d (hbas ▸ List.mem_cons_of_mem c hd)
  have hmetin : (onek ++ formatPara deger ondalik ++ sonek).toList =
      (onek.toList ++ if deger < 0 then ['-'] else []) ++ (c :: w ++ ' ' :: ('T' :: 'L' :: sonek.toList)) := by
    have hpara : (trSayi deger ondalik).toList = (if deger < 0 then ['-'] else []) ++ tutarMetni ondalik m.natAbs :=
      toList_trSayi deger ondalik m.natAbs hunits
    rw [formatPara, String.toList_append, String.toList_append, String.toList_append, hpara, hbas]
    simp
  have honek' : ∀ d ∈ onek.toList ++ (if deger < 0 then ['-'] else []), d.isDigit = false := by
    intro d hd
    rcases List.mem_append.mp hd with hd | hd
    · exact isDigit_of_rakamsiz honek d hd
    · split at hd
      · rw [List.mem_singleton.mp hd]
        rfl
      · cases hd
  have hsonek' : ∀ d ∈ 'T' :: 'L' :: sonek.toList, d.isDigit = false :=
    List.forall_mem_cons.mpr ⟨rfl, List.forall_mem_cons.mpr ⟨rfl, isDigit_of_rakamsiz hsonek⟩⟩
  rw [ozettekiSayilar_tek hmetin honek' hc hw hsonek', ← hbas, sayiCoz_tutarMetni hondalik hn]
  have hdeger : (m.natAbs : ℚ) / 10 ^ ondalik = |deger| := by
    rw [div_eq_iff hon.ne', habs]
    rfl
  rw [hdeger]
  rfl

/-- Without its sign an amount is near itself exactly when it is not negative. -/
theorem yakin_abs (hondalik : ondalik ≤ 2) (hyer : HasPlaces ondalik deger) :
    yakin (.finite deger) (.finite |deger|) = true ↔ 0 ≤ deger := by
  have hyakin : yakin (.finite deger) (.finite |deger|) = decide (|(|deger|) - deger| ≤ 1 / 100) := rfl
  rw [hyakin, decide_eq_true_eq]
  constructor
  · intro h
    by_contra hneg
    rw [not_le] at hneg
    obtain ⟨m, hm⟩ := hyer
    have hon : (0 : ℚ) < 10 ^ ondalik := by positivity
    have hpow : (10 : ℚ) ^ ondalik ≤ 10 ^ 2 := pow_le_pow_right₀ (by norm_num) hondalik
    have hmneg : m ≤ -1 := by
      have hlt : (m : ℚ) < 0 := by
        rw [hm] at hneg
        exact neg_of_div_neg_left hneg hon.le
      have : m < 0 := by exact_mod_cast hlt
      omega
    have hle : deger * 10 ^ ondalik ≤ -1 := by
      rw [hm, div_mul_cancel₀ _ hon.ne']
      exact_mod_cast hmneg
    have hbuyuk : -deger * 10 ^ ondalik ≤ -deger * 10 ^ 2 := by
      have : 0 ≤ -deger := by linarith
      gcongr
    have hfark := (le_abs_self (|deger| - deger)).trans h
    rw [abs_of_neg hneg] at hfark
    linarith
  · intro h
    rw [abs_of_nonneg h, sub_self, abs_zero]
    norm_num

end Amount

section Summary
variable {cevirim : Cevirim} {t : ActionType} {p q : Payload} {alan : PayloadKey} {x : ℚ}

theorem ozetPayloadCeliskisi_tek {s : ℚ} {summary : String} (hpara : paraAlanlari t = some alan)
    (hx : (q.get alan).toFloat = .ok (.finite x)) (hs : ozettekiSayilar summary = [.finite s]) :
    ozetPayloadCeliskisi t q summary = .ok none ↔ yakin (.finite x) (.finite s) = true := by
  have hyok : (q.get alan).isNone = false := by
    cases hv : q.get alan with
    | none =>
      rw [hv] at hx
      cases hx
    | _ => rfl
  unfold ozetPayloadCeliskisi
  rw [hpara]
  simp only [hyok, Bool.false_eq_true, if_false, hs, List.cons_ne_nil, hx, List.any_cons, List.any_nil, Bool.or_false]
  split
  · next h => simp [h]
  · next h => simp [h]

/-- The checked amount is a required field of its schema, an amount or a balance. -/
theorem para_alani (hpara : paraAlanlari t = some alan) : ∃ alanlar, payloadSemalari t = some alanlar ∧
    ∃ a ∈ alanlar, a.ad = alan ∧ a.zorunlu = true ∧ (a.tur = .tutar ∨ a.tur = .bakiye) := by
  cases t <;> cases hpara
  · exact ⟨_, rfl, zorunlu .newBalance .bakiye, by simp, rfl, rfl, .inr rfl⟩
  · exact ⟨_, rfl, zorunlu .amount .tutar, by simp, rfl, rfl, .inl rfl⟩
  · exact ⟨_, rfl, zorunlu .amount .tutar, by simp, rfl, rfl, .inl rfl⟩
  · exact ⟨_, rfl, zorunlu .newPrice .tutar, by simp, rfl, rfl, .inl rfl⟩

/-- A positive amount is also a balance. -/
theorem uyar_bakiye {v : PyValue} (h : AlanTuru.uyar .tutar v = true) : AlanTuru.uyar .bakiye v = true := by
  have hmax : (0 : ℚ) ≤ finMax := by norm_num [finMax]
  match v with
  | .int n =>
    obtain ⟨hpos, hle⟩ := of_decide_eq_true h
    have hpos : (0 : ℚ) < n := by exact_mod_cast hpos
    exact decide_eq_true ⟨by linarith, hle⟩
  | .float (.finite q) =>
    obtain ⟨hpos, hle⟩ := of_decide_eq_true h
    exact decide_eq_true ⟨by linarith, hle⟩

/-- A balance is a finite number within the bounds, and an amount a positive one. -/
theorem sonlu_of_uyar {v : PyValue} (h : AlanTuru.uyar .bakiye v = true) :
    ∃ x, v.toFloat = .ok (.finite x) ∧ |x| ≤ finMax ∧ (AlanTuru.uyar .tutar v = true → 0 < x) := by
  match v with
  | .int n =>
    have hle : |(n : ℚ)| ≤ finMax := abs_le.mpr (of_decide_eq_true h)
    have hnat : n.natAbs ≤ 10 ^ 12 := by
      rw [← Int.cast_abs, Int.abs_eq_natAbs] at hle
      have hle : (n.natAbs : ℚ) ≤ ((10 ^ 12 : ℕ) : ℚ) := by
        push_cast
        exact hle
      exact_mod_cast hle
    refine ⟨n, PyValue.toFloat_int (hnat.trans (by norm_num)), hle, ?_⟩
    intro htutar
    exact_mod_cast (of_decide_eq_true htutar).1
  | .float (.finite q) =>
    refine ⟨q, rfl, abs_le.mpr (of_decide_eq_true h), ?_⟩
    intro htutar
    exact (of_decide_eq_true htutar).1

/-- In a validated payload the checked amount is a finite number within the bounds. -/
theorem dogrula_para (hpara : paraAlanlari t = some alan) (h : dogrula cevirim t p = .ok q) :
    ∃ x, (q.get alan).toFloat = .ok (.finite x) ∧ |x| ≤ finMax := by
  obtain ⟨alanlar, hs, a, ha, rfl, hz, htur⟩ := para_alani hpara
  rcases dogrula_alani h hs ha with ⟨w, hw, huyar⟩ | ⟨-, hz'⟩
  · have hbakiye : AlanTuru.uyar .bakiye w = true := by
      rcases htur with htur | htur
      · exact uyar_bakiye (htur ▸ huyar)
      · exact htur ▸ huyar
    obtain ⟨x, hx, hsinir, -⟩ := sonlu_of_uyar hbakiye
    rw [Payload.get, hw]
    exact ⟨x, hx, hsinir⟩
  · rw [hz] at hz'
    cases hz'

/-- A summary that names the amount of a validated payload as it is formatted, and no other, agrees
with the payload exactly when the amount is not negative. -/
theorem summary_agrees_iff (hpara : paraAlanlari t = some alan) (h : dogrula cevirim t p = .ok q) :
    ∃ x, (q.get alan).toFloat = .ok (.finite x) ∧ ∀ (ondalik : ℕ) (onek sonek : String), ondalik ≤ 2 →
      HasPlaces ondalik x → Rakamsiz onek.toList → Rakamsiz sonek.toList →
        (ozetPayloadCeliskisi t q (onek ++ formatPara x ondalik ++ sonek) = .ok none ↔ 0 ≤ x) := by
  obtain ⟨x, hx, hsinir⟩ := dogrula_para hpara h
  refine ⟨x, hx, ?_⟩
  intro ondalik onek sonek hondalik hyer honek hsonek
  have hsayilar := ozettekiSayilar_formatPara hondalik hyer hsinir honek hsonek
  rw [ozetPayloadCeliskisi_tek hpara hx hsayilar, yakin_abs hondalik hyer]

/-- The new balance of a card with a debt. -/
def kartBakiyesi : Payload := [(.accountId, .int 3), (.newBalance, .float (.finite (-2501 / 2)))]

theorem dogrula_kartBakiyesi : dogrula yalinKurallar.cevirim .updateAccountBalance kartBakiyesi = .ok kartBakiyesi := by
  decide +kernel

/-- The price of a fund, with a comma before its decimals. -/
theorem summary_agrees_iff_fon : ∃ x, PyValue.toFloat (.float (.finite (147 / 4))) = .ok (.finite x) ∧
    ∀ (ondalik : ℕ) (onek sonek : String), ondalik ≤ 2 →
      HasPlaces ondalik x → Rakamsiz onek.toList → Rakamsiz sonek.toList →
        (ozetPayloadCeliskisi .updateFundPrice [(.accountId, .int 4), (.newPrice, .float (.finite (147 / 4)))]
          (onek ++ formatPara x ondalik ++ sonek) = .ok none ↔ 0 ≤ x) := by
  have hfon : dogrula yalinKurallar.cevirim .updateFundPrice [(.accountId, .int 4), (.newPrice, .float (.finite (147 / 4)))] =
      .ok [(.accountId, .int 4), (.newPrice, .float (.finite (147 / 4)))] := by decide +kernel
  exact summary_agrees_iff (t := .updateFundPrice) rfl hfon

/-- The summary of a negative balance names it, and was refused. -/
theorem negative_balance_was_refused :
    dogrula yalinKurallar.cevirim .updateAccountBalance kartBakiyesi = .ok kartBakiyesi ∧ HasPlaces 2 (-2501 / 2) ∧
      "Kart bakiyesi " ++ formatPara (-2501 / 2) 2 ++ " olacak." = "Kart bakiyesi -1.250,50 TL olacak." ∧
        Rakamsiz "Kart bakiyesi ".toList ∧ Rakamsiz " olacak.".toList ∧
          ozetPayloadCeliskisi .updateAccountBalance kartBakiyesi "Kart bakiyesi -1.250,50 TL olacak." ≠ .ok none := by
  have hyer : HasPlaces 2 (-2501 / 2) := ⟨-125050, by norm_num⟩
  have hmetin : "Kart bakiyesi " ++ formatPara (-2501 / 2) 2 ++ " olacak." = "Kart bakiyesi -1.250,50 TL olacak." := by
    decide +kernel
  have honek : Rakamsiz "Kart bakiyesi ".toList := rakamsiz_of_all (by decide +kernel)
  have hsonek : Rakamsiz " olacak.".toList := rakamsiz_of_all (by decide)
  refine ⟨dogrula_kartBakiyesi, hyer, hmetin, honek, hsonek, ?_⟩
  have hsayilar : ozettekiSayilar "Kart bakiyesi -1.250,50 TL olacak." = [.finite (2501 / 2)] := by decide +kernel
  have hpara : paraAlanlari .updateAccountBalance = some .newBalance := rfl
  have hx : (kartBakiyesi.get .newBalance).toFloat = .ok (.finite (-2501 / 2)) := rfl
  intro h
  rw [ozetPayloadCeliskisi_tek hpara hx hsayilar] at h
  revert h
  decide +kernel

end Summary

end FinancialOs.Guarantees
