import FinancialOs.Guarantees.InstalmentDates
import FinancialOs.Rules.DatedForecast

/-! The monthly dates of a window and the instalments of a loan in it: all of them, none twice, and none moved. -/
namespace FinancialOs.Guarantees
open Library Store Rules Rules.DatedForecast

section Occurrences
variable {start stop cur : Date} {ay fuel dayOfMonth : ℕ}

theorem firstOf_le_iff {d : MonthDay} : MonthDay.firstOf ay ≤ d ↔ ay ≤ d.month := by
  have hday := d.day_range.1
  have hlen := (monthLength_bounds ay).1
  rw [MonthDay.le_iff]
  change ay < d.month ∨ ay = d.month ∧ min 1 (monthLength ay) ≤ d.day ↔ _
  omega

/-- The candidates of the months from one on, as far as they fall into the window. -/
def adaylar (start stop : Date) (dayOfMonth ay fuel : ℕ) : List MonthDay :=
  ((List.range' ay fuel).map fun ay => vadeGunu ay dayOfMonth).filter fun d =>
    start.monthDay ≤ d ∧ d ≤ stop.monthDay

theorem adaylar_succ : adaylar start stop dayOfMonth ay (fuel + 1) =
    (if start.monthDay ≤ vadeGunu ay dayOfMonth ∧ vadeGunu ay dayOfMonth ≤ stop.monthDay then [vadeGunu ay dayOfMonth]
      else []) ++ adaylar start stop dayOfMonth (ay + 1) fuel := by
  rw [adaylar, List.range'_succ, List.map_cons, List.filter_cons]
  split_ifs with h₁ h₂ h₂
  · rfl
  · exact absurd (of_decide_eq_true h₁) h₂
  · exact absurd (decide_eq_true h₂) h₁
  · rfl

/-- Behind the month the window ends in there is no candidate. -/
theorem adaylar_eq_nil (h : stop.monthDay.month < ay) : adaylar start stop dayOfMonth ay fuel = [] := by
  rw [adaylar, List.filter_eq_nil_iff]
  intro d hd hin
  obtain ⟨m, hm, rfl⟩ := List.mem_map.mp hd
  have hlow := (List.mem_range'_1.mp hm).1
  have hle := MonthDay.month_le_of_le (of_decide_eq_true hin).2
  rw [month_vadeGunu] at hle
  omega

/-- Looking at more months than up to the end of the window finds no more candidates. -/
theorem adaylar_add (h : stop.monthDay.month < ay + fuel) (more : ℕ) :
    adaylar start stop dayOfMonth ay (fuel + more) = adaylar start stop dayOfMonth ay fuel := by
  have hmore : adaylar start stop dayOfMonth (ay + fuel) more = [] := adaylar_eq_nil h
  rw [adaylar] at hmore
  rw [adaylar, ← List.range'_append_1, List.map_append, List.filter_append, hmore, List.append_nil, adaylar]

/-- The day of a month of a date, computed from the first of that month. -/
theorem aydakiGun_cur (hcur : cur.monthDay = .firstOf ay) (hday : 1 ≤ dayOfMonth) :
    ∃ d, aydakiGun cur.year cur.month dayOfMonth = .ok d ∧ d.monthDay = vadeGunu ay dayOfMonth := by
  obtain ⟨d, hd, hmonthDay⟩ := aydakiGun_ok cur.year_range cur.month_range hday
  have hay : 12 * cur.year + (cur.month - 1) = ay := congrArg MonthDay.month hcur
  exact ⟨d, hd, hay ▸ hmonthDay⟩

theorem tekrarDongusu_ok (hcur : cur.monthDay = .firstOf ay) (hfuel : stop.monthDay.month < ay + fuel)
    (hson : stop.monthDay.month + 1 < 120000) (hday : 1 ≤ dayOfMonth) :
    ∃ l, tekrarDongusu start stop dayOfMonth fuel cur = .ok l ∧
      l.map Date.monthDay = adaylar start stop dayOfMonth ay fuel := by
  induction fuel generalizing cur ay with
  | zero => exact ⟨[], rfl, rfl⟩
  | succ fuel ih =>
    by_cases hle : ay ≤ stop.monthDay.month
    · have hmonth : cur.monthDay.month = ay := congrArg MonthDay.month hcur
      obtain ⟨candidate, hcandidate, hgun⟩ := aydakiGun_cur hcur hday
      obtain ⟨sonraki, hsonraki, hilk⟩ := @sonrakiAyda_ok 1 cur (by omega) (le_refl 1)
      rw [hmonth] at hilk
      obtain ⟨l, hl, hmap⟩ := ih hilk (by omega)
      have hnot : stop.notBefore cur = true := by
        rw [notBefore_iff, hcur]
        exact firstOf_le_iff.mpr hle
      refine ⟨if candidate.notBefore start ∧ stop.notBefore candidate then candidate :: l else l, ?_, ?_⟩
      · rw [tekrarDongusu, if_pos hnot, hcandidate, hsonraki]
        change (tekrarDongusu start stop dayOfMonth fuel sonraki >>= _) = _
        rw [hl]
        rfl
      · rw [adaylar_succ, ← hgun, ← hmap]
        simp only [notBefore_iff]
        split_ifs
        · rfl
        · rfl
    · have hnot : ¬ stop.notBefore cur = true := by
        rw [notBefore_iff, hcur]
        exact fun h => hle (firstOf_le_iff.mp h)
      exact ⟨[], if_neg hnot, (adaylar_eq_nil (not_le.mp hle)).symm⟩

/-- A window that ends in the last month of the calendar asks for the month after it. -/
theorem tekrarDongusu_error (hcur : cur.monthDay = .firstOf ay) (hle : ay ≤ stop.monthDay.month)
    (hfuel : stop.monthDay.month < ay + fuel) (hson : stop.monthDay.month + 1 = 120000) (hday : 1 ≤ dayOfMonth) :
    tekrarDongusu start stop dayOfMonth fuel cur = .error .valueError := by
  induction fuel generalizing cur ay with
  | zero => omega
  | succ fuel ih =>
    have hmonth : cur.monthDay.month = ay := congrArg MonthDay.month hcur
    obtain ⟨candidate, hcandidate, -⟩ := aydakiGun_cur hcur hday
    have hnot : stop.notBefore cur = true := by
      rw [notBefore_iff, hcur]
      exact firstOf_le_iff.mpr hle
    rw [tekrarDongusu, if_pos hnot, hcandidate]
    rcases hle.eq_or_lt with rfl | hlt
    · rw [@sonrakiAyda_error 1 cur (by omega)]
      rfl
    · obtain ⟨sonraki, hsonraki, hilk⟩ := @sonrakiAyda_ok 1 cur (by omega) (le_refl 1)
      rw [hmonth] at hilk
      rw [hsonraki]
      change (tekrarDongusu start stop dayOfMonth fuel sonraki >>= _) = _
      rw [ih hilk hlt (by omega)]
      rfl

theorem monthOccurrences_ok (hson : stop.monthDay.month + 1 < 120000) (hday : 1 ≤ dayOfMonth) :
    ∃ l, DatedForecast.monthOccurrences start stop dayOfMonth = .ok l ∧ l.map Date.monthDay =
      adaylar start stop dayOfMonth start.monthDay.month (stop.monthNo + 1 - start.monthNo) := by
  obtain ⟨cur, hcur, hilk⟩ := @aydakiGun_ok start.year start.month 1 start.year_range start.month_range (le_refl 1)
  have hstart := monthNo_eq start
  have hstop := monthNo_eq stop
  obtain ⟨l, hl, hmap⟩ := @tekrarDongusu_ok start stop cur start.monthDay.month (stop.monthNo + 1 - start.monthNo)
    dayOfMonth hilk (by omega) hson hday
  exact ⟨l, by rw [DatedForecast.monthOccurrences, hcur]; exact hl, hmap⟩

/-- Without a last year the dates are those of the forecast. -/
theorem monthOccurrences_ufuk (hson : stop.monthDay.month + 1 < 120000) (hday : 1 ≤ dayOfMonth) :
    ∃ l, DatedForecast.monthOccurrences start stop dayOfMonth = .ok l ∧
      l.map Date.monthDay = Rules.monthOccurrences ⟨start.monthDay, stop.monthDay.succ⟩ dayOfMonth := by
  obtain ⟨l, hl, hmap⟩ := @monthOccurrences_ok start stop dayOfMonth hson hday
  refine ⟨l, hl, hmap.trans ?_⟩
  have hstart := monthNo_eq start
  have hstop := monthNo_eq stop
  have hicinde : Ufuk.icinde ⟨start.monthDay, stop.monthDay.succ⟩ = fun d => start.monthDay ≤ d ∧ d ≤ stop.monthDay := by
    funext d
    simp only [Ufuk.icinde, lt_succ_iff]
  have hadaylar (fuel : ℕ) : ((List.range' start.monthDay.month fuel).map fun ay => vadeGunu ay dayOfMonth).filter
      (Ufuk.icinde ⟨start.monthDay, stop.monthDay.succ⟩) = adaylar start stop dayOfMonth start.monthDay.month fuel := by
    rw [hicinde]
    rfl
  have hsucc := MonthDay.month_le_of_le (MonthDay.lt_succ stop.monthDay).le
  rw [Rules.monthOccurrences, hadaylar]
  rcases Nat.lt_or_ge stop.monthDay.month start.monthDay.month with hlt | hge
  · rw [adaylar_eq_nil hlt, adaylar_eq_nil hlt]
  · rw [show stop.monthDay.succ.month + 1 - start.monthDay.month = (stop.monthNo + 1 - start.monthNo) +
      (stop.monthDay.succ.month - stop.monthDay.month) by omega, adaylar_add (by omega)]

theorem mem_adaylar {d : Date} (hday : 1 ≤ dayOfMonth) :
    d.monthDay ∈ adaylar start stop dayOfMonth start.monthDay.month (stop.monthNo + 1 - start.monthNo) ↔
      start.monthDay ≤ d.monthDay ∧ d.monthDay ≤ stop.monthDay ∧ d.day = min dayOfMonth (daysInMonth d.year d.month) := by
  have hstart := monthNo_eq start
  have hstop := monthNo_eq stop
  have hvade : (vadeGunu d.monthDay.month dayOfMonth).day = min dayOfMonth (daysInMonth d.year d.month) := by
    change min (max 1 dayOfMonth) (monthLength d.monthDay.month) = _
    rw [max_eq_right hday, d.monthLength_monthDay]
  rw [adaylar, List.mem_filter, List.mem_map, decide_eq_true_iff]
  constructor
  · rintro ⟨⟨m, -, hm⟩, hlow, hhigh⟩
    refine ⟨hlow, hhigh, ?_⟩
    obtain rfl : m = d.monthDay.month := congrArg MonthDay.month hm
    exact (congrArg MonthDay.day hm).symm.trans hvade
  · rintro ⟨hlow, hhigh, hd⟩
    refine ⟨⟨d.monthDay.month, List.mem_range'_1.mpr ?_, ?_⟩, hlow, hhigh⟩
    · have := MonthDay.month_le_of_le hlow
      have := MonthDay.month_le_of_le hhigh
      omega
    · apply MonthDay.no_injective
      rw [MonthDay.no, MonthDay.no, hvade, ← hd]
      rfl

theorem pairwise_adaylar : (adaylar start stop dayOfMonth ay fuel).Pairwise (· < ·) := by
  have hmonths : (List.range' ay fuel).Pairwise (· < ·) := List.pairwise_lt_range'
  refine List.Pairwise.filter _ (List.pairwise_map.mpr (hmonths.imp fun h => ?_))
  exact MonthDay.lt_iff.mpr (.inl h)

end Occurrences

section Instalments
variable {a : ℕ × Account} {taksit : ℚ} {anchorDay fuel idx m ay gun : ℕ} {stop current : Date} {remaining : Option ℤ}

/-- The due dates of a window come first. -/
theorem vade_sayisi (ay gun : ℕ) (son : MonthDay) : ∃ m, ∀ i, i < m ↔ vadeGunu (ay + i) gun ≤ son := by
  have hson : ∃ i, ¬ vadeGunu (ay + i) gun ≤ son := by
    refine ⟨son.month + 1, fun h => ?_⟩
    have := MonthDay.month_le_of_le h
    rw [month_vadeGunu] at this
    omega
  refine ⟨Nat.find hson, fun i => ⟨fun h => not_not.mp (Nat.find_min hson h), fun h => ?_⟩⟩
  by_contra hge
  exact Nat.find_spec hson ((vadeGunu_mono (by omega) gun).trans h)

/-- The instalments that are left, of so many due dates. -/
def taksitAdedi (remaining : Option ℤ) (idx m : ℕ) : ℕ := (remaining.map fun r => min m (r.toNat - idx)).getD m

theorem taksitAdedi_eq_zero (h : ¬ ((remaining.all fun r => (idx : ℤ) < r) = true)) : taksitAdedi remaining idx m = 0 := by
  cases remaining with
  | none => exact absurd rfl h
  | some r =>
    have hr : ¬ (idx : ℤ) < r := fun hlt => h (decide_eq_true hlt)
    change min m (r.toNat - idx) = 0
    omega

theorem taksitAdedi_succ (h : (remaining.all fun r => (idx : ℤ) < r) = true) :
    taksitAdedi remaining idx (m + 1) = taksitAdedi remaining (idx + 1) m + 1 := by
  cases remaining with
  | none => rfl
  | some r =>
    have hr : (idx : ℤ) < r := of_decide_eq_true h
    change min (m + 1) (r.toNat - idx) = min m (r.toNat - (idx + 1)) + 1
    omega

theorem krediDongusu_ok (hcur : vadeGunu current.monthDay.month anchorDay = current.monthDay)
    (hfuel : stop.monthDay.month < current.monthDay.month + fuel) (hson : stop.monthDay.month + 1 < 120000)
    (hday : 1 ≤ anchorDay) (hm : ∀ i, i < m ↔ vadeGunu (current.monthDay.month + i) anchorDay ≤ stop.monthDay) :
    krediDongusu a taksit anchorDay stop remaining fuel idx current =
      .ok ((List.range (taksitAdedi remaining idx m)).map fun i =>
        taksitOlayi a taksit (vadeGunu (current.monthDay.month + i) anchorDay)) := by
  induction fuel generalizing current idx m with
  | zero =>
    have hm0 : m = 0 := by
      by_contra hne
      have := MonthDay.month_le_of_le ((hm 0).mp (Nat.pos_of_ne_zero hne))
      rw [month_vadeGunu] at this
      omega
    have hadet : taksitAdedi remaining idx m = 0 := by
      rw [hm0]
      cases remaining with
      | none => rfl
      | some r => exact Nat.zero_min _
    rw [hadet]
    rfl
  | succ fuel ih =>
    by_cases hc : stop.notBefore current ∧ (remaining.all fun r => (idx : ℤ) < r)
    · have hle := notBefore_iff.mp hc.1
      have hmonth := MonthDay.month_le_of_le hle
      obtain ⟨sonraki, hsonraki, hvade⟩ := @sonrakiAyda_ok anchorDay current (by omega) hday
      have hay : sonraki.monthDay.month = current.monthDay.month + 1 := by rw [hvade, month_vadeGunu]
      obtain ⟨k, rfl⟩ : ∃ k, m = k + 1 := by
        refine Nat.exists_eq_succ_of_ne_zero (Nat.pos_iff_ne_zero.mp ((hm 0).mpr ?_))
        rwa [Nat.add_zero, hcur]
      have hk : ∀ i, i < k ↔ vadeGunu (sonraki.monthDay.month + i) anchorDay ≤ stop.monthDay := by
        intro i
        rw [hay, add_assoc, Nat.add_comm 1 i, ← hm (i + 1), Nat.add_lt_add_iff_right]
      have hrec := @ih (idx + 1) k sonraki (by rw [hay, hvade]) (by omega) hk
      rw [krediDongusu, if_pos hc, hsonraki, taksitAdedi_succ hc.2, List.range_succ_eq_map, List.map_cons, List.map_map]
      change (krediDongusu a taksit anchorDay stop remaining fuel (idx + 1) sonraki >>= _) = _
      rw [hrec]
      change Except.ok (taksitOlayi a taksit current.monthDay :: _) = _
      rw [show vadeGunu (current.monthDay.month + 0) anchorDay = current.monthDay from hcur]
      refine congrArg (fun l => Except.ok (taksitOlayi a taksit current.monthDay :: l)) (List.map_congr_left fun i _ => ?_)
      rw [hay, Function.comp, Nat.succ_eq_add_one, add_assoc, Nat.add_comm 1 i]
    · have hadet : taksitAdedi remaining idx m = 0 := by
        by_cases hnot : stop.notBefore current = true
        · exact taksitAdedi_eq_zero fun hall => hc ⟨hnot, hall⟩
        · have hm0 : m = 0 := by
            by_contra hne
            refine hnot (notBefore_iff.mpr ?_)
            have := (hm 0).mp (Nat.pos_of_ne_zero hne)
            rwa [Nat.add_zero, hcur] at this
          rw [hm0]
          cases remaining with
          | none => rfl
          | some r => exact Nat.zero_min _
      rw [krediDongusu, if_neg hc, hadet]
      rfl

end Instalments

section Expansion
variable {start stop : Date} {ek : HesapEki} {a : ℕ × Account} {ilk : Date}

/-- The window ends before the last month of the calendar. -/
def TakvimYeter (stop : Date) : Prop := ¬ (stop.year = 9999 ∧ stop.month = 12)

theorem takvimYeter_iff : TakvimYeter stop ↔ stop.monthDay.month + 1 < 120000 := by
  have hyear := stop.year_range
  have hmonth := stop.month_range
  change _ ↔ 12 * stop.year + (stop.month - 1) + 1 < 120000
  unfold TakvimYeter
  omega

/-- In the last month of the calendar every window fails. -/
theorem monthOccurrences_error (hwindow : stop.notBefore start = true) (hson : ¬ TakvimYeter stop)
    {dayOfMonth : ℕ} (hday : 1 ≤ dayOfMonth) :
    DatedForecast.monthOccurrences start stop dayOfMonth = .error .valueError := by
  obtain ⟨cur, hcur, hilk⟩ := @aydakiGun_ok start.year start.month 1 start.year_range start.month_range (le_refl 1)
  have hstart := monthNo_eq start
  have hstop := monthNo_eq stop
  have hlast := month_monthDay_lt stop
  rw [takvimYeter_iff] at hson
  rw [DatedForecast.monthOccurrences, hcur]
  exact @tekrarDongusu_error start stop cur start.monthDay.month (stop.monthNo + 1 - start.monthNo) dayOfMonth hilk
    (MonthDay.month_le_of_le (notBefore_iff.mp hwindow)) (by omega) (by omega) hday

/-- The due dates of a loan: the day of the first one in every month from there on, clamped to its length. -/
def vadeTarihi (ilk : Date) (i : ℕ) : MonthDay := vadeGunu (ilk.monthDay.month + i) ilk.day

theorem vadeTarihi_zero (ilk : Date) : vadeTarihi ilk 0 = ilk.monthDay := by
  apply MonthDay.no_injective
  have hday := ilk.monthDay.day_range
  have hvade : (vadeTarihi ilk 0).day = ilk.monthDay.day := by
    change min (max 1 ilk.monthDay.day) (monthLength ilk.monthDay.month) = ilk.monthDay.day
    omega
  rw [MonthDay.no, MonthDay.no, hvade]
  rfl

theorem expandLoanPayments_ok (hson : TakvimYeter stop) (htip : a.2.accountType = .loan)
    (hilk : ek.nextPaymentDate = some ilk) (hstart : ilk.notBefore start = true) (htaksit : ek.monthlyPayment.getD 0 ≠ 0) :
    ∃ m, (∀ i, i < m ↔ vadeTarihi ilk i ≤ stop.monthDay) ∧ DatedForecast.expandLoanPayments start stop ek a =
      .ok ((List.range ((ek.remainingInstallments.map fun r => min m r.toNat).getD m)).map fun i =>
        taksitOlayi a (ek.monthlyPayment.getD 0) (vadeTarihi ilk i)) := by
  obtain ⟨m, hm⟩ := vade_sayisi ilk.monthDay.month ilk.day stop.monthDay
  refine ⟨m, hm, ?_⟩
  have htip' : ¬ a.2.accountType ≠ .loan := not_not.mpr htip
  rw [DatedForecast.expandLoanPayments, if_neg htip', hilk]
  dsimp only
  rw [if_pos hstart]
  by_cases hodendi : ek.remainingInstallments = some 0
  · rw [if_pos (.inr hodendi), hodendi]
    change _ = Except.ok ((List.range (min m 0)).map _)
    rw [Nat.min_zero]
    rfl
  · have hno := monthNo_eq ilk
    have hno' := monthNo_eq stop
    rw [if_neg (not_or.mpr ⟨htaksit, hodendi⟩), krediDongusu_ok (vadeTarihi_zero ilk) (by omega) (takvimYeter_iff.mp hson)
      ilk.day_range.1 hm]
    rfl

/-- In a window that ends before the last month of the calendar a day of the month is found in every month it falls
into the window in, and a loan with an instalment has the first of its due dates there, as many as are left. -/
theorem month_expansion_exact (hson : TakvimYeter stop) :
    (∀ dayOfMonth, 1 ≤ dayOfMonth → dayOfMonth ≤ 31 → ∃ l,
      DatedForecast.monthOccurrences start stop dayOfMonth = .ok l ∧ l.Pairwise (fun d e => d.monthDay < e.monthDay) ∧
        ∀ d, d ∈ l ↔ d.notBefore start = true ∧ stop.notBefore d = true ∧
          d.day = min dayOfMonth (daysInMonth d.year d.month)) ∧
    (∀ (ek : HesapEki) (a : ℕ × Account) (ilk : Date), a.2.accountType = .loan → ek.nextPaymentDate = some ilk →
      ilk.notBefore start = true → ek.monthlyPayment.getD 0 ≠ 0 →
        ∃ m, (∀ i, i < m ↔ vadeTarihi ilk i ≤ stop.monthDay) ∧ DatedForecast.expandLoanPayments start stop ek a =
          .ok ((List.range ((ek.remainingInstallments.map fun r => min m r.toNat).getD m)).map fun i =>
            taksitOlayi a (ek.monthlyPayment.getD 0) (vadeTarihi ilk i))) := by
  refine ⟨fun dayOfMonth hlow _ => ?_, fun ek a ilk htip hilk hstart htaksit =>
    expandLoanPayments_ok hson htip hilk hstart htaksit⟩
  obtain ⟨l, hl, hmap⟩ := @monthOccurrences_ok start stop dayOfMonth (takvimYeter_iff.mp hson) hlow
  refine ⟨l, hl, ?_, fun d => ?_⟩
  · rw [← @List.pairwise_map _ _ Date.monthDay, hmap]
    exact pairwise_adaylar
  · rw [← List.mem_map_of_injective monthDay_injective, hmap, mem_adaylar hlow, notBefore_iff, notBefore_iff]

end Expansion

def acilisGunu : Date := (Date.ofYmd? 2025 12 31).get rfl

def kapanisGunu : Date := (Date.ofYmd? 2026 6 6).get rfl

theorem month_expansion_exact_bahar :
    (∀ dayOfMonth, 1 ≤ dayOfMonth → dayOfMonth ≤ 31 → ∃ l,
      DatedForecast.monthOccurrences acilisGunu kapanisGunu dayOfMonth = .ok l ∧
        l.Pairwise (fun d e => d.monthDay < e.monthDay) ∧
        ∀ d, d ∈ l ↔ d.notBefore acilisGunu = true ∧ kapanisGunu.notBefore d = true ∧
          d.day = min dayOfMonth (daysInMonth d.year d.month)) ∧
    (∀ (ek : HesapEki) (a : ℕ × Account) (ilk : Date), a.2.accountType = .loan → ek.nextPaymentDate = some ilk →
      ilk.notBefore acilisGunu = true → ek.monthlyPayment.getD 0 ≠ 0 →
        ∃ m, (∀ i, i < m ↔ vadeTarihi ilk i ≤ kapanisGunu.monthDay) ∧
          DatedForecast.expandLoanPayments acilisGunu kapanisGunu ek a =
            .ok ((List.range ((ek.remainingInstallments.map fun r => min m r.toNat).getD m)).map fun i =>
              taksitOlayi a (ek.monthlyPayment.getD 0) (vadeTarihi ilk i))) :=
  month_expansion_exact (by unfold TakvimYeter; decide)

def aracKredisi : Account :=
  ⟨1, none, "Araç kredisi", .loan, 900, none, none, none, none, none, none, none, false⟩

/-- A loan whose instalment is not known has three of them left and none in the forecast. -/
theorem unknown_instalment_not_expanded : ¬ ∀ (start stop ilk : Date) (ek : HesapEki) (a : ℕ × Account),
    stop.notBefore start = true → a.2.accountType = .loan → ek.nextPaymentDate = some ilk →
      ilk.notBefore start = true → ∀ (r : ℤ) (m : ℕ), ek.remainingInstallments = some r →
        (∀ i, i < m ↔ vadeTarihi ilk i ≤ stop.monthDay) →
          ∃ events, DatedForecast.expandLoanPayments start stop ek a = .ok events ∧ events.length = min m r.toNat := by
  intro h
  obtain ⟨m, hm⟩ := vade_sayisi acilisGunu.monthDay.month acilisGunu.day kapanisGunu.monthDay
  have hpos : 0 < m := (hm 0).mpr (by decide)
  obtain ⟨events, hok, hlength⟩ := h acilisGunu kapanisGunu acilisGunu ⟨none, some 3, some acilisGunu, none⟩
    (1, aracKredisi) (by decide) rfl rfl (by decide) 3 m rfl hm
  have hbos : DatedForecast.expandLoanPayments acilisGunu kapanisGunu ⟨none, some 3, some acilisGunu, none⟩
      (1, aracKredisi) = .ok [] := rfl
  rw [hbos] at hok
  obtain rfl := Except.ok.inj hok
  change 0 = min m 3 at hlength
  omega

end FinancialOs.Guarantees
