import FinancialOs.Guarantees.ForecastCalendar
import FinancialOs.Guarantees.ForecastLedger
import FinancialOs.Rules.CockpitFigures

/-! The instalment of a loan up to the month's end, in the real budget, in the cash calendar and in the
forecast. -/
namespace FinancialOs.Guarantees
open Library Store Rules

/-- What the real budget adds up for a loan. -/
def butcePayi (ek : ℕ → HesapEki) (today : MonthDay) (loan : ℕ × Account) : List ℚ :=
  if (ek loan.1).nextPaymentDate.any fun d => today ≤ d.monthDay ∧ d.monthDay ≤ ayinSonGunu today then
    [(ek loan.1).monthlyPayment.getD 0]
  else []

/-- `_calculate_loan_payments_until_eom`: the `0.0` of a loan without an instalment does not add to the
decimals of the others. -/
def calculateLoanPaymentsUntilEom (p : PanelDb) (userId : ℕ) (workspaceId : Option ℕ) (today : MonthDay) :
    Except PyError ℚ :=
  let taksitler := vadesiGelenTaksitler p userId workspaceId today
  if (taksitler.any fun x => x = 0) && (taksitler.any fun x => x ≠ 0) then .error .typeError
  else .ok (roundEven taksitler.sum 2)

/-- What the real budget charges for a loan, where it has a total at all. -/
def butceTaksiti (p : PanelDb) (userId : ℕ) (workspaceId : Option ℕ) (bugun : Date) (loan : ℕ × Account) :
    Except PyError ℚ :=
  (calculateLoanPaymentsUntilEom p userId workspaceId bugun.monthDay).map fun _ =>
    (butcePayi p.hesapEki bugun.monthDay loan).sum

/-- What the calendar charges for a loan. -/
def takvimTaksiti (p : PanelDb) (userId : ℕ) (workspaceId : Option ℕ) (bugun : Date) (loan : ℕ × Account) : ℚ :=
  -takvimEtkisi (calculateNakitTakvimi p userId workspaceId bugun) .krediTaksit loan.1

/-- What the forecast up to the month's end charges for a loan. -/
def tahminTaksiti (p : PanelDb) (bugun : Date) (loan : ℕ × Account) : ℚ :=
  -((expandLoanPayments ⟨bugun.monthDay, (ayinSonGunu bugun.monthDay).succ⟩ p.hesapEki loan).map
    ForecastEvent.amount).sum

/-- The loan has instalments left, or it is unknown how many. -/
def kalanVar (ek : HesapEki) : Bool := ek.remainingInstallments.all fun n => 0 < n

/-- When the three panels agree on a loan: it has no instalment to pay; its date lies behind the month; the
date is over and so are the instalments; or an instalment of whole kuruş is due and some are left. -/
def TaksitteUyum (ek : HesapEki) (bugun : MonthDay) : Prop :=
  ∀ d ∈ ek.nextPaymentDate,
    let taksit := ek.monthlyPayment.getD 0
    taksit = 0 ∨ ayinSonGunu bugun < d.monthDay ∨ d.monthDay < bugun ∧ kalanVar ek = false ∨
      bugun ≤ d.monthDay ∧ d.monthDay ≤ ayinSonGunu bugun ∧ 0 < taksit ∧ Kurusluk taksit ∧ kalanVar ek = true

/-- The due loans of the scope all have an instalment, or none of them has one. -/
def TekTur (p : PanelDb) (userId : ℕ) (workspaceId : Option ℕ) (today : MonthDay) : Prop :=
  (∀ x ∈ vadesiGelenTaksitler p userId workspaceId today, x ≠ 0) ∨
    ∀ x ∈ vadesiGelenTaksitler p userId workspaceId today, x = 0

section Panels
variable {p : PanelDb} {userId : ℕ} {workspaceId : Option ℕ} {bugun : Date} {loan : ℕ × Account}

theorem vadesiGelenTaksitler_eq (today : MonthDay) : vadesiGelenTaksitler p userId workspaceId today =
    (turHesaplari p.db userId workspaceId .loan).flatMap (butcePayi p.hesapEki today) :=
  filter_map_eq_flatMap _ _ _

/-- Where the budget has a total, it is that of the loans' shares. -/
theorem calculateLoanPaymentsUntilEom_ok {today : MonthDay} {t : ℚ}
    (h : calculateLoanPaymentsUntilEom p userId workspaceId today = .ok t) : t = roundEven
      ((turHesaplari p.db userId workspaceId .loan).map fun loan => (butcePayi p.hesapEki today loan).sum).sum 2 := by
  have hsum := sum_flatMap_eq (turHesaplari p.db userId workspaceId .loan) (butcePayi p.hesapEki today) id
  rw [List.map_id, ← vadesiGelenTaksitler_eq] at hsum
  simp only [List.map_id] at hsum
  rw [calculateLoanPaymentsUntilEom] at h
  split at h
  · cases h
  · rw [← hsum]
    exact (Except.ok.inj h).symm

theorem butceTaksiti_eq (t : ℚ) : butceTaksiti p userId workspaceId bugun loan = .ok t ↔
    TekTur p userId workspaceId bugun.monthDay ∧ (butcePayi p.hesapEki bugun.monthDay loan).sum = t := by
  rw [butceTaksiti, calculateLoanPaymentsUntilEom]
  split
  · next hk =>
    rw [Bool.and_eq_true, List.any_eq_true, List.any_eq_true] at hk
    obtain ⟨⟨x, hx, hx0⟩, y, hy, hy0⟩ := hk
    have hn : ¬ TekTur p userId workspaceId bugun.monthDay := by
      rintro (hyok | hhep)
      · exact hyok x hx (of_decide_eq_true hx0)
      · exact of_decide_eq_true hy0 (hhep y hy)
    exact iff_of_false (fun h => by cases h) fun h => hn h.1
  · next hk =>
    have htek : TekTur p userId workspaceId bugun.monthDay := by
      by_cases h : ∀ x ∈ vadesiGelenTaksitler p userId workspaceId bugun.monthDay, x ≠ 0
      · exact .inl h
      · push Not at h
        obtain ⟨x, hx, rfl⟩ := h
        refine .inr fun y hy => by_contra fun hy0 => hk ?_
        rw [Bool.and_eq_true, List.any_eq_true, List.any_eq_true]
        exact ⟨⟨0, hx, rfl⟩, y, hy, decide_eq_true hy0⟩
    rw [and_iff_right htek]
    exact ⟨fun h => Except.ok.inj h, fun h => congrArg Except.ok h⟩

theorem mem_taksitKalemi {bugun : MonthDay} {ek : ℕ → HesapEki} {e : TakvimKalemi} (h : e ∈ taksitKalemi bugun ek loan) :
    e.tip = .krediTaksit ∧ e.kayit = loan.1 := by
  unfold taksitKalemi at h
  split at h
  · cases h
  · exact mem_kalemEkle h

theorem kayit_hesapKalemi {bugun : MonthDay} {ek : ℕ → HesapEki} {e : TakvimKalemi} (h : e ∈ hesapKalemi bugun ek loan) :
    e.kayit = loan.1 := by
  unfold hesapKalemi kartKalemi at h
  split at h
  · exact (mem_taksitKalemi h).2
  · split at h
    · cases h
    · exact (mem_kalemEkle h).2

/-- The calendar charges for a loan what it enters for it. -/
theorem takvimTaksiti_eq (h : loan ∈ turHesaplari p.db userId workspaceId .loan) :
    takvimTaksiti p userId workspaceId bugun loan =
      -((taksitKalemi bugun.monthDay p.hesapEki loan).map TakvimKalemi.etki).sum := by
  obtain ⟨hget, hkapsam, htip⟩ := mem_turHesaplari.mp (show (loan.1, loan.2) ∈ _ from h)
  have hgelir : (((etkinKayitlar p.db.incomes userId workspaceId).flatMap (gelirKalemi bugun)).map
      (kalemPayi .krediTaksit loan.1)).sum = 0 := by
    apply sum_kalemPayi_baska
    intro r e he
    have hk : e.tip = kalemTipi true ∧ e.kayit = r.1 := @mem_kayitKalemi bugun true [] r e he
    rw [hk.1]
    decide
  have hgider : (((etkinKayitlar p.db.expenses userId workspaceId).flatMap
      (giderKalemi bugun (kartHesapIdleri p userId workspaceId))).map (kalemPayi .krediTaksit loan.1)).sum = 0 := by
    apply sum_kalemPayi_baska
    intro r e he
    have hk : e.tip = kalemTipi false ∧ e.kayit = r.1 :=
      @mem_kayitKalemi bugun false (kartHesapIdleri p userId workspaceId) r e he
    rw [hk.1]
    decide
  have hborc : (((kapsamSatirlari p.db.debts userId workspaceId).flatMap (borcKalemiTakvimi bugun.monthDay)).map
      (kalemPayi .krediTaksit loan.1)).sum = 0 := by
    apply sum_kalemPayi_baska
    intro d e he
    rcases tip_borcKalemiTakvimi he with hs | hs <;> rw [hs] <;> decide
  have hpay : (((borcHesaplari p.db userId workspaceId).flatMap (hesapKalemi bugun.monthDay p.hesapEki)).map
      (kalemPayi .krediTaksit loan.1)).sum = ((taksitKalemi bugun.monthDay p.hesapEki loan).map TakvimKalemi.etki).sum := by
    have hmem : (loan.1, loan.2) ∈ borcHesaplari p.db userId workspaceId := by
      rw [borcHesaplari, Table.mem_select]
      exact ⟨hget, decide_eq_true ⟨hkapsam, .inl htip⟩⟩
    rw [sum_flatMap_eq]
    refine (Table.sum_select_single hmem ?_).trans ?_
    · intro q _ hne
      apply sum_eq_zero_of
      intro e he
      refine if_neg fun hk => hne ((kayit_hesapKalemi he).symm.trans hk.2)
    · rw [hesapKalemi, if_pos htip]
      refine congrArg List.sum (List.map_congr_left fun e he => ?_)
      exact if_pos (mem_taksitKalemi he)
  rw [takvimTaksiti, takvimEtkisi_eq, hamKalemler, List.map_append, List.sum_append, List.map_append, List.sum_append,
    List.map_append, List.sum_append, hgelir, hgider, hborc, hpay]
  ring

end Panels

section Loans
variable {ek : ℕ → HesapEki} {bugun : MonthDay} {loan : ℕ × Account}

theorem le_sonGun {d : MonthDay} (hay : d.month = bugun.month) : d ≤ ayinSonGunu bugun := by
  have hlen := (monthLength_bounds d.month).2
  have hday := d.day_range.2
  refine MonthDay.le_iff.mpr (.inr ⟨hay, ?_⟩)
  change d.day ≤ min (max 1 31) (monthLength bugun.month)
  rw [← hay]
  omega

theorem month_succ_sonGun (bugun : MonthDay) : (ayinSonGunu bugun).succ.month = bugun.month + 1 := by
  have hlen := (monthLength_bounds bugun.month).2
  have hlast : ¬ (ayinSonGunu bugun).day < monthLength (ayinSonGunu bugun).month := by
    change ¬ min (max 1 31) (monthLength bugun.month) < monthLength bugun.month
    omega
  rw [MonthDay.succ, dif_neg hlast]
  rfl

/-- No second instalment falls into the month of the first one. -/
theorem sum_taksitDongusu {taksit : ℚ} {kalan : Option ℕ} {anchorDay : ℕ} {current : MonthDay}
    (hay : current.month = bugun.month) :
    ((taksitDongusu loan taksit anchorDay (ayinSonGunu bugun).succ 2 kalan current).map ForecastEvent.amount).sum =
      if kalan = some 0 then 0 else -taksit := by
  have hle : current ≤ ayinSonGunu bugun := le_sonGun hay
  have hnext : ¬ vadeGunu (current.month + 1) anchorDay < (ayinSonGunu bugun).succ := by
    refine (MonthDay.succ_le_of_lt (MonthDay.lt_iff.mpr (.inl ?_))).not_gt
    rw [month_vadeGunu, hay]
    exact Nat.lt_succ_self _
  by_cases hk : kalan = some 0
  · simp [taksitDongusu, hk]
  · have hlt : current < (ayinSonGunu bugun).succ := hle.trans_lt (MonthDay.lt_succ _)
    simp [taksitDongusu, hk, hlt, hnext]

/-- What the forecast up to the month's end charges: the instalment, unless the date lies behind the month
or none is left. -/
theorem tahminTaksiti_eq {p : PanelDb} {bugun : Date} {d : Date}
    (hd : (p.hesapEki loan.1).nextPaymentDate = some d) : tahminTaksiti p bugun loan =
      if d.monthDay ≤ ayinSonGunu bugun.monthDay ∧ kalanVar (p.hesapEki loan.1) = true then
        (p.hesapEki loan.1).monthlyPayment.getD 0
      else 0 := by
  have hbugun : bugun.monthDay ≤ ayinSonGunu bugun.monthDay := le_sonGun rfl
  have hkalan : (p.hesapEki loan.1).remainingInstallments.map Int.toNat = some 0 ↔
      ¬ kalanVar (p.hesapEki loan.1) = true := by
    cases hr : (p.hesapEki loan.1).remainingInstallments <;> simp [kalanVar, hr]
  simp only [tahminTaksiti, expandLoanPayments, hd]
  generalize (p.hesapEki loan.1).monthlyPayment.getD 0 = taksit
  by_cases htaksit : taksit = 0
  · simp [htaksit]
  rw [if_neg htaksit]
  by_cases hle : d.monthDay ≤ ayinSonGunu bugun.monthDay
  · have hmax : max d.monthDay bugun.monthDay ≤ ayinSonGunu bugun.monthDay := max_le hle hbugun
    have hay : (max d.monthDay bugun.monthDay).month = bugun.monthDay.month := by
      have hust := MonthDay.le_iff.mp hmax
      have halt := MonthDay.le_iff.mp (le_max_right d.monthDay bugun.monthDay)
      have hson : (ayinSonGunu bugun.monthDay).month = bugun.monthDay.month := rfl
      omega
    have hfuel : (ayinSonGunu bugun.monthDay).succ.month + 1 - (max d.monthDay bugun.monthDay).month = 2 := by
      rw [month_succ_sonGun, hay]
      omega
    rw [hfuel, sum_taksitDongusu hay]
    by_cases hv : kalanVar (p.hesapEki loan.1) = true
    · simp [hkalan, hv, hle]
    · simp [hkalan, hv]
  · have hge : ¬ max d.monthDay bugun.monthDay < (ayinSonGunu bugun.monthDay).succ := by
      refine (MonthDay.succ_le_of_lt ((not_le.mp hle).trans_le (le_max_left _ _))).not_gt
    cases hf : (ayinSonGunu bugun.monthDay).succ.month + 1 - (max d.monthDay bugun.monthDay).month <;>
      simp [taksitDongusu, hge, hle]

/-- What the budget adds up. -/
theorem butcePayi_eq {d : Date} (hd : (ek loan.1).nextPaymentDate = some d) : (butcePayi ek bugun loan).sum =
    if bugun ≤ d.monthDay ∧ d.monthDay ≤ ayinSonGunu bugun then (ek loan.1).monthlyPayment.getD 0 else 0 := by
  simp only [butcePayi, hd, Option.any_some, decide_eq_true_eq]
  split
  · exact List.sum_singleton
  · rfl

theorem sum_taksitKalemi {d : Date} (hd : (ek loan.1).nextPaymentDate = some d) :
    -((taksitKalemi bugun ek loan).map TakvimKalemi.etki).sum =
      if bugun ≤ d.monthDay ∧ d.monthDay ≤ ayinSonGunu bugun ∧ 0 < (ek loan.1).monthlyPayment.getD 0 then
        roundEven ((ek loan.1).monthlyPayment.getD 0) 2
      else 0 := by
  simp only [taksitKalemi, hd, kalemEkle]
  by_cases hgun : bugun ≤ d.monthDay ∧ d.monthDay ≤ ayinSonGunu bugun
  · by_cases htutar : 0 < (ek loan.1).monthlyPayment.getD 0
    · simp [hgun, htutar, htutar.not_ge, roundEven_neg]
    · simp [htutar, not_lt.mp htutar]
  · have hyok : ¬ (bugun ≤ d.monthDay ∧ d.monthDay ≤ ayinSonGunu bugun ∧ 0 < (ek loan.1).monthlyPayment.getD 0) :=
      fun h => hgun ⟨h.1, h.2.1⟩
    simp [hgun, hyok]

end Loans

/-- An instalment that is due in the rest of the month: as it stands in the budget, in kuruş and only if it is
positive in the calendar, and only with instalments left in the forecast. -/
theorem vadesinde (taksit : ℚ) (kalan : Bool) :
    (if True then taksit else 0) = (if 0 < taksit then roundEven taksit 2 else 0) ∧
        (if 0 < taksit then roundEven taksit 2 else 0) = (if kalan = true then taksit else 0) ↔
      taksit = 0 ∨ 0 < taksit ∧ Kurusluk taksit ∧ kalan = true := by
  rw [if_true]
  rcases lt_trichotomy taksit 0 with hneg | rfl | hpos
  · simp [hneg.not_gt, hneg.ne]
  · simp
  · rw [if_pos hpos]
    simp only [hpos, hpos.ne', true_and, false_or]
    constructor
    · rintro ⟨hk, hs⟩
      refine ⟨hk.symm, by_contra fun hn => ?_⟩
      rw [if_neg hn, ← hk] at hs
      exact hpos.ne' hs
    · rintro ⟨hk, hs⟩
      rw [if_pos hs, hk]
      exact ⟨rfl, rfl⟩

/-- The three panels charge the same for a loan exactly where the budget has a total and they read the loan
alike. -/
theorem loan_panels_agree_iff {p : PanelDb} {userId : ℕ} {workspaceId : Option ℕ} {bugun : Date} {loan : ℕ × Account}
    (h : loan ∈ turHesaplari p.db userId workspaceId .loan) :
    butceTaksiti p userId workspaceId bugun loan = .ok (takvimTaksiti p userId workspaceId bugun loan) ∧
        takvimTaksiti p userId workspaceId bugun loan = tahminTaksiti p bugun loan ↔
      TekTur p userId workspaceId bugun.monthDay ∧ TaksitteUyum (p.hesapEki loan.1) bugun.monthDay := by
  rw [butceTaksiti_eq, and_assoc, takvimTaksiti_eq h]
  refine and_congr_right fun _ => ?_
  unfold TaksitteUyum
  cases hd : (p.hesapEki loan.1).nextPaymentDate with
  | none => simp [butcePayi, taksitKalemi, tahminTaksiti, expandLoanPayments, hd]
  | some d =>
    rw [butcePayi_eq hd, sum_taksitKalemi hd, tahminTaksiti_eq hd]
    simp only [Option.mem_def, Option.some.injEq, forall_eq']
    generalize (p.hesapEki loan.1).monthlyPayment.getD 0 = taksit
    by_cases hson : d.monthDay ≤ ayinSonGunu bugun.monthDay
    · by_cases hbas : bugun.monthDay ≤ d.monthDay
      · simp only [hson, hbas, hson.not_gt, hbas.not_gt, true_and, false_and, false_or]
        exact vadesinde taksit (kalanVar (p.hesapEki loan.1))
      · cases kalanVar (p.hesapEki loan.1) <;> simp [hson, hbas, hson.not_gt, not_le.mp hbas, eq_comm]
    · simp [hson, not_le.mp hson]

/-- A loan that is paid off and still names a date, and one whose date was missed. -/
def kredi : Account := ⟨1, none, "Kredi", .loan, 900, none, none, none, none, none, none, none, false⟩

def krediDb (kalan : ℤ) (gun : ℕ) : PanelDb where
  db := { Db.empty with accounts := Table.empty.push kredi }
  hesapEki := fun _ => ⟨some 300, some kalan, Date.ofYmd? 2026 5 gun, none⟩
  envelopes := .empty

def krediGunu : Date := (Date.ofYmd? 2026 5 23).get rfl

theorem loan_panels_agree_iff_kredi :
    butceTaksiti (krediDb 3 25) 1 none krediGunu (1, kredi) = .ok (takvimTaksiti (krediDb 3 25) 1 none krediGunu (1, kredi)) ∧
        takvimTaksiti (krediDb 3 25) 1 none krediGunu (1, kredi) = tahminTaksiti (krediDb 3 25) krediGunu (1, kredi) ↔
      TekTur (krediDb 3 25) 1 none krediGunu.monthDay ∧ TaksitteUyum ((krediDb 3 25).hesapEki 1) krediGunu.monthDay :=
  loan_panels_agree_iff (by decide +kernel)

/-- The budget charges the paid-off loan and the forecast does not; the forecast charges the missed instalment
and the budget does not. -/
theorem panels_disagreed :
    (1, kredi) ∈ turHesaplari (krediDb 0 25).db 1 none .loan ∧
      butceTaksiti (krediDb 0 25) 1 none krediGunu (1, kredi) = .ok 300 ∧
      tahminTaksiti (krediDb 0 25) krediGunu (1, kredi) = 0 ∧
      butceTaksiti (krediDb 3 10) 1 none krediGunu (1, kredi) = .ok 0 ∧
      tahminTaksiti (krediDb 3 10) krediGunu (1, kredi) = 300 := by
  refine ⟨by decide +kernel, ?_, by decide +kernel, ?_, by decide +kernel⟩
  · rw [butceTaksiti_eq]
    exact ⟨.inl (by decide +kernel), by decide +kernel⟩
  · rw [butceTaksiti_eq]
    exact ⟨.inl (by decide +kernel), by decide +kernel⟩

end FinancialOs.Guarantees
