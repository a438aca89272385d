import FinancialOs.Library.WeightedLists
import FinancialOs.Rules.CockpitFigures

/-! Money in custody and the user's own figures: two states of a scope that differ only in what their
custody accounts hold. -/
namespace FinancialOs.Guarantees
open Library Store Rules

/-- Two account rows that differ at most in what a custody account holds. -/
def EmanetFarki (a b : Account) : Prop :=
  b = { a with
    balance := b.balance
    lotCount := b.lotCount
    costPerLot := b.costPerLot
    currentPrice := b.currentPrice } ∧ (a.isEmanet = false → a = b)

def hesaplarla (p : PanelDb) (accounts : Table Account) : PanelDb := { p with db := { p.db with accounts := accounts } }

/-- The cockpit's figures about the user's own money. -/
def kendiRakamlari (k : KokpitRakamlari) : ℚ × ℚ × ℚ × ℚ × ℚ × ℚ × GuvenliBorcOdemesi × ℚ × NakitTakvimi :=
  (k.nakitKasa, k.netDeger, k.netDegerTam, k.reelButce, k.dailyLimit, k.guvenliHarcama, k.guvenliBorcOdemesi,
    k.atanmamisNakit, k.nakitTakvimi)

/-- The cockpit shows the same own figures in both states, and every forecast runs through the same
days. -/
def AyniRakamlar (safeDebtBuffer : ℚ) (p q : PanelDb) (userId : ℕ) (workspaceId : Option ℕ) (today : Date) : Prop :=
  (kokpitRakamlari safeDebtBuffer p userId workspaceId today).map kendiRakamlari =
      (kokpitRakamlari safeDebtBuffer q userId workspaceId today).map kendiRakamlari ∧
    ∀ horizonDays accountId dahil esik,
      (generateForecast p userId workspaceId horizonDays accountId dahil esik today).days =
        (generateForecast q userId workspaceId horizonDays accountId dahil esik today).days

/-- The custody accounts of a scope that are of a type. -/
def EmanetVar (p : PanelDb) (userId : ℕ) (workspaceId : Option ℕ) (tip : AccountType) : Prop :=
  ∃ k a, p.db.accounts.get? k = some a ∧ scopeFilter userId workspaceId a = true ∧ a.accountType = tip ∧
    a.isEmanet = true

section Related
variable {p : PanelDb} {accounts : Table Account} {userId : ℕ} {workspaceId : Option ℕ} {a b : Account}

theorem EmanetFarki.kapsam (h : EmanetFarki a b) (userId : ℕ) (workspaceId : Option ℕ) :
    scopeFilter userId workspaceId a = scopeFilter userId workspaceId b := by
  rw [h.1]
  rfl

theorem EmanetFarki.tip (h : EmanetFarki a b) : a.accountType = b.accountType := by
  rw [h.1]

theorem EmanetFarki.ad (h : EmanetFarki a b) : a.name = b.name := by
  rw [h.1]

theorem EmanetFarki.emanet (h : EmanetFarki a b) : a.isEmanet = b.isEmanet := by
  rw [h.1]

theorem emanetFarki_refl (a : Account) : EmanetFarki a a := ⟨rfl, fun _ => rfl⟩

/-- What reads no more of the accounts of a type than their names finds the same ones. -/
theorem flatMap_adlar {β : Type} (h : p.db.accounts.Related EmanetFarki accounts) (tip : AccountType)
    {f : ℕ × Account → List β} (hf : ∀ k a b, a.name = b.name → f (k, a) = f (k, b)) :
    (turHesaplari (hesaplarla p accounts).db userId workspaceId tip).flatMap f =
      (turHesaplari p.db userId workspaceId tip).flatMap f := by
  symm
  apply h.select_flatMap
  · intro a b hab
    rw [hab.kapsam userId workspaceId, hab.tip]
  · intro r _ b hab _
    exact hf r.1 r.2 b hab.ad

/-- A selection of accounts in the scope that finds no custody account is the same. -/
theorem select_ayni (h : p.db.accounts.Related EmanetFarki accounts) {sec : Account → Bool}
    (hsec : ∀ a b, EmanetFarki a b → sec a = sec b) (hyok : ∀ a, sec a = true → a.isEmanet = false ∨
      ¬ ∃ k, p.db.accounts.get? k = some a) : accounts.select sec = p.db.accounts.select sec := by
  symm
  apply h.select_eq hsec
  intro r hr b hab hp
  rcases hyok r.2 hp with hem | hne
  · exact hab.2 hem
  · exact absurd ⟨r.1, Table.get?_eq_some.mpr hr⟩ hne

theorem emanetsiz {tip : AccountType} (hyok : ¬ EmanetVar p userId workspaceId tip)
    (hk : scopeFilter userId workspaceId a = true) (ht : a.accountType = tip) :
    a.isEmanet = false ∨ ¬ ∃ k, p.db.accounts.get? k = some a := by
  by_cases hem : a.isEmanet = false
  · exact .inl hem
  · right
    rintro ⟨k, hget⟩
    exact hyok ⟨k, a, hget, hk, ht, by simpa using hem⟩

theorem turHesaplari_ayni (h : p.db.accounts.Related EmanetFarki accounts) {tip : AccountType}
    (hyok : ¬ EmanetVar p userId workspaceId tip) :
    turHesaplari (hesaplarla p accounts).db userId workspaceId tip = turHesaplari p.db userId workspaceId tip := by
  apply select_ayni h
  · intro a b hab
    rw [hab.kapsam userId workspaceId, hab.tip]
  · intro a ha
    have ha : scopeFilter userId workspaceId a = true ∧ a.accountType = tip := of_decide_eq_true ha
    exact emanetsiz hyok ha.1 ha.2

theorem borcHesaplari_ayni (h : p.db.accounts.Related EmanetFarki accounts)
    (hkart : ¬ EmanetVar p userId workspaceId .creditCard) (hkredi : ¬ EmanetVar p userId workspaceId .loan) :
    borcHesaplari (hesaplarla p accounts).db userId workspaceId = borcHesaplari p.db userId workspaceId := by
  apply select_ayni h
  · intro a b hab
    rw [hab.kapsam userId workspaceId, hab.tip]
  · intro a ha
    have ha : scopeFilter userId workspaceId a = true ∧ (a.accountType = .loan ∨ a.accountType = .creditCard) :=
      of_decide_eq_true ha
    rcases ha.2 with ht | ht
    · exact emanetsiz hkredi ha.1 ht
    · exact emanetsiz hkart ha.1 ht

/-- The investment accounts that are not in custody. -/
theorem yatirimlar_ayni (h : p.db.accounts.Related EmanetFarki accounts) :
    (turHesaplari (hesaplarla p accounts).db userId workspaceId .investment).filter (fun a => a.2.isEmanet = false) =
      (turHesaplari p.db userId workspaceId .investment).filter (fun a => a.2.isEmanet = false) := by
  have hsec (t : Table Account) :
      (t.select (fun a => scopeFilter userId workspaceId a ∧ a.accountType = .investment)).filter
        (fun a => a.2.isEmanet = false) =
      t.select (fun a => (scopeFilter userId workspaceId a ∧ a.accountType = .investment) ∧ a.isEmanet = false) := by
    rw [Table.select, List.filter_filter, Table.select]
    apply List.filter_congr
    intro r _
    simp [and_comm]
  unfold turHesaplari
  rw [hsec, hsec]
  apply select_ayni h
  · intro a b hab
    rw [hab.kapsam userId workspaceId, hab.tip, hab.emanet]
  · intro a ha
    have ha : (scopeFilter userId workspaceId a = true ∧ a.accountType = .investment) ∧ a.isEmanet = false :=
      of_decide_eq_true ha
    exact .inl ha.2

theorem yatirimDegeri_ayni (h : p.db.accounts.Related EmanetFarki accounts) :
    yatirimDegeri (hesaplarla p accounts) userId workspaceId false = yatirimDegeri p userId workspaceId false := by
  unfold yatirimDegeri
  rw [yatirimlar_ayni h]

theorem yatirimdaBekleyen_ayni (h : p.db.accounts.Related EmanetFarki accounts) :
    yatirimdaBekleyen (hesaplarla p accounts) userId workspaceId = yatirimdaBekleyen p userId workspaceId := by
  have hsec (q : PanelDb) : yatirimdaBekleyen q userId workspaceId =
      (((turHesaplari q.db userId workspaceId .investment).filter fun a => a.2.isEmanet = false).filter fun a =>
        ((q.hesapEki a.1).fundCode.getD "" == "") && (a.2.lotCount.getD 0 == 0) &&
          decide (0 < a.2.balance)).map fun a => (a.2.name, a.2.balance) := by
    rw [List.filter_filter, yatirimdaBekleyen]
    congr 1
    apply List.filter_congr
    intro r _
    cases r.2.isEmanet <;> simp
  rw [hsec, hsec, yatirimlar_ayni h]
  rfl

theorem nakitToplami_eq_sum (db : Db) (userId : ℕ) (workspaceId : Option ℕ) :
    nakitToplami db userId workspaceId = ((turHesaplari db userId workspaceId .cash).map fun a => a.2.balance).sum := by
  unfold turHesaplari Table.select
  rw [sum_filter_eq]
  simp only [decide_eq_true_eq]
  rfl

/-- The instalments of a loan do not depend on what is owed on it. -/
theorem taksitDongusu_adlar {a b : Account} (had : a.name = b.name) (k : ℕ) (taksit : ℚ) (anchorDay fuel : ℕ)
    (stop : MonthDay) (kalan : Option ℕ) (current : MonthDay) :
    taksitDongusu (k, a) taksit anchorDay stop fuel kalan current =
      taksitDongusu (k, b) taksit anchorDay stop fuel kalan current := by
  induction fuel generalizing kalan current with
  | zero => rfl
  | succ fuel ih =>
    rw [taksitDongusu, taksitDongusu, ih]
    simp only [had]

theorem expandLoanPayments_adlar {a b : Account} (had : a.name = b.name) (u : Ufuk) (ek : ℕ → HesapEki) (k : ℕ) :
    expandLoanPayments u ek (k, a) = expandLoanPayments u ek (k, b) := by
  simp only [expandLoanPayments, taksitDongusu_adlar had]

theorem allEvents_ayni (h : p.db.accounts.Related EmanetFarki accounts) (u : Ufuk) (accountId : Option ℕ)
    (dahil : Dahil) : allEvents (hesaplarla p accounts) userId workspaceId u accountId dahil =
      allEvents p userId workspaceId u accountId dahil := by
  have hkredi : (turHesaplari (hesaplarla p accounts).db userId workspaceId .loan).flatMap
      (expandLoanPayments u p.hesapEki) =
      (turHesaplari p.db userId workspaceId .loan).flatMap (expandLoanPayments u p.hesapEki) :=
    flatMap_adlar h .loan (fun k _ _ had => expandLoanPayments_adlar had u p.hesapEki k)
  unfold allEvents
  rw [← hkredi]
  rfl

theorem vadesiGelenTaksitler_ayni (h : p.db.accounts.Related EmanetFarki accounts) (today : MonthDay) :
    vadesiGelenTaksitler (hesaplarla p accounts) userId workspaceId today =
      vadesiGelenTaksitler p userId workspaceId today := by
  have hanahtar (q : PanelDb) : vadesiGelenTaksitler q userId workspaceId today =
      (((turHesaplari q.db userId workspaceId .loan).map Prod.fst).filter fun k =>
        (q.hesapEki k).nextPaymentDate.any fun d => today ≤ d.monthDay ∧ d.monthDay ≤ ayinSonGunu today).map
          fun k => (q.hesapEki k).monthlyPayment.getD 0 := by
    rw [List.filter_map, List.map_map]
    rfl
  have hliste : (turHesaplari (hesaplarla p accounts).db userId workspaceId .loan).map Prod.fst =
      (turHesaplari p.db userId workspaceId .loan).map Prod.fst := by
    rw [List.map_eq_flatMap, List.map_eq_flatMap]
    exact flatMap_adlar h .loan (fun _ _ _ _ => rfl)
  rw [hanahtar, hanahtar, hliste]
  rfl

theorem turHatasi_ayni (h : p.db.accounts.Related EmanetFarki accounts) (today : MonthDay) :
    turHatasi (hesaplarla p accounts) userId workspaceId today = turHatasi p userId workspaceId today := by
  unfold turHatasi
  rw [vadesiGelenTaksitler_ayni h]
  rfl

/-- Without cash in custody the days of every forecast are the same. -/
theorem days_ayni (h : p.db.accounts.Related EmanetFarki accounts) (hnakit : ¬ EmanetVar p userId workspaceId .cash)
    (horizonDays : ℕ) (accountId : Option ℕ) (dahil : Dahil) (esik : ℚ) (today : Date) :
    (generateForecast (hesaplarla p accounts) userId workspaceId horizonDays accountId dahil esik today).days =
      (generateForecast p userId workspaceId horizonDays accountId dahil esik today).days := by
  simp only [generateForecast, allEvents_ayni h, acilisBakiyesi, turHesaplari_ayni h hnakit]

section Figures
variable (h : p.db.accounts.Related EmanetFarki accounts) (hnakit : ¬ EmanetVar p userId workspaceId .cash)
variable (hkart : ¬ EmanetVar p userId workspaceId .creditCard) (hkredi : ¬ EmanetVar p userId workspaceId .loan)

include h hnakit hkart in
theorem summary_ayni (horizonDays : ℕ) (accountId : Option ℕ) (dahil : Dahil) (esik : ℚ) (today : Date) :
    (generateForecast (hesaplarla p accounts) userId workspaceId horizonDays accountId dahil esik today).summary =
      (generateForecast p userId workspaceId horizonDays accountId dahil esik today).summary := by
  simp only [generateForecast, allEvents_ayni h, acilisBakiyesi, turHesaplari_ayni h hnakit, kalanKartLimiti,
    turHesaplari_ayni h hkart]

include h hnakit in
theorem nakitToplami_ayni :
    nakitToplami (hesaplarla p accounts).db userId workspaceId = nakitToplami p.db userId workspaceId := by
  rw [nakitToplami_eq_sum, nakitToplami_eq_sum, turHesaplari_ayni h hnakit]

include h hnakit hkart hkredi in
theorem takvim_ayni (today : Date) :
    calculateNakitTakvimi (hesaplarla p accounts) userId workspaceId today =
      calculateNakitTakvimi p userId workspaceId today := by
  have hham : hamKalemler (hesaplarla p accounts) userId workspaceId today =
      hamKalemler p userId workspaceId today := by
    unfold hamKalemler kartHesapIdleri
    rw [turHesaplari_ayni h hkart, borcHesaplari_ayni h hkart hkredi]
    rfl
  unfold calculateNakitTakvimi
  rw [hham, nakitToplami_ayni h hnakit, yatirimdaBekleyen_ayni h]
  unfold kartHesapIdleri
  rw [turHesaplari_ayni h hkart]
  rfl

include h hnakit hkart hkredi in
/-- Where no cash, card or loan is in custody, what custody holds is in none of the own figures. -/
theorem rakamlar_ayni (safeDebtBuffer : ℚ) (today : Date) :
    (kokpitRakamlari safeDebtBuffer (hesaplarla p accounts) userId workspaceId today).map kendiRakamlari =
      (kokpitRakamlari safeDebtBuffer p userId workspaceId today).map kendiRakamlari := by
  have hkartlar : kartBorcu (hesaplarla p accounts) userId workspaceId = kartBorcu p userId workspaceId := by
    unfold kartBorcu
    rw [turHesaplari_ayni h hkart]
  have hkrediler : krediBorcu (hesaplarla p accounts) userId workspaceId = krediBorcu p userId workspaceId := by
    unfold krediBorcu
    rw [turHesaplari_ayni h hkredi]
  simp only [kokpitRakamlari, nakitToplami_ayni h hnakit, hkartlar, hkrediler, yatirimDegeri_ayni h,
    vadesiGelenTaksitler_ayni h, turHatasi_ayni h, summary_ayni h hnakit hkart, takvim_ayni h hnakit hkart hkredi]
  by_cases hhata : turHatasi p userId workspaceId today.monthDay = true
  · rw [if_pos hhata, if_pos hhata]
  · rw [if_neg hhata, if_neg hhata]
    rfl

end Figures

end Related

/-- One lira more on an account. -/
def biriktir (a : Account) : Account := { a with balance := a.balance + 1 }

section Changed
variable {p : PanelDb} {userId k : ℕ} {workspaceId : Option ℕ} {a : Account}

theorem related_biriktir (hget : p.db.accounts.get? k = some a) (hem : a.isEmanet = true) :
    p.db.accounts.Related EmanetFarki (p.db.accounts.modify k biriktir) := by
  apply Table.Related.modify _ k emanetFarki_refl
  intro b hb
  obtain rfl : a = b := Option.some.inj (hget.symm.trans hb)
  refine ⟨rfl, fun hn => ?_⟩
  rw [hem] at hn
  cases hn

theorem bakiyeler_artar (q : ℚ) (hget : p.db.accounts.get? k = some a)
    (hscope : scopeFilter userId workspaceId a = true) (tip : AccountType) :
    ((turHesaplari (hesaplarla p (p.db.accounts.modify k fun a => { a with balance := a.balance + q })).db userId
      workspaceId tip).map fun a => a.2.balance).sum =
    ((turHesaplari p.db userId workspaceId tip).map fun a => a.2.balance).sum +
      if a.accountType = tip then q else 0 := by
  have htotal (t : Table Account) :
      ((t.select fun a => scopeFilter userId workspaceId a ∧ a.accountType = tip).map fun a => a.2.balance).sum =
        t.total (fun a => if scopeFilter userId workspaceId a = true ∧ a.accountType = tip then a.balance else 0) := by
    unfold Table.select
    rw [sum_filter_eq]
    simp only [decide_eq_true_eq]
    rfl
  have hkapsam : scopeFilter userId workspaceId { a with balance := a.balance + q } = true := hscope
  unfold turHesaplari
  rw [htotal, htotal]
  change (p.db.accounts.modify k _).total
    (fun a : Account => if scopeFilter userId workspaceId a = true ∧ a.accountType = tip then a.balance else 0) = _
  rw [Table.total_modify hget]
  by_cases ht : a.accountType = tip
  · rw [if_pos ⟨hscope, ht⟩, if_pos ⟨hkapsam, ht⟩, if_pos ht]
    ring
  · rw [if_neg (fun h => ht h.2), if_neg (fun h => ht h.2), if_neg ht]
    ring

theorem bakiyeler_biriktir (hget : p.db.accounts.get? k = some a)
    (hscope : scopeFilter userId workspaceId a = true) (tip : AccountType) :
    ((turHesaplari (hesaplarla p (p.db.accounts.modify k biriktir)).db userId workspaceId tip).map fun a =>
      a.2.balance).sum =
    ((turHesaplari p.db userId workspaceId tip).map fun a => a.2.balance).sum +
      if a.accountType = tip then 1 else 0 :=
  bakiyeler_artar 1 hget hscope tip

theorem roundEven_add_one_ne (q : ℚ) : roundEven (q + 1) 2 ≠ roundEven q 2 := by
  have hone := roundEven_add_intCast q 1 (by decide : 1 ≤ 2)
  push_cast at hone
  rw [hone]
  linarith

/-- A forecast over all accounts opens with the cash. -/
theorem acilisBakiyesi_none : acilisBakiyesi p userId workspaceId none =
    ((turHesaplari p.db userId workspaceId .cash).map fun a => a.2.balance).sum := by
  have hhepsi (l : List (ℕ × Account)) : (l.filter fun a => (none : Option ℕ).all fun id => a.1 = id) = l :=
    List.filter_eq_self.mpr fun _ _ => rfl
  rw [acilisBakiyesi, hhepsi]

/-- Cash in custody opens every forecast. -/
theorem emanet_nakit_gorunur (safeDebtBuffer : ℚ) (hget : p.db.accounts.get? k = some a)
    (hscope : scopeFilter userId workspaceId a = true) (ht : a.accountType = .cash) (today : Date) :
    ¬ AyniRakamlar safeDebtBuffer p (hesaplarla p (p.db.accounts.modify k biriktir)) userId workspaceId today := by
  rintro ⟨-, hdays⟩
  have hgun := congrArg (List.map ForecastDay.openingBalance) (hdays 1 none .hepsi 0)
  simp only [generateForecast, gunZinciri, List.map_cons, List.map_nil, List.cons.injEq, and_true,
    acilisBakiyesi_none] at hgun
  rw [bakiyeler_biriktir hget hscope, if_pos ht] at hgun
  exact roundEven_add_one_ne _ hgun.symm

/-- A debt in custody lowers the net worth. -/
theorem emanet_borc_gorunur (safeDebtBuffer : ℚ) (hget : p.db.accounts.get? k = some a) (hem : a.isEmanet = true)
    (hscope : scopeFilter userId workspaceId a = true) (ht : a.accountType = .creditCard ∨ a.accountType = .loan)
    {today : Date} (hhata : turHatasi p userId workspaceId today.monthDay = false) :
    ¬ AyniRakamlar safeDebtBuffer p (hesaplarla p (p.db.accounts.modify k biriktir)) userId workspaceId today := by
  rintro ⟨hkokpit, -⟩
  have hrel := related_biriktir hget hem
  have hhata' : turHatasi (hesaplarla p (p.db.accounts.modify k biriktir)) userId workspaceId today.monthDay = false :=
    (turHatasi_ayni hrel today.monthDay).trans hhata
  simp only [kokpitRakamlari, hhata, hhata', Bool.false_eq_true, if_false, Except.map, Except.ok.injEq,
    kendiRakamlari, Prod.mk.injEq] at hkokpit
  have hnet := hkokpit.2.1
  simp only [nakitToplami_eq_sum, kartBorcu, krediBorcu, yatirimDegeri_ayni hrel, bakiyeler_biriktir hget hscope,
    netWorthSeen] at hnet
  have hbir (nakit yatirim kart kredi c d e : ℚ) (hc : c = 0) (hd : d + e = 1) :
      nakit + yatirim - kart - kredi = (nakit + c + yatirim - (kart + d) - (kredi + e)) + 1 := by
    rw [hc]
    linarith
  rw [hbir _ _ _ _ _ _ _ (if_neg _) _] at hnet
  · exact roundEven_add_one_ne _ hnet
  · rcases ht with ht | ht <;> simp [ht]
  · rcases ht with ht | ht <;> simp [ht]

end Changed

/-- What custody holds stays out of the own figures and of every forecast exactly where no cash is in
custody, and no card and no loan either, unless the cockpit cannot be built at all. -/
theorem custody_invisible_iff (safeDebtBuffer : ℚ) (p : PanelDb) (userId : ℕ) (workspaceId : Option ℕ)
    (today : Date) :
    (∀ accounts, p.db.accounts.Related EmanetFarki accounts →
      AyniRakamlar safeDebtBuffer p (hesaplarla p accounts) userId workspaceId today) ↔
    ¬ EmanetVar p userId workspaceId .cash ∧
      (turHatasi p userId workspaceId today.monthDay = true ∨
        ¬ EmanetVar p userId workspaceId .creditCard ∧ ¬ EmanetVar p userId workspaceId .loan) := by
  constructor
  · intro hayni
    refine ⟨?_, ?_⟩
    · rintro ⟨k, a, hget, hscope, ht, hem⟩
      exact emanet_nakit_gorunur safeDebtBuffer hget hscope ht today (hayni _ (related_biriktir hget hem))
    · cases hhata : turHatasi p userId workspaceId today.monthDay with
      | true => exact .inl rfl
      | false =>
        right
        constructor
        · rintro ⟨k, a, hget, hscope, ht, hem⟩
          exact emanet_borc_gorunur safeDebtBuffer hget hem hscope (.inl ht) hhata
            (hayni _ (related_biriktir hget hem))
        · rintro ⟨k, a, hget, hscope, ht, hem⟩
          exact emanet_borc_gorunur safeDebtBuffer hget hem hscope (.inr ht) hhata
            (hayni _ (related_biriktir hget hem))
  · rintro ⟨hnakit, hdiger⟩ accounts hrel
    refine ⟨?_, fun horizonDays accountId dahil esik =>
      (days_ayni hrel hnakit horizonDays accountId dahil esik today).symm⟩
    rcases hdiger with hhata | ⟨hkart, hkredi⟩
    · have hhata' : turHatasi (hesaplarla p accounts) userId workspaceId today.monthDay = true :=
        (turHatasi_ayni hrel today.monthDay).trans hhata
      simp only [kokpitRakamlari, hhata, hhata', if_true]
    · exact (rakamlar_ayni hrel hnakit hkart hkredi safeDebtBuffer today).symm

/-- A cash account with 500 lira of another person. -/
def emanetKasa : Account where
  userId := 1
  workspaceId := none
  name := "Emanet"
  accountType := .cash
  balance := 500
  creditLimit := none
  statementDay := none
  paymentDay := none
  statementBalance := none
  lotCount := none
  costPerLot := none
  currentPrice := none
  isEmanet := true

def emanetKasaDb : PanelDb where
  db := { Db.empty with accounts := Table.empty.push emanetKasa }
  hesapEki := fun _ => ⟨none, none, none, none⟩
  envelopes := .empty

def emanetGunu : Date := (Date.ofYmd? 2026 5 18).get rfl

/-- The other person's money is the user's cash and net worth. -/
theorem custody_was_spendable :
    (kokpitRakamlari 2000 emanetKasaDb 1 none emanetGunu).map (fun k => (k.nakitKasa, k.netDeger, k.guvenliHarcama)) =
        .ok (500, 500, 500) ∧
      emanetKasaDb.db.accounts.Related EmanetFarki (Table.empty.push { emanetKasa with balance := 0 }) ∧
      (kokpitRakamlari 2000 (hesaplarla emanetKasaDb (Table.empty.push { emanetKasa with balance := 0 })) 1 none
        emanetGunu).map (fun k => (k.nakitKasa, k.netDeger, k.guvenliHarcama)) = .ok (0, 0, 0) := by
  refine ⟨by decide +kernel, ?_, by decide +kernel⟩
  exact .cons ⟨rfl, rfl, fun h => by cases h⟩ .nil

end FinancialOs.Guarantees
