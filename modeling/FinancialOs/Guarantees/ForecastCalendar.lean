import FinancialOs.Library.WeightedLists
import FinancialOs.Rules.CashForecast

/-! The forecast and the calendar expand the same recurring records: what each of the two attributes
to a record over the rest of the month. -/
namespace FinancialOs.Guarantees
open Library Store Rules

/-- What a forecast attributes to a record on its days up to one. -/
def tahminEtkisi (f : Forecast) (son : MonthDay) (kaynak : OlayKaynagi) (id : ℕ) : ℚ :=
  ((((f.days.filter fun g => g.date ≤ son).flatMap ForecastDay.events).filter fun e =>
    e.sourceType = kaynak ∧ e.sourceId = id).map ForecastEvent.amount).sum

/-- What the calendar attributes to a record. -/
def takvimEtkisi (t : NakitTakvimi) (tip : KalemTipi) (id : ℕ) : ℚ :=
  ((t.kalemler.filter fun k => k.tip = tip ∧ k.kayit = id).map TakvimKalemi.etki).sum

/-- The records of a kind: the incomes, or the expenses. -/
def kayitlar (db : Db) (gelir : Bool) : Table Recurring := if gelir then db.incomes else db.expenses

def olayKaynagi (gelir : Bool) : OlayKaynagi := if gelir then .income else .recurringExpense

def kalemTipi (gelir : Bool) : KalemTipi := if gelir then .duzenliGelir else .duzenliGider

/-- What an amount does to the cash. -/
def yonlu (gelir : Bool) (tutar : ℚ) : ℚ := if gelir then tutar else -tutar

section Days
variable {events : List ForecastEvent} {esik : ℚ} {son : MonthDay}

theorem sum_gununOlaylari (events : List ForecastEvent) (d : MonthDay) (w : ForecastEvent → ℚ) :
    ((gununOlaylari events d).map w).sum = (events.map (fun e => if e.date = d then w e else 0)).sum := by
  have hperm := List.mergeSort_perm (events.filter fun e => e.date = d) fun a b => |b.amount| ≤ |a.amount|
  rw [gununOlaylari, (hperm.map w).sum_eq, sum_filter_eq]
  simp only [decide_eq_true_eq]

/-- An event of the horizon stands on its first day or on a later one. -/
private theorem gun_ayrimi (n : ℕ) (d x : MonthDay) (v : ℚ) :
    (if d ≤ x ∧ x < d.addDays (n + 1) ∧ x ≤ son then v else 0) =
      (if d ≤ son then (if x = d then v else 0) else 0) +
        if d.succ ≤ x ∧ x < d.succ.addDays n ∧ x ≤ son then v else 0 := by
  have hstop : d.addDays (n + 1) = d.succ.addDays n := rfl
  rw [hstop]
  rcases lt_trichotomy x d with hlt | rfl | hgt
  · have hnot : ¬ d.succ ≤ x := fun h => (MonthDay.lt_iff_succ_le.mpr h).not_gt hlt
    simp [hlt.not_ge, hlt.ne, hnot]
  · have hnot : ¬ x.succ ≤ x := (MonthDay.lt_succ x).not_ge
    have hlt : x < x.succ.addDays n := (MonthDay.lt_succ x).trans_le (MonthDay.le_addDays _ n)
    simp [hnot, hlt]
  · simp [hgt.le, hgt.ne', MonthDay.succ_le_of_lt hgt]

/-- Every event of the horizon stands on exactly one of its days. -/
theorem sum_gunZinciri (w : ForecastEvent → ℚ) (n : ℕ) (d : MonthDay) (balance : ℚ) :
    ((((gunZinciri events esik n d balance).filter fun g => g.date ≤ son).flatMap ForecastDay.events).map w).sum =
      (events.map (fun e => if d ≤ e.date ∧ e.date < d.addDays n ∧ e.date ≤ son then w e else 0)).sum := by
  induction n generalizing d balance with
  | zero =>
    symm
    apply sum_eq_zero_of
    intro e _
    apply if_neg
    rintro ⟨hle, hlt, -⟩
    exact hlt.not_ge hle
  | succ n ih =>
    simp only [gun_ayrimi n d, List.sum_map_add]
    rw [gunZinciri, ← ih d.succ (balance + girisler (gununOlaylari events d) + cikislar (gununOlaylari events d)),
      List.filter_cons]
    by_cases hd : d ≤ son
    · simp [hd, sum_gununOlaylari]
    · simp [hd]

end Days

/-- An event's share in what is attributed to a record of a kind, up to a day. -/
def kayitPayi (u : Ufuk) (son : MonthDay) (kaynak : OlayKaynagi) (id : ℕ) (e : ForecastEvent) : ℚ :=
  if u.start ≤ e.date ∧ e.date < u.stop ∧ e.date ≤ son then
    (if e.sourceType = kaynak ∧ e.sourceId = id then e.amount else 0)
  else 0

section Records
variable {u : Ufuk} {son : MonthDay} {kaynak : OlayKaynagi} {id : ℕ}

theorem kayitPayi_baska {e : ForecastEvent} (h : ¬ (e.sourceType = kaynak ∧ e.sourceId = id)) :
    kayitPayi u son kaynak id e = 0 := by
  simp only [kayitPayi, if_neg h, ite_self]

/-- A list of events of another kind has no share. -/
theorem sum_kayitPayi_baska {events : List ForecastEvent} (h : ∀ e ∈ events, e.sourceType ≠ kaynak) :
    (events.map (kayitPayi u son kaynak id)).sum = 0 := by
  apply sum_eq_zero_of
  intro e he
  exact kayitPayi_baska (fun hk => h e he hk.1)

theorem kaynak_taksitDongusu {a : ℕ × Account} {taksit : ℚ} {anchorDay fuel : ℕ} {stop current : MonthDay}
    {kalan : Option ℕ} {e : ForecastEvent} (h : e ∈ taksitDongusu a taksit anchorDay stop fuel kalan current) :
    e.sourceType = .loanPayment := by
  induction fuel generalizing kalan current with
  | zero => cases h
  | succ fuel ih =>
    rw [taksitDongusu] at h
    split at h
    · rcases List.mem_cons.mp h with rfl | hmem
      · rfl
      · exact ih hmem
    · cases h

theorem kaynak_expandLoanPayments {ek : ℕ → HesapEki} {a : ℕ × Account} {e : ForecastEvent}
    (h : e ∈ expandLoanPayments u ek a) : e.sourceType = .loanPayment := by
  simp only [expandLoanPayments] at h
  split at h
  · cases h
  · split at h
    · cases h
    · exact kaynak_taksitDongusu h

theorem kaynak_borcOlayi {direction : DebtDirection} {d : ℕ × PersonalDebt} {e : ForecastEvent}
    (h : e ∈ borcOlayi u direction d) : e.sourceType = .receivable ∨ e.sourceType = .payable := by
  simp only [borcOlayi] at h
  split at h
  · cases h
  · split at h
    · obtain rfl := List.mem_singleton.mp h
      cases direction with
      | receivable => exact .inl rfl
      | payable => exact .inr rfl
    · cases h

/-- `_expand_recurring_income` and `_expand_recurring_expense`. -/
def kayitOlaylari (gelir : Bool) (u : Ufuk) (r : ℕ × Recurring) : List ForecastEvent :=
  if gelir then expandRecurringIncome u r else expandRecurringExpense u r

theorem kayitOlaylari_eq (gelir : Bool) (r : ℕ × Recurring) :
    kayitOlaylari gelir u r = (monthOccurrences u r.2.dayOfMonth).map fun d =>
      ⟨d, yonlu gelir r.2.amount, r.2.name, olayKaynagi gelir, r.1⟩ := by
  cases gelir <;> rfl

theorem kaynak_kayitOlaylari {gelir : Bool} {r : ℕ × Recurring} {e : ForecastEvent}
    (h : e ∈ kayitOlaylari gelir u r) : e.sourceType = olayKaynagi gelir ∧ e.sourceId = r.1 := by
  rw [kayitOlaylari_eq] at h
  obtain ⟨d, -, rfl⟩ := List.mem_map.mp h
  exact ⟨rfl, rfl⟩

theorem kaynak_flatMap {α : Type} {l : List α} {f : α → List ForecastEvent}
    (h : ∀ a, ∀ e ∈ f a, e.sourceType ≠ kaynak) : ∀ e ∈ l.flatMap f, e.sourceType ≠ kaynak := by
  intro e he
  obtain ⟨a, -, ha⟩ := List.mem_flatMap.mp he
  exact h a e ha

/-- Up to the month's end a record has one day: that of the month the horizon starts in. -/
theorem sum_monthOccurrences (hmonth : u.start.month ≤ u.stop.month) (gun : ℕ) (x : ℚ) :
    ((monthOccurrences u gun).map fun d =>
      if u.start ≤ d ∧ d < u.stop ∧ d ≤ ayinSonGunu u.start then x else 0).sum =
      if u.icinde (vadeGunu u.start.month gun) then x else 0 := by
  obtain ⟨n, hn⟩ : ∃ n, u.stop.month + 1 - u.start.month = n + 1 := ⟨u.stop.month - u.start.month, by omega⟩
  have hsonra : ((List.range' (u.start.month + 1) n).map fun ay =>
      if u.icinde (vadeGunu ay gun) then
        (if u.start ≤ vadeGunu ay gun ∧ vadeGunu ay gun < u.stop ∧ vadeGunu ay gun ≤ ayinSonGunu u.start then x
          else 0)
      else 0).sum = 0 := by
    apply sum_eq_zero_of
    intro ay hay
    have hay : u.start.month < ay := by
      have := List.mem_range'_1.mp hay
      omega
    have hgec : ¬ vadeGunu ay gun ≤ ayinSonGunu u.start := by
      rw [MonthDay.le_iff]
      change ¬ (ay < u.start.month ∨ ay = u.start.month ∧ _)
      omega
    simp [hgec]
  rw [monthOccurrences, sum_filter_eq, List.map_map, hn, List.range'_succ, List.map_cons, List.sum_cons]
  simp only [Function.comp_def]
  rw [hsonra, add_zero]
  by_cases hic : u.icinde (vadeGunu u.start.month gun) = true
  · have hic' : u.start ≤ vadeGunu u.start.month gun ∧ vadeGunu u.start.month gun < u.stop := by
      simpa [Ufuk.icinde] using hic
    rw [if_pos hic, if_pos hic, if_pos ⟨hic'.1, hic'.2, vadeGunu_le_sonGun _ _⟩]
  · rw [if_neg hic, if_neg hic]

end Records

/-- The days a request for a forecast looks at. -/
def ufuk (bugun : Date) (horizonDays : ℕ) : Ufuk := ⟨bugun.monthDay, bugun.monthDay.addDays horizonDays⟩

section Forecasts
variable {p : PanelDb} {userId horizonDays k : ℕ} {workspaceId : Option ℕ} {esik : ℚ} {bugun : Date} {r : Recurring}

theorem ufuk_month : (ufuk bugun horizonDays).start.month ≤ (ufuk bugun horizonDays).stop.month := by
  have hle := MonthDay.le_iff.mp (MonthDay.le_addDays bugun.monthDay horizonDays)
  change bugun.monthDay.month ≤ (bugun.monthDay.addDays horizonDays).month
  omega

theorem tahminEtkisi_eq (son : MonthDay) (kaynak : OlayKaynagi) (id : ℕ) :
    tahminEtkisi (generateForecast p userId workspaceId horizonDays none .hepsi esik bugun) son kaynak id =
      ((allEvents p userId workspaceId (ufuk bugun horizonDays) none .hepsi).map
        (kayitPayi (ufuk bugun horizonDays) son kaynak id)).sum := by
  simp only [tahminEtkisi, sum_filter_eq, generateForecast, sum_gunZinciri, decide_eq_true_eq]
  rfl

/-- Only the events of its own kind have a share in what is attributed to a record. -/
theorem sum_allEvents (u : Ufuk) (son : MonthDay) (gelir : Bool) (id : ℕ) :
    ((allEvents p userId workspaceId u none .hepsi).map (kayitPayi u son (olayKaynagi gelir) id)).sum =
      (((etkinKayitlar (kayitlar p.db gelir) userId workspaceId).flatMap (kayitOlaylari gelir u)).map
        (kayitPayi u son (olayKaynagi gelir) id)).sum := by
  have hkredi : (((turHesaplari p.db userId workspaceId .loan).flatMap (expandLoanPayments u p.hesapEki)).map
      (kayitPayi u son (olayKaynagi gelir) id)).sum = 0 := by
    apply sum_kayitPayi_baska
    apply kaynak_flatMap
    intro a e he
    rw [kaynak_expandLoanPayments he]
    cases gelir <;> decide
  have hborc (direction : DebtDirection) : (((kapsamSatirlari p.db.debts userId workspaceId).flatMap
      (borcOlayi u direction)).map (kayitPayi u son (olayKaynagi gelir) id)).sum = 0 := by
    apply sum_kayitPayi_baska
    apply kaynak_flatMap
    intro d e he
    rcases kaynak_borcOlayi he with hs | hs <;> rw [hs] <;> cases gelir <;> decide
  have hdiger : (((etkinKayitlar (kayitlar p.db (!gelir)) userId workspaceId).flatMap (kayitOlaylari (!gelir) u)).map
      (kayitPayi u son (olayKaynagi gelir) id)).sum = 0 := by
    apply sum_kayitPayi_baska
    apply kaynak_flatMap
    intro r e he
    rw [(kaynak_kayitOlaylari he).1]
    cases gelir <;> decide
  have hhepsi (l : List (ℕ × Recurring)) :
      (l.filter fun r => (none : Option ℕ).all fun id => r.2.accountId = some id) = l :=
    List.filter_eq_self.mpr fun _ _ => rfl
  simp only [allEvents, Dahil.hepsi, if_true, hhepsi, List.map_append, List.sum_append, hkredi, hborc, add_zero]
  cases gelir with
  | true =>
    refine (congrArg (_ + ·) hdiger).trans ?_
    rw [add_zero]
    rfl
  | false =>
    refine (congrArg (· + _) hdiger).trans ?_
    rw [zero_add]
    rfl

/-- What the forecast attributes to a record: its amount, if its day of this month lies in the
horizon. -/
theorem tahmin_kayit {gelir : Bool} (h : (k, r) ∈ etkinKayitlar (kayitlar p.db gelir) userId workspaceId) :
    tahminEtkisi (generateForecast p userId workspaceId horizonDays none .hepsi esik bugun)
        (ayinSonGunu bugun.monthDay) (olayKaynagi gelir) k =
      if (ufuk bugun horizonDays).icinde (vadeGunu bugun.monthDay.month r.dayOfMonth) then yonlu gelir r.amount
      else 0 := by
  rw [tahminEtkisi_eq, sum_allEvents, sum_flatMap_eq]
  refine (Table.sum_select_single h ?_).trans ?_
  · intro q _ hne
    apply sum_eq_zero_of
    intro e he
    apply kayitPayi_baska
    rw [(kaynak_kayitOlaylari he).2]
    exact fun hk => hne hk.2
  · rw [kayitOlaylari_eq, List.map_map]
    simp only [Function.comp_def, kayitPayi, and_self, if_true]
    exact sum_monthOccurrences ufuk_month _ _

end Forecasts

section Calendars
variable {p : PanelDb} {userId k : ℕ} {workspaceId : Option ℕ} {bugun : Date} {r : Recurring}

/-- An entry's share in what the calendar attributes to a record. -/
def kalemPayi (tip : KalemTipi) (id : ℕ) (k : TakvimKalemi) : ℚ := if k.tip = tip ∧ k.kayit = id then k.etki else 0

theorem mem_kalemEkle {bugun tarih : MonthDay} {ad : String} {tutar : ℚ} {tip : KalemTipi} {giris : Bool}
    {ekstra : Option Bool} {kayit : ℕ} {e : TakvimKalemi}
    (h : e ∈ kalemEkle bugun tarih ad tutar tip giris ekstra kayit) : e.tip = tip ∧ e.kayit = kayit := by
  unfold kalemEkle at h
  split at h
  · cases h
  · obtain rfl := List.mem_singleton.mp h
    exact ⟨rfl, rfl⟩

theorem takvimEtkisi_eq (tip : KalemTipi) (id : ℕ) :
    takvimEtkisi (calculateNakitTakvimi p userId workspaceId bugun) tip id =
      ((hamKalemler p userId workspaceId bugun).map (kalemPayi tip id)).sum := by
  have hperm := List.mergeSort_perm (hamKalemler p userId workspaceId bugun) kalemSirasi
  simp only [takvimEtkisi, calculateNakitTakvimi, sum_filter_eq, decide_eq_true_eq]
  exact (hperm.map (kalemPayi tip id)).sum_eq

/-- The calendar counts a record against the cash: this month has not triggered it, and an expense
has an account that is not a card. -/
def sayilir (kartlar : List ℕ) (gelir : Bool) (bugun : Date) (r : Recurring) : Bool :=
  r.lastTriggeredYearMonth ≠ some (yilAy bugun) ∧ (gelir = true ∨ giderYeri kartlar r.accountId = .nakit)

/-- The calendar's entry of a record of a kind. -/
def kayitKalemi (gelir : Bool) (bugun : Date) (kartlar : List ℕ) (r : ℕ × Recurring) : List TakvimKalemi :=
  if gelir then gelirKalemi bugun r else giderKalemi bugun kartlar r

theorem kayitKalemi_eq (gelir : Bool) (kartlar : List ℕ) (r : ℕ × Recurring) :
    kayitKalemi gelir bugun kartlar r =
      if sayilir kartlar gelir bugun r.2 then
        kalemEkle bugun.monthDay (vadeGunu bugun.monthDay.month r.2.dayOfMonth) r.2.name r.2.amount
          (kalemTipi gelir) gelir none r.1
      else [] := by
  by_cases ht : r.2.lastTriggeredYearMonth = some (yilAy bugun)
  · cases gelir <;> simp [kayitKalemi, gelirKalemi, giderKalemi, sayilir, ht]
  · cases gelir with
    | true => simp [kayitKalemi, gelirKalemi, sayilir, kalemTipi, ht]
    | false =>
      cases hy : giderYeri kartlar r.2.accountId <;> simp [kayitKalemi, giderKalemi, sayilir, kalemTipi, ht, hy]

theorem mem_kayitKalemi {gelir : Bool} {kartlar : List ℕ} {r : ℕ × Recurring} {e : TakvimKalemi}
    (h : e ∈ kayitKalemi gelir bugun kartlar r) : e.tip = kalemTipi gelir ∧ e.kayit = r.1 := by
  rw [kayitKalemi_eq] at h
  split at h
  · exact mem_kalemEkle h
  · cases h

theorem tip_borcKalemiTakvimi {d : ℕ × PersonalDebt} {e : TakvimKalemi}
    (h : e ∈ borcKalemiTakvimi bugun.monthDay d) : e.tip = .alacak ∨ e.tip = .borc := by
  simp only [borcKalemiTakvimi] at h
  split at h
  · cases h
  · split at h
    · cases h
    · rw [(mem_kalemEkle h).1]
      cases d.2.direction with
      | receivable => exact .inl rfl
      | payable => exact .inr rfl

theorem tip_hesapKalemi {ek : ℕ → HesapEki} {a : ℕ × Account} {e : TakvimKalemi}
    (h : e ∈ hesapKalemi bugun.monthDay ek a) : e.tip = .krediTaksit ∨ e.tip = .kartOdeme := by
  unfold hesapKalemi taksitKalemi kartKalemi at h
  split at h
  · split at h
    · cases h
    · exact .inl (mem_kalemEkle h).1
  · split at h
    · cases h
    · exact .inr (mem_kalemEkle h).1

/-- Entries of another kind have no share. -/
theorem sum_kalemPayi_baska {α : Type} {l : List α} {f : α → List TakvimKalemi} {tip : KalemTipi}
    (h : ∀ a, ∀ e ∈ f a, e.tip ≠ tip) (id : ℕ) : ((l.flatMap f).map (kalemPayi tip id)).sum = 0 := by
  apply sum_eq_zero_of
  intro e he
  obtain ⟨a, -, ha⟩ := List.mem_flatMap.mp he
  exact if_neg (fun hk => h a e ha hk.1)

theorem sum_hamKalemler (gelir : Bool) (id : ℕ) :
    ((hamKalemler p userId workspaceId bugun).map (kalemPayi (kalemTipi gelir) id)).sum =
      (((etkinKayitlar (kayitlar p.db gelir) userId workspaceId).flatMap
        (kayitKalemi gelir bugun (kartHesapIdleri p userId workspaceId))).map
        (kalemPayi (kalemTipi gelir) id)).sum := by
  have hborc : (((kapsamSatirlari p.db.debts userId workspaceId).flatMap (borcKalemiTakvimi bugun.monthDay)).map
      (kalemPayi (kalemTipi gelir) id)).sum = 0 := by
    apply sum_kalemPayi_baska
    intro d e he
    rcases tip_borcKalemiTakvimi he with hs | hs <;> rw [hs] <;> cases gelir <;> decide
  have hhesap : (((borcHesaplari p.db userId workspaceId).flatMap (hesapKalemi bugun.monthDay p.hesapEki)).map
      (kalemPayi (kalemTipi gelir) id)).sum = 0 := by
    apply sum_kalemPayi_baska
    intro a e he
    rcases tip_hesapKalemi he with hs | hs <;> rw [hs] <;> cases gelir <;> decide
  have hdiger : (((etkinKayitlar (kayitlar p.db (!gelir)) userId workspaceId).flatMap
      (kayitKalemi (!gelir) bugun (kartHesapIdleri p userId workspaceId))).map
      (kalemPayi (kalemTipi gelir) id)).sum = 0 := by
    apply sum_kalemPayi_baska
    intro r e he
    rw [(mem_kayitKalemi he).1]
    cases gelir <;> decide
  simp only [hamKalemler, List.map_append, List.sum_append, hborc, hhesap, add_zero]
  cases gelir with
  | true =>
    refine (congrArg (_ + ·) hdiger).trans ?_
    rw [add_zero]
    rfl
  | false =>
    refine (congrArg (· + _) hdiger).trans ?_
    rw [zero_add]
    rfl

/-- What the calendar counts of a record: its amount in whole kuruş, if it reads the record and its day is
still to come. -/
def kayitEtkisi (kartlar : List ℕ) (gelir : Bool) (bugun : Date) (r : Recurring) : ℚ :=
  if sayilir kartlar gelir bugun r = true ∧ 0 < r.amount ∧
    bugun.monthDay ≤ vadeGunu bugun.monthDay.month r.dayOfMonth then yonlu gelir (roundEven r.amount 2)
  else 0

theorem sum_kayitKalemi (gelir : Bool) (kartlar : List ℕ) (r : ℕ × Recurring) :
    ((kayitKalemi gelir bugun kartlar r).map TakvimKalemi.etki).sum = kayitEtkisi kartlar gelir bugun r.2 := by
  have hson := vadeGunu_le_sonGun bugun.monthDay.month r.2.dayOfMonth
  have hetki : roundEven (if gelir = true then r.2.amount else -r.2.amount) 2 =
      yonlu gelir (roundEven r.2.amount 2) := by
    cases gelir with
    | true => rfl
    | false => exact roundEven_neg r.2.amount 2
  rw [kayitKalemi_eq, kayitEtkisi]
  by_cases hs : sayilir kartlar gelir bugun r.2 = true
  · simp only [hs, if_true, true_and, kalemEkle, ayinSonGunu, hson, and_true]
    by_cases hv : 0 < r.2.amount ∧ bugun.monthDay ≤ vadeGunu bugun.monthDay.month r.2.dayOfMonth
    · have hn : ¬ (r.2.amount ≤ 0 ∨ ¬ bugun.monthDay ≤ vadeGunu bugun.monthDay.month r.2.dayOfMonth) := by
        rintro (hle | hnle)
        · exact hv.1.not_ge hle
        · exact hnle hv.2
      rw [if_neg hn, if_pos hv]
      simp [hetki]
    · have hy : r.2.amount ≤ 0 ∨ ¬ bugun.monthDay ≤ vadeGunu bugun.monthDay.month r.2.dayOfMonth := by
        by_contra hn
        rw [not_or, not_le, not_not] at hn
        exact hv hn
      rw [if_pos hy, if_neg hv]
      rfl
  · simp [hs]

/-- The calendar attributes to a record what it counts of it. -/
theorem takvim_kayit {gelir : Bool} (h : (k, r) ∈ etkinKayitlar (kayitlar p.db gelir) userId workspaceId) :
    takvimEtkisi (calculateNakitTakvimi p userId workspaceId bugun) (kalemTipi gelir) k =
      kayitEtkisi (kartHesapIdleri p userId workspaceId) gelir bugun r := by
  rw [takvimEtkisi_eq, sum_hamKalemler, sum_flatMap_eq]
  refine (Table.sum_select_single h ?_).trans ?_
  · intro q _ hne
    apply sum_eq_zero_of
    intro e he
    exact if_neg (fun hk => hne ((mem_kayitKalemi he).2.symm.trans hk.2))
  · rw [← sum_kayitKalemi gelir _ (k, r)]
    refine congrArg List.sum (List.map_congr_left fun e he => ?_)
    exact if_pos (mem_kayitKalemi he)

end Calendars

/-- When the two engines agree on a record: its day of this month is over; or the forecast reaches it
and the calendar counts its amount as it stands, or both find nothing to count. -/
def Uyusur (bugun : Date) (horizonDays : ℕ) (sayilan : Bool) (r : Recurring) : Prop :=
  let vade := vadeGunu bugun.monthDay.month r.dayOfMonth
  let stop := bugun.monthDay.addDays horizonDays
  vade < bugun.monthDay ∨
    vade < stop ∧ (if sayilan then 0 ≤ r.amount ∧ roundEven r.amount 2 = r.amount else r.amount = 0) ∨
    stop ≤ vade ∧ (sayilan = true → roundEven r.amount 2 ≤ 0)

theorem yonlu_injective {gelir : Bool} {x y : ℚ} : yonlu gelir x = yonlu gelir y ↔ x = y := by
  cases gelir with
  | true => exact Iff.rfl
  | false => exact neg_inj

theorem ite_yonlu (c : Prop) [Decidable c] (gelir : Bool) (x : ℚ) :
    (if c then yonlu gelir x else 0) = yonlu gelir (if c then x else 0) := by
  split
  · rfl
  · cases gelir <;> simp [yonlu]

/-- What the calendar counts of an amount that it reads. -/
theorem sayilan_tutar (x : ℚ) :
    (x = if 0 < x then roundEven x 2 else 0) ↔ 0 ≤ x ∧ roundEven x 2 = x := by
  rcases lt_trichotomy x 0 with hneg | rfl | hpos
  · rw [if_neg hneg.not_gt]
    exact iff_of_false hneg.ne (fun h => h.1.not_gt hneg)
  · simp
  · rw [if_pos hpos, eq_comm]
    exact ⟨fun h => ⟨hpos.le, h⟩, fun h => h.2⟩

theorem kaybolan_tutar (x : ℚ) : (0 = if 0 < x then roundEven x 2 else 0) ↔ roundEven x 2 ≤ 0 := by
  by_cases hpos : 0 < x
  · rw [if_pos hpos]
    exact ⟨fun h => h.ge, fun h => le_antisymm (roundEven_nonneg hpos.le 2) h⟩
  · rw [if_neg hpos]
    have hle := roundEven_mono (not_lt.mp hpos) 2
    rw [roundEven_zero] at hle
    exact iff_of_true rfl hle

/-- The forecast and the calendar attribute the same cash effect to a record exactly where they read it
alike. -/
theorem forecast_agrees_iff {p : PanelDb} {userId horizonDays k : ℕ} {workspaceId : Option ℕ} {esik : ℚ}
    {bugun : Date} {r : Recurring} {gelir : Bool}
    (h : (k, r) ∈ etkinKayitlar (kayitlar p.db gelir) userId workspaceId) :
    tahminEtkisi (generateForecast p userId workspaceId horizonDays none .hepsi esik bugun)
        (ayinSonGunu bugun.monthDay) (olayKaynagi gelir) k =
      takvimEtkisi (calculateNakitTakvimi p userId workspaceId bugun) (kalemTipi gelir) k ↔
    Uyusur bugun horizonDays (sayilir (kartHesapIdleri p userId workspaceId) gelir bugun r) r := by
  rw [tahmin_kayit h, takvim_kayit h]
  unfold Uyusur kayitEtkisi
  dsimp only
  generalize sayilir (kartHesapIdleri p userId workspaceId) gelir bugun r = sayilan
  generalize hvade : vadeGunu bugun.monthDay.month r.dayOfMonth = vade
  have hicinde : (ufuk bugun horizonDays).icinde vade = true ↔
      bugun.monthDay ≤ vade ∧ vade < bugun.monthDay.addDays horizonDays := decide_eq_true_iff
  rw [ite_yonlu, ite_yonlu, yonlu_injective]
  rcases lt_or_ge vade bugun.monthDay with hgecti | hgelecek
  · have hin : ¬ (ufuk bugun horizonDays).icinde vade = true := fun hi => (hicinde.mp hi).1.not_gt hgecti
    have hsay : ¬ (sayilan = true ∧ 0 < r.amount ∧ bugun.monthDay ≤ vade) := fun hs => hs.2.2.not_gt hgecti
    rw [if_neg hin, if_neg hsay]
    exact iff_of_true rfl (.inl hgecti)
  · simp only [hgelecek.not_gt, false_or, hgelecek, and_true]
    rcases lt_or_ge vade (bugun.monthDay.addDays horizonDays) with hufuk | hdisi
    · rw [if_pos (hicinde.mpr ⟨hgelecek, hufuk⟩)]
      simp only [hufuk, true_and, hufuk.not_ge, false_and, or_false]
      cases sayilan with
      | true => simpa using sayilan_tutar r.amount
      | false => simp
    · have hin : ¬ (ufuk bugun horizonDays).icinde vade = true := fun hi => (hicinde.mp hi).2.not_ge hdisi
      rw [if_neg hin]
      simp only [hdisi.not_gt, false_and, false_or, hdisi, true_and]
      cases sayilan with
      | true => simpa using kaybolan_tutar r.amount
      | false => simp

/-- An income of the 30th that an approval has marked for the month already. -/
def maasliDb : PanelDb where
  db := { Db.empty with incomes := Table.empty.push ⟨1, none, "Maaş", 100, none, none, 30, true, some "2026-05"⟩ }
  hesapEki := fun _ => ⟨none, none, none, none⟩
  envelopes := .empty

def maasGunu : Date := (Date.ofYmd? 2026 5 17).get rfl

theorem maasliDb_kayit : (1, ⟨1, none, "Maaş", 100, none, none, 30, true, some "2026-05"⟩) ∈
    etkinKayitlar (kayitlar maasliDb.db true) 1 none := by
  decide +kernel

theorem forecast_agrees_iff_maas :
    tahminEtkisi (generateForecast maasliDb 1 none 60 none .hepsi 0 maasGunu) (ayinSonGunu maasGunu.monthDay)
        (olayKaynagi true) 1 =
      takvimEtkisi (calculateNakitTakvimi maasliDb 1 none maasGunu) (kalemTipi true) 1 ↔
    Uyusur maasGunu 60 (sayilir (kartHesapIdleri maasliDb 1 none) true maasGunu
      ⟨1, none, "Maaş", 100, none, none, 30, true, some "2026-05"⟩)
      ⟨1, none, "Maaş", 100, none, none, 30, true, some "2026-05"⟩ :=
  forecast_agrees_iff maasliDb_kayit

/-- The forecast counts the income that was paid in this month a second time; the calendar does not. -/
theorem paid_income_was_forecast_again :
    tahminEtkisi (generateForecast maasliDb 1 none 60 none .hepsi 0 maasGunu) (ayinSonGunu maasGunu.monthDay)
        (olayKaynagi true) 1 = 100 ∧
      takvimEtkisi (calculateNakitTakvimi maasliDb 1 none maasGunu) (kalemTipi true) 1 = 0 := by
  constructor
  · rw [tahmin_kayit maasliDb_kayit]
    decide +kernel
  · rw [takvim_kayit maasliDb_kayit]
    decide +kernel

end FinancialOs.Guarantees
