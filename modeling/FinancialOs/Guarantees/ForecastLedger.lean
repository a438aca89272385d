import FinancialOs.Library.RunningMinimum
import FinancialOs.Library.WeightedLists
import FinancialOs.Rules.CashForecast

/-! The forecast as a ledger: the days follow each other and carry the balance on, every movement stands
on one day, and the summary names the lowest balance and the days that are short. -/
namespace FinancialOs.Guarantees
open Library Store Rules

/-- An amount of whole kuruş. -/
def Kurusluk (q : ℚ) : Prop := roundEven q 2 = q

instance (q : ℚ) : Decidable (Kurusluk q) := inferInstanceAs (Decidable (roundEven q 2 = q))

/-- The amounts that a forecast of the scope reads are whole kuruş. -/
structure KurusKapsami (p : PanelDb) (userId : ℕ) (workspaceId : Option ℕ) : Prop where
  nakit : ∀ a ∈ turHesaplari p.db userId workspaceId .cash, Kurusluk a.2.balance
  gelir : ∀ r ∈ etkinKayitlar p.db.incomes userId workspaceId, Kurusluk r.2.amount
  gider : ∀ r ∈ etkinKayitlar p.db.expenses userId workspaceId, Kurusluk r.2.amount
  taksit : ∀ a ∈ turHesaplari p.db userId workspaceId .loan,
    ∀ tutar ∈ (p.hesapEki a.1).monthlyPayment, Kurusluk tutar
  borc : ∀ d ∈ kapsamSatirlari p.db.debts userId workspaceId, Kurusluk d.2.amount

/-- The balances of a forecast with their days: the one it opens with, and what each day closes with. -/
def bakiyeler (acilis : ℚ) (f : Forecast) : List (ℚ × MonthDay) :=
  (acilis, f.startDate) :: f.days.map fun g => (g.closingBalance, g.date)

/-- A forecast is the ledger of a list of movements from an opening balance on. -/
structure TahminDefteri (f : Forecast) (acilis : ℚ) (olaylar : List ForecastEvent) (esik : ℚ) : Prop where
  gunler : f.days.map ForecastDay.date = (List.range f.horizonDays).map f.startDate.addDays
  ilkAcilis : f.days.head?.map ForecastDay.openingBalance = some acilis
  zincir : f.days.IsChain fun g h => h.openingBalance = g.closingBalance
  sonKapanis : f.days.getLast?.map ForecastDay.closingBalance =
    some (acilis + (olaylar.map ForecastEvent.amount).sum)
  yerlesim : (f.days.flatMap ForecastDay.events).Perm olaylar
  gununde : ∀ g ∈ f.days, ∀ e ∈ g.events, e.date = g.date
  enAz : ∀ b ∈ bakiyeler acilis f, f.summary.lowestBalance ≤ b.1
  ilkGun : (bakiyeler acilis f).find? (fun b => b.1 = f.summary.lowestBalance) =
    some (f.summary.lowestBalance, f.summary.lowestDate)
  darlik : ∀ g ∈ f.days, (g.crunch = true ↔ g.closingBalance < esik)
  darGunler : f.summary.crunchDates =
    (f.days.filter fun g => g.closingBalance < esik).map ForecastDay.date

section Kurus
variable {x y : ℚ}

theorem kurusluk_iff : Kurusluk x ↔ ∃ n : ℤ, x = n / 100 := by
  constructor
  · intro h
    refine ⟨nearestEven (x * 10 ^ 2), h.symm.trans ?_⟩
    norm_num [roundEven]
  · rintro ⟨n, rfl⟩
    have hn : (n : ℚ) / 100 * 10 ^ 2 = n := by ring
    rw [Kurusluk, roundEven, hn, nearestEven_intCast]
    norm_num

theorem Kurusluk.add (hx : Kurusluk x) (hy : Kurusluk y) : Kurusluk (x + y) := by
  obtain ⟨m, rfl⟩ := kurusluk_iff.mp hx
  obtain ⟨n, rfl⟩ := kurusluk_iff.mp hy
  refine kurusluk_iff.mpr ⟨m + n, ?_⟩
  push_cast
  ring

theorem Kurusluk.neg (hx : Kurusluk x) : Kurusluk (-x) := by
  rw [Kurusluk, roundEven_neg, hx]

theorem kurusluk_zero : Kurusluk 0 := roundEven_zero 2

theorem kurusluk_sum {l : List ℚ} (h : ∀ x ∈ l, Kurusluk x) : Kurusluk l.sum := by
  induction l with
  | nil => exact kurusluk_zero
  | cons x l ih =>
    rw [List.sum_cons]
    exact (h x List.mem_cons_self).add (ih fun y hy => h y (List.mem_cons_of_mem _ hy))

end Kurus

section Days
variable {events : List ForecastEvent} {esik balance : ℚ} {n : ℕ} {d : MonthDay}

/-- What the movements of a day add up to. -/
def gunToplami (events : List ForecastEvent) (d : MonthDay) : ℚ :=
  ((gununOlaylari events d).map ForecastEvent.amount).sum

theorem girisler_add_cikislar (l : List ForecastEvent) :
    girisler l + cikislar l = (l.map ForecastEvent.amount).sum := by
  rw [girisler, cikislar, sum_filter_eq, sum_filter_eq, ← List.sum_map_add]
  refine congrArg List.sum (List.map_congr_left fun e _ => ?_)
  by_cases he : 0 ≤ e.amount <;> simp [he]

/-- A day closes with what it opens with and its movements. -/
theorem kapanis_eq (events : List ForecastEvent) (d : MonthDay) (balance : ℚ) :
    balance + girisler (gununOlaylari events d) + cikislar (gununOlaylari events d) = balance + gunToplami events d := by
  rw [add_assoc, girisler_add_cikislar, gunToplami]

theorem mem_gununOlaylari {e : ForecastEvent} : e ∈ gununOlaylari events d ↔ e ∈ events ∧ e.date = d := by
  rw [gununOlaylari, List.mem_mergeSort, List.mem_filter, decide_eq_true_eq]

theorem kurusluk_gunToplami (h : ∀ e ∈ events, Kurusluk e.amount) : Kurusluk (gunToplami events d) := by
  apply kurusluk_sum
  intro x hx
  obtain ⟨e, he, rfl⟩ := List.mem_map.mp hx
  exact h e (mem_gununOlaylari.mp he).1

/-- A day of the ledger, as it stands in whole kuruş. -/
def gun (events : List ForecastEvent) (esik : ℚ) (d : MonthDay) (balance : ℚ) : ForecastDay where
  date := d
  openingBalance := balance
  closingBalance := balance + gunToplami events d
  inflows := roundEven (girisler (gununOlaylari events d)) 2
  outflows := roundEven (cikislar (gununOlaylari events d)) 2
  events := gununOlaylari events d
  crunch := balance + gunToplami events d < esik

theorem gunZinciri_succ (hkurus : ∀ e ∈ events, Kurusluk e.amount) (hbal : Kurusluk balance) :
    gunZinciri events esik (n + 1) d balance =
      gun events esik d balance :: gunZinciri events esik n d.succ (balance + gunToplami events d) := by
  have hkapanis : Kurusluk (balance + gunToplami events d) := hbal.add (kurusluk_gunToplami hkurus)
  rw [gunZinciri, kapanis_eq, hkapanis, hbal]
  rfl

theorem head_gunZinciri (hkurus : ∀ e ∈ events, Kurusluk e.amount) (hbal : Kurusluk balance) :
    (gunZinciri events esik (n + 1) d balance).head?.map ForecastDay.openingBalance = some balance := by
  rw [gunZinciri_succ hkurus hbal]
  rfl

theorem tarih_gunZinciri :
    (gunZinciri events esik n d balance).map ForecastDay.date = (List.range n).map d.addDays := by
  induction n generalizing d balance with
  | zero => rfl
  | succ n ih =>
    rw [gunZinciri, List.map_cons, ih, List.range_succ_eq_map, List.map_cons, List.map_map]
    rfl

/-- Every day opens with what the day before it closes with. -/
theorem zincir_gunZinciri (hkurus : ∀ e ∈ events, Kurusluk e.amount) (hbal : Kurusluk balance) :
    (gunZinciri events esik n d balance).IsChain fun g h => h.openingBalance = g.closingBalance := by
  induction n generalizing d balance with
  | zero => exact .nil
  | succ n ih =>
    have hkapanis : Kurusluk (balance + gunToplami events d) := hbal.add (kurusluk_gunToplami hkurus)
    rw [gunZinciri_succ hkurus hbal]
    refine List.isChain_cons.mpr ⟨?_, ih hkapanis⟩
    intro h hh
    cases n with
    | zero => cases hh
    | succ n =>
      rw [gunZinciri_succ hkurus hkapanis] at hh
      obtain rfl := Option.some.inj hh
      rfl

/-- What holds of each day of the ledger by itself holds of every day of a chain. -/
theorem forall_gunZinciri {P : ForecastDay → Prop}
    (hgun : ∀ d balance, Kurusluk balance → P (gun events esik d balance))
    (hkurus : ∀ e ∈ events, Kurusluk e.amount) (hbal : Kurusluk balance) :
    ∀ g ∈ gunZinciri events esik n d balance, P g := by
  induction n generalizing d balance with
  | zero => exact fun g hg => by cases hg
  | succ n ih =>
    rw [gunZinciri_succ hkurus hbal]
    intro g hg
    rcases List.mem_cons.mp hg with rfl | hg
    · exact hgun d balance hbal
    · exact ih (hbal.add (kurusluk_gunToplami hkurus)) g hg

/-- The movements of a chain are those whose day lies in it. -/
theorem perm_gunZinciri : ((gunZinciri events esik n d balance).flatMap ForecastDay.events).Perm
    (events.filter fun e => d ≤ e.date ∧ e.date < d.addDays n) := by
  induction n generalizing d balance with
  | zero =>
    have hnone : events.filter (fun e => d ≤ e.date ∧ e.date < d.addDays 0) = [] :=
      List.filter_eq_nil_iff.mpr fun e _ he => (of_decide_eq_true he).2.not_ge (of_decide_eq_true he).1
    rw [hnone]
    exact .nil
  | succ n ih =>
    have hstop : d.addDays (n + 1) = d.succ.addDays n := rfl
    have hbugun : (events.filter fun e => d ≤ e.date ∧ e.date < d.addDays (n + 1)).filter (fun e => e.date = d) =
        events.filter fun e => e.date = d := by
      rw [List.filter_filter]
      refine List.filter_congr fun e _ => ?_
      by_cases he : e.date = d
      · have hlt : d < d.addDays (n + 1) := (MonthDay.lt_succ d).trans_le (MonthDay.le_addDays d.succ n)
        simp [he, hlt]
      · simp [he]
    have hsonra : (events.filter fun e => d ≤ e.date ∧ e.date < d.addDays (n + 1)).filter (fun e => !(e.date = d)) =
        events.filter fun e => d.succ ≤ e.date ∧ e.date < d.succ.addDays n := by
      rw [List.filter_filter]
      refine List.filter_congr fun e _ => ?_
      rw [hstop]
      simp [← MonthDay.lt_iff_succ_le, lt_iff_le_and_ne, eq_comm, and_assoc, and_left_comm]
    have hsplit := List.filter_append_perm (fun e : ForecastEvent => e.date = d)
      (events.filter fun e => d ≤ e.date ∧ e.date < d.addDays (n + 1))
    rw [hbugun, hsonra] at hsplit
    rw [gunZinciri, List.flatMap_cons]
    exact ((List.mergeSort_perm _ _).append ih).trans hsplit

/-- The last day closes with the balance before the chain and all movements in it. -/
theorem getLast_gunZinciri (hkurus : ∀ e ∈ events, Kurusluk e.amount) (hbal : Kurusluk balance) :
    (gunZinciri events esik (n + 1) d balance).getLast?.map ForecastDay.closingBalance =
      some (balance +
        (((gunZinciri events esik (n + 1) d balance).flatMap ForecastDay.events).map ForecastEvent.amount).sum) := by
  induction n generalizing d balance with
  | zero =>
    rw [gunZinciri_succ hkurus hbal]
    simp [gunZinciri, gun, gunToplami]
  | succ n ih =>
    have hkapanis : Kurusluk (balance + gunToplami events d) := hbal.add (kurusluk_gunToplami hkurus)
    have hne : gunZinciri events esik (n + 1) d.succ (balance + gunToplami events d) ≠ [] := by
      rw [gunZinciri_succ hkurus hkapanis]
      exact List.cons_ne_nil _ _
    rw [gunZinciri_succ hkurus hbal, List.getLast?_cons_of_ne_nil hne, ih hkapanis, List.flatMap_cons, List.map_append,
      List.sum_append, ← add_assoc]
    rfl

/-- The walk for the lowest balance passes the balances that the days close with. -/
theorem enDusuk_eq (hkurus : ∀ e ∈ events, Kurusluk e.amount) (hbal : Kurusluk balance) (lowest : ℚ × MonthDay) :
    enDusuk events n d balance lowest =
      lowestOf lowest ((gunZinciri events esik n d balance).map fun g => (g.closingBalance, g.date)) := by
  induction n generalizing d balance lowest with
  | zero => rfl
  | succ n ih =>
    have hkapanis : Kurusluk (balance + gunToplami events d) := hbal.add (kurusluk_gunToplami hkurus)
    rw [gunZinciri_succ hkurus hbal, List.map_cons, lowestOf_cons, ← ih hkapanis, enDusuk, kapanis_eq]
    rfl

end Days

section Movements
variable {p : PanelDb} {userId : ℕ} {workspaceId accountId : Option ℕ} {u : Ufuk} {dahil : Dahil}

theorem icinde_monthOccurrences {gun : ℕ} {d : MonthDay} (h : d ∈ monthOccurrences u gun) : u.icinde d = true :=
  (List.mem_filter.mp h).2

theorem taksitDongusu_spec {a : ℕ × Account} {taksit : ℚ} {anchorDay fuel : ℕ} {kalan : Option ℕ} {current : MonthDay}
    {e : ForecastEvent} (hstart : u.start ≤ current)
    (h : e ∈ taksitDongusu a taksit anchorDay u.stop fuel kalan current) :
    u.icinde e.date = true ∧ e.amount = -taksit := by
  induction fuel generalizing kalan current with
  | zero => cases h
  | succ fuel ih =>
    rw [taksitDongusu] at h
    split at h
    · next hc =>
      rcases List.mem_cons.mp h with rfl | h
      · exact ⟨decide_eq_true ⟨hstart, hc.1⟩, rfl⟩
      · refine ih (hstart.trans (MonthDay.le_iff.mpr (.inl ?_))) h
        rw [month_vadeGunu]
        exact Nat.lt_succ_self _
    · cases h

theorem expandLoanPayments_spec {ek : ℕ → HesapEki} {a : ℕ × Account} {e : ForecastEvent}
    (h : e ∈ expandLoanPayments u ek a) : u.icinde e.date = true ∧ e.amount = -(ek a.1).monthlyPayment.getD 0 := by
  simp only [expandLoanPayments] at h
  split at h
  · cases h
  · split at h
    · cases h
    · exact taksitDongusu_spec (le_max_right _ _) h

theorem borcOlayi_spec {direction : DebtDirection} {d : ℕ × PersonalDebt} {e : ForecastEvent}
    (h : e ∈ borcOlayi u direction d) :
    u.icinde e.date = true ∧ e.amount = if direction = .receivable then d.2.amount else -d.2.amount := by
  simp only [borcOlayi] at h
  split at h
  · cases h
  · split at h
    · next hc =>
      obtain rfl := List.mem_singleton.mp h
      exact ⟨hc.2.2, rfl⟩
    · cases h

/-- Every movement has its day in the window and an amount of whole kuruş. -/
theorem allEvents_spec (hk : KurusKapsami p userId workspaceId) {e : ForecastEvent}
    (h : e ∈ allEvents p userId workspaceId u accountId dahil) : u.icinde e.date = true ∧ Kurusluk e.amount := by
  have hborc {direction : DebtDirection}
      (h : e ∈ (kapsamSatirlari p.db.debts userId workspaceId).flatMap (borcOlayi u direction)) :
      u.icinde e.date = true ∧ Kurusluk e.amount := by
    obtain ⟨d, hd, he⟩ := List.mem_flatMap.mp h
    obtain ⟨hgun, htutar⟩ := borcOlayi_spec he
    refine ⟨hgun, ?_⟩
    rw [htutar]
    split
    · exact hk.borc d hd
    · exact (hk.borc d hd).neg
  simp only [allEvents, List.mem_append, List.mem_ite_nil_right] at h
  rcases h with ((⟨-, h⟩ | ⟨-, h | h⟩) | ⟨-, h⟩) | ⟨-, h⟩
  · obtain ⟨r, hr, he⟩ := List.mem_flatMap.mp h
    obtain ⟨d, hd, rfl⟩ := List.mem_map.mp he
    exact ⟨icinde_monthOccurrences hd, hk.gelir r hr⟩
  · obtain ⟨r, hr, he⟩ := List.mem_flatMap.mp h
    obtain ⟨d, hd, rfl⟩ := List.mem_map.mp he
    exact ⟨icinde_monthOccurrences hd, (hk.gider r (List.mem_filter.mp hr).1).neg⟩
  · obtain ⟨a, ha, he⟩ := List.mem_flatMap.mp h
    obtain ⟨hgun, htutar⟩ := expandLoanPayments_spec he
    refine ⟨hgun, ?_⟩
    rw [htutar]
    apply Kurusluk.neg
    cases ht : (p.hesapEki a.1).monthlyPayment with
    | none => exact kurusluk_zero
    | some taksit => exact hk.taksit a ha taksit ht
  · exact hborc h
  · exact hborc h

theorem kurusluk_acilis (hk : KurusKapsami p userId workspaceId) (accountId : Option ℕ) :
    Kurusluk (acilisBakiyesi p userId workspaceId accountId) := by
  apply kurusluk_sum
  intro x hx
  obtain ⟨a, ha, rfl⟩ := List.mem_map.mp hx
  exact hk.nakit a (List.mem_filter.mp ha).1

end Movements

/-- A forecast of a scope whose amounts are whole kuruş is the ledger of the movements it collects. -/
theorem forecast_ledger {p : PanelDb} {userId horizonDays : ℕ} {workspaceId accountId : Option ℕ} {dahil : Dahil}
    {crunchThreshold : ℚ} {today : Date} (hk : KurusKapsami p userId workspaceId) (hgun : 1 ≤ horizonDays) :
    TahminDefteri (generateForecast p userId workspaceId horizonDays accountId dahil crunchThreshold today)
      (acilisBakiyesi p userId workspaceId accountId)
      (allEvents p userId workspaceId ⟨today.monthDay, today.monthDay.addDays horizonDays⟩ accountId dahil)
      crunchThreshold := by
  obtain ⟨n, rfl⟩ := Nat.exists_eq_add_of_le' hgun
  have hacilis := kurusluk_acilis hk accountId
  have holay := fun e => @allEvents_spec p userId workspaceId accountId
    ⟨today.monthDay, today.monthDay.addDays (n + 1)⟩ dahil hk e
  simp only [generateForecast]
  generalize acilisBakiyesi p userId workspaceId accountId = acilis at hacilis ⊢
  generalize allEvents p userId workspaceId ⟨today.monthDay, today.monthDay.addDays (n + 1)⟩ accountId dahil = olaylar
    at holay ⊢
  have hkurus : ∀ e ∈ olaylar, Kurusluk e.amount := fun e he => (holay e he).2
  have hperm : ((gunZinciri olaylar crunchThreshold (n + 1) today.monthDay acilis).flatMap ForecastDay.events).Perm
      olaylar := by
    refine perm_gunZinciri.trans (.of_eq (List.filter_eq_self.mpr fun e he => ?_))
    exact (holay e he).1
  have hkapanis : ∀ g ∈ gunZinciri olaylar crunchThreshold (n + 1) today.monthDay acilis,
      Kurusluk g.closingBalance :=
    forall_gunZinciri (fun _ _ hbal => hbal.add (kurusluk_gunToplami hkurus)) hkurus hacilis
  have hdar : ∀ g ∈ gunZinciri olaylar crunchThreshold (n + 1) today.monthDay acilis,
      (g.crunch = true ↔ g.closingBalance < crunchThreshold) :=
    forall_gunZinciri (fun _ _ _ => decide_eq_true_iff) hkurus hacilis
  have hlow := @enDusuk_eq olaylar crunchThreshold acilis (n + 1) today.monthDay hkurus hacilis
    (acilis, today.monthDay)
  have hbulunan := @find?_lowestOf _ _ _ (acilis, today.monthDay)
    ((gunZinciri olaylar crunchThreshold (n + 1) today.monthDay acilis).map fun g => (g.closingBalance, g.date))
  rw [← hlow] at hbulunan
  have hdusuk : Kurusluk (enDusuk olaylar (n + 1) today.monthDay acilis (acilis, today.monthDay)).1 := by
    rcases List.mem_cons.mp (List.mem_of_find?_eq_some hbulunan) with h | h
    · rw [h]
      exact hacilis
    · obtain ⟨g, hg, h⟩ := List.mem_map.mp h
      rw [← h]
      exact hkapanis g hg
  refine ⟨tarih_gunZinciri, head_gunZinciri hkurus hacilis, zincir_gunZinciri hkurus hacilis, ?_, hperm, ?_, ?_, ?_,
    hdar, ?_⟩
  · rw [getLast_gunZinciri hkurus hacilis, (hperm.map ForecastEvent.amount).sum_eq]
  · exact forall_gunZinciri (fun d balance _ e he => (mem_gununOlaylari.mp he).2) hkurus hacilis
  · simp only [bakiyeler]
    rw [hdusuk, hlow]
    exact lowestOf_le
  · simp only [bakiyeler]
    rw [hdusuk]
    exact hbulunan
  · refine congrArg (List.map ForecastDay.date) (List.filter_congr fun g hg => ?_)
    rw [Bool.eq_iff_iff, hdar g hg, decide_eq_true_iff]

/-- A cash account, an income and a loan that is paid off on the last day of a month. -/
def defterDb : PanelDb where
  db := { Db.empty with
    accounts := (Table.empty.push
      ⟨1, none, "Kasa", .cash, 25050 / 100, none, none, none, none, none, none, none, false⟩).push
      ⟨1, none, "Kredi", .loan, 900, none, none, none, none, none, none, none, false⟩
    incomes := Table.empty.push ⟨1, none, "Maaş", 10025 / 100, none, none, 25, true, none⟩ }
  hesapEki := fun _ => ⟨some 300, some 3, Date.ofYmd? 2026 5 31, none⟩
  envelopes := .empty

def defterGunu : Date := (Date.ofYmd? 2026 5 21).get rfl

theorem forecast_ledger_defterDb :
    TahminDefteri (generateForecast defterDb 1 none 60 none .hepsi 0 defterGunu) (acilisBakiyesi defterDb 1 none none)
      (allEvents defterDb 1 none ⟨defterGunu.monthDay, defterGunu.monthDay.addDays 60⟩ none .hepsi) 0 :=
  forecast_ledger ⟨by decide +kernel, by decide +kernel, by decide +kernel, by decide +kernel, by decide +kernel⟩
    (by decide)

example : (generateForecast defterDb 1 none 60 none .hepsi 0 defterGunu).summary.lowestBalance = -14900 / 100 := by
  decide +kernel

end FinancialOs.Guarantees
