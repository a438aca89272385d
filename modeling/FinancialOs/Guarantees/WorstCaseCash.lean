import FinancialOs.Guarantees.ForecastCalendar
import FinancialOs.Guarantees.ForecastLedger

/-! The worst case of the cash calendar against the calendar itself: the recurring expenses without an
account, subtracted as a total, and the same expenses assigned to cash accounts. -/
namespace FinancialOs.Guarantees
open Library Store Rules

/-- The account-less expenses of the scope are assigned to cash accounts of the user's own; the other
expenses stay what they are. -/
def NakdeAtanir (p : PanelDb) (userId : ℕ) (workspaceId : Option ℕ) (r r' : Recurring) : Prop :=
  if r.accountId = none ∧ scopeFilter userId workspaceId r = true then
    ∃ id hesap, p.db.accounts.get? id = some hesap ∧ scopeFilter userId workspaceId hesap = true ∧
      hesap.accountType = .cash ∧ hesap.isEmanet = false ∧ r' = { r with accountId := some id }
  else r' = r

def giderlerle (p : PanelDb) (expenses : Table Recurring) : PanelDb :=
  { p with db := { p.db with expenses := expenses } }

/-- An expense without an account that the calendar would not enter any more: it is not triggered this
month, and its day is over or it has no amount to pay. -/
def gecmisBelirsiz (bugun : Date) (r : Recurring) : Bool :=
  r.accountId = none ∧ r.lastTriggeredYearMonth ≠ some (yilAy bugun) ∧
    (vadeGunu bugun.monthDay.month r.dayOfMonth < bugun.monthDay ∨ r.amount ≤ 0)

/-- What such expenses of the scope add up to. -/
def gecmisBelirsizToplam (p : PanelDb) (userId : ℕ) (workspaceId : Option ℕ) (bugun : Date) : ℚ :=
  (((etkinKayitlar p.db.expenses userId workspaceId).filter fun r => gecmisBelirsiz bugun r.2).map fun r =>
    roundEven r.2.amount 2).sum

/-- The cash at the month's end before it is rounded. -/
def tamAySonu (p : PanelDb) (userId : ℕ) (workspaceId : Option ℕ) (bugun : Date) : ℚ :=
  nakitToplami p.db userId workspaceId + ((hamKalemler p userId workspaceId bugun).map TakvimKalemi.etki).sum

/-- Half a kuruş on either side of an even number of kuruş: both amounts are rounded to it. -/
def AyniKurusa (x y : ℚ) : Prop :=
  ∃ k : ℤ, x = (2 * k + 1 / 2) / 100 ∧ y = (2 * k - 1 / 2) / 100 ∨
    x = (2 * k - 1 / 2) / 100 ∧ y = (2 * k + 1 / 2) / 100

section Rows
variable {p : PanelDb} {userId : ℕ} {workspaceId : Option ℕ} {bugun : Date} {r r' : Recurring}

theorem NakdeAtanir.kapsam (h : NakdeAtanir p userId workspaceId r r') :
    (decide (scopeFilter userId workspaceId r ∧ r.isActive)) = decide (scopeFilter userId workspaceId r' ∧ r'.isActive) := by
  unfold NakdeAtanir at h
  split at h
  · obtain ⟨id, hesap, -, -, -, -, rfl⟩ := h
    rfl
  · rw [h]

/-- A cash account is no card. -/
theorem kart_degil {id : ℕ} {hesap : Account} (h : p.db.accounts.get? id = some hesap)
    (htip : hesap.accountType = .cash) : id ∉ kartHesapIdleri p userId workspaceId := by
  intro hid
  obtain ⟨a, ha, rfl⟩ := List.mem_map.mp hid
  obtain ⟨hget, -, hkart⟩ := mem_turHesaplari.mp (show (a.1, a.2) ∈ _ from ha)
  rw [h] at hget
  obtain rfl := Option.some.inj hget
  rw [htip] at hkart
  cases hkart

/-- The calendar enters an assigned expense exactly if it is not one of those that it would not enter
any more. -/
theorem kayitEtkisi_atanir (k : ℕ) (hr : scopeFilter userId workspaceId r = true) (h : NakdeAtanir p userId workspaceId r r') :
    kayitEtkisi (kartHesapIdleri p userId workspaceId) false bugun r' =
      kayitEtkisi (kartHesapIdleri p userId workspaceId) false bugun r -
        ((bekleyenGider bugun (kartHesapIdleri p userId workspaceId) .belirsiz (k, r)).map BekleyenGider.tutar).sum +
        if gecmisBelirsiz bugun r then roundEven r.amount 2 else 0 := by
  unfold NakdeAtanir at h
  cases hid : r.accountId with
  | none =>
    rw [if_pos ⟨hid, hr⟩] at h
    obtain ⟨id, hesap, hget, -, htip, -, rfl⟩ := h
    have hyer : giderYeri (kartHesapIdleri p userId workspaceId) (some id) = .nakit :=
      if_neg (kart_degil hget htip)
    have hbelirsiz : giderYeri (kartHesapIdleri p userId workspaceId) none = .belirsiz := rfl
    by_cases ht : r.lastTriggeredYearMonth = some (yilAy bugun)
    · simp [kayitEtkisi, sayilir, bekleyenGider, gecmisBelirsiz, ht]
    · have hgec : (vadeGunu bugun.monthDay.month r.dayOfMonth < bugun.monthDay ∨ r.amount ≤ 0) ↔
          ¬ (0 < r.amount ∧ bugun.monthDay ≤ vadeGunu bugun.monthDay.month r.dayOfMonth) := by
        rw [not_and_or, not_lt, not_le, or_comm]
      simp only [kayitEtkisi, sayilir, bekleyenGider, gecmisBelirsiz, hid, hyer, hbelirsiz, hgec]
      by_cases hv : 0 < r.amount ∧ bugun.monthDay ≤ vadeGunu bugun.monthDay.month r.dayOfMonth
      · simp [hv, ht, yonlu]
      · simp [hv, ht]
  | some id =>
    rw [if_neg (by simp [hid])] at h
    subst h
    have hyer : giderYeri (kartHesapIdleri p userId workspaceId) (some id) ≠ .belirsiz := by
      simp only [giderYeri]
      split <;> decide
    simp [bekleyenGider, gecmisBelirsiz, hid, hyer]

end Rows

section Rounding
variable {x y : ℚ}

/-- Two amounts a whole number of kuruş apart are rounded alike if they are equal, or both half a kuruş
away from the even one between them. -/
theorem roundEven_eq_iff {n : ℤ} (h : y = x + n / 100) :
    roundEven x 2 = roundEven y 2 ↔ y = x ∨ AyniKurusa x y := by
  have hy : y * 10 ^ 2 = x * 10 ^ 2 + n := by
    rw [h]
    ring
  have hround : roundEven x 2 = roundEven y 2 ↔ nearestEven (x * 10 ^ 2 + n) = nearestEven (x * 10 ^ 2) := by
    rw [roundEven, roundEven, div_left_inj' (by norm_num), Int.cast_inj, hy, eq_comm]
  rw [hround, nearestEven_add_int_iff]
  refine or_congr ?_ (exists_congr fun k => or_comm.trans (or_congr ?_ ?_))
  · rw [h]
    simp
  · rw [h]
    constructor
    · rintro ⟨hx, rfl⟩
      push_cast
      constructor
      · linarith
      · linarith
    · rintro ⟨hx, hn⟩
      have hn : (n : ℚ) = -1 := by linarith
      exact ⟨by linarith, by exact_mod_cast hn⟩
  · rw [h]
    constructor
    · rintro ⟨hx, rfl⟩
      push_cast
      constructor
      · linarith
      · linarith
    · rintro ⟨hx, hn⟩
      have hn : (n : ℚ) = 1 := by linarith
      exact ⟨by linarith, by exact_mod_cast hn⟩

end Rounding

section Calendars
variable {p : PanelDb} {userId : ℕ} {workspaceId : Option ℕ} {bugun : Date} {expenses : Table Recurring}

/-- What the expenses of a scope do to the calendar's cash. -/
def giderEtkileri (p : PanelDb) (userId : ℕ) (workspaceId : Option ℕ) (bugun : Date) : ℚ :=
  ((etkinKayitlar p.db.expenses userId workspaceId).map fun r =>
    kayitEtkisi (kartHesapIdleri p userId workspaceId) false bugun r.2).sum

/-- The calendar's total of the expenses without an account. -/
def belirsizToplam (p : PanelDb) (userId : ℕ) (workspaceId : Option ℕ) (bugun : Date) : ℚ :=
  (((etkinKayitlar p.db.expenses userId workspaceId).flatMap
    (bekleyenGider bugun (kartHesapIdleri p userId workspaceId) .belirsiz)).map BekleyenGider.tutar).sum

theorem giderEtkileri_eq : (((etkinKayitlar p.db.expenses userId workspaceId).flatMap
      (giderKalemi bugun (kartHesapIdleri p userId workspaceId))).map TakvimKalemi.etki).sum =
    giderEtkileri p userId workspaceId bugun := by
  rw [sum_flatMap_eq, giderEtkileri]
  refine congrArg List.sum (List.map_congr_left fun r _ => ?_)
  exact sum_kayitKalemi false (kartHesapIdleri p userId workspaceId) r

/-- What the month-end cash is apart from the expenses. -/
def giderDisi (p : PanelDb) (userId : ℕ) (workspaceId : Option ℕ) (bugun : Date) : ℚ :=
  tamAySonu p userId workspaceId bugun - giderEtkileri p userId workspaceId bugun

theorem giderDisi_giderlerle :
    giderDisi (giderlerle p expenses) userId workspaceId bugun = giderDisi p userId workspaceId bugun := by
  have hsplit (q : PanelDb) : giderDisi q userId workspaceId bugun = nakitToplami q.db userId workspaceId +
      ((((etkinKayitlar q.db.incomes userId workspaceId).flatMap (gelirKalemi bugun)).map TakvimKalemi.etki).sum +
        (((kapsamSatirlari q.db.debts userId workspaceId).flatMap (borcKalemiTakvimi bugun.monthDay)).map
          TakvimKalemi.etki).sum +
        (((borcHesaplari q.db userId workspaceId).flatMap (hesapKalemi bugun.monthDay q.hesapEki)).map
          TakvimKalemi.etki).sum) := by
    rw [giderDisi, tamAySonu, hamKalemler, ← giderEtkileri_eq]
    simp only [List.map_append, List.sum_append]
    ring
  rw [hsplit, hsplit]
  rfl

/-- Assigning the account-less expenses takes their total off the cash, all but what lies behind. -/
theorem giderEtkileri_giderlerle (h : p.db.expenses.Related (NakdeAtanir p userId workspaceId) expenses) :
    giderEtkileri (giderlerle p expenses) userId workspaceId bugun + belirsizToplam p userId workspaceId bugun =
      giderEtkileri p userId workspaceId bugun + gecmisBelirsizToplam p userId workspaceId bugun := by
  have hsatir : (etkinKayitlar expenses userId workspaceId).map
      (fun r => kayitEtkisi (kartHesapIdleri p userId workspaceId) false bugun r.2) =
      (etkinKayitlar p.db.expenses userId workspaceId).map fun r =>
        kayitEtkisi (kartHesapIdleri p userId workspaceId) false bugun r.2 -
          ((bekleyenGider bugun (kartHesapIdleri p userId workspaceId) .belirsiz r).map BekleyenGider.tutar).sum +
          if gecmisBelirsiz bugun r.2 then roundEven r.2.amount 2 else 0 := by
    refine h.select_map (fun r r' hr => hr.kapsam) fun r hr r' hr' hp => ?_
    have hp : scopeFilter userId workspaceId r.2 = true ∧ r.2.isActive = true := of_decide_eq_true hp
    exact kayitEtkisi_atanir r.1 hp.1 hr'
  have hyeni : giderEtkileri (giderlerle p expenses) userId workspaceId bugun = _ := congrArg List.sum hsatir
  rw [hyeni, belirsizToplam, giderEtkileri, gecmisBelirsizToplam, sum_flatMap_eq, sum_filter_eq, ← List.sum_map_add,
    ← List.sum_map_add]
  refine congrArg List.sum (List.map_congr_left fun r _ => ?_)
  ring

/-- The worst case that the calendar reports is the month-end cash of the state with the assigned expenses,
less what lies behind of them. -/
theorem tamAySonu_giderlerle (h : p.db.expenses.Related (NakdeAtanir p userId workspaceId) expenses) :
    tamAySonu (giderlerle p expenses) userId workspaceId bugun = tamAySonu p userId workspaceId bugun -
      belirsizToplam p userId workspaceId bugun + gecmisBelirsizToplam p userId workspaceId bugun := by
  have hdis := @giderDisi_giderlerle p userId workspaceId bugun expenses
  have hgider := @giderEtkileri_giderlerle p userId workspaceId bugun expenses h
  rw [giderDisi, giderDisi] at hdis
  linarith

theorem aySonuBelirsizNakitse_eq : (calculateNakitTakvimi p userId workspaceId bugun).aySonuBelirsizNakitse =
    roundEven (tamAySonu p userId workspaceId bugun - belirsizToplam p userId workspaceId bugun) 2 := by
  have hperm := List.mergeSort_perm (hamKalemler p userId workspaceId bugun) kalemSirasi
  simp only [calculateNakitTakvimi, bakiye_foldl_yuru]
  rw [(hperm.map TakvimKalemi.etki).sum_eq]
  rfl

end Calendars

/-- The reported worst case is the month-end cash with every account-less expense assigned to a cash
account, exactly where the account-less expenses that lie behind weigh nothing, or a tie hides them. -/
theorem worst_case_iff {p : PanelDb} {userId : ℕ} {workspaceId : Option ℕ} {bugun : Date} {expenses : Table Recurring}
    (h : p.db.expenses.Related (NakdeAtanir p userId workspaceId) expenses) :
    (calculateNakitTakvimi p userId workspaceId bugun).aySonuBelirsizNakitse =
      (calculateNakitTakvimi (giderlerle p expenses) userId workspaceId bugun).aySonuBakiye ↔
    gecmisBelirsizToplam p userId workspaceId bugun = 0 ∨
      AyniKurusa (tamAySonu (giderlerle p expenses) userId workspaceId bugun -
        gecmisBelirsizToplam p userId workspaceId bugun) (tamAySonu (giderlerle p expenses) userId workspaceId bugun) := by
  have htam := @tamAySonu_giderlerle p userId workspaceId bugun expenses h
  obtain ⟨n, hn⟩ : ∃ n : ℤ, gecmisBelirsizToplam p userId workspaceId bugun = n / 100 := by
    refine kurusluk_iff.mp (kurusluk_sum fun x hx => ?_)
    obtain ⟨r, -, rfl⟩ := List.mem_map.mp hx
    exact roundEven_idem r.2.amount 2
  have hfark : tamAySonu p userId workspaceId bugun - belirsizToplam p userId workspaceId bugun =
      tamAySonu (giderlerle p expenses) userId workspaceId bugun - gecmisBelirsizToplam p userId workspaceId bugun := by
    linarith
  rw [aySonuBelirsizNakitse_eq, aySonuBakiye_eq, hfark]
  have hfark' : tamAySonu (giderlerle p expenses) userId workspaceId bugun =
      tamAySonu (giderlerle p expenses) userId workspaceId bugun - gecmisBelirsizToplam p userId workspaceId bugun +
        n / 100 := by
    linarith
  refine (roundEven_eq_iff hfark').trans (or_congr ?_ Iff.rfl)
  constructor
  · intro heq
    linarith
  · intro hzero
    linarith

def belirsizKira : Recurring := ⟨1, none, "Kira", 40, none, none, 5, true, none⟩

def kasaHesabi : Account := ⟨1, none, "Kasa", .cash, 100, none, none, none, none, none, none, none, false⟩

/-- A rent of the 5th without an account. -/
def gecmisKiraDb : PanelDb where
  db := { Db.empty with accounts := Table.empty.push kasaHesabi, expenses := Table.empty.push belirsizKira }
  hesapEki := fun _ => ⟨none, none, none, none⟩
  envelopes := .empty

def gecmisKiraGunu : Date := (Date.ofYmd? 2026 5 22).get rfl

def atanmisGiderler : Table Recurring := Table.empty.push { belirsizKira with accountId := some 1 }

theorem kira_atanir : gecmisKiraDb.db.expenses.Related (NakdeAtanir gecmisKiraDb 1 none) atanmisGiderler :=
  .cons ⟨rfl, (if_pos ⟨rfl, rfl⟩).mpr ⟨1, kasaHesabi, rfl, rfl, rfl, rfl, rfl⟩⟩ .nil

theorem worst_case_iff_kira :
    (calculateNakitTakvimi gecmisKiraDb 1 none gecmisKiraGunu).aySonuBelirsizNakitse =
      (calculateNakitTakvimi (giderlerle gecmisKiraDb atanmisGiderler) 1 none gecmisKiraGunu).aySonuBakiye ↔
    gecmisBelirsizToplam gecmisKiraDb 1 none gecmisKiraGunu = 0 ∨
      AyniKurusa (tamAySonu (giderlerle gecmisKiraDb atanmisGiderler) 1 none gecmisKiraGunu -
        gecmisBelirsizToplam gecmisKiraDb 1 none gecmisKiraGunu) (tamAySonu (giderlerle gecmisKiraDb atanmisGiderler) 1 none gecmisKiraGunu) :=
  worst_case_iff kira_atanir

/-- The rent of a day that is over is subtracted as long as it has no account, and not any more once it has
one. -/
theorem past_rent_was_subtracted :
    gecmisKiraDb.db.expenses.Related (NakdeAtanir gecmisKiraDb 1 none) atanmisGiderler ∧
      (calculateNakitTakvimi gecmisKiraDb 1 none gecmisKiraGunu).aySonuBelirsizNakitse = 60 ∧
      (calculateNakitTakvimi (giderlerle gecmisKiraDb atanmisGiderler) 1 none gecmisKiraGunu).aySonuBakiye = 100 := by
  refine ⟨kira_atanir, ?_, ?_⟩
  · rw [aySonuBelirsizNakitse_eq]
    decide +kernel
  · rw [aySonuBakiye_eq]
    decide +kernel

end FinancialOs.Guarantees
