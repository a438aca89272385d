import FinancialOs.Guarantees.ExtraPayments

/-! What the payoff report says about a plan that never ends, against the balances that the simulation ends with. -/
namespace FinancialOs.Guarantees
open Library Store Rules

section Closed
variable {debts : List DebtItem} {order : List ℕ} {s : Simulasyon}

theorem borcVar_eq_false : s.borcVar debts = false ↔ ∀ d ∈ debts, s.state d.accountId ≤ kurusEsigi := by
  simp only [Simulasyon.borcVar, List.any_eq_false, decide_eq_true_eq, not_lt]

/-- Once no debt is open, no month opens one. -/
theorem kapali_ayIsle (h : s.borcVar debts = false) : (ayIsle debts order s).borcVar debts = false := by
  rw [borcVar_eq_false] at h ⊢
  have hfaiz : ∀ d ∈ debts, (debts.foldl faizTahakkuk s.ayAc).state d.accountId ≤ kurusEsigi := by
    refine List.foldlRecOn debts _
      (motive := fun w : Simulasyon => ∀ d ∈ debts, w.state d.accountId ≤ kurusEsigi) h ?_
    intro w hw e he
    rwa [faizTahakkuk, if_pos (hw e he)]
  have hasgari : ∀ d ∈ debts, (order.foldl (asgariOde debts) { debts.foldl faizTahakkuk s.ayAc with
      availableExtra := (debts.foldl faizTahakkuk s.ayAc).extraMonthly }).state d.accountId ≤ kurusEsigi := by
    refine List.foldlRecOn order _
      (motive := fun w : Simulasyon => ∀ d ∈ debts, w.state d.accountId ≤ kurusEsigi) hfaiz ?_
    intro w hw aid _
    unfold asgariOde
    split
    · exact hw
    · next e he =>
      obtain ⟨hmem, rfl⟩ := debtById_mem he
      rwa [if_pos (hw e hmem)]
  refine List.foldlRecOn order ekstraOde
    (motive := fun w : Simulasyon => ∀ d ∈ debts, w.state d.accountId ≤ kurusEsigi) hasgari ?_
  intro w hw aid _ d hd
  rw [(ekstraOde_spec w aid).1, Function.update_apply]
  split
  · next hid =>
    rw [ekstraKalan, ← hid, if_pos (hw d hd), ite_self]
    exact hw d hd
  · exact hw d hd

theorem kapali_ayBasi {extra : ℚ} {j k : ℕ} (hjk : j ≤ k) (h : (ayBasi debts order extra j).borcVar debts = false) :
    (ayBasi debts order extra k).borcVar debts = false := by
  induction k, hjk using Nat.le_induction with
  | base => exact h
  | succ k _ ih =>
    rw [ayBasi_succ]
    exact kapali_ayIsle ih

end Closed

/-- The simulation leaves a debt open. -/
def Kapanmaz (debts : List DebtItem) (r : StrategyResult) : Prop :=
  ∃ d ∈ debts, kurusEsigi < sonBakiye debts r.schedule d.accountId

/-- The last month of the limit pays off what was still open. -/
def SonAydaBiter (debts : List DebtItem) (order : List ℕ) (extra : ℚ) : Prop :=
  (ayBasi debts order extra (maxMonths - 1)).borcVar debts = true ∧
    (ayBasi debts order extra maxMonths).borcVar debts = false

section Report
variable {debts : List DebtItem} {order : List ℕ} {extra : ℚ}

theorem sonBakiye_ayBasi (debts : List DebtItem) (order : List ℕ) (extra : ℚ) (k : ℕ) :
    sonBakiye debts (ayBasi debts order extra k).schedule = (ayBasi debts order extra k).state := by
  cases k with
  | zero => rfl
  | succ k =>
    rw [ayBasi_succ]
    exact sonBakiye_ayIsle order _

/-- The month counter, and the balances at the end. -/
theorem simulate_months (hborc : debts ≠ []) (today : Date) : ∃ n ≤ maxMonths,
    (simulate debts order extra today).monthsToFreedom = n ∧
      (simulate debts order extra today).payoffDate = (if maxMonths ≤ n then none else addMonths today n) ∧
      (Kapanmaz debts (simulate debts order extra today) ↔ (ayBasi debts order extra n).borcVar debts = true) ∧
      (∀ j < n, (ayBasi debts order extra j).borcVar debts = true) ∧
      (n < maxMonths → (ayBasi debts order extra n).borcVar debts = false) := by
  obtain ⟨n, hn, hson, hacik, hdur⟩ := ayDongusu_iterate debts order maxMonths (.baslangic debts extra)
  change ayDongusu debts order maxMonths (.baslangic debts extra) = ayBasi debts order extra n at hson
  simp only [simulate, if_neg hborc, hson, ayBasi_month, Kapanmaz, sonBakiye_ayBasi]
  refine ⟨n, hn, rfl, rfl, ?_, hacik, hdur⟩
  simp only [Simulasyon.borcVar, List.any_eq_true, decide_eq_true_eq]

/-- The counter at its limit tells an open debt from none, unless the last month of the limit pays it off. -/
theorem limit_iff (hborc : debts ≠ []) (today : Date) :
    ((maxMonths ≤ (simulate debts order extra today).monthsToFreedom ↔
      Kapanmaz debts (simulate debts order extra today)) ↔ ¬ SonAydaBiter debts order extra) := by
  obtain ⟨n, hn, hay, -, hkapanmaz, hacik, hdur⟩ := @simulate_months debts order extra hborc today
  rw [hay, hkapanmaz, SonAydaBiter]
  rcases hn.lt_or_eq with hlt | rfl
  · rw [hdur hlt]
    have hson := kapali_ayBasi (Nat.le_pred_of_lt hlt) (hdur hlt)
    exact iff_of_true (iff_of_false hlt.not_ge Bool.false_ne_true) fun h => by
      rw [Nat.pred_eq_sub_one, h.1] at hson
      cases hson
  · rw [hacik (maxMonths - 1) (by decide)]
    cases (ayBasi debts order extra maxMonths).borcVar debts with
    | true => simp
    | false => simp

theorem addMonths_isSome {today : Date} {ay : ℕ} (hyil : today.year + 50 ≤ 9999) (hay : ay < maxMonths) :
    (addMonths today ay).isSome := by
  have hmonth := today.month_range
  have hyear := today.year_range
  have hday := today.day_range
  have hay : ay < 600 := hay
  have hlen (y m : ℕ) : 1 ≤ daysInMonth y m := by
    unfold daysInMonth
    split_ifs <;> omega
  have hmin := hlen (today.year + (today.month - 1 + ay) / 12) ((today.month - 1 + ay) % 12 + 1)
  simp only [addMonths, Date.ofYmd?]
  rw [dif_pos (by omega), dif_pos (by omega), dif_pos (by omega)]
  rfl

/-- No payoff date, exactly when the counter is at its limit. -/
theorem payoffDate_eq_none (hborc : debts ≠ []) {today : Date} (hyil : today.year + 50 ≤ 9999) :
    (simulate debts order extra today).payoffDate = none ↔
      maxMonths ≤ (simulate debts order extra today).monthsToFreedom := by
  obtain ⟨n, -, hay, htarih, -⟩ := @simulate_months debts order extra hborc today
  rw [hay, htarih]
  split
  · next h => exact iff_of_true rfl h
  · next h =>
    have hsome := addMonths_isSome hyil (not_le.mp h)
    exact iff_of_false (fun hnone => by rw [hnone] at hsome; cases hsome) h

theorem mem_calculateMinPaymentTrap {debts : List AdliBorc} {today : Date} {tuzak : AsgariTuzagi}
    (h : calculateMinPaymentTrap debts today = some tuzak) {k : KartTuzagi} :
    k ∈ tuzak.kartlar ↔ ∃ c ∈ debts, (c.accountType = .creditCard ∧ 0 < c.balance) ∧ kartTuzagi c today = k := by
  obtain ⟨ilk, -, rfl⟩ := Option.map_eq_some_iff.mp h
  simp only [List.mem_insertionSort, List.mem_map, List.mem_filter, decide_eq_true_eq, and_assoc]

end Report

/-- The payoff date is missing exactly when a debt stays open, for a plan that has debts and does not end in the last
month of the limit; and so is a card of the trap said never to end. -/
theorem payoff_report_honest_iff (debts : List AdliBorc) (order : List ℕ) (extra : ℚ) {today : Date}
    (hyil : today.year + 50 ≤ 9999) :
    (((simulate (debts.map AdliBorc.toDebtItem) order extra today).payoffDate = none ↔
        Kapanmaz (debts.map AdliBorc.toDebtItem) (simulate (debts.map AdliBorc.toDebtItem) order extra today)) ↔
      debts ≠ [] ∧ ¬ SonAydaBiter (debts.map AdliBorc.toDebtItem) order extra) ∧
    ∀ tuzak, calculateMinPaymentTrap debts today = some tuzak → ∀ k ∈ tuzak.kartlar,
      ∃ c ∈ debts, k = kartTuzagi c today ∧
        ((k.aslaBitmez = true ↔
            Kapanmaz [c.toDebtItem] (simulate [c.toDebtItem] [c.accountId] 0 today)) ↔
          ¬ SonAydaBiter [c.toDebtItem] [c.accountId] 0) := by
  constructor
  · by_cases hborc : debts = []
    · subst hborc
      refine iff_of_false (fun h => ?_) fun h => h.1 rfl
      obtain ⟨d, hd, -⟩ := h.mp rfl
      exact List.not_mem_nil hd
    · have hmap : debts.map AdliBorc.toDebtItem ≠ [] := fun h => hborc (List.map_eq_nil_iff.mp h)
      rw [payoffDate_eq_none hmap hyil, limit_iff hmap today]
      exact (and_iff_right hborc).symm
  · intro tuzak htuzak k hk
    obtain ⟨c, hc, -, rfl⟩ := (mem_calculateMinPaymentTrap htuzak).mp hk
    refine ⟨c, hc, rfl, ?_⟩
    rw [← limit_iff (List.cons_ne_nil _ _) today, kartTuzagi]
    simp only [decide_eq_true_eq]

/-- A loan of six hundred, paid off by ones. -/
def birerKredi : AdliBorc := ⟨⟨1, .loan, 600, 0, 1, 1 / 4⟩, "Kredi", false⟩

/-- A card that its minimum pays off in two months. -/
def ikiAylikKart : AdliBorc := ⟨⟨1, .creditCard, 80, 2, 50, 1 / 4⟩, "Kart", false⟩

def raporGunu : Date := (Date.ofYmd? 2026 6 1).get rfl

private theorem birerKredi_ay {s : Simulasyon} {x : ℚ} (hx : s.state 1 = x) (h : 2 ≤ x) (hextra : s.extraMonthly = 0) :
    (ayIsle [birerKredi.toDebtItem] [1] s).state 1 = x - 1 ∧
      (ayIsle [birerKredi.toDebtItem] [1] s).extraMonthly = 0 := by
  have hesik : kurusEsigi = 1 / 100 := rfl
  have hacik : ¬ x ≤ kurusEsigi := by linarith
  have hkalan : ¬ x ≤ 1 := by linarith
  have hson : ¬ x - 1 < kurusEsigi := by linarith
  have hmin : min 1 x = 1 := min_eq_left (by linarith)
  simp [ayIsle, birerKredi, Simulasyon.ayAc, faizTahakkuk, asgariOde, debtById, DebtItem.baseMin, settlement,
    Simulasyon.ode, ekstraOde, Simulasyon.ayKapat, kurusEsigi_pos.le, hx, hextra, hacik, hkalan, hson, hmin]

private theorem birerKredi_son {s : Simulasyon} (hx : s.state 1 = 1) (hextra : s.extraMonthly = 0) :
    (ayIsle [birerKredi.toDebtItem] [1] s).state 1 = 0 := by
  have hacik : ¬ (1 : ℚ) ≤ kurusEsigi := by norm_num [kurusEsigi]
  simp [ayIsle, birerKredi, Simulasyon.ayAc, faizTahakkuk, asgariOde, debtById, DebtItem.baseMin, settlement,
    Simulasyon.ode, ekstraOde, Simulasyon.ayKapat, kurusEsigi_pos.le, kurusEsigi_pos, hx, hextra, hacik]

private theorem birerKredi_acik (s : Simulasyon) :
    s.borcVar [birerKredi.toDebtItem] = decide (kurusEsigi < s.state 1) := Bool.or_false _

theorem birerKredi_bakiye {k : ℕ} (hk : k ≤ 599) : (ayBasi [birerKredi.toDebtItem] [1] 0 k).state 1 = 600 - k ∧
    (ayBasi [birerKredi.toDebtItem] [1] 0 k).extraMonthly = 0 := by
  induction k with
  | zero => exact ⟨by decide +kernel, rfl⟩
  | succ k ih =>
    obtain ⟨hstate, hextra⟩ := ih (Nat.le_of_succ_le hk)
    have hle : (k : ℚ) ≤ 598 := by exact_mod_cast Nat.le_of_succ_le_succ hk
    have hay := birerKredi_ay hstate (by linarith) hextra
    rw [ayBasi_succ, hay.1, hay.2]
    refine ⟨?_, rfl⟩
    push_cast
    ring

theorem birerKredi_biter : SonAydaBiter [birerKredi.toDebtItem] [1] 0 := by
  obtain ⟨hstate, hextra⟩ := birerKredi_bakiye le_rfl
  have hbir : (ayBasi [birerKredi.toDebtItem] [1] 0 599).state 1 = 1 := by
    rw [hstate]
    norm_num
  have hson : (ayBasi [birerKredi.toDebtItem] [1] 0 maxMonths).state 1 = 0 := by
    rw [show maxMonths = 599 + 1 from rfl, ayBasi_succ]
    exact birerKredi_son hbir hextra
  rw [SonAydaBiter, birerKredi_acik, birerKredi_acik, hson, show maxMonths - 1 = 599 from rfl, hbir]
  exact ⟨decide_eq_true (by norm_num [kurusEsigi]), decide_eq_false kurusEsigi_pos.le.not_gt⟩

theorem payoff_report_honest_iff_kart :
    (((simulate [ikiAylikKart.toDebtItem] [1] 0 raporGunu).payoffDate = none ↔
        Kapanmaz [ikiAylikKart.toDebtItem] (simulate [ikiAylikKart.toDebtItem] [1] 0 raporGunu)) ↔
      [ikiAylikKart] ≠ [] ∧ ¬ SonAydaBiter [ikiAylikKart.toDebtItem] [1] 0) ∧
    ∀ tuzak, calculateMinPaymentTrap [ikiAylikKart] raporGunu = some tuzak → ∀ k ∈ tuzak.kartlar,
      ∃ c ∈ [ikiAylikKart], k = kartTuzagi c raporGunu ∧
        ((k.aslaBitmez = true ↔
            Kapanmaz [c.toDebtItem] (simulate [c.toDebtItem] [c.accountId] 0 raporGunu)) ↔
          ¬ SonAydaBiter [c.toDebtItem] [c.accountId] 0) :=
  payoff_report_honest_iff [ikiAylikKart] [1] 0 (by decide)

/-- The loan is paid off in its six hundredth month, and reported without a date. -/
theorem paid_off_without_a_date :
    ¬ ∀ (debts : List DebtItem) (order : List ℕ) (extra : ℚ) (today : Date), debts ≠ [] → 0 ≤ extra →
      today.year + 50 ≤ 9999 →
      ((simulate debts order extra today).payoffDate = none ↔ Kapanmaz debts (simulate debts order extra today)) := by
  intro h
  have hborc : [birerKredi.toDebtItem] ≠ [] := List.cons_ne_nil _ _
  have hk := h [birerKredi.toDebtItem] [1] 0 raporGunu hborc le_rfl (by decide)
  rw [payoffDate_eq_none hborc (by decide)] at hk
  exact (limit_iff hborc raporGunu).mp hk birerKredi_biter

end FinancialOs.Guarantees
