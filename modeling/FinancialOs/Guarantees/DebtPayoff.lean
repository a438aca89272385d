import FinancialOs.Rules.DebtStrategy
import Mathlib.Logic.Function.Iterate
import Mathlib.Logic.Relation
import Mathlib.Algebra.BigOperators.Group.Finset.Piecewise
import Mathlib.Tactic.Linarith

/-! The debt simulation as an amortisation: the bookkeeping of a month is carried from one payment
to the next, and from one month to the next through the finished snapshots. -/
namespace FinancialOs.Guarantees
open Library Store Rules

/-- What one pass over one debt can do to the local variables. -/
inductive BorcAdimi (debts : List DebtItem) (s : Simulasyon) : Simulasyon → Prop
  | durgun : BorcAdimi debts s s
  | hazirlik (ekstra : ℚ) : BorcAdimi debts s { s with availableExtra := ekstra }
  | faiz (aid : ℕ) (x : ℚ) : kurusEsigi < s.state aid → 0 ≤ x → BorcAdimi debts s { s with
      state := Function.update s.state aid (s.state aid + x)
      totalInterest := s.totalInterest + x
      snapshotInterest := Function.update s.snapshotInterest aid x }
  | odeme (aid : ℕ) (pay : ℚ) (asgariler : ℕ → Option ℚ) (ekstra : ℚ) :
      kurusEsigi < s.state aid → pay ≤ s.state aid →
      (asgariler = s.lastBaseMin ∨ ∃ d, debtById debts aid = some d ∧
        asgariler = Function.update s.lastBaseMin aid (some (d.baseMin (s.state aid)))) →
      BorcAdimi debts s ({ s with lastBaseMin := asgariler, availableExtra := ekstra }.ode aid pay)

/-- A finished month against the payoff months. -/
structure SnapshotUyumu (debts : List DebtItem) (payoffs : ℕ → Option ℕ) (m : MonthSnapshot) : Prop where
  bakiye : ∀ i, 0 ≤ m.debtBalances i
  kapanis : ∀ d ∈ debts, m.debtBalances d.accountId = 0 ↔ ∃ k ≤ m.monthIndex, payoffs d.accountId = some k
  olay : ∀ i, i ∈ m.payoffEvents ↔ payoffs i = some m.monthIndex
  olayTek : m.payoffEvents.Nodup

def toplamBorc (debts : List DebtItem) (state : ℕ → ℚ) : ℚ := (debts.map (fun d => state d.accountId)).sum

/-- The bookkeeping of a run that has finished some months. -/
structure Muhasebe (debts : List DebtItem) (biten : ℕ) (s : Simulasyon) : Prop where
  bakiye : ∀ i, 0 ≤ s.state i
  yabanci : ∀ i, i ∉ debts.map DebtItem.accountId → s.state i = 0
  yabanciAy : ∀ i, i ∉ debts.map DebtItem.accountId → s.debtPayoffMonths i = none
  korunum : (debts.map DebtItem.balance).sum + s.totalInterest = s.totalPaid + toplamBorc debts s.state
  kapanis : ∀ d ∈ debts, s.state d.accountId = 0 ↔ (s.debtPayoffMonths d.accountId).isSome
  aySinir : ∀ i k, s.debtPayoffMonths i = some k → 1 ≤ k ∧ k ≤ s.month
  olay : ∀ i, i ∈ s.snapshotEvents ↔ s.debtPayoffMonths i = some s.month
  olayTek : s.snapshotEvents.Nodup
  gecmisAy : s.schedule.map MonthSnapshot.monthIndex = List.range' 1 biten
  gecmis : ∀ m ∈ s.schedule, SnapshotUyumu debts s.debtPayoffMonths m

section Steps
variable {debts : List DebtItem} {s s' : Simulasyon} {biten : ℕ}

theorem kurusEsigi_pos : 0 < kurusEsigi := by norm_num [kurusEsigi]

theorem faizTahakkuk_adim (s : Simulasyon) {d : DebtItem} (hrate : 0 ≤ d.interestRateMonthly) :
    BorcAdimi debts s (faizTahakkuk s d) := by
  unfold faizTahakkuk
  split
  · exact .durgun
  · next h =>
    have hb : kurusEsigi < s.state d.accountId := not_le.mp h
    have h0 : 0 ≤ s.state d.accountId := (kurusEsigi_pos.trans hb).le
    exact .faiz _ _ hb (mul_nonneg h0 (div_nonneg hrate (by norm_num)))

/-- A payment stays within the balance it is made on. -/
theorem settlement_le (due b : ℚ) : settlement kurusEsigi due b ≤ b := by
  rw [← sub_nonneg, sub_settlement kurusEsigi_pos]
  exact remainder_nonneg kurusEsigi_pos _

theorem asgariOde_adim (debts : List DebtItem) (s : Simulasyon) (aid : ℕ) :
    BorcAdimi debts s (asgariOde debts s aid) := by
  unfold asgariOde
  split
  · exact .durgun
  · next d hd =>
    split
    · exact .durgun
    · next h => exact .odeme _ _ _ _ (not_le.mp h) (settlement_le _ _) (.inr ⟨d, hd, rfl⟩)

theorem ekstraOde_adim (s : Simulasyon) (aid : ℕ) : BorcAdimi debts s (ekstraOde s aid) := by
  unfold ekstraOde
  split
  · exact .durgun
  · split
    · exact .durgun
    · next h => exact .odeme _ _ _ _ (not_le.mp h) (settlement_le _ _) (.inl rfl)

/-- A pass over a list is a chain of steps. -/
theorem foldl_adimlar {α : Type} {f : Simulasyon → α → Simulasyon} :
    ∀ (l : List α) (s : Simulasyon), (∀ s, ∀ a ∈ l, BorcAdimi debts s (f s a)) →
      Relation.ReflTransGen (BorcAdimi debts) s (l.foldl f s)
  | [], _, _ => .refl
  | a :: l, s, h => .head (h s a List.mem_cons_self)
      (foldl_adimlar l (f s a) (fun s b hb => h s b (List.mem_cons_of_mem a hb)))

/-- What the payments of a month end with. -/
def aySonu (debts : List DebtItem) (order : List ℕ) (s : Simulasyon) : Simulasyon :=
  let s := debts.foldl faizTahakkuk s.ayAc
  order.foldl ekstraOde (order.foldl (asgariOde debts) { s with availableExtra := s.extraMonthly })

theorem ayIsle_eq (debts : List DebtItem) (order : List ℕ) (s : Simulasyon) :
    ayIsle debts order s = (aySonu debts order s).ayKapat debts := rfl

/-- The month loop's body: chained steps between the opening of the month and its snapshot. -/
theorem aySonu_adimlar (hrate : ∀ d ∈ debts, 0 ≤ d.interestRateMonthly) (order : List ℕ) (s : Simulasyon) :
    Relation.ReflTransGen (BorcAdimi debts) s.ayAc (aySonu debts order s) := by
  refine (foldl_adimlar debts s.ayAc (fun s d hd => faizTahakkuk_adim s (hrate d hd))).trans ?_
  refine .head (.hazirlik (debts.foldl faizTahakkuk s.ayAc).extraMonthly) ?_
  refine (foldl_adimlar order _ (fun s aid _ => asgariOde_adim debts s aid)).trans ?_
  exact foldl_adimlar order _ (fun s aid _ => ekstraOde_adim s aid)

/-- One debt changes its balance, and with it the sum of them. -/
theorem toplamBorc_update (hids : (debts.map DebtItem.accountId).Nodup) {aid : ℕ}
    (hmem : aid ∈ debts.map DebtItem.accountId) (state : ℕ → ℚ) (b : ℚ) :
    toplamBorc debts (Function.update state aid b) = toplamBorc debts state + (b - state aid) := by
  have hsum (f : ℕ → ℚ) : toplamBorc debts f = ((debts.map DebtItem.accountId).toFinset).sum f := by
    rw [List.sum_toFinset f hids, List.map_map]
    rfl
  rw [hsum, hsum, Finset.sum_update_of_mem (List.mem_toFinset.mpr hmem),
    ← Finset.sum_sdiff (Finset.singleton_subset_iff.mpr (List.mem_toFinset.mpr hmem)), Finset.sum_singleton]
  ring

/-- Only debts of the list have a balance. -/
theorem Muhasebe.mem (h : Muhasebe debts biten s) {aid : ℕ} (hb : kurusEsigi < s.state aid) :
    aid ∈ debts.map DebtItem.accountId := by
  by_contra hn
  rw [h.yabanci aid hn] at hb
  exact lt_asymm hb kurusEsigi_pos

theorem Muhasebe.yabanci_update (h : Muhasebe debts biten s) {aid : ℕ} (hb : kurusEsigi < s.state aid) (b : ℚ) :
    ∀ i, i ∉ debts.map DebtItem.accountId → Function.update s.state aid b i = 0 := by
  intro i hi
  rw [Function.update_of_ne]
  · exact h.yabanci i hi
  · rintro rfl
    exact hi (h.mem hb)

/-- The payment that pays a debt off. -/
theorem ode_biten {aid : ℕ} {pay : ℚ} (hk : s.state aid - pay ≤ 0) (he : aid ∉ s.snapshotEvents)
    (hp : s.debtPayoffMonths aid = none) : s.ode aid pay = { s with
      state := Function.update s.state aid 0
      totalPaid := s.totalPaid + pay
      snapshotPaid := Function.update s.snapshotPaid aid (s.snapshotPaid aid + pay)
      snapshotEvents := s.snapshotEvents ++ [aid]
      debtPayoffMonths := Function.update s.debtPayoffMonths aid (some s.month) } := by
  simp only [Simulasyon.ode, if_pos hk, if_neg he, hp, Option.isSome_none, Bool.false_eq_true, if_false]

/-- The payment that leaves something. -/
theorem ode_kalan {aid : ℕ} {pay : ℚ} (hk : 0 < s.state aid - pay) : s.ode aid pay = { s with
      state := Function.update s.state aid (s.state aid - pay)
      totalPaid := s.totalPaid + pay
      snapshotPaid := Function.update s.snapshotPaid aid (s.snapshotPaid aid + pay) } := by
  simp only [Simulasyon.ode, if_neg (not_le.mpr hk)]

theorem ode_sabit (s : Simulasyon) (aid : ℕ) (pay : ℚ) : (s.ode aid pay).month = s.month ∧
    (s.ode aid pay).schedule = s.schedule ∧ (s.ode aid pay).extraMonthly = s.extraMonthly := by
  simp only [Simulasyon.ode]
  split
  · exact ⟨rfl, rfl, rfl⟩
  · exact ⟨rfl, rfl, rfl⟩

/-- The steps of a month leave it open. -/
theorem adimlar_sabit (hsteps : Relation.ReflTransGen (BorcAdimi debts) s s') :
    s'.month = s.month ∧ s'.schedule = s.schedule ∧ s'.extraMonthly = s.extraMonthly := by
  induction hsteps with
  | refl => exact ⟨rfl, rfl, rfl⟩
  | tail _ hstep ih =>
    rw [← ih.1, ← ih.2.1, ← ih.2.2]
    cases hstep with
    | odeme aid pay asgariler ekstra _ _ _ => exact ode_sabit _ aid pay
    | _ => exact ⟨rfl, rfl, rfl⟩

private theorem update_nonneg {f : ℕ → ℚ} {b : ℚ} (hf : ∀ i, 0 ≤ f i) (hb : 0 ≤ b) (aid i : ℕ) :
    0 ≤ Function.update f aid b i := by
  rw [Function.update_apply]
  split
  · exact hb
  · exact hf i

/-- A balance that stays positive is not paid off before or behind the step. -/
private theorem kapanis_pozitif {f : ℕ → ℚ} {aid i : ℕ} {b : ℚ} (hb : 0 < f aid) (hb' : 0 < b) :
    Function.update f aid b i = 0 ↔ f i = 0 := by
  rw [Function.update_apply]
  split
  · next hid =>
    rw [hid]
    exact iff_of_false hb'.ne' hb.ne'
  · exact Iff.rfl

theorem muhasebe_faiz (h : Muhasebe debts biten s) (hids : (debts.map DebtItem.accountId).Nodup) {aid : ℕ}
    {x : ℚ} (hb : kurusEsigi < s.state aid) (hx : 0 ≤ x) : Muhasebe debts biten { s with
      state := Function.update s.state aid (s.state aid + x)
      totalInterest := s.totalInterest + x
      snapshotInterest := Function.update s.snapshotInterest aid x } where
  bakiye := update_nonneg h.bakiye (add_nonneg (h.bakiye aid) hx) aid
  yabanci := h.yabanci_update hb _
  yabanciAy := h.yabanciAy
  korunum := by
    have := h.korunum
    rw [toplamBorc_update hids (h.mem hb)]
    linarith
  kapanis d hd := by
    have hpos : 0 < s.state aid := kurusEsigi_pos.trans hb
    rw [← h.kapanis d hd]
    exact kapanis_pozitif hpos (add_pos_of_pos_of_nonneg hpos hx)
  aySinir := h.aySinir
  olay := h.olay
  olayTek := h.olayTek
  gecmisAy := h.gecmisAy
  gecmis := h.gecmis

/-- A payoff in the open month leaves the finished months as they were. -/
theorem SnapshotUyumu.update {payoffs : ℕ → Option ℕ} {m : MonthSnapshot} (h : SnapshotUyumu debts payoffs m)
    {aid month : ℕ} (hm : m.monthIndex < month) (hp : payoffs aid = none) :
    SnapshotUyumu debts (Function.update payoffs aid (some month)) m := by
  have hayni (i k : ℕ) (hk : k ≤ m.monthIndex) :
      Function.update payoffs aid (some month) i = some k ↔ payoffs i = some k := by
    rw [Function.update_apply]
    split
    · next hid =>
      rw [hid, hp]
      exact iff_of_false (fun he => by have := Option.some.inj he; omega) (fun he => by cases he)
    · exact Iff.rfl
  refine ⟨h.bakiye, fun d hd => (h.kapanis d hd).trans ?_, fun i => (h.olay i).trans ?_, h.olayTek⟩
  · exact exists_congr (fun k => and_congr_right (fun hk => (hayni _ k hk).symm))
  · exact (hayni i _ (le_refl _)).symm

theorem muhasebe_odeme (h : Muhasebe debts biten s) (hids : (debts.map DebtItem.accountId).Nodup)
    (hay : biten < s.month) {aid : ℕ} {pay : ℚ} (hb : kurusEsigi < s.state aid) (hpay : pay ≤ s.state aid) :
    Muhasebe debts biten (s.ode aid pay) := by
  have hpos : 0 < s.state aid := kurusEsigi_pos.trans hb
  obtain ⟨d, hd, rfl⟩ := List.mem_map.mp (h.mem hb)
  have hnone : s.debtPayoffMonths d.accountId = none := by
    rw [← Option.not_isSome_iff_eq_none, ← h.kapanis d hd]
    exact hpos.ne'
  have hkor := h.korunum
  rcases (sub_nonneg.mpr hpay).eq_or_lt with hk | hk
  · have hevent : d.accountId ∉ s.snapshotEvents := by
      rw [h.olay, hnone]
      exact fun he => by cases he
    rw [ode_biten hk.symm.le hevent hnone]
    constructor
    case bakiye => exact update_nonneg h.bakiye (le_refl 0) _
    case yabanci => exact h.yabanci_update hb _
    case yabanciAy =>
      intro i hi
      have hne : i ≠ d.accountId := fun he => hi (by rw [he]; exact h.mem hb)
      exact (Function.update_of_ne hne _ _).trans (h.yabanciAy i hi)
    case korunum =>
      rw [toplamBorc_update hids (h.mem hb)]
      linarith
    case kapanis =>
      intro e he
      simp only [Function.update_apply]
      split
      · exact iff_of_true rfl rfl
      · exact h.kapanis e he
    case aySinir =>
      intro i k hik
      simp only [Function.update_apply] at hik
      split at hik
      · have : s.month = k := Option.some.inj hik
        change 1 ≤ k ∧ k ≤ s.month
        omega
      · exact h.aySinir i k hik
    case olay =>
      intro i
      simp only [List.mem_append, List.mem_singleton, Function.update_apply]
      split
      · next hid => exact iff_of_true (.inr hid) rfl
      · next hid => rw [or_iff_left hid, h.olay]
    case olayTek => exact List.nodup_append.mpr ⟨h.olayTek, List.nodup_singleton _,
      fun a ha b hb' => by rintro rfl; exact hevent (List.mem_singleton.mp hb' ▸ ha)⟩
    case gecmisAy => exact h.gecmisAy
    case gecmis =>
      intro m hm
      apply (h.gecmis m hm).update _ hnone
      have : m.monthIndex ∈ List.range' 1 biten := h.gecmisAy ▸ List.mem_map_of_mem hm
      rw [List.mem_range'_1] at this
      change m.monthIndex < s.month
      omega
  · rw [ode_kalan hk]
    constructor
    case bakiye => exact update_nonneg h.bakiye hk.le _
    case yabanci => exact h.yabanci_update hb _
    case yabanciAy => exact h.yabanciAy
    case korunum =>
      rw [toplamBorc_update hids (h.mem hb)]
      linarith
    case kapanis =>
      intro e he
      rw [← h.kapanis e he]
      exact kapanis_pozitif hpos hk
    case aySinir => exact h.aySinir
    case olay => exact h.olay
    case olayTek => exact h.olayTek
    case gecmisAy => exact h.gecmisAy
    case gecmis => exact h.gecmis

/-- Every step keeps the books. -/
theorem muhasebe_adim (h : Muhasebe debts biten s) (hids : (debts.map DebtItem.accountId).Nodup)
    (hay : biten < s.month) (hstep : BorcAdimi debts s s') : Muhasebe debts biten s' := by
  cases hstep with
  | durgun => exact h
  | hazirlik ekstra => exact ⟨h.1, h.2, h.3, h.4, h.5, h.6, h.7, h.8, h.9, h.10⟩
  | faiz aid x hb hx => exact muhasebe_faiz h hids hb hx
  | odeme aid pay asgariler ekstra hb hpay _ =>
    have h' : Muhasebe debts biten { s with lastBaseMin := asgariler, availableExtra := ekstra } :=
      ⟨h.1, h.2, h.3, h.4, h.5, h.6, h.7, h.8, h.9, h.10⟩
    exact muhasebe_odeme h' hids hay hb hpay

theorem muhasebe_adimlar (h : Muhasebe debts biten s) (hids : (debts.map DebtItem.accountId).Nodup)
    (hay : biten < s.month) (hsteps : Relation.ReflTransGen (BorcAdimi debts) s s') :
    Muhasebe debts biten s' := by
  induction hsteps with
  | refl => exact h
  | tail hs hstep ih => exact muhasebe_adim ih hids ((adimlar_sabit hs).1 ▸ hay) hstep

end Steps

section Months
variable {debts : List DebtItem} {s : Simulasyon}

/-- The balances the reported schedule ends with. -/
def sonBakiye (debts : List DebtItem) (schedule : List MonthSnapshot) : ℕ → ℚ :=
  (schedule.getLast?.map MonthSnapshot.debtBalances).getD (Simulasyon.baslangic debts 0).state

theorem muhasebe_ayAc (h : Muhasebe debts s.month s) : Muhasebe debts s.month s.ayAc where
  bakiye := h.bakiye
  yabanci := h.yabanci
  yabanciAy := h.yabanciAy
  korunum := h.korunum
  kapanis := h.kapanis
  aySinir i k hik := ⟨(h.aySinir i k hik).1, (h.aySinir i k hik).2.trans (Nat.le_succ _)⟩
  olay i := iff_of_false List.not_mem_nil (fun hik => Nat.not_succ_le_self _ (h.aySinir i _ hik).2)
  olayTek := List.nodup_nil
  gecmisAy := h.gecmisAy
  gecmis := h.gecmis

/-- The snapshot of the month joins the finished ones. -/
theorem muhasebe_ayKapat {biten : ℕ} (h : Muhasebe debts biten s) (hay : s.month = biten + 1) :
    Muhasebe debts (biten + 1) (s.ayKapat debts) where
  bakiye := h.bakiye
  yabanci := h.yabanci
  yabanciAy := h.yabanciAy
  korunum := h.korunum
  kapanis := h.kapanis
  aySinir := h.aySinir
  olay := h.olay
  olayTek := h.olayTek
  gecmisAy := by
    rw [Simulasyon.ayKapat, List.map_append, h.gecmisAy, List.map_singleton, List.range'_1_concat, hay, add_comm]
  gecmis m hm := by
    rcases List.mem_append.mp hm with hm | hm
    · exact h.gecmis m hm
    · rw [List.mem_singleton.mp hm]
      refine ⟨h.bakiye, fun d hd => (h.kapanis d hd).trans ?_, h.olay, h.olayTek⟩
      rw [Option.isSome_iff_exists]
      exact ⟨fun ⟨k, hk⟩ => ⟨k, (h.aySinir _ k hk).2, hk⟩, fun ⟨k, _, hk⟩ => ⟨k, hk⟩⟩

theorem ayIsle_month (hrate : ∀ d ∈ debts, 0 ≤ d.interestRateMonthly) (order : List ℕ) (s : Simulasyon) :
    (ayIsle debts order s).month = s.month + 1 := (adimlar_sabit (aySonu_adimlar hrate order s)).1

theorem muhasebe_aySonu (h : Muhasebe debts s.month s) (hids : (debts.map DebtItem.accountId).Nodup)
    (hrate : ∀ d ∈ debts, 0 ≤ d.interestRateMonthly) (order : List ℕ) :
    Muhasebe debts s.month (aySonu debts order s) :=
  muhasebe_adimlar (muhasebe_ayAc h) hids (Nat.lt_succ_self _) (aySonu_adimlar hrate order s)

theorem muhasebe_ayIsle (h : Muhasebe debts s.month s) (hids : (debts.map DebtItem.accountId).Nodup)
    (hrate : ∀ d ∈ debts, 0 ≤ d.interestRateMonthly) (order : List ℕ) :
    Muhasebe debts (ayIsle debts order s).month (ayIsle debts order s) := by
  rw [ayIsle_month hrate]
  exact muhasebe_ayKapat (muhasebe_aySonu h hids hrate order) (ayIsle_month hrate order s)

/-- The last snapshot is the state the loop goes on with. -/
theorem sonBakiye_ayIsle (order : List ℕ) (s : Simulasyon) :
    sonBakiye debts (ayIsle debts order s).schedule = (ayIsle debts order s).state := by
  rw [ayIsle_eq]
  simp only [sonBakiye, Simulasyon.ayKapat, List.getLast?_concat, Option.map_some, Option.getD_some]

/-- What every month keeps and the start has, the run has. -/
theorem ayDongusu_induction {P : Simulasyon → Prop} {order : List ℕ} (hstep : ∀ s, P s → P (ayIsle debts order s)) :
    ∀ (kalan : ℕ) (s : Simulasyon), P s → P (ayDongusu debts order kalan s)
  | 0, _, h => h
  | kalan + 1, s, h => by
    unfold ayDongusu
    split
    · exact ayDongusu_induction hstep kalan _ (hstep s h)
    · exact h

/-- The loop, as the months of it: they run while a debt is open, to their limit at most. -/
theorem ayDongusu_iterate (debts : List DebtItem) (order : List ℕ) : ∀ (kalan : ℕ) (s : Simulasyon),
    ∃ n ≤ kalan, ayDongusu debts order kalan s = (ayIsle debts order)^[n] s ∧
      (∀ j < n, ((ayIsle debts order)^[j] s).borcVar debts = true) ∧
      (n < kalan → ((ayIsle debts order)^[n] s).borcVar debts = false)
  | 0, s => ⟨0, le_rfl, rfl, fun _ hj => absurd hj (Nat.not_lt_zero _), fun h => absurd h (Nat.not_lt_zero _)⟩
  | kalan + 1, s => by
    rw [ayDongusu]
    split
    · next hb =>
      obtain ⟨n, hn, hson, hacik, hdur⟩ := ayDongusu_iterate debts order kalan (ayIsle debts order s)
      refine ⟨n + 1, Nat.succ_le_succ hn, hson, fun j hj => ?_, fun h => hdur (Nat.lt_of_succ_lt_succ h)⟩
      cases j with
      | zero => exact hb
      | succ j => exact hacik j (Nat.lt_of_succ_lt_succ hj)
    · next hb =>
      exact ⟨0, Nat.zero_le _, rfl, fun _ hj => absurd hj (Nat.not_lt_zero _), fun _ => Bool.eq_false_iff.mpr hb⟩

/-- The state a month of the simulation starts from. -/
def ayBasi (debts : List DebtItem) (order : List ℕ) (extra : ℚ) (k : ℕ) : Simulasyon :=
  (ayIsle debts order)^[k] (.baslangic debts extra)

theorem ayBasi_succ (debts : List DebtItem) (order : List ℕ) (extra : ℚ) (k : ℕ) :
    ayBasi debts order extra (k + 1) = ayIsle debts order (ayBasi debts order extra k) :=
  Function.iterate_succ_apply' _ _ _

theorem ayIsle_ay (debts : List DebtItem) (order : List ℕ) (s : Simulasyon) :
    (ayIsle debts order s).month = s.month + 1 := by
  have hfaiz : (debts.foldl faizTahakkuk s.ayAc).month = s.month + 1 := by
    refine List.foldlRecOn debts _ (motive := fun w : Simulasyon => w.month = s.month + 1) rfl ?_
    intro w hw d _
    unfold faizTahakkuk
    split
    · exact hw
    · exact hw
  refine List.foldlRecOn order ekstraOde (motive := fun w : Simulasyon => w.month = s.month + 1) ?_ ?_
  · refine List.foldlRecOn order _ (motive := fun w : Simulasyon => w.month = s.month + 1) hfaiz ?_
    intro w hw aid _
    unfold asgariOde
    split
    · exact hw
    · split
      · exact hw
      · exact (ode_sabit _ _ _).1.trans hw
  · intro w hw aid _
    unfold ekstraOde
    split
    · exact hw
    · split
      · exact hw
      · exact (ode_sabit _ _ _).1.trans hw

theorem ayBasi_month (debts : List DebtItem) (order : List ℕ) (extra : ℚ) (k : ℕ) :
    (ayBasi debts order extra k).month = k := by
  induction k with
  | zero => rfl
  | succ k ih => rw [ayBasi_succ, ayIsle_ay, ih]

theorem ayDongusu_month_le {order : List ℕ} (hmonth : ∀ s, (ayIsle debts order s).month = s.month + 1) :
    ∀ (kalan : ℕ) (s : Simulasyon), (ayDongusu debts order kalan s).month ≤ s.month + kalan
  | 0, _ => le_refl _
  | kalan + 1, s => by
    unfold ayDongusu
    split
    · have := ayDongusu_month_le hmonth kalan (ayIsle debts order s)
      rw [hmonth] at this
      omega
    · omega

theorem debtById_mem {aid : ℕ} {d : DebtItem} (h : debtById debts aid = some d) : d ∈ debts ∧ d.accountId = aid := by
  unfold debtById at h
  exact ⟨List.mem_of_find?_eq_some h, by simpa using List.find?_some h⟩

theorem debtById_of_mem (hids : (debts.map DebtItem.accountId).Nodup) {d : DebtItem} (hd : d ∈ debts) :
    debtById debts d.accountId = some d := by
  have hfound : (debtById debts d.accountId).isSome := List.find?_isSome.mpr ⟨d, hd, by simp⟩
  obtain ⟨e, he⟩ := Option.isSome_iff_exists.mp hfound
  obtain ⟨hmem, hid⟩ := debtById_mem he
  rw [he, List.inj_on_of_nodup_map hids hmem hd hid]

theorem muhasebe_baslangic (hids : (debts.map DebtItem.accountId).Nodup) (hpos : ∀ d ∈ debts, 0 < d.balance)
    (extraMonthly : ℚ) : Muhasebe debts 0 (.baslangic debts extraMonthly) := by
  have hstate : ∀ d ∈ debts, (Simulasyon.baslangic debts extraMonthly).state d.accountId = d.balance := by
    intro d hd
    simp only [Simulasyon.baslangic, debtById_of_mem hids hd, Option.map_some, Option.getD_some]
  have hnone (i : ℕ) (hi : i ∉ debts.map DebtItem.accountId) :
      (Simulasyon.baslangic debts extraMonthly).state i = 0 := by
    have : debtById debts i = none := by
      apply List.find?_eq_none.mpr
      intro d hd he
      exact hi (List.mem_map.mpr ⟨d, hd, of_decide_eq_true he⟩)
    simp only [Simulasyon.baslangic, this, Option.map_none, Option.getD_none]
  constructor
  case bakiye =>
    intro i
    by_cases hi : i ∈ debts.map DebtItem.accountId
    · obtain ⟨d, hd, rfl⟩ := List.mem_map.mp hi
      rw [hstate d hd]
      exact (hpos d hd).le
    · exact (hnone i hi).ge
  case yabanci => exact hnone
  case yabanciAy => exact fun _ _ => rfl
  case korunum =>
    simp only [toplamBorc, List.map_congr_left hstate]
    simp only [Simulasyon.baslangic, zero_add, add_zero]
  case kapanis =>
    intro d hd
    rw [hstate d hd]
    exact iff_of_false (hpos d hd).ne' (fun he => by cases he)
  case aySinir => exact fun i k hik => by cases hik
  case olay => exact fun i => iff_of_false List.not_mem_nil (fun he => by cases he)
  case olayTek => exact List.nodup_nil
  case gecmisAy => rfl
  case gecmis => exact fun m hm => by cases hm

end Months

/-- What a result reports about the debts, as an amortisation of them. -/
structure DogruOdemePlani (debts : List DebtItem) (r : StrategyResult) : Prop where
  sure : r.monthsToFreedom ≤ maxMonths
  aylar : r.schedule.map MonthSnapshot.monthIndex = List.range' 1 r.monthsToFreedom
  gecmis : ∀ m ∈ r.schedule, SnapshotUyumu debts r.debtPayoffMonths m
  kapanisAyi : ∀ d ∈ debts, ∀ k, r.debtPayoffMonths d.accountId = some k →
    1 ≤ k ∧ k ≤ r.monthsToFreedom
  korunum : (debts.map DebtItem.balance).sum + r.totalInterestPaid =
    r.totalPaid + toplamBorc debts (sonBakiye debts r.schedule)

/-- Whatever the order and the money beyond the minimums, every simulated month is one of an
amortisation: no balance is negative, a debt stays at zero from its only payoff month on, and the
money paid is what was owed and what accrued, less what is left. -/
theorem simulate_amortises (debts : List DebtItem) (priorityOrder : List ℕ) (extraMonthly : ℚ) (today : Date)
    (hids : (debts.map DebtItem.accountId).Nodup) (hpos : ∀ d ∈ debts, 0 < d.balance)
    (hrate : ∀ d ∈ debts, 0 ≤ d.interestRateMonthly) :
    DogruOdemePlani debts (simulate debts priorityOrder extraMonthly today) := by
  have hstep (s : Simulasyon) (hs : Muhasebe debts s.month s ∧ sonBakiye debts s.schedule = s.state) :
      Muhasebe debts (ayIsle debts priorityOrder s).month (ayIsle debts priorityOrder s) ∧
        sonBakiye debts (ayIsle debts priorityOrder s).schedule = (ayIsle debts priorityOrder s).state :=
    ⟨muhasebe_ayIsle hs.1 hids hrate priorityOrder, sonBakiye_ayIsle priorityOrder s⟩
  obtain ⟨hm, hson⟩ := ayDongusu_induction hstep maxMonths (.baslangic debts extraMonthly)
    ⟨muhasebe_baslangic hids hpos extraMonthly, rfl⟩
  have hmonths := ayDongusu_month_le (ayIsle_month hrate priorityOrder) maxMonths (.baslangic debts extraMonthly)
  unfold simulate
  split
  · next hnil =>
    subst hnil
    exact ⟨Nat.zero_le _, rfl, fun _ hm => (List.not_mem_nil hm).elim, fun _ hd => (List.not_mem_nil hd).elim, rfl⟩
  · constructor
    case sure => exact hmonths.trans (Nat.zero_add _).le
    case aylar => exact hm.gecmisAy
    case gecmis => exact hm.gecmis
    case kapanisAyi => exact fun d _ k hk => hm.aySinir _ k hk
    case korunum =>
      rw [hson]
      exact hm.korunum

/-- A card and a loan over the months it takes to pay them off. -/
theorem simulate_amortises_two :
    let debts : List DebtItem := [⟨1, .creditCard, 1000, 4, 250, 1 / 4⟩, ⟨2, .loan, 300, 2, 100, 1 / 4⟩]
    DogruOdemePlani debts (simulate debts [1, 2] 100 ((Date.ofYmd? 2026 5 14).get rfl)) :=
  simulate_amortises _ _ _ _ (by decide) (by simp) (by simp)

end FinancialOs.Guarantees
