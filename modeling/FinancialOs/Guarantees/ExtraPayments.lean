import FinancialOs.Guarantees.DebtPayoff
import Mathlib.Algebra.Order.BigOperators.Group.List

/-! Two runs of the debt simulation that differ in the money beyond the minimum payments, month by
month: as long as the poorer run is not given a larger minimum by a card it pays off, the richer
run stays ahead of it on every debt. -/
namespace FinancialOs.Guarantees
open Library Store Rules

/-- A debt as `collect_debts` normalizes it. -/
structure GecerliBorc (d : DebtItem) : Prop where
  balance : 0 < d.balance
  interestRateMonthly : 0 ≤ d.interestRateMonthly
  minPayment : 0 ≤ d.minPayment
  cardMinPayment : d.accountType = .creditCard → 50 ≤ d.minPayment
  minPaymentRatio : 0 < d.minPaymentRatio ∧ d.minPaymentRatio ≤ 1

theorem gecerliAsgariOran_mem (oran : Option ℚ) : 0 < gecerliAsgariOran oran ∧ gecerliAsgariOran oran ≤ 1 := by
  unfold gecerliAsgariOran
  cases h : oran.filter (fun o => 0 < o ∧ o ≤ 1) with
  | none => norm_num [minCardPaymentRatio]
  | some o => simpa using (Option.filter_eq_some_iff.mp h).2

theorem taksitTahmini_nonneg {a : AccountRow} (h : 0 < a.balance) : 0 ≤ taksitTahmini a := by
  unfold taksitTahmini
  split
  · next n _ =>
    split
    · next hn => exact div_nonneg h.le (by exact_mod_cast hn.le)
    · exact mul_nonneg h.le (by norm_num)
  · exact mul_nonneg h.le (by norm_num)

theorem gecerliBorc_borcKalemi (id : ℕ) {a : AccountRow} (h : 0 < a.balance) : GecerliBorc (borcKalemi id a) where
  balance := h
  interestRateMonthly := by
    simp only [borcKalemi]
    cases hr : a.interestRate.filter (0 < ·) with
    | none =>
      simp only [Option.getD_none]
      split
      · norm_num [defaultCardInterestMonthly]
      · exact le_refl 0
    | some r =>
      have := (Option.filter_eq_some_iff.mp hr).2
      exact (of_decide_eq_true this).le
  minPayment := by
    simp only [borcKalemi]
    split
    · exact le_max_of_le_right (by norm_num)
    · split
      · next hm => exact hm.le
      · exact taksitTahmini_nonneg h
  cardMinPayment hcard := by
    have hcard : a.accountType = .creditCard := hcard
    simp only [borcKalemi, if_pos hcard]
    exact le_max_right _ _
  minPaymentRatio := gecerliAsgariOran_mem _

section Rollover
variable {debts : List DebtItem} {s s' : Simulasyon}

/-- A debt at a hundredth or less takes no part in a step. -/
theorem adim_kapali (hstep : BorcAdimi debts s s') {i : ℕ} (hi : s.state i ≤ kurusEsigi) :
    s'.state i = s.state i ∧ s'.lastBaseMin i = s.lastBaseMin i ∧ s'.debtPayoffMonths i = s.debtPayoffMonths i := by
  cases hstep with
  | durgun => exact ⟨rfl, rfl, rfl⟩
  | hazirlik ekstra => exact ⟨rfl, rfl, rfl⟩
  | faiz aid x hb hx => exact ⟨Function.update_of_ne (by rintro rfl; exact hi.not_gt hb) _ _, rfl, rfl⟩
  | odeme aid pay asgariler ekstra hb hpay hasg =>
    have hne : i ≠ aid := by
      rintro rfl
      exact hi.not_gt hb
    have hmin : asgariler i = s.lastBaseMin i := by
      rcases hasg with rfl | ⟨d, _, rfl⟩
      · rfl
      · exact Function.update_of_ne hne _ _
    rw [← hmin]
    simp only [Simulasyon.ode]
    split
    · refine ⟨Function.update_of_ne hne _ _, rfl, ?_⟩
      simp only
      split
      · rfl
      · exact Function.update_of_ne hne _ _
    · exact ⟨Function.update_of_ne hne _ _, rfl, rfl⟩

/-- A payoff month, once set, stays, and a new one is the open month. -/
theorem adim_payoff (hstep : BorcAdimi debts s s') (i : ℕ) :
    s'.debtPayoffMonths i = s.debtPayoffMonths i ∨
      s.debtPayoffMonths i = none ∧ s'.debtPayoffMonths i = some s.month := by
  cases hstep with
  | odeme aid pay asgariler ekstra hb hpay hasg =>
    simp only [Simulasyon.ode]
    split
    · simp only
      split
      · exact .inl rfl
      · next hnone =>
        rw [Function.update_apply]
        split
        · next hid =>
          rw [hid]
          exact .inr ⟨Option.not_isSome_iff_eq_none.mp hnone, rfl⟩
        · exact .inl rfl
    · exact .inl rfl
  | _ => exact .inl rfl

/-- The minimum last asked of a debt: of a card the floor at least, of a loan its instalment. -/
def AsgariUygun (debts : List DebtItem) (s : Simulasyon) : Prop :=
  ∀ aid d b, debtById debts aid = some d → s.lastBaseMin aid = some b →
    if d.accountType = .creditCard then 50 ≤ b else b = d.minPayment

theorem ode_lastBaseMin (s : Simulasyon) (aid : ℕ) (pay : ℚ) : (s.ode aid pay).lastBaseMin = s.lastBaseMin := by
  simp only [Simulasyon.ode]
  split
  · rfl
  · rfl

theorem adim_asgari (hstep : BorcAdimi debts s s') (h : AsgariUygun debts s) : AsgariUygun debts s' := by
  cases hstep with
  | odeme aid pay asgariler ekstra hb hpay hasg =>
    intro i d b hd hbi
    rw [ode_lastBaseMin] at hbi
    rcases hasg with rfl | ⟨e, he, rfl⟩
    · exact h i d b hd hbi
    · simp only [Function.update_apply] at hbi
      split at hbi
      · next hid =>
        rw [hid, he] at hd
        obtain rfl := Option.some.inj hd
        obtain rfl := Option.some.inj hbi
        unfold DebtItem.baseMin
        split
        · exact le_max_right _ _
        · rfl
      · exact h i d b hd hbi
  | _ => exact h

theorem adimlar_asgari (hsteps : Relation.ReflTransGen (BorcAdimi debts) s s') (h : AsgariUygun debts s) :
    AsgariUygun debts s' := by
  induction hsteps with
  | refl => exact h
  | tail _ hstep ih => exact adim_asgari hstep ih

theorem adimlar_kapali (hsteps : Relation.ReflTransGen (BorcAdimi debts) s s') {i : ℕ}
    (hi : s.state i ≤ kurusEsigi) : s'.state i = s.state i ∧ s'.lastBaseMin i = s.lastBaseMin i ∧
      s'.debtPayoffMonths i = s.debtPayoffMonths i := by
  induction hsteps with
  | refl => exact ⟨rfl, rfl, rfl⟩
  | tail _ hstep ih =>
    obtain ⟨hstate, hmin, hpayoff⟩ := ih
    rw [← hstate, ← hmin, ← hpayoff]
    exact adim_kapali hstep (hstate ▸ hi)

theorem adimlar_payoff (hsteps : Relation.ReflTransGen (BorcAdimi debts) s s') (i : ℕ) :
    s'.debtPayoffMonths i = s.debtPayoffMonths i ∨
      s.debtPayoffMonths i = none ∧ s'.debtPayoffMonths i = some s.month := by
  induction hsteps with
  | refl => exact .inl rfl
  | tail hs hstep ih =>
    rcases adim_payoff hstep i with he | ⟨hnone, hsome⟩
    · rwa [he]
    · rw [hnone] at ih
      rw [hsome, (adimlar_sabit hs).1]
      rcases ih with he | ⟨_, he⟩
      · exact .inr ⟨he.symm, rfl⟩
      · cases he

/-- What a paid-off debt adds to the money of the months behind it. -/
def devreden (debts : List DebtItem) (s : Simulasyon) : ℚ :=
  (debts.map (fun d => if (s.debtPayoffMonths d.accountId).isSome then serbestKalan debts s d.accountId else 0)).sum

/-- The payoffs of a month are what it adds. -/
theorem devreden_ay (hids : (debts.map DebtItem.accountId).Nodup) (hs : Muhasebe debts s.month s)
    (hs' : Muhasebe debts s.month s') (hsteps : Relation.ReflTransGen (BorcAdimi debts) s.ayAc s') :
    devreden debts s' = devreden debts s + (s'.snapshotEvents.map (serbestKalan debts s')).sum := by
  have hmem : ∀ i ∈ s'.snapshotEvents, i ∈ debts.map DebtItem.accountId := by
    intro i hi
    by_contra hn
    have := (hs'.olay i).mp hi
    rw [hs'.yabanciAy i hn] at this
    cases this
  have hevents : (s'.snapshotEvents.map (serbestKalan debts s')).sum = (debts.map (fun d =>
      if d.accountId ∈ s'.snapshotEvents then serbestKalan debts s' d.accountId else 0)).sum := by
    calc (s'.snapshotEvents.map (serbestKalan debts s')).sum
        = s'.snapshotEvents.toFinset.sum (serbestKalan debts s') := (List.sum_toFinset _ hs'.olayTek).symm
      _ = ((debts.map DebtItem.accountId).toFinset ∩ s'.snapshotEvents.toFinset).sum (serbestKalan debts s') := by
        rw [Finset.inter_eq_right.mpr]
        intro i hi
        exact List.mem_toFinset.mpr (hmem i (List.mem_toFinset.mp hi))
      _ = (debts.map DebtItem.accountId).toFinset.sum
            (fun i => if i ∈ s'.snapshotEvents.toFinset then serbestKalan debts s' i else 0) :=
        (Finset.sum_ite_mem _ _ _).symm
      _ = _ := by
        rw [List.sum_toFinset _ hids, List.map_map]
        simp only [Function.comp_def, List.mem_toFinset]
  rw [hevents, devreden, devreden, ← List.sum_map_add]
  congr 1
  apply List.map_congr_left
  intro d hd
  cases hp : s.debtPayoffMonths d.accountId with
  | some k =>
    have hzero : s.ayAc.state d.accountId ≤ kurusEsigi := by
      change s.state d.accountId ≤ kurusEsigi
      rw [(hs.kapanis d hd).mpr (by rw [hp]; rfl)]
      exact kurusEsigi_pos.le
    obtain ⟨_, hmin, hpayoff⟩ := adimlar_kapali hsteps hzero
    have hpayoff : s'.debtPayoffMonths d.accountId = some k := hpayoff.trans hp
    have hnot : d.accountId ∉ s'.snapshotEvents := by
      rw [hs'.olay, hpayoff, (adimlar_sabit hsteps).1]
      intro he
      have hk := hs.aySinir _ k hp
      have : k = s.month + 1 := Option.some.inj he
      omega
    rw [hpayoff, if_neg hnot, add_zero, serbestKalan, hmin]
    rfl
  | none =>
    have hevent : d.accountId ∈ s'.snapshotEvents ↔ (s'.debtPayoffMonths d.accountId).isSome := by
      rw [hs'.olay, (adimlar_sabit hsteps).1]
      rcases adimlar_payoff hsteps d.accountId with he | ⟨_, he⟩
      · rw [he]
        change s.debtPayoffMonths d.accountId = _ ↔ (s.debtPayoffMonths d.accountId).isSome
        rw [hp]
        exact iff_of_false (fun he => by cases he) (fun he => by cases he)
      · rw [he]
        exact iff_of_true rfl rfl
    rw [Option.isSome_none, if_neg Bool.false_ne_true, zero_add]
    exact if_congr hevent.symm rfl rfl

end Rollover

section Payments
variable {debts : List DebtItem} {s : Simulasyon} {aid : ℕ} {pay : ℚ}

theorem baseMin_nonneg {d : DebtItem} (hd : GecerliBorc d) (b : ℚ) : 0 ≤ d.baseMin b := by
  unfold DebtItem.baseMin
  split
  · exact le_max_of_le_right (by norm_num)
  · exact hd.minPayment

theorem baseMin_mono {d : DebtItem} (hd : GecerliBorc d) {b b' : ℚ} (h : b ≤ b') : d.baseMin b ≤ d.baseMin b' := by
  unfold DebtItem.baseMin
  split
  · exact max_le_max (mul_le_mul_of_nonneg_right h hd.minPaymentRatio.1.le) (le_refl 50)
  · exact le_refl _

theorem ode_state (hpay : pay ≤ s.state aid) :
    (s.ode aid pay).state = Function.update s.state aid (s.state aid - pay) := by
  simp only [Simulasyon.ode]
  split
  · next h =>
    have hzero : s.state aid - pay = 0 := le_antisymm h (sub_nonneg.mpr hpay)
    rw [hzero]
  · rfl

theorem ode_snapshotPaid (s : Simulasyon) (aid : ℕ) (pay : ℚ) :
    (s.ode aid pay).snapshotPaid = Function.update s.snapshotPaid aid (s.snapshotPaid aid + pay) := by
  simp only [Simulasyon.ode]
  split
  · rfl
  · rfl

theorem mem_ode_snapshotEvents {i : ℕ} (h : i ∈ (s.ode aid pay).snapshotEvents) :
    i ∈ s.snapshotEvents ∨ i = aid := by
  simp only [Simulasyon.ode] at h
  split at h
  · simp only at h
    split at h
    · exact .inl h
    · rwa [List.mem_append, List.mem_singleton] at h
  · exact .inl h

/-- The last minimum of a debt was asked of no more than what the month has paid and left of it. -/
def SonAsgari (debts : List DebtItem) (s : Simulasyon) (aid : ℕ) : Prop :=
  ∀ d, debtById debts aid = some d → ∃ b, s.lastBaseMin aid = some b ∧ b ≤ d.baseMin (s.snapshotPaid aid + s.state aid)

/-- A payment moves a balance to what is paid of it. -/
theorem sonAsgari_ode (hpay : pay ≤ s.state aid) (i : ℕ) : SonAsgari debts (s.ode aid pay) i ↔ SonAsgari debts s i := by
  have hsum : (s.ode aid pay).snapshotPaid i + (s.ode aid pay).state i = s.snapshotPaid i + s.state i := by
    rw [ode_state hpay, ode_snapshotPaid, Function.update_apply, Function.update_apply]
    split
    · next hid =>
      rw [hid]
      ring
    · rfl
  unfold SonAsgari
  rw [hsum, ode_lastBaseMin]

/-- The payments of a month that has asked the minimums of some debts. -/
structure AyOdemeleri (debts : List DebtItem) (istenen : ℕ → Prop) (s : Simulasyon) : Prop where
  bakiye : ∀ i, 0 ≤ s.state i
  odenen : ∀ i, 0 ≤ s.snapshotPaid i
  olay : ∀ i ∈ s.snapshotEvents, SonAsgari debts s i
  asgari : ∀ i, istenen i → kurusEsigi < s.state i → SonAsgari debts s i

/-- A payment on a debt whose minimum the month has asked. -/
theorem ayOdemeleri_ode {istenen : ℕ → Prop} (h : AyOdemeleri debts istenen s) (h0 : 0 ≤ pay)
    (hpay : pay ≤ s.state aid) (hson : SonAsgari debts s aid) :
    AyOdemeleri debts (fun i => istenen i ∨ i = aid) (s.ode aid pay) where
  bakiye i := by
    rw [ode_state hpay, Function.update_apply]
    split
    · exact sub_nonneg.mpr hpay
    · exact h.bakiye i
  odenen i := by
    rw [ode_snapshotPaid, Function.update_apply]
    split
    · exact add_nonneg (h.odenen aid) h0
    · exact h.odenen i
  olay i hi := by
    rw [sonAsgari_ode hpay]
    rcases mem_ode_snapshotEvents hi with hi | rfl
    · exact h.olay i hi
    · exact hson
  asgari i hi hb := by
    rw [sonAsgari_ode hpay]
    rcases hi with hi | rfl
    · apply h.asgari i hi
      by_cases hid : i = aid
      · rw [ode_state hpay, hid, Function.update_self] at hb
        rw [hid]
        linarith
      · rwa [ode_state hpay, Function.update_of_ne hid] at hb
    · exact hson

theorem ayOdemeleri_asgariOde (hgec : ∀ d ∈ debts, GecerliBorc d) {istenen : ℕ → Prop}
    (h : AyOdemeleri debts istenen s) (aid : ℕ) :
    AyOdemeleri debts (fun i => istenen i ∨ i = aid) (asgariOde debts s aid) := by
  have hdurgun (hson : kurusEsigi < s.state aid → SonAsgari debts s aid) :
      AyOdemeleri debts (fun i => istenen i ∨ i = aid) s := by
    refine ⟨h.bakiye, h.odenen, h.olay, fun i hi hb => ?_⟩
    rcases hi with hi | rfl
    · exact h.asgari i hi hb
    · exact hson hb
  unfold asgariOde
  split
  · next hnone => exact hdurgun (fun _ d hd => by rw [hnone] at hd; cases hd)
  · next d hd =>
    split
    · next hb => exact hdurgun (fun hlt => absurd hb hlt.not_ge)
    · have hgd := hgec d (debtById_mem hd).1
      set w : Simulasyon := { s with
        lastBaseMin := Function.update s.lastBaseMin aid (some (d.baseMin (s.state aid))) }
      have hson (i : ℕ) (hi : i ≠ aid) : SonAsgari debts s i → SonAsgari debts w i := by
        intro hs e he
        obtain ⟨b, hb, hle⟩ := hs e he
        exact ⟨b, (Function.update_of_ne hi _ _).trans hb, hle⟩
      have haid : SonAsgari debts w aid := by
        intro e he
        rw [hd] at he
        obtain rfl := Option.some.inj he
        refine ⟨_, Function.update_self _ _ _, baseMin_mono hgd ?_⟩
        exact le_add_of_nonneg_left (h.odenen aid)
      have hw : AyOdemeleri debts istenen w := by
        refine ⟨h.bakiye, h.odenen, fun i hi => ?_, fun i hi hb => ?_⟩
        · by_cases hid : i = aid
          · rwa [hid]
          · exact hson i hid (h.olay i hi)
        · by_cases hid : i = aid
          · rwa [hid]
          · exact hson i hid (h.asgari i hi hb)
      exact ayOdemeleri_ode hw (settlement_nonneg (baseMin_nonneg hgd _) (h.bakiye aid)) (settlement_le _ _) haid

theorem ayOdemeleri_ekstraOde {istenen : ℕ → Prop} (h : AyOdemeleri debts istenen s) (haid : istenen aid) :
    AyOdemeleri debts istenen (ekstraOde s aid) := by
  unfold ekstraOde
  split
  · exact h
  · next he =>
    split
    · exact h
    · next hb =>
      have hw : AyOdemeleri debts istenen
          { s with availableExtra := s.availableExtra - settlement kurusEsigi s.availableExtra (s.state aid) } :=
        ⟨h.bakiye, h.odenen, h.olay, h.asgari⟩
      have h0 : 0 ≤ s.availableExtra := (kurusEsigi_pos.trans (not_le.mp he)).le
      have hpaid := ayOdemeleri_ode hw (settlement_nonneg h0 (h.bakiye aid)) (settlement_le _ _)
        (h.asgari aid haid (not_le.mp hb))
      exact ⟨hpaid.bakiye, hpaid.odenen, hpaid.olay, fun i hi => hpaid.asgari i (.inl hi)⟩

private theorem faiz_odenmemis (hgec : ∀ d ∈ debts, GecerliBorc d) {d : DebtItem} (hd : d ∈ debts)
    (h : (∀ i, 0 ≤ s.state i) ∧ (∀ i, 0 ≤ s.snapshotPaid i) ∧ s.snapshotEvents = []) :
    (∀ i, 0 ≤ (faizTahakkuk s d).state i) ∧ (∀ i, 0 ≤ (faizTahakkuk s d).snapshotPaid i) ∧
      (faizTahakkuk s d).snapshotEvents = [] := by
  obtain ⟨hstate, hpaid, hevents⟩ := h
  unfold faizTahakkuk
  split
  · exact ⟨hstate, hpaid, hevents⟩
  · refine ⟨fun i => ?_, hpaid, hevents⟩
    have hrate : 0 ≤ d.interestRateMonthly / 100 := div_nonneg (hgec d hd).interestRateMonthly (by norm_num)
    simp only [Function.update_apply]
    split
    · exact add_nonneg (hstate _) (mul_nonneg (hstate _) hrate)
    · exact hstate i

/-- A debt paid off in a month was asked for a minimum on no more than it was paid off with. -/
theorem ayOdemeleri_aySonu (hgec : ∀ d ∈ debts, GecerliBorc d) (order : List ℕ) (h0 : ∀ i, 0 ≤ s.state i) :
    AyOdemeleri debts (fun i => i ∈ order) (aySonu debts order s) := by
  obtain ⟨hstate, hpaid, hevents⟩ := List.foldlRecOn debts faizTahakkuk
    (motive := fun w => (∀ i, 0 ≤ w.state i) ∧ (∀ i, 0 ≤ w.snapshotPaid i) ∧ w.snapshotEvents = [])
    (b := s.ayAc) ⟨h0, fun _ => le_refl 0, rfl⟩ (fun w hw d hd => faiz_odenmemis hgec hd hw)
  have hbas : AyOdemeleri debts (fun _ => False) { debts.foldl faizTahakkuk s.ayAc with
      availableExtra := (debts.foldl faizTahakkuk s.ayAc).extraMonthly } := by
    refine ⟨hstate, hpaid, fun i hi => ?_, fun i hi => hi.elim⟩
    rw [show (debts.foldl faizTahakkuk s.ayAc).snapshotEvents = [] from hevents] at hi
    cases hi
  have hasgari : ∀ (l : List ℕ) (istenen : ℕ → Prop) (w : Simulasyon), AyOdemeleri debts istenen w →
      AyOdemeleri debts (fun i => istenen i ∨ i ∈ l) (l.foldl (asgariOde debts) w) := by
    intro l
    induction l with
    | nil => exact fun istenen w hw => ⟨hw.bakiye, hw.odenen, hw.olay, fun i hi => hw.asgari i (by simpa using hi)⟩
    | cons a l ih =>
      intro istenen w hw
      have hnext := ih _ _ (ayOdemeleri_asgariOde hgec hw a)
      exact ⟨hnext.bakiye, hnext.odenen, hnext.olay,
        fun i hi => hnext.asgari i (by rwa [or_assoc, ← List.mem_cons])⟩
  have hson := hasgari order _ _ hbas
  exact List.foldlRecOn order ekstraOde (motive := fun w => AyOdemeleri debts (fun i => i ∈ order) w)
    ⟨hson.bakiye, hson.odenen, hson.olay, fun i hi => hson.asgari i (.inr hi)⟩
    (fun w hw aid haid => ayOdemeleri_ekstraOde hw haid)

end Payments

/-- The books of a run with what its paid-off debts have freed. -/
structure DevirUyumu (debts : List DebtItem) (extraMonthly : ℚ) (s : Simulasyon) : Prop where
  muhasebe : Muhasebe debts s.month s
  asgari : AsgariUygun debts s
  devir : s.extraMonthly = extraMonthly + devreden debts s
  odenen : ∀ m ∈ s.schedule, ∀ d ∈ debts, d.accountId ∈ m.payoffEvents →
    serbestKalan debts s d.accountId ≤ d.baseMin (m.paidThisMonth d.accountId)

section Months
variable {debts : List DebtItem} {extraMonthly : ℚ} {s : Simulasyon}

/-- Once a debt is paid off, what it has freed no longer changes. -/
theorem serbestKalan_aySonu (hrate : ∀ d ∈ debts, 0 ≤ d.interestRateMonthly) (hs : Muhasebe debts s.month s)
    (order : List ℕ) {d : DebtItem} (hd : d ∈ debts) (hp : (s.debtPayoffMonths d.accountId).isSome) :
    serbestKalan debts (aySonu debts order s) d.accountId = serbestKalan debts s d.accountId := by
  have hzero : s.ayAc.state d.accountId ≤ kurusEsigi := by
    change s.state d.accountId ≤ kurusEsigi
    rw [(hs.kapanis d hd).mpr hp]
    exact kurusEsigi_pos.le
  have hmin := (adimlar_kapali (aySonu_adimlar hrate order s) hzero).2.1
  rw [serbestKalan, hmin]
  rfl

theorem devir_ay (hids : (debts.map DebtItem.accountId).Nodup) (hrate : ∀ d ∈ debts, 0 ≤ d.interestRateMonthly)
    (hs : Muhasebe debts s.month s) (hdevir : s.extraMonthly = extraMonthly + devreden debts s) (order : List ℕ) :
    (ayIsle debts order s).extraMonthly = extraMonthly + devreden debts (ayIsle debts order s) := by
  have hsteps := aySonu_adimlar hrate order s
  have hson := muhasebe_aySonu hs hids hrate order
  calc (ayIsle debts order s).extraMonthly
      = (aySonu debts order s).extraMonthly +
          ((aySonu debts order s).snapshotEvents.map (serbestKalan debts (aySonu debts order s))).sum := rfl
    _ = extraMonthly + devreden debts (aySonu debts order s) := by
      rw [(adimlar_sabit hsteps).2.2, devreden_ay hids hs hson hsteps, ← add_assoc, ← hdevir]
      rfl

theorem devirUyumu_ayIsle (hids : (debts.map DebtItem.accountId).Nodup) (hgec : ∀ d ∈ debts, GecerliBorc d)
    (order : List ℕ) (h : DevirUyumu debts extraMonthly s) :
    DevirUyumu debts extraMonthly (ayIsle debts order s) := by
  have hrate (d : DebtItem) (hd : d ∈ debts) := (hgec d hd).interestRateMonthly
  have hsteps := aySonu_adimlar hrate order s
  have hson := muhasebe_aySonu h.muhasebe hids hrate order
  have hschedule := (adimlar_sabit hsteps).2.1
  constructor
  case muhasebe => exact muhasebe_ayIsle h.muhasebe hids hrate order
  case asgari =>
    have hasgari : AsgariUygun debts (aySonu debts order s) := adimlar_asgari hsteps h.asgari
    exact hasgari
  case devir => exact devir_ay hids hrate h.muhasebe h.devir order
  case odenen =>
    intro m hm d hd hevent
    change serbestKalan debts (aySonu debts order s) d.accountId ≤ _
    change m ∈ (aySonu debts order s).schedule ++ _ at hm
    rw [hschedule] at hm
    rcases List.mem_append.mp hm with hm | hm
    · have hpayoff := ((h.muhasebe.gecmis m hm).olay _).mp hevent
      rw [serbestKalan_aySonu hrate h.muhasebe order hd (by rw [hpayoff]; rfl)]
      exact h.odenen m hm d hd hevent
    · rw [List.mem_singleton.mp hm] at hevent ⊢
      have hpayoff := (hson.olay _).mp hevent
      have hzero : (aySonu debts order s).state d.accountId = 0 := (hson.kapanis d hd).mpr (by rw [hpayoff]; rfl)
      have hbooks := ayOdemeleri_aySonu hgec order h.muhasebe.bakiye
      obtain ⟨b, hb, hle⟩ := hbooks.olay _ hevent d (debtById_of_mem hids hd)
      rw [serbestKalan, hb]
      rwa [hzero, add_zero] at hle

theorem devirUyumu_baslangic (hids : (debts.map DebtItem.accountId).Nodup) (hgec : ∀ d ∈ debts, GecerliBorc d)
    (extraMonthly : ℚ) : DevirUyumu debts extraMonthly (.baslangic debts extraMonthly) where
  muhasebe := muhasebe_baslangic hids (fun d hd => (hgec d hd).balance) extraMonthly
  asgari _ _ _ _ hb := by cases hb
  devir := by
    have hzero : devreden debts (.baslangic debts extraMonthly) = 0 := by
      apply List.sum_eq_zero
      intro x hx
      obtain ⟨d, _, rfl⟩ := List.mem_map.mp hx
      rfl
    rw [hzero, add_zero]
    rfl
  odenen m hm := by cases hm

end Months

section Balances
variable {d : DebtItem} {s : Simulasyon} {x x' ekstra ekstra' : ℚ}

/-- A balance after the interest of a month. -/
def faizli (d : DebtItem) (x : ℚ) : ℚ := if x ≤ kurusEsigi then x else x + x * (d.interestRateMonthly / 100)

/-- A balance after the minimum payment. -/
def asgariKalan (d : DebtItem) (x : ℚ) : ℚ :=
  if x ≤ kurusEsigi then x else remainder kurusEsigi (x - d.baseMin x)

/-- A balance after a payment out of the extra money. -/
def ekstraKalan (ekstra x : ℚ) : ℚ :=
  if ekstra ≤ kurusEsigi then x else if x ≤ kurusEsigi then x else remainder kurusEsigi (x - ekstra)

theorem faizTahakkuk_state (s : Simulasyon) (d : DebtItem) :
    (faizTahakkuk s d).state = Function.update s.state d.accountId (faizli d (s.state d.accountId)) := by
  unfold faizTahakkuk faizli
  split
  · exact (Function.update_eq_self _ _).symm
  · rfl

theorem faizTahakkuk_totalInterest (s : Simulasyon) (d : DebtItem) : (faizTahakkuk s d).totalInterest =
    s.totalInterest + (faizli d (s.state d.accountId) - s.state d.accountId) := by
  unfold faizTahakkuk faizli
  split
  · rw [sub_self, add_zero]
  · rw [add_sub_cancel_left]

theorem ode_totalInterest (s : Simulasyon) (aid : ℕ) (pay : ℚ) :
    (s.ode aid pay).totalInterest = s.totalInterest ∧ (s.ode aid pay).availableExtra = s.availableExtra := by
  simp only [Simulasyon.ode]
  split
  · exact ⟨rfl, rfl⟩
  · exact ⟨rfl, rfl⟩

theorem asgariOde_spec {debts : List DebtItem} {aid : ℕ} (hd : debtById debts aid = some d) (s : Simulasyon) :
    (asgariOde debts s aid).state = Function.update s.state aid (asgariKalan d (s.state aid)) ∧
      (asgariOde debts s aid).totalInterest = s.totalInterest ∧
      (asgariOde debts s aid).availableExtra = s.availableExtra := by
  simp only [asgariOde, hd, asgariKalan]
  split
  · exact ⟨(Function.update_eq_self _ _).symm, rfl, rfl⟩
  · refine ⟨?_, ode_totalInterest _ _ _⟩
    rw [ode_state (settlement_le _ _), sub_settlement kurusEsigi_pos]

theorem ekstraOde_spec (s : Simulasyon) (aid : ℕ) :
    (ekstraOde s aid).state = Function.update s.state aid (ekstraKalan s.availableExtra (s.state aid)) ∧
      (ekstraOde s aid).totalInterest = s.totalInterest ∧
      (ekstraOde s aid).availableExtra =
        s.availableExtra - (s.state aid - ekstraKalan s.availableExtra (s.state aid)) := by
  unfold ekstraOde ekstraKalan
  split
  · exact ⟨(Function.update_eq_self _ _).symm, rfl, by rw [sub_self, sub_zero]⟩
  · split
    · exact ⟨(Function.update_eq_self _ _).symm, rfl, by rw [sub_self, sub_zero]⟩
    · obtain ⟨hinterest, hextra⟩ := ode_totalInterest
        { s with availableExtra := s.availableExtra - settlement kurusEsigi s.availableExtra (s.state aid) } aid
        (settlement kurusEsigi s.availableExtra (s.state aid))
      refine ⟨?_, hinterest, hextra.trans ?_⟩
      · rw [ode_state (settlement_le _ _), sub_settlement kurusEsigi_pos]
      · rw [← sub_settlement kurusEsigi_pos, sub_sub_cancel]

/-- Interest widens the distance of two balances. -/
theorem faizli_mono (hrate : 0 ≤ d.interestRateMonthly) (h0 : 0 ≤ x') (h : x' ≤ x) :
    faizli d x' ≤ faizli d x ∧ faizli d x' - x' ≤ faizli d x - x := by
  have hr : 0 ≤ d.interestRateMonthly / 100 := div_nonneg hrate (by norm_num)
  have hfaiz : x' * (d.interestRateMonthly / 100) ≤ x * (d.interestRateMonthly / 100) :=
    mul_le_mul_of_nonneg_right h hr
  have hfaiz' : 0 ≤ x' * (d.interestRateMonthly / 100) := mul_nonneg h0 hr
  unfold faizli
  by_cases hx : x ≤ kurusEsigi
  · rw [if_pos hx, if_pos (h.trans hx), sub_self, sub_self]
    exact ⟨h, le_refl 0⟩
  · rw [if_neg hx, add_sub_cancel_left]
    split
    · rw [sub_self]
      exact ⟨by linarith, by linarith⟩
    · rw [add_sub_cancel_left]
      exact ⟨add_le_add h hfaiz, hfaiz⟩

theorem faizli_acik (hrate : 0 ≤ d.interestRateMonthly) (hx : x = 0 ∨ kurusEsigi < x) :
    faizli d x = 0 ∨ kurusEsigi < faizli d x := by
  unfold faizli
  rcases hx with rfl | hx
  · exact .inl (if_pos kurusEsigi_pos.le)
  · have hpos : 0 < x := kurusEsigi_pos.trans hx
    rw [if_neg hx.not_ge]
    exact .inr (lt_add_of_lt_of_nonneg hx (mul_nonneg hpos.le (div_nonneg hrate (by norm_num))))

/-- What the minimum payment leaves grows with the balance. -/
theorem sub_baseMin_mono (hd : GecerliBorc d) (h : x' ≤ x) : x' - d.baseMin x' ≤ x - d.baseMin x := by
  unfold DebtItem.baseMin
  split
  · have hratio : 0 ≤ 1 - d.minPaymentRatio := sub_nonneg.mpr hd.minPaymentRatio.2
    have hrest := mul_le_mul_of_nonneg_right h hratio
    rcases max_cases (x * d.minPaymentRatio) 50 with ⟨he, _⟩ | ⟨he, _⟩
    · have := le_max_left (x' * d.minPaymentRatio) 50
      rw [he]
      linarith
    · have := le_max_right (x' * d.minPaymentRatio) 50
      rw [he]
      linarith
  · linarith

theorem asgariKalan_mono (hd : GecerliBorc d) (hx' : x' = 0 ∨ kurusEsigi < x') (h : x' ≤ x) :
    asgariKalan d x' ≤ asgariKalan d x := by
  unfold asgariKalan
  by_cases hx : x ≤ kurusEsigi
  · rw [if_pos hx, if_pos (h.trans hx)]
    exact h
  · rw [if_neg hx]
    rcases hx' with rfl | hx'
    · rw [if_pos kurusEsigi_pos.le]
      exact remainder_nonneg kurusEsigi_pos _
    · rw [if_neg hx'.not_ge]
      exact remainder_mono kurusEsigi_pos (sub_baseMin_mono hd h)

theorem remainder_acik (x : ℚ) : remainder kurusEsigi x = 0 ∨ kurusEsigi ≤ remainder kurusEsigi x := by
  rcases remainder_cases kurusEsigi x with ⟨_, he⟩ | ⟨hx, he⟩
  · exact .inl he
  · rw [he]
    exact .inr hx

theorem asgariKalan_acik (d : DebtItem) (hx : x = 0 ∨ kurusEsigi < x) :
    asgariKalan d x = 0 ∨ kurusEsigi ≤ asgariKalan d x := by
  unfold asgariKalan
  split
  · exact hx.imp_right le_of_lt
  · exact remainder_acik _

theorem ekstraKalan_acik (ekstra : ℚ) (hx : x = 0 ∨ kurusEsigi < x) :
    ekstraKalan ekstra x = 0 ∨ kurusEsigi ≤ ekstraKalan ekstra x := by
  unfold ekstraKalan
  split
  · exact hx.imp_right le_of_lt
  · split
    · exact hx.imp_right le_of_lt
    · exact remainder_acik _

theorem ekstraKalan_nonneg (ekstra : ℚ) (h0 : 0 ≤ x) : 0 ≤ ekstraKalan ekstra x := by
  unfold ekstraKalan
  split
  · exact h0
  · split
    · exact h0
    · exact remainder_nonneg kurusEsigi_pos _

theorem ekstraKalan_le (ekstra : ℚ) (h0 : 0 ≤ x) : ekstraKalan ekstra x ≤ x := by
  unfold ekstraKalan
  split
  · exact le_refl x
  · next he =>
    split
    · exact le_refl x
    · have hpos : 0 < ekstra := kurusEsigi_pos.trans (not_le.mp he)
      rcases remainder_cases kurusEsigi (x - ekstra) with ⟨_, hr⟩ | ⟨_, hr⟩
      · rwa [hr]
      · rw [hr]
        linarith

/-- More extra money leaves less of a smaller balance, and no less for the debts behind it. -/
theorem ekstraKalan_mono (hekstra : max ekstra kurusEsigi ≤ max ekstra' kurusEsigi)
    (hx' : x' = 0 ∨ kurusEsigi < x') (h : x' ≤ x) : ekstraKalan ekstra' x' ≤ ekstraKalan ekstra x ∧
      max (ekstra - (x - ekstraKalan ekstra x)) kurusEsigi ≤
        max (ekstra' - (x' - ekstraKalan ekstra' x')) kurusEsigi := by
  have h0 : 0 ≤ x' := hx'.elim (fun he => he.ge) (fun hlt => (kurusEsigi_pos.trans hlt).le)
  by_cases he' : ekstra' ≤ kurusEsigi
  · have he : ekstra ≤ kurusEsigi := by
      rw [max_eq_right he'] at hekstra
      exact (le_max_left _ _).trans hekstra
    simp only [ekstraKalan, if_pos he, if_pos he', sub_self, sub_zero]
    exact ⟨h, hekstra⟩
  · rcases hx' with rfl | hx'
    · have hkalan : ekstraKalan ekstra' 0 = 0 := by
        rw [ekstraKalan, if_neg he', if_pos kurusEsigi_pos.le]
      have hle := ekstraKalan_le ekstra h
      rw [hkalan, sub_zero, sub_zero]
      refine ⟨ekstraKalan_nonneg ekstra h, le_trans ?_ hekstra⟩
      exact max_le_max (sub_le_self _ (sub_nonneg.mpr hle)) (le_refl _)
    · by_cases he : ekstra ≤ kurusEsigi
      · have hkalan : ekstraKalan ekstra x = x := if_pos he
        rw [hkalan, sub_self, sub_zero, max_eq_right he]
        exact ⟨(ekstraKalan_le ekstra' h0).trans h, le_max_right _ _⟩
      · have hle : ekstra ≤ ekstra' := by
          rw [max_eq_left (not_le.mp he).le, max_eq_left (not_le.mp he').le] at hekstra
          exact hekstra
        have hdiff : x' - ekstra' ≤ x - ekstra := sub_le_sub h hle
        have hkalan (e y : ℚ) (h1 : ¬ e ≤ kurusEsigi) (h2 : kurusEsigi < y) :
            ekstraKalan e y = y - settlement kurusEsigi e y := by
          rw [ekstraKalan, if_neg h1, if_neg h2.not_ge, sub_settlement kurusEsigi_pos]
        rw [hkalan ekstra x he (hx'.trans_le h), hkalan ekstra' x' he' hx', sub_sub_cancel, sub_sub_cancel]
        refine ⟨?_, leftover_mono kurusEsigi_pos hdiff⟩
        rw [sub_settlement kurusEsigi_pos, sub_settlement kurusEsigi_pos]
        exact remainder_mono kurusEsigi_pos hdiff

end Balances

section TwoRuns
variable {debts : List DebtItem} {s s' : Simulasyon}

/-- The run `s'` is ahead of `s` on every debt, and none of its debts is stuck at a hundredth. -/
structure OndeGider (s s' : Simulasyon) : Prop where
  bakiye : ∀ i, s'.state i ≤ s.state i
  faiz : s'.totalInterest ≤ s.totalInterest
  acik : ∀ i, s'.state i = 0 ∨ kurusEsigi < s'.state i

/-- As far as it counts, the run ahead has no less extra money at hand. -/
def EkstraYeter (s s' : Simulasyon) : Prop := max s.availableExtra kurusEsigi ≤ max s'.availableExtra kurusEsigi

/-- Ahead, unless a debt is stuck. -/
def OndeVeyaTakili (s s' : Simulasyon) : Prop :=
  (∃ i, s'.state i = kurusEsigi) ∨ OndeGider s s' ∧ EkstraYeter s s'

theorem takili_adim (hstep : BorcAdimi debts s s') (h : ∃ i, s.state i = kurusEsigi) :
    ∃ i, s'.state i = kurusEsigi := by
  obtain ⟨i, hi⟩ := h
  exact ⟨i, (adim_kapali hstep hi.le).1.trans hi⟩

/-- One balance changes in both runs. -/
theorem onde_update {w w' : Simulasyon} (h : OndeGider s s') (aid : ℕ) {x x' : ℚ}
    (hw : w.state = Function.update s.state aid x) (hw' : w'.state = Function.update s'.state aid x')
    (hx : x' ≤ x) (hacik : x' = 0 ∨ kurusEsigi < x') (hfaiz : w'.totalInterest ≤ w.totalInterest) :
    OndeGider w w' where
  bakiye i := by
    rw [hw, hw', Function.update_apply, Function.update_apply]
    split
    · exact hx
    · exact h.bakiye i
  faiz := hfaiz
  acik i := by
    rw [hw', Function.update_apply]
    split
    · exact hacik
    · exact h.acik i

theorem OndeGider.nonneg (h : OndeGider s s') (i : ℕ) : 0 ≤ s'.state i := by
  rcases h.acik i with he | hlt
  · exact he.ge
  · exact (kurusEsigi_pos.trans hlt).le

theorem onde_faizTahakkuk {d : DebtItem} (hrate : 0 ≤ d.interestRateMonthly) (h : OndeGider s s') :
    OndeGider (faizTahakkuk s d) (faizTahakkuk s' d) := by
  obtain ⟨hmono, hfaiz⟩ := faizli_mono hrate (h.nonneg d.accountId) (h.bakiye d.accountId)
  apply onde_update h d.accountId (faizTahakkuk_state s d) (faizTahakkuk_state s' d) hmono
    (faizli_acik hrate (h.acik d.accountId))
  rw [faizTahakkuk_totalInterest, faizTahakkuk_totalInterest]
  exact add_le_add h.faiz hfaiz

/-- A payment in both runs, after which the debt may be stuck. -/
theorem ondeVeyaTakili_update {w w' : Simulasyon} (h : OndeGider s s') (aid : ℕ) {x x' : ℚ}
    (hw : w.state = Function.update s.state aid x) (hw' : w'.state = Function.update s'.state aid x')
    (hx : x' ≤ x) (hacik : x' = 0 ∨ kurusEsigi ≤ x') (hfaiz : w'.totalInterest ≤ w.totalInterest)
    (hekstra : EkstraYeter w w') : OndeVeyaTakili w w' := by
  rcases hacik with hzero | hle
  · exact .inr ⟨onde_update h aid hw hw' hx (.inl hzero) hfaiz, hekstra⟩
  · rcases hle.eq_or_lt with he | hlt
    · refine .inl ⟨aid, ?_⟩
      rw [hw', Function.update_self]
      exact he.symm
    · exact .inr ⟨onde_update h aid hw hw' hx (.inr hlt) hfaiz, hekstra⟩

theorem onde_asgariOde (hgec : ∀ d ∈ debts, GecerliBorc d) (aid : ℕ) (h : OndeGider s s')
    (hekstra : EkstraYeter s s') : OndeVeyaTakili (asgariOde debts s aid) (asgariOde debts s' aid) := by
  cases hd : debtById debts aid with
  | none =>
    simp only [asgariOde, hd]
    exact .inr ⟨h, hekstra⟩
  | some d =>
    obtain ⟨hstate, hinterest, hextra⟩ := asgariOde_spec hd s
    obtain ⟨hstate', hinterest', hextra'⟩ := asgariOde_spec hd s'
    apply ondeVeyaTakili_update h aid hstate hstate'
      (asgariKalan_mono (hgec d (debtById_mem hd).1) (h.acik aid) (h.bakiye aid)) (asgariKalan_acik d (h.acik aid))
    · rw [hinterest, hinterest']
      exact h.faiz
    · unfold EkstraYeter
      rw [hextra, hextra']
      exact hekstra

theorem onde_ekstraOde (aid : ℕ) (h : OndeGider s s') (hekstra : EkstraYeter s s') :
    OndeVeyaTakili (ekstraOde s aid) (ekstraOde s' aid) := by
  obtain ⟨hstate, hinterest, hextra⟩ := ekstraOde_spec s aid
  obtain ⟨hstate', hinterest', hextra'⟩ := ekstraOde_spec s' aid
  obtain ⟨hmono, hleft⟩ := ekstraKalan_mono hekstra (h.acik aid) (h.bakiye aid)
  apply ondeVeyaTakili_update h aid hstate hstate' hmono (ekstraKalan_acik _ (h.acik aid))
  · rw [hinterest, hinterest']
    exact h.faiz
  · unfold EkstraYeter
    rw [hextra, hextra']
    exact hleft

private theorem ondeVeyaTakili_foldl (debts : List DebtItem) {f : Simulasyon → ℕ → Simulasyon} (order : List ℕ)
    (hadim : ∀ w aid, BorcAdimi debts w (f w aid))
    (honde : ∀ w w' aid, OndeGider w w' → EkstraYeter w w' → OndeVeyaTakili (f w aid) (f w' aid))
    (h : OndeVeyaTakili s s') : OndeVeyaTakili (order.foldl f s) (order.foldl f s') := by
  apply List.foldl_rel h
  intro aid _ w w' h
  rcases h with h | ⟨h, hekstra⟩
  · exact .inl (takili_adim (hadim w' aid) h)
  · exact honde w w' aid h hekstra

/-- Over a month the run ahead stays ahead, unless a debt of it gets stuck. -/
theorem onde_aySonu (hgec : ∀ d ∈ debts, GecerliBorc d) (order : List ℕ) (h : OndeGider s s')
    (hextra : s.extraMonthly ≤ s'.extraMonthly) : OndeVeyaTakili (aySonu debts order s) (aySonu debts order s') := by
  have hrate (d : DebtItem) (hd : d ∈ debts) := (hgec d hd).interestRateMonthly
  have hsabit (w : Simulasyon) : (debts.foldl faizTahakkuk w.ayAc).extraMonthly = w.extraMonthly :=
    (adimlar_sabit (foldl_adimlar debts w.ayAc
      (fun v d hd => (faizTahakkuk_adim v (hrate d hd) : BorcAdimi debts v (faizTahakkuk v d))))).2.2
  have hac : OndeGider s.ayAc s'.ayAc := ⟨h.bakiye, h.faiz, h.acik⟩
  have hfaiz : OndeGider (debts.foldl faizTahakkuk s.ayAc) (debts.foldl faizTahakkuk s'.ayAc) :=
    List.foldl_rel hac (fun d hd w w' h => onde_faizTahakkuk (hrate d hd) h)
  have hode : OndeVeyaTakili
      { debts.foldl faizTahakkuk s.ayAc with
        availableExtra := (debts.foldl faizTahakkuk s.ayAc).extraMonthly }
      { debts.foldl faizTahakkuk s'.ayAc with
        availableExtra := (debts.foldl faizTahakkuk s'.ayAc).extraMonthly } := by
    refine .inr ⟨⟨hfaiz.bakiye, hfaiz.faiz, hfaiz.acik⟩, max_le_max ?_ (le_refl _)⟩
    change (debts.foldl faizTahakkuk s.ayAc).extraMonthly ≤ (debts.foldl faizTahakkuk s'.ayAc).extraMonthly
    rw [hsabit, hsabit]
    exact hextra
  have hasgari := ondeVeyaTakili_foldl debts order (asgariOde_adim debts)
    (fun w w' aid h hekstra => onde_asgariOde hgec aid h hekstra) hode
  exact ondeVeyaTakili_foldl debts order ekstraOde_adim
    (fun w w' aid h hekstra => onde_ekstraOde aid h hekstra) hasgari

end TwoRuns

section Extension
variable {debts : List DebtItem} {s w : Simulasyon}

/-- What the months behind `s` cannot take back. -/
structure Uzanti (s w : Simulasyon) : Prop where
  ay : s.month ≤ w.month
  faiz : s.totalInterest ≤ w.totalInterest
  gecmis : ∀ m ∈ s.schedule, m ∈ w.schedule
  payoff : ∀ i, w.debtPayoffMonths i = s.debtPayoffMonths i ∨
    s.debtPayoffMonths i = none ∧ ∃ k, s.month < k ∧ w.debtPayoffMonths i = some k

theorem adimlar_totalInterest (hsteps : Relation.ReflTransGen (BorcAdimi debts) s w) :
    s.totalInterest ≤ w.totalInterest := by
  induction hsteps with
  | refl => exact le_refl _
  | tail _ hstep ih =>
    refine ih.trans ?_
    cases hstep with
    | faiz aid x _ hx => exact le_add_of_nonneg_right hx
    | odeme aid pay asgariler ekstra _ _ _ => exact (ode_totalInterest _ aid pay).1.ge
    | _ => exact le_refl _

theorem uzanti_ayIsle (hrate : ∀ d ∈ debts, 0 ≤ d.interestRateMonthly) (order : List ℕ) (h : Uzanti s w) :
    Uzanti s (ayIsle debts order w) := by
  have hsteps := aySonu_adimlar hrate order w
  constructor
  case ay =>
    rw [ayIsle_month hrate]
    exact h.ay.trans (Nat.le_succ _)
  case faiz =>
    have hfaiz := adimlar_totalInterest hsteps
    exact h.faiz.trans hfaiz
  case gecmis =>
    intro m hm
    change m ∈ (aySonu debts order w).schedule ++ _
    apply List.mem_append_left
    rw [(adimlar_sabit hsteps).2.1]
    exact h.gecmis m hm
  case payoff =>
    intro i
    change (aySonu debts order w).debtPayoffMonths i = _ ∨ _ ∧ ∃ k, _ ∧ (aySonu debts order w).debtPayoffMonths i = _
    rcases adimlar_payoff hsteps i with he | ⟨hnone, hsome⟩
    · rw [he]
      exact h.payoff i
    · rcases h.payoff i with he | ⟨_, k, _, hk⟩
      · exact .inr ⟨he ▸ hnone, _, Nat.lt_succ_of_le h.ay, hsome⟩
      · rw [show w.debtPayoffMonths i = none from hnone] at hk
        cases hk

theorem uzanti_ayDongusu (hrate : ∀ d ∈ debts, 0 ≤ d.interestRateMonthly) (order : List ℕ) (kalan : ℕ)
    (s : Simulasyon) : Uzanti s (ayDongusu debts order kalan s) :=
  ayDongusu_induction (fun _ hw => uzanti_ayIsle hrate order hw) kalan s
    ⟨le_refl _, le_refl _, fun _ hm => hm, fun _ => .inl rfl⟩

/-- A debt of a hundredth or less is never paid off. -/
theorem kapali_ayDongusu (hrate : ∀ d ∈ debts, 0 ≤ d.interestRateMonthly) (order : List ℕ) (kalan : ℕ) {i : ℕ}
    (hi : s.state i ≤ kurusEsigi) (hp : s.debtPayoffMonths i = none) :
    (ayDongusu debts order kalan s).debtPayoffMonths i = none := by
  refine (ayDongusu_induction (P := fun w => w.state i ≤ kurusEsigi ∧ w.debtPayoffMonths i = none)
    (fun w hw => ?_) kalan s ⟨hi, hp⟩).2
  obtain ⟨hstate, _, hpayoff⟩ := adimlar_kapali (aySonu_adimlar hrate order w) hw.1
  exact ⟨hstate.le.trans hw.1, hpayoff.trans hw.2⟩

end Extension

/-- Two runs that have done the same number of months, one of them ahead. -/
structure AyBasiOnde (debts : List DebtItem) (extra extra' : ℚ) (s s' : Simulasyon) : Prop where
  devir : DevirUyumu debts extra s
  devir' : DevirUyumu debts extra' s'
  ay : s'.month = s.month
  onde : OndeGider s s'
  payoff : ∀ d ∈ debts, ∀ k, s.debtPayoffMonths d.accountId = some k →
    ∃ k' ≤ k, s'.debtPayoffMonths d.accountId = some k'

section Race
variable {debts : List DebtItem} {extra extra' : ℚ} {s s' : Simulasyon}

theorem serbestKalan_uygun (hids : (debts.map DebtItem.accountId).Nodup) (hgec : ∀ d ∈ debts, GecerliBorc d)
    (h : AsgariUygun debts s) {d : DebtItem} (hd : d ∈ debts) :
    if d.accountType = .creditCard then 50 ≤ serbestKalan debts s d.accountId
    else serbestKalan debts s d.accountId = d.minPayment := by
  have hfind := debtById_of_mem hids hd
  unfold serbestKalan
  cases hb : s.lastBaseMin d.accountId with
  | some b => exact h _ d b hfind hb
  | none =>
    rw [hfind]
    split
    · next hcard => exact (hgec d hd).cardMinPayment hcard
    · rfl

/-- With every freed card minimum at the floor, the run ahead has no less money for a month. -/
theorem extraMonthly_le (hids : (debts.map DebtItem.accountId).Nodup) (hgec : ∀ d ∈ debts, GecerliBorc d)
    (hextra : extra ≤ extra') (h : AyBasiOnde debts extra extra' s s')
    (hkart : ∀ d ∈ debts, d.accountType = .creditCard → (s.debtPayoffMonths d.accountId).isSome →
      serbestKalan debts s d.accountId ≤ 50) : s.extraMonthly ≤ s'.extraMonthly := by
  rw [h.devir.devir, h.devir'.devir]
  refine add_le_add hextra (List.sum_le_sum (fun d hd => ?_))
  have hs := serbestKalan_uygun hids hgec h.devir.asgari hd
  have hs' := serbestKalan_uygun hids hgec h.devir'.asgari hd
  split
  · next hp =>
    obtain ⟨k, hk⟩ := Option.isSome_iff_exists.mp hp
    obtain ⟨k', _, hk'⟩ := h.payoff d hd k hk
    rw [hk', Option.isSome_some, if_pos rfl]
    split at hs
    · next hcard =>
      rw [if_pos hcard] at hs'
      exact (hkart d hd hcard hp).trans hs'
    · next hcard =>
      rw [if_neg hcard] at hs'
      exact (hs.trans hs'.symm).le
  · split
    · split at hs'
      · exact le_trans (by norm_num) hs'
      · exact hs' ▸ (hgec d hd).minPayment
    · exact le_refl 0

theorem ayBasiOnde_ayIsle (hids : (debts.map DebtItem.accountId).Nodup) (hgec : ∀ d ∈ debts, GecerliBorc d)
    (order : List ℕ) (h : AyBasiOnde debts extra extra' s s')
    (honde : OndeGider (aySonu debts order s) (aySonu debts order s')) :
    AyBasiOnde debts extra extra' (ayIsle debts order s) (ayIsle debts order s') := by
  have hrate (d : DebtItem) (hd : d ∈ debts) := (hgec d hd).interestRateMonthly
  have hsteps' := aySonu_adimlar hrate order s'
  constructor
  case devir => exact devirUyumu_ayIsle hids hgec order h.devir
  case devir' => exact devirUyumu_ayIsle hids hgec order h.devir'
  case ay => rw [ayIsle_month hrate, ayIsle_month hrate, h.ay]
  case onde => exact ⟨honde.bakiye, honde.faiz, honde.acik⟩
  case payoff =>
    intro d hd k hk
    change (aySonu debts order s).debtPayoffMonths d.accountId = some k at hk
    change ∃ k' ≤ k, (aySonu debts order s').debtPayoffMonths d.accountId = some k'
    have hson := muhasebe_aySonu h.devir.muhasebe hids hrate order
    have hson' := muhasebe_aySonu h.devir'.muhasebe hids hrate order
    rcases adimlar_payoff (aySonu_adimlar hrate order s) d.accountId with he | ⟨_, hsome⟩
    · -- paid off before this month, in both runs
      obtain ⟨k', hle, hk'⟩ := h.payoff d hd k (he.symm.trans hk)
      refine ⟨k', hle, ?_⟩
      rcases adimlar_payoff hsteps' d.accountId with he' | ⟨hnone', _⟩
      · exact he'.trans hk'
      · rw [show s'.debtPayoffMonths d.accountId = none from hnone'] at hk'
        cases hk'
    · -- paid off in this month
      have hzero : (aySonu debts order s).state d.accountId = 0 := (hson.kapanis d hd).mpr (by rw [hk]; rfl)
      have hzero' : (aySonu debts order s').state d.accountId = 0 :=
        le_antisymm (hzero ▸ honde.bakiye d.accountId) (honde.nonneg d.accountId)
      obtain ⟨k', hk'⟩ := Option.isSome_iff_exists.mp ((hson'.kapanis d hd).mp hzero')
      have hle := (hson'.aySinir _ k' hk').2
      rw [(adimlar_sabit hsteps').1] at hle
      rw [hsome] at hk
      have hk : s.month + 1 = k := Option.some.inj hk
      have hle : k' ≤ s'.month + 1 := hle
      exact ⟨k', by rw [h.ay] at hle; omega, hk'⟩

theorem OndeGider.borcVar (h : OndeGider s s') (hb : s'.borcVar debts = true) : s.borcVar debts = true := by
  obtain ⟨d, hd, hlt⟩ := List.any_eq_true.mp hb
  have hlt : kurusEsigi < s'.state d.accountId := of_decide_eq_true hlt
  exact List.any_eq_true.mpr ⟨d, hd, decide_eq_true (hlt.trans_le (h.bakiye d.accountId))⟩

/-- A run that has stopped without a debt stuck has paid every debt off. -/
theorem odenmis_of_not_borcVar (h : AyBasiOnde debts extra extra' s s') (hb : s'.borcVar debts = false) {d : DebtItem}
    (hd : d ∈ debts) : ∃ k ≤ s.month, s'.debtPayoffMonths d.accountId = some k := by
  have hle : ¬ kurusEsigi < s'.state d.accountId := fun hlt =>
    Bool.false_ne_true (hb.symm.trans (List.any_eq_true.mpr ⟨d, hd, decide_eq_true hlt⟩))
  have hzero : s'.state d.accountId = 0 := (h.onde.acik d.accountId).resolve_right hle
  obtain ⟨k, hk⟩ := Option.isSome_iff_exists.mp ((h.devir'.muhasebe.kapanis d hd).mp hzero)
  exact ⟨k, h.ay ▸ (h.devir'.muhasebe.aySinir _ k hk).2, hk⟩

/-- The cards that a finished run pays off before its last month free the floor at most. -/
def KartTabanda (debts : List DebtItem) (schedule : List MonthSnapshot) (months : ℕ) : Prop :=
  ∀ m ∈ schedule, m.monthIndex < months → ∀ d ∈ debts, d.accountType = .creditCard →
    d.accountId ∈ m.payoffEvents → m.paidThisMonth d.accountId * d.minPaymentRatio ≤ 50

/-- No month ends with a debt stuck at a hundredth. -/
def ArtikYok (debts : List DebtItem) (schedule : List MonthSnapshot) : Prop :=
  ∀ m ∈ schedule, ∀ d ∈ debts, m.debtBalances d.accountId ≠ kurusEsigi

theorem serbestKalan_le_taban (h : DevirUyumu debts extra s)
    {w : Simulasyon} (hw : Uzanti s w) (hay : s.month < w.month) (hkart : KartTabanda debts w.schedule w.month)
    {d : DebtItem} (hd : d ∈ debts) (hcard : d.accountType = .creditCard)
    (hp : (s.debtPayoffMonths d.accountId).isSome) : serbestKalan debts s d.accountId ≤ 50 := by
  obtain ⟨k, hk⟩ := Option.isSome_iff_exists.mp hp
  have hle := h.muhasebe.aySinir _ k hk
  obtain ⟨m, hm, hindex⟩ : ∃ m ∈ s.schedule, m.monthIndex = k := by
    have : k ∈ s.schedule.map MonthSnapshot.monthIndex := by
      rw [h.muhasebe.gecmisAy, List.mem_range'_1]
      omega
    exact List.mem_map.mp this
  have hevent : d.accountId ∈ m.payoffEvents := ((h.muhasebe.gecmis m hm).olay _).mpr (hindex ▸ hk)
  refine (h.odenen m hm d hd hevent).trans ?_
  rw [DebtItem.baseMin, if_pos hcard]
  exact max_le (hkart m (hw.gecmis m hm) (by omega) d hd hcard hevent) (le_refl 50)

/-- The race over the months that are left. -/
theorem onde_ayDongusu (hids : (debts.map DebtItem.accountId).Nodup) (hgec : ∀ d ∈ debts, GecerliBorc d)
    (order : List ℕ) (hextra : extra ≤ extra') : ∀ (kalan : ℕ) (s s' : Simulasyon),
    AyBasiOnde debts extra extra' s s' →
    (0 < kalan → s.borcVar debts = true → s.extraMonthly ≤ s'.extraMonthly) →
    KartTabanda debts (ayDongusu debts order kalan s).schedule (ayDongusu debts order kalan s).month →
    ArtikYok debts (ayDongusu debts order kalan s').schedule →
    (∀ d ∈ debts, ∀ k, (ayDongusu debts order kalan s).debtPayoffMonths d.accountId = some k →
      ∃ k' ≤ k, (ayDongusu debts order kalan s').debtPayoffMonths d.accountId = some k') ∧
      (ayDongusu debts order kalan s').totalInterest ≤ (ayDongusu debts order kalan s).totalInterest := by
  have hrate (d : DebtItem) (hd : d ∈ debts) := (hgec d hd).interestRateMonthly
  intro kalan
  induction kalan with
  | zero => exact fun s s' h _ _ _ => ⟨h.payoff, h.onde.faiz⟩
  | succ kalan ih =>
    intro s s' h hmoney hkart hartik
    cases hb' : s'.borcVar debts with
    | false =>
      have hstop : ayDongusu debts order (kalan + 1) s' = s' := by
        rw [ayDongusu, if_neg (by rw [hb']; exact Bool.false_ne_true)]
      rw [hstop]
      have huz := uzanti_ayDongusu hrate order (kalan + 1) s
      refine ⟨fun d hd k hk => ?_, h.onde.faiz.trans huz.faiz⟩
      rcases huz.payoff d.accountId with he | ⟨_, k₂, hlt, hk₂⟩
      · exact h.payoff d hd k (he.symm.trans hk)
      · obtain ⟨k', hle, hk'⟩ := odenmis_of_not_borcVar h hb' hd
        rw [hk₂] at hk
        have : k₂ = k := Option.some.inj hk
        exact ⟨k', by omega, hk'⟩
    | true =>
      have hb := h.onde.borcVar hb'
      have hstep : ayDongusu debts order (kalan + 1) s = ayDongusu debts order kalan (ayIsle debts order s) := by
        rw [ayDongusu, if_pos hb]
      have hstep' : ayDongusu debts order (kalan + 1) s' = ayDongusu debts order kalan (ayIsle debts order s') := by
        rw [ayDongusu, if_pos hb']
      rw [hstep] at hkart ⊢
      rw [hstep'] at hartik ⊢
      have honde : OndeGider (aySonu debts order s) (aySonu debts order s') := by
        rcases onde_aySonu hgec order h.onde (hmoney (Nat.succ_pos _) hb) with ⟨i, hi⟩ | ⟨honde, _⟩
        · exfalso
          have hson' := muhasebe_aySonu h.devir'.muhasebe hids hrate order
          have hmem : i ∈ debts.map DebtItem.accountId := by
            by_contra hn
            exact kurusEsigi_pos.ne' (hi.symm.trans (hson'.yabanci i hn))
          obtain ⟨d, hd, rfl⟩ := List.mem_map.mp hmem
          have huz := uzanti_ayDongusu hrate order kalan (ayIsle debts order s')
          exact hartik _ (huz.gecmis _ (List.mem_append_right _ (List.mem_singleton_self _))) d hd hi
        · exact honde
      have hnext := ayBasiOnde_ayIsle hids hgec order h honde
      refine ih _ _ hnext (fun hkalan hbnext => ?_) hkart hartik
      apply extraMonthly_le hids hgec hextra hnext
      intro d hd hcard hp
      -- another month follows, so that this one is not the last
      obtain ⟨kalan, rfl⟩ := Nat.exists_eq_succ_of_ne_zero hkalan.ne'
      have huz := uzanti_ayDongusu hrate order kalan.succ (ayIsle debts order s)
      have hlater := (uzanti_ayDongusu hrate order kalan (ayIsle debts order (ayIsle debts order s))).ay
      rw [ayIsle_month hrate] at hlater
      have hay : (ayIsle debts order s).month < (ayDongusu debts order kalan.succ (ayIsle debts order s)).month := by
        rw [ayDongusu, if_pos hbnext]
        exact hlater
      exact serbestKalan_le_taban hnext.devir huz hay hkart hd hcard hp

end Race

/-- More money beyond the minimums pays every debt off no later and for no more interest, where the
poorer run, which pays everything off, frees no card minimum above the floor before its last month,
and no debt of the richer run is stuck at a hundredth. -/
theorem more_extra_never_hurts (debts : List DebtItem) (priorityOrder : List ℕ) {extra extra' : ℚ} (today : Date)
    (hids : (debts.map DebtItem.accountId).Nodup) (hgec : ∀ d ∈ debts, GecerliBorc d) (hextra : extra ≤ extra')
    (hpaid : ∀ d ∈ debts, ((simulate debts priorityOrder extra today).debtPayoffMonths d.accountId).isSome)
    (hkart : KartTabanda debts (simulate debts priorityOrder extra today).schedule
      (simulate debts priorityOrder extra today).monthsToFreedom)
    (hartik : ArtikYok debts (simulate debts priorityOrder extra' today).schedule) :
    (∀ d ∈ debts, ∀ k, (simulate debts priorityOrder extra today).debtPayoffMonths d.accountId = some k →
      ∃ k' ≤ k, (simulate debts priorityOrder extra' today).debtPayoffMonths d.accountId = some k') ∧
      (simulate debts priorityOrder extra' today).totalInterestPaid ≤
        (simulate debts priorityOrder extra today).totalInterestPaid := by
  have hrate (d : DebtItem) (hd : d ∈ debts) := (hgec d hd).interestRateMonthly
  by_cases hnil : debts = []
  · subst hnil
    refine ⟨fun d hd => (List.not_mem_nil hd).elim, ?_⟩
    rw [simulate, simulate, if_pos rfl, if_pos rfl]
  · simp only [simulate, if_neg hnil] at hpaid hkart hartik ⊢
    have hacik (i : ℕ) : (Simulasyon.baslangic debts extra').state i = 0 ∨
        kurusEsigi < (Simulasyon.baslangic debts extra').state i := by
      have hdevir := devirUyumu_baslangic hids hgec extra'
      by_cases hi : i ∈ debts.map DebtItem.accountId
      · obtain ⟨d, hd, rfl⟩ := List.mem_map.mp hi
        refine .inr (not_le.mp (fun hle => ?_))
        have hnone := kapali_ayDongusu hrate priorityOrder maxMonths (s := .baslangic debts extra) hle rfl
        have := hpaid d hd
        rw [hnone] at this
        cases this
      · exact .inl (hdevir.muhasebe.yabanci i hi)
    have hstart : AyBasiOnde debts extra extra' (.baslangic debts extra) (.baslangic debts extra') :=
      ⟨devirUyumu_baslangic hids hgec extra, devirUyumu_baslangic hids hgec extra', rfl,
        ⟨fun _ => le_refl _, le_refl _, hacik⟩, fun d _ k hk => by cases hk⟩
    have hrun := onde_ayDongusu hids hgec priorityOrder hextra maxMonths _ _ hstart
    exact hrun (fun _ _ => hextra) hkart hartik

/-- The card is paid off on its floor, two months before the loan. -/
theorem more_extra_never_hurts_two :
    let debts : List DebtItem := [⟨1, .creditCard, 60, 4, 50, 1 / 4⟩, ⟨2, .loan, 300, 2, 100, 1 / 4⟩]
    let today : Date := (Date.ofYmd? 2026 5 15).get rfl
    (∀ d ∈ debts, ∀ k, (simulate debts [1, 2] 0 today).debtPayoffMonths d.accountId = some k →
      ∃ k' ≤ k, (simulate debts [1, 2] 50 today).debtPayoffMonths d.accountId = some k') ∧
      (simulate debts [1, 2] 50 today).totalInterestPaid ≤ (simulate debts [1, 2] 0 today).totalInterestPaid := by
  intro debts today
  have hgec : ∀ d ∈ debts, GecerliBorc d := by
    intro d hd
    rcases List.mem_cons.mp hd with rfl | hd
    · constructor <;> norm_num
    · rw [List.mem_singleton.mp hd]
      constructor <;> norm_num
  have hkart : KartTabanda debts (simulate debts [1, 2] 0 today).schedule
      (simulate debts [1, 2] 0 today).monthsToFreedom := by
    unfold KartTabanda
    decide +kernel
  have hartik : ArtikYok debts (simulate debts [1, 2] 50 today).schedule := by
    unfold ArtikYok
    decide +kernel
  exact more_extra_never_hurts debts [1, 2] today (by decide) hgec (by norm_num) (by decide +kernel) hkart hartik

/-- A card paid off from a high balance frees its high minimum for the months behind it; with more
money beforehand, it frees a lower one, and the loan takes a month longer. -/
theorem more_extra_paid_off_later :
    let debts : List DebtItem := [⟨1, .creditCard, 1000, 100, 900, 9 / 10⟩, ⟨2, .loan, 680, 0, 10, 1 / 4⟩]
    let today : Date := (Date.ofYmd? 2026 5 15).get rfl
    let r := simulate debts [1, 2] 100 today
    let r' := simulate debts [1, 2] 110 today
    (∀ d ∈ debts, GecerliBorc d) ∧ (∀ d ∈ debts, (r.debtPayoffMonths d.accountId).isSome) ∧
      r.debtPayoffMonths 2 = some 4 ∧ r'.debtPayoffMonths 2 = some 5 := by
  refine ⟨?_, by decide +kernel, by decide +kernel, by decide +kernel⟩
  intro d hd
  rcases List.mem_cons.mp hd with rfl | hd
  · constructor <;> norm_num
  · rw [List.mem_singleton.mp hd]
    exact ⟨by norm_num, by norm_num, by norm_num, fun hcard => (by cases hcard), by norm_num⟩

end FinancialOs.Guarantees
