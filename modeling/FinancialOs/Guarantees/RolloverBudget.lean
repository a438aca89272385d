import FinancialOs.Guarantees.AvalancheInterest

/-! The money that paid-off debts free for the months behind them, against the minimum payments these debts were
paid. -/
namespace FinancialOs.Guarantees
open Library Store Rules

section Passes
variable {debts : List DebtItem} {s : Simulasyon}

/-- A pass over the minimum payments leaves a debt that is not in it. -/
theorem asgariOde_baska (debts : List DebtItem) {aid i : ℕ} (hne : i ≠ aid) (w : Simulasyon) :
    (asgariOde debts w aid).state i = w.state i ∧ (asgariOde debts w aid).lastBaseMin i = w.lastBaseMin i := by
  unfold asgariOde
  split
  · exact ⟨rfl, rfl⟩
  · split
    · exact ⟨rfl, rfl⟩
    · rw [ode_state (settlement_le _ _), ode_lastBaseMin]
      exact ⟨Function.update_of_ne hne _ _, Function.update_of_ne hne _ _⟩

/-- What is paid of a balance in a pass, the balance loses. -/
theorem asgariOde_odenen (w : Simulasyon) (aid i : ℕ) :
    (asgariOde debts w aid).snapshotPaid i + (asgariOde debts w aid).state i = w.snapshotPaid i + w.state i := by
  unfold asgariOde
  split
  · rfl
  · split
    · rfl
    · rw [ode_state (settlement_le _ _), ode_snapshotPaid, Function.update_apply, Function.update_apply]
      split
      · next hid =>
        rw [hid]
        ring
      · rfl

theorem ekstraOde_odenen (w : Simulasyon) (aid i : ℕ) :
    (ekstraOde w aid).snapshotPaid i + (ekstraOde w aid).state i = w.snapshotPaid i + w.state i := by
  unfold ekstraOde
  split
  · rfl
  · split
    · rfl
    · rw [ode_state (settlement_le _ _), ode_snapshotPaid, Function.update_apply, Function.update_apply]
      split
      · next hid =>
        rw [hid]
        ring
      · rfl

theorem ekstraOde_lastBaseMin (w : Simulasyon) (aid : ℕ) : (ekstraOde w aid).lastBaseMin = w.lastBaseMin := by
  unfold ekstraOde
  split
  · rfl
  · split
    · rfl
    · exact ode_lastBaseMin _ _ _

theorem foldl_asgari_baska (debts : List DebtItem) {order : List ℕ} {i : ℕ} (hi : i ∉ order) (w : Simulasyon) :
    (order.foldl (asgariOde debts) w).state i = w.state i ∧
      (order.foldl (asgariOde debts) w).lastBaseMin i = w.lastBaseMin i := by
  refine List.foldlRecOn order _ (motive := fun v : Simulasyon => v.state i = w.state i ∧
    v.lastBaseMin i = w.lastBaseMin i) ⟨rfl, rfl⟩ ?_
  rintro v ⟨hstate, hmin⟩ aid haid
  obtain ⟨hstate', hmin'⟩ := asgariOde_baska debts (fun he : i = aid => hi (he ▸ haid)) v
  exact ⟨hstate'.trans hstate, hmin'.trans hmin⟩

/-- The minimum a pass asks of an open debt, and what it leaves of it. -/
theorem foldl_asgari_acik {order : List ℕ} (horder : order.Nodup) {d : DebtItem}
    (hd : debtById debts d.accountId = some d) (hin : d.accountId ∈ order) {w : Simulasyon}
    (hacik : kurusEsigi < w.state d.accountId) :
    (order.foldl (asgariOde debts) w).state d.accountId = asgariKalan d (w.state d.accountId) ∧
      (order.foldl (asgariOde debts) w).lastBaseMin d.accountId = some (d.baseMin (w.state d.accountId)) := by
  induction order generalizing w with
  | nil => exact (List.not_mem_nil hin).elim
  | cons aid order ih =>
    obtain ⟨hnot, horder⟩ := List.nodup_cons.mp horder
    rw [List.foldl_cons]
    rcases List.mem_cons.mp hin with rfl | hin
    · obtain ⟨hstate, hmin⟩ := foldl_asgari_baska debts hnot (asgariOde debts w d.accountId)
      rw [hstate, hmin, (asgariOde_spec hd w).1, Function.update_self]
      refine ⟨rfl, ?_⟩
      simp only [asgariOde, hd, if_neg hacik.not_ge, ode_lastBaseMin, Function.update_self]
    · have hne : d.accountId ≠ aid := fun he => hnot (he ▸ hin)
      obtain ⟨hstate, hmin⟩ := asgariOde_baska debts hne w
      rw [← hstate] at hacik ⊢
      exact ih horder hin hacik

/-- A debt that is open behind the interest is asked a minimum, and paid it as far as it goes. -/
theorem le_sub_asgariKalan (d : DebtItem) {x : ℚ} (hx : kurusEsigi < x) :
    min (d.baseMin x) x ≤ x - asgariKalan d x := by
  rw [asgariKalan, if_neg hx.not_ge]
  rcases remainder_cases kurusEsigi (x - d.baseMin x) with ⟨_, he⟩ | ⟨_, he⟩
  · rw [he, sub_zero]
    exact min_le_right _ _
  · rw [he, sub_sub_cancel]
    exact min_le_left _ _

/-- What the extra money leaves at hand: a hundredth is overdrawn at most. -/
theorem ekstraOde_kalan {w : Simulasyon} (aid : ℕ) (h : -kurusEsigi ≤ w.availableExtra) :
    -kurusEsigi ≤ (ekstraOde w aid).availableExtra := by
  rw [(ekstraOde_spec w aid).2.2, ekstraKalan]
  split
  · rwa [sub_self, sub_zero]
  · split
    · rwa [sub_self, sub_zero]
    · rcases remainder_cases kurusEsigi (w.state aid - w.availableExtra) with ⟨hlt, he⟩ | ⟨_, he⟩
      · rw [he]
        linarith
      · rw [he, sub_sub_cancel, sub_self]
        exact neg_nonpos.mpr kurusEsigi_pos.le

/-- The extra money goes into the balances of the debts. -/
theorem ekstraOde_toplam (hids : (debts.map DebtItem.accountId).Nodup) {w : Simulasyon} (aid : ℕ)
    (hyabanci : ∀ i, i ∉ debts.map DebtItem.accountId → w.state i = 0) :
    toplamBorc debts (ekstraOde w aid).state - (ekstraOde w aid).availableExtra =
        toplamBorc debts w.state - w.availableExtra ∧
      ∀ i, i ∉ debts.map DebtItem.accountId → (ekstraOde w aid).state i = 0 := by
  obtain ⟨hstate, -, hkalan⟩ := ekstraOde_spec w aid
  rw [hstate, hkalan]
  by_cases hmem : aid ∈ debts.map DebtItem.accountId
  · rw [toplamBorc_update hids hmem]
    refine ⟨by ring, fun i hi => ?_⟩
    have hne : i ≠ aid := fun he => hi (he ▸ hmem)
    rw [Function.update_of_ne hne]
    exact hyabanci i hi
  · -- nothing is owed on an account that is no debt
    have hzero : ekstraKalan w.availableExtra (w.state aid) = w.state aid := by
      rw [ekstraKalan, hyabanci aid hmem, if_pos kurusEsigi_pos.le, ite_self]
    rw [hzero, Function.update_eq_self]
    exact ⟨by ring, hyabanci⟩

theorem foldl_ekstra_toplam (hids : (debts.map DebtItem.accountId).Nodup) (order : List ℕ) {w : Simulasyon}
    (hyabanci : ∀ i, i ∉ debts.map DebtItem.accountId → w.state i = 0) (hekstra : -kurusEsigi ≤ w.availableExtra) :
    toplamBorc debts (order.foldl ekstraOde w).state - (order.foldl ekstraOde w).availableExtra =
        toplamBorc debts w.state - w.availableExtra ∧
      -kurusEsigi ≤ (order.foldl ekstraOde w).availableExtra := by
  have hfold := List.foldlRecOn order ekstraOde (motive := fun v : Simulasyon =>
    (toplamBorc debts v.state - v.availableExtra = toplamBorc debts w.state - w.availableExtra ∧
      ∀ i, i ∉ debts.map DebtItem.accountId → v.state i = 0) ∧
    -kurusEsigi ≤ v.availableExtra) (b := w) ⟨⟨rfl, hyabanci⟩, hekstra⟩ ?_
  · exact ⟨hfold.1.1, hfold.2⟩
  · rintro v ⟨⟨htoplam, hyabanci⟩, hkalan⟩ aid _
    obtain ⟨htoplam', hyabanci'⟩ := ekstraOde_toplam hids aid hyabanci
    exact ⟨⟨htoplam'.trans htoplam, hyabanci'⟩, ekstraOde_kalan aid hkalan⟩

end Passes

/-- What a month pays a debt as its minimum. -/
def odenenAsgari (debts : List DebtItem) (order : List ℕ) (s : Simulasyon) (aid : ℕ) : ℚ :=
  (asgariSonu debts order s).snapshotPaid aid

section Month
variable {debts : List DebtItem} {order : List ℕ} {s : Simulasyon}

theorem faizSonu_snapshotPaid (i : ℕ) : (faizSonu debts s).snapshotPaid i = 0 := by
  refine List.foldlRecOn debts _ (motive := fun w : Simulasyon => w.snapshotPaid i = 0) rfl ?_
  intro w hw d _
  unfold faizTahakkuk
  split
  · exact hw
  · exact hw

/-- The minimum paid of a debt is what its balance loses by it. -/
theorem odenenAsgari_eq (i : ℕ) :
    odenenAsgari debts order s i = (faizSonu debts s).state i - (asgariSonu debts order s).state i := by
  have hsum : (asgariSonu debts order s).snapshotPaid i + (asgariSonu debts order s).state i =
      (faizSonu debts s).snapshotPaid i + (faizSonu debts s).state i := by
    refine List.foldlRecOn order _ (motive := fun w : Simulasyon =>
      w.snapshotPaid i + w.state i = (faizSonu debts s).snapshotPaid i + (faizSonu debts s).state i) rfl ?_
    intro w hw aid _
    exact (asgariOde_odenen w aid i).trans hw
  rw [faizSonu_snapshotPaid, zero_add] at hsum
  exact eq_sub_of_add_eq hsum

theorem aySonu_odenen (i : ℕ) : (aySonu debts order s).snapshotPaid i =
    odenenAsgari debts order s i + ((asgariSonu debts order s).state i - (aySonu debts order s).state i) := by
  have hsum : (aySonu debts order s).snapshotPaid i + (aySonu debts order s).state i =
      (asgariSonu debts order s).snapshotPaid i + (asgariSonu debts order s).state i := by
    refine List.foldlRecOn order _ (motive := fun w : Simulasyon => w.snapshotPaid i + w.state i =
      (asgariSonu debts order s).snapshotPaid i + (asgariSonu debts order s).state i) rfl ?_
    intro w hw aid _
    exact (ekstraOde_odenen w aid i).trans hw
  rw [odenenAsgari]
  linarith

theorem asgariSonu_adimlar (hrate : ∀ d ∈ debts, 0 ≤ d.interestRateMonthly) :
    Relation.ReflTransGen (BorcAdimi debts) s.ayAc (faizSonu debts s) ∧
      Relation.ReflTransGen (BorcAdimi debts) s.ayAc (asgariSonu debts order s) := by
  have hfaiz : Relation.ReflTransGen (BorcAdimi debts) s.ayAc (faizSonu debts s) :=
    foldl_adimlar debts s.ayAc fun w d hd => faizTahakkuk_adim w (hrate d hd)
  refine ⟨hfaiz, (hfaiz.tail (.hazirlik (faizSonu debts s).extraMonthly)).trans ?_⟩
  exact foldl_adimlar order _ fun w aid _ => asgariOde_adim debts w aid

theorem asgariSonu_ekstra (hrate : ∀ d ∈ debts, 0 ≤ d.interestRateMonthly) :
    (asgariSonu debts order s).availableExtra = s.extraMonthly := by
  refine List.foldlRecOn order _ (motive := fun w : Simulasyon => w.availableExtra = s.extraMonthly)
    (adimlar_sabit (@asgariSonu_adimlar debts order s hrate).1).2.2 ?_
  intro w hw aid _
  cases hd : debtById debts aid with
  | none => simpa only [asgariOde, hd] using hw
  | some d => exact (asgariOde_spec hd w).2.2.trans hw

/-- A debt at a hundredth or less is paid no minimum. -/
theorem odenenAsgari_kapali (hrate : ∀ d ∈ debts, 0 ≤ d.interestRateMonthly) {i : ℕ} (hi : s.state i ≤ kurusEsigi) :
    odenenAsgari debts order s i = 0 := by
  obtain ⟨hfaiz, hasgari⟩ := @asgariSonu_adimlar debts order s hrate
  rw [odenenAsgari_eq, (adimlar_kapali hfaiz hi).1, (adimlar_kapali hasgari hi).1, sub_self]

/-- A debt outside the order is not paid off. -/
theorem aySonu_sirasiz {i : ℕ} (hi : i ∉ order) : (aySonu debts order s).state i = (faizSonu debts s).state i := by
  have hasgari : (asgariSonu debts order s).state i = (faizSonu debts s).state i :=
    (foldl_asgari_baska debts hi _).1
  refine List.foldlRecOn order _ (motive := fun w : Simulasyon => w.state i = (faizSonu debts s).state i) hasgari ?_
  intro w hw aid haid
  have hne : i ≠ aid := fun he => hi (he ▸ haid)
  rw [(ekstraOde_spec w aid).1, Function.update_of_ne hne]
  exact hw

theorem le_faizli {d : DebtItem} (hrate : 0 ≤ d.interestRateMonthly) {x : ℚ} (hx : 0 ≤ x) : x ≤ faizli d x := by
  unfold faizli
  split
  · exact le_rfl
  · exact le_add_of_nonneg_right (mul_nonneg hx (div_nonneg hrate (by norm_num)))

/-- What a month asks of an open debt, and what it pays of that. -/
theorem asgari_acik (hids : (debts.map DebtItem.accountId).Nodup) (horder : order.Nodup) {d : DebtItem} (hd : d ∈ debts)
    (hrate : 0 ≤ d.interestRateMonthly) (hin : d.accountId ∈ order) (hacik : kurusEsigi < s.state d.accountId) :
    (aySonu debts order s).lastBaseMin d.accountId = some (d.baseMin (faizli d (s.state d.accountId))) ∧
      min (d.baseMin (faizli d (s.state d.accountId))) (faizli d (s.state d.accountId)) ≤
        odenenAsgari debts order s d.accountId := by
  have hfaiz := faizSonu_state (s := s) hids hd
  have hacik' : kurusEsigi < faizli d (s.state d.accountId) :=
    hacik.trans_le (le_faizli hrate (kurusEsigi_pos.trans hacik).le)
  obtain ⟨hstate, hmin⟩ : (asgariSonu debts order s).state d.accountId = asgariKalan d ((faizSonu debts s).state d.accountId) ∧
      (asgariSonu debts order s).lastBaseMin d.accountId = some (d.baseMin ((faizSonu debts s).state d.accountId)) :=
    foldl_asgari_acik horder (debtById_of_mem hids hd) hin (hfaiz ▸ hacik')
  rw [hfaiz] at hstate hmin
  constructor
  · refine List.foldlRecOn order _ (motive := fun w : Simulasyon =>
      w.lastBaseMin d.accountId = some (d.baseMin (faizli d (s.state d.accountId)))) hmin ?_
    intro w hw aid _
    rw [ekstraOde_lastBaseMin]
    exact hw
  · rw [odenenAsgari_eq, hfaiz, hstate]
    exact le_sub_asgariKalan d hacik'

end Month

/-- The least that is asked of a debt. -/
def asgariTaban (d : DebtItem) : ℚ := if d.accountType = .creditCard then 50 else d.minPayment

theorem asgariTaban_le (d : DebtItem) (x : ℚ) : asgariTaban d ≤ d.baseMin x := by
  unfold asgariTaban DebtItem.baseMin
  split
  · exact le_max_right _ _
  · exact le_rfl

/-- Beyond the least, no more is asked than is owed. -/
theorem baseMin_le {d : DebtItem} (hd : GecerliBorc d) {x : ℚ} (hx : 0 ≤ x) : d.baseMin x ≤ max (asgariTaban d) x := by
  unfold asgariTaban DebtItem.baseMin
  split
  · refine max_le (le_max_of_le_right ?_) (le_max_left _ _)
    exact mul_le_of_le_one_right hx hd.minPaymentRatio.2
  · exact le_max_left _ _

/-- The largest minimum that a debt was paid in some months. -/
def enBuyukAsgari (debts : List DebtItem) (order : List ℕ) (extra : ℚ) : ℕ → ℕ → ℚ
  | 0, _ => 0
  | k + 1, aid => max (enBuyukAsgari debts order extra k aid) (odenenAsgari debts order (ayBasi debts order extra k) aid)

/-- In its first month, no debt of the order is asked more than a hundredth beyond what is owed on it. -/
def IlkAsgariSigar (debts : List DebtItem) (order : List ℕ) : Prop :=
  ∀ d ∈ debts, d.accountId ∈ order → kurusEsigi < d.balance →
    d.baseMin (faizli d d.balance) ≤ faizli d d.balance + kurusEsigi

/-- What was freed before a month, against what was paid before it. -/
structure DevirButcesi (debts : List DebtItem) (order : List ℕ) (extra : ℚ) (k : ℕ) : Prop where
  uyum : DevirUyumu debts extra (ayBasi debts order extra k)
  taban : 0 < k → ∀ d ∈ debts, d.accountId ∈ order → kurusEsigi < (ayBasi debts order extra k).state d.accountId →
    asgariTaban d ≤ enBuyukAsgari debts order extra k d.accountId + kurusEsigi
  kapali : ∀ d ∈ debts, ((ayBasi debts order extra k).debtPayoffMonths d.accountId).isSome →
    serbestKalan debts (ayBasi debts order extra k) d.accountId ≤
      enBuyukAsgari debts order extra k d.accountId + kurusEsigi

section Run
variable {debts : List DebtItem} {order : List ℕ} {extra : ℚ} {k : ℕ}

theorem ayBasi_bakiye (hids : (debts.map DebtItem.accountId).Nodup) {d : DebtItem} (hd : d ∈ debts) :
    (ayBasi debts order extra 0).state d.accountId = d.balance := by
  change (Simulasyon.baslangic debts extra).state d.accountId = d.balance
  simp only [Simulasyon.baslangic, debtById_of_mem hids hd, Option.map_some, Option.getD_some]

/-- What a month asks of an open debt, it or an earlier one has paid. -/
theorem DevirButcesi.istenen (h : DevirButcesi debts order extra k) (hids : (debts.map DebtItem.accountId).Nodup)
    (hgec : ∀ d ∈ debts, GecerliBorc d) (horder : order.Nodup) (hilk : IlkAsgariSigar debts order) {d : DebtItem}
    (hd : d ∈ debts) (hin : d.accountId ∈ order)
    (hacik : kurusEsigi < (ayBasi debts order extra k).state d.accountId) :
    d.baseMin (faizli d ((ayBasi debts order extra k).state d.accountId)) ≤
      enBuyukAsgari debts order extra (k + 1) d.accountId + kurusEsigi := by
  obtain ⟨-, hode⟩ := asgari_acik hids horder hd (hgec d hd).interestRateMonthly hin hacik
  have hode := hode.trans (le_max_right (enBuyukAsgari debts order extra k d.accountId) _)
  set b := faizli d ((ayBasi debts order extra k).state d.accountId) with hb
  have hpos := kurusEsigi_pos
  rcases le_or_gt (d.baseMin b) b with hle | hlt
  · rw [min_eq_left hle] at hode
    exact hode.trans (le_add_of_nonneg_right hpos.le)
  · rw [min_eq_right hlt.le] at hode
    cases k with
    | zero =>
      have hilk := hilk d hd hin
      rw [← @ayBasi_bakiye debts order extra hids d hd, ← hb] at hilk
      exact (hilk hacik).trans (add_le_add_left hode _)
    | succ k =>
      -- only the least is asked beyond what is owed
      have hb0 : 0 ≤ b := hpos.le.trans (hacik.le.trans
        (le_faizli (hgec d hd).interestRateMonthly (hpos.trans hacik).le))
      have hle : d.baseMin b ≤ asgariTaban d := by
        rcases le_max_iff.mp (baseMin_le (hgec d hd) hb0) with hle | hle
        · exact hle
        · exact absurd hle hlt.not_ge
      exact hle.trans ((h.taban (Nat.succ_pos k) d hd hin hacik).trans (add_le_add_left (le_max_left _ _) _))

theorem devirButcesi_baslangic (hids : (debts.map DebtItem.accountId).Nodup) (hgec : ∀ d ∈ debts, GecerliBorc d) :
    DevirButcesi debts order extra 0 where
  uyum := devirUyumu_baslangic hids hgec extra
  taban h := absurd h (Nat.lt_irrefl 0)
  kapali _ _ h := by cases h

/-- A month keeps the budget. -/
theorem DevirButcesi.ay (h : DevirButcesi debts order extra k) (hids : (debts.map DebtItem.accountId).Nodup)
    (hgec : ∀ d ∈ debts, GecerliBorc d) (horder : order.Nodup) (hilk : IlkAsgariSigar debts order) :
    DevirButcesi debts order extra (k + 1) := by
  have hrate (d : DebtItem) (hd : d ∈ debts) := (hgec d hd).interestRateMonthly
  have hsteps := aySonu_adimlar hrate order (ayBasi debts order extra k)
  have hson := muhasebe_aySonu h.uyum.muhasebe hids hrate order
  have hdurur {i : ℕ} (hi : (ayBasi debts order extra k).state i ≤ kurusEsigi) :
      (aySonu debts order (ayBasi debts order extra k)).state i = (ayBasi debts order extra k).state i :=
    (adimlar_kapali hsteps hi).1
  rw [show k + 1 = k.succ from rfl]
  constructor
  case uyum =>
    rw [ayBasi_succ]
    exact devirUyumu_ayIsle hids hgec order h.uyum
  case taban =>
    intro _ d hd hin hacik
    rw [ayBasi_succ] at hacik
    have hacik : kurusEsigi < (ayBasi debts order extra k).state d.accountId := by
      by_contra hkapali
      have hkapali := not_lt.mp hkapali
      exact hkapali.not_gt ((hdurur hkapali) ▸ hacik)
    exact (asgariTaban_le d _).trans (h.istenen hids hgec horder hilk hd hin hacik)
  case kapali =>
    intro d hd hp
    rw [ayBasi_succ] at hp ⊢
    change ((aySonu debts order (ayBasi debts order extra k)).debtPayoffMonths d.accountId).isSome at hp
    change serbestKalan debts (aySonu debts order (ayBasi debts order extra k)) d.accountId ≤ _
    cases hbas : ((ayBasi debts order extra k).debtPayoffMonths d.accountId).isSome with
    | true =>
      rw [serbestKalan_aySonu hrate h.uyum.muhasebe order hd hbas]
      exact (h.kapali d hd hbas).trans (add_le_add_left (le_max_left _ _) _)
    | false =>
      -- paid off in this month, and so asked its minimum in it
      have hbitti := (hson.kapanis d hd).mpr hp
      have hborc : (ayBasi debts order extra k).state d.accountId ≠ 0 := fun hzero => by
        rw [(h.uyum.muhasebe.kapanis d hd).mp hzero] at hbas
        cases hbas
      have hacik : kurusEsigi < (ayBasi debts order extra k).state d.accountId := by
        by_contra hkapali
        exact hborc ((hdurur (not_lt.mp hkapali)).symm.trans hbitti)
      have hin : d.accountId ∈ order := by
        by_contra hnot
        rw [aySonu_sirasiz hnot, faizSonu_state hids hd] at hbitti
        have hpos := kurusEsigi_pos.trans hacik
        have hle := le_faizli (hrate d hd) hpos.le
        exact (hbitti ▸ hle).not_gt hpos
      rw [serbestKalan, (asgari_acik hids horder hd (hrate d hd) hin hacik).1]
      exact h.istenen hids hgec horder hilk hd hin hacik

private theorem sum_add_le {α : Type} {l : List α} {f g : α → ℚ} {c : ℚ} (h : ∀ a ∈ l, f a ≤ g a) {b : α} (hb : b ∈ l)
    (hbc : f b + c ≤ g b) : (l.map f).sum + c ≤ (l.map g).sum := by
  have hsplit : (l.map g).sum = (l.map f).sum + (l.map fun a => g a - f a).sum := by
    rw [← List.sum_map_add]
    simp only [add_sub_cancel]
  have hone : g b - f b ≤ (l.map fun a => g a - f a).sum :=
    List.single_le_sum (List.forall_mem_map.mpr fun a ha => sub_nonneg.mpr (h a ha)) _ (List.mem_map_of_mem hb)
  linarith

/-- What a month pays stays within what the debts were paid as minimums. -/
theorem DevirButcesi.odenen (h : DevirButcesi debts order extra k) (hids : (debts.map DebtItem.accountId).Nodup)
    (hgec : ∀ d ∈ debts, GecerliBorc d) (hextra : 0 ≤ extra) (hborc : (ayBasi debts order extra k).borcVar debts = true) :
    (debts.map fun d => (aySonu debts order (ayBasi debts order extra k)).snapshotPaid d.accountId).sum ≤
      extra + (debts.map fun d => enBuyukAsgari debts order extra (k + 1) d.accountId + kurusEsigi).sum := by
  have hrate (d : DebtItem) (hd : d ∈ debts) := (hgec d hd).interestRateMonthly
  set s := ayBasi debts order extra k with hs
  have hdevir : 0 ≤ devreden debts s := by
    refine List.sum_nonneg (List.forall_mem_map.mpr fun d hd => ?_)
    split
    · have huygun := serbestKalan_uygun hids hgec h.uyum.asgari hd
      split at huygun
      · exact le_trans (by norm_num) huygun
      · exact huygun ▸ (hgec d hd).minPayment
    · exact le_rfl
  have hmoney := h.uyum.devir
  have hekstra := @asgariSonu_ekstra debts order s hrate
  have hson := muhasebe_adimlar (muhasebe_ayAc h.uyum.muhasebe) hids (Nat.lt_succ_self _)
    (@asgariSonu_adimlar debts order s hrate).2
  obtain ⟨htoplam, hkalan⟩ := foldl_ekstra_toplam hids order hson.yabanci (by
    rw [hekstra, hmoney]
    linarith [kurusEsigi_pos])
  change toplamBorc debts (aySonu debts order s).state - (aySonu debts order s).availableExtra = _ at htoplam
  change -kurusEsigi ≤ (aySonu debts order s).availableExtra at hkalan
  have hodenen : (debts.map fun d => (aySonu debts order s).snapshotPaid d.accountId).sum =
      (debts.map fun d => odenenAsgari debts order s d.accountId).sum +
        (toplamBorc debts (asgariSonu debts order s).state - toplamBorc debts (aySonu debts order s).state) := by
    simp only [aySonu_odenen, toplamBorc, List.sum_map_add]
    congr 1
    rw [eq_sub_iff_add_eq, ← List.sum_map_add]
    simp only [sub_add_cancel]
  have hsinir : (debts.map fun d => odenenAsgari debts order s d.accountId +
        if (s.debtPayoffMonths d.accountId).isSome then serbestKalan debts s d.accountId else 0).sum + kurusEsigi ≤
      (debts.map fun d => enBuyukAsgari debts order extra (k + 1) d.accountId + kurusEsigi).sum := by
    obtain ⟨e, he, hacik⟩ := List.any_eq_true.mp hborc
    have hacik : kurusEsigi < s.state e.accountId := of_decide_eq_true hacik
    have hlast (d : DebtItem) : odenenAsgari debts order s d.accountId ≤
        enBuyukAsgari debts order extra (k + 1) d.accountId := le_max_right _ _
    refine sum_add_le (fun d hd => ?_) he ?_
    · split
      · next hp =>
        have hzero : s.state d.accountId ≤ kurusEsigi :=
          ((h.uyum.muhasebe.kapanis d hd).mpr hp).trans_le kurusEsigi_pos.le
        rw [odenenAsgari_kapali hrate hzero, zero_add]
        exact (h.kapali d hd hp).trans (add_le_add_left (le_max_left _ _) _)
      · rw [add_zero]
        exact (hlast d).trans (le_add_of_nonneg_right kurusEsigi_pos.le)
    · -- the open debt frees nothing
      have hp : ¬ (s.debtPayoffMonths e.accountId).isSome := fun hp => by
        rw [(h.uyum.muhasebe.kapanis e he).mpr hp] at hacik
        exact hacik.not_gt kurusEsigi_pos
      rw [if_neg hp, add_zero]
      exact add_le_add_left (hlast e) _
  rw [List.sum_map_add] at hsinir
  have hdevreden : devreden debts s = (debts.map fun d =>
    if (s.debtPayoffMonths d.accountId).isSome then serbestKalan debts s d.accountId else 0).sum := rfl
  rw [hodenen]
  linarith

end Run

/-- No month of a simulation pays more than the extra money and the largest minimums that the debts were paid until
then, and a hundredth for each debt. -/
def HayaletParaYok (debts : List DebtItem) (order : List ℕ) (extra : ℚ) (today : Date) : Prop :=
  ∀ m ∈ (simulate debts order extra today).schedule,
    (debts.map fun d => m.paidThisMonth d.accountId).sum ≤
      extra + (debts.map fun d => enBuyukAsgari debts order extra m.monthIndex d.accountId + 1 / 100).sum

/-- Where no first minimum goes beyond its debt, no money is paid in any month that was not paid as a minimum before. -/
theorem rollover_within_minimums (debts : List DebtItem) (order : List ℕ) {extra : ℚ} (today : Date)
    (hids : (debts.map DebtItem.accountId).Nodup) (hgec : ∀ d ∈ debts, GecerliBorc d) (horder : order.Nodup)
    (hextra : 0 ≤ extra) (hilk : IlkAsgariSigar debts order) : HayaletParaYok debts order extra today := by
  have hrate (d : DebtItem) (hd : d ∈ debts) := (hgec d hd).interestRateMonthly
  have hrun (k : ℕ) : DevirButcesi debts order extra k := by
    induction k with
    | zero => exact devirButcesi_baslangic hids hgec
    | succ k ih => exact ih.ay hids hgec horder hilk
  unfold HayaletParaYok simulate
  split
  · exact fun m hm => (List.not_mem_nil hm).elim
  · obtain ⟨n, -, hson, hacik, -⟩ := ayDongusu_iterate debts order maxMonths (.baslangic debts extra)
    simp only [hson]
    -- over the months that are run, none of which starts without an open debt
    have haylar (j : ℕ) (hj : j ≤ n) : ∀ m ∈ (ayBasi debts order extra j).schedule,
        (debts.map fun d => m.paidThisMonth d.accountId).sum ≤
          extra + (debts.map fun d => enBuyukAsgari debts order extra m.monthIndex d.accountId + 1 / 100).sum := by
      induction j with
      | zero => exact fun m hm => (List.not_mem_nil hm).elim
      | succ j ih =>
        intro m hm
        have hay := (hrun j).odenen hids hgec hextra (hacik j hj)
        have hsabit := adimlar_sabit (aySonu_adimlar hrate order (ayBasi debts order extra j))
        rw [ayBasi_succ, ayIsle_eq, Simulasyon.ayKapat, hsabit.2.1] at hm
        rcases List.mem_append.mp hm with hm | hm
        · exact ih (Nat.le_of_succ_le hj) m hm
        · have hindex : (aySonu debts order (ayBasi debts order extra j)).month = j + 1 :=
            hsabit.1.trans (congrArg Nat.succ (ayBasi_month debts order extra j))
          rw [List.mem_singleton.mp hm]
          simp only [hindex]
          exact hay
    exact haylar n le_rfl

/-- A card of ten, which is asked its fifty, and a loan. -/
def hayaletBorclar : List DebtItem := [⟨1, .creditCard, 10, 0, 50, 1 / 4⟩, ⟨2, .loan, 1000, 0, 100, 1 / 4⟩]

def sigarBorclar : List DebtItem := [⟨1, .creditCard, 100, 4, 50, 1 / 4⟩, ⟨2, .loan, 300, 2, 100, 1 / 4⟩]

def devirGunu : Date := (Date.ofYmd? 2026 5 30).get rfl

theorem rollover_within_minimums_two : HayaletParaYok sigarBorclar [1, 2] 20 devirGunu := by
  refine rollover_within_minimums sigarBorclar [1, 2] devirGunu (by decide) ?_ (by decide) (by norm_num) ?_
  · intro d hd
    rcases List.mem_cons.mp hd with rfl | hd
    · constructor <;> norm_num
    · rw [List.mem_singleton.mp hd]
      constructor <;> norm_num
  · unfold IlkAsgariSigar
    decide +kernel

/-- The card is paid its ten, and frees fifty for the loan. -/
theorem rollover_paid_phantom_money :
    ¬ ∀ (debts : List DebtItem) (order : List ℕ) (extra : ℚ) (today : Date), (debts.map DebtItem.accountId).Nodup →
      (∀ d ∈ debts, GecerliBorc d) → order.Nodup → 0 ≤ extra → HayaletParaYok debts order extra today := by
  intro h
  have hk := h hayaletBorclar [1, 2] 0 devirGunu (by decide) ?_ (by decide) le_rfl
  · revert hk
    unfold HayaletParaYok
    decide +kernel
  · intro d hd
    rcases List.mem_cons.mp hd with rfl | hd
    · constructor <;> norm_num
    · rw [List.mem_singleton.mp hd]
      constructor <;> norm_num

end FinancialOs.Guarantees
