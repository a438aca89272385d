import FinancialOs.Guarantees.ExtraPayments
import FinancialOs.Library.PriorityPayments

/-! The interest that fixed loans bear when the money beyond the instalments goes to the highest rate first, against
any other order. -/
namespace FinancialOs.Guarantees
open Library Store Rules

section Passes
variable {debts : List DebtItem} {s : Simulasyon}

/-- The balances behind a pass that changes each of them once. -/
theorem foldl_state {α : Type} {f : Simulasyon → α → Simulasyon} {key : α → ℕ} {g : α → ℚ → ℚ} {l : List α}
    (hkeys : (l.map key).Nodup)
    (hf : ∀ a ∈ l, ∀ w, (f w a).state = Function.update w.state (key a) (g a (w.state (key a)))) :
    (∀ a ∈ l, (l.foldl f s).state (key a) = g a (s.state (key a))) ∧
      ∀ i, i ∉ l.map key → (l.foldl f s).state i = s.state i := by
  induction l generalizing s with
  | nil => exact ⟨fun a ha => (List.not_mem_nil ha).elim, fun _ _ => rfl⟩
  | cons a l ih =>
    obtain ⟨ha, hf⟩ := List.forall_mem_cons.mp hf
    obtain ⟨hnot, hkeys⟩ := List.nodup_cons.mp hkeys
    obtain ⟨hmem, hother⟩ := ih hkeys hf (s := f s a)
    refine ⟨List.forall_mem_cons.mpr ⟨?_, fun b hb => ?_⟩, fun i hi => ?_⟩
    · rw [List.foldl_cons, hother _ hnot, ha, Function.update_self]
    · have hne : key b ≠ key a := fun he => hnot (he ▸ List.mem_map_of_mem hb)
      rw [List.foldl_cons, hmem b hb, ha, Function.update_of_ne hne]
    · rw [List.map_cons, List.mem_cons, not_or] at hi
      rw [List.foldl_cons, hother i hi.2, ha, Function.update_of_ne hi.1]

/-- A month behind its interest. -/
def faizSonu (debts : List DebtItem) (s : Simulasyon) : Simulasyon := debts.foldl faizTahakkuk s.ayAc

/-- A month behind its minimum payments. -/
def asgariSonu (debts : List DebtItem) (order : List ℕ) (s : Simulasyon) : Simulasyon :=
  order.foldl (asgariOde debts) { faizSonu debts s with availableExtra := (faizSonu debts s).extraMonthly }

theorem faizSonu_state (hids : (debts.map DebtItem.accountId).Nodup) {d : DebtItem} (hd : d ∈ debts) :
    (faizSonu debts s).state d.accountId = faizli d (s.state d.accountId) :=
  (foldl_state hids (fun d _ w => faizTahakkuk_state w d)).1 d hd

theorem faizSonu_totalInterest (hids : (debts.map DebtItem.accountId).Nodup) : (faizSonu debts s).totalInterest =
    s.totalInterest + (debts.map fun d => faizli d (s.state d.accountId) - s.state d.accountId).sum := by
  have hgen : ∀ (l : List DebtItem) (w : Simulasyon), (l.map DebtItem.accountId).Nodup →
      (l.foldl faizTahakkuk w).totalInterest =
        w.totalInterest + (l.map fun d => faizli d (w.state d.accountId) - w.state d.accountId).sum := by
    intro l
    induction l with
    | nil => exact fun w _ => (add_zero _).symm
    | cons d l ih =>
      intro w hl
      obtain ⟨hnot, hl⟩ := List.nodup_cons.mp hl
      have hsame : ∀ e ∈ l, (faizTahakkuk w d).state e.accountId = w.state e.accountId := by
        intro e he
        have hne : e.accountId ≠ d.accountId := fun heq => hnot (heq ▸ List.mem_map_of_mem he)
        rw [faizTahakkuk_state, Function.update_of_ne hne]
      rw [List.foldl_cons, ih _ hl, faizTahakkuk_totalInterest, List.map_cons, List.sum_cons, add_assoc]
      congr 2
      exact congrArg List.sum (List.map_congr_left fun e he => by rw [hsame e he])
  exact hgen debts s.ayAc hids

theorem asgariSonu_spec (hids : (debts.map DebtItem.accountId).Nodup) (hrate : ∀ d ∈ debts, 0 ≤ d.interestRateMonthly)
    {l : List DebtItem} (hl : l.Perm debts) :
    (∀ d ∈ debts, (asgariSonu debts (l.map DebtItem.accountId) s).state d.accountId =
      asgariKalan d ((faizSonu debts s).state d.accountId)) ∧
    (asgariSonu debts (l.map DebtItem.accountId) s).availableExtra = s.extraMonthly ∧
    (asgariSonu debts (l.map DebtItem.accountId) s).totalInterest = (faizSonu debts s).totalInterest := by
  have hextra : (faizSonu debts s).extraMonthly = s.extraMonthly :=
    (adimlar_sabit (foldl_adimlar debts s.ayAc
      (fun w d hd => (faizTahakkuk_adim w (hrate d hd) : BorcAdimi debts w (faizTahakkuk w d))))).2.2
  have hkeys : (l.map DebtItem.accountId).Nodup := (hl.map _).nodup_iff.mpr hids
  have hfind (d : DebtItem) (hd : d ∈ l) := debtById_of_mem hids (hl.mem_iff.mp hd)
  rw [asgariSonu, List.foldl_map]
  refine ⟨fun d hd => ?_, ?_⟩
  · exact (foldl_state hkeys (fun d hd w => (asgariOde_spec (hfind d hd) w).1)).1 d (hl.mem_iff.mpr hd)
  · refine List.foldlRecOn l _ (motive := fun w : Simulasyon => w.availableExtra = s.extraMonthly ∧
      w.totalInterest = (faizSonu debts s).totalInterest) ⟨hextra, rfl⟩ ?_
    rintro w ⟨hekstra, hfaiz⟩ d hd
    obtain ⟨-, hfaiz', hekstra'⟩ := asgariOde_spec (hfind d hd) w
    exact ⟨hekstra'.trans hekstra, hfaiz'.trans hfaiz⟩

theorem ekstra_yok {order : List ℕ} (h : s.availableExtra ≤ kurusEsigi) : order.foldl ekstraOde s = s := by
  induction order with
  | nil => rfl
  | cons aid order ih => rw [List.foldl_cons, ekstraOde, if_pos h, ih]

/-- The money for the debts of an order runs out with one of them, or more than a hundredth away from it. -/
def KurusKalmaz (ekstra : ℚ) (bakiyeler : List ℚ) : Prop :=
  ∀ p ∈ bakiyeler.inits, ekstra = p.sum ∨ kurusEsigi < |ekstra - p.sum|

theorem kurusKalmaz_cons {ekstra b : ℚ} {l : List ℚ} (h : KurusKalmaz ekstra (b :: l)) :
    (ekstra = 0 ∨ kurusEsigi < |ekstra|) ∧ (ekstra = b ∨ kurusEsigi < |ekstra - b|) ∧ KurusKalmaz (ekstra - b) l := by
  have hcons (p : List ℚ) (hp : p ∈ l.inits) : ekstra = b + p.sum ∨ kurusEsigi < |ekstra - (b + p.sum)| := by
    have hmem : b :: p ∈ (b :: l).inits := by
      rw [List.inits_cons]
      exact List.mem_cons_of_mem _ (List.mem_map_of_mem hp)
    have hsum := h _ hmem
    rwa [List.sum_cons] at hsum
  refine ⟨?_, ?_, fun p hp => ?_⟩
  · have hnil := h [] (List.mem_inits _ _ |>.mpr List.nil_prefix)
    rwa [List.sum_nil, sub_zero] at hnil
  · have hnil := hcons [] (List.mem_inits _ _ |>.mpr List.nil_prefix)
    rwa [List.sum_nil, add_zero] at hnil
  · rw [sub_sub, sub_eq_iff_eq_add']
    exact hcons p hp

/-- One debt is paid to its end, or takes all the money. -/
theorem ekstraKalan_eq {ekstra b : ℚ} (hekstra : 0 ≤ ekstra) (hsifir : ekstra = 0 ∨ kurusEsigi < |ekstra|)
    (hbir : ekstra = b ∨ kurusEsigi < |ekstra - b|) (hb : b = 0 ∨ kurusEsigi < b) :
    ekstraKalan ekstra b = max 0 (b - ekstra) ∧ (max 0 (b - ekstra) = 0 ∨ kurusEsigi < max 0 (b - ekstra)) := by
  rw [abs_of_nonneg hekstra] at hsifir
  have hpos := kurusEsigi_pos
  rcases le_or_gt b ekstra with hle | hlt
  · rw [max_eq_left (sub_nonpos.mpr hle)]
    refine ⟨?_, .inl rfl⟩
    rw [ekstraKalan]
    split_ifs with he hx
    · rcases hb with hb | hb
      · exact hb
      · rcases hsifir with hsifir | hsifir <;> linarith
    · exact hb.resolve_right hx.not_gt
    · exact if_pos (by linarith)
  · rw [max_eq_right (sub_nonneg.mpr hlt.le)]
    have hfark : kurusEsigi < b - ekstra := by
      rcases hbir with hbir | hbir
      · exact absurd hbir hlt.ne
      · rwa [abs_sub_comm, abs_of_pos (sub_pos.mpr hlt)] at hbir
    refine ⟨?_, .inr hfark⟩
    rw [ekstraKalan]
    split_ifs with he hx
    · rcases hsifir with hsifir | hsifir
      · rw [hsifir, sub_zero]
      · exact absurd he hsifir.not_ge
    · linarith
    · exact if_neg (by linarith)

/-- The extra money is spent on the debts in their order, to the last hundredth. -/
theorem ekstra_spend {order : List ℕ} (hids : order.Nodup) (hacik : ∀ i ∈ order, s.state i = 0 ∨ kurusEsigi < s.state i)
    (hekstra : 0 ≤ s.availableExtra) (hkurus : KurusKalmaz s.availableExtra (order.map s.state)) :
    order.map (order.foldl ekstraOde s).state = spend s.availableExtra (order.map s.state) ∧
      (∀ i ∈ order, (order.foldl ekstraOde s).state i = 0 ∨ kurusEsigi < (order.foldl ekstraOde s).state i) ∧
      (∀ i, i ∉ order → (order.foldl ekstraOde s).state i = s.state i) ∧
      (order.foldl ekstraOde s).totalInterest = s.totalInterest := by
  induction order generalizing s with
  | nil => exact ⟨rfl, fun i hi => (List.not_mem_nil hi).elim, fun _ _ => rfl, rfl⟩
  | cons a order ih =>
    obtain ⟨hnot, hids⟩ := List.nodup_cons.mp hids
    obtain ⟨ha, hacik⟩ := List.forall_mem_cons.mp hacik
    rw [List.map_cons] at hkurus
    obtain ⟨hsifir, hbir, hkurus⟩ := kurusKalmaz_cons hkurus
    obtain ⟨hstate, hfaiz, hkalan⟩ := ekstraOde_spec s a
    have hsame : ∀ i ∈ order, (ekstraOde s a).state i = s.state i := by
      intro i hi
      have hne : i ≠ a := fun he => hnot (he ▸ hi)
      rw [hstate, Function.update_of_ne hne]
    have hmap : order.map (ekstraOde s a).state = order.map s.state := List.map_congr_left hsame
    have hacik' : ∀ i ∈ order, (ekstraOde s a).state i = 0 ∨ kurusEsigi < (ekstraOde s a).state i := by
      intro i hi
      rw [hsame i hi]
      exact hacik i hi
    obtain ⟨hson, hsonacik⟩ := ekstraKalan_eq hekstra hsifir hbir ha
    rw [hson] at hstate hkalan
    have hbas : (ekstraOde s a).state a = max 0 (s.state a - s.availableExtra) := by
      rw [hstate, Function.update_self]
    have hpara : (ekstraOde s a).availableExtra = max 0 (s.availableExtra - s.state a) := by
      rw [hkalan]
      rcases le_total (s.state a) s.availableExtra with hle | hle
      · rw [max_eq_left (sub_nonpos.mpr hle), max_eq_right (sub_nonneg.mpr hle), sub_zero]
      · rw [max_eq_right (sub_nonneg.mpr hle), max_eq_left (sub_nonpos.mpr hle), sub_sub_cancel, sub_self]
    have hrest : order.map (order.foldl ekstraOde (ekstraOde s a)).state =
          spend (max 0 (s.availableExtra - s.state a)) (order.map s.state) ∧
        (∀ i ∈ order, (order.foldl ekstraOde (ekstraOde s a)).state i = 0 ∨
          kurusEsigi < (order.foldl ekstraOde (ekstraOde s a)).state i) ∧
        (∀ i, i ∉ order → (order.foldl ekstraOde (ekstraOde s a)).state i = (ekstraOde s a).state i) ∧
        (order.foldl ekstraOde (ekstraOde s a)).totalInterest = (ekstraOde s a).totalInterest := by
      rcases le_or_gt (s.state a) s.availableExtra with hle | hlt
      · rw [max_eq_right (sub_nonneg.mpr hle)] at hpara ⊢
        rw [← hpara, ← hmap]
        exact ih hids hacik' (hpara ▸ sub_nonneg.mpr hle) (by rw [hpara, hmap]; exact hkurus)
      · rw [max_eq_left (sub_nonpos.mpr hlt.le)] at hpara ⊢
        have hnonneg : ∀ b ∈ order.map s.state, 0 ≤ b := by
          refine List.forall_mem_map.mpr fun i hi => ?_
          exact (hacik i hi).elim (fun h => h.ge) fun h => (kurusEsigi_pos.trans h).le
        rw [ekstra_yok (hpara ▸ kurusEsigi_pos.le), spend_zero hnonneg]
        exact ⟨hmap, hacik', fun _ _ => rfl, rfl⟩
    obtain ⟨hspend, hacikson, hother, hfaizson⟩ := hrest
    rw [List.foldl_cons, List.map_cons, List.map_cons, spend, hspend, hother a hnot, hbas]
    refine ⟨rfl, List.forall_mem_cons.mpr ⟨?_, hacikson⟩, fun i hi => ?_, hfaizson.trans hfaiz⟩
    · rw [hother a hnot, hbas]
      exact hsonacik
    · obtain ⟨hne, hi⟩ := not_or.mp (mt List.mem_cons.mpr hi)
      rw [hother i hi, hstate, Function.update_of_ne hne]

end Passes

section Months
variable {debts : List DebtItem} {extra : ℚ} {s : Simulasyon}

/-- Fixed loans with instalments. -/
structure SabitKredi (d : DebtItem) : Prop where
  accountType : d.accountType = .loan
  balance : 0 < d.balance
  interestRateMonthly : 0 ≤ d.interestRateMonthly
  minPayment : 0 < d.minPayment

/-- The books of a run over loans, none of which is stuck at a hundredth. -/
structure KrediDefteri (debts : List DebtItem) (extra : ℚ) (s : Simulasyon) : Prop where
  muhasebe : Muhasebe debts s.month s
  asgari : AsgariUygun debts s
  devir : s.extraMonthly = extra + devreden debts s
  acik : ∀ d ∈ debts, s.state d.accountId = 0 ∨ kurusEsigi < s.state d.accountId

/-- The instalment of a loan that is not paid off. -/
def acikTaksit (s : Simulasyon) (d : DebtItem) : ℚ := if s.state d.accountId = 0 then 0 else d.minPayment

/-- The money of a month is the same in every month: what is not asked as an instalment is extra. -/
theorem KrediDefteri.butce (h : KrediDefteri debts extra s) (hids : (debts.map DebtItem.accountId).Nodup)
    (hkredi : ∀ d ∈ debts, SabitKredi d) :
    s.extraMonthly + (debts.map (acikTaksit s)).sum = extra + (debts.map DebtItem.minPayment).sum := by
  rw [h.devir, devreden, add_assoc, ← List.sum_map_add]
  congr 2
  apply List.map_congr_left
  intro d hd
  have hserbest : serbestKalan debts s d.accountId = d.minPayment := by
    have hfind := debtById_of_mem hids hd
    rw [serbestKalan]
    cases hb : s.lastBaseMin d.accountId with
    | none => rw [hfind, Option.getD_none, Option.map_some, Option.getD_some]
    | some b =>
      have hasgari := h.asgari _ d b hfind hb
      rwa [if_neg (by rw [(hkredi d hd).accountType]; decide)] at hasgari
  rw [hserbest, acikTaksit]
  simp only [← h.muhasebe.kapanis d hd]
  split_ifs
  · exact add_zero _
  · exact zero_add _

theorem KrediDefteri.extra_nonneg (h : KrediDefteri debts extra s) (hids : (debts.map DebtItem.accountId).Nodup)
    (hkredi : ∀ d ∈ debts, SabitKredi d) (hextra : 0 ≤ extra) : 0 ≤ s.extraMonthly := by
  have hbutce := h.butce hids hkredi
  have hle : (debts.map (acikTaksit s)).sum ≤ (debts.map DebtItem.minPayment).sum := by
    refine List.sum_le_sum fun d hd => ?_
    rw [acikTaksit]
    split_ifs
    · exact (hkredi d hd).minPayment.le
    · exact le_rfl
  linarith

/-- No payment of a month ends within a hundredth of what is owed. -/
structure KurusAy (debts : List DebtItem) (order : List ℕ) (s : Simulasyon) : Prop where
  asgari : ∀ d ∈ debts, kurusEsigi < (faizSonu debts s).state d.accountId →
    (faizSonu debts s).state d.accountId = d.minPayment ∨
      kurusEsigi < |(faizSonu debts s).state d.accountId - d.minPayment|
  ekstra : KurusKalmaz (asgariSonu debts order s).availableExtra (order.map (asgariSonu debts order s).state)

/-- No instalment is larger than what is owed on its loan, unless the extra money pays off all that the instalments
of the month leave. -/
def TaksitSigar (debts : List DebtItem) (order : List ℕ) (s : Simulasyon) : Prop :=
  (asgariSonu debts order s).availableExtra < (order.map (asgariSonu debts order s).state).sum →
    ∀ d ∈ debts, kurusEsigi < (faizSonu debts s).state d.accountId →
      d.minPayment ≤ (faizSonu debts s).state d.accountId

def aylikOran (d : DebtItem) : ℚ := d.interestRateMonthly / 100

theorem aylikOran_nonneg {d : DebtItem} (hd : SabitKredi d) : 0 ≤ aylikOran d :=
  div_nonneg hd.interestRateMonthly (by norm_num)

/-- What is owed on a loan behind the interest of a month. -/
def ayBorcu (s : Simulasyon) (d : DebtItem) : ℚ := s.state d.accountId + aylikOran d * s.state d.accountId

theorem faizli_eq {d : DebtItem} {x : ℚ} (h : x = 0 ∨ kurusEsigi < x) : faizli d x = x + aylikOran d * x := by
  rw [faizli, aylikOran]
  rcases h with rfl | h
  · rw [if_pos kurusEsigi_pos.le, mul_zero, add_zero]
  · rw [if_neg h.not_ge, mul_comm]

/-- The instalment is paid as far as something is owed. -/
theorem asgariKalan_eq {d : DebtItem} {x : ℚ} (hd : SabitKredi d) (hx : x = 0 ∨ kurusEsigi < x)
    (hkurus : kurusEsigi < x → x = d.minPayment ∨ kurusEsigi < |x - d.minPayment|) :
    asgariKalan d x = max 0 (x - d.minPayment) ∧
      (max 0 (x - d.minPayment) = 0 ∨ kurusEsigi < max 0 (x - d.minPayment)) := by
  have hmin := hd.minPayment
  have hbase : d.baseMin x = d.minPayment := by
    rw [DebtItem.baseMin, if_neg (by rw [hd.accountType]; decide)]
  rcases hx with rfl | hx
  · rw [max_eq_left (by linarith), asgariKalan, if_pos kurusEsigi_pos.le]
    exact ⟨rfl, .inl rfl⟩
  · rw [asgariKalan, if_neg hx.not_ge, hbase]
    rcases le_or_gt x d.minPayment with hle | hlt
    · rw [max_eq_left (sub_nonpos.mpr hle)]
      exact ⟨if_pos ((sub_nonpos.mpr hle).trans_lt kurusEsigi_pos), .inl rfl⟩
    · have hfark := (hkurus hx).resolve_left hlt.ne'
      rw [abs_of_pos (sub_pos.mpr hlt)] at hfark
      rw [max_eq_right (sub_nonneg.mpr hlt.le)]
      exact ⟨if_neg hfark.le.not_gt, .inr hfark⟩

/-- What is owed behind the interest, and what the instalments leave of it. -/
theorem KrediDefteri.taksitler (h : KrediDefteri debts extra s) (hids : (debts.map DebtItem.accountId).Nodup)
    (hkredi : ∀ d ∈ debts, SabitKredi d) {l : List DebtItem} (hl : l.Perm debts)
    (hkurus : KurusAy debts (l.map DebtItem.accountId) s) :
    (∀ d ∈ debts, (faizSonu debts s).state d.accountId = ayBorcu s d) ∧
      ∀ d ∈ debts, (asgariSonu debts (l.map DebtItem.accountId) s).state d.accountId =
        max 0 (ayBorcu s d - d.minPayment) ∧ (max 0 (ayBorcu s d - d.minPayment) = 0 ∨
          kurusEsigi < max 0 (ayBorcu s d - d.minPayment)) := by
  have hrate (d : DebtItem) (hd : d ∈ debts) := (hkredi d hd).interestRateMonthly
  have hborc : ∀ d ∈ debts, (faizSonu debts s).state d.accountId = ayBorcu s d := fun d hd =>
    (faizSonu_state hids hd).trans (faizli_eq (h.acik d hd))
  refine ⟨hborc, fun d hd => ?_⟩
  have hacik : ayBorcu s d = 0 ∨ kurusEsigi < ayBorcu s d := by
    rw [← hborc d hd, faizSonu_state hids hd]
    exact faizli_acik (hrate d hd) (h.acik d hd)
  have hk := hkurus.asgari d hd
  rw [hborc d hd] at hk
  rw [(asgariSonu_spec hids hrate hl).1 d hd, hborc d hd]
  exact asgariKalan_eq (hkredi d hd) hacik hk

/-- What a month makes of the loans: interest, instalments, and the extra money in the order of priority. -/
theorem KrediDefteri.ay (h : KrediDefteri debts extra s) (hids : (debts.map DebtItem.accountId).Nodup)
    (hkredi : ∀ d ∈ debts, SabitKredi d) (hextra : 0 ≤ extra) {l : List DebtItem} (hl : l.Perm debts)
    (hkurus : KurusAy debts (l.map DebtItem.accountId) s) :
    KrediDefteri debts extra (ayIsle debts (l.map DebtItem.accountId) s) ∧
      l.map (fun d => (ayIsle debts (l.map DebtItem.accountId) s).state d.accountId) =
        spend s.extraMonthly (l.map fun d => max 0 (ayBorcu s d - d.minPayment)) ∧
      (ayIsle debts (l.map DebtItem.accountId) s).totalInterest =
        s.totalInterest + (debts.map fun d => aylikOran d * s.state d.accountId).sum := by
  have hrate (d : DebtItem) (hd : d ∈ debts) := (hkredi d hd).interestRateMonthly
  have hkeys : (l.map DebtItem.accountId).Nodup := (hl.map _).nodup_iff.mpr hids
  obtain ⟨-, hekstra, hfaiz⟩ := asgariSonu_spec hids hrate hl (s := s)
  obtain ⟨-, hkalan⟩ := h.taksitler hids hkredi hl hkurus
  have hacik : ∀ i ∈ l.map DebtItem.accountId, (asgariSonu debts (l.map DebtItem.accountId) s).state i = 0 ∨
      kurusEsigi < (asgariSonu debts (l.map DebtItem.accountId) s).state i := by
    refine List.forall_mem_map.mpr fun d hd => ?_
    obtain ⟨heq, hdacik⟩ := hkalan d (hl.mem_iff.mp hd)
    rw [heq]
    exact hdacik
  have hpara : 0 ≤ (asgariSonu debts (l.map DebtItem.accountId) s).availableExtra :=
    hekstra ▸ h.extra_nonneg hids hkredi hextra
  obtain ⟨hspend, hsonacik, -, hsonfaiz⟩ := ekstra_spend hkeys hacik hpara hkurus.ekstra
  have hsteps := aySonu_adimlar hrate (l.map DebtItem.accountId) s
  refine ⟨?_, ?_, ?_⟩
  · constructor
    case muhasebe => exact muhasebe_ayIsle h.muhasebe hids hrate _
    case asgari => exact (adimlar_asgari hsteps h.asgari : AsgariUygun debts (aySonu debts _ s))
    case devir => exact devir_ay hids hrate h.muhasebe h.devir (l.map DebtItem.accountId)
    case acik => exact fun d hd => hsonacik _ (List.mem_map_of_mem (hl.mem_iff.mpr hd))
  · rw [List.map_map, List.map_map, hekstra] at hspend
    refine hspend.trans (congrArg (spend _) (List.map_congr_left fun d hd => ?_))
    exact (hkalan d (hl.mem_iff.mp hd)).1
  · refine hsonfaiz.trans (hfaiz.trans ((faizSonu_totalInterest hids).trans ?_))
    congr 2
    refine List.map_congr_left fun d hd => ?_
    rw [faizli_eq (h.acik d hd), add_sub_cancel_left]

/-- The total that a month leaves. -/
theorem KrediDefteri.toplam (h : KrediDefteri debts extra s) (hids : (debts.map DebtItem.accountId).Nodup)
    (hkredi : ∀ d ∈ debts, SabitKredi d) (hextra : 0 ≤ extra) {l : List DebtItem} (hl : l.Perm debts)
    (hkurus : KurusAy debts (l.map DebtItem.accountId) s) :
    (l.map fun d => (ayIsle debts (l.map DebtItem.accountId) s).state d.accountId).sum =
      max 0 ((debts.map fun d => max 0 (ayBorcu s d - d.minPayment)).sum - s.extraMonthly) := by
  obtain ⟨-, hspend, -⟩ := h.ay hids hkredi hextra hl hkurus
  rw [hspend, sum_spend (h.extra_nonneg hids hkredi hextra), (hl.map _).sum_eq]
  exact List.forall_mem_map.mpr fun _ _ => le_max_left _ _

/-- However the extra money is spent, a month takes no more than its money off what is owed. -/
theorem KrediDefteri.toplam_ge (h : KrediDefteri debts extra s) (hids : (debts.map DebtItem.accountId).Nodup)
    (hkredi : ∀ d ∈ debts, SabitKredi d) (hextra : 0 ≤ extra) {l : List DebtItem} (hl : l.Perm debts)
    (hkurus : KurusAy debts (l.map DebtItem.accountId) s) :
    (debts.map (ayBorcu s)).sum - (extra + (debts.map DebtItem.minPayment).sum) ≤
      (l.map fun d => (ayIsle debts (l.map DebtItem.accountId) s).state d.accountId).sum := by
  have hle : (debts.map (ayBorcu s)).sum ≤
      (debts.map fun d => max 0 (ayBorcu s d - d.minPayment)).sum + (debts.map (acikTaksit s)).sum := by
    rw [← List.sum_map_add]
    refine List.sum_le_sum fun d hd => ?_
    rw [acikTaksit]
    split_ifs with hzero
    · rw [ayBorcu, hzero, mul_zero, add_zero, add_zero]
      exact le_max_left _ _
    · exact sub_le_iff_le_add.mp (le_max_right _ _)
  rw [h.toplam hids hkredi hextra hl hkurus, ← h.butce hids hkredi]
  refine le_trans ?_ (le_max_right _ _)
  linarith

/-- It takes all of its money off, or pays all off, where no instalment is larger than its loan. -/
theorem KrediDefteri.toplam_le (h : KrediDefteri debts extra s) (hids : (debts.map DebtItem.accountId).Nodup)
    (hkredi : ∀ d ∈ debts, SabitKredi d) (hextra : 0 ≤ extra) {l : List DebtItem} (hl : l.Perm debts)
    (hkurus : KurusAy debts (l.map DebtItem.accountId) s) (hsigar : TaksitSigar debts (l.map DebtItem.accountId) s) :
    (l.map fun d => (ayIsle debts (l.map DebtItem.accountId) s).state d.accountId).sum ≤
      max 0 ((debts.map (ayBorcu s)).sum - (extra + (debts.map DebtItem.minPayment).sum)) := by
  have hrate (d : DebtItem) (hd : d ∈ debts) := (hkredi d hd).interestRateMonthly
  obtain ⟨hborc, hkalan⟩ := h.taksitler hids hkredi hl hkurus
  have hsum : ((l.map DebtItem.accountId).map (asgariSonu debts (l.map DebtItem.accountId) s).state).sum =
      (debts.map fun d => max 0 (ayBorcu s d - d.minPayment)).sum := by
    rw [List.map_map, (hl.map _).sum_eq]
    exact congrArg List.sum (List.map_congr_left fun d hd => (hkalan d hd).1)
  rw [TaksitSigar, hsum, (asgariSonu_spec hids hrate hl).2.1] at hsigar
  rw [h.toplam hids hkredi hextra hl hkurus, ← h.butce hids hkredi]
  rcases le_or_gt (debts.map fun d => max 0 (ayBorcu s d - d.minPayment)).sum s.extraMonthly with hle | hlt
  · rw [max_eq_left (sub_nonpos.mpr hle)]
    exact le_max_left _ _
  · have heq : (debts.map (ayBorcu s)).sum =
        (debts.map fun d => max 0 (ayBorcu s d - d.minPayment)).sum + (debts.map (acikTaksit s)).sum := by
      rw [← List.sum_map_add]
      refine congrArg List.sum (List.map_congr_left fun d hd => ?_)
      rw [acikTaksit]
      split_ifs with hzero
      · rw [ayBorcu, hzero, mul_zero, add_zero, add_zero, zero_sub,
          max_eq_left (neg_nonpos.mpr (hkredi d hd).minPayment.le)]
      · have hacik : kurusEsigi < (faizSonu debts s).state d.accountId := by
          have hstate := (h.acik d hd).resolve_left hzero
          have hborcle : s.state d.accountId ≤ ayBorcu s d :=
            le_add_of_nonneg_right (mul_nonneg (aylikOran_nonneg (hkredi d hd)) (kurusEsigi_pos.trans hstate).le)
          rw [hborc d hd]
          exact hstate.trans_le hborcle
        have hfits := hsigar hlt d hd hacik
        rw [hborc d hd] at hfits
        rw [max_eq_right (sub_nonneg.mpr hfits), sub_add_cancel]
    exact max_le_max le_rfl (by linarith)

end Months

section Race
variable {debts l m : List DebtItem} {extra : ℚ} {s t : Simulasyon}

/-- What the months of a run that are still to be done all meet. -/
def HerAy (P : Simulasyon → Prop) (debts : List DebtItem) (order : List ℕ) : ℕ → Simulasyon → Prop
  | 0, _ => True
  | kalan + 1, s => s.borcVar debts = true → P s ∧ HerAy P debts order kalan (ayIsle debts order s)

/-- Two runs that have done the same number of months, of which `s` is ahead in the order `l`. -/
structure FaizdeOnde (debts l : List DebtItem) (extra : ℚ) (s t : Simulasyon) : Prop where
  defter : KrediDefteri debts extra s
  defter' : KrediDefteri debts extra t
  onde : Ahead l (fun d => s.state d.accountId) (fun d => t.state d.accountId)
  faiz : s.totalInterest ≤ t.totalInterest

theorem faizdeOnde_ay (hids : (debts.map DebtItem.accountId).Nodup) (hkredi : ∀ d ∈ debts, SabitKredi d)
    (hextra : 0 ≤ extra) (hl : l.Perm debts) (hm : m.Perm debts)
    (hsorted : l.Pairwise fun d e => aylikOran e ≤ aylikOran d) (h : FaizdeOnde debts l extra s t)
    (hkurus : KurusAy debts (l.map DebtItem.accountId) s) (hkurus' : KurusAy debts (m.map DebtItem.accountId) t)
    (hsigar : TaksitSigar debts (l.map DebtItem.accountId) s) :
    FaizdeOnde debts l extra (ayIsle debts (l.map DebtItem.accountId) s)
      (ayIsle debts (m.map DebtItem.accountId) t) := by
  obtain ⟨hdefter, hspend, hfaiz⟩ := h.defter.ay hids hkredi hextra hl hkurus
  obtain ⟨hdefter', hspend', hfaiz'⟩ := h.defter'.ay hids hkredi hextra hm hkurus'
  have hrate : ∀ d ∈ l, 0 ≤ aylikOran d := fun d hd => aylikOran_nonneg (hkredi d (hl.mem_iff.mp hd))
  have hnonneg : ∀ d ∈ l, 0 ≤ t.state d.accountId := fun d _ => h.defter'.muhasebe.bakiye d.accountId
  have hborc : Ahead l (ayBorcu s) (ayBorcu t) := h.onde.accrue hsorted hrate hnonneg
  refine ⟨hdefter, hdefter', ?_, ?_⟩
  · have hkalan : ∀ d ∈ m, (ayIsle debts (m.map DebtItem.accountId) t).state d.accountId ≤
        max 0 (ayBorcu t d - d.minPayment) := fun d hd =>
      (spend_le (h.defter'.extra_nonneg hids hkredi hextra) (fun _ _ => le_max_left _ _) hspend' d hd).2
    refine hborc.pay (fun d hd => (hkredi d (hl.mem_iff.mp hd)).minPayment.le)
      (h.defter.extra_nonneg hids hkredi hextra) hspend
      (fun d hd => hkalan d (hm.mem_iff.mpr (hl.mem_iff.mp hd))) ?_
    have hsum : (m.map fun d => (ayIsle debts (m.map DebtItem.accountId) t).state d.accountId).sum =
        (l.map fun d => (ayIsle debts (m.map DebtItem.accountId) t).state d.accountId).sum :=
      ((hm.trans hl.symm).map _).sum_eq
    have htoplam : (debts.map (ayBorcu s)).sum ≤ (debts.map (ayBorcu t)).sum := by
      rw [← (hl.map _).sum_eq, ← (hl.map _).sum_eq]
      exact hborc.total
    refine (h.defter.toplam_le hids hkredi hextra hl hkurus hsigar).trans (max_le ?_ ?_)
    · exact List.sum_nonneg (List.forall_mem_map.mpr fun d _ => hdefter'.muhasebe.bakiye d.accountId)
    · rw [← hsum]
      exact (sub_le_sub_right htoplam _).trans (h.defter'.toplam_ge hids hkredi hextra hm hkurus')
  · rw [hfaiz, hfaiz', ← (hl.map _).sum_eq, ← (hl.map _).sum_eq]
    exact add_le_add h.faiz (h.onde.interest hsorted hrate hnonneg)

/-- As long as the run ahead owes something, so does the other. -/
theorem FaizdeOnde.borcVar (h : FaizdeOnde debts l extra s t) (hl : l.Perm debts) (hs : s.borcVar debts = true) :
    t.borcVar debts = true := by
  obtain ⟨d, hd, hlt⟩ := List.any_eq_true.mp hs
  have hlt : kurusEsigi < s.state d.accountId := of_decide_eq_true hlt
  by_contra ht
  have hzero : ∀ e ∈ l, t.state e.accountId = 0 := by
    intro e he
    refine (h.defter'.acik e (hl.mem_iff.mp he)).resolve_right fun hlt => ht ?_
    exact List.any_eq_true.mpr ⟨e, hl.mem_iff.mp he, decide_eq_true hlt⟩
  have htotal : (l.map fun e => s.state e.accountId).sum ≤ 0 :=
    h.onde.total.trans (List.sum_eq_zero (List.forall_mem_map.mpr hzero)).le
  have hle := List.single_le_sum (List.forall_mem_map.mpr fun e _ => h.defter.muhasebe.bakiye e.accountId)
    _ (List.mem_map_of_mem (hl.mem_iff.mpr hd))
  exact absurd (hlt.trans_le (hle.trans htotal)) kurusEsigi_pos.not_gt

theorem faizdeOnde_run (hids : (debts.map DebtItem.accountId).Nodup) (hkredi : ∀ d ∈ debts, SabitKredi d)
    (hextra : 0 ≤ extra) (hl : l.Perm debts) (hm : m.Perm debts)
    (hsorted : l.Pairwise fun d e => aylikOran e ≤ aylikOran d) (kalan : ℕ) (h : FaizdeOnde debts l extra s t)
    (hkurus : HerAy (KurusAy debts (l.map DebtItem.accountId)) debts (l.map DebtItem.accountId) kalan s)
    (hsigar : HerAy (TaksitSigar debts (l.map DebtItem.accountId)) debts (l.map DebtItem.accountId) kalan s)
    (hkurus' : HerAy (KurusAy debts (m.map DebtItem.accountId)) debts (m.map DebtItem.accountId) kalan t) :
    (ayDongusu debts (l.map DebtItem.accountId) kalan s).totalInterest ≤
      (ayDongusu debts (m.map DebtItem.accountId) kalan t).totalInterest := by
  have hrate (d : DebtItem) (hd : d ∈ debts) := (hkredi d hd).interestRateMonthly
  induction kalan generalizing s t with
  | zero => exact h.faiz
  | succ kalan ih =>
    cases hs : s.borcVar debts with
    | false =>
      rw [ayDongusu, if_neg (by rw [hs]; exact Bool.false_ne_true)]
      exact h.faiz.trans (uzanti_ayDongusu hrate _ (kalan + 1) t).faiz
    | true =>
      have ht := h.borcVar hl hs
      rw [ayDongusu, if_pos hs, ayDongusu, if_pos ht]
      obtain ⟨hay, hkurus⟩ := hkurus hs
      obtain ⟨haysigar, hsigar⟩ := hsigar hs
      obtain ⟨hay', hkurus'⟩ := hkurus' ht
      exact ih (faizdeOnde_ay hids hkredi hextra hl hm hsorted h hay hay' haysigar) hkurus hsigar hkurus'

theorem faizdeOnde_baslangic (hids : (debts.map DebtItem.accountId).Nodup) (hkredi : ∀ d ∈ debts, SabitKredi d)
    (hacik : ∀ d ∈ debts, kurusEsigi < (Simulasyon.baslangic debts extra).state d.accountId) :
    FaizdeOnde debts l extra (.baslangic debts extra) (.baslangic debts extra) := by
  have hdefter : KrediDefteri debts extra (.baslangic debts extra) := by
    refine ⟨muhasebe_baslangic hids (fun d hd => (hkredi d hd).balance) extra, fun _ _ _ _ hb => ?_, ?_, ?_⟩
    · cases hb
    · have hzero : devreden debts (.baslangic debts extra) = 0 :=
        List.sum_eq_zero (List.forall_mem_map.mpr fun _ _ => rfl)
      rw [hzero, add_zero]
      rfl
    · exact fun d hd => .inr (hacik d hd)
  exact ⟨hdefter, hdefter, ⟨le_rfl, List.pairwise_of_forall fun _ _ => .inr le_rfl⟩, le_rfl⟩

end Race

instance (ekstra : ℚ) (bakiyeler : List ℚ) : Decidable (KurusKalmaz ekstra bakiyeler) :=
  inferInstanceAs (Decidable (∀ p ∈ bakiyeler.inits, ekstra = p.sum ∨ kurusEsigi < |ekstra - p.sum|))

instance (debts : List DebtItem) (order : List ℕ) (s : Simulasyon) : Decidable (KurusAy debts order s) :=
  decidable_of_iff (_ ∧ _) ⟨fun h => ⟨h.1, h.2⟩, fun h => ⟨h.1, h.2⟩⟩

instance (debts : List DebtItem) (order : List ℕ) (s : Simulasyon) : Decidable (TaksitSigar debts order s) :=
  inferInstanceAs (Decidable (_ → _))

instance herAy_decidable (P : Simulasyon → Prop) [DecidablePred P] (debts : List DebtItem) (order : List ℕ) :
    ∀ (kalan : ℕ) (s : Simulasyon), Decidable (HerAy P debts order kalan s)
  | 0, _ => inferInstanceAs (Decidable True)
  | kalan + 1, s =>
    have := herAy_decidable P debts order kalan (ayIsle debts order s)
    inferInstanceAs (Decidable (s.borcVar debts = true → P s ∧ HerAy P debts order kalan (ayIsle debts order s)))

/-- A run in which no payment ends within a hundredth of a debt. -/
def KurusKosusu (debts : List DebtItem) (order : List ℕ) (extra : ℚ) : Prop :=
  HerAy (KurusAy debts order) debts order maxMonths (.baslangic debts extra)

/-- A run in which every instalment that is asked before the last month is spent. -/
def TaksitKosusu (debts : List DebtItem) (order : List ℕ) (extra : ℚ) : Prop :=
  HerAy (TaksitSigar debts order) debts order maxMonths (.baslangic debts extra)

/-- The order of the avalanche: the rates fall. -/
theorem oranlar_azalir (debts : List DebtItem) :
    (debts.insertionSort fun d e => e.interestRateMonthly < d.interestRateMonthly ∨
      d.interestRateMonthly = e.interestRateMonthly ∧ d.accountId ≤ e.accountId).Pairwise
        fun d e => aylikOran e ≤ aylikOran d := by
  have htotal : Std.Total fun d e : DebtItem => e.interestRateMonthly < d.interestRateMonthly ∨
      d.interestRateMonthly = e.interestRateMonthly ∧ d.accountId ≤ e.accountId := by
    refine ⟨fun d e => ?_⟩
    rcases lt_trichotomy d.interestRateMonthly e.interestRateMonthly with h | h | h
    · exact .inr (.inl h)
    · exact (le_total d.accountId e.accountId).imp (fun hle => .inr ⟨h, hle⟩) fun hle => .inr ⟨h.symm, hle⟩
    · exact .inl (.inl h)
  have htrans : IsTrans DebtItem fun d e => e.interestRateMonthly < d.interestRateMonthly ∨
      d.interestRateMonthly = e.interestRateMonthly ∧ d.accountId ≤ e.accountId := by
    refine ⟨fun d e f hde hef => ?_⟩
    rcases hde with hde | ⟨hde, hle⟩
    · rcases hef with hef | ⟨hef, -⟩
      · exact .inl (hef.trans hde)
      · exact .inl (hef ▸ hde)
    · rcases hef with hef | ⟨hef, hle'⟩
      · exact .inl (hde ▸ hef)
      · exact .inr ⟨hde.trans hef, hle.trans hle'⟩
  refine (List.pairwise_insertionSort _ debts).imp ?_
  intro d e hde
  have hle : e.interestRateMonthly ≤ d.interestRateMonthly := hde.elim le_of_lt fun h => h.1.ge
  exact div_le_div_of_nonneg_right hle (by norm_num)

end FinancialOs.Guarantees
