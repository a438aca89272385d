import FinancialOs.Rules.CashForecast
import FinancialOs.Rules.SimulationSweeps

/-! The dates of a loan's instalments in the scenario engine and in the cash flow forecast: one moves its
date from month to month, the other returns to the day of the first instalment and counts them. -/
namespace FinancialOs.Guarantees
open Library Store Rules

/-- `_load_world`, of one account. -/
def hesapKopyasi (a : Account) (ek : HesapEki) (interestRate : Option ℚ) : AccountSnap where
  accountType := a.accountType
  balance := a.balance
  isEmanet := a.isEmanet
  paymentDay := a.paymentDay
  monthlyPayment := ek.monthlyPayment
  remainingInstallments := ek.remainingInstallments
  interestRate := interestRate
  nextPaymentDate := ek.nextPaymentDate.map Date.monthDay
  lotCount := a.lotCount
  costPerLot := a.costPerLot
  currentPrice := a.currentPrice

/-- The dates on which the projection over a window takes an instalment of a loan from cash. -/
def taksitGunleri (start stop : MonthDay) (a : AccountSnap) : List MonthDay :=
  if a.accountType = .loan ∧ a.monthlyPayment.getD 0 ≠ 0 then nextPaymentInWindow a.nextPaymentDate start stop else []

/-- The days of the events that the forecast has for a loan from the day behind the start on. -/
def tahminGunleri (ek : ℕ → HesapEki) (start stop : MonthDay) (loan : ℕ × Account) : List MonthDay :=
  (expandLoanPayments ⟨start.succ, stop.succ⟩ ek loan).map ForecastEvent.date

/-- On each of these dates the projection takes one instalment. -/
theorem krediFarki_eq (start stop : MonthDay) (a : AccountSnap) :
    krediFarki start stop a = -((taksitGunleri start stop a).length * a.monthlyPayment.getD 0) := by
  have htekrar (n : ℕ) : ∀ b : AccountSnap, b.accountType = .loan →
      birikim krediAy krediNakit n b = -(n * b.monthlyPayment.getD 0) := by
    induction n with
    | zero =>
      intro b _
      simp [birikim]
    | succ n ih =>
      intro b hb
      have hodeme : (krediAy b).monthlyPayment = b.monthlyPayment := by
        unfold krediAy
        split
        · rfl
        · rfl
      rw [birikim, ih _ ((krediAy_nakitDisi.accountType b).trans hb), hodeme, krediNakit, if_pos hb]
      push_cast
      ring
  by_cases htip : a.accountType = .loan
  · rw [krediFarki, htekrar _ a htip, taksitGunleri, taksitSayisi]
    by_cases hp : a.monthlyPayment.getD 0 = 0
    · simp [hp]
    · rw [if_pos ⟨htip, hp⟩]
  · have hayni : krediAy a = a := if_neg fun h => htip h.1
    have hnakit : krediNakit a = 0 := if_neg htip
    rw [krediFarki, (iterate_durgun hayni hnakit _).2, taksitGunleri, if_neg fun h => htip h.1]
    simp

section Dates
variable {loan : ℕ × Account} {taksit : ℚ} {start stop : MonthDay} {kalan : Option ℕ} {fuel anchorDay : ℕ}

theorem vadeGunu_mono {m n : ℕ} (h : m ≤ n) (gun : ℕ) : vadeGunu m gun ≤ vadeGunu n gun := by
  rcases h.eq_or_lt with rfl | hlt
  · exact le_refl _
  · exact MonthDay.le_iff.mpr (.inl hlt)

/-- The loop returns to the anchor day in every month, up to the end of the horizon or of the instalments. -/
theorem taksitDongusu_eq_map {current : MonthDay} (hcur : vadeGunu current.month anchorDay = current)
    (hfuel : stop.month < current.month + fuel) :
    ∃ n, (taksitDongusu loan taksit anchorDay stop fuel kalan current).map ForecastEvent.date =
        (List.range n).map (fun i => vadeGunu (current.month + i) anchorDay) ∧
      ∀ i, i < n ↔ vadeGunu (current.month + i) anchorDay < stop ∧ ∀ r ∈ kalan, i < r := by
  have hilk : vadeGunu (current.month + 0) anchorDay = current := hcur
  induction fuel generalizing current kalan with
  | zero =>
    refine ⟨0, rfl, fun i => iff_of_false (Nat.not_lt_zero i) fun h => ?_⟩
    have hlt := MonthDay.lt_iff.mp h.1
    rw [month_vadeGunu] at hlt
    omega
  | succ fuel ih =>
    by_cases hc : current < stop ∧ kalan ≠ some 0
    · obtain ⟨n, heq, hn⟩ := @ih (kalan.map (· - 1)) (vadeGunu (current.month + 1) anchorDay) rfl (by
        rw [month_vadeGunu]
        omega) rfl
      rw [month_vadeGunu] at heq hn
      refine ⟨n + 1, ?_, fun i => ?_⟩
      · rw [taksitDongusu, if_pos hc, List.map_cons, heq, List.range_succ_eq_map, List.map_cons, List.map_map,
          hilk]
        refine congrArg (current :: ·) (List.map_congr_left fun i _ => ?_)
        rw [Function.comp, Nat.succ_eq_add_one, add_assoc, Nat.add_comm 1 i]
      · cases i with
        | zero =>
          rw [hilk]
          refine iff_of_true (Nat.succ_pos n) ⟨hc.1, fun r hr => Nat.pos_of_ne_zero ?_⟩
          rintro rfl
          exact hc.2 hr
        | succ i =>
          rw [Nat.succ_lt_succ_iff, hn i, add_assoc, Nat.add_comm 1 i]
          refine and_congr_right fun _ => ?_
          cases kalan with
          | none => simp
          | some r =>
            simp only [Option.map_some, Option.mem_def, Option.some.injEq, forall_eq']
            omega
    · refine ⟨0, by rw [taksitDongusu, if_neg hc]; rfl, fun i => iff_of_false (Nat.not_lt_zero i) fun h => hc ⟨?_, ?_⟩⟩
      · refine lt_of_le_of_lt ?_ h.1
        rw [← hcur, month_vadeGunu]
        exact vadeGunu_mono (Nat.le_add_right _ i) anchorDay
      · rintro rfl
        exact Nat.not_lt_zero i (h.2 0 rfl)

end Dates

/-- The days of a month that the instalment's day does not reach, and a month whose end comes too early for
it, as far as the window goes. -/
def AyUcuTutar (d stop : MonthDay) : Prop :=
  ∀ i j, i < j → vadeGunu (d.month + j) (monthLength (d.month + i)) ≤ stop →
    min d.day (monthLength (d.month + j)) ≤ monthLength (d.month + i)

/-- The instalments last to the end of the window. -/
def TaksitYeter (kalan : Option ℤ) (d stop : MonthDay) : Prop :=
  ∀ r ∈ kalan, stop < vadeGunu (d.month + r.toNat) d.day

section Months
variable {d stop : MonthDay} {n : ℕ}

theorem day_vadeGunu (ay : ℕ) (d : MonthDay) : (vadeGunu ay d.day).day = min d.day (monthLength ay) := by
  have hday := d.day_range.1
  change min (max 1 d.day) (monthLength ay) = _
  rw [max_eq_right hday]

theorem iterate_nextMonth_le (d : MonthDay) (n : ℕ) : MonthDay.nextMonth^[n] d ≤ vadeGunu (d.month + n) d.day := by
  have hle := MonthDay.le_day_iterate_nextMonth_iff.mp (le_refl (MonthDay.nextMonth^[n] d).day)
  refine MonthDay.le_iff.mpr (.inr ⟨MonthDay.month_iterate_nextMonth d n, ?_⟩)
  rw [day_vadeGunu]
  exact le_min hle.1 (hle.2 n (le_refl n))

/-- The date that was moved stands on the anchor day exactly if every month before had that day. -/
theorem iterate_nextMonth_eq_iff : MonthDay.nextMonth^[n] d = vadeGunu (d.month + n) d.day ↔
    ∀ i ≤ n, min d.day (monthLength (d.month + n)) ≤ monthLength (d.month + i) := by
  have heq : MonthDay.nextMonth^[n] d = vadeGunu (d.month + n) d.day ↔
      vadeGunu (d.month + n) d.day ≤ MonthDay.nextMonth^[n] d :=
    ⟨fun h => h.ge, fun h => le_antisymm (iterate_nextMonth_le d n) h⟩
  rw [heq, MonthDay.le_iff, MonthDay.month_iterate_nextMonth, month_vadeGunu, day_vadeGunu,
    MonthDay.le_day_iterate_nextMonth_iff]
  constructor
  · rintro (hlt | ⟨-, -, h⟩)
    · omega
    · exact h
  · exact fun h => .inr ⟨rfl, min_le_left _ _, h⟩

/-- Within the window the moved dates stand on the anchor day exactly if no month was too short for them. -/
theorem ayUcuTutar_iff : AyUcuTutar d stop ↔
    ∀ n, MonthDay.nextMonth^[n] d ≤ stop → MonthDay.nextMonth^[n] d = vadeGunu (d.month + n) d.day := by
  constructor
  · intro h n hn
    refine iterate_nextMonth_eq_iff.mpr fun i hi => ?_
    by_contra hlt
    rw [not_le] at hlt
    have hday := MonthDay.le_day_iterate_nextMonth_iff.mp (le_refl (MonthDay.nextMonth^[n] d).day)
    -- the shortest month on the way is the one whose last day the moved date stands on
    have hkisa : (MonthDay.nextMonth^[n] d).day < min d.day (monthLength (d.month + n)) := (hday.2 i hi).trans_lt hlt
    rcases MonthDay.day_iterate_nextMonth d n with heq | ⟨j, hj, heq⟩
    · omega
    · have hjn : j < n := by
        refine lt_of_le_of_ne hj ?_
        rintro rfl
        omega
      rw [heq] at hkisa
      have hgun : vadeGunu (d.month + n) (monthLength (d.month + j)) = MonthDay.nextMonth^[n] d := by
        apply MonthDay.no_injective
        have hbas := (monthLength_bounds (d.month + j)).1
        change 32 * (d.month + n) + min (max 1 (monthLength (d.month + j))) (monthLength (d.month + n)) =
          32 * (MonthDay.nextMonth^[n] d).month + (MonthDay.nextMonth^[n] d).day
        rw [MonthDay.month_iterate_nextMonth, heq]
        omega
      exact hkisa.not_ge (h j n hjn (hgun ▸ hn))
  · intro h i j hij hle
    by_contra hlt
    rw [not_le] at hlt
    have hday := MonthDay.le_day_iterate_nextMonth_iff.mp (le_refl (MonthDay.nextMonth^[j] d).day)
    have hstop : MonthDay.nextMonth^[j] d ≤ stop := by
      refine le_trans (MonthDay.le_iff.mpr (.inr ⟨MonthDay.month_iterate_nextMonth d j, ?_⟩)) hle
      have hi := hday.2 i hij.le
      change _ ≤ min (max 1 (monthLength (d.month + i))) (monthLength (d.month + j))
      omega
    exact hlt.not_ge (iterate_nextMonth_eq_iff.mp (h j hstop) i hij.le)

theorem lt_succ_iff {x : MonthDay} : x < stop.succ ↔ x ≤ stop := by
  rw [← not_le, ← MonthDay.lt_iff_succ_le, not_lt]

theorem map_range_inj {α : Type} {f g : ℕ → α} {m : ℕ} :
    (List.range n).map f = (List.range m).map g ↔ n = m ∧ ∀ i < n, f i = g i := by
  constructor
  · intro h
    have hlen : n = m := by simpa using congrArg List.length h
    subst hlen
    refine ⟨rfl, fun i hi => ?_⟩
    exact List.map_inj_left.mp h i (List.mem_range.mpr hi)
  · rintro ⟨rfl, h⟩
    exact List.map_congr_left fun i hi => h i (List.mem_range.mp hi)

/-- Two walks of dates agree over a window exactly if the counted one lasts to its end and the moved one
stays on its day. -/
theorem walks_agree_iff {kalan : Option ℤ} {m : ℕ} (hn : ∀ i, i < n ↔ MonthDay.nextMonth^[i] d ≤ stop)
    (hm : ∀ i, i < m ↔ vadeGunu (d.month + i) d.day < stop.succ ∧ ∀ r ∈ kalan.map Int.toNat, i < r) :
    (List.range n).map (fun i => MonthDay.nextMonth^[i] d) = (List.range m).map (fun i => vadeGunu (d.month + i) d.day) ↔
      TaksitYeter kalan d stop ∧ AyUcuTutar d stop := by
  rw [map_range_inj, ayUcuTutar_iff]
  constructor
  · rintro ⟨rfl, heq⟩
    refine ⟨fun r hr => ?_, fun i hi => heq i ((hn i).mpr hi)⟩
    by_contra hle
    have hin : r.toNat < n := (hn _).mpr ((iterate_nextMonth_le d _).trans (not_lt.mp hle))
    exact lt_irrefl _ (((hm _).mp hin).2 r.toNat (Option.mem_map_of_mem Int.toNat hr))
  · rintro ⟨hyeter, hay⟩
    have hiff (i : ℕ) : i < n ↔ i < m := by
      rw [hn i, hm i, lt_succ_iff]
      constructor
      · intro hle
        rw [← hay i hle]
        refine ⟨hle, fun r hr => ?_⟩
        obtain ⟨z, hz, rfl⟩ := Option.mem_map.mp hr
        by_contra hge
        have hson := (hyeter z hz).trans_le (vadeGunu_mono (Nat.add_le_add_left (not_lt.mp hge) d.month) d.day)
        rw [← hay i hle] at hson
        exact hson.not_ge hle
      · exact fun h => (iterate_nextMonth_le d i).trans h.1
    refine ⟨?_, fun i hi => hay i ((hn i).mp hi)⟩
    rcases lt_trichotomy n m with hlt | heq | hgt
    · exact absurd ((hiff n).mpr hlt) (lt_irrefl n)
    · exact heq
    · exact absurd ((hiff m).mp hgt) (lt_irrefl m)

end Months

/-- The scenario engine and the forecast have a loan's instalments on the same dates of a window exactly if
the instalments last to its end and no month on the way is too short for the day of a later one. -/
theorem instalment_dates_agree_iff {ek : ℕ → HesapEki} {loan : ℕ × Account} {start stop : MonthDay} {d : Date} {p : ℚ}
    {interestRate : Option ℚ} (htip : loan.2.accountType = .loan) (hp : (ek loan.1).monthlyPayment = some p)
    (hpos : 0 < p) (hd : (ek loan.1).nextPaymentDate = some d) (hstart : start < d.monthDay) :
    taksitGunleri start stop (hesapKopyasi loan.2 (ek loan.1) interestRate) = tahminGunleri ek start stop loan ↔
      TaksitYeter (ek loan.1).remainingInstallments d.monthDay stop ∧ AyUcuTutar d.monthDay stop := by
  have hilk : vadeGunu d.monthDay.month d.monthDay.day = d.monthDay := by
    apply MonthDay.no_injective
    have hday := d.monthDay.day_range
    change 32 * d.monthDay.month + min (max 1 d.monthDay.day) (monthLength d.monthDay.month) =
      32 * d.monthDay.month + d.monthDay.day
    omega
  have hsim : taksitGunleri start stop (hesapKopyasi loan.2 (ek loan.1) interestRate) =
      MonthDay.monthlyDates start stop (stop.month + 1 - d.monthDay.month) d.monthDay := by
    have hodeme : (ek loan.1).monthlyPayment.getD 0 ≠ 0 := by
      rw [hp]
      exact hpos.ne'
    rw [taksitGunleri, if_pos ⟨htip, hodeme⟩]
    simp only [hesapKopyasi, hd, Option.map_some, nextPaymentInWindow]
  have htahmin : tahminGunleri ek start stop loan =
      (taksitDongusu loan p d.monthDay.day stop.succ (stop.succ.month + 1 - d.monthDay.month)
        ((ek loan.1).remainingInstallments.map Int.toNat) d.monthDay).map ForecastEvent.date := by
    have hmax : max d.monthDay start.succ = d.monthDay := max_eq_left (MonthDay.succ_le_of_lt hstart)
    simp only [tahminGunleri, expandLoanPayments, hd, hp, Option.getD_some, hmax]
    rw [if_neg hpos.ne']
  have hfuel : stop.month < d.monthDay.month + (stop.month + 1 - d.monthDay.month) := by omega
  have hfuel' : stop.succ.month < d.monthDay.month + (stop.succ.month + 1 - d.monthDay.month) := by omega
  obtain ⟨n, heq, hn⟩ := MonthDay.monthlyDates_eq_map hstart hfuel
  obtain ⟨m, heq', hm⟩ := @taksitDongusu_eq_map loan p stop.succ ((ek loan.1).remainingInstallments.map Int.toNat)
    _ d.monthDay.day d.monthDay hilk hfuel'
  rw [hsim, htahmin, heq, heq']
  exact walks_agree_iff hn hm

/-- A loan of the 31st of January. -/
def ayUcuKredisi : ℕ × Account :=
  (1, ⟨1, none, "Kredi", .loan, 3600, none, none, none, none, none, none, none, false⟩)

def ayUcuEki (kalan : Option ℤ) : ℕ → HesapEki := fun _ => ⟨some 300, kalan, Date.ofYmd? 2026 1 31, none⟩

def ocakGunu : Date := (Date.ofYmd? 2026 1 31).get rfl

def krediPencereBasi : MonthDay := .clamp ocakGunu.monthDay.month 18 (by decide)

def krediPencereSonu : MonthDay := .clamp (ocakGunu.monthDay.month + 3) 15 (by decide)

theorem instalment_dates_agree_iff_ayUcu :
    taksitGunleri krediPencereBasi krediPencereSonu (hesapKopyasi ayUcuKredisi.2 (ayUcuEki (some 2) 1) none) =
      tahminGunleri (ayUcuEki (some 2)) krediPencereBasi krediPencereSonu ayUcuKredisi ↔
    TaksitYeter (some 2) ocakGunu.monthDay krediPencereSonu ∧ AyUcuTutar ocakGunu.monthDay krediPencereSonu :=
  @instalment_dates_agree_iff (ayUcuEki (some 2)) ayUcuKredisi krediPencereBasi krediPencereSonu ocakGunu 300 none rfl rfl
    (by decide +kernel) rfl (by decide +kernel)

/-- Behind February the scenario engine stays on the 28th, and it goes on when no instalment is left; the forecast
returns to the 31st and stops. -/
theorem instalment_dates_drifted :
    (taksitGunleri krediPencereBasi krediPencereSonu (hesapKopyasi ayUcuKredisi.2 (ayUcuEki none 1) none)).map MonthDay.day =
        [31, 28, 28] ∧
      (tahminGunleri (ayUcuEki none) krediPencereBasi krediPencereSonu ayUcuKredisi).map MonthDay.day = [31, 28, 31] ∧
      (taksitGunleri krediPencereBasi krediPencereSonu (hesapKopyasi ayUcuKredisi.2 (ayUcuEki (some 1) 1) none)).length = 3 ∧
      (tahminGunleri (ayUcuEki (some 1)) krediPencereBasi krediPencereSonu ayUcuKredisi).length = 1 := by
  decide +kernel

end FinancialOs.Guarantees
