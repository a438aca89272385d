import FinancialOs.Rules.SimulationSweeps
import Mathlib.Tactic.NormNum
import Mathlib.Tactic.FieldSimp
import Mathlib.Algebra.Order.Ring.Rat

/-! Projections over adjacent horizons. The dates of incomes, loans and debts do not depend on where
a projection starts; those of a card are counted anew from the month it starts in. -/
namespace FinancialOs.Guarantees
open Library Store Rules

section Windows
variable {start mid stop : MonthDay}

/-- The dates that follow from one date fall into exactly one of two adjacent windows. -/
theorem nextPaymentInWindow_append (nextPay : Option MonthDay) (hmid : start ≤ mid) (hstop : mid ≤ stop) :
    nextPaymentInWindow nextPay start stop =
      nextPaymentInWindow nextPay start mid ++ nextPaymentInWindow nextPay mid stop := by
  cases nextPay with
  | none => rfl
  | some next =>
    have hmonth : mid.month ≤ stop.month := by
      rcases MonthDay.le_iff.mp hstop with h | h
      · exact h.le
      · exact h.1.le
    have hfuel : stop.month + 1 - next.month =
        mid.month + 1 - next.month + (stop.month + 1 - next.month - (mid.month + 1 - next.month)) := by omega
    simp only [nextPaymentInWindow]
    rw [MonthDay.monthlyDates_append hmid hstop]
    congr 1
    rw [hfuel]
    apply MonthDay.monthlyDates_fuel
    omega

/-- The income dates of the months of a window. -/
theorem gelirDongusu_eq (inc : IncomeSnap) (fuel : ℕ) (cursor : MonthDay)
    (hfuel : fuel = stop.month + 1 - cursor.month) (hcursor : cursor.month ≤ stop.month → cursor ≤ stop) :
    gelirDongusu inc start stop fuel cursor =
      ((List.range' cursor.month fuel).map (fun m => MonthDay.clamp m inc.dayOfMonth inc.day_pos)).filter
        (fun d => start < d ∧ d ≤ stop) := by
  induction fuel generalizing cursor with
  | zero => rfl
  | succ fuel ih =>
    have hle : cursor ≤ stop := hcursor (by omega)
    rw [gelirDongusu, if_pos hle, List.range'_succ, List.map_cons, List.filter_cons]
    simp only [decide_eq_true_eq]
    rw [ih]
    · split
      · rfl
      · rfl
    · change fuel = stop.month + 1 - (cursor.month + 1)
      omega
    · intro hm
      have hm : cursor.month + 1 ≤ stop.month := hm
      have hday := stop.day_range
      rw [MonthDay.le_iff]
      change cursor.month + 1 < stop.month ∨ cursor.month + 1 = stop.month ∧ min 1 _ ≤ stop.day
      rcases hm.lt_or_eq with hlt | heq
      · exact .inl hlt
      · exact .inr ⟨heq, (min_le_left _ _).trans hday.1⟩

theorem gelirGunleri_eq (inc : IncomeSnap) (h : start ≤ stop) : gelirGunleri inc start stop =
    ((List.range' start.month (stop.month + 1 - start.month)).map
      (fun m => MonthDay.clamp m inc.dayOfMonth inc.day_pos)).filter (fun d => start < d ∧ d ≤ stop) :=
  gelirDongusu_eq inc _ start rfl (fun _ => h)

/-- Months outside a window have no date in it. -/
private theorem filter_disinda {l : List ℕ} (inc : IncomeSnap)
    (h : ∀ m ∈ l, m < start.month ∨ stop.month < m) : (l.map (fun m => MonthDay.clamp m inc.dayOfMonth
      inc.day_pos)).filter (fun d => start < d ∧ d ≤ stop) = [] := by
  rw [List.filter_eq_nil_iff]
  intro d hd
  obtain ⟨m, hm, rfl⟩ := List.mem_map.mp hd
  simp only [decide_eq_true_eq, not_and, MonthDay.lt_iff, MonthDay.le_iff, MonthDay.clamp]
  have := h m hm
  omega

/-- A wider range of months finds the same dates. -/
private theorem filter_genis (inc : IncomeSnap) (hle : start ≤ stop) {ilk son : ℕ} (hilk : ilk ≤ start.month)
    (hson : stop.month ≤ son) : ((List.range' ilk (son + 1 - ilk)).map (fun m => MonthDay.clamp m inc.dayOfMonth
      inc.day_pos)).filter (fun d => start < d ∧ d ≤ stop) = gelirGunleri inc start stop := by
  have hm := MonthDay.month_le_of_le hle
  have hsplit : List.range' ilk (son + 1 - ilk) = List.range' ilk (start.month - ilk) ++
      (List.range' start.month (stop.month + 1 - start.month) ++ List.range' (stop.month + 1) (son - stop.month)) := by
    have h1 := List.range'_append_1 (s := start.month) (m := stop.month + 1 - start.month) (n := son - stop.month)
    have h2 := List.range'_append_1 (s := ilk) (m := start.month - ilk) (n := son + 1 - start.month)
    rw [show start.month + (stop.month + 1 - start.month) = stop.month + 1 by omega,
      show stop.month + 1 - start.month + (son - stop.month) = son + 1 - start.month by omega] at h1
    rw [show ilk + (start.month - ilk) = start.month by omega,
      show start.month - ilk + (son + 1 - start.month) = son + 1 - ilk by omega] at h2
    rw [h1, h2]
  have honce : ∀ m ∈ List.range' ilk (start.month - ilk), m < start.month ∨ stop.month < m := by
    intro m hmem
    rw [List.mem_range'_1] at hmem
    omega
  have hsonra : ∀ m ∈ List.range' (stop.month + 1) (son - stop.month), m < start.month ∨ stop.month < m := by
    intro m hmem
    rw [List.mem_range'_1] at hmem
    omega
  rw [gelirGunleri_eq inc hle, hsplit, List.map_append, List.map_append, List.filter_append, List.filter_append,
    filter_disinda inc honce, filter_disinda inc hsonra, List.nil_append, List.append_nil]

private theorem length_pencereler (hmid : start ≤ mid) (hstop : mid ≤ stop) (l : List MonthDay) :
    (l.filter (fun d => start < d ∧ d ≤ stop)).length =
      (l.filter (fun d => start < d ∧ d ≤ mid)).length + (l.filter (fun d => mid < d ∧ d ≤ stop)).length := by
  induction l with
  | nil => rfl
  | cons d l ih =>
    simp only [List.filter_cons, decide_eq_true_eq]
    by_cases h1 : d ≤ mid
    · have h2 : ¬ mid < d := h1.not_gt
      have h3 : d ≤ stop := h1.trans hstop
      simp only [h1, h2, h3, and_true, if_false]
      split
      · rw [List.length_cons, List.length_cons, ih]
        omega
      · exact ih
    · have h2 : mid < d := not_le.mp h1
      have h3 : start < d := hmid.trans_lt h2
      simp only [h1, h2, h3, and_false, true_and, if_false]
      split
      · rw [List.length_cons, List.length_cons, ih]
        omega
      · exact ih

theorem gelirGunleri_length (inc : IncomeSnap) (hmid : start ≤ mid) (hstop : mid ≤ stop) :
    (gelirGunleri inc start stop).length = (gelirGunleri inc start mid).length + (gelirGunleri inc mid stop).length := by
  have hm := MonthDay.month_le_of_le hmid
  have hs := MonthDay.month_le_of_le hstop
  rw [← filter_genis inc (hmid.trans hstop) (le_refl _) (le_refl _), ← filter_genis inc hmid (le_refl _) hs,
    ← filter_genis inc hstop hm (le_refl _)]
  exact length_pencereler hmid hstop _

theorem gelirToplami_add (incomes : List IncomeSnap) (hmid : start ≤ mid) (hstop : mid ≤ stop) :
    gelirToplami start stop incomes = gelirToplami start mid incomes + gelirToplami mid stop incomes := by
  rw [gelirToplami, gelirToplami, gelirToplami, ← List.sum_map_add]
  congr 1
  apply List.map_congr_left
  intro inc _
  split
  · rw [gelirGunleri_length inc hmid hstop]
    push_cast
    ring
  · rw [add_zero]

/-- A debt falls due in exactly one of two adjacent windows. -/
theorem borcSonrasi_borcSonrasi (hmid : start ≤ mid) (hstop : mid ≤ stop) (d : DebtSnap) :
    borcSonrasi mid stop (borcSonrasi start mid d) = borcSonrasi start stop d ∧
      borcFarki start mid d + borcFarki mid stop (borcSonrasi start mid d) = borcFarki start stop d := by
  by_cases h1 : vadesiGelir start mid d = true
  · have hodenmis : vadesiGelir mid stop { d with paidDate := d.dueDate } = false := by
      simp only [vadesiGelir, Bool.and_eq_true] at h1 ⊢
      cases hdue : d.dueDate with
      | none =>
        rw [hdue] at h1
        cases h1.2
      | some due => rfl
    have h2 : vadesiGelir start stop d = true := by
      simp only [vadesiGelir, Bool.and_eq_true, Option.any_eq_true, decide_eq_true_eq] at h1 ⊢
      obtain ⟨hnone, due, hdue, hlt, hle⟩ := h1
      exact ⟨hnone, due, hdue, hlt, hle.trans hstop⟩
    have hson : borcSonrasi start mid d = { d with paidDate := d.dueDate } := if_pos h1
    rw [hson, borcSonrasi, hodenmis, borcFarki, borcFarki, hodenmis, borcFarki, borcSonrasi, if_pos h1, if_pos h2,
      if_pos h2, if_neg Bool.false_ne_true, if_neg Bool.false_ne_true, add_zero]
    exact ⟨rfl, rfl⟩
  · have h2 : vadesiGelir start stop d = vadesiGelir mid stop d := by
      simp only [vadesiGelir, Bool.and_eq_true, not_and] at h1 ⊢
      cases hnone : d.paidDate.isNone with
      | false => rfl
      | true =>
        have hnot := h1 hnone
        rw [Bool.true_and, Bool.true_and]
        cases hdue : d.dueDate with
        | none => rfl
        | some due =>
          rw [hdue, Option.any_some, decide_eq_true_eq] at hnot
          rw [Option.any_some, Option.any_some, decide_eq_decide]
          constructor
          · exact fun h => ⟨not_le.mp (fun hle => hnot ⟨h.1, hle⟩), h.2⟩
          · exact fun h => ⟨hmid.trans_lt h.1, h.2⟩
    have hson : borcSonrasi start mid d = d := if_neg h1
    rw [hson, borcSonrasi, borcFarki, borcFarki, borcFarki, borcSonrasi, if_neg h1, h2, zero_add]
    exact ⟨rfl, rfl⟩

end Windows

/-- The sequence of a card's payment dates that starts in the month of the first projection has as
many dates in the second window as the one that starts anew with the second projection. -/
def KartGunleriAyni (start mid stop : MonthDay) (paymentDay : ℕ) : Prop :=
  (nextPaymentInWindow (kartBasi (some paymentDay) start) mid stop).length =
    (nextPaymentInWindow (kartBasi (some paymentDay) mid) mid stop).length

section CardDays
variable {start mid stop cursor : MonthDay}

/-- A day that every month has stays the same from month to month. -/
theorem nextMonth_clamp {day : ℕ} (month : ℕ) (h : 1 ≤ day) (h28 : day ≤ 28) :
    (MonthDay.clamp month day h).nextMonth = MonthDay.clamp (month + 1) day h := by
  have hlen := (monthLength_bounds month).1
  rw [MonthDay.nextMonth, MonthDay.clamp, MonthDay.clamp, MonthDay.mk.injEq]
  refine ⟨rfl, ?_⟩
  change min (min day (monthLength month)) (monthLength (month + 1)) = min day (monthLength (month + 1))
  rw [min_eq_left (h28.trans hlen)]

/-- The months before the window have no date in it. -/
theorem monthlyDates_clamp {day : ℕ} (h : 1 ≤ day) (h28 : day ≤ 28) (hstop : mid ≤ stop) (k fuel : ℕ) {month : ℕ}
    (hm : month + k = mid.month) : MonthDay.monthlyDates mid stop (k + fuel) (.clamp month day h) =
      MonthDay.monthlyDates mid stop fuel (.clamp mid.month day h) := by
  induction k generalizing month with
  | zero =>
    rw [Nat.zero_add, ← hm]
    rfl
  | succ k ih =>
    have hlt : MonthDay.clamp month day h < mid := by
      rw [MonthDay.lt_iff]
      change month < mid.month ∨ _
      omega
    rw [Nat.add_right_comm, MonthDay.monthlyDates, if_pos (hlt.le.trans hstop), if_neg hlt.not_gt, List.nil_append,
      nextMonth_clamp month h h28]
    exact ih (by omega)

/-- Cards with a payment day that every month has project alike over one horizon or two. -/
theorem kartGunleriAyni_of_le {day : ℕ} (h28 : day ≤ 28) (hmid : start ≤ mid) (hstop : mid ≤ stop) :
    KartGunleriAyni start mid stop day := by
  unfold KartGunleriAyni kartBasi
  by_cases h : 1 ≤ day
  · have hm := MonthDay.month_le_of_le hmid
    have hs := MonthDay.month_le_of_le hstop
    have hfuel : stop.month + 1 - start.month = mid.month - start.month + (stop.month + 1 - mid.month) := by omega
    simp only [Option.bind_some, dif_pos h, nextPaymentInWindow]
    change (MonthDay.monthlyDates mid stop (stop.month + 1 - start.month) _).length =
      (MonthDay.monthlyDates mid stop (stop.month + 1 - mid.month) _).length
    rw [hfuel, monthlyDates_clamp h h28 hstop _ _ (by omega)]
  · simp only [Option.bind_some, dif_neg h]

end CardDays

section Rows
variable {start mid stop : MonthDay} {a : AccountSnap}

private theorem iterate_alan {α : Type} {f : AccountSnap → AccountSnap} (alan : AccountSnap → α)
    (h : ∀ a, alan (f a) = alan a) (n : ℕ) (a : AccountSnap) : alan (f^[n] a) = alan a := by
  induction n with
  | zero => rfl
  | succ n ih => rw [Function.iterate_succ_apply', h, ih]

theorem nextPaymentDate_krediAy (n : ℕ) (a : AccountSnap) : (krediAy^[n] a).nextPaymentDate = a.nextPaymentDate := by
  apply iterate_alan AccountSnap.nextPaymentDate
  intro a
  unfold krediAy
  split
  · rfl
  · rfl

theorem paymentDay_kartAy (n : ℕ) (a : AccountSnap) : (kartAy^[n] a).paymentDay = a.paymentDay := by
  apply iterate_alan AccountSnap.paymentDay
  intro a
  unfold kartAy
  split
  · rfl
  · rfl

/-- A loan takes the same instalments in one window or in two. -/
theorem krediSonrasi_krediSonrasi (hmid : start ≤ mid) (hstop : mid ≤ stop) (a : AccountSnap) :
    krediSonrasi mid stop (krediSonrasi start mid a) = krediSonrasi start stop a ∧
      krediFarki start mid a + krediFarki mid stop (krediSonrasi start mid a) = krediFarki start stop a := by
  have hcount : taksitSayisi start stop a = taksitSayisi start mid a + taksitSayisi mid stop a := by
    rw [taksitSayisi, nextPaymentInWindow_append _ hmid hstop, List.length_append]
    rfl
  have hrest : taksitSayisi mid stop (krediSonrasi start mid a) = taksitSayisi mid stop a := by
    rw [taksitSayisi, krediSonrasi, nextPaymentDate_krediAy]
    rfl
  constructor
  · rw [krediSonrasi, hrest, krediSonrasi, krediSonrasi, hcount, add_comm, Function.iterate_add_apply]
  · rw [krediFarki, krediFarki, hrest, krediFarki, hcount, birikim_add]
    rfl

/-- A card does where its dates agree. -/
theorem kartSonrasi_kartSonrasi (hmid : start ≤ mid) (hstop : mid ≤ stop)
    (hkart : ∀ day, a.paymentDay = some day → KartGunleriAyni start mid stop day) :
    kartSonrasi mid mid stop (kartSonrasi start start mid a) = kartSonrasi start start stop a ∧
      kartFarki start start mid a + kartFarki mid mid stop (kartSonrasi start start mid a) =
        kartFarki start start stop a := by
  have hsame : asgariSayisi start mid stop a = asgariSayisi mid mid stop a := by
    unfold asgariSayisi
    cases hday : a.paymentDay with
    | none => rfl
    | some day => exact hkart day hday
  have hcount : asgariSayisi start start stop a = asgariSayisi start start mid a + asgariSayisi mid mid stop a := by
    rw [← hsame, asgariSayisi, nextPaymentInWindow_append _ hmid hstop, List.length_append]
    rfl
  have hrest : asgariSayisi mid mid stop (kartSonrasi start start mid a) = asgariSayisi mid mid stop a := by
    rw [asgariSayisi, kartSonrasi, paymentDay_kartAy]
    rfl
  constructor
  · rw [kartSonrasi, hrest, kartSonrasi, kartSonrasi, hcount, add_comm, Function.iterate_add_apply]
  · rw [kartFarki, kartFarki, hrest, kartFarki, hcount, birikim_add]
    rfl

/-- The two kinds of steps do not meet on one account. -/
theorem hesapSonrasi_loan (bas start stop : MonthDay) (h : a.accountType = .loan) :
    hesapSonrasi bas start stop a = krediSonrasi start stop a ∧ hesapFarki bas start stop a = krediFarki start stop a := by
  have htype : (krediSonrasi start stop a).accountType = .loan := ((krediAy_nakitDisi.iterate _).accountType a).trans h
  have hguard : ¬ ((krediSonrasi start stop a).accountType = .creditCard ∧
      bosEsigi < (krediSonrasi start stop a).balance) := fun hc => by rw [htype] at hc; cases hc.1
  obtain ⟨hson, hfark⟩ := iterate_durgun (f := kartAy) (d := kartNakit) (if_neg hguard) (if_neg hguard)
    (asgariSayisi bas start stop (krediSonrasi start stop a))
  refine ⟨hson, ?_⟩
  rw [hesapFarki, kartFarki, hfark, add_zero]

theorem hesapSonrasi_of_ne_loan (bas start stop : MonthDay) (h : a.accountType ≠ .loan) :
    hesapSonrasi bas start stop a = kartSonrasi bas start stop a ∧
      hesapFarki bas start stop a = kartFarki bas start stop a := by
  obtain ⟨hson, hfark⟩ := iterate_durgun (f := krediAy) (d := krediNakit) (if_neg (fun hl => h hl.1)) (if_neg h)
    (taksitSayisi start stop a)
  have hson : krediSonrasi start stop a = a := hson
  rw [hesapSonrasi, hesapFarki, hson, krediFarki, hfark, zero_add]
  exact ⟨rfl, rfl⟩

theorem hesapSonrasi_hesapSonrasi (hmid : start ≤ mid) (hstop : mid ≤ stop)
    (hkart : a.accountType = .creditCard → ∀ day, a.paymentDay = some day → KartGunleriAyni start mid stop day) :
    hesapSonrasi mid mid stop (hesapSonrasi start start mid a) = hesapSonrasi start start stop a ∧
      hesapFarki start start mid a + hesapFarki mid mid stop (hesapSonrasi start start mid a) =
        hesapFarki start start stop a := by
  have htype := (nakitDisi_hesapSonrasi start start mid).accountType a
  by_cases hl : a.accountType = .loan
  · rw [(hesapSonrasi_loan mid mid stop (htype.trans hl)).1, (hesapSonrasi_loan mid mid stop (htype.trans hl)).2,
      (hesapSonrasi_loan start start mid hl).1, (hesapSonrasi_loan start start mid hl).2,
      (hesapSonrasi_loan start start stop hl).1, (hesapSonrasi_loan start start stop hl).2]
    exact krediSonrasi_krediSonrasi hmid hstop a
  · have hl' : (hesapSonrasi start start mid a).accountType ≠ .loan := htype ▸ hl
    rw [(hesapSonrasi_of_ne_loan mid mid stop hl').1, (hesapSonrasi_of_ne_loan mid mid stop hl').2,
      (hesapSonrasi_of_ne_loan start start mid hl).1, (hesapSonrasi_of_ne_loan start start mid hl).2,
      (hesapSonrasi_of_ne_loan start start stop hl).1, (hesapSonrasi_of_ne_loan start start stop hl).2]
    by_cases hc : a.accountType = .creditCard
    · exact kartSonrasi_kartSonrasi hmid hstop (hkart hc)
    · have hdur (bas start stop : MonthDay) : kartSonrasi bas start stop a = a ∧ kartFarki bas start stop a = 0 :=
        iterate_durgun (f := kartAy) (d := kartNakit) (if_neg (fun h => hc h.1)) (if_neg (fun h => hc h.1)) _
      rw [(hdur start start mid).1, (hdur mid mid stop).1, (hdur mid mid stop).2, (hdur start start mid).2,
        (hdur start start stop).1, (hdur start start stop).2]
      exact ⟨rfl, add_zero 0⟩

end Rows

section Worlds
variable {w : WorldSnap} {m n : ℕ}

/-- Where the dates of its cards agree, a world comes to the same in one projection or in two. -/
theorem projectForward_add (hkart : ∀ k a, w.accounts.get? k = some a → a.accountType = .creditCard →
    ∀ day, a.paymentDay = some day →
      KartGunleriAyni w.asOf (w.asOf.addDays m) ((w.asOf.addDays m).addDays n) day) :
    projectForward (projectForward w m) n = projectForward w (m + n) := by
  have hmid := w.asOf.le_addDays m
  have hstop := (w.asOf.addDays m).le_addDays n
  have hf := nakitDisi_hesapSonrasi (w.asOf.addDays m) (w.asOf.addDays m) ((w.asOf.addDays m).addDays n)
  have hd := nakitsiz_hesapFarki (w.asOf.addDays m) (w.asOf.addDays m) ((w.asOf.addDays m).addDays n)
  have hborc (d : DebtSnap) := borcSonrasi_borcSonrasi hmid hstop d
  have hrows : (w.accounts.mapRows (hesapSonrasi w.asOf w.asOf (w.asOf.addDays m))).mapRows
      (hesapSonrasi (w.asOf.addDays m) (w.asOf.addDays m) ((w.asOf.addDays m).addDays n)) =
      w.accounts.mapRows (hesapSonrasi w.asOf w.asOf ((w.asOf.addDays m).addDays n)) := by
    rw [Table.mapRows_mapRows]
    apply Table.mapRows_congr
    exact fun k a ha => (hesapSonrasi_hesapSonrasi hmid hstop (hkart k a ha)).1
  have hfarks : w.accounts.total (hesapFarki w.asOf w.asOf (w.asOf.addDays m)) +
      (w.accounts.mapRows (hesapSonrasi w.asOf w.asOf (w.asOf.addDays m))).total
        (hesapFarki (w.asOf.addDays m) (w.asOf.addDays m) ((w.asOf.addDays m).addDays n)) =
      w.accounts.total (hesapFarki w.asOf w.asOf ((w.asOf.addDays m).addDays n)) := by
    rw [Table.total_mapRows, ← Table.total_add]
    apply Table.total_congr
    exact fun k a ha => (hesapSonrasi_hesapSonrasi hmid hstop (hkart k a ha)).2
  have hdebts : (w.debts.mapRows (borcSonrasi w.asOf (w.asOf.addDays m))).mapRows
      (borcSonrasi (w.asOf.addDays m) ((w.asOf.addDays m).addDays n)) =
      w.debts.mapRows (borcSonrasi w.asOf ((w.asOf.addDays m).addDays n)) := by
    rw [Table.mapRows_mapRows]
    exact Table.mapRows_congr (fun _ d _ => (hborc d).1)
  have hborclar : w.debts.total (borcFarki w.asOf (w.asOf.addDays m)) +
      (w.debts.mapRows (borcSonrasi w.asOf (w.asOf.addDays m))).total
        (borcFarki (w.asOf.addDays m) ((w.asOf.addDays m).addDays n)) =
      w.debts.total (borcFarki w.asOf ((w.asOf.addDays m).addDays n)) := by
    rw [Table.total_mapRows, ← Table.total_add]
    exact Table.total_congr (fun _ d _ => (hborc d).2)
  rw [projectForward_normal w (m + n), projectForward_normal (projectForward w m) n, projectForward_normal w m,
    asOf_nakitEkle, incomes_nakitEkle, debts_nakitEkle, MonthDay.addDays_add, total_nakitEkle _ hd]
  have hcash := congrArg WorldSnap.accounts (mapRows_nakitEkle ⟨w.asOf.addDays m,
      w.accounts.mapRows (hesapSonrasi w.asOf w.asOf (w.asOf.addDays m)), w.incomes,
      w.debts.mapRows (borcSonrasi w.asOf (w.asOf.addDays m))⟩ hf
      (gelirToplami w.asOf (w.asOf.addDays m) w.incomes +
        w.accounts.total (hesapFarki w.asOf w.asOf (w.asOf.addDays m)) +
        w.debts.total (borcFarki w.asOf (w.asOf.addDays m))))
  simp only at hcash ⊢
  rw [hcash, nakitEkle_mk, nakitEkle_nakitEkle, hrows, hdebts, gelirToplami_add w.incomes hmid hstop, ← hfarks,
    ← hborclar]
  congr 1
  ring

end Worlds

/-- The balances, the remaining instalments and the paid debts of a world. -/
def sonucu (w : WorldSnap) : List (ℕ × ℚ × Option ℤ) × List (ℕ × Option MonthDay) :=
  (w.accounts.rows.map (fun r => (r.1, r.2.balance, r.2.remainingInstallments)),
    w.debts.rows.map (fun r => (r.1, r.2.paidDate)))

/-- The credit cards are paid on some days only. -/
def KartlarGunlerde (w : WorldSnap) (gunler : Set ℕ) : Prop :=
  ∀ k a, w.accounts.get? k = some a → a.accountType = .creditCard → ∀ day, a.paymentDay = some day → day ∈ gunler

section OneCard
variable {a : AccountSnap} {start : MonthDay}

/-- A world of one account. -/
def tekHesap (start : MonthDay) (a : AccountSnap) : WorldSnap := ⟨start, Table.empty.push a, [], Table.empty⟩

theorem get?_tekHesap {k : ℕ} {b : AccountSnap} (h : (tekHesap start a).accounts.get? k = some b) : b = a := by
  have hrow := Table.get?_eq_some.mp h
  have hrows : (tekHesap start a).accounts.rows = [(1, a)] := rfl
  rw [hrows, List.mem_singleton] at hrow
  exact (Prod.mk.inj hrow).2

theorem projectForward_tekHesap (htype : a.accountType = .creditCard) (n : ℕ) :
    projectForward (tekHesap start a) n =
      tekHesap (start.addDays n) (kartSonrasi start start (start.addDays n) a) := by
  have hrow : hesapSonrasi start start (start.addDays n) a = kartSonrasi start start (start.addDays n) a :=
    (hesapSonrasi_of_ne_loan start start (start.addDays n) (by rw [htype]; decide)).1
  have hmap : (Table.empty.push a).mapRows (hesapSonrasi start start (start.addDays n)) =
      Table.empty.push (kartSonrasi start start (start.addDays n) a) := by
    rw [← hrow]
    rfl
  have hnone : WorldSnap.defaultCash ⟨start.addDays n,
      Table.empty.push (kartSonrasi start start (start.addDays n) a), [], Table.empty⟩ = none := by
    rw [WorldSnap.defaultCash, Option.map_eq_none_iff, Table.first?_eq_none]
    intro k b hb
    have hrow : b = kartSonrasi start start (start.addDays n) a := get?_tekHesap hb
    subst hrow
    have hcard : (kartSonrasi start start (start.addDays n) a).accountType = .creditCard :=
      ((kartAy_nakitDisi.iterate _).accountType a).trans htype
    simp [hcard]
  rw [projectForward_normal]
  change WorldSnap.nakitEkle ⟨start.addDays n, (Table.empty.push a).mapRows
    (hesapSonrasi start start (start.addDays n)), [], Table.empty⟩ _ = _
  rw [hmap, nakitEkle_none hnone]
  rfl

/-- A card on which a month's interest is twice its minimum payment. -/
def buyuyenKart (day : ℕ) (balance : ℚ) : AccountSnap := {
  accountType := .creditCard
  balance := balance
  isEmanet := false
  paymentDay := some day
  monthlyPayment := none
  remainingInstallments := none
  interestRate := some 100
  nextPaymentDate := none
  lotCount := none
  costPerLot := none
  currentPrice := none }

theorem kartAy_buyuyenKart (day : ℕ) {b : ℚ} (hb : 100 ≤ b) :
    kartAy (buyuyenKart day b) = buyuyenKart day (b * (3 / 2)) := by
  have hguard : bosEsigi < b := lt_of_lt_of_le (by norm_num [bosEsigi]) hb
  have hfaizli : (faizliKart (buyuyenKart day b)).balance = b * 2 := by
    simp only [faizliKart, buyuyenKart, Option.getD_some]
    ring
  have hmin : kartAsgarisi (b * 2) = b / 2 := by
    rw [kartAsgarisi, max_eq_left (by linarith), min_eq_left (by linarith)]
    ring
  rw [kartAy, if_pos ⟨rfl, hguard⟩, hfaizli, hmin, max_eq_right (by linarith)]
  simp only [buyuyenKart]
  congr 1
  ring

theorem iterate_buyuyenKart (day k n : ℕ) :
    kartAy^[n] (buyuyenKart day (1000 * (3 / 2) ^ k)) = buyuyenKart day (1000 * (3 / 2) ^ (k + n)) := by
  induction n with
  | zero => rfl
  | succ n ih =>
    have hpow : (1 : ℚ) ≤ (3 / 2) ^ (k + n) := one_le_pow₀ (by norm_num)
    rw [Function.iterate_succ_apply', ih, kartAy_buyuyenKart day (by linarith), mul_assoc, ← pow_succ, add_assoc]

/-- The balance of the card counts its payment dates. -/
theorem projectForward_buyuyenKart (start : MonthDay) (day k n : ℕ) :
    projectForward (tekHesap start (buyuyenKart day (1000 * (3 / 2) ^ k))) n = tekHesap (start.addDays n)
      (buyuyenKart day (1000 * (3 / 2) ^ (k + (nextPaymentInWindow (kartBasi (some day) start) start
        (start.addDays n)).length))) := by
  rw [projectForward_tekHesap rfl, kartSonrasi, iterate_buyuyenKart]
  rfl

end OneCard

/-- For one start and two horizons, every world whose cards are paid on some days comes to the same
in one projection or in two, exactly when the payment dates of each of these days agree. -/
theorem horizons_compose_iff (start : MonthDay) (m n : ℕ) (gunler : Set ℕ) :
    (∀ w : WorldSnap, w.asOf = start → KartlarGunlerde w gunler →
      sonucu (projectForward (projectForward w m) n) = sonucu (projectForward w (m + n))) ↔
      ∀ day ∈ gunler, KartGunleriAyni start (start.addDays m) ((start.addDays m).addDays n) day := by
  constructor
  · intro h day hday
    have hgun : KartlarGunlerde (tekHesap start (buyuyenKart day (1000 * (3 / 2) ^ 0))) gunler := by
      intro k a ha _ gun hgun
      rw [get?_tekHesap ha] at hgun
      rwa [← Option.some.inj hgun]
    have hesit := h _ rfl hgun
    rw [projectForward_buyuyenKart, projectForward_buyuyenKart, projectForward_buyuyenKart, MonthDay.addDays_add,
      nextPaymentInWindow_append _ (start.le_addDays m) ((start.addDays m).le_addDays n), List.length_append] at hesit
    have hbakiye := congrArg (fun s : List (ℕ × ℚ × Option ℤ) × List (ℕ × Option MonthDay) =>
      s.1.map (fun r => r.2.1)) hesit
    have hpow : (1000 : ℚ) * (3 / 2) ^ _ = 1000 * (3 / 2) ^ _ := (List.cons.inj hbakiye).1
    have hcount := pow_right_injective₀ (by norm_num) (by norm_num) (mul_left_cancel₀ (by norm_num) hpow)
    unfold KartGunleriAyni
    omega
  · intro h w hstart hgun
    subst hstart
    rw [projectForward_add]
    exact fun k a ha htype day hday => h day (hgun k a ha htype day hday)

/-- A card that is due on the last day of the month, beside the cash it is paid from. -/
def aySonuKarti : WorldSnap := {
  asOf := ((Date.ofYmd? 2026 1 27).get rfl).monthDay
  accounts := (Table.empty.push { buyuyenKart 31 5000 with accountType := .cash, paymentDay := none }).push
    { buyuyenKart 31 1000 with interestRate := some 4 }
  incomes := []
  debts := Table.empty }

/-- Over sixty days and then thirty the card is paid four times, over ninety three times: behind
28 February its dates stay on the 28th, unless a projection starts anew. -/
theorem split_horizon_pays_once_more :
    sonucu (projectForward (projectForward aySonuKarti 60) 30) ≠ sonucu (projectForward aySonuKarti (60 + 30)) := by
  decide +kernel

end FinancialOs.Guarantees
