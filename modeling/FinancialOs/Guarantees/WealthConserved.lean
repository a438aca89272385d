import FinancialOs.Rules.SimulationSweeps
import Mathlib.Algebra.Order.BigOperators.Group.List
import Mathlib.Algebra.Order.Ring.Rat
import Mathlib.Tactic.Linarith

/-! Wealth over a projection: what the incomes, the debts and the interest change, and what is lost where a
loan takes more than is owed on it. -/
namespace FinancialOs.Guarantees
open Library Store Rules

/-- An account's share in the net worth. -/
def netPay (a : AccountSnap) : ℚ :=
  match a.accountType with
  | .cash => a.balance
  | .investment => if a.isEmanet then 0 else a.balance
  | .creditCard | .loan => -a.balance

/-- The interest of a loan for the month of an instalment. -/
def krediFaizi (a : AccountSnap) : ℚ :=
  if a.accountType = .loan ∧ a.monthlyPayment.getD 0 ≠ 0 then a.balance * (a.interestRate.getD 0 / 100) else 0

/-- The interest of a card for the month of a minimum payment. -/
def kartFaizi (a : AccountSnap) : ℚ :=
  if a.accountType = .creditCard ∧ bosEsigi < a.balance then a.balance * (a.interestRate.getD 0 / 100) else 0

/-- What an instalment takes from cash beyond all that is owed. -/
def taksitFazlasi (a : AccountSnap) : ℚ :=
  if a.accountType = .loan ∧ a.monthlyPayment.getD 0 ≠ 0 then
    max 0 (a.monthlyPayment.getD 0 - (a.balance + a.balance * (a.interestRate.getD 0 / 100)))
  else 0

section Steps
variable {a : AccountSnap}

/-- An instalment moves money from cash to the loan, apart from the interest and the overpayment. -/
theorem taksit_dengesi (htip : a.accountType = .loan) :
    a.balance - (krediAy a).balance + krediNakit a = -(krediFaizi a + taksitFazlasi a) := by
  by_cases hp : a.monthlyPayment.getD 0 = 0
  · simp [krediAy, krediNakit, krediFaizi, taksitFazlasi, hp]
  · simp only [krediAy, krediNakit, krediFaizi, taksitFazlasi, htip, hp, taksitSonrasi, ne_eq, not_false_eq_true,
      and_self, if_true]
    generalize a.balance * (a.interestRate.getD 0 / 100) = faiz
    rcases le_total (a.monthlyPayment.getD 0) (a.balance + faiz) with h | h
    · rw [max_eq_right (by linarith), max_eq_left (by linarith)]
      ring
    · rw [max_eq_left (by linarith), max_eq_right (by linarith)]
      ring

/-- A minimum payment takes no more than is owed on the card. -/
theorem asgari_dengesi (htip : a.accountType = .creditCard) :
    a.balance - (kartAy a).balance + kartNakit a = -kartFaizi a := by
  by_cases hbos : bosEsigi < a.balance
  · have hle : kartAsgarisi (faizliKart a).balance ≤ (faizliKart a).balance := min_le_right _ _
    simp only [kartAy, kartNakit, kartFaizi, htip, hbos, and_self, if_true]
    rw [max_eq_right (by linarith)]
    simp only [faizliKart]
    ring
  · simp [kartAy, kartNakit, kartFaizi, hbos]

end Steps

section Runs
variable {f : AccountSnap → AccountSnap} {d e g : AccountSnap → ℚ} {start stop : MonthDay}

theorem birikim_fun_add (f : AccountSnap → AccountSnap) (d e : AccountSnap → ℚ) (n : ℕ) (a : AccountSnap) :
    birikim f (fun a => d a + e a) n a = birikim f d n a + birikim f e n a := by
  induction n generalizing a with
  | zero => exact (add_zero 0).symm
  | succ n ih =>
    rw [birikim, birikim, birikim, ih]
    ring

theorem birikim_nonneg (h : ∀ a, 0 ≤ d a) (n : ℕ) (a : AccountSnap) : 0 ≤ birikim f d n a := by
  induction n generalizing a with
  | zero => exact le_refl 0
  | succ n ih => exact add_nonneg (h a) (ih (f a))

/-- What balances on each step balances over a run. -/
theorem birikim_dengesi {tip : AccountType} (hf : NakitDisi f)
    (h : ∀ a, a.accountType = tip → a.balance - (f a).balance + d a = -e a) (n : ℕ) {a : AccountSnap}
    (ha : a.accountType = tip) : a.balance - (f^[n] a).balance + birikim f d n a = -birikim f e n a := by
  induction n generalizing a with
  | zero =>
    rw [Function.iterate_zero_apply, birikim, birikim]
    ring
  | succ n ih =>
    have hstep := h a ha
    have hrest := ih ((hf.accountType a).trans ha)
    rw [Function.iterate_succ_apply, birikim, birikim]
    linarith

/-- The interest of an account over a window. -/
def hesapFaizi (bas start stop : MonthDay) (a : AccountSnap) : ℚ :=
  birikim krediAy krediFaizi (taksitSayisi start stop a) a +
    birikim kartAy kartFaizi (asgariSayisi bas start stop (krediSonrasi start stop a)) (krediSonrasi start stop a)

/-- What the instalments in a window take from cash beyond all that is owed. -/
def hesapFazlasi (start stop : MonthDay) (a : AccountSnap) : ℚ :=
  birikim krediAy taksitFazlasi (taksitSayisi start stop a) a

theorem kredi_dengesi (start stop : MonthDay) (a : AccountSnap) :
    netPay (krediSonrasi start stop a) - netPay a + krediFarki start stop a =
      -(birikim krediAy krediFaizi (taksitSayisi start stop a) a + hesapFazlasi start stop a) := by
  by_cases htip : a.accountType = .loan
  · have htip' : (krediSonrasi start stop a).accountType = .loan := ((krediAy_nakitDisi.iterate _).accountType a).trans htip
    have hdenge := birikim_dengesi krediAy_nakitDisi (fun a => taksit_dengesi) (taksitSayisi start stop a) htip
    rw [birikim_fun_add] at hdenge
    simp only [netPay, htip, htip']
    rw [hesapFazlasi, ← hdenge, krediSonrasi, krediFarki]
    ring
  · have hayni : krediAy a = a := if_neg fun h => htip h.1
    have hfark := iterate_durgun hayni (show krediNakit a = 0 from if_neg htip) (taksitSayisi start stop a)
    have hfaiz := iterate_durgun hayni (show krediFaizi a = 0 from if_neg fun h => htip h.1) (taksitSayisi start stop a)
    have hfazla := iterate_durgun hayni (show taksitFazlasi a = 0 from if_neg fun h => htip h.1) (taksitSayisi start stop a)
    rw [hesapFazlasi, krediSonrasi, krediFarki, hfark.1, hfark.2, hfaiz.2, hfazla.2]
    ring

theorem kart_dengesi (n : ℕ) (a : AccountSnap) :
    netPay (kartAy^[n] a) - netPay a + birikim kartAy kartNakit n a = -birikim kartAy kartFaizi n a := by
  by_cases htip : a.accountType = .creditCard
  · have htip' : (kartAy^[n] a).accountType = .creditCard := ((kartAy_nakitDisi.iterate n).accountType a).trans htip
    have hdenge := birikim_dengesi kartAy_nakitDisi (fun a => asgari_dengesi) n htip
    simp only [netPay, htip, htip']
    rw [← hdenge]
    ring
  · have hayni : kartAy a = a := if_neg fun h => htip h.1
    have hfark := iterate_durgun hayni (show kartNakit a = 0 from if_neg fun h => htip h.1) n
    have hfaiz := iterate_durgun hayni (show kartFaizi a = 0 from if_neg fun h => htip h.1) n
    rw [hfark.1, hfark.2, hfaiz.2]
    ring

/-- What an account changes in the net worth: its interest and its overpayments. -/
theorem hesap_dengesi (bas start stop : MonthDay) (a : AccountSnap) :
    netPay (hesapSonrasi bas start stop a) - netPay a + hesapFarki bas start stop a =
      -(hesapFaizi bas start stop a + hesapFazlasi start stop a) := by
  have hkredi := kredi_dengesi start stop a
  have hkart := kart_dengesi (asgariSayisi bas start stop (krediSonrasi start stop a)) (krediSonrasi start stop a)
  rw [hesapSonrasi, hesapFarki, hesapFaizi, kartSonrasi, kartFarki]
  linarith

theorem taksitFazlasi_nonneg (a : AccountSnap) : 0 ≤ taksitFazlasi a := by
  unfold taksitFazlasi
  split
  · exact le_max_left _ _
  · exact le_refl 0

theorem hesapFazlasi_nonneg (start stop : MonthDay) (a : AccountSnap) : 0 ≤ hesapFazlasi start stop a :=
  birikim_nonneg taksitFazlasi_nonneg _ a

/-- The balance behind some instalments, with nothing to stop it at zero. -/
def kalanBorc (oran taksit : ℚ) : ℕ → ℚ → ℚ
  | 0, balance => balance
  | n + 1, balance => kalanBorc oran taksit n (balance + balance * oran - taksit)

/-- The instalments that fall into a window do not take the loan below zero. -/
def TaksitlerBorcuAsmaz (start stop : MonthDay) (a : AccountSnap) : Prop :=
  a.accountType = .loan → a.monthlyPayment.getD 0 ≠ 0 →
    ∀ n, 1 ≤ n → n ≤ taksitSayisi start stop a →
      0 ≤ kalanBorc (a.interestRate.getD 0 / 100) (a.monthlyPayment.getD 0) n a.balance

theorem birikim_fazla_eq_zero_iff (n : ℕ) (a : AccountSnap) (htip : a.accountType = .loan)
    (hp : a.monthlyPayment.getD 0 ≠ 0) : birikim krediAy taksitFazlasi n a = 0 ↔
      ∀ m, 1 ≤ m → m ≤ n → 0 ≤ kalanBorc (a.interestRate.getD 0 / 100) (a.monthlyPayment.getD 0) m a.balance := by
  induction n generalizing a with
  | zero =>
    refine iff_of_true rfl fun m h1 h0 => ?_
    omega
  | succ n ih =>
    have hay : krediAy a = taksitSonrasi (a.monthlyPayment.getD 0) a := if_pos ⟨htip, hp⟩
    have hfazla : taksitFazlasi a =
        max 0 (a.monthlyPayment.getD 0 - (a.balance + a.balance * (a.interestRate.getD 0 / 100))) := if_pos ⟨htip, hp⟩
    have hson := birikim_nonneg (f := krediAy) taksitFazlasi_nonneg n (krediAy a)
    rw [birikim, add_eq_zero_iff_of_nonneg (taksitFazlasi_nonneg a) hson, hfazla, max_eq_left_iff]
    have hbolum : (∀ m, 1 ≤ m → m ≤ n + 1 →
        0 ≤ kalanBorc (a.interestRate.getD 0 / 100) (a.monthlyPayment.getD 0) m a.balance) ↔
        0 ≤ a.balance + a.balance * (a.interestRate.getD 0 / 100) - a.monthlyPayment.getD 0 ∧
          ∀ m, 1 ≤ m → m ≤ n → 0 ≤ kalanBorc (a.interestRate.getD 0 / 100) (a.monthlyPayment.getD 0) m
            (a.balance + a.balance * (a.interestRate.getD 0 / 100) - a.monthlyPayment.getD 0) := by
      constructor
      · intro h
        exact ⟨h 1 (le_refl 1) (by omega), fun m h1 hn => h (m + 1) (by omega) (by omega)⟩
      · rintro ⟨hilk, hkalan⟩ m h1 hn
        obtain ⟨m, rfl⟩ := Nat.exists_eq_add_of_le' h1
        cases m with
        | zero => exact hilk
        | succ m => exact hkalan (m + 1) (by omega) (by omega)
    rw [hbolum, sub_nonpos, sub_nonneg]
    refine and_congr_right fun hle => ?_
    rw [ih (krediAy a) ((krediAy_nakitDisi.accountType a).trans htip) (by rw [hay]; exact hp), hay]
    simp only [taksitSonrasi]
    rw [max_eq_right (by linarith)]

theorem hesapFazlasi_eq_zero_iff (start stop : MonthDay) (a : AccountSnap) :
    hesapFazlasi start stop a = 0 ↔ TaksitlerBorcuAsmaz start stop a := by
  rw [hesapFazlasi, TaksitlerBorcuAsmaz]
  by_cases h : a.accountType = .loan ∧ a.monthlyPayment.getD 0 ≠ 0
  · rw [birikim_fazla_eq_zero_iff _ a h.1 h.2]
    exact ⟨fun hn _ _ => hn, fun hn => hn h.1 h.2⟩
  · have hayni : krediAy a = a := if_neg h
    have hfazla := iterate_durgun hayni (show taksitFazlasi a = 0 from if_neg h) (taksitSayisi start stop a)
    exact iff_of_true hfazla.2 fun htip hp => absurd ⟨htip, hp⟩ h

/-- What is taken from cash for an account. -/
def alinan (bas start stop : MonthDay) (a : AccountSnap) : ℚ := -hesapFarki bas start stop a

/-- A loan is not below zero behind an instalment. -/
theorem kredi_sonu (n : ℕ) {a : AccountSnap} (htip : a.accountType = .loan) (hp : a.monthlyPayment.getD 0 ≠ 0) :
    0 ≤ (krediAy^[n + 1] a).balance := by
  have hay (b : AccountSnap) (htip : b.accountType = .loan) (hp : b.monthlyPayment.getD 0 ≠ 0) :
      krediAy b = taksitSonrasi (b.monthlyPayment.getD 0) b := if_pos ⟨htip, hp⟩
  induction n generalizing a with
  | zero =>
    rw [Function.iterate_succ_apply, hay a htip hp]
    exact le_max_left _ _
  | succ n ih =>
    rw [Function.iterate_succ_apply, hay a htip hp]
    exact ih htip hp

/-- What is taken for a loan is left to it, or nothing is taken. -/
theorem kredi_sonu_or (n : ℕ) {a : AccountSnap} (htip : a.accountType = .loan) :
    0 ≤ (krediAy^[n] a).balance ∨ birikim krediAy krediNakit n a = 0 := by
  by_cases hp : a.monthlyPayment.getD 0 = 0
  · have hayni : krediAy a = a := if_neg fun h => h.2 hp
    have hnakit : krediNakit a = 0 := by
      rw [krediNakit, if_pos htip, hp, neg_zero]
    exact .inr (iterate_durgun hayni hnakit n).2
  · cases n with
    | zero => exact .inr rfl
    | succ n => exact .inl (kredi_sonu n htip hp)

theorem kart_sonu (n : ℕ) {a : AccountSnap} (ha : 0 ≤ a.balance) : 0 ≤ (kartAy^[n] a).balance := by
  induction n generalizing a with
  | zero => exact ha
  | succ n ih =>
    rw [Function.iterate_succ_apply]
    apply ih
    unfold kartAy
    split
    · exact le_max_left _ _
    · exact ha

/-- What is taken from cash is owed, as long as no instalment takes too much. -/
theorem alinan_le (bas : MonthDay) {start stop : MonthDay} {a : AccountSnap}
    (htip : a.accountType = .loan ∨ a.accountType = .creditCard) (h : TaksitlerBorcuAsmaz start stop a) :
    alinan bas start stop a ≤ max 0 (a.balance + hesapFaizi bas start stop a) := by
  have hdenge := hesap_dengesi bas start stop a
  rw [(hesapFazlasi_eq_zero_iff start stop a).mpr h, add_zero] at hdenge
  have htip' : (hesapSonrasi bas start stop a).accountType = a.accountType :=
    (nakitDisi_hesapSonrasi bas start stop).accountType a
  have hborc : alinan bas start stop a =
      a.balance + hesapFaizi bas start stop a - (hesapSonrasi bas start stop a).balance := by
    rcases htip with htip | htip
    · simp only [netPay, htip, htip'] at hdenge
      rw [alinan]
      linarith
    · simp only [netPay, htip, htip'] at hdenge
      rw [alinan]
      linarith
  have hson : 0 ≤ (hesapSonrasi bas start stop a).balance ∨ hesapFarki bas start stop a = 0 := by
    rcases htip with htip | htip
    · have hkredi : (krediSonrasi start stop a).accountType = .loan := ((krediAy_nakitDisi.iterate _).accountType a).trans htip
      have hkart : ¬ ((krediSonrasi start stop a).accountType = .creditCard ∧ bosEsigi < (krediSonrasi start stop a).balance) := by
        rw [hkredi]
        exact fun h => by cases h.1
      have hdur := iterate_durgun (show kartAy (krediSonrasi start stop a) = krediSonrasi start stop a from if_neg hkart)
        (show kartNakit (krediSonrasi start stop a) = 0 from if_neg hkart)
        (asgariSayisi bas start stop (krediSonrasi start stop a))
      rw [hesapSonrasi, kartSonrasi, hesapFarki, kartFarki, hdur.1, hdur.2, add_zero]
      exact kredi_sonu_or _ htip
    · have hkredi : ¬ (a.accountType = .loan ∧ a.monthlyPayment.getD 0 ≠ 0) := by
        rw [htip]
        exact fun h => by cases h.1
      have hnakit : krediNakit a = 0 := if_neg (by rw [htip]; decide)
      have hdur := iterate_durgun (show krediAy a = a from if_neg hkredi) hnakit (taksitSayisi start stop a)
      rw [hesapSonrasi, hesapFarki, krediFarki, krediSonrasi, hdur.1, hdur.2, zero_add]
      by_cases hdolu : bosEsigi < a.balance
      · have hesik : (0 : ℚ) < bosEsigi := by decide +kernel
        exact .inl (kart_sonu _ (hesik.trans hdolu).le)
      · have hkart : ¬ (a.accountType = .creditCard ∧ bosEsigi < a.balance) := fun h => hdolu h.2
        exact .inr (iterate_durgun (show kartAy a = a from if_neg hkart) (show kartNakit a = 0 from if_neg hkart) _).2
  rcases hson with hson | hson
  · exact le_max_of_le_right (by linarith)
  · rw [alinan, hson, neg_zero]
    exact le_max_left _ _

end Runs

section Worlds
variable {w : WorldSnap} {k : ℕ}

theorem netWorth_eq (w : WorldSnap) : w.netWorth = w.accounts.total netPay := by
  have hpay (a : AccountSnap) : (if a.accountType = .cash then a.balance else 0) +
      (if a.accountType = .investment ∧ a.isEmanet = false then a.balance else 0) =
      netPay a + (if a.accountType = .creditCard then a.balance else 0) +
        if a.accountType = .loan then a.balance else 0 := by
    cases ht : a.accountType <;> cases he : a.isEmanet <;> simp [netPay, ht, he]
  have htoplam : w.cashTotal + w.investmentValue = w.accounts.total netPay + w.cardDebtTotal + w.loanDebtTotal := by
    simp only [WorldSnap.cashTotal, WorldSnap.investmentValue, WorldSnap.cardDebtTotal, WorldSnap.loanDebtTotal,
      WorldSnap.toplam, ← Table.total_add, decide_eq_true_eq, hpay]
  rw [WorldSnap.netWorth, htoplam]
  ring

theorem netWorth_nakitEkle (h : w.defaultCash = some k) (x : ℚ) : (w.nakitEkle x).netWorth = w.netWorth + x := by
  obtain ⟨a, ha, htip⟩ := WorldSnap.defaultCash_spec h
  rw [netWorth_eq, netWorth_eq, nakitEkle_some h, WorldSnap.hesapGuncelle, Table.total_modify ha]
  simp only [netPay, htip]
  ring

/-- The active incomes that fall into the window of a projection. -/
def donemGeliri (w : WorldSnap) (days : ℕ) : ℚ := gelirToplami w.asOf (w.asOf.addDays days) w.incomes

/-- The debts of a direction that are paid in the window. -/
def donemBorcu (w : WorldSnap) (days : ℕ) (direction : DebtDirection) : ℚ :=
  w.debts.total fun d => if vadesiGelir w.asOf (w.asOf.addDays days) d ∧ d.direction = direction then d.amount else 0

/-- The interest on the loans and the cards in the window. -/
def donemFaizi (w : WorldSnap) (days : ℕ) : ℚ := w.accounts.total (hesapFaizi w.asOf w.asOf (w.asOf.addDays days))

theorem total_borcFarki (w : WorldSnap) (days : ℕ) : w.debts.total (borcFarki w.asOf (w.asOf.addDays days)) =
    donemBorcu w days .receivable - donemBorcu w days .payable := by
  have hborc (d : DebtSnap) : borcFarki w.asOf (w.asOf.addDays days) d +
      (if vadesiGelir w.asOf (w.asOf.addDays days) d ∧ d.direction = .payable then d.amount else 0) =
      if vadesiGelir w.asOf (w.asOf.addDays days) d ∧ d.direction = .receivable then d.amount else 0 := by
    unfold borcFarki
    cases vadesiGelir w.asOf (w.asOf.addDays days) d <;> cases d.direction <;> simp
  have htoplam : w.debts.total (borcFarki w.asOf (w.asOf.addDays days)) + donemBorcu w days .payable =
      donemBorcu w days .receivable := by
    simp only [donemBorcu, ← Table.total_add, hborc]
  linarith

/-- The wealth that a projection loses beside the interest is what its instalments overpay. -/
theorem netWorth_projectForward (h : w.defaultCash = some k) (days : ℕ) :
    (projectForward w days).netWorth - w.netWorth =
      donemGeliri w days + donemBorcu w days .receivable - donemBorcu w days .payable - donemFaizi w days -
        w.accounts.total (hesapFazlasi w.asOf (w.asOf.addDays days)) := by
  have hpay : w.accounts.total (fun a => netPay (hesapSonrasi w.asOf w.asOf (w.asOf.addDays days) a)) +
      w.accounts.total (hesapFarki w.asOf w.asOf (w.asOf.addDays days)) + donemFaizi w days +
        w.accounts.total (hesapFazlasi w.asOf (w.asOf.addDays days)) = w.accounts.total netPay := by
    rw [donemFaizi, ← Table.total_add, ← Table.total_add, ← Table.total_add]
    refine Table.total_congr fun k a _ => ?_
    have hdenge := hesap_dengesi w.asOf w.asOf (w.asOf.addDays days) a
    linarith
  have hkasa : WorldSnap.defaultCash ⟨w.asOf.addDays days,
      w.accounts.mapRows (hesapSonrasi w.asOf w.asOf (w.asOf.addDays days)), w.incomes,
      w.debts.mapRows (borcSonrasi w.asOf (w.asOf.addDays days))⟩ = some k :=
    (defaultCash_mapRows w (nakitDisi_hesapSonrasi w.asOf w.asOf (w.asOf.addDays days))).trans h
  rw [projectForward_normal, netWorth_nakitEkle hkasa, netWorth_eq, netWorth_eq, Table.total_mapRows, total_borcFarki,
    ← hpay, donemGeliri]
  ring

end Worlds

/-- A projection conserves wealth: incomes and debts come in and go out, interest is lost, and no liability
takes more cash than it has with its interest. -/
def ServetKorunur (w : WorldSnap) (days : ℕ) : Prop :=
  (projectForward w days).netWorth - w.netWorth =
      donemGeliri w days + donemBorcu w days .receivable - donemBorcu w days .payable - donemFaizi w days ∧
    ∀ k a, w.accounts.get? k = some a → a.accountType = .loan ∨ a.accountType = .creditCard →
      alinan w.asOf w.asOf (w.asOf.addDays days) a ≤
        max 0 (a.balance + hesapFaizi w.asOf w.asOf (w.asOf.addDays days) a)

/-- A projection conserves wealth exactly if no loan's instalments in its window exceed what is left of it. -/
theorem wealth_conserved_iff {w : WorldSnap} (h : w.defaultCash.isSome) (days : ℕ) :
    ServetKorunur w days ↔
      ∀ k a, w.accounts.get? k = some a → TaksitlerBorcuAsmaz w.asOf (w.asOf.addDays days) a := by
  obtain ⟨k, hk⟩ := Option.isSome_iff_exists.mp h
  have hfark := netWorth_projectForward hk days
  have hsifir : w.accounts.total (hesapFazlasi w.asOf (w.asOf.addDays days)) = 0 ↔
      ∀ k a, w.accounts.get? k = some a → TaksitlerBorcuAsmaz w.asOf (w.asOf.addDays days) a := by
    constructor
    · intro hzero k a ha
      rw [← hesapFazlasi_eq_zero_iff]
      refine List.all_zero_of_le_zero_le_of_sum_eq_zero ?_ hzero (List.mem_map.mpr ⟨(k, a), Table.get?_eq_some.mp ha, rfl⟩)
      intro x hx
      obtain ⟨r, -, rfl⟩ := List.mem_map.mp hx
      exact hesapFazlasi_nonneg _ _ r.2
    · intro hhepsi
      refine List.sum_eq_zero fun x hx => ?_
      obtain ⟨r, hr, rfl⟩ := List.mem_map.mp hx
      exact (hesapFazlasi_eq_zero_iff _ _ r.2).mpr (hhepsi r.1 r.2 (Table.get?_eq_some.mpr hr))
  rw [← hsifir]
  constructor
  · intro hkorunur
    have hservet := hkorunur.1
    linarith
  · intro hzero
    refine ⟨by linarith, fun j a ha htip => ?_⟩
    exact alinan_le w.asOf htip (hsifir.mp hzero j a ha)

/-- A cash account and a loan that one more instalment would pay off. -/
def sonTaksitDunyasi : WorldSnap where
  asOf := ((Date.ofYmd? 2026 5 24).get rfl).monthDay
  accounts := (Table.empty.push
    ⟨.cash, 1000, false, none, none, none, none, none, none, none, none⟩).push
    ⟨.loan, 100, false, none, some 300, some 1, none, (Date.ofYmd? 2026 6 1).map Date.monthDay, none, none, none⟩
  incomes := []
  debts := Table.empty

theorem wealth_conserved_iff_sonTaksit : ServetKorunur sonTaksitDunyasi 30 ↔
    ∀ k a, sonTaksitDunyasi.accounts.get? k = some a →
      TaksitlerBorcuAsmaz sonTaksitDunyasi.asOf (sonTaksitDunyasi.asOf.addDays 30) a :=
  wealth_conserved_iff rfl 30

/-- The last instalment takes 300 from cash for the 100 that are owed. -/
theorem last_instalment_lost_wealth :
    (projectForward sonTaksitDunyasi 30).netWorth - sonTaksitDunyasi.netWorth = -200 ∧
      donemGeliri sonTaksitDunyasi 30 = 0 ∧ donemBorcu sonTaksitDunyasi 30 .receivable = 0 ∧
      donemBorcu sonTaksitDunyasi 30 .payable = 0 ∧ donemFaizi sonTaksitDunyasi 30 = 0 := by
  decide +kernel

end FinancialOs.Guarantees
