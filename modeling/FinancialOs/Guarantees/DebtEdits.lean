import FinancialOs.Executor.HandlerEffects
import FinancialOs.Routers.Debts

/-! Edits of a debt that leave its payment and its amount alone, and the cash leg they move nevertheless. -/
namespace FinancialOs.Guarantees
open Library Store Rules Executor Routers

/-- No account's balance differs. -/
def BakiyelerSabit (db son : Db) : Prop :=
  ∀ k, (son.accounts.get? k).map Account.balance = (db.accounts.get? k).map Account.balance

/-- A paid debt without an account that its leg went to, while there is one that a leg could go to. -/
def AyaksizOdenmis (db : Db) (istek : Istek) (debt : PersonalDebt) : Prop :=
  debt.isPaid = true ∧ debt.amount ≠ 0 ∧ izHesabi db debt.settlementAccountId = none ∧
    (varsayilanNakitHesap db istek.userId istek.wsId).isSome = true

section Edit
variable {db : Db} {istek : Istek} {id : ℕ} {eski yeni : PersonalDebt}

/-- The leg of an edit that keeps the payment and the amount: it is applied where it was not before. -/
theorem senkronizeNakit_sabit (hyon : yeni.direction = eski.direction) (hpaid : yeni.isPaid = eski.isPaid)
    (hamount : yeni.amount = eski.amount) :
    (senkronizeNakit db istek.userId yeni (.oku eski) istek.wsId).writes =
      if eski.isPaid ∧ izHesabi db eski.settlementAccountId = none then
        match varsayilanNakitHesap db istek.userId istek.wsId with
        | some h => bakiyeFarki h.1 (kapanisDelta eski.direction eski.amount)
        | none => []
      else [] := by
  set tutar := kapanisDelta eski.direction eski.amount with htutar
  have heski : (KapanisDurumu.oku eski).isPaid = eski.isPaid ∧
      (KapanisDurumu.oku eski).settlementAccountId = eski.settlementAccountId := ⟨rfl, rfl⟩
  have hetki : kapanisDelta (KapanisDurumu.oku eski).direction (KapanisDurumu.oku eski).amount = tutar := rfl
  have hbos (k : ℕ) : bakiyeFarki k 0 = [] := if_neg (not_not.mpr rfl)
  simp only [senkronizeNakit, eskiHesap, hedefHesap, heski, hetki, hyon, hpaid, hamount, ← htutar]
  cases hp : eski.isPaid with
  | false => simp [ayakYazimlari]
  | true =>
    cases hiz : izHesabi db eski.settlementAccountId with
    | some e =>
      -- where the leg was, it stays
      by_cases h0 : tutar = 0
      · simp [ayakYazimlari, h0, hbos]
      · simp [ayakYazimlari, h0, hbos]
    | none =>
      by_cases h0 : tutar = 0
      · simp only [h0, hbos]
        cases varsayilanNakitHesap db istek.userId istek.wsId with
        | none => simp [ayakYazimlari]
        | some h => simp [ayakYazimlari]
      · cases varsayilanNakitHesap db istek.userId istek.wsId with
        | none => simp [ayakYazimlari, h0]
        | some h => simp [ayakYazimlari, h0]

/-- A balance that moves is not kept. -/
theorem bakiyelerSabit_bakiyeFarki {k : ℕ} {a : Account} (ha : db.accounts.get? k = some a) (q : ℚ) :
    BakiyelerSabit db (db.writeAll (bakiyeFarki k q)) ↔ q = 0 := by
  constructor
  · intro h
    by_contra hq
    have hk := h k
    rw [bakiyeFarki, if_pos hq, writeAll_cons, writeAll_nil, accounts_bakiyeEkle, ha, Option.map_some, Option.map_some,
      if_pos rfl] at hk
    exact hq (add_eq_left.mp (Option.some.inj hk))
  · rintro rfl
    rw [bakiyeFarki, if_neg (not_not.mpr rfl)]
    exact fun _ => rfl

end Edit

/-- An edit that leaves the payment and the amount of a debt as they are moves no money, unless the debt was paid
without a leg and an account for one is there by now. -/
theorem edit_moves_no_money_iff (db : Db) (istek : Istek) (debtId : ℤ) (payload : DebtUpdate)
    (h : gecer db (updateDebt db istek debtId payload) = true) {debt : ℕ × PersonalDebt} {yeni : PersonalDebt}
    (hborc : findById db.debts istek.userId istek.wsId (.int debtId) = .ok (some debt))
    (hyeni : guncelBorc istek.bugun payload debt.2 = .ok yeni) (hpaid : yeni.isPaid = debt.2.isPaid)
    (hamount : yeni.amount = debt.2.amount) :
    BakiyelerSabit db (sonuc db (updateDebt db istek debtId payload)) ↔ ¬ AyaksizOdenmis db istek debt.2 := by
  obtain ⟨ws, hok, hcommit⟩ := gecer_iff.mp h
  obtain rfl : ws = borcYaz db istek debt.1 debt.2 yeni := by
    simp only [updateDebt, bind_eq_ok, stopIf_eq_ok, within_eq_ok, require_eq_ok, pure_eq_ok,
      exists_and_left, exists_const] at hok
    obtain ⟨_, _, hf, debt', rfl, yeni', hy, rfl⟩ := hok
    obtain rfl : debt = debt' := by simpa [hborc] using hf
    obtain rfl : yeni = yeni' := by simpa [hyeni] using hy
    rfl
  have hyon : yeni.direction = debt.2.direction := by
    simp only [guncelBorc, bind_eq_ok, stopIf_eq_ok, pure_eq_ok, exists_and_left, exists_const] at hyeni
    obtain ⟨_, _, _, _, _, rfl⟩ := hyeni
    rfl
  rw [hok, sonuc_of_flush (commit_ok.mp hcommit).2, borcYaz, writeAll_cons, senkronizeNakit_sabit hyon hpaid hamount,
    AyaksizOdenmis]
  split
  · next hayak =>
    cases hv : varsayilanNakitHesap db istek.userId istek.wsId with
    | none => exact iff_of_true (fun _ => rfl) fun h => Bool.false_ne_true h.2.2.2
    | some hesap =>
      have hrow (f : PersonalDebt → PersonalDebt) :
          (db.write (.debt (.update debt.1 f))).accounts.get? hesap.1 = some hesap.2 := (varsayilanHesap_spec hv).1
      refine (bakiyelerSabit_bakiyeFarki (hrow _) _).trans ?_
      rw [kapanisDelta_eq_zero]
      simp [hayak.1, hayak.2]
  · next hayak =>
    refine iff_of_true (fun _ => rfl) ?_
    rintro ⟨hodendi, -, hiz, -⟩
    exact hayak ⟨hodendi, hiz⟩

def tahsilGunu : Date := (Date.ofYmd? 2026 6 2).get rfl

def borcIstegi : Istek := ⟨1, none, tahsilGunu⟩

/-- A receivable of fifty, paid while there was no cash account. -/
def ayaksizAlacak : PersonalDebt :=
  ⟨1, none, "Efe", .receivable, 50, none, none, true, some tahsilGunu, none⟩

/-- A receivable that is not paid. -/
def bekleyenAlacak : PersonalDebt := ⟨1, none, "Ada", .receivable, 50, none, none, false, none, none⟩

def sonradanKasa : Account := ⟨1, none, "Nakit", .cash, 1000, none, none, none, none, none, none, none, false⟩

/-- The cash account came after the receivable was paid. -/
def kasaliAlacak : Db := Db.empty.writeAll [.debt (.insert ayaksizAlacak), .debt (.insert bekleyenAlacak),
  .account (.insert sonradanKasa)]

def aciklamaDuzelt : DebtUpdate := ⟨none, none, some (some "not"), none, none, none⟩

theorem edit_moves_no_money_iff_bekleyen :
    BakiyelerSabit kasaliAlacak (sonuc kasaliAlacak (updateDebt kasaliAlacak borcIstegi 2 aciklamaDuzelt)) ↔
      ¬ AyaksizOdenmis kasaliAlacak borcIstegi bekleyenAlacak :=
  edit_moves_no_money_iff kasaliAlacak borcIstegi 2 aciklamaDuzelt (by decide +kernel)
    (show findById kasaliAlacak.debts borcIstegi.userId borcIstegi.wsId (.int 2) = .ok (some (2, bekleyenAlacak)) by
      decide +kernel)
    (show guncelBorc borcIstegi.bugun aciklamaDuzelt bekleyenAlacak =
      .ok { bekleyenAlacak with description := some "not" } by decide +kernel) rfl rfl

/-- A new description of the receivable puts its fifty into the cash account. -/
theorem description_moved_money :
    ¬ ∀ (db : Db) (istek : Istek) (debtId : ℤ) (payload : DebtUpdate) (debt : ℕ × PersonalDebt) (yeni : PersonalDebt),
      gecer db (updateDebt db istek debtId payload) = true →
      findById db.debts istek.userId istek.wsId (.int debtId) = .ok (some debt) →
      guncelBorc istek.bugun payload debt.2 = .ok yeni → yeni.isPaid = debt.2.isPaid → yeni.amount = debt.2.amount →
      BakiyelerSabit db (sonuc db (updateDebt db istek debtId payload)) := by
  intro h
  have hk := h kasaliAlacak borcIstegi 1 aciklamaDuzelt (1, ayaksizAlacak)
    { ayaksizAlacak with description := some "not" } (by decide +kernel) (by decide +kernel) (by decide +kernel) rfl rfl 1
  exact absurd hk (by decide +kernel)

end FinancialOs.Guarantees
