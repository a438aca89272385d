import FinancialOs.Guarantees.LedgerGap
import FinancialOs.Library.MonthDays
import FinancialOs.Library.TransitionRuns
import FinancialOs.Library.WeightedLists
import FinancialOs.Rules.NetWorthBackfill

/-! The balance of a past day: today's balance with the later transactions undone is the opening balance with the
earlier ones applied. -/
namespace FinancialOs.Guarantees
open Library Store Rules Routers

/-- The effects on an account of its transactions that meet a condition. -/
def etkiler (db : Db) (k : ℕ) (tip : AccountType) (p : Transaction → Prop) [DecidablePred p] : ℚ :=
  db.transactions.total fun t => if t.accountId = some k ∧ p t then balanceDelta tip t.transactionType t.amount else 0

section Undo
variable {db : Db} {k : ℕ} {a : Account}

private theorem foldl_sub {α : Type} (f : α → ℚ) (l : List α) (q : ℚ) :
    l.foldl (fun bal t => bal - f t) q = q - (l.map f).sum := by
  induction l generalizing q with
  | nil => simp
  | cons t l ih =>
    rw [List.foldl_cons, ih, List.map_cons, List.sum_cons]
    ring

theorem balanceAt_eq (db : Db) (account : ℕ × Account) (targetDate : Date) :
    balanceAt db account targetDate = account.2.balance -
      etkiler db account.1 account.2.accountType fun t => targetDate.monthDay < t.transactionDate.monthDay := by
  rw [balanceAt, foldl_sub, sonrakiler, Table.select, sum_filter_eq]
  simp only [decide_eq_true_eq]
  rfl

/-- The effects up to a day and those after it are all of them. -/
theorem etkiler_bolunur (db : Db) (k : ℕ) (tip : AccountType) (targetDate : Date) : bagliToplam db k tip =
    etkiler db k tip (fun t => t.transactionDate.monthDay ≤ targetDate.monthDay) +
      etkiler db k tip (fun t => targetDate.monthDay < t.transactionDate.monthDay) := by
  unfold bagliToplam etkiler Table.total
  rw [← List.sum_map_add]
  refine congrArg List.sum (List.map_congr_left fun r _ => ?_)
  rcases le_or_gt r.2.transactionDate.monthDay targetDate.monthDay with h | h
  · simp [h, h.not_gt]
  · simp [h, h.not_ge]

end Undo

/-- A request for a new transaction. -/
def islemKaydet (db : Db) (istek : Istek × TransactionCreate) : Db := sonuc db (createTransaction db istek.1 istek.2)

/-- The account is there with its type, and its balance is the opening balance with its transactions applied. -/
structure Islenmis (k : ℕ) (tip : AccountType) (acilis : ℚ) (db : Db) : Prop where
  hesap : ∃ b, db.accounts.get? k = some b ∧ b.accountType = tip
  acik : acik (fun _ => acilis) db k = 0

section History
variable {k : ℕ} {tip : AccountType} {acilis : ℚ} {db : Db}

theorem islenmis_iff : Islenmis k tip acilis db ↔
    ∃ b, db.accounts.get? k = some b ∧ b.accountType = tip ∧ b.balance = acilis + bagliToplam db k tip := by
  constructor
  · rintro ⟨⟨b, hb, rfl⟩, hacik⟩
    refine ⟨b, hb, rfl, ?_⟩
    rw [acik, hesapAcigi, hb] at hacik
    dsimp only at hacik
    linarith
  · rintro ⟨b, hb, rfl, hbalance⟩
    refine ⟨⟨b, hb, rfl⟩, ?_⟩
    rw [acik, hesapAcigi, hb]
    dsimp only
    linarith

/-- A transaction that is entered with its balance leg keeps the account's books. -/
theorem islenmis_islemKaydet {istek : Istek × TransactionCreate} (h : Islenmis k tip acilis db)
    (hoto : istek.2.autoUpdateBalance.getD true = true) : Islenmis k tip acilis (islemKaydet db istek) := by
  rcases sonuc_cases db (createTransaction db istek.1 istek.2) with he | ⟨ws, hws, he, -⟩
  · rwa [islemKaydet, he]
  · obtain ⟨yeni, hy, rfl⟩ := createTransaction_ok hws
    obtain ⟨-, -, -, -, -, -, hflag⟩ := yeniIslem_ok hy
    rw [islemKaydet, he, if_pos (hflag.trans hoto)]
    obtain ⟨⟨b, hb, htip⟩, hacik⟩ := h
    refine ⟨?_, (acik_create hy k).trans hacik⟩
    rw [writeAll_cons, writeAll_cons, writeAll_nil, applyToBalance, accounts_bakiyeEkle]
    have hget : (db.write (.transaction (.insert yeni.txn))).accounts.get? k = some b := hb
    rw [hget, Option.map_some]
    refine ⟨_, rfl, ?_⟩
    by_cases hk : k = yeni.hesap.1
    · rwa [if_pos hk]
    · rwa [if_neg hk]

/-- After any history of entered transactions the balance of every day is the opening balance with the transactions
up to that day applied, in whatever order they came. -/
theorem balance_reconstructed {a : Account} (ha : db.accounts.get? k = some a)
    (hbos : ∀ r ∈ db.transactions.rows, r.2.accountId ≠ some k) (gecmis : List (Istek × TransactionCreate))
    (hoto : ∀ istek ∈ gecmis, istek.2.autoUpdateBalance.getD true = true) :
    ∃ b, (run islemKaydet db gecmis).accounts.get? k = some b ∧ ∀ targetDate,
      balanceAt (run islemKaydet db gecmis) (k, b) targetDate = a.balance +
        etkiler (run islemKaydet db gecmis) k a.accountType fun t => t.transactionDate.monthDay ≤ targetDate.monthDay := by
  have hstart : Islenmis k a.accountType a.balance db := by
    have hsifir : bagliToplam db k a.accountType = 0 := by
      refine List.sum_eq_zero fun x hx => ?_
      obtain ⟨r, hr, rfl⟩ := List.mem_map.mp hx
      exact if_neg (hbos r hr)
    exact islenmis_iff.mpr ⟨a, ha, rfl, by rw [hsifir, add_zero]⟩
  have hrun : Islenmis k a.accountType a.balance (run islemKaydet db gecmis) := by
    clear ha hbos
    induction gecmis generalizing db with
    | nil => exact hstart
    | cons istek gecmis ih =>
      exact ih (fun i hi => hoto i (List.mem_cons_of_mem _ hi))
        (islenmis_islemKaydet hstart (hoto istek List.mem_cons_self))
  obtain ⟨b, hb, htip, hbalance⟩ := islenmis_iff.mp hrun
  refine ⟨b, hb, fun targetDate => ?_⟩
  rw [balanceAt_eq, htip, hbalance, etkiler_bolunur _ _ _ targetDate]
  ring

end History

def kayitGunu : Date := (Date.ofYmd? 2026 6 8).get rfl

/-- An empty account, then an income and before it an expense of the same day. -/
def acilisDb : Db := { Db.empty with
  accounts := Table.empty.push ⟨1, none, "Kasa", .cash, 1000, none, none, none, none, none, none, none, false⟩ }

def ikiKayitIstegi : List (Istek × TransactionCreate) := [
  (⟨1, none, kayitGunu⟩, ⟨some 1, some .income, some 250, none, none, none, none, none, none⟩),
  (⟨1, none, kayitGunu⟩, ⟨some 1, some .expense, some 40, none, none, none, none, none, none⟩)]

theorem balance_reconstructed_kayitlar :
    ∃ b, (run islemKaydet acilisDb ikiKayitIstegi).accounts.get? 1 = some b ∧ ∀ targetDate,
      balanceAt (run islemKaydet acilisDb ikiKayitIstegi) (1, b) targetDate = 1000 +
        etkiler (run islemKaydet acilisDb ikiKayitIstegi) 1 .cash fun t => t.transactionDate.monthDay ≤ targetDate.monthDay :=
  @balance_reconstructed 1 acilisDb ⟨1, none, "Kasa", .cash, 1000, none, none, none, none, none, none, none, false⟩ rfl
    (fun _ h => absurd h List.not_mem_nil) ikiKayitIstegi (by decide)

end FinancialOs.Guarantees
