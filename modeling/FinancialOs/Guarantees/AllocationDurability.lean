import FinancialOs.Routers.Goals

/-! What the rules allot behind the commit of a new transaction, and whether any of it is
in the committed store once the request's session is closed. -/
namespace FinancialOs.Guarantees
open Library Store Rules Routers

/-- An active rule of an active goal in the scope of the transaction matches it, with something
to allot. -/
structure KuralUyar (d : GoalDb) (tx : Transaction) (goalId : ℕ) (goal : Goal) (id : ℕ)
    (rule : GoalRule) : Prop where
  hedef : d.goals.get? goalId = some goal
  kapsam : goalScope tx.userId tx.workspaceId goal = true
  durum : goal.status = .active
  kural : d.rules.get? id = some rule
  ait : rule.goalId = goalId
  aktif : rule.isActive = true
  uyar : ruleMatches d.db tx rule.criteria = .ok true
  tutar : computeAllocationAmount tx rule ≠ 0

/-- Every goal with a matching rule is linked to the transaction. -/
def Tahsisli (d : GoalDb) (txId : ℕ) (tx : Transaction) : Prop :=
  ∀ goalId goal id rule, KuralUyar d tx goalId goal id rule → zatenBagli d goalId txId = true

private theorem kuralUyar_iff {d e : GoalDb} (h : AyniKurallar d e) {tx : Transaction} {goalId id : ℕ}
    {goal : Goal} {rule : GoalRule} :
    KuralUyar e tx goalId goal id rule ↔ KuralUyar d tx goalId goal id rule := by
  constructor
  · rintro ⟨hedef, kapsam, durum, kural, ait, aktif, uyar, tutar⟩
    rw [h.goals] at hedef
    rw [h.rules] at kural
    rw [h.ruleMatches] at uyar
    exact ⟨hedef, kapsam, durum, kural, ait, aktif, uyar, tutar⟩
  · rintro ⟨hedef, kapsam, durum, kural, ait, aktif, uyar, tutar⟩
    rw [← h.goals] at hedef
    rw [← h.rules] at kural
    rw [← h.ruleMatches] at uyar
    exact ⟨hedef, kapsam, durum, kural, ait, aktif, uyar, tutar⟩

/-- After a successful creation the committed store links every goal with a matching rule exactly
when there is none that was not linked to that row id before. -/
theorem allocations_durable_iff (kurus : ℚ → ℚ) (s d : GoalDb) (istek : Istek) (payload : TransactionCreate)
    (yeni : YeniIslem) (hy : yeniIslem s.db istek payload = .ok yeni)
    (h : createTransactionRequest ⟨false, kurus⟩ s istek payload = .ok d) :
    Tahsisli d s.db.transactions.freshKey yeni.txn ↔
      ¬ ∃ goalId goal id rule, KuralUyar s yeni.txn goalId goal id rule ∧
        zatenBagli s goalId s.db.transactions.freshKey = false := by
  obtain ⟨ws, e, hw, he, rfl⟩ := createTransactionRequest_ok h
  have hk := kaydedilen_of_create hy hw he
  rw [close_evaluate rfl, Session.close_start]
  have hbagli : ∀ goalId txId, zatenBagli e goalId txId = zatenBagli s goalId txId := by
    intro goalId txId
    rw [zatenBagli, hk.allocations, zatenBagli]
  simp only [Tahsisli, kuralUyar_iff hk.kurallar, hbagli, not_exists, not_and, Bool.not_eq_false]

/-- A goal of 1000 whose rule takes every income in full, and a cash account. -/
def hedefliDb : GoalDb where
  db := Db.empty.writeAll [
    .account (.insert ⟨1, none, "Nakit", .cash, 1000, none, none, none, none, none, none, none, false⟩)]
  goals := Table.empty.push ⟨some 1, none, .cashTarget, 1000, none, .active, 0, 0⟩
  rules := Table.empty.push ⟨1, 0, ⟨some (.str "income"), none, none, none, none, none⟩, .full, none, true⟩
  allocations := .empty

def hedefIstegi : Istek := ⟨1, none, (Date.ofYmd? 2026 5 8).get rfl⟩

def yuzGelir : TransactionCreate :=
  ⟨some 1, some .income, some 100, none, none, none, none, none, none⟩

def yuzGelirIslemi : YeniIslem where
  txn := ⟨1, none, some 1, .income, 100, none, none, hedefIstegi.bugun, false⟩
  hesap := (1, ⟨1, none, "Nakit", .cash, 1000, none, none, none, none, none, none, none, false⟩)
  otomatik := true

/-- The store the creation leaves. -/
def gelirSonrasi : GoalDb := (createTransactionRequest ⟨false, id⟩ hedefliDb hedefIstegi yuzGelir).toOption.getD .empty

private theorem gelirSonrasi_ok :
    createTransactionRequest ⟨false, id⟩ hedefliDb hedefIstegi yuzGelir = .ok gelirSonrasi := by
  have hok : (createTransactionRequest ⟨false, id⟩ hedefliDb hedefIstegi yuzGelir).toOption.isSome = true := by
    decide +kernel
  cases h : createTransactionRequest ⟨false, id⟩ hedefliDb hedefIstegi yuzGelir with
  | error e =>
    rw [h] at hok
    cases hok
  | ok d =>
    rw [gelirSonrasi, h]
    rfl

private theorem yuzGelir_ok : yeniIslem hedefliDb.db hedefIstegi yuzGelir = .ok yuzGelirIslemi := by
  decide +kernel

theorem allocations_durable_iff_yuzGelir :
    Tahsisli gelirSonrasi hedefliDb.db.transactions.freshKey yuzGelirIslemi.txn ↔
      ¬ ∃ goalId goal id rule, KuralUyar hedefliDb yuzGelirIslemi.txn goalId goal id rule ∧
        zatenBagli hedefliDb goalId hedefliDb.db.transactions.freshKey = false :=
  allocations_durable_iff id hedefliDb gelirSonrasi hedefIstegi yuzGelir yuzGelirIslemi yuzGelir_ok
    gelirSonrasi_ok

/-- The income is stored, the rule matches it in full, and no allocation is left. -/
theorem rule_allocation_was_lost :
    ¬ ∀ (kurus : ℚ → ℚ) (s d : GoalDb) (istek : Istek) (payload : TransactionCreate) (yeni : YeniIslem),
      yeniIslem s.db istek payload = .ok yeni →
      createTransactionRequest ⟨false, kurus⟩ s istek payload = .ok d →
        Tahsisli d s.db.transactions.freshKey yeni.txn := by
  intro h
  have ht := h id hedefliDb gelirSonrasi hedefIstegi yuzGelir yuzGelirIslemi yuzGelir_ok gelirSonrasi_ok 1
    ⟨some 1, none, .cashTarget, 1000, none, .active, 0, 0⟩ 1
    ⟨1, 0, ⟨some (.str "income"), none, none, none, none, none⟩, .full, none, true⟩
    ⟨by decide +kernel, by decide, rfl, by decide +kernel, rfl, rfl, by decide +kernel, by decide +kernel⟩
  exact absurd ht (by decide +kernel)

end FinancialOs.Guarantees
