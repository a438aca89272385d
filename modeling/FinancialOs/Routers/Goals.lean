import FinancialOs.Library.SavepointSessions
import FinancialOs.Routers.Transactions
import FinancialOs.Rules.GoalRules

/-! Allocating transactions to goals: by hand, and by the rules that run behind the commit
of a new transaction. -/
namespace FinancialOs.Routers
open Library Store Rules

/-- What the database driver decides: whether releasing the outermost savepoint publishes, and
what the two-decimal amount column makes of an amount. -/
structure Surucu where
  releaseYayinlar : Bool
  kurus : ℚ → ℚ

/-- The goal of a rule is active. -/
def hedefAktif (d : GoalDb) (rule : GoalRule) : Bool :=
  (d.goals.get? rule.goalId).any (fun goal => goal.status = .active)

/-- The unique constraint on goal and transaction. -/
def zatenBagli (d : GoalDb) (goalId transactionId : ℕ) : Bool :=
  d.allocations.any (fun a => a.goalId = goalId ∧ a.transactionId = transactionId)

def tahsisEkle (a : GoalAllocation) (d : GoalDb) : GoalDb :=
  { d with allocations := d.allocations.push a }

/-- The allocation a rule makes, with the amount as its column stores it. -/
def kuralTahsisi (v : Surucu) (txId : ℕ) (tx : Transaction) (r : ℕ × GoalRule) : GoalAllocation :=
  ⟨r.2.goalId, txId, v.kurus (computeAllocationAmount tx r.2), .rule, some r.1⟩

/-- One allocation inside its own savepoint; a goal that is linked already is passed over. -/
def savepointTahsisi (v : Surucu) (a : GoalAllocation) (s : Session GoalDb) : Session GoalDb × Bool :=
  if zatenBagli s.current a.goalId a.transactionId then (s.beginNested.rollbackTo, false)
  else ((s.beginNested.write (tahsisEkle a)).release v.releaseYayinlar, true)

/-- The rules one after the other, collecting the goals they allot to. What a criterion raises
ends the loop. -/
def kurallariIsle (v : Surucu) (d : GoalDb) (txId : ℕ) (tx : Transaction) :
    List (ℕ × GoalRule) → Session GoalDb → List ℕ → Session GoalDb × Except PyError (List ℕ)
  | [], s, hedefler => (s, .ok hedefler)
  | r :: rs, s, hedefler =>
    if hedefAktif d r.2 then
      match ruleMatches d.db tx r.2.criteria with
      | .error e => (s, .error e)
      | .ok false => kurallariIsle v d txId tx rs s hedefler
      | .ok true =>
        if computeAllocationAmount tx r.2 = 0 then kurallariIsle v d txId tx rs s hedefler
        else
          let (s', yeni) := savepointTahsisi v (kuralTahsisi v txId tx r) s
          kurallariIsle v d txId tx rs s' (if yeni then hedefler ++ [r.2.goalId] else hedefler)
    else kurallariIsle v d txId tx rs s hedefler

/-- Refresh the affected goals; the first failure ends it. -/
def hedefleriTazele : List ℕ → Session GoalDb → Session GoalDb
  | [], s => s
  | g :: gs, s => match refreshGoal s.current g with
    | .error _ => s
    | .ok d => hedefleriTazele gs (s.write (fun _ => d))

/-- `evaluate_rules_for_transaction(transaction_id, db)`, with what it raises swallowed by its caller. -/
def evaluateRulesForTransaction (v : Surucu) (txId : ℕ) (s : Session GoalDb) : Session GoalDb :=
  match s.current.db.transactions.get? txId with
  | none => s
  | some tx => match kurallariIsle v s.current txId tx (kapsamKurallari s.current tx) s [] with
    | (s', .error _) => s'
    | (s', .ok hedefler) => hedefleriTazele hedefler s'

/-- The whole creation request: the commit, the rules behind it, and the session closed at the end. -/
def createTransactionRequest (v : Surucu) (s : GoalDb) (istek : Istek) (payload : TransactionCreate) :
    Except UcHatasi GoalDb := do
  let ws ← createTransaction s.db istek payload
  let d ← within .hata (s.yaz ws)
  return (evaluateRulesForTransaction v s.db.transactions.freshKey (Session.start d)).close

def updateTransactionRequest (s : GoalDb) (istek : Istek) (txnId : ℤ) (payload : TransactionUpdate) :
    Except UcHatasi GoalDb := do
  let ws ← updateTransaction s.db istek txnId payload
  within .hata (s.yaz ws)

def deleteTransactionRequest (s : GoalDb) (istek : Istek) (txnId : ℤ) (autoRevertBalance : Bool) :
    Except UcHatasi GoalDb := do
  let ws ← deleteTransaction s.db istek txnId autoRevertBalance
  within .hata (s.yaz ws)

/-- The goal a path names, if the request sees it. -/
def hedefBul (s : GoalDb) (istek : Istek) (goalId : ℤ) : Except PyError (Option (ℕ × Goal)) := do
  let anahtar ← primaryKey (.int goalId)
  return anahtar.bind (fun k =>
    ((s.goals.get? k).filter (goalScope istek.userId istek.wsId)).map (fun goal => (k, goal)))

def createAllocation (v : Surucu) (s : GoalDb) (istek : Istek) (goalId transactionId : ℤ) (amount : ℚ) :
    Except UcHatasi GoalDb := do
  stopIf .sema (10 ^ 12 < |amount|)
  let hedef ← within .hata (hedefBul s istek goalId)
  let goal ← require (.http 404 "Goal not found") hedef
  let islem ← within .hata (findById s.db.transactions istek.userId istek.wsId (.int transactionId))
  let tx ← require (.http 404 "Transaction not found") islem
  stopIf (.http 422 "Allocation tutarı 0 olamaz.") (amount = 0)
  let bagli := s.allocations.total (bagliTutar tx.1)
  let tutar := formatPara |tx.2.amount| 2
  let zaten := formatPara bagli 2
  let istenen := formatPara |amount| 2
  stopIf (.http 422 s!"Allocation tutarı transaction tutarını aşıyor. İşlem: {tutar}, zaten bağlı (tüm hedefler): {zaten}, istenen: {istenen}.")
    (|tx.2.amount| < |amount| + bagli)
  stopIf (.http 409 "This transaction is already linked to this goal") (zatenBagli s goal.1 tx.1)
  within .hata (refreshGoal (tahsisEkle ⟨goal.1, tx.1, v.kurus amount, .manual, none⟩ s) goal.1)

def deleteAllocation (s : GoalDb) (istek : Istek) (allocationId : ℤ) : Except UcHatasi GoalDb := do
  let anahtar ← within .hata (primaryKey (.int allocationId))
  let alloc ← require (.http 404 "Allocation not found")
    (anahtar.bind (fun k => (s.allocations.get? k).map (fun a => (k, a))))
  let _ ← require (.http 403 "Access denied")
    ((s.goals.get? alloc.2.goalId).filter (goalScope istek.userId istek.wsId))
  within .hata (refreshGoal { s with allocations := s.allocations.erase alloc.1 } alloc.2.goalId)

/-- The body of a goal's creation; of a plan only its presence is looked at. -/
structure GoalCreate where
  goalType : GoalType
  title : String
  targetAmount : ℚ
  plan : Bool

/-- The body of an update: a field is not sent, or sent with a value that may be null. -/
structure GoalUpdate where
  title : Option (Option String)
  targetAmount : Option (Option ℚ)
  status : Option (Option GoalStatus)
  plan : Option Bool

def hedefBasligi (s : String) : Bool := 1 ≤ s.length ∧ s.length ≤ 200

def GoalCreate.uygun (data : GoalCreate) : Bool :=
  (data.goalType = .debtFreedom || data.goalType = .cashTarget) && hedefBasligi data.title &&
    (0 < data.targetAmount && data.targetAmount ≤ 10 ^ 12)

/-- Only the engine makes a goal achieved. -/
def GoalUpdate.uygun (data : GoalUpdate) : Bool :=
  data.title.join.all hedefBasligi && data.targetAmount.join.all (0 < ·) &&
    data.status.join.all (· ≠ .achieved)

def planHatasi : UcHatasi := .http 422 "plan yalnız debt_freedom hedefine bağlanır"

/-- `calculate_baseline_for_debt_freedom`: the loans and cards of the scope with a debt on them. -/
def calculateBaselineForDebtFreedom (db : Db) (istek : Istek) : ℚ :=
  roundHalfUp (db.accounts.total (fun a =>
    if scopeFilter istek.userId istek.wsId a ∧ (a.accountType = .loan ∨ a.accountType = .creditCard) ∧
        0 < a.balance then
      a.balance
    else 0)) 2

/-- The refresh behind the first commit of a goal; what it raises leaves that commit. -/
def tazeleVeKaydet (d : GoalDb) (goalId : ℕ) : GoalDb := (refreshGoal d goalId).toOption.getD d

def yeniHedef (v : Surucu) (db : Db) (istek : Istek) (payload : GoalCreate) : Goal := {
  userId := some istek.userId
  workspaceId := istek.wsId
  goalType := payload.goalType
  targetAmount := v.kurus payload.targetAmount
  baselineAmount :=
    if payload.goalType = .debtFreedom then some (calculateBaselineForDebtFreedom db istek) else none
  status := .active
  currentAmount := 0
  progressPercent := 0 }

def createGoal (v : Surucu) (s : GoalDb) (istek : Istek) (payload : GoalCreate) : Except UcHatasi GoalDb := do
  stopIf .sema (payload.uygun = false)
  stopIf planHatasi (payload.plan ∧ payload.goalType ≠ .debtFreedom)
  return tazeleVeKaydet { s with goals := s.goals.push (yeniHedef v s.db istek payload) } s.goals.freshKey

def updateGoal (v : Surucu) (s : GoalDb) (istek : Istek) (goalId : ℤ) (payload : GoalUpdate) :
    Except UcHatasi GoalDb := do
  stopIf .sema (payload.uygun = false)
  let hedef ← within .hata (hedefBul s istek goalId)
  let goal ← require (.http 404 "Goal not found") hedef
  stopIf planHatasi (payload.plan = some true ∧ goal.2.goalType ≠ .debtFreedom)
  stopIf (.hata .databaseError) (payload.title = some none)
  let targetAmount ← zorunlu (payload.targetAmount.map (Option.map v.kurus)) goal.2.targetAmount
  let status ← zorunlu payload.status goal.2.status
  let yeni := { goal.2 with targetAmount := targetAmount, status := status }
  within .hata (denetleHedef goal.1 yeni)
  return tazeleVeKaydet { s with goals := s.goals.modify goal.1 (fun _ => yeni) } goal.1

theorem createTransactionRequest_ok {v : Surucu} {s d : GoalDb} {istek : Istek} {payload : TransactionCreate}
    (h : createTransactionRequest v s istek payload = .ok d) :
    ∃ ws e, createTransaction s.db istek payload = .ok ws ∧ s.yaz ws = .ok e ∧
      d = (evaluateRulesForTransaction v s.db.transactions.freshKey (Session.start e)).close := by
  simp only [createTransactionRequest, bind_eq_ok, within_eq_ok, pure_eq_ok] at h
  obtain ⟨ws, hw, e, he, rfl⟩ := h
  exact ⟨ws, e, hw, he, rfl⟩

/-- Refreshing a goal leaves the committed state to the caller. -/
theorem close_hedefleriTazele (gs : List ℕ) (s : Session GoalDb) :
    (hedefleriTazele gs s).close = s.close := by
  induction gs generalizing s with
  | nil => rfl
  | cons g gs ih =>
    unfold hedefleriTazele
    split
    · rfl
    · rw [ih, Session.close_write]

/-- Two stores on which every rule decides alike. -/
structure AyniKurallar (d e : GoalDb) : Prop where
  goals : e.goals = d.goals
  rules : e.rules = d.rules
  tipler : ∀ k, (e.db.accounts.get? k).map Account.accountType =
    (d.db.accounts.get? k).map Account.accountType

theorem AyniKurallar.ruleMatches {d e : GoalDb} (h : AyniKurallar d e) (tx : Transaction)
    (c : Criteria) : ruleMatches e.db tx c = ruleMatches d.db tx c := by
  have htip : accountTypeUyar e.db tx c.accountType = accountTypeUyar d.db tx c.accountType := by
    cases c.accountType with
    | none => rfl
    | some allowed =>
      cases hk : tx.accountId with
      | none => simp only [accountTypeUyar, hk, Option.bind_none]
      | some k =>
        have := h.tipler k
        simp only [accountTypeUyar, hk, Option.bind_some]
        cases he : e.db.accounts.get? k with
        | none =>
          rw [he, Option.map_none, eq_comm, Option.map_eq_none_iff] at this
          rw [this]
        | some b =>
          rw [he, Option.map_some, eq_comm, Option.map_eq_some_iff] at this
          obtain ⟨a, ha, hab⟩ := this
          rw [ha]
          exact congrArg (izinli · allowed) hab.symm
  simp only [Rules.ruleMatches, htip]

/-- The commit of a creation: the new row, and nothing else that a rule or an allocation reads. -/
structure Kaydedilen (s e : GoalDb) (tx : Transaction) : Prop where
  kurallar : AyniKurallar s e
  allocations : e.allocations = s.allocations
  islemler : e.db.transactions = s.db.transactions.push tx

theorem kaydedilen_of_create {s e : GoalDb} {istek : Istek} {payload : TransactionCreate} {ws : List Write}
    {yeni : YeniIslem} (hy : yeniIslem s.db istek payload = .ok yeni)
    (hw : createTransaction s.db istek payload = .ok ws) (he : s.yaz ws = .ok e) :
    Kaydedilen s e yeni.txn := by
  obtain ⟨yeni', hy', rfl⟩ := createTransaction_ok hw
  obtain rfl : yeni' = yeni := by simpa [hy'] using hy
  obtain ⟨hdb, hgoals, hrules, hallocs⟩ := GoalDb.yaz_ok he
  cases hoto : yeni'.otomatik with
  | false =>
    simp only [hoto, Bool.false_eq_true, if_false] at hdb hallocs
    refine ⟨⟨hgoals, hrules, fun k => by rw [hdb]; rfl⟩, ?_, by rw [hdb]; rfl⟩
    rw [hallocs]
    exact Table.keep_all fun a => by simp [silinenIslem]
  | true =>
    simp only [hoto, if_true] at hdb hallocs
    refine ⟨⟨hgoals, hrules, fun k => ?_⟩, ?_, by rw [hdb]; rfl⟩
    · rw [hdb, writeAll_cons, writeAll_cons, writeAll_nil, applyToBalance, accounts_bakiyeEkle,
        Option.map_map]
      apply congrFun
      apply congrArg
      funext a
      simp only [Function.comp]
      split <;> rfl
    · rw [hallocs]
      exact Table.keep_all fun a => by simp [silinenIslem, applyToBalance, bakiyeEkle]

private theorem silinen_etkiYaz (db : Db) (istek : Istek) (txn : Transaction) (reverse : Bool) :
    (etkiYaz db istek txn reverse).filterMap silinenIslem = [] := by
  unfold etkiYaz
  cases bagliHesap db istek txn <;> rfl

/-- An update that is carried out rewrites its own row and links nothing. -/
theorem updateTransactionRequest_ok {s d : GoalDb} {istek : Istek} {txnId : ℤ} {payload : TransactionUpdate}
    (h : updateTransactionRequest s istek txnId payload = .ok d) :
    d.allocations = s.allocations ∧ ∃ id eski yeni,
      findById s.db.transactions istek.userId istek.wsId (.int txnId) = .ok (some (id, eski)) ∧
      guncelIslem s.db istek payload eski = .ok yeni ∧
      ∀ j, d.db.transactions.get? j = if j = id then some yeni else s.db.transactions.get? j := by
  simp only [updateTransactionRequest, bind_eq_ok, within_eq_ok] at h
  obtain ⟨ws, hw, hd⟩ := h
  obtain ⟨hdb, _, _, hallocs⟩ := GoalDb.yaz_ok hd
  obtain ⟨id, eski, yeni, hf, hy, rfl⟩ := updateTransaction_ok hw
  have hrow : s.db.transactions.get? id = some eski := (findById_eq_some.mp hf).2.1
  have hupd : ∀ j, (s.db.transactions.modify id (fun _ => yeni)).get? j =
      if j = id then some yeni else s.db.transactions.get? j := by
    intro j
    rw [Table.get?_modify]
    by_cases hj : j = id
    · rw [if_pos hj, if_pos hj, hj, hrow, Option.map_some]
    · rw [if_neg hj, if_neg hj]
  cases hoto : payload.otomatik with
  | false =>
    simp only [hoto, Bool.false_eq_true, if_false] at hdb hallocs
    refine ⟨?_, id, eski, yeni, hf, hy, ?_⟩
    · rw [hallocs]
      exact Table.keep_all fun a => by simp [silinenIslem]
    · rw [hdb]
      exact hupd
  | true =>
    simp only [hoto, if_true] at hdb hallocs
    refine ⟨?_, id, eski, yeni, hf, hy, ?_⟩
    · rw [hallocs]
      exact Table.keep_all fun a => by
        simp [List.filterMap_append, List.filterMap_cons, silinen_etkiYaz, silinenIslem]
    · rw [hdb, writeAll_append, writeAll_cons, transactions_etkiYaz]
      have hmid : ((s.db.writeAll (etkiYaz s.db istek eski true)).write
          (.transaction (.update id (fun _ => yeni)))).transactions =
            (s.db.writeAll (etkiYaz s.db istek eski true)).transactions.modify id (fun _ => yeni) := rfl
      rw [hmid, transactions_etkiYaz]
      exact hupd

/-- A deletion that is carried out takes the row and its allocations with it. -/
theorem deleteTransactionRequest_ok {s d : GoalDb} {istek : Istek} {txnId : ℤ} {autoRevert : Bool}
    (h : deleteTransactionRequest s istek txnId autoRevert = .ok d) :
    ∃ id txn, findById s.db.transactions istek.userId istek.wsId (.int txnId) = .ok (some (id, txn)) ∧
      d.db.transactions = s.db.transactions.erase id ∧
      d.allocations = s.allocations.keep (fun a => a.transactionId ≠ id) := by
  simp only [deleteTransactionRequest, bind_eq_ok, within_eq_ok] at h
  obtain ⟨ws, hw, hd⟩ := h
  obtain ⟨hdb, _, _, hallocs⟩ := GoalDb.yaz_ok hd
  obtain ⟨id, txn, hf, rfl⟩ := deleteTransaction_ok.mp hw
  refine ⟨id, txn, hf, ?_, ?_⟩
  · rw [hdb, writeAll_append]
    have hlast : ∀ e : Db, (e.writeAll [.transaction (.delete id)]).transactions = e.transactions.erase id :=
      fun e => rfl
    rw [hlast]
    cases autoRevert with
    | false => rfl
    | true =>
      rw [if_pos rfl]
      exact congrArg (Table.erase · id) (transactions_etkiYaz s.db s.db istek txn true)
  · rw [hallocs]
    cases autoRevert with
    | false => simp [silinenIslem]
    | true => simp [List.filterMap_append, silinen_etkiYaz, silinenIslem]

/-- A manual allocation that is carried out fits into what is left of its transaction. -/
theorem createAllocation_ok {v : Surucu} {s d : GoalDb} {istek : Istek} {goalId transactionId : ℤ} {amount : ℚ}
    (h : createAllocation v s istek goalId transactionId amount = .ok d) :
    ∃ g id tx, findById s.db.transactions istek.userId istek.wsId (.int transactionId) = .ok (some (id, tx)) ∧
      |amount| + s.allocations.total (bagliTutar id) ≤ |tx.amount| ∧ d.db = s.db ∧
      d.allocations = s.allocations.push ⟨g, id, v.kurus amount, .manual, none⟩ := by
  simp only [createAllocation, bind_eq_ok, within_eq_ok, require_eq_ok, stopIf_eq_ok, exists_and_left,
    exists_const] at h
  obtain ⟨_, _, _, goal, _, _, hf, tx, rfl, _, hfit, _, hd⟩ := h
  obtain ⟨hdb, _, hallocs⟩ := refreshGoal_ok hd
  exact ⟨goal.1, tx.1, tx.2, hf, not_lt.mp hfit, hdb, hallocs⟩

theorem deleteAllocation_ok {s d : GoalDb} {istek : Istek} {allocationId : ℤ}
    (h : deleteAllocation s istek allocationId = .ok d) :
    ∃ id a, s.allocations.get? id = some a ∧ d.db = s.db ∧ d.allocations = s.allocations.erase id := by
  simp only [deleteAllocation, bind_eq_ok, within_eq_ok, require_eq_ok] at h
  obtain ⟨anahtar, _, alloc, ha, _, _, hd⟩ := h
  obtain ⟨k, _, hk⟩ := Option.bind_eq_some_iff.mp ha
  obtain ⟨a, hg, rfl⟩ := Option.map_eq_some_iff.mp hk
  obtain ⟨hdb, _, hallocs⟩ := refreshGoal_ok hd
  exact ⟨k, a, hg, hdb, hallocs⟩

/-- A manual allocation ends with the refresh of its goal, over the store with the new row. -/
theorem createAllocation_tazele {v : Surucu} {s d : GoalDb} {istek : Istek} {goalId transactionId : ℤ} {amount : ℚ}
    (h : createAllocation v s istek goalId transactionId amount = .ok d) :
    ∃ g id, (s.goals.get? g).isSome = true ∧
      refreshGoal (tahsisEkle ⟨g, id, v.kurus amount, .manual, none⟩ s) g = .ok d := by
  simp only [createAllocation, bind_eq_ok, within_eq_ok, require_eq_ok, stopIf_eq_ok, exists_and_left,
    exists_const] at h
  obtain ⟨_, hedef, hbul, goal, rfl, _, _, tx, rfl, _, _, _, hd⟩ := h
  refine ⟨goal.1, tx.1, ?_, hd⟩
  simp only [hedefBul, bind_eq_ok, pure_eq_ok] at hbul
  obtain ⟨anahtar, _, hg⟩ := hbul
  obtain ⟨k, _, hk⟩ := Option.bind_eq_some_iff.mp hg
  obtain ⟨g, hfilter, rfl⟩ := Option.map_eq_some_iff.mp hk
  exact Option.isSome_iff_exists.mpr ⟨g, (Option.filter_eq_some_iff.mp hfilter).1⟩

/-- Releasing an allocation ends with the refresh of its goal, over the store without the row. -/
theorem deleteAllocation_tazele {s d : GoalDb} {istek : Istek} {allocationId : ℤ}
    (h : deleteAllocation s istek allocationId = .ok d) :
    ∃ id a, s.allocations.get? id = some a ∧
      refreshGoal { s with allocations := s.allocations.erase id } a.goalId = .ok d := by
  simp only [deleteAllocation, bind_eq_ok, within_eq_ok, require_eq_ok] at h
  obtain ⟨anahtar, _, alloc, ha, _, _, hd⟩ := h
  obtain ⟨k, _, hk⟩ := Option.bind_eq_some_iff.mp ha
  obtain ⟨a, hg, rfl⟩ := Option.map_eq_some_iff.mp hk
  exact ⟨k, a, hg, hd⟩

/-- The three ledger requests leave the goals alone. -/
theorem goals_updateTransactionRequest {s d : GoalDb} {istek : Istek} {txnId : ℤ} {payload : TransactionUpdate}
    (h : updateTransactionRequest s istek txnId payload = .ok d) : d.goals = s.goals := by
  simp only [updateTransactionRequest, bind_eq_ok, within_eq_ok] at h
  obtain ⟨ws, _, hd⟩ := h
  exact (GoalDb.yaz_ok hd).2.1

theorem goals_deleteTransactionRequest {s d : GoalDb} {istek : Istek} {txnId : ℤ} {autoRevert : Bool}
    (h : deleteTransactionRequest s istek txnId autoRevert = .ok d) : d.goals = s.goals := by
  simp only [deleteTransactionRequest, bind_eq_ok, within_eq_ok] at h
  obtain ⟨ws, _, hd⟩ := h
  exact (GoalDb.yaz_ok hd).2.1

theorem createGoal_ok {v : Surucu} {s d : GoalDb} {istek : Istek} {payload : GoalCreate}
    (h : createGoal v s istek payload = .ok d) :
    d = tazeleVeKaydet { s with goals := s.goals.push (yeniHedef v s.db istek payload) } s.goals.freshKey := by
  simp only [createGoal, bind_eq_ok, stopIf_eq_ok, pure_eq_ok, exists_const] at h
  exact h.2.2.symm

theorem updateGoal_ok {v : Surucu} {s d : GoalDb} {istek : Istek} {goalId : ℤ} {payload : GoalUpdate}
    (h : updateGoal v s istek goalId payload = .ok d) :
    ∃ id goal yeni, s.goals.get? id = some goal ∧ yeni.goalType = goal.goalType ∧
      yeni.currentAmount = goal.currentAmount ∧ yeni.progressPercent = goal.progressPercent ∧
      d = tazeleVeKaydet { s with goals := s.goals.modify id (fun _ => yeni) } id := by
  simp only [updateGoal, bind_eq_ok, stopIf_eq_ok, within_eq_ok, require_eq_ok, pure_eq_ok, exists_const] at h
  obtain ⟨_, hedef, hbul, goal, rfl, _, _, target, _, status, _, _, _, rfl⟩ := h
  simp only [hedefBul, bind_eq_ok, pure_eq_ok] at hbul
  obtain ⟨anahtar, _, hg⟩ := hbul
  obtain ⟨k, _, hk⟩ := Option.bind_eq_some_iff.mp hg
  obtain ⟨g, hfilter, rfl⟩ := Option.map_eq_some_iff.mp hk
  exact ⟨k, g, { g with targetAmount := target, status := status },
    (Option.filter_eq_some_iff.mp hfilter).1, rfl, rfl, rfl, rfl⟩

/-- Without a publishing driver the rules leave the committed store alone. -/
theorem close_kurallariIsle {v : Surucu} (hv : v.releaseYayinlar = false) (d : GoalDb) (txId : ℕ)
    (tx : Transaction) (rs : List (ℕ × GoalRule)) (s : Session GoalDb) (hedefler : List ℕ) :
    (kurallariIsle v d txId tx rs s hedefler).1.close = s.close := by
  induction rs generalizing s hedefler with
  | nil => rfl
  | cons r rs ih =>
    unfold kurallariIsle
    split
    · split
      · rfl
      · exact ih s hedefler
      · split
        · exact ih s hedefler
        · rw [ih]
          unfold savepointTahsisi
          split
          · rfl
          · rw [hv]
            exact Session.close_release_nested _ s
    · exact ih s hedefler

theorem close_evaluate {v : Surucu} (hv : v.releaseYayinlar = false) (txId : ℕ) (s : Session GoalDb) :
    (evaluateRulesForTransaction v txId s).close = s.close := by
  unfold evaluateRulesForTransaction
  cases s.current.db.transactions.get? txId with
  | none => rfl
  | some tx =>
    have hclose := close_kurallariIsle hv s.current txId tx (kapsamKurallari s.current tx) s []
    dsimp only
    split
    · next s' e hk =>
      rw [hk] at hclose
      exact hclose
    · next s' hedefler hk =>
      rw [hk] at hclose
      rw [close_hedefleriTazele]
      exact hclose

end FinancialOs.Routers
