import FinancialOs.Routers.WorkspaceDeps
import FinancialOs.Rules.DebtSettlement

/-! The panel's debt endpoints. Every mutation of a debt moves its cash leg in the
same unit of work. -/
namespace FinancialOs.Routers
open Library Store Rules

structure DebtCreate where
  counterparty : String
  direction : DebtDirection
  amount : ℚ
  description : Option String
  dueDate : Option Date

/-- The body of an update: a field is not sent, or sent with a value that may be null. -/
structure DebtUpdate where
  counterparty : Option (Option String)
  amount : Option (Option ℚ)
  description : Option (Option String)
  dueDate : Option (Option Date)
  paidDate : Option (Option Date)
  isPaid : Option (Option Bool)

def finansTutar (q : ℚ) : Bool := 0 < q ∧ q ≤ 10 ^ 12

def karsiTaraf (s : String) : Bool := 1 ≤ s.length ∧ s.length ≤ 100

def DebtCreate.uygun (data : DebtCreate) : Bool :=
  karsiTaraf data.counterparty && finansTutar data.amount &&
    data.description.all (fun s => s.length ≤ 2000)

def DebtUpdate.uygun (data : DebtUpdate) : Bool :=
  data.counterparty.join.all karsiTaraf && data.amount.join.all finansTutar &&
    data.description.join.all (fun s => s.length ≤ 2000)

def createDebt (istek : Istek) (payload : DebtCreate) : Except UcHatasi (List Write) := do
  stopIf .sema (payload.uygun = false)
  return [.debt (.insert {
    userId := istek.userId
    workspaceId := istek.wsId
    counterparty := payload.counterparty
    direction := payload.direction
    amount := payload.amount
    description := payload.description
    dueDate := payload.dueDate
    isPaid := false
    paidDate := none
    settlementAccountId := none })]

/-- The paid mark and its date: a sent mark decides, else a sent date does. -/
def odemeDurumu (bugun : Date) (isPaid : Option Bool) (paidDate : Option (Option Date))
    (eski : PersonalDebt) : Bool × Option Date :=
  let tarih := paidDate.getD eski.paidDate
  match isPaid with
  | some false => (false, none)
  | some true => (true, some (tarih.getD bugun))
  | none => match paidDate with
    | some d => (d.isSome, d)
    | none => (eski.isPaid, eski.paidDate)

/-- The row an update leaves, before its cash leg; a required column refuses null. -/
def guncelBorc (bugun : Date) (payload : DebtUpdate) (eski : PersonalDebt) : Except UcHatasi PersonalDebt := do
  let counterparty ← zorunlu payload.counterparty eski.counterparty
  let amount ← zorunlu payload.amount eski.amount
  stopIf (.hata .databaseError) (payload.isPaid = some none)
  let durum := odemeDurumu bugun payload.isPaid.join payload.paidDate eski
  return { eski with
    counterparty := counterparty
    amount := amount
    description := payload.description.getD eski.description
    dueDate := payload.dueDate.getD eski.dueDate
    isPaid := durum.1
    paidDate := durum.2 }

/-- A debt row together with its synchronised cash leg. -/
def borcYaz (db : Db) (istek : Istek) (id : ℕ) (eski yeni : PersonalDebt) : List Write :=
  let ayak := senkronizeNakit db istek.userId yeni (.oku eski) istek.wsId
  .debt (.update id (fun _ => { yeni with settlementAccountId := ayak.settlementAccountId })) :: ayak.writes

def updateDebt (db : Db) (istek : Istek) (debtId : ℤ) (payload : DebtUpdate) :
    Except UcHatasi (List Write) := do
  stopIf .sema (payload.uygun = false)
  let bulunan ← within .hata (findById db.debts istek.userId istek.wsId (.int debtId))
  let debt ← require (.http 404 s!"Borc/alacak bulunamadi (id={debtId})") bulunan
  let yeni ← guncelBorc istek.bugun payload debt.2
  return borcYaz db istek debt.1 debt.2 yeni

def deleteDebt (db : Db) (istek : Istek) (debtId : ℤ) : Except UcHatasi (List Write) := do
  let bulunan ← within .hata (findById db.debts istek.userId istek.wsId (.int debtId))
  let debt ← require (.http 404 s!"Borc/alacak bulunamadi (id={debtId})") bulunan
  let silinen := { debt.2 with isPaid := false, paidDate := none }
  return (senkronizeNakit db istek.userId silinen (.oku debt.2) istek.wsId).writes ++ [.debt (.delete debt.1)]

theorem createDebt_ok {istek : Istek} {payload : DebtCreate} {ws : List Write}
    (h : createDebt istek payload = .ok ws) :
    ∃ d : PersonalDebt, ws = [.debt (.insert d)] ∧ d.isPaid = false ∧ d.paidDate = none ∧
      d.settlementAccountId = none := by
  simp only [createDebt, bind_eq_ok, stopIf_eq_ok, pure_eq_ok, exists_const] at h
  obtain ⟨_, rfl⟩ := h
  exact ⟨_, rfl, rfl, rfl, rfl⟩

theorem odemeDurumu_consistent (bugun : Date) (isPaid : Option Bool) (paidDate : Option (Option Date))
    {eski : PersonalDebt} (h : eski.isPaid = eski.paidDate.isSome) :
    (odemeDurumu bugun isPaid paidDate eski).1 = (odemeDurumu bugun isPaid paidDate eski).2.isSome := by
  unfold odemeDurumu
  rcases isPaid with _ | paid
  · rcases paidDate with _ | d
    · exact h
    · rfl
  · cases paid <;> rfl

/-- An update never changes whether a debt is owed or due, nor where its leg was applied. -/
theorem guncelBorc_ok {bugun : Date} {payload : DebtUpdate} {eski yeni : PersonalDebt}
    (h : guncelBorc bugun payload eski = .ok yeni) (hd : eski.isPaid = eski.paidDate.isSome) :
    yeni.direction = eski.direction ∧ yeni.settlementAccountId = eski.settlementAccountId ∧
      yeni.isPaid = yeni.paidDate.isSome := by
  simp only [guncelBorc, bind_eq_ok, stopIf_eq_ok, pure_eq_ok, exists_and_left, exists_const] at h
  obtain ⟨_, _, _, _, _, rfl⟩ := h
  exact ⟨rfl, rfl, odemeDurumu_consistent bugun _ _ hd⟩

theorem updateDebt_ok {db : Db} {istek : Istek} {debtId : ℤ} {payload : DebtUpdate} {ws : List Write}
    (h : updateDebt db istek debtId payload = .ok ws) :
    ∃ id eski yeni, db.debts.get? id = some eski ∧ guncelBorc istek.bugun payload eski = .ok yeni ∧
      ws = borcYaz db istek id eski yeni := by
  simp only [updateDebt, bind_eq_ok, stopIf_eq_ok, within_eq_ok, require_eq_ok, pure_eq_ok,
    exists_and_left, exists_const] at h
  obtain ⟨_, _, hf, debt, rfl, yeni, hy, rfl⟩ := h
  exact ⟨debt.1, debt.2, yeni, (findById_eq_some.mp hf).2.1, hy, rfl⟩

theorem deleteDebt_ok {db : Db} {istek : Istek} {debtId : ℤ} {ws : List Write}
    (h : deleteDebt db istek debtId = .ok ws) :
    ∃ id d, db.debts.get? id = some d ∧ ws = (senkronizeNakit db istek.userId
        { d with isPaid := false, paidDate := none } (.oku d) istek.wsId).writes ++ [.debt (.delete id)] := by
  simp only [deleteDebt, bind_eq_ok, within_eq_ok, require_eq_ok, pure_eq_ok] at h
  obtain ⟨_, hf, debt, rfl, rfl⟩ := h
  exact ⟨debt.1, debt.2, (findById_eq_some.mp hf).2.1, rfl⟩

end FinancialOs.Routers
