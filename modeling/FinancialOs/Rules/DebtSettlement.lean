import FinancialOs.Rules.AccountRules

/-! The cash leg of settling a personal debt. Every mutation of a debt applies
the difference between the leg it should have and the leg it left before. -/
namespace FinancialOs.Rules
open Library Store

def kapanisDelta (direction : DebtDirection) (amount : ℚ) : ℚ :=
  match direction with
  | .receivable => amount
  | .payable => -amount

/-- The fields that determine the cash leg, read before the mutation. -/
structure KapanisDurumu where
  isPaid : Bool
  amount : ℚ
  direction : DebtDirection
  settlementAccountId : Option ℕ

def KapanisDurumu.oku (debt : PersonalDebt) : KapanisDurumu :=
  ⟨debt.isPaid, debt.amount, debt.direction, debt.settlementAccountId⟩

structure KapanisSonucu where
  writes : List Write
  settlementAccountId : Option ℕ
  cashEffect : ℚ
  cashAccount : Option String
  applied : Bool

/-- `db.get(Account, id)` for an id that may be null. -/
def izHesabi (db : Db) (id : Option ℕ) : Option (ℕ × Account) :=
  match id with
  | none => none
  | some k => (db.accounts.get? k).map (fun a => (k, a))

def bakiyeEkle (id : ℕ) (fark : ℚ) : Write :=
  .account (.update id (fun a => { a with balance := a.balance + fark }))

/-- A balance is only written when it moves. -/
def bakiyeFarki (id : ℕ) (fark : ℚ) : List Write := if fark ≠ 0 then [bakiyeEkle id fark] else []

/-- The account the previous leg was applied to. -/
def eskiHesap (db : Db) (onceki : KapanisDurumu) : Option (ℕ × Account) :=
  if onceki.isPaid then izHesabi db onceki.settlementAccountId else none

/-- The account a new leg goes to: the one it was applied to before, else the default cash account. -/
def hedefHesap (db : Db) (userId : ℕ) (onceki : KapanisDurumu) (workspaceId : Option ℕ) :
    Option (ℕ × Account) :=
  match izHesabi db onceki.settlementAccountId with
  | some h => some h
  | none => varsayilanNakitHesap db userId workspaceId

def ayakYazimlari (eski hedef : Option (ℕ × Account)) (eskiEtki yeniEtki : ℚ) : List Write :=
  match eski, hedef with
  | some e, some h =>
    if e.1 = h.1 then bakiyeFarki h.1 (yeniEtki - eskiEtki)
    else bakiyeFarki e.1 (-eskiEtki) ++ bakiyeFarki h.1 yeniEtki
  | some e, none => bakiyeFarki e.1 (-eskiEtki)
  | none, some h => bakiyeFarki h.1 yeniEtki
  | none, none => []

def senkronizeNakit (db : Db) (userId : ℕ) (debt : PersonalDebt) (onceki : KapanisDurumu)
    (workspaceId : Option ℕ) : KapanisSonucu :=
  let istenen := if debt.isPaid then kapanisDelta debt.direction debt.amount else 0
  let eski := eskiHesap db onceki
  let eskiEtki := if eski.isSome then kapanisDelta onceki.direction onceki.amount else 0
  let hedef := if istenen ≠ 0 then hedefHesap db userId onceki workspaceId else none
  -- without a cash account the leg cannot be applied
  let yeniEtki := if hedef.isSome then istenen else 0
  { writes := ayakYazimlari eski hedef eskiEtki yeniEtki
    settlementAccountId := if yeniEtki ≠ 0 then hedef.map Prod.fst else none
    cashEffect := yeniEtki - eskiEtki
    cashAccount := hedef.map (fun h => h.2.name)
    applied := yeniEtki ≠ 0 }

theorem accounts_bakiyeEkle (db : Db) (id : ℕ) (q : ℚ) (k : ℕ) :
    (db.write (bakiyeEkle id q)).accounts.get? k = (db.accounts.get? k).map
      (fun a => if k = id then { a with balance := a.balance + q } else a) := by
  simp only [bakiyeEkle, Db.write, Table.change, Table.get?_modify]
  by_cases h : k = id <;> simp [h]

theorem mem_bakiyeFarki {id : ℕ} {fark : ℚ} {w : Write} :
    w ∈ bakiyeFarki id fark ↔ fark ≠ 0 ∧ w = bakiyeEkle id fark := by
  unfold bakiyeFarki
  split <;> simp [*]

theorem mem_ayakYazimlari {eski hedef : Option (ℕ × Account)} {eskiEtki yeniEtki : ℚ} {w : Write}
    (h : w ∈ ayakYazimlari eski hedef eskiEtki yeniEtki) : ∃ id q, w = bakiyeEkle id q := by
  unfold ayakYazimlari at h
  split at h
  · split at h
    · exact ⟨_, _, (mem_bakiyeFarki.mp h).2⟩
    · rcases List.mem_append.mp h with h | h
      · exact ⟨_, _, (mem_bakiyeFarki.mp h).2⟩
      · exact ⟨_, _, (mem_bakiyeFarki.mp h).2⟩
  · exact ⟨_, _, (mem_bakiyeFarki.mp h).2⟩
  · exact ⟨_, _, (mem_bakiyeFarki.mp h).2⟩
  · cases h

end FinancialOs.Rules
