import FinancialOs.Executor.AccountEffects
import FinancialOs.Routers.Transactions

/-! The ledger gap of an account: how far its balance is from the opening balance
plus the effects of the transactions attached to it, and what each row write does to it. -/
namespace FinancialOs.Guarantees
open Library Store Rules Executor Routers

/-- The effects of the transactions attached to an account, under its type. -/
def bagliToplam (db : Db) (k : ℕ) (tip : AccountType) : ℚ :=
  db.transactions.total
    (fun t => if t.accountId = some k then balanceDelta tip t.transactionType t.amount else 0)

/-- Every balance equals its opening balance plus the effects attached to the account. -/
def Denge (acilis : ℕ → ℚ) (db : Db) : Prop :=
  ∀ k a, db.accounts.get? k = some a → a.balance = acilis k + bagliToplam db k a.accountType

/-- How far the balance under a key is from its opening balance plus a total for its key and type. -/
def hesapAcigi (acilis : ℕ → ℚ) (toplam : ℕ → AccountType → ℚ) (accounts : Table Account) (k : ℕ) : ℚ :=
  match accounts.get? k with
  | some a => a.balance - acilis k - toplam k a.accountType
  | none => 0

/-- How far the balance under a key is from what the transaction ledger says. -/
def acik (acilis : ℕ → ℚ) (db : Db) (k : ℕ) : ℚ := hesapAcigi acilis (bagliToplam db) db.accounts k

/-- The effect one transaction should have on the account under a key. -/
def katki (db : Db) (txn : Transaction) (k : ℕ) : ℚ :=
  match db.accounts.get? k with
  | some a => if txn.accountId = some k then balanceDelta a.accountType txn.transactionType txn.amount else 0
  | none => 0

section Gap
variable {acilis : ℕ → ℚ} {db : Db}

theorem hesapAcigi_eq_zero {toplam : ℕ → AccountType → ℚ} {accounts : Table Account} :
    (∀ k, hesapAcigi acilis toplam accounts k = 0) ↔
      ∀ k a, accounts.get? k = some a → a.balance = acilis k + toplam k a.accountType := by
  unfold hesapAcigi
  constructor
  · intro h k a ha
    have := h k
    rw [ha] at this
    dsimp only at this
    linarith
  · intro h k
    cases ha : accounts.get? k with
    | none => rfl
    | some a =>
      have := h k a ha
      dsimp only
      linarith

theorem hesapAcigi_bakiyeEkle (toplam : ℕ → AccountType → ℚ) (id : ℕ) (q : ℚ) (k : ℕ) :
    hesapAcigi acilis toplam (db.write (bakiyeEkle id q)).accounts k =
      hesapAcigi acilis toplam db.accounts k + if k = id ∧ (db.accounts.get? k).isSome then q else 0 := by
  unfold hesapAcigi
  rw [accounts_bakiyeEkle]
  cases db.accounts.get? k with
  | none => simp
  | some a =>
    by_cases h : k = id
    · simp only [Option.map_some, h, if_true, Option.isSome_some, and_self]
      ring
    · simp [h]

theorem denge_iff : Denge acilis db ↔ ∀ k, acik acilis db k = 0 := hesapAcigi_eq_zero.symm

theorem acik_congr {d e : Db} (h : Defter.oku d = Defter.oku e) (k : ℕ) :
    acik acilis d k = acik acilis e k := by
  have ha : d.accounts = e.accounts := congrArg Defter.accounts h
  have ht : d.transactions = e.transactions := congrArg Defter.transactions h
  simp only [acik, hesapAcigi, bagliToplam, ha, ht]

theorem acik_bakiyeEkle (id : ℕ) (q : ℚ) (k : ℕ) :
    acik acilis (db.write (bakiyeEkle id q)) k =
      acik acilis db k + if k = id ∧ (db.accounts.get? k).isSome then q else 0 :=
  hesapAcigi_bakiyeEkle (bagliToplam db) id q k

theorem katki_bakiyeEkle (id : ℕ) (q : ℚ) (txn : Transaction) (k : ℕ) :
    katki (db.write (bakiyeEkle id q)) txn k = katki db txn k := by
  unfold katki
  rw [accounts_bakiyeEkle]
  cases db.accounts.get? k with
  | none => rfl
  | some a => by_cases h : k = id <;> simp [h]

theorem acik_insert (txn : Transaction) (k : ℕ) :
    acik acilis (db.write (.transaction (.insert txn))) k = acik acilis db k - katki db txn k := by
  simp only [acik, hesapAcigi, katki, bagliToplam, Db.write, Table.change, Table.total_push]
  cases db.accounts.get? k with
  | none => simp
  | some a =>
    dsimp only
    ring

theorem acik_update {id : ℕ} {eski : Transaction} (h : db.transactions.get? id = some eski)
    (yeni : Transaction) (k : ℕ) :
    acik acilis (db.write (.transaction (.update id (fun _ => yeni)))) k =
      acik acilis db k + katki db eski k - katki db yeni k := by
  simp only [acik, hesapAcigi, katki, bagliToplam, Db.write, Table.change, Table.total_modify h]
  cases db.accounts.get? k with
  | none => simp
  | some a =>
    dsimp only
    ring

theorem acik_delete {id : ℕ} {txn : Transaction} (h : db.transactions.get? id = some txn) (k : ℕ) :
    acik acilis (db.write (.transaction (.delete id))) k = acik acilis db k + katki db txn k := by
  simp only [acik, hesapAcigi, katki, bagliToplam, Db.write, Table.change, Table.total_erase h]
  cases db.accounts.get? k with
  | none => simp
  | some a =>
    dsimp only
    ring

end Gap

/-- The transaction's account, when it exists, is one the request sees. -/
def Gorunur (db : Db) (istek : Istek) (txn : Transaction) : Prop :=
  ∀ k a, txn.accountId = some k → db.accounts.get? k = some a →
    scopeFilter istek.userId istek.wsId a = true

/-- The part of a transaction's effect that the request can see and move. -/
def gorunenKatki (db : Db) (istek : Istek) (txn : Transaction) (k : ℕ) : ℚ :=
  if (bagliHesap db istek txn).isSome then katki db txn k else 0

theorem gorunenKatki_eq {db : Db} {istek : Istek} {txn : Transaction} (h : Gorunur db istek txn) (k : ℕ) :
    gorunenKatki db istek txn k = katki db txn k := by
  unfold gorunenKatki
  split
  · rfl
  · next hnone =>
    unfold katki
    cases ha : db.accounts.get? k with
    | none => rfl
    | some a =>
      by_cases hk : txn.accountId = some k
      · have hg : bagliHesap db istek txn = some (k, a) := bagliHesap_some.mpr ⟨hk, ha, h k a hk ha⟩
        rw [hg] at hnone
        exact absurd rfl hnone
      · simp [hk]

theorem katki_of_bagli {db : Db} {istek : Istek} {txn : Transaction} {h : ℕ × Account}
    (hb : bagliHesap db istek txn = some h) (k : ℕ) :
    katki db txn k = if k = h.1 ∧ (db.accounts.get? k).isSome then
      balanceDelta h.2.accountType txn.transactionType txn.amount else 0 := by
  obtain ⟨hid, hget, _⟩ := bagliHesap_some.mp hb
  unfold katki
  by_cases hk : k = h.1
  · subst hk
    simp [hget, hid]
  · have hne : txn.accountId ≠ some k := by
      rw [hid]
      intro he
      exact hk (Option.some.inj he).symm
    cases db.accounts.get? k <;> simp [hne, hk]

/-- A leg moves exactly the visible part of the effect, in a state with the same accounts. -/
theorem acik_etkiYaz {acilis : ℕ → ℚ} {d db : Db} (istek : Istek) (txn : Transaction) (reverse : Bool)
    (k : ℕ) (hd : (d.accounts.get? k).isSome = (db.accounts.get? k).isSome) :
    acik acilis (d.writeAll (etkiYaz db istek txn reverse)) k = acik acilis d k +
      if reverse then -gorunenKatki db istek txn k else gorunenKatki db istek txn k := by
  unfold etkiYaz gorunenKatki
  cases hb : bagliHesap db istek txn with
  | none => cases reverse <;> simp
  | some h =>
    simp only [Option.map_some, Option.toList_some, writeAll_cons, writeAll_nil, applyToBalance,
      acik_bakiyeEkle, Option.isSome_some, if_true, katki_of_bagli hb, hd]
    cases reverse with
    | false => rfl
    | true => split <;> simp

private theorem isSome_etkiYaz (d db : Db) (istek : Istek) (txn : Transaction) (reverse : Bool) (k : ℕ) :
    ((d.writeAll (etkiYaz db istek txn reverse)).accounts.get? k).isSome = (d.accounts.get? k).isSome := by
  unfold etkiYaz
  cases bagliHesap db istek txn with
  | none => rfl
  | some h => simp [applyToBalance, accounts_bakiyeEkle]

private theorem katki_etkiYaz (d db : Db) (istek : Istek) (txn t : Transaction) (reverse : Bool) (k : ℕ) :
    katki (d.writeAll (etkiYaz db istek txn reverse)) t k = katki d t k := by
  unfold etkiYaz
  cases bagliHesap db istek txn with
  | none => rfl
  | some h => exact katki_bakiyeEkle _ _ _ _

/-- Creating a transaction with its leg keeps every gap. -/
theorem acik_create {acilis : ℕ → ℚ} {db : Db} {istek : Istek} {payload : TransactionCreate}
    {yeni : YeniIslem} (hy : yeniIslem db istek payload = .ok yeni) (k : ℕ) :
    acik acilis (db.writeAll [.transaction (.insert yeni.txn),
      applyToBalance yeni.hesap yeni.txn.transactionType yeni.txn.amount false]) k = acik acilis db k := by
  obtain ⟨hget, hscope, hid, _⟩ := yeniIslem_ok hy
  have hb : bagliHesap db istek yeni.txn = some yeni.hesap := bagliHesap_some.mpr ⟨hid, hget, hscope⟩
  rw [writeAll_cons, writeAll_cons, writeAll_nil, applyToBalance, acik_bakiyeEkle, acik_insert,
    katki_of_bagli hb]
  simp [Db.write]

/-- An update whose transaction sits on a visible account keeps every gap. -/
theorem acik_guncelle {acilis : ℕ → ℚ} {db : Db} {istek : Istek} {payload : TransactionUpdate}
    {id : ℕ} {eski yeni : Transaction} (hg : db.transactions.get? id = some eski)
    (hy : guncelIslem db istek payload eski = .ok yeni) (hgor : Gorunur db istek eski) (k : ℕ) :
    acik acilis (db.writeAll (etkiYaz db istek eski true ++
      .transaction (.update id (fun _ => yeni)) :: etkiYaz db istek yeni false)) k = acik acilis db k := by
  have hyeni : Gorunur db istek yeni := by
    obtain ⟨_, _, hkeep | hnone | ⟨g, hsee⟩⟩ := guncelIslem_ok hy
    · intro j a hj
      rw [hkeep] at hj
      exact hgor j a hj
    · intro j a hj
      rw [hnone] at hj
      cases hj
    · obtain ⟨hid, hget, hscope⟩ := bagliHesap_some.mp hsee
      intro j a hj ha
      obtain rfl : g.1 = j := by simpa [hid] using hj
      obtain rfl : g.2 = a := by simpa [hget] using ha
      exact hscope
  have hsome : (((db.writeAll (etkiYaz db istek eski true)).write
      (.transaction (.update id (fun _ => yeni)))).accounts.get? k).isSome = (db.accounts.get? k).isSome :=
    isSome_etkiYaz db db istek eski true k
  have hrow : (db.writeAll (etkiYaz db istek eski true)).transactions.get? id = some eski := by
    rw [transactions_etkiYaz]
    exact hg
  rw [writeAll_append, writeAll_cons, acik_etkiYaz istek yeni false k hsome, acik_update hrow,
    acik_etkiYaz istek eski true k rfl, katki_etkiYaz, katki_etkiYaz, gorunenKatki_eq hgor,
    gorunenKatki_eq hyeni]
  simp

/-- A deletion whose transaction sits on a visible account keeps every gap. -/
theorem acik_sil {acilis : ℕ → ℚ} {db : Db} {istek : Istek} {id : ℕ} {txn : Transaction}
    (hg : db.transactions.get? id = some txn) (hgor : Gorunur db istek txn) (k : ℕ) :
    acik acilis (db.writeAll (etkiYaz db istek txn true ++ [.transaction (.delete id)])) k =
      acik acilis db k := by
  have hrow : (db.writeAll (etkiYaz db istek txn true)).transactions.get? id = some txn := by
    rw [transactions_etkiYaz]
    exact hg
  rw [writeAll_append, writeAll_cons, writeAll_nil, acik_delete hrow, acik_etkiYaz istek txn true k rfl,
    katki_etkiYaz, gorunenKatki_eq hgor]
  simp

/-- The pairs on which the coach's sign rule is not the ledger's. -/
def KocFarkli (tip : AccountType) (txnType : TransactionType) : Prop :=
  tip = .loan ∧ txnType = .income ∨ tip = .investment ∧ txnType ≠ .transfer

theorem kocDelta_eq_balanceDelta {tip : AccountType} {txnType : TransactionType} {q : ℚ} (hq : q ≠ 0) :
    kocDelta tip txnType q = balanceDelta tip txnType q ↔ ¬ KocFarkli tip txnType := by
  cases tip <;> cases txnType <;> simp [kocDelta, balanceDelta, KocFarkli, hq]

theorem katki_of_entry {o : Ortam} {p : Payload} {hesap : Option (ℕ × Account)} {txn : Transaction}
    (h : TransactionEntry o p hesap txn) (k : ℕ) :
    katki o.db txn k = (hesap.map (fun g => if k = g.1 ∧ (o.db.accounts.get? k).isSome then
      balanceDelta g.2.accountType txn.transactionType txn.amount else 0)).getD 0 := by
  have hsak := h.saklanan
  cases hesap with
  | some g =>
    obtain ⟨_, hname, _⟩ := islemHesabi_some.mp h.secim
    simp only [saklananHesap, Except.ok.injEq] at hsak
    unfold katki
    by_cases hk : k = g.1
    · subst hk
      simp [hname.row, ← hsak]
    · have hne : txn.accountId ≠ some k := by
        rw [← hsak]
        intro he
        exact hk (Option.some.inj he).symm
      cases o.db.accounts.get? k <;> simp [hne, hk]
  | none =>
    unfold katki
    cases ha : o.db.accounts.get? k with
    | none => simp
    | some a =>
      have hne : txn.accountId ≠ some k := by
        intro he
        rw [he] at hsak
        -- a falsy id is stored as null or as 0, and no account has the id 0
        have hk0 : k = 0 := by
          simp only [saklananHesap] at hsak
          cases hv : p.get .accountId <;> rw [hv] at hsak <;> cases hsak <;> rfl
        rw [hk0, Table.get?_zero] at ha
        cases ha
      simp [hne]

end FinancialOs.Guarantees
