import FinancialOs.Guarantees.LedgerGap
import FinancialOs.Library.TransitionRuns

/-! The ledger invariant over both write paths, for every run of panel requests and
approved coach bookings. -/
namespace FinancialOs.Guarantees
open Library Store Rules Executor Routers

/-- A coach booking with its leg keeps every gap, unless the two sign rules differ. -/
private theorem acik_koc {acilis : ℕ → ℚ} {o : Ortam} {p : Payload} {hesap : Option (ℕ × Account)}
    {txn : Transaction} (h : TransactionEntry o p hesap txn)
    (hoto : (p.get .autoUpdateBalance).truthy = true)
    (hfark : ∀ g, hesap = some g → ¬ KocFarkli g.2.accountType txn.transactionType) (k : ℕ) :
    acik acilis (o.db.writeAll (.transaction (.insert txn) ::
        ((bakiyeBacagi p hesap txn.transactionType txn.amount).map
          (fun b => bakiyeEkle b.1 b.2)).toList)) k = acik acilis o.db k := by
  have hkat := katki_of_entry h k
  cases hesap with
  | none =>
    simp only [bakiyeBacagi, Option.map_none, Option.toList_none, writeAll_cons, writeAll_nil,
      acik_insert, hkat, Option.getD_none, sub_zero]
  | some g =>
    have hdelta := (kocDelta_eq_balanceDelta h.pozitif.ne').mpr (hfark g rfl)
    have hb : bakiyeBacagi p (some g) txn.transactionType txn.amount =
        some (g.1, kocDelta g.2.accountType txn.transactionType txn.amount) :=
      bakiyeBacagi_some.mpr ⟨g, rfl, hoto, rfl⟩
    rw [hb]
    simp only [Option.map_some, Option.toList_some, writeAll_cons, writeAll_nil, acik_bakiyeEkle,
      acik_insert, hkat, Option.getD_some, hdelta]
    exact sub_add_cancel _ _

/-- The operations on the two write paths, with a new proposal as the coach's part of them. -/
inductive LedgerIslemi where
  | olustur (istek : Istek) (payload : TransactionCreate)
  | guncelle (istek : Istek) (txnId : ℤ) (payload : TransactionUpdate)
  | sil (istek : Istek) (txnId : ℤ) (autoRevertBalance : Bool)
  | oner (pending : PendingAction)
  | onayla (ariza : Ariza) (actionId userId : ℕ)

def ledgerAdimi (bugun : ℕ → Date) (db : Db) : LedgerIslemi → Db
  | .olustur istek payload => sonuc db (createTransaction db istek payload)
  | .guncelle istek txnId payload => sonuc db (updateTransaction db istek txnId payload)
  | .sil istek txnId autoRevert => sonuc db (deleteTransaction db istek txnId autoRevert)
  | .oner pending => db.write (.pendingAction (.insert pending))
  | .onayla ariza actionId userId => (executePendingAction ariza bugun db actionId userId).2

/-- Balances are kept up to date: the panel's flag is on, and an approved action is a
transaction that asks for it. -/
def Otomatik (db : Db) : LedgerIslemi → Prop
  | .olustur _ payload => payload.autoUpdateBalance.getD true = true
  | .guncelle _ _ payload => payload.otomatik = true
  | .sil _ _ autoRevert => autoRevert = true
  | .oner _ => True
  | .onayla _ actionId userId => ∀ pending, kendiAksiyonu db actionId userId = some pending →
      pending.actionType = .addTransaction ∧
        ∀ p, pending.payload = .object p → (p.get .autoUpdateBalance).truthy = true

/-- The operations on which the two write paths part: the coach books on a pair its sign rule
treats differently, or a panel request edits a transaction whose account is outside its scope. -/
def Sapma (bugun : ℕ → Date) (db : Db) : LedgerIslemi → Prop
  | .olustur _ _ => False
  | .guncelle istek txnId _ => ∃ id txn,
      findById db.transactions istek.userId istek.wsId (.int txnId) = .ok (some (id, txn)) ∧
        ¬ Gorunur db istek txn
  | .sil istek txnId _ => ∃ id txn,
      findById db.transactions istek.userId istek.wsId (.int txnId) = .ok (some (id, txn)) ∧
        ¬ Gorunur db istek txn
  | .oner _ => False
  | .onayla _ actionId userId => ∃ pending p g txn, Reaches db actionId userId pending p ∧
      TransactionEntry (ortam bugun db pending userId) p (some g) txn ∧
        KocFarkli g.2.accountType txn.transactionType

/-- One operation keeps every gap, as long as the two paths agree on it. -/
theorem acik_adim {acilis : ℕ → ℚ} {bugun : ℕ → Date} {db : Db} {islem : LedgerIslemi}
    (hoto : Otomatik db islem) (hsapma : ¬ Sapma bugun db islem) (k : ℕ) :
    acik acilis (ledgerAdimi bugun db islem) k = acik acilis db k := by
  cases islem with
  | olustur istek payload =>
    rcases sonuc_cases db (createTransaction db istek payload) with he | ⟨ws, hws, he, _⟩
    · rw [ledgerAdimi, he]
    · obtain ⟨yeni, hy, rfl⟩ := createTransaction_ok hws
      obtain ⟨_, _, _, _, _, _, hflag⟩ := yeniIslem_ok hy
      rw [ledgerAdimi, he, if_pos (hflag.trans hoto)]
      exact acik_create hy k
  | guncelle istek txnId payload =>
    rcases sonuc_cases db (updateTransaction db istek txnId payload) with he | ⟨ws, hws, he, _⟩
    · rw [ledgerAdimi, he]
    · obtain ⟨id, eski, yeni, hf, hy, rfl⟩ := updateTransaction_ok hws
      have hgor : Gorunur db istek eski := by
        by_contra hn
        exact hsapma ⟨id, eski, hf, hn⟩
      rw [ledgerAdimi, he, if_pos (show payload.otomatik = true from hoto)]
      exact acik_guncelle (findById_eq_some.mp hf).2.1 hy hgor k
  | sil istek txnId autoRevert =>
    rcases sonuc_cases db (deleteTransaction db istek txnId autoRevert) with he | ⟨ws, hws, he, _⟩
    · rw [ledgerAdimi, he]
    · obtain ⟨id, txn, hf, rfl⟩ := deleteTransaction_ok.mp hws
      have hgor : Gorunur db istek txn := by
        by_contra hn
        exact hsapma ⟨id, txn, hf, hn⟩
      rw [ledgerAdimi, he, if_pos (show autoRevert = true from hoto)]
      exact acik_sil (findById_eq_some.mp hf).2.1 hgor k
  | oner pending => rfl
  | onayla ariza actionId userId =>
    have hP : acik acilis (ledgerAdimi bugun db (.onayla ariza actionId userId)) k = acik acilis db k := by
      rcases execute_cases ariza bugun db actionId userId with
        ⟨_, _, hd⟩ | ⟨pending, p, ws, _, happ, hd, _⟩
      · exact acik_congr hd k
      · obtain ⟨hr, hacc, _⟩ := applies_iff_accepted.mp happ
        obtain ⟨htype, hflag⟩ := hoto pending hr.aksiyon
        rw [htype] at hacc
        refine (acik_congr hd k).trans ?_
        cases hacc with
        | islem hesap txn h =>
          refine acik_koc (o := ortam bugun db pending userId) h (hflag p hr.payload) (fun g hg hf => ?_) k
          subst hg
          exact hsapma ⟨pending, p, g, txn, hr, h, hf⟩
    exact hP

/-- From accounts with any balances and no transactions, the ledger invariant holds after every
run on whose operations the two write paths agree. -/
theorem ledger_kept (bugun : ℕ → Date) (db : Db) (islemler : List LedgerIslemi)
    (hbos : db.transactions = .empty)
    (hadim : StepsMeet (ledgerAdimi bugun)
      (fun d islem => Otomatik d islem ∧ ¬ Sapma bugun d islem) db islemler) :
    Denge (bakiyeOku db) (run (ledgerAdimi bugun) db islemler) := by
  have hstart : Denge (bakiyeOku db) db := by
    intro k a ha
    simp [bakiyeOku, ha, bagliToplam, hbos]
  refine run_invariant (fun d islem hd hc => ?_) hstart hadim
  rw [denge_iff] at hd ⊢
  intro k
  rw [acik_adim hc.1 hc.2, hd k]

/-- One account of a type and a coach proposal to book an expense of 40 on it. -/
def kocOnerisi : PendingAction := ⟨1, none, .addTransaction, .object [
    (.transactionType, .str "expense"), (.amount, .int 40), (.accountId, .int 1),
    (.autoUpdateBalance, .bool true)], "40 TL gider", .pending, none, none, none⟩

def tekHesapDb (tip : AccountType) : Db := Db.empty.writeAll [
  .account (.insert ⟨1, none, "Hesap", tip, 1000, none, none, none, none, none, none, none, false⟩),
  .pendingAction (.insert kocOnerisi)]

def mayisUcu : Date := (Date.ofYmd? 2026 5 3).get rfl

/-- A panel income of 250 on account 1. -/
def gelirIstegi : LedgerIslemi :=
  .olustur ⟨1, none, mayisUcu⟩ ⟨some 1, some .income, some 250, none, none, none, none, none, none⟩

private theorem kocOnerisi_otomatik {db : Db} (h : kendiAksiyonu db 1 1 = some kocOnerisi) :
    Otomatik db (.onayla .yok 1 1) := by
  intro pending hp
  obtain rfl : kocOnerisi = pending := Option.some.inj (h.symm.trans hp)
  refine ⟨rfl, fun p hp => ?_⟩
  cases hp
  rfl

theorem ledger_kept_tekHesapDb :
    Denge (bakiyeOku (tekHesapDb .cash)) (run (ledgerAdimi fun _ => mayisUcu) (tekHesapDb .cash)
      [gelirIstegi, .onayla .yok 1 1]) := by
  apply ledger_kept
  · rfl
  · refine ⟨⟨rfl, fun h => h⟩, ⟨kocOnerisi_otomatik (by decide +kernel), ?_⟩, trivial⟩
    rintro ⟨pending, p, g, txn, _, h, hfark⟩
    obtain ⟨_, hname, _⟩ := islemHesabi_some.mp h.secim
    have hcash : ∀ r ∈ (ledgerAdimi (fun _ => mayisUcu) (tekHesapDb .cash) gelirIstegi).accounts.rows,
        r.2.accountType = .cash := by decide +kernel
    have hg := hcash (g.1, g.2) (Table.get?_eq_some.mp hname.row)
    rcases hfark with ⟨ht, _⟩ | ⟨ht, _⟩ <;>
    · rw [hg] at ht
      cases ht

/-- On an investment account the coach takes 40 that the ledger does not know of. -/
theorem coach_broke_the_ledger :
    ¬ ∀ bugun db islemler, db.transactions = .empty →
      StepsMeet (ledgerAdimi bugun) Otomatik db islemler →
      Denge (bakiyeOku db) (run (ledgerAdimi bugun) db islemler) := by
  intro h
  have hdenge := h (fun _ => mayisUcu) (tekHesapDb .investment) [.onayla .yok 1 1] rfl
    ⟨kocOnerisi_otomatik (by decide +kernel), trivial⟩
  have hrow := denge_iff.mp hdenge 1
  exact absurd hrow (by decide +kernel)

end FinancialOs.Guarantees
