import FinancialOs.Executor.HandlerEffects
import FinancialOs.Library.TableSweeps
import FinancialOs.Library.WeightedLists
import FinancialOs.Rules.CockpitFigures
import FinancialOs.Rules.CockpitReport

/-! The net worth the cockpit shows, as a total over the accounts of a scope, and what a write to one of
them does to it; and the quick summary of the balances against the cockpit. -/
namespace FinancialOs.Guarantees
open Library Store Rules Executor

/-- The net worth seen, before it is rounded. -/
def gorulenNetDeger (p : PanelDb) (userId : ℕ) (workspaceId : Option ℕ) : ℚ :=
  netWorthSeen (nakitToplami p.db userId workspaceId) (yatirimDegeri p userId workspaceId false)
    (kartBorcu p userId workspaceId) (krediBorcu p userId workspaceId)

/-- What an account adds: cash its balance, an investment its lots at their price, a debt what is owed. -/
def servetPayi (a : Account) : ℚ :=
  match a.accountType with
  | .cash => a.balance
  | .creditCard => -a.balance
  | .loan => -a.balance
  | .investment => if a.isEmanet then 0 else a.lotCount.getD 0 * a.currentPrice.getD 0

/-- What a lira on the balance of an account does to the net worth. -/
def bakiyeAgirligi : AccountType → ℚ
  | .cash => 1
  | .creditCard => -1
  | .loan => -1
  | .investment => 0

theorem bakiyeAgirligi_eq_one {tip : AccountType} : bakiyeAgirligi tip = 1 ↔ tip = .cash := by
  cases tip with
  | cash => exact iff_of_true rfl rfl
  | investment => exact iff_of_false zero_ne_one (fun h => by cases h)
  | _ => exact iff_of_false (by norm_num [bakiyeAgirligi]) (fun h => by cases h)

theorem servetPayi_bakiye (a : Account) (q : ℚ) :
    servetPayi { a with balance := a.balance + q } = servetPayi a + bakiyeAgirligi a.accountType * q := by
  cases ht : a.accountType <;> simp only [servetPayi, bakiyeAgirligi, ht] <;> ring

theorem names_scope {o : Ortam} {v : PyValue} {id : ℕ} {a : Account} (h : Names o v id a) :
    scopeFilter o.userId (o.kapsam none) a = true := (findById_eq_some.mp h).2.2

section Scope
variable {p : PanelDb} {userId : ℕ} {workspaceId : Option ℕ}

/-- A sum over the accounts of a type is a total over all. -/
theorem turHesaplari_toplami (db : Db) (tip : AccountType) (v : Account → ℚ) :
    ((turHesaplari db userId workspaceId tip).map fun a => v a.2).sum =
      db.accounts.total fun a => if scopeFilter userId workspaceId a ∧ a.accountType = tip then v a else 0 := by
  unfold turHesaplari Table.select
  rw [sum_filter_eq]
  simp only [decide_eq_true_eq]
  rfl

theorem yatirimDegeri_toplami : yatirimDegeri p userId workspaceId false = p.db.accounts.total fun a =>
    if scopeFilter userId workspaceId a ∧ a.accountType = .investment then
      if a.isEmanet then 0 else a.lotCount.getD 0 * a.currentPrice.getD 0 else 0 := by
  rw [← turHesaplari_toplami, yatirimDegeri, sum_filter_eq]
  congr 2
  funext a
  cases a.2.isEmanet <;> simp

theorem gorulenNetDeger_eq : gorulenNetDeger p userId workspaceId =
    p.db.accounts.total fun a => if scopeFilter userId workspaceId a then servetPayi a else 0 := by
  have hpay (a : Account) :
      (if scopeFilter userId workspaceId a ∧ a.accountType = .cash then a.balance else 0) +
        (if scopeFilter userId workspaceId a ∧ a.accountType = .investment then
          if a.isEmanet then 0 else a.lotCount.getD 0 * a.currentPrice.getD 0 else 0) =
      (if scopeFilter userId workspaceId a then servetPayi a else 0) +
        ((if scopeFilter userId workspaceId a ∧ a.accountType = .creditCard then a.balance else 0) +
          if scopeFilter userId workspaceId a ∧ a.accountType = .loan then a.balance else 0) := by
    cases scopeFilter userId workspaceId a
    · simp
    · cases ht : a.accountType <;> simp [servetPayi, ht]
  have htoplam : nakitToplami p.db userId workspaceId + yatirimDegeri p userId workspaceId false =
      (p.db.accounts.total fun a => if scopeFilter userId workspaceId a then servetPayi a else 0) +
        (kartBorcu p userId workspaceId + krediBorcu p userId workspaceId) := by
    rw [yatirimDegeri_toplami, kartBorcu, krediBorcu, turHesaplari_toplami, turHesaplari_toplami, nakitToplami,
      ← Table.total_add, ← Table.total_add, ← Table.total_add]
    exact Table.total_congr fun _ a _ => hpay a
  rw [gorulenNetDeger, netWorthSeen, htoplam]
  ring

/-- An account of the scope that stays in it takes its change along. -/
theorem gorulenNetDeger_update {k : ℕ} {a : Account} (ha : p.db.accounts.get? k = some a)
    (hscope : scopeFilter userId workspaceId a = true) {f : Account → Account}
    (hf : scopeFilter userId workspaceId (f a) = true) :
    gorulenNetDeger { p with db := p.db.write (.account (.update k f)) } userId workspaceId =
      gorulenNetDeger p userId workspaceId + (servetPayi (f a) - servetPayi a) := by
  rw [gorulenNetDeger_eq, gorulenNetDeger_eq]
  simp only [Db.write, Table.change]
  rw [Table.total_modify ha, if_pos hscope, if_pos hf]
  ring

theorem gorulenNetDeger_bakiyeEkle {k : ℕ} {a : Account} (ha : p.db.accounts.get? k = some a)
    (hscope : scopeFilter userId workspaceId a = true) (q : ℚ) :
    gorulenNetDeger { p with db := p.db.write (bakiyeEkle k q) } userId workspaceId =
      gorulenNetDeger p userId workspaceId + bakiyeAgirligi a.accountType * q := by
  rw [bakiyeEkle, gorulenNetDeger_update ha hscope hscope, servetPayi_bakiye]
  ring

end Scope

section Sums
variable {db : Db} {userId : ℕ} {workspaceId : Option ℕ}

/-- A weight, summed over the accounts that meet a condition. -/
def kosulluToplam (p : Account → Bool) (w : Account → ℚ) (l : List Account) : ℚ := (l.map fun a => if p a then w a else 0).sum

theorem ekle_eq (t : HesapToplamlari) (acc : Account) : t.ekle acc = {
    nakit := t.nakit + if acc.accountType = .cash then acc.balance else 0
    kart := t.kart + if acc.accountType = .creditCard then acc.balance else 0
    kredi := t.kredi + if acc.accountType = .loan then acc.balance else 0
    yatirim := t.yatirim + if acc.accountType = .investment then
      if acc.isEmanet then 0 else acc.lotCount.getD 0 * acc.currentPrice.getD 0 else 0 } := by
  unfold HesapToplamlari.ekle
  split
  · next h => simp [h]
  · next h => simp [h]
  · next h => simp [h]
  · next h =>
    simp only [h, reduceCtorEq, if_false, if_true, add_zero]
    cases acc.isEmanet <;> simp

/-- The loop adds up each kind of account on its own. -/
theorem foldl_ekle (l : List Account) (t : HesapToplamlari) : l.foldl HesapToplamlari.ekle t = {
    nakit := t.nakit + kosulluToplam (fun a => a.accountType = .cash) Account.balance l
    kart := t.kart + kosulluToplam (fun a => a.accountType = .creditCard) Account.balance l
    kredi := t.kredi + kosulluToplam (fun a => a.accountType = .loan) Account.balance l
    yatirim := t.yatirim + kosulluToplam (fun a => a.accountType = .investment)
      (fun a => if a.isEmanet then 0 else a.lotCount.getD 0 * a.currentPrice.getD 0) l } := by
  induction l generalizing t with
  | nil => simp [kosulluToplam]
  | cons acc l ih =>
    rw [List.foldl_cons, ih, ekle_eq]
    simp only [kosulluToplam, List.map_cons, List.sum_cons, decide_eq_true_eq, add_assoc]

/-- Over the accounts of a scope it is a total over all accounts. -/
theorem kosulluToplam_kapsam (tip : AccountType) (w : Account → ℚ) :
    kosulluToplam (fun a => a.accountType = tip) w ((kapsamSatirlari db.accounts userId workspaceId).map Prod.snd) =
      db.accounts.total fun a => if scopeFilter userId workspaceId a ∧ a.accountType = tip then w a else 0 := by
  rw [kosulluToplam, List.map_map, kapsamSatirlari, Table.select, sum_filter_eq, Table.total]
  refine congrArg List.sum (List.map_congr_left fun r _ => ?_)
  cases scopeFilter userId workspaceId r.2 <;> simp

end Sums

/-- The cash and the net worth of the quick summary are those of the cockpit. -/
theorem hizliBakiyeOzeti_eq {safeDebtBuffer anomalyThreshold : ℚ} {c : KokpitDb} {userId : ℕ} {workspaceId : Option ℕ}
    {today : Date} {kokpit : Kokpit}
    (h : generateCockpit safeDebtBuffer anomalyThreshold c userId workspaceId today = .ok kokpit) :
    hizliBakiyeOzeti c.panel.db userId workspaceId = ⟨kokpit.rakamlar.nakitKasa, kokpit.rakamlar.netDeger⟩ := by
  simp only [generateCockpit, bind_eq_ok, pure_eq_ok] at h
  obtain ⟨r, hr, _, -, rfl⟩ := h
  dsimp only
  unfold kokpitRakamlari at hr
  dsimp only at hr
  split_ifs at hr
  obtain rfl := Except.ok.inj hr
  rw [hizliBakiyeOzeti, foldl_ekle]
  simp only [zero_add, kosulluToplam_kapsam]
  rw [← turHesaplari_toplami _ .creditCard Account.balance, ← turHesaplari_toplami _ .loan Account.balance,
    ← @yatirimDegeri_toplami c.panel]
  rfl

def ozetGunu : Date := (Date.ofYmd? 2026 6 9).get rfl

def kasaliKokpit : KokpitDb where
  panel := {
    db := { Db.empty with
      accounts := Table.empty.push ⟨1, none, "Kasa", .cash, 1000, none, none, none, none, none, none, none, false⟩ }
    hesapEki := fun _ => ⟨none, none, none, none⟩
    envelopes := .empty }
  categories := .empty

theorem hizliBakiyeOzeti_kasaliKokpit : ∃ kokpit, generateCockpit 2000 (7 / 5) kasaliKokpit 1 none ozetGunu = .ok kokpit ∧
    hizliBakiyeOzeti kasaliKokpit.panel.db 1 none = ⟨kokpit.rakamlar.nakitKasa, kokpit.rakamlar.netDeger⟩ := by
  cases h : generateCockpit 2000 (7 / 5) kasaliKokpit 1 none ozetGunu with
  | ok kokpit => exact ⟨kokpit, rfl, hizliBakiyeOzeti_eq h⟩
  | error e =>
    have hok : (generateCockpit 2000 (7 / 5) kasaliKokpit 1 none ozetGunu).toOption.isSome = true := by decide +kernel
    rw [h] at hok
    cases hok

end FinancialOs.Guarantees
