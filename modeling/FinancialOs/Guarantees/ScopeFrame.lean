import FinancialOs.Executor.RowAccess

/-! The scope frame of execution: an action stored in a workspace changes rows of that
workspace only, except through the accounts a handler reaches without its scope. -/
namespace FinancialOs.Guarantees
open Library Store Rules Executor

/-- Every row that is not the same before and after belongs to the workspace. -/
structure ScopeFrame (workspaceId : ℕ) (d e : Defter) : Prop where
  accounts : TabloSinirli (· = some workspaceId) d.accounts e.accounts
  transactions : TabloSinirli (· = some workspaceId) d.transactions e.transactions
  debts : TabloSinirli (· = some workspaceId) d.debts e.debts
  checkpoints : TabloSinirli (· = some workspaceId) d.checkpoints e.checkpoints

/-- The unscoped references: a price update finds its account by the owner alone, and a settled
debt is booked on the account that an earlier settlement left its trace on. -/
inductive ScopeEscape (workspaceId : ℕ) (o : Ortam) (p : Payload) : ActionType → Prop where
  | fiyat (id : ℕ) (a : Account) (fiyat : ℚ) (h : PriceUpdate o p id a fiyat)
      (disarida : a.workspaceId ≠ some workspaceId) (tutarli : KartAlanlariTutarli a)
      (degisir : a.currentPrice ≠ some fiyat ∨ a.balance ≠ roundEven (fiyat * a.lotCount.getD 0) 2) :
      ScopeEscape workspaceId o p .updateFundPrice
  | borc (id : ℕ) (d : PersonalDebt) (tarih : Date) (k : ℕ) (a : Account)
      (h : DebtPayment o p id d tarih) (iz : d.settlementAccountId = some k)
      (hesap : o.db.accounts.get? k = some a) (disarida : a.workspaceId ≠ some workspaceId)
      (tutar : d.amount ≠ 0) (tutarli : KartAlanlariTutarli a) :
      ScopeEscape workspaceId o p .markDebtPaid

section Frame
variable {o : Ortam} {p : Payload} {t : ActionType} {ws : List Write} {W : ℕ}

private theorem scopeFrame_refl (d : Defter) : ScopeFrame W d d := ⟨.refl, .refl, .refl, .refl⟩

private theorem scopeFrame_of_sinirli {db e : Db} (h : Sinirli (· = some W) db e) :
    ScopeFrame W (Defter.oku db) (Defter.oku e) :=
  ⟨h.accounts, h.transactions, h.debts, h.checkpoints⟩

/-- A frame that holds forces the row of another workspace to stay as it is. -/
private theorem hesap_kalir (hacc : Accepted o p t ws)
    (hf : ScopeFrame W (Defter.oku o.db) (Defter.oku (o.db.writeAll ws))) {k : ℕ} {a : Account}
    (ha : o.db.accounts.get? k = some a) (hd : a.workspaceId ≠ some W) :
    ws.foldl (hesapEtkisi k) a = a := by
  by_contra hne
  apply hd
  refine hf.accounts k a ⟨?_, .inl ha⟩
  intro he
  have hrow := accounts_row hacc.writes o.db k
  rw [ha, Option.map_some] at hrow
  have hsame : some a = some (ws.foldl (hesapEtkisi k) a) := ha.symm.trans (he.trans hrow)
  exact hne (Option.some.inj hsame).symm

/-- A price update that writes what is already stored leaves every row as it is. -/
private theorem fiyat_frame {id : ℕ} {a : Account} {fiyat deger : ℚ}
    (ha : o.db.accounts.get? id = some a) (hp : a.currentPrice = some fiyat) (hb : a.balance = deger) :
    ScopeFrame W (Defter.oku o.db) (Defter.oku (o.db.writeAll [fiyatYaz id fiyat deger])) := by
  refine { scopeFrame_refl (Defter.oku o.db) with accounts := fun k b h => absurd ?_ h.1 }
  show o.db.accounts.get? k = (o.db.accounts.modify id _).get? k
  rw [Table.get?_modify]
  split
  · next hk =>
    subst hk
    rw [ha, Option.map_some, ← hp, ← hb]
  · rfl

/-- An action that reaches its commit without an unscoped reference stays in its workspace. -/
private theorem accepted_keeps_scope (hk : o.kapsam none = some W) (hacc : Accepted o p t ws)
    (hs : ∀ w ∈ ws, Saglam o.db w) (hesc : ¬ ScopeEscape W o p t) :
    ScopeFrame W (Defter.oku o.db) (Defter.oku (o.db.writeAll ws)) := by
  have hiz : t = .markDebtPaid → ∀ id d tarih h, DebtPayment o p id d tarih → d.amount ≠ 0 →
      izHesabi o.db d.settlementAccountId = some h → h.2.workspaceId = some W := by
    rintro rfl id d tarih g hd hamount hi
    by_contra hdis
    obtain ⟨hiz, hrow⟩ := izHesabi_some.mp hi
    refine hesc (.borc id d tarih g.1 g.2 hd hiz hrow hdis hamount ?_)
    have hhedef : odemeHedefi o d = some g := by
      refine odemeHedefi_some.mpr ⟨hamount, ?_⟩
      have hi' : izHesabi o.db (KapanisDurumu.oku d).settlementAccountId = some g := hi
      rw [hedefHesap, hi']
    cases hacc with
    | borc id' d' tarih' h =>
      have hfound := hd.borc
      rw [h.borc, Except.ok.injEq, Option.some.injEq, Prod.mk.injEq] at hfound
      obtain ⟨rfl, rfl⟩ := hfound
      apply hs (bakiyeEkle g.1 (kapanisDelta d'.direction d'.amount)) ?_ g.2 hrow
      rw [(odemeSonucu_unpaid h.odenmemis tarih').1, hhedef]
      simp
  by_cases ht : t = .updateFundPrice
  · subst ht
    cases hacc with
    | fiyat id a fiyat h =>
      have hrow := (findById_eq_some.mp h.hesap).2.1
      by_cases hdis : a.workspaceId = some W
      · have hacik : AcikHesaplar (· = some W) o p .updateFundPrice := by
          refine ⟨fun _ id' a' fiyat' h' => ?_, fun ht => by cases ht⟩
          have hfound := h'.hesap
          rw [h.hesap, Except.ok.injEq, Option.some.injEq, Prod.mk.injEq] at hfound
          rw [← hfound.2]
          exact hdis
        exact scopeFrame_of_sinirli (sinirli_writeAll ((Accepted.fiyat id a fiyat h).kapsaminda hk rfl hacik))
      · have htutarli : KartAlanlariTutarli a := hs _ List.mem_cons_self a hrow
        have hsame : ¬ (a.currentPrice ≠ some fiyat ∨
            a.balance ≠ roundEven (fiyat * a.lotCount.getD 0) 2) :=
          fun hne => hesc (.fiyat id a fiyat h hdis htutarli hne)
        simp only [ne_eq, not_or, not_not] at hsame
        exact fiyat_frame hrow hsame.1 hsame.2
  · exact scopeFrame_of_sinirli (sinirli_writeAll (hacc.kapsaminda hk rfl ⟨fun h => absurd h ht, hiz⟩))

/-- An unscoped reference reaches the commit and changes a row of another workspace. -/
private theorem scope_escape_touches (hesc : ScopeEscape W o p t) :
    ∃ ws, Accepted o p t ws ∧ (∀ w ∈ ws, Saglam o.db w) ∧
      ¬ ScopeFrame W (Defter.oku o.db) (Defter.oku (o.db.writeAll ws)) := by
  cases hesc with
  | fiyat id a fiyat h disarida tutarli degisir =>
    have hacc := Accepted.fiyat id a fiyat h
    have hrow := (findById_eq_some.mp h.hesap).2.1
    refine ⟨_, hacc, ?_, fun hf => ?_⟩
    · intro w hw
      obtain rfl := List.mem_singleton.mp hw
      exact saglam_account hrow tutarli
    · have hkal := hesap_kalir hacc hf hrow disarida
      simp only [List.foldl_cons, List.foldl_nil, hesapEtkisi_fiyatYaz, if_true] at hkal
      rcases degisir with hne | hne
      · exact hne (congrArg Account.currentPrice hkal).symm
      · exact hne (congrArg Account.balance hkal).symm
  | borc id d tarih k a h iz hesap disarida tutar tutarli =>
    have hacc := Accepted.borc id d tarih h
    have hhedef : odemeHedefi o d = some (k, a) := by
      refine odemeHedefi_some.mpr ⟨tutar, ?_⟩
      have hiz : izHesabi o.db (KapanisDurumu.oku d).settlementAccountId = some (k, a) :=
        izHesabi_some.mpr ⟨iz, hesap⟩
      rw [hedefHesap, hiz]
    rw [(odemeSonucu_unpaid h.odenmemis tarih).1, hhedef] at hacc
    refine ⟨_, hacc, ?_, fun hf => ?_⟩
    · intro w hw
      rcases List.mem_pair.mp hw with rfl | rfl
      · trivial
      · exact saglam_account hesap tutarli
    · have hkal := congrArg Account.balance (hesap_kalir hacc hf hesap disarida)
      simp only [Option.map_some, Option.toList_some, List.foldl_cons, List.foldl_nil, hesapEtkisi_odendiYaz,
        balance_bakiyeEkle, if_true] at hkal
      exact tutar (kapanisDelta_eq_zero.mp (by linarith))

end Frame

/-- Executing an action of a workspace changes no account, transaction, debt or checkpoint of another
one, unless it prices an own account outside of it or settles a debt whose trace leads out of it. -/
theorem scope_frame_iff (ariza : Ariza) (bugun : ℕ → Date) (db : Db) (actionId userId W : ℕ)
    (hkapsam : ∀ pending, kendiAksiyonu db actionId userId = some pending →
      pending.workspaceId = some W) :
    ScopeFrame W (Defter.oku db) (Defter.oku (executePendingAction ariza bugun db actionId userId).2) ↔
      ¬ (ariza.handlerOnce = none ∧ ∃ pending p, Reaches db actionId userId pending p ∧
        ScopeEscape W (ortam bugun db pending userId) p pending.actionType) := by
  rw [execute_defter_iff (P := ScopeFrame W (Defter.oku db)) (scopeFrame_refl _)]
  constructor
  · rintro h ⟨hn, pending, p, hr, hesc⟩
    obtain ⟨ws, hacc, hs, hf⟩ := scope_escape_touches hesc
    exact hf (h pending p ws hn (applies_iff_accepted.mpr ⟨hr, hacc, hs⟩))
  · intro h pending p ws hn happ
    obtain ⟨hr, hacc, hs⟩ := applies_iff_accepted.mp happ
    have hk : (ortam bugun db pending userId).kapsam none = some W := by
      simp only [Ortam.kapsam, ortam, hkapsam pending hr.aksiyon, yazmaWorkspaceId_some]
    exact accepted_keeps_scope hk hacc hs fun hesc => h ⟨hn, pending, p, hr, hesc⟩

/-- A fund in workspace 2 and a price update proposed in workspace 1. -/
def disFonDb : Db := Db.empty.writeAll [
  .account (.insert ⟨1, some 2, "Fon", .investment, 100, none, none, none, none, some 10, some 8, some 10,
    false⟩),
  .pendingAction (.insert ⟨1, some 1, .updateFundPrice,
    .object [(.accountId, .int 1), (.newPrice, .int 12)], "Fon fiyatı 12 TL", .pending, none, none, none⟩)]

def fiyatGunu : Date := (Date.ofYmd? 2026 5 7).get rfl

private theorem disFonDb_kapsam (pending : PendingAction)
    (h : kendiAksiyonu disFonDb 1 1 = some pending) : pending.workspaceId = some 1 := by
  have hw : (kendiAksiyonu disFonDb 1 1).map PendingAction.workspaceId = some (some 1) := by
    decide +kernel
  rw [h] at hw
  exact Option.some.inj hw

theorem scope_frame_iff_disFonDb :
    ScopeFrame 1 (Defter.oku disFonDb)
        (Defter.oku (executePendingAction .yok (fun _ => fiyatGunu) disFonDb 1 1).2) ↔
      ¬ (Ariza.yok.handlerOnce = none ∧ ∃ pending p, Reaches disFonDb 1 1 pending p ∧
        ScopeEscape 1 (ortam (fun _ => fiyatGunu) disFonDb pending 1) p pending.actionType) :=
  scope_frame_iff .yok _ disFonDb 1 1 1 disFonDb_kapsam

/-- The owner's fund in another workspace is repriced from 10 to 12. -/
theorem price_update_left_its_workspace :
    ¬ ∀ ariza bugun db actionId userId W,
      (∀ pending, kendiAksiyonu db actionId userId = some pending → pending.workspaceId = some W) →
      ScopeFrame W (Defter.oku db)
        (Defter.oku (executePendingAction ariza bugun db actionId userId).2) := by
  intro h
  have hf := h .yok (fun _ => fiyatGunu) disFonDb 1 1 1 disFonDb_kapsam
  have hw := hf.accounts 1 ⟨1, some 2, "Fon", .investment, 100, none, none, none, none, some 10, some 8,
    some 10, false⟩ ⟨by decide +kernel, .inl (by decide +kernel)⟩
  exact absurd hw (by decide)

end FinancialOs.Guarantees
