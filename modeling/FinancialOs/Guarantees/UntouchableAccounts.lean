import FinancialOs.Executor.AccountEffects
import FinancialOs.Rules.ActionSchema

/-! The user's rule `account_untouchable`. The gate reads one account from the payload;
the handlers decide on their own which accounts they move. -/
namespace FinancialOs.Guarantees
open Library Store Rules Executor

/-- The balance, the lots and the price of an account. -/
def accountValues (a : Account) : ℚ × Option ℚ × Option ℚ := (a.balance, a.lotCount, a.currentPrice)

def Untouched (k : ℕ) (d e : Defter) : Prop :=
  (e.accounts.get? k).map accountValues = (d.accounts.get? k).map accountValues

/-- An active rule of the scope that declares an account untouchable. -/
def ProtectingRule (db : Db) (userId : ℕ) (workspaceId : Option ℕ) (k : ℕ) : Prop :=
  ∃ id kural params, db.checkpoints.get? id = some kural ∧ scopeFilter userId workspaceId kural = true ∧
    kural.isActive = true ∧ kural.ruleType = some .accountUntouchable ∧
    kural.ruleParams = some (.object params) ∧ (params.get .accountId).asInstanceInt = some (k : ℤ)

/-- The ways past the gate: accounts the gate does not read, and account ids it cannot read. -/
inductive UntouchableEscape (o : Ortam) (p : Payload) (k : ℕ) : ActionType → Prop where
  | kart (card source : ℕ × Account) (q : ℚ) (h : CardPayment o p card source q)
      (hedef : card.1 = k ∨ source.1 = k) (tutarli : KartAlanlariTutarli source.2) :
      UntouchableEscape o p k .payCreditCard
  | satis (inv credit : ℕ × Account) (fiyat : ℚ) (sim : SatisSimulasyonu)
      (h : InvestmentSale o p inv credit fiyat sim)
      (hedef : inv.1 = k ∧ (sim.kalanDeger + (if credit.1 = k then sim.netElineGecen else 0),
          some sim.kalanLot, some fiyat) ≠ accountValues inv.2 ∨
        inv.1 ≠ k ∧ credit.1 = k ∧ sim.netElineGecen ≠ 0)
      (tutarli : KartAlanlariTutarli inv.2 ∧ KartAlanlariTutarli credit.2) :
      UntouchableEscape o p k .sellInvestment
  | borc (id : ℕ) (d : PersonalDebt) (tarih : Date) (a : Account) (h : DebtPayment o p id d tarih)
      (hedef : hedefHesap o.db o.userId (.oku d) (o.kapsam none) = some (k, a)) (tutar : d.amount ≠ 0)
      (tutarli : KartAlanlariTutarli a) : UntouchableEscape o p k .markDebtPaid
  | bakiye (a : Account) (nb : ℚ) (h : BalanceUpdate o p k a nb)
      (okunmaz : (p.get .accountId).asInstanceInt = none) (degisir : nb ≠ a.balance)
      (tutarli : KartAlanlariTutarli a) : UntouchableEscape o p k .updateAccountBalance
  | islem (a : Account) (txn : Transaction) (h : TransactionEntry o p (some (k, a)) txn)
      (okunmaz : (p.get .accountId).asInstanceInt = none)
      (bakiyeli : (p.get .autoUpdateBalance).truthy = true)
      (degisir : txn.transactionType ≠ .transfer) (tutarli : KartAlanlariTutarli a) :
      UntouchableEscape o p k .addTransaction
  | fiyat (a : Account) (fiyat : ℚ) (h : PriceUpdate o p k a fiyat)
      (okunmaz : (p.get .accountId).asInstanceInt = none)
      (degisir : (roundEven (fiyat * a.lotCount.getD 0) 2, a.lotCount, some fiyat) ≠ accountValues a)
      (tutarli : KartAlanlariTutarli a) : UntouchableEscape o p k .updateFundPrice

private theorem untouched_rows {ws : List Write} (h : ∀ w ∈ ws, HandlerWrite w) (db : Db) (k : ℕ) :
    Untouched k (Defter.oku db) (Defter.oku (db.writeAll ws)) ↔
      ∀ a, db.accounts.get? k = some a →
        accountValues (ws.foldl (hesapEtkisi k) a) = accountValues a := by
  simp only [Untouched, Defter.oku, accounts_row h, Option.map_map]
  cases db.accounts.get? k with
  | none => simp
  | some a => simp

private theorem etkilenen_of_int {p : Payload} {n : ℤ} (h : (p.get .accountId).asInstanceInt = some n) :
    etkilenenHesapId (some p) = .ok (some n) := by
  simp [etkilenenHesapId, h]

private theorem int_of_key {v : PyValue} {k : ℕ} (h : primaryKey v = .ok (some k)) :
    v.asInstanceInt = none ∨ v.asInstanceInt = some (k : ℤ) := by
  cases v with
  | bool b =>
    right
    simp only [primaryKey, Except.ok.injEq, Option.some.injEq] at h
    rw [← h]
    cases b <;> rfl
  | int n =>
    simp only [primaryKey] at h
    split at h
    · cases h
    · right
      simp only [Except.ok.injEq] at h
      split at h
      · simp only [Option.some.injEq] at h
        simp only [PyValue.asInstanceInt, Option.some.injEq]
        omega
      · cases h
  | _ => exact .inl rfl

/-- The gate stops every payload whose first readable account is the protected one. -/
theorem gate_reads {db : Db} {actionId userId k : ℕ} {pending : PendingAction} {p : Payload}
    (hr : Reaches db actionId userId pending p) (hp : ProtectingRule db userId pending.workspaceId k) :
    etkilenenHesapId (some p) ≠ .ok (some (k : ℤ)) := by
  obtain ⟨id, kural, params, hk, hs, ha, ht, hparams, hint⟩ := hp
  have hpass := enforceUserRules_pass.mp hr.kurallar id kural hk hs ha (by simp [ht])
  intro he
  simp only [degerlendir, ht, hparams, accountUntouchable, alan, hint, he, bind_eq_ok, if_true,
    Except.ok.injEq, exists_eq_left', pure_eq_ok, reduceCtorEq, exists_false, and_false] at hpass

private theorem okunmaz_of_gate {p : Payload} {k : ℕ} (hg : etkilenenHesapId (some p) ≠ .ok (some (k : ℤ)))
    (hk : primaryKey (p.get .accountId) = .ok (some k)) : (p.get .accountId).asInstanceInt = none := by
  rcases int_of_key hk with h | h
  · exact h
  · exact absurd (etkilenen_of_int h) hg

private theorem kocDelta_ne_zero {t : AccountType} {txnType : TransactionType} {q : ℚ} (hq : 0 < q) :
    kocDelta t txnType q ≠ 0 ↔ txnType ≠ .transfer := by
  have hne : q ≠ 0 := hq.ne'
  cases txnType with
  | income => by_cases h : t = .creditCard <;> simp [kocDelta, h, hne]
  | expense => by_cases h : t = .creditCard <;> simp [kocDelta, h, hne]
  | transfer => simp [kocDelta]

private theorem values_bakiyeEkle (k id : ℕ) (q : ℚ) (a : Account) :
    accountValues (hesapEtkisi k a (bakiyeEkle id q)) = accountValues a ↔ id = k → q = 0 := by
  rw [hesapEtkisi_bakiyeEkle]
  by_cases h : id = k <;> simp [h, accountValues]

/-- Behind the gate, an action without an escape leaves the protected account as it was. -/
private theorem accepted_keeps_protected {o : Ortam} {p : Payload} {t : ActionType} {ws : List Write} {k : ℕ}
    (hg : etkilenenHesapId (some p) ≠ .ok (some (k : ℤ))) (hacc : Accepted o p t ws)
    (hs : ∀ w ∈ ws, Saglam o.db w) (hesc : ¬ UntouchableEscape o p k t) :
    Untouched k (Defter.oku o.db) (Defter.oku (o.db.writeAll ws)) := by
  rw [untouched_rows hacc.writes]
  intro a ha
  cases hacc with
  | bakiye id b nb h =>
    by_cases hk : id = k
    · subst hk
      obtain rfl : a = b := by simpa [ha] using h.hesap.row
      have hnb : nb = a.balance := by
        by_contra hne
        exact hesc (.bakiye a nb h (okunmaz_of_gate hg (findById_eq_some.mp h.hesap).1) hne
          (hs _ List.mem_cons_self a ha))
      simp [hesapEtkisi_bakiyeYaz, accountValues, hnb]
    · simp [hesapEtkisi_bakiyeYaz, hk]
  | islem hesap txn h =>
    cases hb : bakiyeBacagi p hesap txn.transactionType txn.amount with
    | none => simp
    | some b =>
      obtain ⟨g, rfl, hauto, rfl⟩ := bakiyeBacagi_some.mp hb
      obtain ⟨_, hname, _⟩ := islemHesabi_some.mp h.secim
      simp only [Option.map_some, Option.toList_some, List.foldl_cons, List.foldl_nil]
      refine (values_bakiyeEkle k g.1 _ a).mpr fun hk => ?_
      by_contra hne
      obtain ⟨id, c⟩ := g
      dsimp only at hk hname hne
      subst hk
      obtain rfl : a = c := by simpa [ha] using hname.row
      refine hesc (.islem a txn h (okunmaz_of_gate hg (findById_eq_some.mp hname).1) hauto
        ((kocDelta_ne_zero h.pozitif).mp hne) ?_)
      exact hs (bakiyeEkle id (kocDelta a.accountType txn.transactionType txn.amount))
        (by rw [hb]; simp) a ha
  | borc id d tarih h =>
    rw [(odemeSonucu_unpaid h.odenmemis tarih).1]
    cases hh : odemeHedefi o d with
    | none => simp
    | some g =>
      obtain ⟨hamount, hhedef⟩ := odemeHedefi_some.mp hh
      have hne : g.1 ≠ k := by
        obtain ⟨j, c⟩ := g
        rintro rfl
        refine hesc (.borc id d tarih c h hhedef hamount ?_)
        apply hs (bakiyeEkle j (kapanisDelta d.direction d.amount)) ?_ c (hedefHesap_row hhedef)
        rw [(odemeSonucu_unpaid h.odenmemis tarih).1, hh]
        simp
      simp [hesapEtkisi_bakiyeEkle, hne]
  | kart card source q h =>
    have htutarli : KartAlanlariTutarli source.2 :=
      hs (bakiyeEkle source.1 (-q)) (by simp) source.2 (odemeKaynagi_row h.kaynak)
    have hne : card.1 ≠ k ∧ source.1 ≠ k := by
      constructor
      · intro hk
        exact hesc (.kart card source q h (.inl hk) htutarli)
      · intro hk
        exact hesc (.kart card source q h (.inr hk) htutarli)
    simp [hesapEtkisi_bakiyeEkle, hne.1, hne.2]
  | satis inv credit fiyat sim h =>
    have hinv : KartAlanlariTutarli inv.2 :=
      hs (satisYaz inv.1 sim fiyat) (by simp) inv.2 h.yatirim.row
    have hcredit : KartAlanlariTutarli credit.2 :=
      hs (bakiyeEkle credit.1 sim.netElineGecen) (by simp) credit.2 h.hedef.row
    by_contra hne
    refine hesc (.satis inv credit fiyat sim h ?_ ⟨hinv, hcredit⟩)
    by_cases hk : inv.1 = k
    · left
      refine ⟨hk, fun he => hne ?_⟩
      obtain rfl : a = inv.2 := by simpa [← hk, h.yatirim.row] using ha.symm
      rw [← he]
      by_cases hc : credit.1 = k <;>
        simp [hesapEtkisi_satisYaz, hesapEtkisi_bakiyeEkle, accountValues, hk, hc]
    · right
      simp only [List.foldl_cons, List.foldl_nil, hesapEtkisi_satisYaz, if_neg hk,
        values_bakiyeEkle, Classical.not_imp] at hne
      exact ⟨hk, hne⟩
  | fiyat id b f h =>
    by_cases hk : id = k
    · subst hk
      have hrow := findById_eq_some.mp h.hesap
      obtain rfl : a = b := by simpa [ha] using hrow.2.1
      by_contra hne
      refine hesc (.fiyat a f h (okunmaz_of_gate hg hrow.1) (fun he => hne ?_)
        (hs _ List.mem_cons_self a ha))
      rw [← he]
      simp [hesapEtkisi_fiyatYaz, accountValues]
    · simp [hesapEtkisi_fiyatYaz, hk]
  | kural c h => simp

private theorem touched_of {ws : List Write} (h : ∀ w ∈ ws, HandlerWrite w) {db : Db} {k : ℕ} {a : Account}
    (ha : db.accounts.get? k = some a)
    (hne : accountValues (ws.foldl (hesapEtkisi k) a) ≠ accountValues a) :
    ¬ Untouched k (Defter.oku db) (Defter.oku (db.writeAll ws)) := by
  rw [untouched_rows h]
  intro hu
  exact hne (hu a ha)

/-- An escape reaches its commit and changes the protected account. -/
private theorem untouchable_escape_touches {o : Ortam} {p : Payload} {t : ActionType} {k : ℕ}
    (hesc : UntouchableEscape o p k t) :
    ∃ ws, Accepted o p t ws ∧ (∀ w ∈ ws, Saglam o.db w) ∧
      ¬ Untouched k (Defter.oku o.db) (Defter.oku (o.db.writeAll ws)) := by
  cases hesc with
  | kart card source q h hedef tutarli =>
    have hacc := Accepted.kart card source q h
    have hsource := odemeKaynagi_row h.kaynak
    have hpos := h.pozitif
    refine ⟨_, hacc, ?_, ?_⟩
    · intro w hw
      rcases List.mem_pair.mp hw with rfl | rfl
      · exact saglam_account h.kart.row (.inl h.tip)
      · exact saglam_account hsource tutarli
    · rcases hedef with rfl | rfl
      · refine touched_of hacc.writes h.kart.row fun he => ?_
        have hb := congrArg Prod.fst he
        simp only [accountValues, List.foldl_cons, List.foldl_nil, balance_bakiyeEkle, if_true] at hb
        split at hb
        · linarith
        · linarith
      · refine touched_of hacc.writes hsource fun he => ?_
        have hb := congrArg Prod.fst he
        simp only [accountValues, List.foldl_cons, List.foldl_nil, balance_bakiyeEkle, if_true] at hb
        split at hb
        · linarith
        · linarith
  | satis inv credit fiyat sim h hedef tutarli =>
    have hacc := Accepted.satis inv credit fiyat sim h
    refine ⟨_, hacc, ?_, ?_⟩
    · intro w hw
      rcases List.mem_pair.mp hw with rfl | rfl
      · exact saglam_account h.yatirim.row tutarli.1
      · exact saglam_account h.hedef.row tutarli.2
    · rcases hedef with ⟨rfl, hne⟩ | ⟨hinv, rfl, hnet⟩
      · refine touched_of hacc.writes h.yatirim.row fun he => hne ?_
        rw [← he]
        by_cases hc : credit.1 = inv.1 <;>
          simp [hesapEtkisi_satisYaz, hesapEtkisi_bakiyeEkle, accountValues, hc]
      · refine touched_of hacc.writes h.hedef.row fun he => hnet ?_
        simp only [List.foldl_cons, List.foldl_nil, hesapEtkisi_satisYaz, if_neg hinv,
          values_bakiyeEkle] at he
        exact he trivial
  | borc id d tarih a h hedef tutar tutarli =>
    have hacc := Accepted.borc id d tarih h
    have hh : odemeHedefi o d = some (k, a) := odemeHedefi_some.mpr ⟨tutar, hedef⟩
    rw [(odemeSonucu_unpaid h.odenmemis tarih).1, hh] at hacc
    refine ⟨_, hacc, ?_, ?_⟩
    · intro w hw
      rcases List.mem_pair.mp hw with rfl | rfl
      · trivial
      · exact saglam_account (hedefHesap_row hedef) tutarli
    · refine touched_of hacc.writes (hedefHesap_row hedef) fun he => tutar ?_
      simp only [Option.map_some, Option.toList_some, List.foldl_cons, List.foldl_nil,
        hesapEtkisi_odendiYaz, values_bakiyeEkle] at he
      exact kapanisDelta_eq_zero.mp (he trivial)
  | bakiye a nb h okunmaz degisir tutarli =>
    have hacc := Accepted.bakiye k a nb h
    refine ⟨_, hacc, ?_, touched_of hacc.writes h.hesap.row fun he => degisir ?_⟩
    · intro w hw
      obtain rfl := List.mem_singleton.mp hw
      exact saglam_account h.hesap.row tutarli
    · have hb := congrArg Prod.fst he
      simpa [hesapEtkisi_bakiyeYaz, accountValues] using hb
  | islem a txn h okunmaz bakiyeli degisir tutarli =>
    have hacc := Accepted.islem _ txn h
    obtain ⟨_, hname, _⟩ := islemHesabi_some.mp h.secim
    have hb : bakiyeBacagi p (some (k, a)) txn.transactionType txn.amount =
        some (k, kocDelta a.accountType txn.transactionType txn.amount) :=
      bakiyeBacagi_some.mpr ⟨_, rfl, bakiyeli, rfl⟩
    rw [hb] at hacc
    refine ⟨_, hacc, ?_, touched_of hacc.writes hname.row fun he => ?_⟩
    · intro w hw
      rcases List.mem_pair.mp hw with rfl | rfl
      · intro id hid
        have hsak := h.saklanan
        simp only [saklananHesap, Except.ok.injEq] at hsak
        obtain rfl : k = id := by simpa [← hsak] using hid
        simp [hname.row]
      · exact saglam_account hname.row tutarli
    · simp only [Option.map_some, Option.toList_some, List.foldl_cons, List.foldl_nil,
        hesapEtkisi_transaction, values_bakiyeEkle] at he
      exact (kocDelta_ne_zero h.pozitif).mpr degisir (he trivial)
  | fiyat a f h okunmaz degisir tutarli =>
    have hacc := Accepted.fiyat k a f h
    have hrow := (findById_eq_some.mp h.hesap).2.1
    refine ⟨_, hacc, ?_, touched_of hacc.writes hrow fun he => degisir ?_⟩
    · intro w hw
      obtain rfl := List.mem_singleton.mp hw
      exact saglam_account hrow tutarli
    · rw [← he]
      simp [hesapEtkisi_fiyatYaz, accountValues]

/-- With a valid payload only accounts the gate does not look at are left to escape. -/
theorem valid_escape_kinds {o : Ortam} {p : Payload} {k : ℕ} {t : ActionType}
    (h : semayaUyar t p = true) (hesc : UntouchableEscape o p k t) :
    t = .payCreditCard ∨ t = .sellInvestment ∨ t = .markDebtPaid := by
  have hfield : ∀ v, p.get .accountId = v → v.asInstanceInt = none → primaryKey v = .ok none := by
    intro v hv hint
    rcases semayaUyar_accountId h with hn | ⟨n, _, hn⟩
    · rw [← hv, hn]
      rfl
    · rw [← hv, hn] at hint
      cases hint
  have hno : (p.get .accountId).asInstanceInt = none →
      primaryKey (p.get .accountId) ≠ .ok (some k) := by
    intro hint hk
    rw [hfield _ rfl hint] at hk
    cases hk
  cases hesc with
  | kart => exact .inl rfl
  | satis => exact .inr (.inl rfl)
  | borc => exact .inr (.inr rfl)
  | bakiye a nb hu okunmaz => exact absurd (findById_eq_some.mp hu.hesap).1 (hno okunmaz)
  | islem a txn hu okunmaz =>
    obtain ⟨_, hname, _⟩ := islemHesabi_some.mp hu.secim
    exact absurd (findById_eq_some.mp hname).1 (hno okunmaz)
  | fiyat a f hu okunmaz => exact absurd (findById_eq_some.mp hu.hesap).1 (hno okunmaz)

/-- A card the user declared untouchable, and a proposal to pay it from another account. -/
def protectedCardDb : Db := Db.empty.writeAll [
  .account (.insert ⟨1, none, "Kart", .creditCard, 500, none, none, none, none, none, none, none, false⟩),
  .account (.insert ⟨1, none, "Nakit", .cash, 1000, none, none, none, none, none, none, none, false⟩),
  .checkpoint (.insert ⟨1, none, "Karta dokunma", "", .redLine, 1, true, some .accountUntouchable,
    some (.object [(.accountId, .int 1)])⟩),
  .pendingAction (.insert ⟨1, none, .payCreditCard, .object [
      (.cardAccountId, .int 1), (.amount, .int 100), (.sourceAccountId, .int 2)],
    "100 TL kart ödemesi", .pending, none, none, none⟩)]

private theorem protectedCardDb_rule (pending : PendingAction)
    (h : kendiAksiyonu protectedCardDb 1 1 = some pending) :
    ProtectingRule protectedCardDb 1 pending.workspaceId 1 := by
  have hw : (kendiAksiyonu protectedCardDb 1 1).map PendingAction.workspaceId = some none := by
    decide +kernel
  rw [h, Option.map_some, Option.some.injEq] at hw
  rw [hw]
  exact ⟨1, ⟨1, none, "Karta dokunma", "", .redLine, 1, true, some .accountUntouchable,
    some (.object [(.accountId, .int 1)])⟩, [(.accountId, .int 1)], by decide +kernel, by decide +kernel,
    rfl, rfl, rfl, rfl⟩

end FinancialOs.Guarantees
