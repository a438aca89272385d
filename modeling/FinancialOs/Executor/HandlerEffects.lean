import FinancialOs.Executor.Handlers

/-! Inversion of the handlers: the requests each one carries out and the rows
it then commits. Everything proved about actions starts from these. -/
namespace FinancialOs.Executor
open Library Store Rules
variable {o : Ortam} {p : Payload} {ws : List Write}

/-- A handler call that goes through and commits these writes. -/
def Commits (r : Except Durak Islem) (ws : List Write) : Prop := ∃ i, r = .ok i ∧ i.writes = ws

/-- The account a payload value names inside the scope of the request. -/
def Names (o : Ortam) (value : PyValue) (id : ℕ) (a : Account) : Prop :=
  findById o.db.accounts o.userId (o.kapsam none) value = .ok (some (id, a))

structure BalanceUpdate (o : Ortam) (p : Payload) (id : ℕ) (a : Account) (nb : ℚ) : Prop where
  hesap : Names o (p.get .accountId) id a
  emanet : a.isEmanet = false
  bakiye : (p.get .newBalance).toFloat = .ok (.finite nb)

structure TransactionEntry (o : Ortam) (p : Payload) (hesap : Option (ℕ × Account))
    (txn : Transaction) : Prop where
  tip : islemTipi (p.get .transactionType) = some txn.transactionType
  tutar : (p.get .amount).toFloat = .ok (.finite txn.amount)
  pozitif : 0 < txn.amount
  secim : islemHesabi o (p.get .accountId) = .ok hesap
  saklanan : saklananHesap (p.get .accountId) hesap = .ok txn.accountId
  sahip : txn.userId = o.userId
  kapsam : txn.workspaceId = o.kapsam (hesap.bind (fun h => h.2.workspaceId))
  tarih : tarihOku o.bugun (p.get .transactionDate) = .ok (some txn.transactionDate)
  kategori : sutunMetni (p.get .category) = .ok txn.category
  aciklama : sutunMetni (p.get .description) = .ok txn.description
  kart : txn.isCardExpense = (p.getD .isCardExpense (.bool false)).truthy

structure DebtPayment (o : Ortam) (p : Payload) (id : ℕ) (d : PersonalDebt) (tarih : Date) :
    Prop where
  borc : findById o.db.debts o.userId (o.kapsam none) (p.get .debtId) = .ok (some (id, d))
  odenmemis : d.isPaid = false
  tarih : tarihOku o.bugun (p.get .paidDate) = .ok (some tarih)

structure CardPayment (o : Ortam) (p : Payload) (card source : ℕ × Account) (q : ℚ) : Prop where
  kart : Names o ((p.get .cardAccountId).orElse (p.get .accountId)) card.1 card.2
  tip : card.2.accountType = .creditCard
  kaynak : odemeKaynagi o (p.get .sourceAccountId) = .ok (some source)
  tutar : paraD (p.get .amount) = .ok (.finite q)
  pozitif : 0 < q

structure InvestmentSale (o : Ortam) (p : Payload) (inv credit : ℕ × Account) (fiyat : ℚ)
    (sim : SatisSimulasyonu) : Prop where
  yatirim : Names o (p.get .investmentId) inv.1 inv.2
  tip : inv.2.accountType = .investment
  emanet : inv.2.isEmanet = false
  satis : ∃ lot cost current, (p.get .lotsToSell).toFloat = .ok (.finite lot) ∧
    inv.2.costPerLot = some cost ∧ inv.2.currentPrice = some current ∧
    satisFiyati current (p.get .actualPrice) = .ok (some fiyat) ∧
    simulatePartialSale (inv.2.lotCount.getD 0) cost fiyat lot = .ok sim
  verildi : (p.get .creditToAccountId).truthy = true
  hedef : Names o (p.get .creditToAccountId) credit.1 credit.2
  hedefEmanet : credit.2.isEmanet = false

structure PriceUpdate (o : Ortam) (p : Payload) (id : ℕ) (a : Account) (fiyat : ℚ) : Prop where
  hesap : findById o.db.accounts o.userId none (p.get .accountId) = .ok (some (id, a))
  tip : a.accountType = .investment
  okunan : (p.get .newPrice).toFloat = .ok (.finite fiyat)
  pozitif : 0 < fiyat

theorem parseFinite_eq_some {v : PyValue} {q : ℚ} :
    parseFinite v = .ok (some q) ↔ v.toFloat = .ok (.finite q) := by
  unfold parseFinite
  rcases v.toFloat with e | x
  · cases e <;> simp
  · cases x <;> simp

private theorem findById_none {α : Type} [Scoped α] (t : Table α) (u : ℕ) (w : Option ℕ)
    {v : PyValue} (h : v.isNone = true) : findById t u w v = .ok none := by
  cases v <;> simp_all [PyValue.isNone, findById, primaryKey]

private theorem not_isNone_of_found {α : Type} [Scoped α] {t : Table α} {u : ℕ} {w : Option ℕ}
    {v : PyValue} {r : ℕ × α} (h : findById t u w v = .ok (some r)) : v.isNone = false := by
  cases hv : v.isNone with
  | false => rfl
  | true =>
    rw [findById_none t u w hv] at h
    cases h

private theorem not_isNone_of_float {v : PyValue} {x : PyFloat} (h : v.toFloat = .ok x) :
    v.isNone = false := by
  cases v with
  | none => cases h
  | _ => rfl

private theorem not_isNone_of_decimal {v : PyValue} {x : PyFloat} (h : paraD v = .ok x) :
    v.isNone = false := by
  cases v with
  | none => cases h
  | _ => rfl

theorem updateAccountBalance_commits :
    Commits (executeUpdateAccountBalance o p) ws ↔
      ∃ id a nb, BalanceUpdate o p id a nb ∧ ws = [bakiyeYaz id nb] := by
  simp only [Commits, executeUpdateAccountBalance, bind_eq_ok, stopIf_eq_ok, require_eq_ok,
    pure_eq_ok, Ortam.hesap, within_eq_ok, exists_and_left, exists_const]
  constructor
  · rintro ⟨i, ⟨_, _, hf, h, rfl, he, _, hn, nb, rfl, rfl⟩, rfl⟩
    exact ⟨h.1, h.2, nb, ⟨hf, by simpa using he, parseFinite_eq_some.mp hn⟩, rfl⟩
  · rintro ⟨id, a, nb, ⟨hf, he, hn⟩, rfl⟩
    refine ⟨_, ⟨?_, some (id, a), hf, (id, a), rfl, by simpa using he, some nb,
      parseFinite_eq_some.mpr hn, nb, rfl, rfl⟩, rfl⟩
    simp [not_isNone_of_found hf, not_isNone_of_float hn]

theorem addTransaction_commits :
    Commits (executeAddTransaction o p) ws ↔
      ∃ hesap txn, TransactionEntry o p hesap txn ∧
        ws = .transaction (.insert txn) ::
          ((bakiyeBacagi p hesap txn.transactionType txn.amount).map
            (fun b => bakiyeEkle b.1 b.2)).toList := by
  simp only [Commits, executeAddTransaction, bind_eq_ok, stopIf_eq_ok, require_eq_ok, pure_eq_ok,
    exists_and_left, exists_const]
  constructor
  · rintro ⟨i, ⟨t, ht, _, _, hq, q, rfl, hpos, _, hd, hesap, hh, sak, hs, kat, hk, ac, ha, d, rfl, rfl⟩, rfl⟩
    refine ⟨hesap, _, ⟨ht, parseFinite_eq_some.mp hq, ?_, hh, hs, rfl, rfl, hd, hk, ha, rfl⟩, rfl⟩
    exact not_le.mp hpos
  · rintro ⟨hesap, txn, h, rfl⟩
    refine ⟨_, ⟨txn.transactionType, h.tip, ?_, some txn.amount, parseFinite_eq_some.mpr h.tutar,
      txn.amount, rfl, not_le.mpr h.pozitif, some txn.transactionDate, h.tarih, hesap, h.secim,
      txn.accountId, h.saklanan, txn.category, h.kategori, txn.description, h.aciklama,
      txn.transactionDate, rfl, rfl⟩, ?_⟩
    · simp [not_isNone_of_float h.tutar]
    · rw [← h.sahip, ← h.kapsam, ← h.kart]

/-- The cash leg of paying a debt. -/
def odemeSonucu (o : Ortam) (d : PersonalDebt) (tarih : Date) : KapanisSonucu :=
  senkronizeNakit o.db o.userId { d with paidDate := some tarih, isPaid := true } (.oku d)
    (o.kapsam none)

theorem markDebtPaid_commits :
    Commits (executeMarkDebtPaid o p) ws ↔
      ∃ id d tarih, DebtPayment o p id d tarih ∧
        ws = odendiYaz id tarih (odemeSonucu o d tarih).settlementAccountId ::
          (odemeSonucu o d tarih).writes := by
  simp only [Commits, executeMarkDebtPaid, bind_eq_ok, stopIf_eq_ok, require_eq_ok, pure_eq_ok,
    within_eq_ok, exists_and_left, exists_const]
  constructor
  · rintro ⟨i, ⟨_, _, hf, borc, rfl, hp, _, ht, tarih, rfl, rfl⟩, rfl⟩
    exact ⟨borc.1, borc.2, tarih, ⟨hf, by simpa using hp, ht⟩, rfl⟩
  · rintro ⟨id, d, tarih, ⟨hf, hp, ht⟩, rfl⟩
    refine ⟨_, ⟨?_, some (id, d), hf, (id, d), rfl, by simpa using hp, some tarih, ht, tarih, rfl,
      rfl⟩, rfl⟩
    simp [not_isNone_of_found hf]

theorem payCreditCard_commits :
    Commits (executePayCreditCard o p) ws ↔
      ∃ card source q, CardPayment o p card source q ∧
        ws = [bakiyeEkle card.1 (-q), bakiyeEkle source.1 (-q)] := by
  simp only [Commits, executePayCreditCard, bind_eq_ok, stopIf_eq_ok, require_eq_ok, pure_eq_ok,
    Ortam.hesap, within_eq_ok, exists_and_left, exists_const]
  constructor
  · rintro ⟨i, ⟨_, x, hd, hpos, found, hf, card, hc, _, hs, source, rfl, q, hq, rfl⟩, rfl⟩
    obtain ⟨rfl, htype⟩ := Option.filter_eq_some_iff.mp hc
    cases x with
    | finite r =>
      obtain rfl : r = q := by simpa [PyFloat.finite?] using hq
      refine ⟨card, source, r, ⟨hf, by simpa using htype, hs, hd, ?_⟩, rfl⟩
      simpa [PyFloat.nonpos] using hpos
    | infinite n => cases hq
    | nan => cases hq
  · rintro ⟨card, source, q, ⟨hf, htype, hs, hd, hpos⟩, rfl⟩
    refine ⟨_, ⟨?_, .finite q, hd, ?_, some card, hf, card, ?_, some source, hs, source, rfl, q, rfl,
      rfl⟩, rfl⟩
    · simp [not_isNone_of_found hf, not_isNone_of_decimal hd]
    · simpa [PyFloat.nonpos] using hpos
    · exact Option.filter_eq_some_iff.mpr ⟨rfl, by simpa using htype⟩

theorem sellInvestment_commits :
    Commits (executeSellInvestment o p) ws ↔
      ∃ inv credit fiyat sim, InvestmentSale o p inv credit fiyat sim ∧
        ws = [satisYaz inv.1 sim fiyat, bakiyeEkle credit.1 sim.netElineGecen] := by
  simp only [Commits, executeSellInvestment, bind_eq_ok, stopIf_eq_ok, require_eq_ok, pure_eq_ok,
    Ortam.hesap, within_eq_ok, exists_and_left, exists_const]
  constructor
  · rintro ⟨i, ⟨_, _, hf, inv, rfl, htype, he, _, hl, lot, rfl, _, _, cost, hc, cur, hcur, _, hp, fiyat,
      rfl, sim, hsim, hv, _, hg, credit, rfl, hce, rfl⟩, rfl⟩
    exact ⟨inv, credit, fiyat, sim, ⟨hf, by simpa using htype, by simpa using he,
      ⟨lot, cost, cur, parseFinite_eq_some.mp hl, hc, hcur, hp, hsim⟩, by simpa using hv, hg,
      by simpa using hce⟩, rfl⟩
  · rintro ⟨inv, credit, fiyat, sim, h, rfl⟩
    obtain ⟨lot, cost, cur, hl, hc, hcur, hp, hsim⟩ := h.satis
    have hlot : ¬ lot ≤ 0 ∧ ¬ inv.2.lotCount.getD 0 < lot := by
      unfold simulatePartialSale at hsim
      split_ifs at hsim with h1 h2 h3
      exact ⟨h1, h3⟩
    refine ⟨_, ⟨?_, some inv, h.yatirim, inv, rfl, by simpa using h.tip, by simpa using h.emanet,
      some lot, parseFinite_eq_some.mpr hl, lot, rfl, hlot.1, hlot.2, cost, hc, cur, hcur, some fiyat,
      hp, fiyat, rfl, sim, hsim, by simpa using h.verildi, some credit, h.hedef, credit, rfl,
      by simpa using h.hedefEmanet, rfl⟩, rfl⟩
    simp [not_isNone_of_found h.yatirim, not_isNone_of_float hl]

theorem updateFundPrice_commits :
    Commits (executeUpdateFundPrice o p) ws ↔
      ∃ id a fiyat, PriceUpdate o p id a fiyat ∧
        ws = [fiyatYaz id fiyat (roundEven (fiyat * a.lotCount.getD 0) 2)] := by
  simp only [Commits, executeUpdateFundPrice, updateFundPriceManual, bind_eq_ok, stopIf_eq_ok,
    require_eq_ok, pure_eq_ok, within_eq_ok, exists_and_left, exists_const]
  constructor
  · rintro ⟨i, ⟨_, _, hn, fiyat, rfl, _, hf, h, rfl, htype, hpos, rfl⟩, rfl⟩
    exact ⟨h.1, h.2, fiyat, ⟨hf, by simpa using htype, parseFinite_eq_some.mp hn, not_le.mp hpos⟩, rfl⟩
  · rintro ⟨id, a, fiyat, ⟨hf, htype, hn, hpos⟩, rfl⟩
    refine ⟨_, ⟨?_, some fiyat, parseFinite_eq_some.mpr hn, fiyat, rfl, some (id, a), hf, (id, a), rfl,
      by simpa using htype, not_le.mpr hpos, rfl⟩, rfl⟩
    simp [not_isNone_of_found hf, not_isNone_of_float hn]

/-- The only row a new red line writes is the red line itself, in the scope of the request. -/
theorem addMasterCheckpoint_commits (h : Commits (executeAddMasterCheckpoint o p) ws) :
    ∃ c, ws = [.checkpoint (.insert c)] ∧ c.userId = o.userId ∧ c.workspaceId = o.kapsam none ∧
      c.ruleType = none := by
  simp only [Commits, executeAddMasterCheckpoint, bind_eq_ok, stopIf_eq_ok, require_eq_ok, pure_eq_ok,
    within_eq_ok, exists_and_left, exists_const] at h
  obtain ⟨i, ⟨_, tip, _, n, _, t, _, d, _, rfl⟩, rfl⟩ := h
  exact ⟨_, rfl, rfl, rfl, rfl⟩

/-- The rows a handler can write; an account keeps everything but its balance, lots and price,
and a debt is left with a payment date exactly when it is paid. -/
inductive HandlerWrite : Write → Prop where
  | account (id : ℕ) (f : Account → Account)
      (h : ∀ a, f a = { a with
        balance := (f a).balance, lotCount := (f a).lotCount, currentPrice := (f a).currentPrice }) :
      HandlerWrite (.account (.update id f))
  | transaction (t : Transaction) : HandlerWrite (.transaction (.insert t))
  | debt (id : ℕ) (f : PersonalDebt → PersonalDebt) (h : ∀ d, (f d).isPaid = (f d).paidDate.isSome) :
      HandlerWrite (.debt (.update id f))
  | checkpoint (c : MasterCheckpoint) : HandlerWrite (.checkpoint (.insert c))

theorem handlerWrite_bakiyeEkle (id : ℕ) (q : ℚ) : HandlerWrite (bakiyeEkle id q) :=
  .account id _ fun _ => rfl

theorem Names.row {v : PyValue} {id : ℕ} {a : Account} (h : Names o v id a) :
    o.db.accounts.get? id = some a := (findById_eq_some.mp h).2.1

theorem odemeKaynagi_some {v : PyValue} {s : ℕ × Account} :
    odemeKaynagi o v = .ok (some s) ↔
      v.isNone = true ∧ varsayilanNakitHesap o.db o.userId (o.kapsam none) = some s ∨
        v.isNone = false ∧ Names o v s.1 s.2 := by
  unfold odemeKaynagi
  cases v.isNone with
  | true => simp
  | false => simp [Names, Ortam.hesap]

theorem odemeKaynagi_row {v : PyValue} {s : ℕ × Account} (h : odemeKaynagi o v = .ok (some s)) :
    o.db.accounts.get? s.1 = some s.2 := by
  rcases odemeKaynagi_some.mp h with ⟨_, h⟩ | ⟨_, h⟩
  · exact (varsayilanHesap_spec h).1
  · exact h.row

theorem islemHesabi_some {v : PyValue} {h : ℕ × Account} :
    islemHesabi o v = .ok (some h) ↔ v.truthy = true ∧ Names o v h.1 h.2 ∧ h.2.isEmanet = false := by
  unfold islemHesabi
  cases v.truthy with
  | false => simp
  | true =>
    simp only [if_true, bind_eq_ok, require_eq_ok, stopIf_eq_ok, pure_eq_ok, Option.some.injEq,
      Ortam.hesap, within_eq_ok, exists_const, Bool.not_eq_true, true_and]
    constructor
    · rintro ⟨_, hf, _, rfl, he, rfl⟩
      exact ⟨hf, he⟩
    · rintro ⟨hf, he⟩
      exact ⟨_, hf, h, rfl, he, rfl⟩

theorem islemHesabi_none {v : PyValue} : islemHesabi o v = .ok none ↔ v.truthy = false := by
  unfold islemHesabi
  cases v.truthy with
  | false => simp
  | true =>
    simp only [if_true, bind_eq_ok, pure_eq_ok, reduceCtorEq, and_false, exists_false]

theorem bakiyeBacagi_some {hesap : Option (ℕ × Account)} {t : TransactionType} {q : ℚ} {b : ℕ × ℚ} :
    bakiyeBacagi p hesap t q = some b ↔
      ∃ h, hesap = some h ∧ (p.get .autoUpdateBalance).truthy = true ∧
        b = (h.1, kocDelta h.2.accountType t q) := by
  unfold bakiyeBacagi
  cases hesap with
  | none => simp
  | some h => cases (p.get .autoUpdateBalance).truthy <;> simp [eq_comm]

/-- The account that paying a debt moves. -/
def odemeHedefi (o : Ortam) (d : PersonalDebt) : Option (ℕ × Account) :=
  if kapanisDelta d.direction d.amount ≠ 0 then
    hedefHesap o.db o.userId (.oku d) (o.kapsam none)
  else none

theorem odemeSonucu_unpaid {d : PersonalDebt} (h : d.isPaid = false) (tarih : Date) :
    (odemeSonucu o d tarih).writes =
        ((odemeHedefi o d).map (fun h => bakiyeEkle h.1 (kapanisDelta d.direction d.amount))).toList ∧
      (odemeSonucu o d tarih).settlementAccountId = (odemeHedefi o d).map Prod.fst := by
  have heski : eskiHesap o.db (.oku d) = none := by simp [eskiHesap, KapanisDurumu.oku, h]
  simp only [odemeSonucu, senkronizeNakit, heski, odemeHedefi, if_true]
  by_cases hd : kapanisDelta d.direction d.amount = 0
  · simp [hd, ayakYazimlari]
  · simp only [ne_eq, hd, not_false_eq_true, if_true]
    cases hedefHesap o.db o.userId (.oku d) (o.kapsam none) with
    | none => simp [ayakYazimlari]
    | some h => simp [ayakYazimlari, bakiyeFarki, hd]

theorem kapanisDelta_eq_zero {direction : DebtDirection} {amount : ℚ} :
    kapanisDelta direction amount = 0 ↔ amount = 0 := by
  cases direction <;> simp [kapanisDelta]

theorem odemeHedefi_some {d : PersonalDebt} {h : ℕ × Account} :
    odemeHedefi o d = some h ↔
      d.amount ≠ 0 ∧ hedefHesap o.db o.userId (.oku d) (o.kapsam none) = some h := by
  unfold odemeHedefi
  by_cases hd : d.amount = 0 <;> simp [kapanisDelta_eq_zero, hd]

theorem izHesabi_some {db : Db} {iz : Option ℕ} {h : ℕ × Account} :
    izHesabi db iz = some h ↔ iz = some h.1 ∧ db.accounts.get? h.1 = some h.2 := by
  cases iz with
  | none => simp [izHesabi]
  | some k =>
    simp only [izHesabi, Option.map_eq_some_iff, Option.some.injEq]
    constructor
    · rintro ⟨a, ha, rfl⟩
      exact ⟨rfl, ha⟩
    · rintro ⟨rfl, ha⟩
      exact ⟨h.2, ha, rfl⟩

theorem hedefHesap_cases {db : Db} {userId : ℕ} {onceki : KapanisDurumu} {w : Option ℕ}
    {h : ℕ × Account} (hh : hedefHesap db userId onceki w = some h) :
    izHesabi db onceki.settlementAccountId = some h ∨
      izHesabi db onceki.settlementAccountId = none ∧ varsayilanNakitHesap db userId w = some h := by
  unfold hedefHesap at hh
  cases hi : izHesabi db onceki.settlementAccountId with
  | some g =>
    rw [hi] at hh
    exact .inl hh
  | none =>
    rw [hi] at hh
    exact .inr ⟨rfl, hh⟩

theorem hedefHesap_row {db : Db} {userId : ℕ} {onceki : KapanisDurumu} {w : Option ℕ}
    {h : ℕ × Account} (hh : hedefHesap db userId onceki w = some h) :
    db.accounts.get? h.1 = some h.2 := by
  rcases hedefHesap_cases hh with hi | ⟨_, hv⟩
  · exact (izHesabi_some.mp hi).2
  · exact (varsayilanHesap_spec hv).1

/-- Everything an action of a type can commit. -/
inductive Accepted (o : Ortam) (p : Payload) : ActionType → List Write → Prop where
  | bakiye (id : ℕ) (a : Account) (nb : ℚ) (h : BalanceUpdate o p id a nb) :
      Accepted o p .updateAccountBalance [bakiyeYaz id nb]
  | islem (hesap : Option (ℕ × Account)) (txn : Transaction) (h : TransactionEntry o p hesap txn) :
      Accepted o p .addTransaction (.transaction (.insert txn) ::
        ((bakiyeBacagi p hesap txn.transactionType txn.amount).map
          (fun b => bakiyeEkle b.1 b.2)).toList)
  | borc (id : ℕ) (d : PersonalDebt) (tarih : Date) (h : DebtPayment o p id d tarih) :
      Accepted o p .markDebtPaid (odendiYaz id tarih (odemeSonucu o d tarih).settlementAccountId ::
        (odemeSonucu o d tarih).writes)
  | kart (card source : ℕ × Account) (q : ℚ) (h : CardPayment o p card source q) :
      Accepted o p .payCreditCard [bakiyeEkle card.1 (-q), bakiyeEkle source.1 (-q)]
  | satis (inv credit : ℕ × Account) (fiyat : ℚ) (sim : SatisSimulasyonu)
      (h : InvestmentSale o p inv credit fiyat sim) :
      Accepted o p .sellInvestment [satisYaz inv.1 sim fiyat, bakiyeEkle credit.1 sim.netElineGecen]
  | fiyat (id : ℕ) (a : Account) (fiyat : ℚ) (h : PriceUpdate o p id a fiyat) :
      Accepted o p .updateFundPrice [fiyatYaz id fiyat (roundEven (fiyat * a.lotCount.getD 0) 2)]
  | kural (c : MasterCheckpoint)
      (h : Commits (executeAddMasterCheckpoint o p) [.checkpoint (.insert c)]) :
      Accepted o p .addMasterCheckpoint [.checkpoint (.insert c)]

theorem accepted_iff {t : ActionType} :
    (∃ handler, actionHandlers t = some handler ∧ Commits (handler o p) ws) ↔ Accepted o p t ws := by
  constructor
  · rintro ⟨handler, ht, h⟩
    cases t with
    | updateAccountBalance =>
      cases ht
      obtain ⟨id, a, nb, hs, rfl⟩ := updateAccountBalance_commits.mp h
      exact .bakiye id a nb hs
    | addTransaction =>
      cases ht
      obtain ⟨hesap, txn, hs, rfl⟩ := addTransaction_commits.mp h
      exact .islem hesap txn hs
    | markDebtPaid =>
      cases ht
      obtain ⟨id, d, tarih, hs, rfl⟩ := markDebtPaid_commits.mp h
      exact .borc id d tarih hs
    | payCreditCard =>
      cases ht
      obtain ⟨card, source, q, hs, rfl⟩ := payCreditCard_commits.mp h
      exact .kart card source q hs
    | sellInvestment =>
      cases ht
      obtain ⟨inv, credit, fiyat, sim, hs, rfl⟩ := sellInvestment_commits.mp h
      exact .satis inv credit fiyat sim hs
    | updateFundPrice =>
      cases ht
      obtain ⟨id, a, fiyat, hs, rfl⟩ := updateFundPrice_commits.mp h
      exact .fiyat id a fiyat hs
    | addMasterCheckpoint =>
      cases ht
      obtain ⟨c, rfl, _⟩ := addMasterCheckpoint_commits h
      exact .kural c h
    | unknown name => cases ht
  · intro h
    cases h with
    | bakiye id a nb h => exact ⟨_, rfl, updateAccountBalance_commits.mpr ⟨id, a, nb, h, rfl⟩⟩
    | islem hesap txn h => exact ⟨_, rfl, addTransaction_commits.mpr ⟨hesap, txn, h, rfl⟩⟩
    | borc id d tarih h => exact ⟨_, rfl, markDebtPaid_commits.mpr ⟨id, d, tarih, h, rfl⟩⟩
    | kart card source q h => exact ⟨_, rfl, payCreditCard_commits.mpr ⟨card, source, q, h, rfl⟩⟩
    | satis inv credit fiyat sim h =>
      exact ⟨_, rfl, sellInvestment_commits.mpr ⟨inv, credit, fiyat, sim, h, rfl⟩⟩
    | fiyat id a fiyat h => exact ⟨_, rfl, updateFundPrice_commits.mpr ⟨id, a, fiyat, h, rfl⟩⟩
    | kural c h => exact ⟨_, rfl, h⟩

/-- No handler writes outside the ledger, and none moves an account to another owner or type. -/
theorem Accepted.writes {t : ActionType} (h : Accepted o p t ws) : ∀ w ∈ ws, HandlerWrite w := by
  intro w hw
  cases h with
  | bakiye id a nb h =>
    obtain rfl := List.mem_singleton.mp hw
    exact .account id _ fun _ => rfl
  | islem hesap txn h =>
    rcases List.mem_cons.mp hw with rfl | hw
    · exact .transaction txn
    · obtain ⟨b, _, rfl⟩ := Option.map_eq_some_iff.mp (Option.mem_toList.mp hw)
      exact handlerWrite_bakiyeEkle _ _
  | borc id d tarih h =>
    rcases List.mem_cons.mp hw with rfl | hw
    · exact .debt id _ fun _ => rfl
    · obtain ⟨k, q, rfl⟩ := mem_ayakYazimlari hw
      exact handlerWrite_bakiyeEkle _ _
  | kart card source q h =>
    rcases List.mem_pair.mp hw with rfl | rfl
    · exact handlerWrite_bakiyeEkle _ _
    · exact handlerWrite_bakiyeEkle _ _
  | satis inv credit fiyat sim h =>
    rcases List.mem_pair.mp hw with rfl | rfl
    · exact .account _ _ fun _ => rfl
    · exact handlerWrite_bakiyeEkle _ _
  | fiyat id a fiyat h =>
    obtain rfl := List.mem_singleton.mp hw
    exact .account id _ fun _ => rfl
  | kural c h =>
    obtain rfl := List.mem_singleton.mp hw
    exact .checkpoint c

end FinancialOs.Executor
