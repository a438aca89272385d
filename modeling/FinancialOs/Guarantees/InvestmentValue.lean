import FinancialOs.Executor.AccountEffects
import FinancialOs.Library.TransitionRuns
import FinancialOs.Routers.Accounts
import FinancialOs.Store.MoneyColumns

/-! The value of an investment is its lots times its price. Six write paths touch one of the
three, and two of them forget the other two. -/
namespace FinancialOs.Guarantees
open Library Store Rules Executor Routers

/-- An investment whose lots and price are known. -/
structure Degerli (a : Account) (lot fiyat : ℚ) : Prop where
  tip : a.accountType = .investment
  lot : a.lotCount = some lot
  fiyat : a.currentPrice = some fiyat

/-- Every investment with known lots and price holds their product, rounded to the kuruş. -/
def YatirimDegerinde (db : Db) : Prop :=
  ∀ k a lot fiyat, db.accounts.get? k = some a → Degerli a lot fiyat →
    a.balance = roundEven (lot * fiyat) 2

/-- The write paths on an account; the panel's own requests send no balance. -/
inductive HesapIslemi where
  | ac (istek : Istek) (payload : AccountCreate) (h : payload.balance = none)
  | guncelle (istek : Istek) (accountId : ℤ) (payload : AccountUpdate) (h : payload.balance = none)
  | fiyatGir (istek : Istek) (accountId : ℤ) (newPrice : ℚ)
  | fiyatKaydet (accountId : ℕ) (price : ℚ)
  | oner (pending : PendingAction)
  | onayla (ariza : Ariza) (actionId userId : ℕ)

def islemSonucu (bugun : ℕ → Date) (db : Db) : HesapIslemi → Db
  | .ac istek payload _ => sonuc db (createAccount istek payload)
  | .guncelle istek accountId payload _ => sonuc db (updateAccount db istek accountId payload)
  | .fiyatGir istek accountId newPrice => sonuc db (updatePrice db istek accountId newPrice)
  | .fiyatKaydet accountId price => sonuc db (.ok (recordInvestmentPrice accountId price))
  | .oner pending => db.write (.pendingAction (.insert pending))
  | .onayla ariza actionId userId => (executePendingAction ariza bugun db actionId userId).2

/-- One operation, with the values that the columns keep of it. -/
def hesapAdimi (s : ParaSutunu) (bugun : ℕ → Date) (db : Db) (islem : HesapIslemi) : Db :=
  (islemSonucu bugun db islem).sutunla s

/-- The unrounded product that the panel stores is the value at the stored price. -/
def CarpimTutar (s : ParaSutunu) (lot fiyat : ℚ) : Prop :=
  s.yaz (lot * fiyat) = roundEven (lot * s.yaz fiyat) 2

/-- The value at the price that was sent is the value at the stored price. -/
def FiyatTutar (s : ParaSutunu) (lot fiyat : ℚ) : Prop :=
  roundEven (lot * fiyat) 2 = roundEven (lot * s.yaz fiyat) 2

/-- The actions that move one of the three and leave the product behind. -/
inductive Bozar (s : ParaSutunu) (o : Ortam) (p : Payload) : ActionType → Prop where
  | bakiye (id : ℕ) (a : Account) (nb lot fiyat : ℚ) (h : BalanceUpdate o p id a nb)
      (deger : Degerli a lot fiyat) (tutarli : KartAlanlariTutarli a)
      (fark : s.yaz nb ≠ roundEven (lot * fiyat) 2) : Bozar s o p .updateAccountBalance
  | islem (g : ℕ × Account) (txn : Transaction) (lot fiyat : ℚ) (h : TransactionEntry o p (some g) txn)
      (oto : (p.get .autoUpdateBalance).truthy = true) (deger : Degerli g.2 lot fiyat)
      (tutarli : KartAlanlariTutarli g.2)
      (fark : s.yaz (g.2.balance + kocDelta g.2.accountType txn.transactionType txn.amount) ≠
        g.2.balance) : Bozar s o p .addTransaction
  | borc (id : ℕ) (d : PersonalDebt) (tarih : Date) (g : ℕ × Account) (lot fiyat : ℚ)
      (h : DebtPayment o p id d tarih) (hedef : odemeHedefi o d = some g) (deger : Degerli g.2 lot fiyat)
      (tutarli : KartAlanlariTutarli g.2)
      (fark : s.yaz (g.2.balance + kapanisDelta d.direction d.amount) ≠ g.2.balance) :
      Bozar s o p .markDebtPaid
  | kart (card source : ℕ × Account) (q lot fiyat : ℚ) (h : CardPayment o p card source q)
      (deger : Degerli source.2 lot fiyat) (tutarli : KartAlanlariTutarli source.2)
      (fark : s.yaz (source.2.balance + -q) ≠ source.2.balance) : Bozar s o p .payCreditCard
  | satis (inv credit : ℕ × Account) (fiyat : ℚ) (sim : SatisSimulasyonu)
      (h : InvestmentSale o p inv credit fiyat sim) (tutarli : KartAlanlariTutarli inv.2)
      (hedefTutarli : KartAlanlariTutarli credit.2) (baska : inv.1 ≠ credit.1)
      (fark : ¬ FiyatTutar s sim.kalanLot fiyat) : Bozar s o p .sellInvestment
  | satisHedefi (inv credit : ℕ × Account) (fiyat : ℚ) (sim : SatisSimulasyonu) (lot hedefFiyat : ℚ)
      (h : InvestmentSale o p inv credit fiyat sim) (tutarli : KartAlanlariTutarli inv.2)
      (hedefTutarli : KartAlanlariTutarli credit.2) (baska : inv.1 ≠ credit.1)
      (deger : Degerli credit.2 lot hedefFiyat)
      (fark : s.yaz (credit.2.balance + sim.netElineGecen) ≠ credit.2.balance) : Bozar s o p .sellInvestment
  | kendineSatis (inv credit : ℕ × Account) (fiyat : ℚ) (sim : SatisSimulasyonu)
      (h : InvestmentSale o p inv credit fiyat sim) (tutarli : KartAlanlariTutarli inv.2)
      (ayni : inv.1 = credit.1)
      (fark : s.yaz (roundEven (sim.kalanLot * fiyat) 2 + sim.netElineGecen) ≠
        roundEven (sim.kalanLot * s.yaz fiyat) 2) : Bozar s o p .sellInvestment
  | fiyat (id : ℕ) (a : Account) (fiyat lot : ℚ) (h : PriceUpdate o p id a fiyat)
      (lotlar : a.lotCount = some lot) (tutarli : KartAlanlariTutarli a)
      (fark : ¬ FiyatTutar s lot fiyat) : Bozar s o p .updateFundPrice

/-- What an operation has to meet: the panel's product has to survive the columns, a new price has
to give the value it is stored at, and an action must not be one of those above. -/
def Kosul (s : ParaSutunu) (bugun : ℕ → Date) (db : Db) : HesapIslemi → Prop
  | .ac istek payload _ => ∀ lot fiyat, payload.uygun = true → Degerli (yeniHesap istek payload) lot fiyat →
      KartAlanlariTutarli (yeniHesap istek payload) → CarpimTutar s lot fiyat
  | .guncelle istek accountId payload _ => ∀ id acc yeni lot fiyat, payload.uygun = true →
      findById db.accounts istek.userId istek.wsId (.int accountId) = .ok (some (id, acc)) →
      alanlariYaz payload acc = .ok yeni → Degerli yeni lot fiyat → KartAlanlariTutarli yeni →
      payload.lotCount.isSome = true ∨ payload.currentPrice.isSome = true → CarpimTutar s lot fiyat
  | .fiyatGir istek accountId newPrice => ∀ id acc lot, finansTutar newPrice = true →
      findById db.accounts istek.userId istek.wsId (.int accountId) = .ok (some (id, acc)) →
      acc.userId = istek.userId → acc.accountType = .investment → acc.lotCount = some lot →
      KartAlanlariTutarli acc → FiyatTutar s lot newPrice
  | .fiyatKaydet accountId price => ∀ acc lot, db.accounts.get? accountId = some acc →
      acc.accountType = .investment → acc.lotCount = some lot → KartAlanlariTutarli acc →
      FiyatTutar s lot price
  | .oner _ => True
  | .onayla ariza actionId userId => ¬ (ariza.handlerOnce = none ∧ ∃ pending p,
      Reaches db actionId userId pending p ∧ Bozar s (ortam bugun db pending userId) p pending.actionType)

section Rows
variable {s : ParaSutunu} {db : Db} {a : Account} {k : ℕ}

/-- The law on a row, as its columns keep it. -/
def Saklanir (s : ParaSutunu) (a : Account) : Prop :=
  ∀ lot fiyat, Degerli a lot fiyat → s.yaz a.balance = roundEven (lot * s.yaz fiyat) 2

/-- The law behind a commit, on the rows before their columns keep them. -/
private theorem yatirim_sutunla :
    YatirimDegerinde (db.sutunla s) ↔ ∀ k a, db.accounts.get? k = some a → Saklanir s a := by
  constructor
  · intro h k a ha lot fiyat hd
    refine h k (a.sutunla s) lot (s.yaz fiyat) ?_ ⟨hd.tip, hd.lot, ?_⟩
    · rw [Db.sutunla, Table.get?_mapRows, ha, Option.map_some]
    · rw [Account.sutunla, hd.fiyat, Option.map_some]
  · intro h k b lot fiyat hb hd
    rw [Db.sutunla, Table.get?_mapRows] at hb
    obtain ⟨a, ha, rfl⟩ := Option.map_eq_some_iff.mp hb
    obtain ⟨ham, hham, rfl⟩ := Option.map_eq_some_iff.mp hd.fiyat
    exact h k a ha lot ham ⟨hd.tip, hd.lot, hham⟩

private theorem yaz_balance (h : a.sutunla s = a) : s.yaz a.balance = a.balance :=
  congrArg Account.balance h

private theorem yaz_fiyat {lot fiyat : ℚ} (h : a.sutunla s = a) (hd : Degerli a lot fiyat) :
    s.yaz fiyat = fiyat := by
  have hp := congrArg Account.currentPrice h
  rw [Account.sutunla, hd.fiyat, Option.map_some, Option.some.injEq] at hp
  exact hp

/-- A stored row that nothing touches. -/
private theorem saklanir_of_law (hs : db.sutunla s = db) (hl : YatirimDegerinde db)
    (ha : db.accounts.get? k = some a) : Saklanir s a := by
  intro lot fiyat hd
  have hsut := account_sutunda hs ha
  rw [yaz_balance hsut, yaz_fiyat hsut hd]
  exact hl k a lot fiyat ha hd

/-- A new balance on a stored row keeps the law when the row's value is the same. -/
private theorem saklanir_bakiye (hs : db.sutunla s = db) (ha : db.accounts.get? k = some a) (yeni : ℚ) :
    Saklanir s { a with balance := yeni } ↔
      ∀ lot fiyat, Degerli a lot fiyat → s.yaz yeni = roundEven (lot * fiyat) 2 := by
  have hsut := account_sutunda hs ha
  constructor
  · intro h lot fiyat hd
    rw [← yaz_fiyat hsut hd]
    exact h lot _ ⟨hd.tip, hd.lot, (yaz_fiyat hsut hd).symm ▸ hd.fiyat⟩
  · intro h lot fiyat hd
    have hd' : Degerli a lot fiyat := ⟨hd.tip, hd.lot, hd.fiyat⟩
    rw [yaz_fiyat hsut hd']
    exact h lot fiyat hd'

/-- An amount booked on a stored row. -/
private theorem saklanir_ekle (hs : db.sutunla s = db) (hl : YatirimDegerinde db)
    (ha : db.accounts.get? k = some a) (q : ℚ) :
    Saklanir s { a with balance := a.balance + q } ↔
      ∀ lot fiyat, Degerli a lot fiyat → s.yaz (a.balance + q) = a.balance := by
  rw [saklanir_bakiye hs ha]
  constructor
  · intro h lot fiyat hd
    rw [h lot fiyat hd, hl k a lot fiyat ha hd]
  · intro h lot fiyat hd
    rw [h lot fiyat hd, hl k a lot fiyat ha hd]

/-- A new price, with the value at it. -/
private theorem saklanir_fiyat (lot fiyat : ℚ) (htip : a.accountType = .investment)
    (hlot : a.lotCount = some lot) (hfiyat : a.currentPrice = some fiyat)
    (hdeger : a.balance = roundEven (lot * fiyat) 2) : Saklanir s a ↔ FiyatTutar s lot fiyat := by
  unfold FiyatTutar
  constructor
  · intro h
    have := h lot fiyat ⟨htip, hlot, hfiyat⟩
    rwa [hdeger, s.kurus] at this
  · intro h lot' fiyat' hd
    obtain rfl : lot = lot' := Option.some.inj (hlot.symm.trans hd.lot)
    obtain rfl : fiyat = fiyat' := Option.some.inj (hfiyat.symm.trans hd.fiyat)
    rwa [hdeger, s.kurus]

end Rows

/-- The law behind a list of row writes. -/
private theorem yatirim_writes {s : ParaSutunu} {db : Db} {ws : List Write} (hw : ∀ w ∈ ws, HandlerWrite w) :
    YatirimDegerinde ((db.writeAll ws).sutunla s) ↔
      ∀ k a, db.accounts.get? k = some a → Saklanir s (ws.foldl (hesapEtkisi k) a) := by
  rw [yatirim_sutunla]
  constructor
  · intro h k a ha
    exact h k _ (by rw [accounts_row hw, ha, Option.map_some])
  · intro h k b hb
    rw [accounts_row hw] at hb
    obtain ⟨a, ha, rfl⟩ := Option.map_eq_some_iff.mp hb
    exact h k a ha

/-- The law behind the rewrite of one row. -/
private theorem yatirim_update {s : ParaSutunu} {db : Db} (hs : db.sutunla s = db)
    (hl : YatirimDegerinde db) (id : ℕ) (f : Account → Account) :
    YatirimDegerinde ((db.write (.account (.update id f))).sutunla s) ↔
      ∀ a, db.accounts.get? id = some a → Saklanir s (f a) := by
  rw [yatirim_sutunla]
  simp only [Db.write, Table.change, Table.get?_modify]
  constructor
  · intro h a ha
    exact h id (f a) (by rw [if_pos rfl, ha, Option.map_some])
  · intro h k b hb
    split at hb
    · next hk =>
      obtain ⟨a, ha, rfl⟩ := Option.map_eq_some_iff.mp hb
      exact h a (hk ▸ ha)
    · exact saklanir_of_law hs hl hb

/-- Two rows under one key are one row. -/
private theorem row_unique {db : Db} {k : ℕ} {a b : Account} (ha : db.accounts.get? k = some a)
    (hb : db.accounts.get? k = some b) : a = b := Option.some.inj (ha.symm.trans hb)

/-- The sale leaves what it keeps at the realised price. -/
private theorem kalanDeger_eq {o : Ortam} {p : Payload} {inv credit : ℕ × Account} {fiyat : ℚ}
    {sim : SatisSimulasyonu} (h : InvestmentSale o p inv credit fiyat sim) :
    sim.kalanDeger = roundEven (sim.kalanLot * fiyat) 2 := by
  obtain ⟨lot, cost, current, _, _, _, _, hsim⟩ := h.satis
  unfold simulatePartialSale at hsim
  split_ifs at hsim
  cases hsim
  rfl

section Actions
variable {s : ParaSutunu} {o : Ortam} {p : Payload} {t : ActionType} {ws : List Write}

/-- A single booked amount, on the row it names. -/
private theorem saklanir_bacak (hs : o.db.sutunla s = o.db) (hl : YatirimDegerinde o.db) {g : ℕ × Account}
    {q : ℚ} (hg : o.db.accounts.get? g.1 = some g.2)
    (h : ∀ lot fiyat, Degerli g.2 lot fiyat → s.yaz (g.2.balance + q) = g.2.balance) (k : ℕ) (a : Account)
    (ha : o.db.accounts.get? k = some a) : Saklanir s (hesapEtkisi k a (bakiyeEkle g.1 q)) := by
  rw [hesapEtkisi_bakiyeEkle]
  split
  · next hk =>
    subst hk
    obtain rfl := row_unique ha hg
    exact (saklanir_ekle hs hl ha q).mpr h
  · exact saklanir_of_law hs hl ha

/-- An action that is not one of those above keeps the law. -/
private theorem accepted_keeps_value (hs : o.db.sutunla s = o.db) (hl : YatirimDegerinde o.db)
    (hacc : Accepted o p t ws) (hsag : ∀ w ∈ ws, Saglam o.db w) (hb : ¬ Bozar s o p t) :
    YatirimDegerinde ((o.db.writeAll ws).sutunla s) := by
  rw [yatirim_writes hacc.writes]
  intro k a ha
  cases hacc with
  | bakiye id b nb h =>
    simp only [List.foldl_cons, List.foldl_nil, hesapEtkisi_bakiyeYaz]
    split
    · next hk =>
      subst hk
      obtain rfl := row_unique ha h.hesap.row
      rw [saklanir_bakiye hs ha]
      intro lot fiyat hd
      by_contra hne
      exact hb (.bakiye id a nb lot fiyat h hd (hsag _ List.mem_cons_self a ha) hne)
    · exact saklanir_of_law hs hl ha
  | islem hesap txn h =>
    cases hbacak : bakiyeBacagi p hesap txn.transactionType txn.amount with
    | none => exact saklanir_of_law hs hl ha
    | some b =>
      obtain ⟨g, rfl, hoto, rfl⟩ := bakiyeBacagi_some.mp hbacak
      have hg := (islemHesabi_some.mp h.secim).2.1.row
      refine saklanir_bacak hs hl hg (fun lot fiyat hd => ?_) k a ha
      by_contra hne
      refine hb (.islem g txn lot fiyat h hoto hd ?_ hne)
      apply hsag (bakiyeEkle g.1 (kocDelta g.2.accountType txn.transactionType txn.amount)) ?_ g.2 hg
      rw [hbacak]
      simp
  | borc id d tarih h =>
    obtain ⟨hwrites, _⟩ := odemeSonucu_unpaid h.odenmemis tarih
    rw [hwrites] at hsag ⊢
    cases hh : odemeHedefi o d with
    | none => exact saklanir_of_law hs hl ha
    | some g =>
      rw [hh] at hsag
      have hg := hedefHesap_row (odemeHedefi_some.mp hh).2
      refine saklanir_bacak hs hl hg (fun lot fiyat hd => ?_) k a ha
      by_contra hne
      refine hb (.borc id d tarih g lot fiyat h hh hd ?_ hne)
      exact hsag (bakiyeEkle g.1 (kapanisDelta d.direction d.amount)) (by simp) g.2 hg
  | kart card source q h =>
    have hsource := odemeKaynagi_row h.kaynak
    by_cases hc : card.1 = k
    · subst hc
      obtain rfl := row_unique ha h.kart.row
      intro lot fiyat hd
      have htip := hd.tip
      rw [(foldl_sameIdentity (Accepted.kart card source q h).writes card.1 card.2).accountType,
        h.tip] at htip
      cases htip
    · simp only [List.foldl_cons, List.foldl_nil, hesapEtkisi_bakiyeEkle, if_neg hc]
      refine saklanir_bacak hs hl hsource (fun lot fiyat hd => ?_) k a ha
      by_contra hne
      exact hb (.kart card source q lot fiyat h hd (hsag (bakiyeEkle source.1 (-q)) (by simp) _ hsource) hne)
  | satis inv credit fiyat sim h =>
    have hinv := h.yatirim.row
    have hcredit := h.hedef.row
    have hti : KartAlanlariTutarli inv.2 := hsag (satisYaz inv.1 sim fiyat) (by simp) _ hinv
    have htc : KartAlanlariTutarli credit.2 :=
      hsag (bakiyeEkle credit.1 sim.netElineGecen) (by simp) _ hcredit
    simp only [List.foldl_cons, List.foldl_nil, hesapEtkisi_satisYaz]
    by_cases hi : inv.1 = k
    · subst hi
      obtain rfl := row_unique ha hinv
      rw [if_pos rfl, hesapEtkisi_bakiyeEkle]
      split
      · next hc =>
        intro lot fiyat' hd
        cases hd.lot
        cases hd.fiyat
        by_contra hne
        refine hb (.kendineSatis inv credit fiyat sim h hti hc.symm ?_)
        rwa [← kalanDeger_eq h]
      · next hc =>
        refine (saklanir_fiyat sim.kalanLot fiyat ?_ rfl rfl ?_).mpr ?_
        · exact h.tip
        · exact kalanDeger_eq h
        · by_contra hne
          exact hb (.satis inv credit fiyat sim h hti htc (fun he => hc he.symm) hne)
    · rw [if_neg hi, hesapEtkisi_bakiyeEkle]
      split
      · next hc =>
        subst hc
        obtain rfl := row_unique ha hcredit
        rw [saklanir_ekle hs hl ha]
        intro lot fiyat' hd
        by_contra hne
        exact hb (.satisHedefi inv credit fiyat sim lot fiyat' h hti htc hi hd hne)
      · exact saklanir_of_law hs hl ha
  | fiyat id b fiyat h =>
    simp only [List.foldl_cons, List.foldl_nil, hesapEtkisi_fiyatYaz]
    split
    · next hk =>
      subst hk
      obtain rfl := row_unique ha (findById_eq_some.mp h.hesap).2.1
      intro lot fiyat' hd
      have hlot : a.lotCount = some lot := hd.lot
      cases hd.fiyat
      rw [s.kurus, hlot, Option.getD_some, mul_comm]
      by_contra hne
      exact hb (.fiyat id a fiyat lot h hlot (hsag _ List.mem_cons_self a ha) hne)
    · exact saklanir_of_law hs hl ha
  | kural c h => exact saklanir_of_law hs hl ha

/-- Each of the actions above reaches its commit and breaks the law. -/
private theorem bozar_breaks (hs : o.db.sutunla s = o.db) (hl : YatirimDegerinde o.db) (hb : Bozar s o p t) :
    ∃ ws, Accepted o p t ws ∧ (∀ w ∈ ws, Saglam o.db w) ∧
      ¬ YatirimDegerinde ((o.db.writeAll ws).sutunla s) := by
  cases hb with
  | bakiye id a nb lot fiyat h deger tutarli fark =>
    have hacc := Accepted.bakiye id a nb h
    refine ⟨_, hacc, ?_, fun hv => fark ?_⟩
    · intro w hw
      obtain rfl := List.mem_singleton.mp hw
      exact saglam_account h.hesap.row tutarli
    · have hrow := (yatirim_writes hacc.writes).mp hv id a h.hesap.row
      simp only [List.foldl_cons, List.foldl_nil, hesapEtkisi_bakiyeYaz, if_true] at hrow
      exact (saklanir_bakiye hs h.hesap.row nb).mp hrow lot fiyat deger
  | islem g txn lot fiyat h oto deger tutarli fark =>
    have hacc := Accepted.islem (some g) txn h
    have hg := (islemHesabi_some.mp h.secim).2.1.row
    have hbacak : bakiyeBacagi p (some g) txn.transactionType txn.amount =
        some (g.1, kocDelta g.2.accountType txn.transactionType txn.amount) :=
      bakiyeBacagi_some.mpr ⟨g, rfl, oto, rfl⟩
    rw [hbacak] at hacc
    refine ⟨_, hacc, ?_, fun hv => fark ?_⟩
    · intro w hw
      rcases List.mem_pair.mp hw with rfl | rfl
      · intro id hid
        have hsak : Except.ok (some g.1) = Except.ok txn.accountId := h.saklanan
        rw [hid, Except.ok.injEq, Option.some.injEq] at hsak
        rw [← hsak, hg]
        rfl
      · exact saglam_account hg tutarli
    · have hrow := (yatirim_writes hacc.writes).mp hv g.1 g.2 hg
      simp only [Option.map_some, Option.toList_some, List.foldl_cons, List.foldl_nil,
        hesapEtkisi_transaction, hesapEtkisi_bakiyeEkle, if_true] at hrow
      exact (saklanir_ekle hs hl hg _).mp hrow lot fiyat deger
  | borc id d tarih g lot fiyat h hedef deger tutarli fark =>
    have hacc := Accepted.borc id d tarih h
    have hg := hedefHesap_row (odemeHedefi_some.mp hedef).2
    rw [(odemeSonucu_unpaid h.odenmemis tarih).1, hedef] at hacc
    refine ⟨_, hacc, ?_, fun hv => fark ?_⟩
    · intro w hw
      rcases List.mem_pair.mp hw with rfl | rfl
      · trivial
      · exact saglam_account hg tutarli
    · have hrow := (yatirim_writes hacc.writes).mp hv g.1 g.2 hg
      simp only [Option.map_some, Option.toList_some, List.foldl_cons, List.foldl_nil,
        hesapEtkisi_odendiYaz, hesapEtkisi_bakiyeEkle, if_true] at hrow
      exact (saklanir_ekle hs hl hg _).mp hrow lot fiyat deger
  | kart card source q lot fiyat h deger tutarli fark =>
    have hacc := Accepted.kart card source q h
    have hsource := odemeKaynagi_row h.kaynak
    refine ⟨_, hacc, ?_, fun hv => fark ?_⟩
    · intro w hw
      rcases List.mem_pair.mp hw with rfl | rfl
      · exact saglam_account h.kart.row (.inl h.tip)
      · exact saglam_account hsource tutarli
    · have hne : card.1 ≠ source.1 := by
        intro he
        have htip := h.tip
        rw [row_unique h.kart.row (he ▸ hsource), deger.tip] at htip
        cases htip
      have hrow := (yatirim_writes hacc.writes).mp hv source.1 source.2 hsource
      simp only [List.foldl_cons, List.foldl_nil, hesapEtkisi_bakiyeEkle, if_true, if_neg hne] at hrow
      exact (saklanir_ekle hs hl hsource _).mp hrow lot fiyat deger
  | satis inv credit fiyat sim h tutarli hedefTutarli baska fark =>
    have hacc := Accepted.satis inv credit fiyat sim h
    refine ⟨_, hacc, ?_, fun hv => fark ?_⟩
    · intro w hw
      rcases List.mem_pair.mp hw with rfl | rfl
      · exact saglam_account h.yatirim.row tutarli
      · exact saglam_account h.hedef.row hedefTutarli
    · have hrow := (yatirim_writes hacc.writes).mp hv inv.1 inv.2 h.yatirim.row
      simp only [List.foldl_cons, List.foldl_nil, hesapEtkisi_satisYaz, hesapEtkisi_bakiyeEkle, if_true,
        if_neg baska.symm] at hrow
      refine (saklanir_fiyat sim.kalanLot fiyat ?_ ?_ ?_ ?_).mp hrow
      · exact h.tip
      · rfl
      · rfl
      · exact kalanDeger_eq h
  | satisHedefi inv credit fiyat sim lot hedefFiyat h tutarli hedefTutarli baska deger fark =>
    have hacc := Accepted.satis inv credit fiyat sim h
    refine ⟨_, hacc, ?_, fun hv => fark ?_⟩
    · intro w hw
      rcases List.mem_pair.mp hw with rfl | rfl
      · exact saglam_account h.yatirim.row tutarli
      · exact saglam_account h.hedef.row hedefTutarli
    · have hrow := (yatirim_writes hacc.writes).mp hv credit.1 credit.2 h.hedef.row
      simp only [List.foldl_cons, List.foldl_nil, hesapEtkisi_satisYaz, hesapEtkisi_bakiyeEkle, if_true,
        if_neg baska] at hrow
      exact (saklanir_ekle hs hl h.hedef.row _).mp hrow lot hedefFiyat deger
  | kendineSatis inv credit fiyat sim h tutarli ayni fark =>
    have hacc := Accepted.satis inv credit fiyat sim h
    refine ⟨_, hacc, ?_, fun hv => fark ?_⟩
    · intro w hw
      rcases List.mem_pair.mp hw with rfl | rfl
      · exact saglam_account h.yatirim.row tutarli
      · have hcredit := h.hedef.row
        rw [← ayni] at hcredit
        rw [← ayni]
        exact saglam_account hcredit (row_unique h.yatirim.row hcredit ▸ tutarli)
    · have hrow := (yatirim_writes hacc.writes).mp hv inv.1 inv.2 h.yatirim.row
      simp only [List.foldl_cons, List.foldl_nil, hesapEtkisi_satisYaz, hesapEtkisi_bakiyeEkle, if_true,
        ← ayni] at hrow
      rw [← kalanDeger_eq h]
      exact hrow sim.kalanLot fiyat ⟨h.tip, rfl, rfl⟩
  | fiyat id a fiyat lot h lotlar tutarli fark =>
    have hacc := Accepted.fiyat id a fiyat h
    have ha := (findById_eq_some.mp h.hesap).2.1
    refine ⟨_, hacc, ?_, fun hv => fark ?_⟩
    · intro w hw
      obtain rfl := List.mem_singleton.mp hw
      exact saglam_account ha tutarli
    · have hrow := (yatirim_writes hacc.writes).mp hv id a ha
      simp only [List.foldl_cons, List.foldl_nil, hesapEtkisi_fiyatYaz, if_true] at hrow
      refine (saklanir_fiyat lot fiyat ?_ ?_ ?_ ?_).mp hrow
      · exact h.tip
      · exact lotlar
      · rfl
      · rw [lotlar, Option.getD_some, mul_comm]

end Actions

/-- The executor keeps the law exactly when it is not handed one of the actions above. -/
private theorem yatirim_onayla {s : ParaSutunu} {db : Db} (hs : db.sutunla s = db) (hl : YatirimDegerinde db)
    (ariza : Ariza) (bugun : ℕ → Date) (actionId userId : ℕ) :
    YatirimDegerinde ((executePendingAction ariza bugun db actionId userId).2.sutunla s) ↔
      ¬ (ariza.handlerOnce = none ∧ ∃ pending p, Reaches db actionId userId pending p ∧
        Bozar s (ortam bugun db pending userId) p pending.actionType) := by
  rw [yatirim_sutunla]
  rw [show (∀ k a, (executePendingAction ariza bugun db actionId userId).2.accounts.get? k = some a →
      Saklanir s a) ↔ _ from execute_defter_iff
        (P := fun d => ∀ k a, d.accounts.get? k = some a → Saklanir s a)
        (fun k a ha => saklanir_of_law hs hl ha)]
  constructor
  · rintro h ⟨hn, pending, p, hr, hb⟩
    obtain ⟨ws, hacc, hsag, hno⟩ := bozar_breaks (o := ortam bugun db pending userId) hs hl hb
    exact hno (yatirim_sutunla.mpr (h pending p ws hn (applies_iff_accepted.mpr ⟨hr, hacc, hsag⟩)))
  · intro h pending p ws hn happ
    obtain ⟨hr, hacc, hsag⟩ := applies_iff_accepted.mp happ
    exact yatirim_sutunla.mp (accepted_keeps_value (o := ortam bugun db pending userId) hs hl hacc hsag
      fun hb => h ⟨hn, pending, p, hr, hb⟩)

section Panel
variable {s : ParaSutunu} {bugun : ℕ → Date} {db : Db}

private theorem yatirim_kalir (hs : db.sutunla s = db) (hl : YatirimDegerinde db) :
    YatirimDegerinde (db.sutunla s) := by
  rw [hs]
  exact hl

/-- A request that rewrites one account, with the flush check on the row it leaves. -/
private theorem yatirim_sonuc_update (hs : db.sutunla s = db) (hl : YatirimDegerinde db) (id : ℕ)
    (f : Account → Account) :
    YatirimDegerinde ((sonuc db (.ok [.account (.update id f)])).sutunla s) ↔
      ∀ a, db.accounts.get? id = some a → KartAlanlariTutarli (f a) → Saklanir s (f a) := by
  have hflush : flushOncesi (db.writeAll [.account (.update id f)]) (.account (.update id f)) = .ok () ↔
      ∀ a, db.accounts.get? id = some a → KartAlanlariTutarli (f a) := by
    simp only [writeAll_cons, writeAll_nil, flushOncesi, checkChange, Db.write, Table.change,
      Table.get?_modify, if_true]
    cases db.accounts.get? id with
    | none => simp
    | some a => simp [denetleHesap_ok, KartAlanlariTutarli]
  by_cases ht : ∀ a, db.accounts.get? id = some a → KartAlanlariTutarli (f a)
  · rw [sonuc_of_flush (by simpa using hflush.mpr ht), writeAll_cons, writeAll_nil, yatirim_update hs hl]
    exact forall₂_congr fun a ha => ⟨fun h _ => h, fun h => h (ht a ha)⟩
  · rw [sonuc_of_not_flush fun hf => ht (hflush.mp (hf _ List.mem_cons_self))]
    refine iff_of_true (yatirim_kalir hs hl) fun a ha hta => absurd (fun b hb => ?_) ht
    obtain rfl := row_unique ha hb
    exact hta

/-- A request that inserts one account. -/
private theorem yatirim_sonuc_insert (hs : db.sutunla s = db) (hl : YatirimDegerinde db) (a : Account) :
    YatirimDegerinde ((sonuc db (.ok [.account (.insert a)])).sutunla s) ↔
      (KartAlanlariTutarli a → Saklanir s a) := by
  have hflush : flushOncesi (db.writeAll [.account (.insert a)]) (.account (.insert a)) = .ok () ↔
      KartAlanlariTutarli a := denetleHesap_ok
  by_cases ht : KartAlanlariTutarli a
  · rw [sonuc_of_flush (by simpa using hflush.mpr ht), writeAll_cons, writeAll_nil, yatirim_sutunla]
    simp only [Db.write, Table.change, Table.get?_push]
    constructor
    · intro h _
      exact h db.accounts.freshKey a (if_pos rfl)
    · intro h k b hb
      split at hb
      · cases hb
        exact h ht
      · exact saklanir_of_law hs hl hb
  · rw [sonuc_of_not_flush fun hf => ht (hflush.mp (hf _ List.mem_cons_self))]
    exact iff_of_true (yatirim_kalir hs hl) fun h => absurd h ht

/-- An insert or an update with a computed balance. -/
private theorem saklanir_carpim {a : Account} (lot fiyat : ℚ) (hd : Degerli a lot fiyat)
    (hb : a.balance = lot * fiyat) : Saklanir s a ↔ CarpimTutar s lot fiyat := by
  unfold CarpimTutar
  constructor
  · intro h
    have := h lot fiyat hd
    rwa [hb] at this
  · intro h lot' fiyat' hd'
    obtain rfl : lot = lot' := Option.some.inj (hd.lot.symm.trans hd'.lot)
    obtain rfl : fiyat = fiyat' := Option.some.inj (hd.fiyat.symm.trans hd'.fiyat)
    rwa [hb]

private theorem yatirim_ac (hs : db.sutunla s = db) (hl : YatirimDegerinde db) (istek : Istek)
    (payload : AccountCreate) (h : payload.balance = none) :
    YatirimDegerinde ((sonuc db (createAccount istek payload)).sutunla s) ↔
      Kosul s bugun db (.ac istek payload h) := by
  cases hr : createAccount istek payload with
  | error e =>
    refine iff_of_true (yatirim_kalir hs hl) fun lot fiyat hu _ _ => ?_
    rw [createAccount_ok.mpr ⟨hu, rfl⟩] at hr
    cases hr
  | ok ws =>
    obtain ⟨hu, rfl⟩ := createAccount_ok.mp hr
    rw [yatirim_sonuc_insert hs hl]
    constructor
    · intro hsak lot fiyat _ hd ht
      exact (saklanir_carpim lot fiyat hd (yeniHesap_balance hd.tip hd.lot hd.fiyat)).mp (hsak ht)
    · intro hk ht lot fiyat hd
      exact (saklanir_carpim lot fiyat hd (yeniHesap_balance hd.tip hd.lot hd.fiyat)).mpr
        (hk lot fiyat hu hd ht) lot fiyat hd

private theorem kart_akilliBakiye (payload : AccountUpdate) (a : Account) :
    KartAlanlariTutarli (akilliBakiye payload a) ↔ KartAlanlariTutarli a := by
  obtain ⟨balance, he⟩ := akilliBakiye_frame payload a
  rw [he]
  exact Iff.rfl

/-- The row an update leaves: without sent lots or a sent price, the value it had. -/
private theorem saklanir_akilliBakiye (hs : db.sutunla s = db) (hl : YatirimDegerinde db) {id : ℕ}
    {acc yeni : Account} {payload : AccountUpdate} (hacc : db.accounts.get? id = some acc)
    (hb : payload.balance = none) (hy : alanlariYaz payload acc = .ok yeni) :
    Saklanir s (akilliBakiye payload yeni) ↔ ∀ lot fiyat, Degerli yeni lot fiyat →
      payload.lotCount.isSome = true ∨ payload.currentPrice.isSome = true → CarpimTutar s lot fiyat := by
  obtain ⟨hbal, htip, hlot, hfiyat⟩ := alanlariYaz_ok hy
  by_cases hsent : payload.lotCount.isSome = true ∨ payload.currentPrice.isSome = true
  · constructor
    · intro h lot fiyat hd _
      rw [akilliBakiye_sent hd.tip hd.lot hd.fiyat hb hsent] at h
      refine (saklanir_carpim lot fiyat ?_ ?_).mp h
      · exact ⟨hd.tip, hd.lot, hd.fiyat⟩
      · rfl
    · intro h lot fiyat hd
      have hd' : Degerli yeni lot fiyat := by
        obtain ⟨balance, he⟩ := akilliBakiye_frame payload yeni
        rw [he] at hd
        exact ⟨hd.tip, hd.lot, hd.fiyat⟩
      rw [akilliBakiye_sent hd'.tip hd'.lot hd'.fiyat hb hsent] at hd ⊢
      exact (saklanir_carpim lot fiyat hd rfl).mpr (h lot fiyat hd' hsent) lot fiyat hd
  · refine iff_of_true ?_ fun lot fiyat _ hs' => absurd hs' hsent
    rw [akilliBakiye_unsent hsent]
    obtain ⟨hl0, hp0⟩ := not_or.mp hsent
    rw [Option.not_isSome_iff_eq_none] at hl0 hp0
    rw [hl0, Option.getD_none] at hlot
    rw [hp0, Option.getD_none] at hfiyat
    rw [hb] at hbal
    intro lot fiyat hd
    have hd' : Degerli acc lot fiyat := ⟨htip.symm.trans hd.tip, hlot.symm.trans hd.lot,
      hfiyat.symm.trans hd.fiyat⟩
    rw [← Except.ok.inj hbal]
    exact saklanir_of_law hs hl hacc lot fiyat hd'

private theorem yatirim_guncelle (hs : db.sutunla s = db) (hl : YatirimDegerinde db) (istek : Istek)
    (accountId : ℤ) (payload : AccountUpdate) (h : payload.balance = none) :
    YatirimDegerinde ((sonuc db (updateAccount db istek accountId payload)).sutunla s) ↔
      Kosul s bugun db (.guncelle istek accountId payload h) := by
  cases hr : updateAccount db istek accountId payload with
  | error e =>
    refine iff_of_true (yatirim_kalir hs hl) fun id acc yeni lot fiyat hu hf hy _ _ _ => ?_
    rw [updateAccount_ok.mpr ⟨hu, id, acc, yeni, hf, hy, rfl⟩] at hr
    cases hr
  | ok ws =>
    obtain ⟨hu, id, acc, yeni, hf, hy, rfl⟩ := updateAccount_ok.mp hr
    have hacc := (findById_eq_some.mp hf).2.1
    rw [yatirim_sonuc_update hs hl]
    constructor
    · intro hsak id' acc' yeni' lot fiyat _ hf' hy' hd ht hsent
      rw [hf, Except.ok.injEq, Option.some.injEq, Prod.mk.injEq] at hf'
      obtain ⟨rfl, rfl⟩ := hf'
      obtain rfl := Except.ok.inj (hy.symm.trans hy')
      exact (saklanir_akilliBakiye hs hl hacc h hy).mp
        (hsak acc hacc ((kart_akilliBakiye payload yeni).mpr ht)) lot fiyat hd hsent
    · intro hk a _ ht
      rw [kart_akilliBakiye] at ht
      exact (saklanir_akilliBakiye hs hl hacc h hy).mpr
        fun lot fiyat hd hsent => hk id acc yeni lot fiyat hu hf hy hd ht hsent

private theorem yatirim_fiyatGir (hs : db.sutunla s = db) (hl : YatirimDegerinde db) (istek : Istek)
    (accountId : ℤ) (newPrice : ℚ) :
    YatirimDegerinde ((sonuc db (updatePrice db istek accountId newPrice)).sutunla s) ↔
      Kosul s bugun db (.fiyatGir istek accountId newPrice) := by
  cases hr : updatePrice db istek accountId newPrice with
  | error e =>
    refine iff_of_true (yatirim_kalir hs hl) fun id acc lot hu hf hsahip htip _ _ => ?_
    rw [updatePrice_ok.mpr ⟨hu, id, acc, hf, hsahip, htip, rfl⟩] at hr
    cases hr
  | ok ws =>
    obtain ⟨hu, id, acc, hf, hsahip, htip, rfl⟩ := updatePrice_ok.mp hr
    have hacc := (findById_eq_some.mp hf).2.1
    rw [fiyatYaz, yatirim_sonuc_update hs hl]
    constructor
    · intro hsak id' acc' lot _ hf' _ _ hlot ht
      rw [hf, Except.ok.injEq, Option.some.injEq, Prod.mk.injEq] at hf'
      obtain ⟨rfl, rfl⟩ := hf'
      refine (saklanir_fiyat lot newPrice ?_ ?_ ?_ ?_).mp (hsak acc hacc ht)
      · exact htip
      · exact hlot
      · rfl
      · rw [hlot, Option.getD_some, mul_comm]
    · intro hk a ha ht lot fiyat hd
      obtain rfl := row_unique ha hacc
      have hlot : a.lotCount = some lot := hd.lot
      have htut := hk id a lot hu hf hsahip htip hlot ht
      cases hd.fiyat
      rw [s.kurus, hlot, Option.getD_some, mul_comm]
      exact htut

private theorem yatirim_fiyatKaydet (hs : db.sutunla s = db) (hl : YatirimDegerinde db) (accountId : ℕ)
    (price : ℚ) :
    YatirimDegerinde ((sonuc db (.ok (recordInvestmentPrice accountId price))).sutunla s) ↔
      Kosul s bugun db (.fiyatKaydet accountId price) := by
  rw [recordInvestmentPrice, yatirim_sonuc_update hs hl]
  constructor
  · intro hsak acc lot hacc htip hlot ht
    have he := fiyatKaydi_some price htip hlot
    have hrow := hsak acc hacc
    rw [he] at hrow
    refine (saklanir_fiyat lot price ?_ ?_ ?_ ?_).mp (hrow ht)
    · exact htip
    · exact hlot
    · rfl
    · rfl
  · intro hk a ha ht lot fiyat hd
    obtain ⟨balance, hframe⟩ := fiyatKaydi_frame price a
    have hd' : a.accountType = .investment ∧ a.lotCount = some lot ∧ KartAlanlariTutarli a := by
      rw [hframe] at hd ht
      exact ⟨hd.tip, hd.lot, ht⟩
    obtain ⟨htip, hlot, hta⟩ := hd'
    rw [fiyatKaydi_some price htip hlot] at hd ⊢
    cases hd.fiyat
    rw [s.kurus]
    exact hk a lot ha htip hlot hta

end Panel

/-- One operation keeps the law exactly when it meets its condition. -/
theorem yatirim_adim {s : ParaSutunu} {bugun : ℕ → Date} {db : Db} (hs : db.sutunla s = db)
    (hl : YatirimDegerinde db) (islem : HesapIslemi) :
    YatirimDegerinde (hesapAdimi s bugun db islem) ↔ Kosul s bugun db islem := by
  cases islem with
  | ac istek payload h => exact yatirim_ac hs hl istek payload h
  | guncelle istek accountId payload h => exact yatirim_guncelle hs hl istek accountId payload h
  | fiyatGir istek accountId newPrice => exact yatirim_fiyatGir hs hl istek accountId newPrice
  | fiyatKaydet accountId price => exact yatirim_fiyatKaydet hs hl accountId price
  | oner pending =>
    refine iff_of_true ?_ trivial
    rw [hesapAdimi, yatirim_sutunla]
    exact fun k a ha => saklanir_of_law hs hl ha
  | onayla ariza actionId userId => exact yatirim_onayla hs hl ariza bugun actionId userId

def fonGunu : Date := (Date.ofYmd? 2026 5 10).get rfl

/-- Ten lots at a price of 10, opened on the panel. -/
def fonAcilisi : HesapIslemi := .ac ⟨1, none, fonGunu⟩
  ⟨"Fon", .investment, none, none, none, none, none, some 10, some 8, some 10, false⟩ rfl

private theorem bos_sutunda : Db.empty.sutunla dortHane = Db.empty := rfl

private theorem bos_degerinde : YatirimDegerinde Db.empty := by
  intro k a lot fiyat ha
  cases ha

/-- The coach's proposal to correct the balance of the fund to 50. -/
def bakiyeOnerisi : PendingAction := ⟨1, none, .updateAccountBalance,
  .object [(.accountId, .int 1), (.newBalance, .int 50)], "Bakiye 50 TL", .pending, none, none, none⟩

end FinancialOs.Guarantees
