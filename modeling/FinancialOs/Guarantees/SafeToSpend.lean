import FinancialOs.Guarantees.CustodyInvisible
import FinancialOs.Guarantees.ForecastLedger
import FinancialOs.Routers.Transactions

/-! What the cockpit says may be spent or paid today, against the forecast of the state in which it was: an
amount that leaves a cash account lowers every balance of the forecast by itself. -/
namespace FinancialOs.Guarantees
open Library Store Rules Routers

section Balances
variable {events : List ForecastEvent} {esik balance x t : ℚ} {n : ℕ} {d : MonthDay}

/-- The balances that the days of a forecast close with, before they are rounded. -/
def tamKapanislar (events : List ForecastEvent) : ℕ → MonthDay → ℚ → List ℚ
  | 0, _, _ => []
  | n + 1, d, balance =>
    (balance + gunToplami events d) :: tamKapanislar events n d.succ (balance + gunToplami events d)

theorem tamKapanislar_sub (x : ℚ) : tamKapanislar events n d (balance - x) =
    (tamKapanislar events n d balance).map fun y => y - x := by
  induction n generalizing d balance with
  | zero => rfl
  | succ n ih =>
    have hshift : balance - x + gunToplami events d = balance + gunToplami events d - x := by ring
    rw [tamKapanislar, tamKapanislar, List.map_cons, hshift, ih]

/-- A chain of days stays above a bound if what it opens with and all that it closes with do. -/
theorem gunZinciri_iff : (∀ g ∈ gunZinciri events esik n d balance, t ≤ g.openingBalance ∧ t ≤ g.closingBalance) ↔
    n = 0 ∨ ∀ y ∈ balance :: tamKapanislar events n d balance, t ≤ roundEven y 2 := by
  induction n generalizing d balance with
  | zero => simp [gunZinciri]
  | succ n ih =>
    rw [gunZinciri, tamKapanislar, List.forall_mem_cons, kapanis_eq, ih]
    simp only [Nat.succ_ne_zero, false_or, List.forall_mem_cons]
    constructor
    · rintro ⟨⟨hac, hkap⟩, hkalan⟩
      refine ⟨hac, hkap, ?_⟩
      rcases hkalan with rfl | hkalan
      · exact fun y hy => by cases hy
      · exact hkalan.2
    · rintro ⟨hac, hkap, hkalan⟩
      exact ⟨⟨hac, hkap⟩, .inr ⟨hkap, hkalan⟩⟩

/-- The lowest balance is one of them, and none lies below it. -/
theorem enDusuk_iff (lowest : ℚ × MonthDay) : t ≤ (enDusuk events n d balance lowest).1 ↔
    ∀ y ∈ lowest.1 :: tamKapanislar events n d balance, t ≤ y := by
  induction n generalizing d balance lowest with
  | zero => simp [enDusuk, tamKapanislar]
  | succ n ih =>
    rw [enDusuk, kapanis_eq, ih, tamKapanislar]
    simp only [List.forall_mem_cons]
    split
    · next hlt =>
      exact ⟨fun h => ⟨h.1.trans hlt.le, h⟩, fun h => h.2⟩
    · next hge =>
      exact ⟨fun h => ⟨h.1, h.1.trans (not_lt.mp hge), h.2⟩, fun h => ⟨h.1, h.2.2⟩⟩

theorem enDusuk_mem (lowest : ℚ × MonthDay) :
    (enDusuk events n d balance lowest).1 ∈ lowest.1 :: tamKapanislar events n d balance := by
  induction n generalizing d balance lowest with
  | zero => exact List.mem_cons_self
  | succ n ih =>
    rw [enDusuk, kapanis_eq, tamKapanislar]
    split
    · exact List.mem_cons_of_mem _ (ih _)
    · rcases List.mem_cons.mp (ih lowest) with h | h
      · rw [h]
        exact List.mem_cons_self
      · exact List.mem_cons_of_mem _ (List.mem_cons_of_mem _ h)

/-- With an amount less to open with, the chain stays above a bound exactly if the lowest balance does, less
that amount. -/
theorem gunZinciri_sub_iff (hn : n ≠ 0) :
    (∀ g ∈ gunZinciri events esik n d (balance - x), t ≤ g.openingBalance ∧ t ≤ g.closingBalance) ↔
      t ≤ roundEven ((enDusuk events n d balance (balance, d)).1 - x) 2 := by
  have hlist : (balance - x) :: tamKapanislar events n d (balance - x) =
      (balance :: tamKapanislar events n d balance).map fun y => y - x := by
    rw [tamKapanislar_sub, List.map_cons]
  rw [gunZinciri_iff, hlist]
  simp only [hn, false_or, List.forall_mem_map]
  constructor
  · intro h
    exact h _ (enDusuk_mem (balance, d))
  · intro h y hy
    have hle : (enDusuk events n d balance (balance, d)).1 ≤ y := enDusuk_iff _ |>.mp (le_refl _) y hy
    exact h.trans (roundEven_mono (by linarith) 2)

end Balances

/-- The lowest of the balances that the forecast of a state runs through, before it is rounded. -/
def enDusukNakit (p : PanelDb) (userId : ℕ) (workspaceId : Option ℕ) (today : Date) : ℚ :=
  (tamKapanislar (allEvents p userId workspaceId ⟨today.monthDay, today.monthDay.addDays 90⟩ none .hepsi) 90
    today.monthDay (nakitToplami p.db userId workspaceId)).foldr min (nakitToplami p.db userId workspaceId)

/-- The forecast of the next 90 days has no balance more than half a kuruş below a bound. -/
def Dayanir (p : PanelDb) (userId : ℕ) (workspaceId : Option ℕ) (today : Date) (taban : ℚ) : Prop :=
  ∀ g ∈ (generateForecast p userId workspaceId 90 none .hepsi 0 today).days,
    taban - 1 / 200 ≤ g.openingBalance ∧ taban - 1 / 200 ≤ g.closingBalance

/-- A cash account of the scope; an id has 63 bits. -/
structure NakitHesabi (p : PanelDb) (userId : ℕ) (workspaceId : Option ℕ) (k : ℕ) (hesap : Account) : Prop where
  bulunur : p.db.accounts.get? k = some hesap
  kapsamda : scopeFilter userId workspaceId hesap = true
  nakit : hesap.accountType = .cash
  sigar : k < 2 ^ 63

/-- The body of a request that records an expense of today on an account, and moves its balance. -/
structure HarcamaGovdesi (payload : TransactionCreate) (k : ℕ) (x : ℚ) (today : Date) : Prop where
  hesap : payload.accountId = some (k : ℤ)
  tip : payload.transactionType = some .expense
  tutar : payload.amount = some x
  metinsiz : payload.quickText.filter (· ≠ "") = none
  otomatik : payload.autoUpdateBalance.getD true = true
  tarih : payload.transactionDate.getD today = today

/-- Any expense of up to an amount leaves a forecast without a shortage. -/
def GuvenleHarcanir (p : PanelDb) (userId : ℕ) (workspaceId : Option ℕ) (today : Date) (guvenliHarcama : ℚ) : Prop :=
  ∀ x k hesap payload ws, 0 < x → x ≤ guvenliHarcama → NakitHesabi p userId workspaceId k hesap →
    HarcamaGovdesi payload k x today → createTransaction p.db ⟨userId, workspaceId, today⟩ payload = .ok ws →
    Dayanir { p with db := p.db.writeAll ws } userId workspaceId today 0

/-- A debt account is paid an amount from a cash account. -/
structure BorcOdendi (db db' : Db) (k j : ℕ) (x : ℚ) : Prop where
  hesaplar : db'.accounts = (db.writeAll [bakiyeEkle j (-x), bakiyeEkle k (-x)]).accounts
  gelirler : db'.incomes = db.incomes
  giderler : db'.expenses = db.expenses
  borclar : db'.debts = db.debts

/-- Any payment of up to what a scenario of the menu names leaves a forecast that keeps its buffer. -/
def GuvenleOdenir (p : PanelDb) (userId : ℕ) (workspaceId : Option ℕ) (today : Date) : GuvenliBorcOdemesi → Prop
  | .borcYok _ _ => True
  | .uygun _ _ _ _ _ _ _ senaryolar => ∀ s ∈ senaryolar, ∀ x k kasa j borc db', 0 < x → x ≤ s.odenebilir →
      NakitHesabi p userId workspaceId k kasa → (j, borc) ∈ borcHesaplari p.db userId workspaceId →
      BorcOdendi p.db db' k j x → Dayanir { p with db := db' } userId workspaceId today s.tampon

section Forecasts
variable {p q : PanelDb} {userId : ℕ} {workspaceId : Option ℕ} {today : Date} {x taban : ℚ}

theorem le_foldr_min {l : List ℚ} {b t : ℚ} : t ≤ l.foldr min b ↔ ∀ y ∈ b :: l, t ≤ y := by
  induction l with
  | nil => simp
  | cons a l ih =>
    rw [List.foldr_cons, le_min_iff, ih]
    simp only [List.forall_mem_cons]
    exact and_left_comm

theorem acilisBakiyesi_nakit : acilisBakiyesi p userId workspaceId none = nakitToplami p.db userId workspaceId := by
  rw [acilisBakiyesi_none, nakitToplami_eq_sum]

/-- The forecast's own lowest balance is the least of its balances. -/
theorem enDusuk_eq_enDusukNakit : (enDusuk (allEvents p userId workspaceId
      ⟨today.monthDay, today.monthDay.addDays 90⟩ none .hepsi) 90 today.monthDay
      (nakitToplami p.db userId workspaceId) (nakitToplami p.db userId workspaceId, today.monthDay)).1 =
    enDusukNakit p userId workspaceId today := by
  apply eq_of_forall_le_iff
  intro t
  rw [enDusuk_iff, enDusukNakit, le_foldr_min]

theorem summary_lowestBalance : (generateForecast p userId workspaceId 90 none .hepsi 0 today).summary.lowestBalance =
    roundEven (enDusukNakit p userId workspaceId today) 2 := by
  simp only [generateForecast, acilisBakiyesi_nakit]
  rw [enDusuk_eq_enDusukNakit]

/-- A state with the same movements and an amount less in cash keeps a bound exactly if the lowest balance,
less that amount, is rounded to it. -/
theorem dayanir_iff (holay : ∀ u, allEvents q userId workspaceId u none .hepsi = allEvents p userId workspaceId u none .hepsi)
    (hnakit : nakitToplami q.db userId workspaceId = nakitToplami p.db userId workspaceId - x) :
    Dayanir q userId workspaceId today taban ↔
      taban - 1 / 200 ≤ roundEven (enDusukNakit p userId workspaceId today - x) 2 := by
  simp only [Dayanir, generateForecast, acilisBakiyesi_nakit, holay, hnakit]
  rw [gunZinciri_sub_iff (by decide), enDusuk_eq_enDusukNakit]

/-- What an account holds is in none of the movements. -/
theorem allEvents_bakiyeArtar (k : ℕ) (y : ℚ) (u : Ufuk) (accountId : Option ℕ) (dahil : Dahil) :
    allEvents (hesaplarla p (p.db.accounts.modify k fun a => { a with balance := a.balance + y })) userId workspaceId u
      accountId dahil = allEvents p userId workspaceId u accountId dahil := by
  have hrel : p.db.accounts.Related (fun a b => b = { a with balance := b.balance })
      (p.db.accounts.modify k fun a => { a with balance := a.balance + y }) :=
    .modify _ k (fun _ => rfl) fun _ _ => rfl
  have hkredi : (turHesaplari (hesaplarla p (p.db.accounts.modify k fun a =>
      { a with balance := a.balance + y })).db userId workspaceId .loan).flatMap (expandLoanPayments u p.hesapEki) =
      (turHesaplari p.db userId workspaceId .loan).flatMap (expandLoanPayments u p.hesapEki) := by
    symm
    apply hrel.select_flatMap
    · intro a b hab
      rw [hab]
      rfl
    · intro r _ b hab _
      apply expandLoanPayments_adlar
      rw [hab]
  unfold allEvents
  rw [← hkredi]
  rfl

/-- What leaves a cash account of the scope leaves the cash. -/
theorem nakitToplami_bakiyeArtar {k : ℕ} {a : Account} (y : ℚ) (hget : p.db.accounts.get? k = some a)
    (hscope : scopeFilter userId workspaceId a = true) :
    nakitToplami (hesaplarla p (p.db.accounts.modify k fun a => { a with balance := a.balance + y })).db userId
      workspaceId = nakitToplami p.db userId workspaceId + if a.accountType = .cash then y else 0 := by
  rw [nakitToplami_eq_sum, nakitToplami_eq_sum]
  exact bakiyeler_artar y hget hscope .cash

end Forecasts

section Requests
variable {p : PanelDb} {userId k : ℕ} {workspaceId : Option ℕ} {today : Date} {x : ℚ} {hesap : Account}
variable {payload : TransactionCreate} {ws : List Write}

/-- An account that is named is taken. -/
theorem hesapSecimi_some {db : Db} {istek : Istek} {data : TransactionCreate} {id : ℤ} (h : data.accountId = some id)
    (hid : id ≠ 0) : hesapSecimi db istek data = some id := by
  have hfilter : (some id).filter (fun n => decide (n ≠ 0)) = some id := Option.filter_eq_some_iff.mpr ⟨rfl, by simpa⟩
  rw [hesapSecimi, h, hfilter]

theorem NakitHesabi.kimlik (hk : NakitHesabi p userId workspaceId k hesap) : (k : ℤ) ≠ 0 := by
  intro h0
  have hget := hk.bulunur
  rw [Int.natCast_eq_zero.mp h0] at hget
  simp at hget

theorem HarcamaGovdesi.islem (hb : HarcamaGovdesi payload k x today) (hk : NakitHesabi p userId workspaceId k hesap)
    {yeni : YeniIslem} (h : yeniIslem p.db ⟨userId, workspaceId, today⟩ payload = .ok yeni) :
    yeni.hesap = (k, hesap) ∧ yeni.txn.transactionType = .expense ∧ yeni.txn.amount = x ∧ yeni.otomatik = true ∧
      |x| ≤ 10 ^ 12 := by
  have hdolu : hizliGiris payload = .ok payload := by
    simp only [hizliGiris, hb.metinsiz]
  obtain ⟨hkalir, htipi, htutari⟩ : (kategoriOner payload).accountId = payload.accountId ∧
      (kategoriOner payload).transactionType = payload.transactionType ∧
      (kategoriOner payload).amount = payload.amount := by
    unfold kategoriOner
    split <;> exact ⟨rfl, rfl, rfl⟩
  simp only [yeniIslem, bind_eq_ok, stopIf_eq_ok, require_eq_ok, within_eq_ok, pure_eq_ok, exists_and_left,
    exists_const, hdolu, Except.ok.injEq, exists_eq_left'] at h
  obtain ⟨huygun, tip, htip, tutar, htutar, -, id, hid, bulunan, hf, secilen, rfl, rfl⟩ := h
  rw [htipi, hb.tip] at htip
  rw [htutari, hb.tutar] at htutar
  obtain rfl := Option.some.inj htip
  obtain rfl := Option.some.inj htutar
  rw [hesapSecimi_some (hkalir.trans hb.hesap) hk.kimlik] at hid
  obtain rfl := Option.some.inj hid
  obtain ⟨hanahtar, hget, -⟩ := findById_eq_some.mp hf
  have hk1 : k = secilen.1 := by
    simp only [primaryKey] at hanahtar
    split at hanahtar
    · cases hanahtar
    · simpa using hanahtar
  have hsecilen : secilen = (k, hesap) := by
    rw [← hk1, hk.bulunur] at hget
    rw [Prod.ext_iff]
    exact ⟨hk1.symm, (Option.some.inj hget).symm⟩
  refine ⟨hsecilen, rfl, rfl, hb.otomatik, ?_⟩
  simp only [TransactionCreate.uygun, hb.tutar, finansBakiye, Option.all_some, Bool.not_eq_false, Bool.and_eq_true,
    decide_eq_true_eq] at huygun
  exact huygun.1.1.1

/-- An expense of up to a trillion on a cash account is recorded. -/
theorem harcama_kaydedilir (hk : NakitHesabi p userId workspaceId k hesap) (hx : 0 < x) (hson : x ≤ 10 ^ 12) :
    ∃ payload ws, HarcamaGovdesi payload k x today ∧
      createTransaction p.db ⟨userId, workspaceId, today⟩ payload = .ok ws := by
  have hanahtar : primaryKey (.int k) = .ok (some k) := by
    rw [primaryKey, if_neg (by simpa using hk.sigar)]
    simp
  have hf : findById p.db.accounts userId workspaceId (.int k) = .ok (some (k, hesap)) :=
    findById_eq_some.mpr ⟨hanahtar, hk.bulunur, hk.kapsamda⟩
  have hbuyukluk : |x| ≤ 10 ^ 12 := by
    rw [abs_of_pos hx]
    exact hson
  let payload : TransactionCreate := ⟨some k, some .expense, some x, none, none, none, none, none, none⟩
  let yeni : YeniIslem := {
    txn := ⟨userId, workspaceId, some k, .expense, x, suggestCategory none, none, today, false⟩
    hesap := (k, hesap)
    otomatik := true }
  have hyeni : yeniIslem p.db ⟨userId, workspaceId, today⟩ payload = .ok yeni := by
    have hsecim : hesapSecimi p.db ⟨userId, workspaceId, today⟩ (kategoriOner payload) = some (k : ℤ) :=
      hesapSecimi_some rfl hk.kimlik
    have hdolu : hizliGiris payload = .ok payload := rfl
    have huygun : ¬ payload.uygun = false := by
      simpa [TransactionCreate.uygun, payload, finansBakiye] using hbuyukluk
    simp only [yeniIslem, bind_eq_ok, stopIf_eq_ok, require_eq_ok, within_eq_ok, pure_eq_ok, exists_and_left,
      exists_const, hdolu, Except.ok.injEq, exists_eq_left']
    exact ⟨huygun, .expense, rfl, x, rfl, not_le.mpr hx, k, hsecim, _, hf, (k, hesap), rfl, rfl⟩
  have hyazar : createTransaction p.db ⟨userId, workspaceId, today⟩ payload =
      .ok [.transaction (.insert yeni.txn), applyToBalance (k, hesap) .expense x false] := by
    rw [createTransaction, hyeni]
    rfl
  exact ⟨payload, _, ⟨rfl, rfl, rfl, rfl, rfl, rfl⟩, hyazar⟩

theorem dayanir_harcama (hb : HarcamaGovdesi payload k x today) (hk : NakitHesabi p userId workspaceId k hesap)
    (h : createTransaction p.db ⟨userId, workspaceId, today⟩ payload = .ok ws) (taban : ℚ) :
    Dayanir { p with db := p.db.writeAll ws } userId workspaceId today taban ↔
      taban - 1 / 200 ≤ roundEven (enDusukNakit p userId workspaceId today - x) 2 := by
  obtain ⟨yeni, hy, rfl⟩ := createTransaction_ok h
  obtain ⟨hhesap, htip, htutar, hoto, -⟩ := hb.islem hk hy
  have hleg : applyToBalance yeni.hesap yeni.txn.transactionType yeni.txn.amount false = bakiyeEkle k (-x) := by
    rw [hhesap, htip, htutar, applyToBalance, hk.nakit]
    rfl
  rw [hoto, if_pos rfl, hleg]
  apply dayanir_iff
  · intro u
    exact allEvents_bakiyeArtar k (-x) u none .hepsi
  · have hnakit := nakitToplami_bakiyeArtar (-x) hk.bulunur hk.kapsamda
    rw [if_pos hk.nakit, ← sub_eq_add_neg] at hnakit
    exact hnakit

theorem dayanir_odeme {j : ℕ} {borc : Account} {db' : Db} (hk : NakitHesabi p userId workspaceId k hesap)
    (hj : (j, borc) ∈ borcHesaplari p.db userId workspaceId) (h : BorcOdendi p.db db' k j x) (taban : ℚ) :
    Dayanir { p with db := db' } userId workspaceId today taban ↔
      taban - 1 / 200 ≤ roundEven (enDusukNakit p userId workspaceId today - x) 2 := by
  obtain ⟨hgetj, hkapsam⟩ := Table.mem_select.mp hj
  have hkapsam : scopeFilter userId workspaceId borc = true ∧ (borc.accountType = .loan ∨ borc.accountType = .creditCard) :=
    of_decide_eq_true hkapsam
  have hfarkli : borc.accountType ≠ .cash := by
    rcases hkapsam.2 with ht | ht <;> simp [ht]
  have hjk : k ≠ j := by
    rintro rfl
    rw [hk.bulunur] at hgetj
    exact hfarkli (Option.some.inj hgetj ▸ hk.nakit)
  let ara : PanelDb := hesaplarla p (p.db.accounts.modify j fun a => { a with balance := a.balance + -x })
  have hget : ara.db.accounts.get? k = some hesap := by
    simp only [ara, hesaplarla, Table.get?_modify, if_neg hjk, hk.bulunur]
  have hsonuc : db'.accounts = ara.db.accounts.modify k fun a => { a with balance := a.balance + -x } := h.hesaplar
  have holay (u : Ufuk) : allEvents { p with db := db' } userId workspaceId u none .hepsi =
      allEvents (hesaplarla ara db'.accounts) userId workspaceId u none .hepsi := by
    unfold allEvents
    rw [h.gelirler, h.giderler, h.borclar]
    rfl
  apply dayanir_iff
  · intro u
    rw [holay, hsonuc, allEvents_bakiyeArtar]
    exact allEvents_bakiyeArtar j (-x) u none .hepsi
  · have hilk : nakitToplami ara.db userId workspaceId = _ := nakitToplami_bakiyeArtar (-x) hgetj hkapsam.1
    have hson := nakitToplami_bakiyeArtar (-x) hget hk.kapsamda
    rw [if_neg hfarkli, add_zero] at hilk
    rw [hilk, if_pos hk.nakit, ← sub_eq_add_neg, ← hsonuc] at hson
    exact hson

end Requests

/-- When what may be spent is covered by the lowest balance: the cards do not stand in credit, all but half a
kuruş; or nothing may be spent; or more lies there than any expense takes. -/
def HarcamaKosulu (enDusuk kart : ℚ) : Prop :=
  roundEven enDusuk 2 - kart ≤ 1 / 200 ∨ -kart < 1 / 200 ∨
    -kart = 1 / 200 ∧ nearestEven (enDusuk * 100) % 2 = 0 ∨
    enDusuk = roundEven enDusuk 2 + 1 / 200 ∧ -kart < 3 / 200 ∨ 10 ^ 12 - 1 / 200 ≤ enDusuk

/-- Half a kuruş of the lowest balance or of the buffer is rounded up, against an odd number of kuruş. -/
def YarimKurusKayar (enDusuk tampon : ℚ) : Prop :=
  enDusuk = roundEven enDusuk 2 - 1 / 200 ∧ nearestEven (tampon * 100) % 2 = 1 ∨
    tampon = roundEven tampon 2 - 1 / 200 ∧ nearestEven (enDusuk * 100) % 2 = 1

/-- When a payment of up to what a scenario names leaves its buffer. -/
def OdemeKosulu (enDusuk toplamBorc tampon : ℚ) : Prop :=
  toplamBorc ≤ 0 ∨ roundEven enDusuk 2 - tampon ≤ 1 / 200 ∨
    roundEven toplamBorc 2 < roundEven (roundEven enDusuk 2 - tampon) 2 ∨ ¬ YarimKurusKayar enDusuk tampon

section Amounts
variable {enDusuk kart toplamBorc tampon x y : ℚ}

theorem roundEven_two (q : ℚ) : roundEven q 2 = nearestEven (q * 100) / 100 := by
  norm_num [roundEven]

theorem roundEven_two_le : roundEven x 2 ≤ roundEven y 2 ↔ nearestEven (x * 100) ≤ nearestEven (y * 100) := by
  rw [roundEven_two, roundEven_two, div_le_div_iff_of_pos_right (by norm_num), Int.cast_le]

/-- Half a kuruş below a rounded bound is no room for another rounded amount. -/
theorem roundEven_sub_le : roundEven y 2 - 1 / 200 ≤ roundEven x 2 ↔ roundEven y 2 ≤ roundEven x 2 := by
  constructor
  · intro h
    rw [roundEven_two_le]
    rw [roundEven_two, roundEven_two] at h
    have hlt : (nearestEven (y * 100) : ℚ) - 1 < nearestEven (x * 100) := by linarith
    have hlt : nearestEven (y * 100) - 1 < nearestEven (x * 100) := by exact_mod_cast hlt
    omega
  · intro h
    linarith

theorem taban_le_iff : 0 - 1 / 200 ≤ roundEven x 2 ↔ -1 / 200 ≤ x := by
  have hsub := @roundEven_sub_le x 0
  rw [roundEven_zero] at hsub
  have hzero : nearestEven 0 = 0 := nearestEven_intCast 0
  have hle := @roundEven_two_le 0 x
  rw [roundEven_zero, zero_mul, hzero, le_nearestEven_iff] at hle
  rw [hsub, hle]
  constructor
  · rintro (h | ⟨h, -⟩)
    · push_cast at h
      linarith
    · push_cast at h
      linarith
  · intro h
    push_cast
    rcases h.lt_or_eq with h | h
    · exact .inl (by linarith)
    · exact .inr ⟨by linarith, trivial⟩

/-- What may be spent is nothing, or no more than the lowest balance. -/
theorem guvenli_iff : (roundEven (max 0 (roundEven enDusuk 2 - kart)) 2 ≤ 0 ∨
      roundEven (max 0 (roundEven enDusuk 2 - kart)) 2 ≤ enDusuk + 1 / 200) ↔
    roundEven enDusuk 2 - kart ≤ 1 / 200 ∨ -kart < 1 / 200 ∨
      -kart = 1 / 200 ∧ nearestEven (enDusuk * 100) % 2 = 0 ∨
      enDusuk = roundEven enDusuk 2 + 1 / 200 ∧ -kart < 3 / 200 := by
  by_cases hyok : roundEven enDusuk 2 - kart ≤ 1 / 200
  · refine iff_of_true (.inl ?_) (.inl hyok)
    exact (roundEven_mono (max_le (by norm_num) hyok) 2).trans roundEven_half_hundredth.le
  · have hmax : max 0 (roundEven enDusuk 2 - kart) = roundEven enDusuk 2 - kart := max_eq_right (by linarith)
    rw [hmax]
    have hm := nearestEven_bounds (enDusuk * 100)
    have hg := nearestEven_bounds ((roundEven enDusuk 2 - kart) * 100)
    rw [roundEven_two enDusuk] at *
    rw [roundEven_two (_ - kart)]
    generalize nearestEven (enDusuk * 100) = m at *
    generalize nearestEven (((m : ℚ) / 100 - kart) * 100) = g at *
    obtain hlt | rfl | rfl | hgt : g + 1 ≤ m ∨ g = m ∨ g = m + 1 ∨ m + 2 ≤ g := by omega
    · have hlt : (g : ℚ) + 1 ≤ m := by exact_mod_cast hlt
      grind
    · grind
    · push_cast at hg ⊢
      grind
    · have hgt : (m : ℚ) + 2 ≤ g := by exact_mod_cast hgt
      grind

theorem harcama_iff : (∀ x, 0 < x → x ≤ roundEven (max 0 (roundEven enDusuk 2 - kart)) 2 → x ≤ 10 ^ 12 →
      0 - 1 / 200 ≤ roundEven (enDusuk - x) 2) ↔ HarcamaKosulu enDusuk kart := by
  have hkosul : HarcamaKosulu enDusuk kart ↔ (roundEven (max 0 (roundEven enDusuk 2 - kart)) 2 ≤ 0 ∨
      roundEven (max 0 (roundEven enDusuk 2 - kart)) 2 ≤ enDusuk + 1 / 200) ∨ 10 ^ 12 - 1 / 200 ≤ enDusuk := by
    rw [guvenli_iff, HarcamaKosulu]
    tauto
  rw [hkosul]
  generalize roundEven (max 0 (roundEven enDusuk 2 - kart)) 2 = g
  simp only [taban_le_iff]
  constructor
  · intro h
    by_contra hn
    push Not at hn
    obtain ⟨⟨hpos, hg⟩, hson⟩ := hn
    have henfazla := h (min g (10 ^ 12)) (lt_min hpos (by norm_num)) (min_le_left _ _) (min_le_right _ _)
    rcases min_choice g (10 ^ 12) with hmin | hmin
    · rw [hmin] at henfazla
      linarith
    · rw [hmin] at henfazla
      linarith
  · rintro ((hg | hg) | hson) x hpos hle hx
    · linarith
    · linarith
    · linarith

theorem YarimKurusKayar_iff : YarimKurusKayar enDusuk tampon ↔ ¬ roundEven tampon 2 ≤
    roundEven (enDusuk - roundEven (roundEven enDusuk 2 - tampon) 2) 2 := by
  have hkurus := nearestEven_le_sub_iff (enDusuk * 100) (tampon * 100)
  have hfark : (roundEven enDusuk 2 - tampon) * 100 = nearestEven (enDusuk * 100) - tampon * 100 := by
    rw [roundEven_two]
    ring
  have hkalan : (enDusuk - roundEven (roundEven enDusuk 2 - tampon) 2) * 100 =
      enDusuk * 100 - nearestEven (nearestEven (enDusuk * 100) - tampon * 100) := by
    rw [← hfark, roundEven_two (_ - tampon)]
    ring
  have hyarim (q : ℚ) : q * 100 = nearestEven (q * 100) - 1 / 2 ↔ q = roundEven q 2 - 1 / 200 := by
    rw [roundEven_two]
    constructor
    · intro h
      linarith
    · intro h
      linarith
  rw [roundEven_two_le, hkalan, hkurus, not_not, hyarim, hyarim, YarimKurusKayar]

/-- The most that a scenario names is nothing, or leaves its buffer. -/
theorem odenebilir_iff (hborc : 0 < toplamBorc) :
    (roundEven (min (roundEven (max 0 (roundEven enDusuk 2 - tampon)) 2) toplamBorc) 2 ≤ 0 ∨ roundEven tampon 2 ≤
      roundEven (enDusuk - roundEven (min (roundEven (max 0 (roundEven enDusuk 2 - tampon)) 2) toplamBorc) 2) 2) ↔
    OdemeKosulu enDusuk toplamBorc tampon := by
  rw [roundEven_min, roundEven_idem, OdemeKosulu, YarimKurusKayar_iff, not_not, or_iff_right (not_le.mpr hborc)]
  by_cases hyok : roundEven enDusuk 2 - tampon ≤ 1 / 200
  · refine iff_of_true (.inl ?_) (.inl hyok)
    exact (min_le_left _ _).trans ((roundEven_mono (max_le (by norm_num) hyok) 2).trans roundEven_half_hundredth.le)
  · have hmax : max 0 (roundEven enDusuk 2 - tampon) = roundEven enDusuk 2 - tampon := max_eq_right (by linarith)
    rw [hmax, or_iff_right hyok]
    rcases lt_or_ge (roundEven toplamBorc 2) (roundEven (roundEven enDusuk 2 - tampon) 2) with hlt | hge
    · refine iff_of_true (.inr (roundEven_mono ?_ 2)) (.inl hlt)
      rw [min_eq_right hlt.le]
      have hfark := abs_le.mp (abs_roundEven_sub_le (roundEven enDusuk 2 - tampon) 2)
      have hdusuk := abs_le.mp (abs_roundEven_sub_le enDusuk 2)
      rw [roundEven_two toplamBorc, roundEven_two (_ - tampon), div_lt_div_iff_of_pos_right (by norm_num)] at hlt
      have hkurus : (nearestEven (toplamBorc * 100) : ℚ) + 1 ≤ nearestEven ((roundEven enDusuk 2 - tampon) * 100) := by
        exact_mod_cast hlt
      rw [roundEven_two (_ - tampon)] at hfark
      rw [roundEven_two toplamBorc]
      norm_num at hfark hdusuk
      linarith
    · rw [min_eq_left hge, or_iff_right (not_lt.mpr hge), or_iff_right]
      intro hsifir
      have hzero : nearestEven 0 = 0 := nearestEven_intCast 0
      have hle := @roundEven_two_le (roundEven enDusuk 2 - tampon) 0
      rw [roundEven_zero, zero_mul, hzero, nearestEven_le_iff] at hle
      rcases hle.mp hsifir with h | ⟨h, -⟩
      · push_cast at h
        linarith
      · push_cast at h
        linarith

theorem odeme_iff (hborc : 0 < toplamBorc) :
    (∀ x, 0 < x → x ≤ roundEven (min (roundEven (max 0 (roundEven enDusuk 2 - tampon)) 2) toplamBorc) 2 →
      roundEven tampon 2 - 1 / 200 ≤ roundEven (enDusuk - x) 2) ↔ OdemeKosulu enDusuk toplamBorc tampon := by
  rw [← odenebilir_iff hborc]
  generalize roundEven (min (roundEven (max 0 (roundEven enDusuk 2 - tampon)) 2) toplamBorc) 2 = o
  simp only [roundEven_sub_le]
  constructor
  · intro h
    rcases le_or_gt o 0 with ho | ho
    · exact .inl ho
    · exact .inr (h o ho (le_refl o))
  · rintro (ho | ho) x hpos hle
    · linarith
    · exact ho.trans (roundEven_mono (by linarith) 2)

end Amounts

section Figures
variable {p : PanelDb} {userId : ℕ} {workspaceId : Option ℕ} {today : Date} {kart kredi safeDebtBuffer : ℚ}

theorem guvenleHarcanir_iff : GuvenleHarcanir p userId workspaceId today
      (calculateSafeToSpend (generateForecast p userId workspaceId 90 none .hepsi 0 today).summary kart) ↔
    (¬ ∃ k hesap, NakitHesabi p userId workspaceId k hesap) ∨
      HarcamaKosulu (enDusukNakit p userId workspaceId today) kart := by
  rw [calculateSafeToSpend, summary_lowestBalance, ← harcama_iff]
  constructor
  · intro h
    rw [or_iff_not_imp_left, not_not]
    rintro ⟨k, hesap, hk⟩ x hpos hle hson
    obtain ⟨payload, ws, hb, hyazar⟩ := @harcama_kaydedilir p userId k workspaceId today x hesap hk hpos hson
    exact (dayanir_harcama hb hk hyazar 0).mp (h x k hesap payload ws hpos hle hk hb hyazar)
  · rintro (hyok | h) x k hesap payload ws hpos hle hk hb hyazar
    · exact absurd ⟨k, hesap, hk⟩ hyok
    · obtain ⟨yeni, hy, -⟩ := createTransaction_ok hyazar
      obtain ⟨-, -, -, -, hson⟩ := hb.islem hk hy
      exact (dayanir_harcama hb hk hyazar 0).mpr (h x hpos hle ((le_abs_self x).trans hson))

/-- Where there is a debt there is an account that carries it. -/
theorem borc_hesabi (h : 0 < kartBorcu p userId workspaceId + krediBorcu p userId workspaceId) :
    ∃ j borc, (j, borc) ∈ borcHesaplari p.db userId workspaceId := by
  have htur {tip : AccountType} (htip : tip = .loan ∨ tip = .creditCard) {r : ℕ × Account}
      (hr : r ∈ turHesaplari p.db userId workspaceId tip) : r ∈ borcHesaplari p.db userId workspaceId := by
    obtain ⟨hget, hkapsam, ht⟩ := mem_turHesaplari.mp (show (r.1, r.2) ∈ _ from hr)
    exact Table.mem_select.mpr ⟨hget, decide_eq_true ⟨hkapsam, ht ▸ htip⟩⟩
  by_contra hyok
  have hbos {tip : AccountType} (htip : tip = .loan ∨ tip = .creditCard) :
      turHesaplari p.db userId workspaceId tip = [] := by
    apply List.eq_nil_iff_forall_not_mem.mpr
    intro r hr
    exact hyok ⟨r.1, r.2, htur htip hr⟩
  rw [kartBorcu, krediBorcu, hbos (.inr rfl), hbos (.inl rfl)] at h
  simp at h

theorem guvenleOdenir_iff : GuvenleOdenir p userId workspaceId today
      (buildSafeDebtPaymentScenarios (generateForecast p userId workspaceId 90 none .hepsi 0 today).summary
        safeDebtBuffer (kartBorcu p userId workspaceId) (krediBorcu p userId workspaceId)) ↔
    (¬ ∃ k hesap, NakitHesabi p userId workspaceId k hesap) ∨
      OdemeKosulu (enDusukNakit p userId workspaceId today)
        (kartBorcu p userId workspaceId + krediBorcu p userId workspaceId) safeDebtBuffer := by
  unfold buildSafeDebtPaymentScenarios
  dsimp only
  split
  · next hyok => exact iff_of_true trivial (.inr (.inl hyok))
  · next hborc =>
    have hborc := not_le.mp hborc
    have hsabit : ∀ t ∈ ([0, 5000] : List ℚ), OdemeKosulu (enDusukNakit p userId workspaceId today)
        (kartBorcu p userId workspaceId + krediBorcu p userId workspaceId) t := by
      have htam : ∀ t ∈ ([0, 5000] : List ℚ), nearestEven (t * 100) % 2 = 0 ∧ t = roundEven t 2 := by
        norm_num [nearestEven, roundEven]
      intro t ht
      obtain ⟨hcift, htam⟩ := htam t ht
      refine .inr (.inr (.inr ?_))
      rintro (⟨-, htek⟩ | ⟨hyarim, -⟩)
      · omega
      · linarith
    simp only [GuvenleOdenir, calculateSafeDebtPayment, summary_lowestBalance, List.forall_mem_map, List.mem_mergeSort,
      List.mem_dedup]
    constructor
    · intro h
      rw [or_iff_not_imp_left, not_not, ← odeme_iff hborc]
      rintro ⟨k, kasa, hk⟩ x hpos hle
      obtain ⟨j, borc, hj⟩ := borc_hesabi hborc
      have hodendi : BorcOdendi p.db (p.db.writeAll [bakiyeEkle j (-x), bakiyeEkle k (-x)]) k j x :=
        ⟨rfl, rfl, rfl, rfl⟩
      exact (dayanir_odeme hk hj hodendi _).mp
        (h safeDebtBuffer (by simp) x k kasa j borc _ hpos hle hk hj hodendi)
    · rintro (hyok | h) t ht x k kasa j borc db' hpos hle hk hj hodendi
      · exact absurd ⟨k, kasa, hk⟩ hyok
      · have hkosul : OdemeKosulu (enDusukNakit p userId workspaceId today)
            (kartBorcu p userId workspaceId + krediBorcu p userId workspaceId) t := by
          simp only [List.mem_cons, List.not_mem_nil, or_false] at ht
          rcases ht with rfl | rfl | rfl
          · exact hsabit 0 (by simp)
          · exact h
          · exact hsabit 5000 (by simp)
        exact (dayanir_odeme hk hj hodendi _).mpr ((odeme_iff hborc).mpr hkosul x hpos hle)

end Figures

/-- What the cockpit says may be spent or paid leaves the forecast without a shortage exactly where its
figures cannot be built, where there is no cash account, or where no card debt stands in credit and no half
kuruş of an odd buffer is rounded up. -/
theorem safe_to_spend_iff (safeDebtBuffer : ℚ) (p : PanelDb) (userId : ℕ) (workspaceId : Option ℕ) (today : Date) :
    (∀ r, kokpitRakamlari safeDebtBuffer p userId workspaceId today = .ok r →
      GuvenleHarcanir p userId workspaceId today r.guvenliHarcama ∧
        GuvenleOdenir p userId workspaceId today r.guvenliBorcOdemesi) ↔
    turHatasi p userId workspaceId today.monthDay = true ∨
      (¬ ∃ k hesap, NakitHesabi p userId workspaceId k hesap) ∨
      HarcamaKosulu (enDusukNakit p userId workspaceId today) (kartBorcu p userId workspaceId) ∧
        OdemeKosulu (enDusukNakit p userId workspaceId today)
          (kartBorcu p userId workspaceId + krediBorcu p userId workspaceId) safeDebtBuffer := by
  rw [or_and_left, ← guvenleHarcanir_iff, ← guvenleOdenir_iff]
  cases hhata : turHatasi p userId workspaceId today.monthDay with
  | true => simp [kokpitRakamlari, hhata]
  | false => simp [kokpitRakamlari, hhata]

/-- 100 lira of cash and a card that is 50 lira in credit. -/
def alacakliKartDb : PanelDb where
  db := { Db.empty with
    accounts := (Table.empty.push
      ⟨1, none, "Kasa", .cash, 100, none, none, none, none, none, none, none, false⟩).push
      ⟨1, none, "Kart", .creditCard, -50, none, none, none, none, none, none, none, false⟩ }
  hesapEki := fun _ => ⟨none, none, none, none⟩
  envelopes := .empty

def harcamaGunu : Date := (Date.ofYmd? 2026 5 25).get rfl

/-- An expense of 150 lira from the cash. -/
def yuzElli : TransactionCreate :=
  ⟨some 1, some .expense, some 150, none, none, none, none, none, none⟩

/-- The credit on a card is added to the cash that may be spent. -/
theorem card_credit_was_spent :
    (kokpitRakamlari 2000 alacakliKartDb 1 none harcamaGunu).map KokpitRakamlari.guvenliHarcama = .ok 150 ∧
      ¬ ∀ r, kokpitRakamlari 2000 alacakliKartDb 1 none harcamaGunu = .ok r →
        GuvenleHarcanir alacakliKartDb 1 none harcamaGunu r.guvenliHarcama ∧
          GuvenleOdenir alacakliKartDb 1 none harcamaGunu r.guvenliBorcOdemesi := by
  have hkokpit : (kokpitRakamlari 2000 alacakliKartDb 1 none harcamaGunu).map KokpitRakamlari.guvenliHarcama =
      .ok 150 := by decide +kernel
  refine ⟨hkokpit, fun h => ?_⟩
  cases hr : kokpitRakamlari 2000 alacakliKartDb 1 none harcamaGunu with
  | error e =>
    rw [hr] at hkokpit
    cases hkokpit
  | ok r =>
    rw [hr] at hkokpit
    have hyuzElli : r.guvenliHarcama = 150 := Except.ok.inj hkokpit
    obtain ⟨hharca, -⟩ := h r hr
    have hkasa : NakitHesabi alacakliKartDb 1 none 1 _ := ⟨rfl, rfl, rfl, by norm_num⟩
    have hgovde : HarcamaGovdesi yuzElli 1 150 harcamaGunu := ⟨rfl, rfl, rfl, rfl, rfl, rfl⟩
    have hyazar : createTransaction alacakliKartDb.db ⟨1, none, harcamaGunu⟩ yuzElli = .ok _ := rfl
    have hgun := hharca 150 1 _ yuzElli _ (by norm_num) hyuzElli.ge hkasa hgovde hyazar
    have henDusuk : enDusukNakit alacakliKartDb 1 none harcamaGunu = 100 := by decide +kernel
    rw [dayanir_harcama hgovde hkasa hyazar, henDusuk, taban_le_iff] at hgun
    norm_num at hgun

end FinancialOs.Guarantees
