import FinancialOs.Guarantees.LedgerGap
import FinancialOs.Library.TransitionRuns
import FinancialOs.Routers.Debts

/-! The cash leg of debts is exact: whatever is paid, unpaid, corrected or deleted,
every balance carries the legs of the debts that point to it and nothing else. -/
namespace FinancialOs.Guarantees
open Library Store Rules Executor Routers

/-- The cash legs of the debts whose trace is an account. -/
def kapanisToplami (db : Db) (k : ℕ) : ℚ :=
  db.debts.total (fun d => if d.settlementAccountId = some k then kapanisDelta d.direction d.amount else 0)

/-- A debt is paid exactly when it has a date, and a trace belongs to a paid debt and an account. -/
structure SatirDuzeni (accounts : Table Account) (d : PersonalDebt) : Prop where
  tarih : d.isPaid = d.paidDate.isSome
  odenmis : ∀ k, d.settlementAccountId = some k → d.isPaid = true
  hesap : ∀ k, d.settlementAccountId = some k → (accounts.get? k).isSome = true

/-- What holds of debts and balances in every reachable state. -/
structure BorcDuzeni (acilis : ℕ → ℚ) (db : Db) : Prop where
  satir : ∀ id d, db.debts.get? id = some d → SatirDuzeni db.accounts d
  bakiye : ∀ k a, db.accounts.get? k = some a → a.balance = acilis k + kapanisToplami db k

/-- How far a balance is from what the debts say. -/
def borcAcigi (acilis : ℕ → ℚ) (db : Db) (k : ℕ) : ℚ :=
  hesapAcigi acilis (fun k _ => kapanisToplami db k) db.accounts k

/-- The cash leg one debt has on the account under a key. -/
def borcKatkisi (db : Db) (d : PersonalDebt) (k : ℕ) : ℚ :=
  if (db.accounts.get? k).isSome ∧ d.settlementAccountId = some k then
    kapanisDelta d.direction d.amount
  else 0

section Gap
variable {acilis : ℕ → ℚ} {db : Db}

theorem borcAcigi_insert (d : PersonalDebt) (k : ℕ) :
    borcAcigi acilis (db.write (.debt (.insert d))) k = borcAcigi acilis db k - borcKatkisi db d k := by
  simp only [borcAcigi, hesapAcigi, borcKatkisi, kapanisToplami, Db.write, Table.change, Table.total_push]
  cases db.accounts.get? k with
  | none => simp
  | some a =>
    simp only [Option.isSome_some, true_and]
    ring

theorem borcAcigi_update {id : ℕ} {eski : PersonalDebt} (h : db.debts.get? id = some eski)
    (f : PersonalDebt → PersonalDebt) (k : ℕ) :
    borcAcigi acilis (db.write (.debt (.update id f))) k =
      borcAcigi acilis db k + borcKatkisi db eski k - borcKatkisi db (f eski) k := by
  simp only [borcAcigi, hesapAcigi, borcKatkisi, kapanisToplami, Db.write, Table.change,
    Table.total_modify h]
  cases db.accounts.get? k with
  | none => simp
  | some a =>
    simp only [Option.isSome_some, true_and]
    ring

theorem borcAcigi_delete {id : ℕ} {d : PersonalDebt} (h : db.debts.get? id = some d) (k : ℕ) :
    borcAcigi acilis (db.write (.debt (.delete id))) k = borcAcigi acilis db k + borcKatkisi db d k := by
  simp only [borcAcigi, hesapAcigi, borcKatkisi, kapanisToplami, Db.write, Table.change,
    Table.total_erase h]
  cases db.accounts.get? k with
  | none => simp
  | some a =>
    simp only [Option.isSome_some, true_and]
    ring

theorem borcAcigi_bakiyeFarki (id : ℕ) (q : ℚ) (k : ℕ) :
    borcAcigi acilis (db.writeAll (bakiyeFarki id q)) k =
      borcAcigi acilis db k + if k = id ∧ (db.accounts.get? k).isSome then q else 0 := by
  unfold bakiyeFarki
  by_cases hq : q = 0
  · simp [hq]
  · rw [if_pos hq, writeAll_cons, writeAll_nil]
    exact hesapAcigi_bakiyeEkle _ id q k

end Gap

/-- Legs move balances only. -/
theorem ayak_frame {ws : List Write} (h : ∀ w ∈ ws, ∃ id q, w = bakiyeEkle id q) (db : Db) :
    (db.writeAll ws).debts = db.debts ∧
      ∀ k, ((db.writeAll ws).accounts.get? k).isSome = (db.accounts.get? k).isSome := by
  induction ws generalizing db with
  | nil => exact ⟨rfl, fun _ => rfl⟩
  | cons w ws ih =>
    obtain ⟨hd, ha⟩ := ih (fun x hx => h x (List.mem_cons_of_mem _ hx)) (db.write w)
    obtain ⟨id, q, rfl⟩ := h w List.mem_cons_self
    refine ⟨hd, fun k => (ha k).trans ?_⟩
    rw [accounts_bakiyeEkle, Option.isSome_map]

theorem ayak_writes {db : Db} {userId : ℕ} {debt : PersonalDebt} {onceki : KapanisDurumu} {w : Option ℕ} :
    ∀ x ∈ (senkronizeNakit db userId debt onceki w).writes, ∃ id q, x = bakiyeEkle id q :=
  fun _ hx => mem_ayakYazimlari hx

/-- The share of an account, if there is one, in a leg. -/
def hesapPayi (db : Db) (h : Option (ℕ × Account)) (q : ℚ) (k : ℕ) : ℚ :=
  if (db.accounts.get? k).isSome ∧ h.map Prod.fst = some k then q else 0

/-- The legs take the old effect back where it was and put the new one where it goes. -/
theorem borcAcigi_ayak {acilis : ℕ → ℚ} (d : Db) (eski hedef : Option (ℕ × Account)) (eskiEtki yeniEtki : ℚ)
    (k : ℕ) : borcAcigi acilis (d.writeAll (ayakYazimlari eski hedef eskiEtki yeniEtki)) k =
      borcAcigi acilis d k + hesapPayi d hedef yeniEtki k - hesapPayi d eski eskiEtki k := by
  have hone : ∀ (g : ℕ × Account) (q : ℚ), (if k = g.1 ∧ (d.accounts.get? k).isSome then q else 0) =
      hesapPayi d (some g) q k := by
    intro g q
    simp only [hesapPayi, Option.map_some, Option.some.injEq]
    by_cases hk : k = g.1
    · simp [hk]
    · have hk' : g.1 ≠ k := fun he => hk he.symm
      simp [hk, hk']
  have hzero : ∀ q, hesapPayi d none q k = 0 := by
    intro q
    simp [hesapPayi]
  rcases eski with _ | e <;> rcases hedef with _ | h
  · simp [ayakYazimlari, hzero]
  · rw [ayakYazimlari, borcAcigi_bakiyeFarki, hone, hzero, sub_zero]
  · rw [ayakYazimlari, borcAcigi_bakiyeFarki, hone, hzero, add_zero]
    simp only [hesapPayi]
    split <;> ring
  · rw [ayakYazimlari]
    by_cases he : e.1 = h.1
    · rw [if_pos he, borcAcigi_bakiyeFarki, hone]
      simp only [hesapPayi, Option.map_some, he]
      split <;> ring
    · have hs := (ayak_frame (fun w hw => ⟨_, _, (mem_bakiyeFarki.mp hw).2⟩) d : _ ∧ ∀ k,
        ((d.writeAll (bakiyeFarki e.1 (-eskiEtki))).accounts.get? k).isSome = (d.accounts.get? k).isSome).2 k
      rw [if_neg he, writeAll_append, borcAcigi_bakiyeFarki, borcAcigi_bakiyeFarki, hs, hone, hone]
      simp only [hesapPayi]
      split <;> split <;> ring

section Settlement
variable {db : Db} {userId : ℕ} {eski yeni : PersonalDebt} {w : Option ℕ}

theorem eskiHesap_iz (h : SatirDuzeni db.accounts eski) :
    (eskiHesap db (.oku eski)).map Prod.fst = eski.settlementAccountId := by
  unfold eskiHesap
  cases hiz : eski.settlementAccountId with
  | none => simp [KapanisDurumu.oku, izHesabi, hiz]
  | some k =>
    obtain ⟨a, ha⟩ := Option.isSome_iff_exists.mp (h.hesap k hiz)
    simp [KapanisDurumu.oku, izHesabi, hiz, h.odenmis k hiz, ha]

/-- The trace of a leg: only a paid debt gets one, and its account exists. -/
theorem senkronize_iz {onceki : KapanisDurumu} {k : ℕ}
    (h : (senkronizeNakit db userId yeni onceki w).settlementAccountId = some k) :
    yeni.isPaid = true ∧ (db.accounts.get? k).isSome = true := by
  by_cases hpaid : yeni.isPaid = true
  · simp only [senkronizeNakit, hpaid, if_true] at h
    by_cases hne : kapanisDelta yeni.direction yeni.amount = 0
    · simp [hne] at h
    · rw [if_pos hne] at h
      cases hg : hedefHesap db userId onceki w with
      | none => simp [hg] at h
      | some g =>
        obtain rfl : g.1 = k := by simpa [hg, hne] using h
        exact ⟨hpaid, by rw [hedefHesap_row hg]; rfl⟩
  · simp [senkronizeNakit, hpaid] at h

/-- The synchroniser moves every balance by the difference of the two legs. -/
theorem borcAcigi_senkronize {acilis : ℕ → ℚ} (hduzen : SatirDuzeni db.accounts eski) {d : Db} {k : ℕ}
    (hd : (d.accounts.get? k).isSome = (db.accounts.get? k).isSome) :
    borcAcigi acilis (d.writeAll (senkronizeNakit db userId yeni (.oku eski) w).writes) k =
      borcAcigi acilis d k + borcKatkisi db { yeni with settlementAccountId :=
          (senkronizeNakit db userId yeni (.oku eski) w).settlementAccountId } k - borcKatkisi db eski k := by
  have hiz := eskiHesap_iz hduzen
  have heski : hesapPayi d (eskiHesap db (.oku eski))
      (if (eskiHesap db (.oku eski)).isSome then kapanisDelta eski.direction eski.amount else 0) k =
      borcKatkisi db eski k := by
    unfold hesapPayi borcKatkisi
    rw [hd, ← hiz]
    cases eskiHesap db (.oku eski) <;> simp
  simp only [senkronizeNakit, borcAcigi_ayak]
  rw [show (KapanisDurumu.oku eski).direction = eski.direction from rfl,
    show (KapanisDurumu.oku eski).amount = eski.amount from rfl, heski]
  congr 2
  -- the new leg, in the two cases of a reached and an unreachable account
  by_cases hist : (if yeni.isPaid then kapanisDelta yeni.direction yeni.amount else 0) = 0
  · simp [hist, hesapPayi, borcKatkisi]
  · have hpaid : yeni.isPaid = true := by
      by_contra hn
      simp [hn] at hist
    rw [if_pos hpaid] at hist ⊢
    rw [if_pos hist]
    cases hedefHesap db userId (.oku eski) w with
    | none => simp [hesapPayi, borcKatkisi]
    | some g => simp [hesapPayi, borcKatkisi, hist, hd]

end Settlement

private theorem satir_congr {a b : Table Account} (h : ∀ k, (a.get? k).isSome = (b.get? k).isSome)
    {debt : PersonalDebt} (hs : SatirDuzeni b debt) : SatirDuzeni a debt :=
  ⟨hs.tarih, hs.odenmis, fun k hk => (h k).trans (hs.hesap k hk)⟩

private theorem borcKatkisi_congr {d e : Db} {k : ℕ}
    (h : (d.accounts.get? k).isSome = (e.accounts.get? k).isSome) (debt : PersonalDebt) :
    borcKatkisi d debt k = borcKatkisi e debt k := by
  rw [borcKatkisi, borcKatkisi, h]

theorem borcDuzeni_iff {acilis : ℕ → ℚ} {db : Db} : BorcDuzeni acilis db ↔
    (∀ id d, db.debts.get? id = some d → SatirDuzeni db.accounts d) ∧ ∀ k, borcAcigi acilis db k = 0 := by
  constructor
  · intro h
    exact ⟨h.satir, hesapAcigi_eq_zero.mpr h.bakiye⟩
  · rintro ⟨hs, hb⟩
    exact ⟨hs, hesapAcigi_eq_zero.mp hb⟩

/-- Rewriting a debt row together with its synchronised leg keeps the books. -/
theorem borcDuzeni_yaz {acilis : ℕ → ℚ} {db : Db} (h : BorcDuzeni acilis db) {id userId : ℕ} {w : Option ℕ}
    {eski yeni : PersonalDebt} (hg : db.debts.get? id = some eski)
    (htarih : yeni.isPaid = yeni.paidDate.isSome) {f : PersonalDebt → PersonalDebt}
    (hf : f eski = { yeni with settlementAccountId :=
      (senkronizeNakit db userId yeni (.oku eski) w).settlementAccountId }) :
    BorcDuzeni acilis (db.writeAll (.debt (.update id f) ::
      (senkronizeNakit db userId yeni (.oku eski) w).writes)) := by
  rw [borcDuzeni_iff] at h ⊢
  obtain ⟨hs, hb⟩ := h
  rw [writeAll_cons]
  have hlegs : ∀ x ∈ (senkronizeNakit db userId yeni (.oku eski) w).writes, ∃ id q, x = bakiyeEkle id q :=
    ayak_writes
  obtain ⟨hrows, hsome⟩ := ayak_frame hlegs (db.write (.debt (.update id f)))
  constructor
  · intro j d hj
    rw [hrows] at hj
    refine satir_congr hsome ?_
    simp only [Db.write, Table.change, Table.get?_modify] at hj
    split at hj
    · next hjid =>
      rw [hjid, hg, Option.map_some, Option.some.injEq, hf] at hj
      rw [← hj]
      exact ⟨htarih, fun k hk => (senkronize_iz hk).1, fun k hk => (senkronize_iz hk).2⟩
    · exact hs j d hj
  · intro k
    have hd : ((db.write (.debt (.update id f))).accounts.get? k).isSome = (db.accounts.get? k).isSome := rfl
    rw [borcAcigi_senkronize (hs id eski hg) hd, borcAcigi_update hg, hf, hb k]
    ring

/-- Taking a debt away together with its leg keeps the books. -/
theorem borcDuzeni_sil {acilis : ℕ → ℚ} {db : Db} (h : BorcDuzeni acilis db) {id userId : ℕ} {w : Option ℕ}
    {debt : PersonalDebt} (hg : db.debts.get? id = some debt) :
    BorcDuzeni acilis (db.writeAll ((senkronizeNakit db userId
      { debt with isPaid := false, paidDate := none } (.oku debt) w).writes ++ [.debt (.delete id)])) := by
  rw [borcDuzeni_iff] at h ⊢
  obtain ⟨hs, hb⟩ := h
  have hlegs : ∀ x ∈ (senkronizeNakit db userId { debt with isPaid := false, paidDate := none }
      (.oku debt) w).writes, ∃ id q, x = bakiyeEkle id q := ayak_writes
  obtain ⟨hrows, hsome⟩ := ayak_frame hlegs db
  have hiz : (senkronizeNakit db userId { debt with isPaid := false, paidDate := none }
      (.oku debt) w).settlementAccountId = none := by simp [senkronizeNakit]
  rw [writeAll_append, writeAll_cons, writeAll_nil]
  constructor
  · intro j d hj
    simp only [Db.write, Table.change, Table.get?_erase, hrows] at hj
    split at hj
    · cases hj
    · exact satir_congr hsome (hs j d hj)
  · intro k
    have hrow := hrows.symm ▸ hg
    rw [borcAcigi_delete hrow, borcAcigi_senkronize (hs id debt hg) rfl, hiz,
      borcKatkisi_congr (e := db) (hsome k), hb k]
    simp [borcKatkisi]

/-- Panel operations on debts, new proposals and approvals of the coach's debt payments. -/
inductive BorcIslemi where
  | olustur (istek : Istek) (payload : DebtCreate)
  | guncelle (istek : Istek) (debtId : ℤ) (payload : DebtUpdate)
  | sil (istek : Istek) (debtId : ℤ)
  | oner (pending : PendingAction)
  | onayla (ariza : Ariza) (actionId userId : ℕ)

/-- An approval counts as a step here when the action marks a debt paid. -/
def borcAdimi (bugun : ℕ → Date) (db : Db) : BorcIslemi → Db
  | .olustur istek payload => sonuc db (createDebt istek payload)
  | .guncelle istek debtId payload => sonuc db (updateDebt db istek debtId payload)
  | .sil istek debtId => sonuc db (deleteDebt db istek debtId)
  | .oner pending => db.write (.pendingAction (.insert pending))
  | .onayla ariza actionId userId =>
    if (kendiAksiyonu db actionId userId).map PendingAction.actionType = some .markDebtPaid then
      (executePendingAction ariza bugun db actionId userId).2
    else db

private theorem borcDuzeni_congr {acilis : ℕ → ℚ} {d e : Db} (h : Defter.oku d = Defter.oku e)
    (he : BorcDuzeni acilis e) : BorcDuzeni acilis d := by
  have ha : d.accounts = e.accounts := congrArg Defter.accounts h
  have hd : d.debts = e.debts := congrArg Defter.debts h
  refine ⟨fun id debt hg => ?_, fun k a hk => ?_⟩
  · exact satir_congr (fun k => by rw [ha]) (he.satir id debt (hd ▸ hg))
  · rw [he.bakiye k a (ha ▸ hk), kapanisToplami, kapanisToplami, hd]

/-- One operation keeps the books, whatever fields it sends and whatever fails on the way. -/
theorem borcDuzeni_adim {acilis : ℕ → ℚ} {bugun : ℕ → Date} {db : Db} (h : BorcDuzeni acilis db)
    (islem : BorcIslemi) : BorcDuzeni acilis (borcAdimi bugun db islem) := by
  cases islem with
  | olustur istek payload =>
    rcases sonuc_cases db (createDebt istek payload) with he | ⟨ws, hws, he, _⟩
    · rw [borcAdimi, he]
      exact h
    · obtain ⟨debt, rfl, hpaid, hdate, hiz⟩ := createDebt_ok hws
      rw [borcAdimi, he, writeAll_cons, writeAll_nil]
      rw [borcDuzeni_iff] at h ⊢
      constructor
      · intro j d hj
        simp only [Db.write, Table.change, Table.get?_push] at hj
        split at hj
        · obtain rfl := Option.some.inj hj
          exact ⟨by rw [hpaid, hdate]; rfl, by simp [hiz], by simp [hiz]⟩
        · exact h.1 j d hj
      · intro k
        rw [borcAcigi_insert, h.2 k]
        simp [borcKatkisi, hiz]
  | guncelle istek debtId payload =>
    rcases sonuc_cases db (updateDebt db istek debtId payload) with he | ⟨ws, hws, he, _⟩
    · rw [borcAdimi, he]
      exact h
    · obtain ⟨id, eski, yeni, hg, hy, rfl⟩ := updateDebt_ok hws
      rw [borcAdimi, he]
      exact borcDuzeni_yaz h hg (guncelBorc_ok hy (h.satir id eski hg).tarih).2.2 rfl
  | sil istek debtId =>
    rcases sonuc_cases db (deleteDebt db istek debtId) with he | ⟨ws, hws, he, _⟩
    · rw [borcAdimi, he]
      exact h
    · obtain ⟨id, debt, hg, rfl⟩ := deleteDebt_ok hws
      rw [borcAdimi, he]
      exact borcDuzeni_sil h hg
  | oner pending =>
    exact ⟨h.satir, h.bakiye⟩
  | onayla ariza actionId userId =>
    rw [borcAdimi]
    split
    · next htype =>
      rcases execute_cases ariza bugun db actionId userId with
        ⟨_, _, hd⟩ | ⟨pending, p, ws, _, happ, hd, _⟩
      · exact borcDuzeni_congr hd h
      · obtain ⟨hr, hacc, _⟩ := applies_iff_accepted.mp happ
        rw [hr.aksiyon, Option.map_some, Option.some.injEq] at htype
        rw [htype] at hacc
        refine borcDuzeni_congr hd ?_
        cases hacc with
        | borc id debt tarih hp =>
          exact borcDuzeni_yaz h (findById_eq_some.mp hp.borc).2.1 rfl rfl
    · exact h

/-- From no debts and any balances, the cash leg of debts is exact in every reachable state: a debt
is paid exactly when it has a payment date, only a paid debt points to an account, and every balance
is its starting balance plus the legs of the debts that point to it. -/
theorem debt_legs_exact (bugun : ℕ → Date) (db : Db) (islemler : List BorcIslemi) :
    BorcDuzeni (bakiyeOku db) (run (borcAdimi bugun) { db with debts := .empty } islemler) := by
  have hstart : BorcDuzeni (bakiyeOku db) { db with debts := .empty } := by
    constructor
    · intro id d hg
      rw [Table.get?_empty] at hg
      cases hg
    · intro k a ha
      simp [bakiyeOku, show db.accounts.get? k = some a from ha, kapanisToplami]
  exact run_invariant_all (fun d islem (hd : BorcDuzeni (bakiyeOku db) d) => borcDuzeni_adim hd islem)
    islemler hstart

end FinancialOs.Guarantees
