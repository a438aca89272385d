import FinancialOs.Executor.ExecutedActions
import FinancialOs.Guarantees.ForecastCalendar
import FinancialOs.Guarantees.ProposalIntegrity
import FinancialOs.Routers.RecurringTriggers
import FinancialOs.Rules.CockpitFigures

/-! A recurring item that is due, from its trigger to its approval: the mark takes it out of what is
expected, and no balance takes it in. -/
namespace FinancialOs.Guarantees
open Library Store Rules Executor Routers

section Triggers
variable {k : TeklifKurallari} {production : Bool} {db : Db} {userId actionId id : ℕ} {wsId : Option ℕ}
  {kind : RecurringKind} {kasa : Option ℕ} {bugun : Date} {r : Recurring}

/-- A transaction of a day that does not ask for the balance to be moved. -/
structure BakiyesizOneri (bugun : Date) (a : PendingAction) : Prop where
  tip : a.actionType = .addTransaction
  durum : a.status = .pending
  payload : ∃ p, a.payload = .object p ∧ p.get .autoUpdateBalance = .none ∧
    p.get .transactionDate = .str bugun.isoformat

/-- A validated payload says nothing about the balance where the proposal does not. -/
theorem dogrula_islem {cevirim : Cevirim} {p q : Payload} (h : dogrula cevirim .addTransaction p = .ok q)
    (hbakiye : p.lookup .autoUpdateBalance = none) {tarih : String} (hiso : (Date.fromIso? tarih).isSome = true)
    (htarih : p.lookup .transactionDate = some (.str tarih)) :
    q.lookup .autoUpdateBalance = none ∧ q.lookup .transactionDate = some (.str tarih) := by
  obtain ⟨alanlar, hs, -, -, rfl⟩ := dogrula_ok.mp h
  have hb : opsiyonel .autoUpdateBalance .mantik ∈ alanlar := by
    cases hs
    simp
  have ht : opsiyonel .transactionDate .tarih ∈ alanlar := by
    cases hs
    simp
  have hlb := lookup_alanlar (f := fun a => (alanSonucu cevirim .addTransaction p a).join) (semalar_nodup hs) hb
  have hlt := lookup_alanlar (f := fun a => (alanSonucu cevirim .addTransaction p a).join) (semalar_nodup hs) ht
  have hyok : alanSonucu cevirim .addTransaction p (opsiyonel .autoUpdateBalance .mantik) = some none :=
    alanSonucu_yok hbakiye rfl
  have hvar : alanSonucu cevirim .addTransaction p (opsiyonel .transactionDate .tarih) =
      some (some (.str tarih)) :=
    alanSonucu_var (v := .str tarih) htarih hiso
  rw [hyok] at hlb
  rw [hvar] at hlt
  exact ⟨hlb, hlt⟩

/-- What a trigger proposes never asks for the balance to be moved. -/
theorem duzenliOneri_bakiyesiz {ws : List Write} {kaynak : Option (ℕ × RecurringKind)}
    (h : oneriYaz k db none "" { duzenliOneri kind userId kasa bugun r with kaynak := kaynak } = .ok ws) :
    ∃ a, ws = [.pendingAction (.insert a)] ∧ BakiyesizOneri bugun a := by
  have htip : (duzenliOneri kind userId kasa bugun r).actionType = .addTransaction := by
    cases kind <;> rfl
  have hbakiye : (duzenliOneri kind userId kasa bugun r).payload.lookup .autoUpdateBalance = none := by
    cases kind <;> rfl
  have htarih : (duzenliOneri kind userId kasa bugun r).payload.lookup .transactionDate =
      some (.str bugun.isoformat) := by
    cases kind <;> rfl
  simp only [oneriYaz, bind_eq_ok, within_eq_ok, proposeAction, metinDenetimi, stopIf_eq_ok, exists_const,
    htip, ne_eq, not_true_eq_false, if_false, pure_eq_ok] at h
  obtain ⟨-, p, hp, -, -, q, ⟨-, -, -, -, -, hq⟩, rfl⟩ := h
  obtain ⟨yon, -, rfl⟩ := normalize_ok.mp hq
  obtain ⟨hpb, hpt⟩ := dogrula_islem hp hbakiye (by rw [Date.fromIso?_isoformat]; rfl) htarih
  refine ⟨_, rfl, rfl, rfl, _, rfl, ?_⟩
  cases yon with
  | none => simp [Payload.get, hpb, hpt]
  | some y =>
    simp only [Option.elim_some, Payload.get, lookup_kartli (k := .autoUpdateBalance) rfl,
      lookup_kartli (k := .transactionDate) rfl, hpb, hpt, Option.getD_none, Option.getD_some, and_self]

/-- What a trigger leaves behind: more proposals of its day that move no balance, and nothing else. -/
structure TetikSonrasi (bugun : Date) (db db' : Db) : Prop where
  digerleri : aksiyonsuz db' = aksiyonsuz db
  oneriler : ∀ a p, db'.pendingActions.get? a = some p →
    db.pendingActions.get? a = some p ∨ BakiyesizOneri bugun p

theorem tetikSonrasi_refl (bugun : Date) (db : Db) : TetikSonrasi bugun db db := ⟨rfl, fun _ _ h => .inl h⟩

theorem TetikSonrasi.trans {db' db'' : Db} (h : TetikSonrasi bugun db db') (h' : TetikSonrasi bugun db' db'') :
    TetikSonrasi bugun db db'' := by
  refine ⟨h'.digerleri.trans h.digerleri, fun a p hp => ?_⟩
  rcases h'.oneriler a p hp with hp' | hyeni
  · exact h.oneriler a p hp'
  · exact .inr hyeni

theorem tetikSonrasi_kayit : TetikSonrasi bugun db (tetikleKayit k userId kind kasa bugun db id) := by
  unfold tetikleKayit
  split
  · exact tetikSonrasi_refl bugun db
  · next r _ =>
    split
    · rcases sonuc_cases db (oneriYaz k db none "" { duzenliOneri kind userId kasa bugun r with
          kaynak := some (id, kind) }) with he | ⟨ws, hws, he, -⟩
      · rw [he]
        exact tetikSonrasi_refl bugun db
      · obtain ⟨a, rfl, ha⟩ := duzenliOneri_bakiyesiz hws
        rw [he]
        refine ⟨rfl, fun b p hp => ?_⟩
        simp only [writeAll_cons, writeAll_nil, Db.write, Table.change, Table.get?_push] at hp
        split at hp
        · cases hp
          exact .inr ha
        · exact .inl hp
    · exact tetikSonrasi_refl bugun db

theorem tetikSonrasi_kayitlar (ids : List ℕ) :
    TetikSonrasi bugun db (ids.foldl (tetikleKayit k userId kind kasa bugun) db) := by
  induction ids generalizing db with
  | nil => exact tetikSonrasi_refl bugun db
  | cons id ids ih => exact tetikSonrasi_kayit.trans ih

theorem tetikSonrasi_triggerDue {x : Option ℤ} :
    TetikSonrasi bugun db (triggerDue k production db userId x kind bugun).2 := by
  unfold triggerDue
  split
  · exact tetikSonrasi_refl bugun db
  · dsimp only
    split
    · exact tetikSonrasi_refl bugun db
    · exact tetikSonrasi_kayitlar _

end Triggers

section Approvals
variable {k : TeklifKurallari} {production : Bool} {p : PanelDb} {userId id actionId : ℕ} {wsId : Option ℕ}
  {x y : Option ℤ} {gelir : Bool} {bugun : Date} {r : Recurring} {ariza : Ariza} {gun : ℕ → Date} {son : Db}

/-- A record of the scope that is due today and not yet triggered this month is triggered, and the
proposal is approved as it stands and ends `executed`; the two requests may name different workspaces. -/
structure Onaylanan (k : TeklifKurallari) (production : Bool) (p : PanelDb) (userId : ℕ) (wsId : Option ℕ)
    (x y : Option ℤ) (gelir : Bool) (bugun : Date) (id : ℕ) (r : Recurring) (ariza : Ariza) (gun : ℕ → Date)
    (actionId : ℕ) (son : Db) : Prop where
  kapi : aksiyonKapisi production p.db userId x = .ok wsId
  kayit : (id, r) ∈ etkinKayitlar (kayitlar p.db gelir) userId wsId
  vade : min r.dayOfMonth (daysInMonth bugun.year bugun.month) = bugun.day
  tetiklenmemis : r.lastTriggeredYearMonth ≠ some (yilAy bugun)
  nakitGider : gelir = false → ∃ accountId a, r.accountId = some accountId ∧
    p.db.accounts.get? accountId = some a ∧ a.accountType = .cash ∧ a.isEmanet = false
  yeni : p.db.pendingActions.get? actionId = none
  kaynak : ∃ a, (triggerDue k production p.db userId x (tetikTuru gelir) bugun).2.pendingActions.get? actionId =
    some a ∧ a.sourceRecurringId = some id ∧ a.sourceRecurringType = some (tetikTuru gelir)
  onay : son = (approveAction production ariza gun
    (triggerDue k production p.db userId x (tetikTuru gelir) bugun).2 userId y actionId).2
  yurutuldu : durumu son actionId = some .executed

/-- A record with a month's mark. -/
def isaretli (ym : String) (r : Recurring) : Recurring := { r with lastTriggeredYearMonth := some ym }

theorem kayitlar_eq (db : Db) (gelir : Bool) : kayitlar db gelir = duzenliler db (tetikTuru gelir) := by
  cases gelir <;> rfl

theorem kayitlar_congr {db db' : Db} (h : aksiyonsuz db' = aksiyonsuz db) : kayitlar db' gelir = kayitlar db gelir := by
  have hortak := congrArg (fun d => kayitlar d gelir) h
  cases gelir <;> exact hortak

/-- The mark reaches the records of the user who has the action. -/
theorem mark_eq {db : Db} {a : PendingAction} {payload : Payload} (hid : a.sourceRecurringId = some id)
    (ht : a.sourceRecurringType = some (tetikTuru gelir)) (hr : (kayitlar db gelir).get? id = some r) :
    markRecurringTriggered db bugun a payload =
      if r.userId = a.userId then [isaretYaz gelir id (tetikAyi bugun payload)] else [] := by
  rw [kayitlar_eq] at hr
  split
  · next hu => exact markRecurringTriggered_eq hid ht hr hu
  · next hu =>
    have hyok (t : Table Recurring) (hrow : t.get? id = some r) : kaynakKaydi t id a.userId = none := by
      simp [kaynakKaydi, hrow, hu]
    cases gelir with
    | true => simp [markRecurringTriggered, hid, ht, tetikTuru, hyok db.incomes hr]
    | false => simp [markRecurringTriggered, hid, ht, tetikTuru, hyok db.expenses hr]

/-- The month that the proposal's date names. -/
theorem tetikAyi_isoformat {gun bugun : Date} {payload : Payload}
    (h : payload.get .transactionDate = .str bugun.isoformat) :
    tetikAyi gun payload = Date.padded 4 bugun.year ++ "-" ++ Date.padded 2 bugun.month := by
  obtain ⟨hlen, htake⟩ := Date.take_isoformat bugun
  rw [tetikAyi, h]
  simp only [hlen, if_true, htake]

/-- A proposal that does not ask for it moves no balance. -/
theorem BakiyesizOneri.writes {a : PendingAction} {db : Db} {payload : Payload} {ws : List Write}
    (ha : BakiyesizOneri bugun a) (h : Applies gun db actionId userId a payload ws) :
    ∃ txn, ws = [.transaction (.insert txn)] := by
  obtain ⟨q, hq, hbakiye, -⟩ := ha.payload
  obtain rfl : q = payload := by simpa [hq] using h.payload
  have hacc := accepted_iff.mp h.handler
  rw [ha.tip] at hacc
  cases hacc with
  | islem hesap txn hentry =>
    have hbacak : bakiyeBacagi q hesap txn.transactionType txn.amount = none := by
      unfold bakiyeBacagi
      cases hesap with
      | none => rfl
      | some g => simp [hbakiye, PyValue.truthy]
    rw [hbacak]
    exact ⟨txn, rfl⟩

/-- The database behind the approval: a transaction more, and the record's mark where the record is the
user's own. -/
theorem Onaylanan.writes (h : Onaylanan k production p userId wsId x y gelir bugun id r ariza gun actionId son) :
    ∃ txn, aksiyonsuz son = aksiyonsuz (p.db.writeAll (.transaction (.insert txn) ::
      if r.userId = userId then
        [isaretYaz gelir id (Date.padded 4 bugun.year ++ "-" ++ Date.padded 2 bugun.month)]
      else [])) := by
  obtain ⟨a, ha, hid, htype⟩ := h.kaynak
  have htetik : TetikSonrasi bugun p.db (triggerDue k production p.db userId x (tetikTuru gelir) bugun).2 :=
    tetikSonrasi_triggerDue
  have honay := h.onay
  generalize (triggerDue k production p.db userId x (tetikTuru gelir) bugun).2 = db at ha htetik honay
  have hbak : BakiyesizOneri bugun a := by
    refine (htetik.oneriler actionId a ha).resolve_left fun hvar => ?_
    rw [h.yeni] at hvar
    cases hvar
  have hb : durumu db actionId ≠ some .executed := by
    simp [durumu, ha, hbak.durum]
  have hyur := h.yurutuldu
  rcases approveAction_db production ariza gun db userId y actionId with he | ⟨-, he⟩
  · rw [honay, he] at hyur
    exact absurd hyur hb
  · rw [honay, he] at hyur
    obtain ⟨pending, payload, ws, happ, hson⟩ := executed_db hb hyur
    obtain ⟨hget, hsahip⟩ := kendiAksiyonu_eq_some.mp happ.aksiyon
    obtain rfl : a = pending := by simpa [ha] using hget
    obtain ⟨txn, rfl⟩ := hbak.writes happ
    obtain ⟨q, hq, -, htarih⟩ := hbak.payload
    obtain rfl : q = payload := by simpa [hq] using happ.payload
    refine ⟨txn, ?_⟩
    have hrow : (kayitlar db gelir).get? id = some r := by
      rw [kayitlar_congr htetik.digerleri]
      exact (mem_etkinKayitlar.mp h.kayit).1
    rw [honay, he, hson, mark_eq hid htype hrow, tetikAyi_isoformat htarih, hsahip]
    generalize (if r.userId = userId then
      [isaretYaz gelir id (Date.padded 4 bugun.year ++ "-" ++ Date.padded 2 bugun.month)] else []) = isaret
    calc
      _ = aksiyonsuz (((db.write (durumYaz actionId .approved)).writeAll [.transaction (.insert txn)]).writeAll
          isaret) := by
        rw [writeAll_append]
        exact aksiyonsuz_writeAll (aksiyonsuz_durumYaz _ _ _) isaret
      _ = aksiyonsuz ((db.write (durumYaz actionId .approved)).writeAll (.transaction (.insert txn) :: isaret)) := rfl
      _ = _ := aksiyonsuz_writeAll ((aksiyonsuz_durumYaz _ _ _).trans htetik.digerleri) _

theorem Onaylanan.kayitlar_son
    (h : Onaylanan k production p userId wsId x y gelir bugun id r ariza gun actionId son) (g : Bool) :
    kayitlar son g = if r.userId = userId ∧ g = gelir then
      (kayitlar p.db g).modify id
        (isaretli (Date.padded 4 bugun.year ++ "-" ++ Date.padded 2 bugun.month))
    else kayitlar p.db g := by
  obtain ⟨txn, hw⟩ := h.writes
  rw [kayitlar_congr hw]
  by_cases hu : r.userId = userId
  · simp only [hu, if_true, true_and]
    cases g <;> cases gelir <;> rfl
  · simp only [hu, if_false, false_and]
    cases g <;> rfl

/-- The approval moves no account and settles no debt. -/
theorem Onaylanan.hesaplar_son
    (h : Onaylanan k production p userId wsId x y gelir bugun id r ariza gun actionId son) :
    son.accounts = p.db.accounts ∧ son.debts = p.db.debts := by
  obtain ⟨txn, hw⟩ := h.writes
  have haccounts := congrArg Db.accounts hw
  have hdebts := congrArg Db.debts hw
  split at haccounts
  · next hu =>
    rw [if_pos hu] at hdebts
    cases gelir <;> exact ⟨haccounts, hdebts⟩
  · next hu =>
    rw [if_neg hu] at hdebts
    exact ⟨haccounts, hdebts⟩

end Approvals

section Readings
variable {p : PanelDb} {userId id : ℕ} {wsId : Option ℕ} {bugun : Date} {r : Recurring} {gelir : Bool}
  {kartlar : List ℕ}

/-- The sum of a weight over the active records of a kind in the scope. -/
def kayitToplami (t : Table Recurring) (userId : ℕ) (wsId : Option ℕ) (w : Recurring → ℚ) : ℚ :=
  ((etkinKayitlar t userId wsId).map fun r => w r.2).sum

/-- What the debts and the accounts put into the calendar. -/
def digerEtkiler (p : PanelDb) (userId : ℕ) (wsId : Option ℕ) (bugun : Date) : ℚ :=
  (((kapsamSatirlari p.db.debts userId wsId).flatMap (borcKalemiTakvimi bugun.monthDay)).map TakvimKalemi.etki).sum +
    (((borcHesaplari p.db userId wsId).flatMap (hesapKalemi bugun.monthDay p.hesapEki)).map TakvimKalemi.etki).sum

theorem sum_etki_hamKalemler :
    ((hamKalemler p userId wsId bugun).map TakvimKalemi.etki).sum =
      kayitToplami p.db.incomes userId wsId (kayitEtkisi (kartHesapIdleri p userId wsId) true bugun) +
        kayitToplami p.db.expenses userId wsId (kayitEtkisi (kartHesapIdleri p userId wsId) false bugun) +
        digerEtkiler p userId wsId bugun := by
  have hkayit (g : Bool) : (((etkinKayitlar (kayitlar p.db g) userId wsId).flatMap
      (kayitKalemi g bugun (kartHesapIdleri p userId wsId))).map TakvimKalemi.etki).sum =
      kayitToplami (kayitlar p.db g) userId wsId (kayitEtkisi (kartHesapIdleri p userId wsId) g bugun) := by
    rw [sum_flatMap_eq]
    exact congrArg List.sum (List.map_congr_left fun r _ => sum_kayitKalemi g _ r)
  have hgelir : (((etkinKayitlar p.db.incomes userId wsId).flatMap (gelirKalemi bugun)).map
      TakvimKalemi.etki).sum = _ := hkayit true
  have hgider : (((etkinKayitlar p.db.expenses userId wsId).flatMap
      (giderKalemi bugun (kartHesapIdleri p userId wsId))).map TakvimKalemi.etki).sum = _ := hkayit false
  simp only [hamKalemler, List.map_append, List.sum_append, digerEtkiler, ← add_assoc, hgelir, hgider]
  rfl

/-- What the expectation counts of an income. -/
def beklenenTutar (bugun : Date) (r : Recurring) : ℚ :=
  if r.lastTriggeredYearMonth ≠ some (yilAy bugun) ∧ bugun.day ≤ min r.dayOfMonth (monthLength bugun.monthDay.month)
  then r.amount else 0

theorem sum_beklenenler : ((beklenenler p userId wsId bugun).map fun r => r.2.amount).sum =
    kayitToplami p.db.incomes userId wsId (beklenenTutar bugun) := by
  rw [beklenenler, sum_filter_eq]
  simp only [decide_eq_true_eq]
  rfl

theorem kayitToplami_isaretli {t : Table Recurring} (h : (id, r) ∈ etkinKayitlar t userId wsId) (ym : String)
    (w : Recurring → ℚ) : kayitToplami (t.modify id (isaretli ym)) userId wsId w =
      kayitToplami t userId wsId w - w r + w (isaretli ym r) := by
  obtain ⟨hget, hscope, haktif⟩ := mem_etkinKayitlar.mp h
  exact Table.sum_select_modify hget (decide_eq_true ⟨hscope, haktif⟩) (decide_eq_true ⟨hscope, haktif⟩) w

theorem kayitEtkisi_isaretli (ym : String) (hr : r.lastTriggeredYearMonth ≠ some (yilAy bugun)) :
    kayitEtkisi kartlar gelir bugun (isaretli ym r) =
      if ym = yilAy bugun then 0 else kayitEtkisi kartlar gelir bugun r := by
  by_cases hym : ym = yilAy bugun
  · simp [kayitEtkisi, sayilir, isaretli, hym]
  · simp [kayitEtkisi, sayilir, isaretli, hym, hr]

theorem beklenenTutar_isaretli (ym : String) (hr : r.lastTriggeredYearMonth ≠ some (yilAy bugun)) :
    beklenenTutar bugun (isaretli ym r) = if ym = yilAy bugun then 0 else beklenenTutar bugun r := by
  by_cases hym : ym = yilAy bugun
  · simp [beklenenTutar, isaretli, hym]
  · simp [beklenenTutar, isaretli, hym, hr]

/-- Taking an amount out of a total does not show where the total is in whole kuruş. -/
def Yutulur (toplam tutar : ℚ) : Prop := roundEven (toplam - tutar) 2 = roundEven toplam 2

end Readings

theorem yutulur_le {toplam tutar : ℚ} (h : Yutulur toplam tutar) : |tutar| ≤ 1 / 100 := by
  have hsonra := abs_le.mp (abs_roundEven_sub_le (toplam - tutar) 2)
  have honce := abs_le.mp (abs_roundEven_sub_le toplam 2)
  rw [Yutulur] at h
  rw [h] at hsonra
  rw [abs_le]
  constructor <;> linarith [hsonra.1, hsonra.2, honce.1, honce.2]

section Counting
variable {k : TeklifKurallari} {production : Bool} {p : PanelDb} {userId id actionId : ℕ} {wsId : Option ℕ}
  {x y : Option ℤ} {gelir : Bool} {bugun : Date} {r : Recurring} {ariza : Ariza} {gun : ℕ → Date} {son : Db}

/-- The month's end shows what it showed, and for an income the cash and the expectation together do. -/
def BirKezSayildi (p q : PanelDb) (userId : ℕ) (wsId : Option ℕ) (bugun : Date) (gelir : Bool) : Prop :=
  (calculateNakitTakvimi q userId wsId bugun).aySonuBakiye =
      (calculateNakitTakvimi p userId wsId bugun).aySonuBakiye ∧
    (gelir = true →
      nakitToplami q.db userId wsId + (calculateExpectedIncomeUntilEom q userId wsId bugun).1 =
        nakitToplami p.db userId wsId + (calculateExpectedIncomeUntilEom p userId wsId bugun).1)

/-- The amount of a record is too small to show in the totals it is taken from. -/
def GozdenKacar (p : PanelDb) (userId : ℕ) (wsId : Option ℕ) (bugun : Date) (gelir : Bool) (r : Recurring) : Prop :=
  Yutulur (nakitToplami p.db userId wsId + ((hamKalemler p userId wsId bugun).map TakvimKalemi.etki).sum)
      (yonlu gelir (roundEven (max 0 r.amount) 2)) ∧
    (gelir = true → Yutulur ((beklenenler p userId wsId bugun).map fun inc => inc.2.amount).sum r.amount)

/-- The month of the mark is the calendar's month from the year 1000 on. -/
theorem ay_eq_yilAy (d : Date) :
    Date.padded 4 d.year ++ "-" ++ Date.padded 2 d.month = yilAy d ↔ 1000 ≤ d.year := by
  have hay : ∀ m < 13, 0 < m → Date.padded 2 m = (if m < 10 then "0" else "") ++ toString m := by decide +kernel
  have hm := d.month_range
  rw [yilAy, hay d.month (by omega) (by omega), ← String.toList_inj]
  simp only [String.toList_append, List.append_assoc]
  rw [List.append_cancel_right_eq, String.toList_inj, Date.padded_eq_toString (by decide)]
  rfl

theorem vade_bugun (hvade : min r.dayOfMonth (daysInMonth bugun.year bugun.month) = bugun.day) :
    bugun.monthDay ≤ vadeGunu bugun.monthDay.month r.dayOfMonth := by
  have hday := bugun.day_range
  rw [← Date.monthLength_monthDay] at hvade
  rw [MonthDay.le_iff]
  right
  change bugun.monthDay.month = bugun.monthDay.month ∧
    bugun.day ≤ min (max 1 r.dayOfMonth) (monthLength bugun.monthDay.month)
  omega

theorem Onaylanan.kayitEtkisi_eq
    (h : Onaylanan k production p userId wsId x y gelir bugun id r ariza gun actionId son) :
    kayitEtkisi (kartHesapIdleri p userId wsId) gelir bugun r = yonlu gelir (roundEven (max 0 r.amount) 2) := by
  have hsayilir : sayilir (kartHesapIdleri p userId wsId) gelir bugun r = true := by
    refine decide_eq_true ⟨h.tetiklenmemis, ?_⟩
    cases gelir with
    | true => exact .inl rfl
    | false =>
      obtain ⟨accountId, a, hacc, hget, htype, -⟩ := h.nakitGider rfl
      have hkart : accountId ∉ kartHesapIdleri p userId wsId := by
        intro hmem
        obtain ⟨⟨j, b⟩, hb, rfl⟩ := List.mem_map.mp hmem
        obtain ⟨hb, -, hkart⟩ := mem_turHesaplari.mp hb
        rw [hget, Option.some.injEq] at hb
        rw [← hb, htype] at hkart
        cases hkart
      right
      rw [hacc, giderYeri]
      exact if_neg hkart
  simp only [kayitEtkisi, hsayilir, true_and, vade_bugun h.vade, and_true]
  rcases le_or_gt r.amount 0 with hle | hpos
  · rw [if_neg hle.not_gt, max_eq_left hle, roundEven_zero]
    cases gelir <;> simp [yonlu]
  · rw [if_pos hpos, max_eq_right hpos.le]

theorem Onaylanan.beklenenTutar_eq
    (h : Onaylanan k production p userId wsId x y gelir bugun id r ariza gun actionId son) :
    beklenenTutar bugun r = r.amount := by
  have hvade := h.vade
  rw [← Date.monthLength_monthDay] at hvade
  exact if_pos ⟨h.tetiklenmemis, hvade.ge⟩

/-- A weight that a marked record does not have is lost from the records of its kind, if the mark is made. -/
theorem Onaylanan.kayitToplami_son
    (h : Onaylanan k production p userId wsId x y gelir bugun id r ariza gun actionId son) (g : Bool)
    {w : Recurring → ℚ} (hw : ∀ ym, w (isaretli ym r) = if ym = yilAy bugun then 0 else w r) :
    kayitToplami (kayitlar son g) userId wsId w = kayitToplami (kayitlar p.db g) userId wsId w -
      if (r.userId = userId ∧ 1000 ≤ bugun.year) ∧ g = gelir then w r else 0 := by
  rw [h.kayitlar_son g]
  by_cases hu : r.userId = userId ∧ g = gelir
  · obtain ⟨hu, rfl⟩ := hu
    rw [if_pos ⟨hu, rfl⟩, kayitToplami_isaretli h.kayit, hw]
    simp only [ay_eq_yilAy, hu, true_and, and_true]
    split <;> ring
  · have hn : ¬ ((r.userId = userId ∧ 1000 ≤ bugun.year) ∧ g = gelir) := fun hn => hu ⟨hn.1.1, hn.2⟩
    rw [if_neg hu, if_neg hn, sub_zero]

/-- The calendar loses what it counts of the record. -/
theorem Onaylanan.etki_son
    (h : Onaylanan k production p userId wsId x y gelir bugun id r ariza gun actionId son) :
    ((hamKalemler { p with db := son } userId wsId bugun).map TakvimKalemi.etki).sum =
      ((hamKalemler p userId wsId bugun).map TakvimKalemi.etki).sum -
        if r.userId = userId ∧ 1000 ≤ bugun.year then yonlu gelir (roundEven (max 0 r.amount) 2) else 0 := by
  obtain ⟨haccounts, hdebts⟩ := h.hesaplar_son
  have hkart : kartHesapIdleri { p with db := son } userId wsId = kartHesapIdleri p userId wsId := by
    unfold kartHesapIdleri turHesaplari
    rw [haccounts]
  have hdiger : digerEtkiler { p with db := son } userId wsId bugun = digerEtkiler p userId wsId bugun := by
    unfold digerEtkiler borcHesaplari
    rw [haccounts, hdebts]
  have htoplam (g : Bool) := h.kayitToplami_son g (w := kayitEtkisi (kartHesapIdleri p userId wsId) g bugun)
    fun ym => kayitEtkisi_isaretli ym h.tetiklenmemis
  have hgelir := htoplam true
  have hgider := htoplam false
  have hetki := h.kayitEtkisi_eq
  rw [sum_etki_hamKalemler, sum_etki_hamKalemler, hkart, hdiger]
  change kayitToplami (kayitlar son true) _ _ _ + kayitToplami (kayitlar son false) _ _ _ + _ =
    kayitToplami (kayitlar p.db true) _ _ _ + kayitToplami (kayitlar p.db false) _ _ _ + _ - _
  rw [hgelir, hgider]
  cases gelir with
  | true =>
    simp only [and_true, reduceCtorEq, and_false, if_false, sub_zero, hetki]
    ring
  | false =>
    simp only [and_true, reduceCtorEq, and_false, if_false, sub_zero, hetki]
    ring

theorem Onaylanan.beklenen_son
    (h : Onaylanan k production p userId wsId x y true bugun id r ariza gun actionId son) :
    ((beklenenler { p with db := son } userId wsId bugun).map fun inc => inc.2.amount).sum =
      ((beklenenler p userId wsId bugun).map fun inc => inc.2.amount).sum -
        if r.userId = userId ∧ 1000 ≤ bugun.year then r.amount else 0 := by
  rw [sum_beklenenler, sum_beklenenler]
  have htoplam := h.kayitToplami_son true (w := beklenenTutar bugun)
    fun ym => beklenenTutar_isaretli ym h.tetiklenmemis
  simp only [and_true, h.beklenenTutar_eq] at htoplam
  exact htoplam

/-- A recurring item that is due is lost when it is triggered and approved: what was expected is not counted
any more, and no balance has moved. It is kept only where the mark is not made, or does not name the month as
the calendar does, or where the amount does not show. -/
theorem counted_once_iff
    (h : Onaylanan k production p userId wsId x y gelir bugun id r ariza gun actionId son) :
    BirKezSayildi p { p with db := son } userId wsId bugun gelir ↔
      r.userId ≠ userId ∨ bugun.year < 1000 ∨ GozdenKacar p userId wsId bugun gelir r := by
  have hnakit : nakitToplami son userId wsId = nakitToplami p.db userId wsId := by
    rw [nakitToplami, h.hesaplar_son.1]
    rfl
  have hbeklenen : gelir = true → (calculateExpectedIncomeUntilEom { p with db := son } userId wsId bugun).1 =
      roundEven (((beklenenler p userId wsId bugun).map fun inc => inc.2.amount).sum -
        if r.userId = userId ∧ 1000 ≤ bugun.year then r.amount else 0) 2 := by
    rintro rfl
    exact congrArg (roundEven · 2) h.beklenen_son
  rw [BirKezSayildi, aySonuBakiye_eq, aySonuBakiye_eq, h.etki_son]
  simp only [hnakit, add_right_inj]
  by_cases hown : r.userId = userId ∧ 1000 ≤ bugun.year
  · have hn : ¬ bugun.year < 1000 := by omega
    simp only [hown, and_self, if_true, ne_eq, not_true_eq_false, false_or, hn] at hbeklenen ⊢
    rw [← add_sub_assoc]
    refine and_congr_right fun _ => forall_congr' fun hg => ?_
    rw [hbeklenen hg]
    rfl
  · have hr : r.userId ≠ userId ∨ bugun.year < 1000 := by
      by_contra hn
      rw [not_or, not_not, not_lt] at hn
      exact hown hn
    simp only [hown, if_false, sub_zero, true_and] at hbeklenen ⊢
    refine iff_of_true (fun hg => ?_) ?_
    · rw [hbeklenen hg]
      rfl
    · exact hr.elim .inl fun hy => .inr (.inl hy)

/-- Two kuruş show. -/
theorem GozdenKacar.amount_le (h : GozdenKacar p userId wsId bugun gelir r) : r.amount ≤ 3 / 200 := by
  have hround := (abs_le.mp (abs_roundEven_sub_le (max 0 r.amount) 2)).1
  have hle : r.amount ≤ max 0 r.amount := le_max_right 0 r.amount
  have hshow := yutulur_le h.1
  have habs : |yonlu gelir (roundEven (max 0 r.amount) 2)| = |roundEven (max 0 r.amount) 2| := by
    cases gelir with
    | true => rfl
    | false => exact abs_neg _
  rw [habs] at hshow
  have hself := le_abs_self (roundEven (max 0 r.amount) 2)
  linarith

end Counting

/-- A salary and a rent of the same day. -/
def maasVeKira : PanelDb where
  db := Db.empty.writeAll [
    .workspace (.insert ⟨1, true⟩),
    .membership (.insert ⟨1, 1, .owner⟩),
    .account (.insert ⟨1, some 1, "Vadesiz", .cash, 1000, none, none, none, none, none, none, none, false⟩),
    .income (.insert ⟨1, some 1, "Maaş", 500, none, none, 19, true, none⟩),
    .expense (.insert ⟨1, some 1, "Kira", 300, some 1, none, 19, true, none⟩)]
  hesapEki := fun _ => ⟨none, none, none, none⟩
  envelopes := .empty

def odemeGunu : Date := (Date.ofYmd? 2026 5 19).get rfl

def vadesiGelen (gelir : Bool) : Recurring :=
  if gelir then ⟨1, some 1, "Maaş", 500, none, none, 19, true, none⟩
  else ⟨1, some 1, "Kira", 300, some 1, none, 19, true, none⟩

/-- What the user's trigger and approval leave behind. -/
def maasVeKiraSonrasi (gelir : Bool) : Db :=
  (approveAction false Ariza.yok (fun _ => odemeGunu)
    (triggerDue yalinKurallar false maasVeKira.db 1 none (tetikTuru gelir) odemeGunu).2 1 none 1).2

theorem maasVeKira_onaylanan (gelir : Bool) : Onaylanan yalinKurallar false maasVeKira 1 (some 1) none none gelir
    odemeGunu 1 (vadesiGelen gelir) Ariza.yok (fun _ => odemeGunu) 1 (maasVeKiraSonrasi gelir) where
  kapi := by decide +kernel
  kayit := by cases gelir <;> decide +kernel
  vade := by cases gelir <;> decide +kernel
  tetiklenmemis := by cases gelir <;> decide +kernel
  nakitGider := fun hg => ⟨1, _, by rw [hg]; rfl, rfl, rfl, rfl⟩
  yeni := rfl
  kaynak := by
    have hvar : ((triggerDue yalinKurallar false maasVeKira.db 1 none (tetikTuru gelir)
        odemeGunu).2.pendingActions.get? 1).any (fun a => a.sourceRecurringId = some 1 ∧
          a.sourceRecurringType = some (tetikTuru gelir)) = true := by
      cases gelir <;> decide +kernel
    obtain ⟨a, ha, hkaynak⟩ := (Option.any_eq_true _ _).mp hvar
    exact ⟨a, ha, of_decide_eq_true hkaynak⟩
  onay := rfl
  yurutuldu := by cases gelir <;> decide +kernel

theorem counted_once_iff_maas :
    BirKezSayildi maasVeKira { maasVeKira with db := maasVeKiraSonrasi true } 1 (some 1) odemeGunu true ↔
      (vadesiGelen true).userId ≠ 1 ∨ odemeGunu.year < 1000 ∨
        GozdenKacar maasVeKira 1 (some 1) odemeGunu true (vadesiGelen true) :=
  counted_once_iff (maasVeKira_onaylanan true)

/-- Neither the salary nor the rent is counted any more, and the cash has not moved. -/
theorem triggered_items_were_lost :
    (Onaylanan yalinKurallar false maasVeKira 1 (some 1) none none true odemeGunu 1 (vadesiGelen true) Ariza.yok
        (fun _ => odemeGunu) 1 (maasVeKiraSonrasi true) ∧
      ¬ BirKezSayildi maasVeKira { maasVeKira with db := maasVeKiraSonrasi true } 1 (some 1) odemeGunu true) ∧
    Onaylanan yalinKurallar false maasVeKira 1 (some 1) none none false odemeGunu 1 (vadesiGelen false) Ariza.yok
        (fun _ => odemeGunu) 1 (maasVeKiraSonrasi false) ∧
      ¬ BirKezSayildi maasVeKira { maasVeKira with db := maasVeKiraSonrasi false } 1 (some 1) odemeGunu false := by
  have hkayip (gelir : Bool) :
      ¬ BirKezSayildi maasVeKira { maasVeKira with db := maasVeKiraSonrasi gelir } 1 (some 1) odemeGunu gelir := by
    intro h
    have hson := h.1
    rw [aySonuBakiye_eq, aySonuBakiye_eq] at hson
    revert hson
    cases gelir <;> decide +kernel
  exact ⟨⟨maasVeKira_onaylanan true, hkayip true⟩, maasVeKira_onaylanan false, hkayip false⟩

end FinancialOs.Guarantees
