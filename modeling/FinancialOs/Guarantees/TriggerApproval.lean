import FinancialOs.Executor.AccountEffects
import FinancialOs.Guarantees.ExpectedOnce
import FinancialOs.Guarantees.SummaryAgreement
import Mathlib.Tactic.IntervalCases

/-! What `trigger-due` proposes, and whether its approval carries it out: the proposal is stored in the personal
workspace of the user, wherever its record lives. -/
namespace FinancialOs.Guarantees
open Library Store Rules Executor Routers

/-- The payload that a record is proposed with. -/
def tetikPayload (k : TeklifKurallari) (db : Db) (userId : ℕ) (kind : RecurringKind) (kasa : Option ℕ) (bugun : Date)
    (r : Recurring) : Except PyError Payload := do
  let p ← dogrula k.cevirim .addTransaction (duzenliOneri kind userId kasa bugun r).payload
  normalizeTransactionPayload k db none userId p

/-- The account that a payload names in a scope. -/
def adiGecenHesap (db : Db) (userId : ℕ) (wsId : Option ℕ) (p : Payload) : Option (ℕ × Account) :=
  (findById db.accounts userId wsId (p.get .accountId)).toOption.join

/-- The action has ended `executed`, with a transaction in the workspace of its record. -/
def KendiYerinde (once son : Db) (actionId : ℕ) (r : Recurring) : Prop :=
  durumu son actionId = some .executed ∧
    ∃ txn, son.transactions = once.transactions.push txn ∧ txn.workspaceId = r.workspaceId

/-- In the user's personal workspace the account that is named is found and is not custodial, and no rule objects; and
the record is of that workspace, or where the user has none of the account's. -/
structure Yurutulebilir (db : Db) (userId : ℕ) (r : Recurring) (p : Payload) : Prop where
  hesap : p.get .accountId = .none ∨
    ∃ h, adiGecenHesap db userId (personalWorkspace db userId) p = some h ∧ h.2.isEmanet = false
  kurallar : enforceUserRules db userId .addTransaction (some p) (personalWorkspace db userId) = .ok none
  yer : r.workspaceId = yazmaWorkspaceId db (personalWorkspace db userId) userId
    ((adiGecenHesap db userId (personalWorkspace db userId) p).bind fun h => h.2.workspaceId)

/-- An action that `trigger-due` has created from a record. -/
structure TetikAksiyonu (k : TeklifKurallari) (db : Db) (userId : ℕ) (kind : RecurringKind) (kasa : Option ℕ)
    (bugun : Date) (a : PendingAction) (id : ℕ) (r : Recurring) (p : Payload) : Prop where
  kayit : (duzenliler db kind).get? id = some r
  icerik : tetikPayload k db userId kind kasa bugun r = .ok p
  sahip : a.userId = userId
  kapsam : a.workspaceId = personalWorkspace db userId
  tip : a.actionType = .addTransaction
  payload : a.payload = .object p
  durum : a.status = .pending
  kaynakId : a.sourceRecurringId = some id

section Creation
variable {k : TeklifKurallari} {production : Bool} {db db' : Db} {userId actionId id : ℕ} {wsId : Option ℕ}
  {kind : RecurringKind} {kasa : Option ℕ} {bugun : Date} {r : Recurring} {a : PendingAction} {x : Option ℤ}

theorem eq_of_aksiyonsuz (h : aksiyonsuz db' = aksiyonsuz db) :
    db' = { db with pendingActions := db'.pendingActions } := by
  cases db
  cases db'
  simp only [aksiyonsuz, Db.mk.injEq] at h
  obtain ⟨rfl, rfl, rfl, rfl, rfl, rfl, rfl, -, rfl, rfl⟩ := h
  rfl

/-- What `propose_action` stores for a record that is due. -/
theorem oneriYaz_tetik {ws : List Write} (hr : (duzenliler db kind).get? id = some r)
    (h : oneriYaz k db none "" { duzenliOneri kind userId kasa bugun r with kaynak := some (id, kind) } = .ok ws) :
    ∃ a p, ws = [.pendingAction (.insert a)] ∧ TetikAksiyonu k db userId kind kasa bugun a id r p := by
  have htip : (duzenliOneri kind userId kasa bugun r).actionType = .addTransaction := by
    cases kind <;> rfl
  have hsahip : (duzenliOneri kind userId kasa bugun r).userId = userId := by
    cases kind <;> rfl
  simp only [oneriYaz, bind_eq_ok, within_eq_ok, proposeAction, metinDenetimi, stopIf_eq_ok, exists_const,
    htip, hsahip, ne_eq, not_true_eq_false, if_false, pure_eq_ok] at h
  obtain ⟨-, p, hp, -, -, q, ⟨-, -, -, -, -, hq⟩, rfl⟩ := h
  have hicerik : tetikPayload k db userId kind kasa bugun r = .ok q := bind_eq_ok.mpr ⟨p, hp, hq⟩
  exact ⟨_, q, rfl, hr, hicerik, rfl, rfl, rfl, rfl, rfl, rfl⟩

/-- Its content does not depend on the other proposals. -/
theorem TetikAksiyonu.congr {p : Payload} (hdb : aksiyonsuz db' = aksiyonsuz db)
    (h : TetikAksiyonu k db' userId kind kasa bugun a id r p) : TetikAksiyonu k db userId kind kasa bugun a id r p := by
  rw [eq_of_aksiyonsuz hdb] at h
  obtain ⟨hr, hicerik, hsahip, hkapsam, htip, hpayload, hdurum, hkaynak⟩ := h
  have hr' : (duzenliler db kind).get? id = some r := by
    cases kind <;> exact hr
  exact ⟨hr', hicerik, hsahip, hkapsam, htip, hpayload, hdurum, hkaynak⟩

/-- One record adds its own action, or nothing. -/
theorem tetikleKayit_yeni (h : (tetikleKayit k userId kind kasa bugun db id).pendingActions.get? actionId = some a) :
    db.pendingActions.get? actionId = some a ∨ ∃ r p, TetikAksiyonu k db userId kind kasa bugun a id r p := by
  unfold tetikleKayit at h
  split at h
  · exact .inl h
  · next r hr =>
    split at h
    · rcases sonuc_cases db (oneriYaz k db none "" { duzenliOneri kind userId kasa bugun r with
          kaynak := some (id, kind) }) with he | ⟨ws, hws, he, -⟩
      · rw [he] at h
        exact .inl h
      · obtain ⟨b, p, rfl, hb⟩ := oneriYaz_tetik hr hws
        rw [he] at h
        simp only [writeAll_cons, writeAll_nil, Db.write, Table.change, Table.get?_push] at h
        split at h
        · cases h
          exact .inr ⟨r, p, hb⟩
        · exact .inl h
    · exact .inl h

theorem tetikleKayitlar_yeni (ids : List ℕ) (hdb : aksiyonsuz db' = aksiyonsuz db)
    (h : (ids.foldl (tetikleKayit k userId kind kasa bugun) db').pendingActions.get? actionId = some a) :
    db'.pendingActions.get? actionId = some a ∨
      ∃ id r p, TetikAksiyonu k db userId kind kasa bugun a id r p := by
  induction ids generalizing db' with
  | nil => exact .inl h
  | cons id ids ih =>
    have hadim : TetikSonrasi bugun db' (tetikleKayit k userId kind kasa bugun db' id) := tetikSonrasi_kayit
    rcases ih (hadim.digerleri.trans hdb) h with h | hyeni
    · rcases tetikleKayit_yeni h with h | ⟨r, p, h⟩
      · exact .inl h
      · exact .inr ⟨id, r, p, h.congr hdb⟩
    · exact .inr hyeni

/-- An action that is there only after the trigger comes from a record, with the default cash account of the
request. -/
theorem triggerDue_yeni (hx : aksiyonKapisi production db userId x = .ok wsId)
    (hyok : db.pendingActions.get? actionId = none)
    (h : (triggerDue k production db userId x kind bugun).2.pendingActions.get? actionId = some a) :
    ∃ id r p, TetikAksiyonu k db userId kind ((varsayilanNakitHesap db userId wsId).map Prod.fst) bugun a id r p := by
  unfold triggerDue at h
  simp only [hx] at h
  split at h
  · rw [hyok] at h
    cases h
  · rcases tetikleKayitlar_yeni _ rfl h with h | hyeni
    · rw [hyok] at h
      cases h
    · exact hyeni

end Creation

/-- A payload that the handler of a transaction reads without an objection, apart from its account. -/
structure Islenebilir (p : Payload) : Prop where
  tip : ∃ t, islemTipi (p.get .transactionType) = some t
  tutar : ∃ q, (p.get .amount).toFloat = .ok (.finite q) ∧ 0 < q
  kategori : ∃ s, sutunMetni (p.get .category) = .ok s
  aciklama : ∃ s, sutunMetni (p.get .description) = .ok s
  hesap : p.get .accountId = .none ∨ ∃ n : ℤ, p.get .accountId = .int n ∧ 0 < n

section Content
variable {k : TeklifKurallari} {db : Db} {userId : ℕ} {kind : RecurringKind} {kasa : Option ℕ} {bugun : Date}
  {r : Recurring} {cevirim : Cevirim} {p q : Payload} {v : PyValue} {o : Ortam}

theorem islemTipi_of_uyar (h : AlanTuru.uyar (.secim ["income", "expense", "transfer"]) v = true) :
    ∃ t, islemTipi v = some t := by
  match v with
  | .str s =>
    have hs : s ∈ ["income", "expense", "transfer"] := of_decide_eq_true h
    simp only [List.mem_cons, List.not_mem_nil, or_false] at hs
    rcases hs with rfl | rfl | rfl
    · exact ⟨.income, rfl⟩
    · exact ⟨.expense, rfl⟩
    · exact ⟨.transfer, rfl⟩

theorem sutunMetni_of_uyar {enAz : ℕ} (h : AlanTuru.uyar (.metin enAz) v = true) : ∃ s, sutunMetni v = .ok s := by
  match v with
  | .str s => exact ⟨some s, rfl⟩

theorem kimlik_of_uyar (h : AlanTuru.uyar .kimlik v = true) : ∃ n : ℤ, v = .int n ∧ 0 < n := by
  match v with
  | .int n => exact ⟨n, rfl, of_decide_eq_true h⟩

theorem Islenebilir.hesapsiz (h : Islenebilir p) (hbos : (p.get .accountId).truthy = false) :
    p.get .accountId = .none := by
  rcases h.hesap with hyok | ⟨n, hn, hpos⟩
  · exact hyok
  · rw [hn] at hbos
    have hsifir : n = 0 := by simpa [PyValue.truthy] using hbos
    omega

/-- A validated transaction is readable. -/
theorem islenebilir_of_dogrula (h : dogrula cevirim .addTransaction p = .ok q) : Islenebilir q := by
  have halan (a : Alan) (ha : a ∈ (payloadSemalari .addTransaction).getD []) :
      a.tur.uyar (q.get a.ad) = true ∨ q.get a.ad = .none ∧ a.zorunlu = false := by
    rcases dogrula_alani h rfl ha with ⟨w, hw, huyar⟩ | ⟨hyok, hz⟩
    · rw [Payload.get, hw]
      exact .inl huyar
    · rw [Payload.get, hyok]
      exact .inr ⟨rfl, hz⟩
  have hzorunlu (ad : PayloadKey) (tur : AlanTuru) (ha : zorunlu ad tur ∈ (payloadSemalari .addTransaction).getD []) :
      tur.uyar (q.get ad) = true := by
    rcases halan _ ha with huyar | ⟨-, hz⟩
    · exact huyar
    · cases hz
  have hmetin (ad : PayloadKey) (ha : opsiyonel ad (.metin 0) ∈ (payloadSemalari .addTransaction).getD []) :
      ∃ s, sutunMetni (q.get ad) = .ok s := by
    rcases halan _ ha with huyar | ⟨hyok, -⟩
    · exact sutunMetni_of_uyar huyar
    · exact ⟨none, congrArg sutunMetni hyok⟩
  constructor
  · have huyar := hzorunlu .transactionType (.secim ["income", "expense", "transfer"]) (by simp [payloadSemalari])
    exact islemTipi_of_uyar huyar
  · have huyar := hzorunlu .amount .tutar (by simp [payloadSemalari])
    obtain ⟨x, hx, -, hpos⟩ := sonlu_of_uyar (uyar_bakiye huyar)
    exact ⟨x, hx, hpos huyar⟩
  · exact hmetin .category (by simp [payloadSemalari])
  · exact hmetin .description (by simp [payloadSemalari])
  · rcases halan (opsiyonel .accountId .kimlik) (by simp [payloadSemalari]) with huyar | ⟨hyok, -⟩
    · exact .inr (kimlik_of_uyar huyar)
    · exact .inl hyok

theorem Islenebilir.kartli {kategori : String} {card : ℕ} (h : Islenebilir p) (hcard : 0 < card) :
    Islenebilir (kartli kategori card p) := by
  have hayni (ad : PayloadKey) (hk : kartAlani ad = false) : (Rules.kartli kategori card p).get ad = p.get ad := by
    rw [Payload.get, lookup_kartli hk, Payload.get]
  have hkart : (card : ℤ) > 0 := by exact_mod_cast hcard
  refine ⟨?_, ?_, ⟨some kategori, rfl⟩, ?_, .inr ⟨card, rfl, hkart⟩⟩
  · rw [hayni .transactionType rfl]
    exact h.tip
  · rw [hayni .amount rfl]
    exact h.tutar
  · rw [hayni .description rfl]
    exact h.aciklama

/-- So is what a record is proposed with. -/
theorem islenebilir_tetik (h : tetikPayload k db userId kind kasa bugun r = .ok p) : Islenebilir p := by
  obtain ⟨q, hq, hp⟩ := bind_eq_ok.mp h
  obtain ⟨yon, hyon, rfl⟩ := normalize_ok.mp hp
  cases yon with
  | none => exact islenebilir_of_dogrula hq
  | some y => exact (islenebilir_of_dogrula hq).kartli (kartaYonlenir_card hyon)

/-- A readable transaction is booked exactly when its account may be used, in the scope that it then gets. -/
theorem islem_iff {tarih : Date} (hp : Islenebilir p)
    (htarih : tarihOku o.bugun (p.get .transactionDate) = .ok (some tarih)) {w : Option ℕ} :
    (∃ hesap txn, TransactionEntry o p hesap txn ∧ txn.workspaceId = w) ↔
      ∃ hesap, islemHesabi o (p.get .accountId) = .ok hesap ∧ o.kapsam (hesap.bind fun h => h.2.workspaceId) = w := by
  constructor
  · rintro ⟨hesap, txn, h, hw⟩
    exact ⟨hesap, h.secim, h.kapsam ▸ hw⟩
  · rintro ⟨hesap, hsecim, hw⟩
    obtain ⟨t, ht⟩ := hp.tip
    obtain ⟨q, hq, hpos⟩ := hp.tutar
    obtain ⟨kategori, hkategori⟩ := hp.kategori
    obtain ⟨aciklama, haciklama⟩ := hp.aciklama
    have hsaklanan : ∃ no, saklananHesap (p.get .accountId) hesap = .ok no := by
      cases hesap with
      | some h => exact ⟨some h.1, rfl⟩
      | none => exact ⟨none, by rw [hp.hesapsiz (islemHesabi_none.mp hsecim)]; rfl⟩
    obtain ⟨no, hno⟩ := hsaklanan
    exact ⟨hesap, ⟨o.userId, o.kapsam (hesap.bind fun h => h.2.workspaceId), no, t, q, kategori, aciklama, tarih,
      (p.getD .isCardExpense (.bool false)).truthy⟩,
      ⟨ht, hq, hpos, hsecim, hno, rfl, rfl, htarih, hkategori, haciklama, rfl⟩, hw⟩

end Content

section Approval
variable {k : TeklifKurallari} {production : Bool} {db db' : Db} {userId actionId id : ℕ} {wsId wsId' : Option ℕ}
  {kind : RecurringKind} {kasa : Option ℕ} {bugun : Date} {r : Recurring} {a : PendingAction} {x y : Option ℤ}
  {gun : ℕ → Date} {ariza : Ariza} {p : Payload}

theorem tarihOku_metin {s : String} {d : Date} (h : Date.fromIso? s = some d) (gun : Date) :
    tarihOku gun (.str s) = .ok (some d) := by
  have hne : s ≠ "" := by
    rintro rfl
    have hbos : Date.fromIso? "" = none := rfl
    rw [hbos] at h
    cases h
  simp [tarihOku, PyValue.truthy, hne, h]

/-- The month of a date has the form that a mark must have. -/
theorem yilAyMi_padded (d : Date) : yilAyMi (Date.padded 4 d.year ++ "-" ++ Date.padded 2 d.month) = true := by
  have hyear : (Date.padded 4 d.year).toList.length = 4 := by
    have := d.year_range
    exact Date.length_padded (by decide) (by omega)
  obtain ⟨e, f, g, h, hy⟩ := List.length_eq_four.mp hyear
  have hrakam : ∀ c ∈ [e, f, g, h], c.isDigit = true := hy ▸ Date.isDigit_padded
  have hmonth : ∃ m n, (Date.padded 2 d.month).toList = [m, n] ∧ n.isDigit = true ∧
      ((m = '0' ∧ n ≠ '0') ∨ (m = '1' ∧ (n = '0' ∨ n = '1' ∨ n = '2'))) := by
    obtain ⟨hlow, hhigh⟩ := d.month_range
    generalize d.month = ay at hlow hhigh
    interval_cases ay <;> exact ⟨_, _, rfl, by decide, by decide⟩
  obtain ⟨m, n, hm, hn, hbicim⟩ := hmonth
  have hliste : (Date.padded 4 d.year ++ "-" ++ Date.padded 2 d.month).toList = [e, f, g, h, '-', m, n] := by
    rw [String.toList_append, String.toList_append, hy, hm]
    rfl
  rw [yilAyMi, hliste]
  simp only [List.forall_mem_cons] at hrakam
  simp [hrakam, hn, hbicim]

/-- The mark of a proposal of a day is well formed. -/
theorem tetikBozuk_olmaz (ha : BakiyesizOneri bugun a) (hp : a.payload = .object p) (gun : Date) :
    ¬ TetikBozuk db gun a p := by
  rintro ⟨id, -, hbozuk, -⟩
  obtain ⟨q, hq, -, htarih⟩ := ha.payload
  obtain rfl : q = p := by simpa [hq] using hp
  rw [tetikAyi_isoformat htarih, yilAyMi_padded] at hbozuk
  cases hbozuk

theorem approveAction_son (hy : aksiyonKapisi production db userId y = .ok wsId)
    (ha : kendiAksiyonu db actionId userId = some a) : (approveAction production ariza gun db userId y actionId).2 =
      (executePendingAction ariza gun db actionId userId).2 := by
  unfold approveAction
  simp only [hy, ha]
  rcases executePendingAction ariza gun db actionId userId with ⟨yanit, son⟩
  cases yanit <;> rfl

/-- Without an exception from outside, an action of a day ends `executed` when its handler books it, and only then. -/
theorem executed_of_applies {txn : Transaction} (ha : BakiyesizOneri bugun a)
    (happ : Applies gun db actionId userId a p [.transaction (.insert txn)]) :
    durumu (executePendingAction .yok gun db actionId userId).2 actionId = some .executed ∧
      (executePendingAction .yok gun db actionId userId).2.transactions = db.transactions.push txn := by
  rcases execute_cases .yok gun db actionId userId with ⟨hno, -⟩ | ⟨pending, q, ws, -, happ', hdefter, hson⟩
  · exact absurd happ (hno a p _ rfl)
  · obtain ⟨rfl, rfl, rfl⟩ := happ.unique happ'
    rcases hson with ⟨hpencere, -⟩ | ⟨-, -, hdurum⟩
    · rcases hpencere with h | h | h | h | h | h
      · cases h
      · cases h
      · cases h
      · cases h
      · cases h
      · exact absurd h (tetikBozuk_olmaz ha happ.payload _)
    · exact ⟨hdurum, congrArg Defter.transactions hdefter⟩

theorem applies_of_executed (ha : BakiyesizOneri bugun a) (hget : kendiAksiyonu db actionId userId = some a)
    (hp : a.payload = .object p)
    (h : durumu (executePendingAction .yok gun db actionId userId).2 actionId = some .executed) :
    ∃ txn, Applies gun db actionId userId a p [.transaction (.insert txn)] := by
  have hb : durumu db actionId ≠ some .executed := by
    rw [durumu, (kendiAksiyonu_eq_some.mp hget).1, Option.map_some, ha.durum]
    decide
  obtain ⟨pending, q, ws, happ, -⟩ := executed_db hb h
  obtain rfl : a = pending := by simpa [hget] using happ.aksiyon
  obtain rfl : p = q := by simpa [hp] using happ.payload
  obtain ⟨txn, rfl⟩ := ha.writes happ
  exact ⟨txn, happ⟩

/-- A readable transaction that asks for no balance is booked as soon as its entry is complete. -/
theorem accepted_entry_iff {o : Ortam} {txn : Transaction} (hp : Islenebilir p) (hb : p.get .autoUpdateBalance = .none) :
    (Accepted o p .addTransaction [.transaction (.insert txn)] ∧
      ∀ w ∈ [Write.transaction (.insert txn)], Saglam o.db w) ↔ ∃ hesap, TransactionEntry o p hesap txn := by
  have hbacak (hesap : Option (ℕ × Account)) (t : TransactionType) (q : ℚ) : bakiyeBacagi p hesap t q = none := by
    unfold bakiyeBacagi
    cases hesap with
    | none => rfl
    | some g => simp [hb, PyValue.truthy]
  constructor
  · rintro ⟨hacc, -⟩
    obtain ⟨handler, hhandler, hcommits⟩ := accepted_iff.mpr hacc
    cases hhandler
    obtain ⟨hesap, txn', hentry, hws⟩ := addTransaction_commits.mp hcommits
    rw [hbacak] at hws
    cases hws
    exact ⟨hesap, hentry⟩
  · rintro ⟨hesap, hentry⟩
    have hacc := Accepted.islem hesap txn hentry
    rw [hbacak] at hacc
    refine ⟨hacc, ?_⟩
    intro w hw
    rw [List.mem_singleton.mp hw]
    intro id hid
    have hsak := hentry.saklanan
    cases hesap with
    | some h =>
      obtain ⟨-, hnames, -⟩ := islemHesabi_some.mp hentry.secim
      have hno : some h.1 = some id := (Except.ok.inj hsak).trans hid
      cases hno
      rw [hnames.row]
      rfl
    | none =>
      rw [hp.hesapsiz (islemHesabi_none.mp hentry.secim)] at hsak
      have hno : none = some id := (Except.ok.inj hsak).trans hid
      cases hno

/-- The account that the handler uses is the one named, where it is found and not custodial. -/
theorem islemHesabi_iff {o : Ortam} {w : Option ℕ} (hp : Islenebilir p) (hw : o.kapsam none = w)
    {hesap : Option (ℕ × Account)} : islemHesabi o (p.get .accountId) = .ok hesap ↔
      hesap = adiGecenHesap o.db o.userId w p ∧
        (p.get .accountId = .none ∨ ∃ h, hesap = some h ∧ h.2.isEmanet = false) := by
  have hbul (h : ℕ × Account) : Names o (p.get .accountId) h.1 h.2 ↔ adiGecenHesap o.db o.userId w p = some h := by
    rw [Names, hw, adiGecenHesap]
    rcases findById o.db.accounts o.userId w (p.get .accountId) with e | _ | g
    · simp [Except.toOption]
    · simp [Except.toOption]
    · simp [Except.toOption]
  rcases hp.hesap with hv | ⟨n, hn, hpos⟩
  · have hbos : adiGecenHesap o.db o.userId w p = none := by
      rw [adiGecenHesap, hv]
      rfl
    have hoku : islemHesabi o (p.get .accountId) = .ok none := by
      rw [hv]
      rfl
    rw [hoku, hbos, Except.ok.injEq]
    exact ⟨fun h => ⟨h.symm, .inl hv⟩, fun h => h.1.symm⟩
  · have htruthy : (p.get .accountId).truthy = true := by
      rw [hn]
      exact decide_eq_true hpos.ne'
    have hvar : p.get .accountId ≠ .none := by
      rw [hn]
      exact PyValue.noConfusion
    cases hesap with
    | none =>
      rw [islemHesabi_none, htruthy]
      simp [hvar]
    | some h =>
      rw [islemHesabi_some, hbul, eq_comm (b := adiGecenHesap o.db o.userId w p)]
      simp [htruthy, hvar]

theorem push_inj {t : Table Transaction} {txn txn' : Transaction} (h : t.push txn = t.push txn') : txn = txn' := by
  have hrow := congrArg (fun t' => t'.get? t.freshKey) h
  simpa using hrow

/-- The approval of an action that `trigger-due` has created, in a state that differs by the proposals. -/
theorem onay_iff (hdb : aksiyonsuz db' = aksiyonsuz db) (hget : kendiAksiyonu db' actionId userId = some a)
    (ha : BakiyesizOneri bugun a) (h : TetikAksiyonu k db userId kind kasa bugun a id r p) :
    KendiYerinde db (executePendingAction .yok gun db' actionId userId).2 actionId r ↔ Yurutulebilir db userId r p := by
  have hkurallar := enforceUserRules_congr hdb userId .addTransaction (some p) (personalWorkspace db userId)
  have hesit := eq_of_aksiyonsuz hdb
  generalize db'.pendingActions = t at hesit
  subst hesit
  have hkapsam (kaynak : Option ℕ) : (ortam gun { db with pendingActions := t } a userId).kapsam kaynak =
      yazmaWorkspaceId db (personalWorkspace db userId) userId kaynak := by
    rw [← h.kapsam]
    rfl
  have hw : (ortam gun { db with pendingActions := t } a userId).kapsam none = personalWorkspace db userId := by
    rw [hkapsam]
    cases hpw : personalWorkspace db userId with
    | none => exact hpw
    | some w => rfl
  have hp := islenebilir_tetik h.icerik
  obtain ⟨q, hq, hauto, htarih⟩ := ha.payload
  obtain rfl : p = q := by simpa [hq] using h.payload.symm
  have hgun : tarihOku (gun userId) (p.get .transactionDate) = .ok (some bugun) := by
    rw [htarih]
    exact tarihOku_metin (Date.fromIso?_isoformat bugun) _
  constructor
  · rintro ⟨hdurum, txn, htxn, hyer⟩
    obtain ⟨txn', happ⟩ := applies_of_executed ha hget h.payload hdurum
    obtain ⟨-, hson⟩ := executed_of_applies ha happ
    obtain rfl : txn = txn' := push_inj (htxn.symm.trans hson)
    obtain ⟨hr, hacc, hsaglam⟩ := applies_iff_accepted.mp happ
    have hkural := hr.kurallar
    rw [h.tip] at hacc hkural
    rw [h.kapsam, hkurallar] at hkural
    obtain ⟨hesap, hentry⟩ := (accepted_entry_iff hp hauto).mp ⟨hacc, hsaglam⟩
    obtain ⟨hesap, hsecim, hyeri⟩ := (islem_iff hp hgun).mp ⟨hesap, txn, hentry, hyer⟩
    obtain ⟨rfl, hhesap⟩ := (islemHesabi_iff hp hw).mp hsecim
    exact ⟨hhesap, hkural, hyeri.symm.trans (hkapsam _)⟩
  · rintro ⟨hhesap, hkural, hyer⟩
    have hsecim := (islemHesabi_iff hp hw).mpr ⟨rfl, hhesap⟩
    obtain ⟨hesap, txn, hentry, htxn⟩ := (islem_iff hp hgun).mpr ⟨_, hsecim, (hkapsam _).trans hyer.symm⟩
    obtain ⟨hacc, hsaglam⟩ := (accepted_entry_iff hp hauto).mpr ⟨hesap, hentry⟩
    rw [← h.tip] at hacc
    rw [← hkurallar, ← h.tip, ← h.kapsam] at hkural
    have happ := applies_iff_accepted.mpr ⟨⟨hget, ha.durum, h.payload, hkural⟩, hacc, hsaglam⟩
    obtain ⟨hdurum, hson⟩ := executed_of_applies ha happ
    exact ⟨hdurum, txn, hson, htxn⟩

end Approval

/-- Every action that `trigger-due` creates comes from a record, and its approval by the same user ends `executed` with
a transaction in the workspace of the record exactly when the user's personal workspace is the one to carry it out in. -/
theorem trigger_due_executable_iff {k : TeklifKurallari} {production : Bool} {db : Db} {userId actionId : ℕ}
    {wsId wsId' : Option ℕ} {x y : Option ℤ} {kind : RecurringKind} {bugun : Date} {a : PendingAction}
    (gun : ℕ → Date) (hx : aksiyonKapisi production db userId x = .ok wsId)
    (hy : aksiyonKapisi production db userId y = .ok wsId') (hyok : db.pendingActions.get? actionId = none)
    (ha : (triggerDue k production db userId x kind bugun).2.pendingActions.get? actionId = some a) :
    ∃ id r p, a.sourceRecurringId = some id ∧ (duzenliler db kind).get? id = some r ∧
      tetikPayload k db userId kind ((varsayilanNakitHesap db userId wsId).map Prod.fst) bugun r = .ok p ∧
        (KendiYerinde db (approveAction production .yok gun (triggerDue k production db userId x kind bugun).2 userId y
          actionId).2 actionId r ↔ Yurutulebilir db userId r p) := by
  obtain ⟨id, r, p, h⟩ := triggerDue_yeni hx hyok ha
  have htetik : TetikSonrasi bugun db (triggerDue k production db userId x kind bugun).2 := tetikSonrasi_triggerDue
  have honeri : BakiyesizOneri bugun a := by
    refine (htetik.oneriler actionId a ha).resolve_left ?_
    intro hvar
    rw [hyok] at hvar
    cases hvar
  have hget : kendiAksiyonu (triggerDue k production db userId x kind bugun).2 actionId userId = some a :=
    kendiAksiyonu_eq_some.mpr ⟨ha, h.sahip⟩
  have hkapi : aksiyonKapisi production (triggerDue k production db userId x kind bugun).2 userId y = .ok wsId' := by
    rw [eq_of_aksiyonsuz htetik.digerleri]
    exact hy
  refine ⟨id, r, p, h.kaynakId, h.kayit, h.icerik, ?_⟩
  rw [approveAction_son hkapi hget]
  exact onay_iff htetik.digerleri hget honeri h

/-- The rent of a user's own workspace. -/
theorem trigger_due_executable_iff_kira :
    ∃ a, (triggerDue yalinKurallar false maasVeKira.db 1 none .expense odemeGunu).2.pendingActions.get? 1 = some a ∧
      ∃ id r p, a.sourceRecurringId = some id ∧ (duzenliler maasVeKira.db .expense).get? id = some r ∧
        tetikPayload yalinKurallar maasVeKira.db 1 .expense ((varsayilanNakitHesap maasVeKira.db 1 (some 1)).map Prod.fst)
          odemeGunu r = .ok p ∧
        (KendiYerinde maasVeKira.db (approveAction false .yok (fun _ => odemeGunu)
          (triggerDue yalinKurallar false maasVeKira.db 1 none .expense odemeGunu).2 1 none 1).2 1 r ↔
            Yurutulebilir maasVeKira.db 1 r p) := by
  have hvar : ((triggerDue yalinKurallar false maasVeKira.db 1 none .expense
      odemeGunu).2.pendingActions.get? 1).isSome = true := by decide +kernel
  have hkapi : aksiyonKapisi false maasVeKira.db 1 none = .ok (some 1) := by decide +kernel
  obtain ⟨a, ha⟩ := Option.isSome_iff_exists.mp hvar
  exact ⟨a, ha, trigger_due_executable_iff (fun _ => odemeGunu) hkapi hkapi rfl ha⟩

/-- A family's rent, due from its account, and a member who may write. -/
def aileKirasi : Db := Db.empty.writeAll [
  .workspace (.insert ⟨1, true⟩),
  .workspace (.insert ⟨2, false⟩),
  .membership (.insert ⟨1, 1, .owner⟩),
  .membership (.insert ⟨2, 1, .editor⟩),
  .account (.insert ⟨2, some 2, "Aile hesabı", .cash, 9000, none, none, none, none, none, none, none, false⟩),
  .expense (.insert ⟨2, some 2, "Kira", 300, some 1, none, 19, true, none⟩)]

/-- The member's trigger proposes the rent, and the approval fails, since it looks for the family's account in the
member's own workspace. -/
theorem shared_rent_was_not_booked : aksiyonKapisi false aileKirasi 1 (some 2) = .ok (some 2) ∧
    aileKirasi.pendingActions.get? 1 = none ∧
      ((triggerDue yalinKurallar false aileKirasi 1 (some 2) .expense odemeGunu).2.pendingActions.get? 1).any
        (fun a => a.sourceRecurringId = some 1 ∧ a.status = .pending ∧ a.workspaceId = some 1) = true ∧
      durumu (approveAction false .yok (fun _ => odemeGunu)
        (triggerDue yalinKurallar false aileKirasi 1 (some 2) .expense odemeGunu).2 1 (some 2) 1).2 1 = some .failed ∧
      ∀ r, ¬ KendiYerinde aileKirasi (approveAction false .yok (fun _ => odemeGunu)
        (triggerDue yalinKurallar false aileKirasi 1 (some 2) .expense odemeGunu).2 1 (some 2) 1).2 1 r := by
  have hdurum : durumu (approveAction false .yok (fun _ => odemeGunu)
      (triggerDue yalinKurallar false aileKirasi 1 (some 2) .expense odemeGunu).2 1 (some 2) 1).2 1 = some .failed := by
    decide +kernel
  refine ⟨by decide +kernel, rfl, by decide +kernel, hdurum, ?_⟩
  rintro r ⟨hexecuted, -⟩
  rw [hdurum] at hexecuted
  cases hexecuted

end FinancialOs.Guarantees
