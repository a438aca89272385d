import FinancialOs.Executor.HandlerEffects
import FinancialOs.Executor.PendingActions

/-! What one run of the executor does to the ledger: either nothing, or exactly
the writes of the handler that it reached. -/
namespace FinancialOs.Executor
open Library Store Rules

/-- The tables an action may change, apart from its own status and recurring marks. -/
structure Defter where
  accounts : Table Account
  transactions : Table Transaction
  debts : Table PersonalDebt
  checkpoints : Table MasterCheckpoint

def Defter.oku (db : Db) : Defter := ⟨db.accounts, db.transactions, db.debts, db.checkpoints⟩

/-- The database as a handler sees it, which never looks at proposals. -/
def aksiyonsuz (db : Db) : Db := { db with pendingActions := .empty }

/-- The request a handler is called with. -/
def ortam (bugun : ℕ → Date) (db : Db) (pending : PendingAction) (userId : ℕ) : Ortam :=
  ⟨db, pending.workspaceId, userId, bugun userId⟩

/-- An action that passes every check up to and including its handler's own commit. -/
structure Applies (bugun : ℕ → Date) (db : Db) (actionId userId : ℕ) (pending : PendingAction)
    (p : Payload) (ws : List Write) : Prop where
  aksiyon : kendiAksiyonu db actionId userId = some pending
  bekliyor : pending.status = .pending
  payload : pending.payload = .object p
  kurallar : enforceUserRules db userId pending.actionType (some p) pending.workspaceId = .ok none
  handler : ∃ h, actionHandlers pending.actionType = some h ∧
    Commits (h (ortam bugun db pending userId) p) ws
  flush : ∀ w ∈ ws, flushOncesi (db.writeAll ws) w = .ok ()

private theorem aksiyonsuz_write {db db' : Db} (h : aksiyonsuz db = aksiyonsuz db') (w : Write) :
    aksiyonsuz (db.write w) = aksiyonsuz (db'.write w) := by
  cases db
  cases db'
  simp only [aksiyonsuz, Db.mk.injEq] at h
  obtain ⟨rfl, rfl, rfl, rfl, rfl, rfl, rfl, _, rfl, rfl⟩ := h
  cases w <;> rfl

theorem aksiyonsuz_writeAll {db db' : Db} (h : aksiyonsuz db = aksiyonsuz db') (ws : List Write) :
    aksiyonsuz (db.writeAll ws) = aksiyonsuz (db'.writeAll ws) := by
  induction ws generalizing db db' with
  | nil => exact h
  | cons w ws ih => exact ih (aksiyonsuz_write h w)

theorem flushOncesi_congr {db db' : Db} (h : aksiyonsuz db = aksiyonsuz db') (w : Write) :
    flushOncesi db w = flushOncesi db' w := by
  cases db
  cases db'
  simp only [aksiyonsuz, Db.mk.injEq] at h
  obtain ⟨rfl, rfl, rfl, rfl, rfl, rfl, rfl, _, rfl, rfl⟩ := h
  cases w <;> rfl

theorem defter_congr {db db' : Db} (h : aksiyonsuz db = aksiyonsuz db') :
    Defter.oku db = Defter.oku db' := by
  simp only [aksiyonsuz, Db.mk.injEq] at h
  obtain ⟨_, _, _, ha, ht, hd, hc, _⟩ := h
  rw [Defter.oku, ha, ht, hd, hc]
  rfl

theorem commit_congr {db db' e : Db} (h : aksiyonsuz db = aksiyonsuz db') {ws : List Write}
    (hc : commit db ws = .ok e) : ∃ e', commit db' ws = .ok e' ∧ aksiyonsuz e = aksiyonsuz e' := by
  obtain ⟨rfl, hf⟩ := commit_ok.mp hc
  have hw := aksiyonsuz_writeAll h ws
  refine ⟨_, commit_ok.mpr ⟨rfl, fun w hm => ?_⟩, hw⟩
  rw [← flushOncesi_congr hw]
  exact hf w hm

theorem aksiyonsuz_durumYaz (db : Db) (actionId : ℕ) (status : ActionStatus) :
    aksiyonsuz (db.write (durumYaz actionId status)) = aksiyonsuz db := rfl

theorem sahiplen_eq_some {db db' : Db} {actionId : ℕ} :
    sahiplen db actionId = some db' ↔
      (∃ p, db.pendingActions.get? actionId = some p ∧ p.status = .pending) ∧
        db' = db.write (durumYaz actionId .approved) := by
  unfold sahiplen
  cases h : db.pendingActions.get? actionId with
  | none => simp
  | some p =>
    by_cases hp : p.status = .pending
    · simp [hp, eq_comm]
    · simp [hp]

theorem kendiAksiyonu_eq_some {db : Db} {actionId userId : ℕ} {p : PendingAction} :
    kendiAksiyonu db actionId userId = some p ↔
      db.pendingActions.get? actionId = some p ∧ p.userId = userId := by
  simp [kendiAksiyonu, Option.filter_eq_some_iff]

private theorem kuralKapisi_gec {db : Db} {userId : ℕ} {pending : PendingAction}
    {h : Ortam → Payload → Except Durak Islem} {p q : Option Payload} :
    kuralKapisi db userId pending p = .gec h q ↔
      actionHandlers pending.actionType = some h ∧ p = q ∧
        enforceUserRules db userId pending.actionType p pending.workspaceId = .ok none := by
  unfold kuralKapisi
  cases actionHandlers pending.actionType with
  | none => simp
  | some g =>
    rcases enforceUserRules db userId pending.actionType p pending.workspaceId with e | _ | ihlal
    · simp
    · simp
    · simp

/-- The gate lets exactly the decodable, dispatchable actions through that no rule objects to. -/
theorem kapi_gec {db : Db} {userId : ℕ} {pending : PendingAction}
    {h : Ortam → Payload → Except Durak Islem} {payload : Option Payload} :
    kapi db userId pending = .gec h payload ↔
      jsonCoz pending.payload = some payload ∧ actionHandlers pending.actionType = some h ∧
        enforceUserRules db userId pending.actionType payload pending.workspaceId = .ok none := by
  unfold kapi
  cases jsonCoz pending.payload with
  | none => simp
  | some q =>
    rw [kuralKapisi_gec, Option.some.injEq]
    constructor
    · rintro ⟨hh, rfl, he⟩
      exact ⟨rfl, hh, he⟩
    · rintro ⟨rfl, hh, he⟩
      exact ⟨hh, rfl, he⟩

private theorem jsonCoz_some {t : JsonText} {p : Payload} :
    jsonCoz t = some (some p) ↔ t = .object p := by
  cases t <;> simp [jsonCoz]

/-- A handler reads the ledger and the workspaces, never the proposals. -/
theorem commits_congr {db db' : Db} (h : aksiyonsuz db = aksiyonsuz db') {t : ActionType}
    {handler : Ortam → Payload → Except Durak Islem} (ht : actionHandlers t = some handler)
    {aktif : Option ℕ} {userId : ℕ} {bugun : Date} {p : Payload} {ws : List Write}
    (hc : Commits (handler ⟨db, aktif, userId, bugun⟩ p) ws) :
    Commits (handler ⟨db', aktif, userId, bugun⟩ p) ws := by
  cases db
  cases db'
  simp only [aksiyonsuz, Db.mk.injEq] at h
  obtain ⟨rfl, rfl, rfl, rfl, rfl, rfl, rfl, _, rfl, rfl⟩ := h
  cases t <;> cases ht <;> exact hc

theorem markRecurringTriggered_cases (db : Db) (bugun : Date) (pending : PendingAction) (p : Payload) :
    markRecurringTriggered db bugun pending p = [] ∨
      (∃ id f, markRecurringTriggered db bugun pending p = [.income (.update id f)]) ∨
      ∃ id f, markRecurringTriggered db bugun pending p = [.expense (.update id f)] := by
  unfold markRecurringTriggered
  cases pending.sourceRecurringId with
  | none => exact .inl rfl
  | some id =>
    rcases pending.sourceRecurringType with _ | kind
    · exact .inl rfl
    · cases kind with
      | income =>
        dsimp only
        split
        · exact .inr (.inl ⟨id, _, rfl⟩)
        · exact .inl rfl
      | expense =>
        dsimp only
        split
        · exact .inr (.inr ⟨id, _, rfl⟩)
        · exact .inl rfl
      | unknown name => exact .inl rfl

theorem sonuclandir_defter {ariza : Ariza} {bugun : Date} {db db' : Db} {actionId : ℕ}
    {pending : PendingAction} {payload : Option Payload}
    (h : sonuclandir ariza bugun db actionId pending payload = .ok db') :
    Defter.oku db' = Defter.oku db := by
  unfold sonuclandir at h
  split at h
  · cases h
  split at h
  · cases h
  split at h
  · cases h
  obtain ⟨rfl, _⟩ := commit_ok.mp h
  rcases markRecurringTriggered_cases db bugun pending (payload.getD []) with he | ⟨_, _, he⟩ | ⟨_, _, he⟩
  all_goals
    rw [he]
    rfl

/-- The one commit a handler call makes, if it makes one. -/
structure HandlerCommit (ariza : Ariza) (o : Ortam) (handler : Ortam → Payload → Except Durak Islem)
    (payload : Option Payload) (ws : List Write) (db : Db) : Prop where
  saglam : ariza.handlerOnce = none
  cagri : ∃ p, payload = some p ∧ Commits (handler o p) ws
  kayit : commit o.db ws = .ok db

/-- A handler call either commits nothing, or commits once and keeps that whatever follows. -/
theorem calistir_cases (ariza : Ariza) (o : Ortam) (handler : Ortam → Payload → Except Durak Islem)
    (payload : Option Payload) :
    ((∃ m, calistir ariza o handler payload = .red m) ∧
        ∀ ws db, ¬ HandlerCommit ariza o handler payload ws db) ∨
    ((∃ e, calistir ariza o handler payload = .hata e o.db) ∧
        ∀ ws db, ¬ HandlerCommit ariza o handler payload ws db) ∨
    ∃ ws db, HandlerCommit ariza o handler payload ws db ∧
      ((∃ e, ariza.handlerSonra = some e ∧ calistir ariza o handler payload = .hata e db) ∨
        ariza.handlerSonra = none ∧ ∃ cevap, calistir ariza o handler payload = .tamam cevap db) := by
  unfold calistir
  cases ha : ariza.handlerOnce with
  | some e =>
    refine .inr (.inl ⟨⟨e, rfl⟩, fun ws db h => ?_⟩)
    rw [h.saglam] at ha
    cases ha
  | none =>
    have hcagir : ∀ ws db, HandlerCommit ariza o handler payload ws db →
        ∃ i, o.cagir handler payload = .ok i ∧ i.writes = ws := by
      intro ws db h
      obtain ⟨p, rfl, hc⟩ := h.cagri
      exact hc
    cases hc : o.cagir handler payload with
    | error d =>
      have hno : ∀ ws db, ¬ HandlerCommit ariza o handler payload ws db := by
        intro ws db h
        obtain ⟨i, hi, _⟩ := hcagir ws db h
        rw [hc] at hi
        cases hi
      cases d with
      | red m => exact .inl ⟨⟨m, rfl⟩, hno⟩
      | hata e => exact .inr (.inl ⟨⟨e, rfl⟩, hno⟩)
    | ok i =>
      cases hk : commit o.db i.writes with
      | error e =>
        refine .inr (.inl ⟨⟨e, by simp only [hk]⟩, fun ws db h => ?_⟩)
        obtain ⟨j, hj, rfl⟩ := hcagir ws db h
        obtain rfl : i = j := by simpa [hc] using hj
        rw [h.kayit] at hk
        cases hk
      | ok db =>
        refine .inr (.inr ⟨i.writes, db, ⟨ha, ?_, hk⟩, ?_⟩)
        · cases payload with
          | none => cases hc
          | some p => exact ⟨p, rfl, i, hc, rfl⟩
        · simp only [hk]
          cases ariza.handlerSonra with
          | some e => exact .inl ⟨e, rfl, rfl⟩
          | none => exact .inr ⟨rfl, _, rfl⟩

/-- The recurring source of an action exists, but the month it would be marked with is malformed. -/
def TetikBozuk (db : Db) (bugun : Date) (pending : PendingAction) (p : Payload) : Prop :=
  ∃ id, pending.sourceRecurringId = some id ∧ yilAyMi (tetikAyi bugun p) = false ∧
    (pending.sourceRecurringType = some .income ∧
        (kaynakKaydi db.incomes id pending.userId).isSome = true ∨
      pending.sourceRecurringType = some .expense ∧
        (kaynakKaydi db.expenses id pending.userId).isSome = true)

/-- An exception behind the handler's own commit. -/
def PencereHatasi (ariza : Ariza) (db : Db) (bugun : Date) (pending : PendingAction) (p : Payload) :
    Prop :=
  ariza.handlerSonra.isSome = true ∨ ariza.durum.isSome = true ∨ ariza.tetik.isSome = true ∨
    ariza.sonYazim.isSome = true ∨ ariza.yanit.isSome = true ∨ TetikBozuk db bugun pending p

private theorem denetleDuzenli_mark {tableName : String} {key : Option ℕ} {r : Recurring} {ym : String}
    (hr : r.lastTriggeredYearMonth = some ym) :
    denetleDuzenli tableName key r = .ok () ↔ yilAyMi ym = true := by
  unfold denetleDuzenli
  rw [hr]
  by_cases h : yilAyMi ym = true <;> simp [h]

private theorem kaynakKaydi_isSome {t : Table Recurring} {id userId : ℕ} :
    (kaynakKaydi t id userId).isSome = true ↔ ∃ r, t.get? id = some r ∧ r.userId = userId := by
  rw [Option.isSome_iff_exists]
  simp [kaynakKaydi, Option.filter_eq_some_iff]

/-- Marking one recurring row passes the flush check exactly when the month is well formed. -/
private theorem mark_update (tableName ym : String) {t : Table Recurring} {id : ℕ} {r : Recurring}
    (hr : t.get? id = some r) :
    checkChange (t.change (.update id (fun r => { r with lastTriggeredYearMonth := some ym })))
        (denetleDuzenli tableName) (.update id (fun r => { r with lastTriggeredYearMonth := some ym })) =
      .ok () ↔ yilAyMi ym = true := by
  simp only [checkChange, Table.change, Table.get?_modify, hr, Option.map_some, if_true]
  exact denetleDuzenli_mark rfl

private theorem mark_commit {db : Db} {actionId : ℕ} {bugun : Date} {pending : PendingAction}
    {p : Payload} :
    (∃ db', commit db (durumYaz actionId .executed :: markRecurringTriggered db bugun pending p) =
      .ok db') ↔ ¬ TetikBozuk db bugun pending p := by
  simp only [commit_ok, exists_eq_left, List.forall_mem_cons]
  cases hs : pending.sourceRecurringId with
  | none => simp [markRecurringTriggered, TetikBozuk, hs, flushOncesi, durumYaz]
  | some id =>
    have hother (ht : pending.sourceRecurringType ≠ some .income)
        (ht' : pending.sourceRecurringType ≠ some .expense) :
        markRecurringTriggered db bugun pending p = [] := by
      unfold markRecurringTriggered
      rw [hs]
      rcases hk : pending.sourceRecurringType with _ | kind
      · rfl
      · cases kind with
        | income => exact absurd hk ht
        | expense => exact absurd hk ht'
        | unknown name => rfl
    by_cases ht : pending.sourceRecurringType = some .income
    · by_cases hf : (kaynakKaydi db.incomes id pending.userId).isSome = true
      · obtain ⟨r, hr, _⟩ := kaynakKaydi_isSome.mp hf
        have := mark_update "recurring_incomes" (tetikAyi bugun p) hr
        simp [markRecurringTriggered, TetikBozuk, hs, ht, hf, flushOncesi, durumYaz, Db.write, this]
      · simp [markRecurringTriggered, TetikBozuk, hs, ht, hf, flushOncesi, durumYaz]
    · by_cases ht' : pending.sourceRecurringType = some .expense
      · by_cases hf : (kaynakKaydi db.expenses id pending.userId).isSome = true
        · obtain ⟨r, hr, _⟩ := kaynakKaydi_isSome.mp hf
          have := mark_update "recurring_expenses" (tetikAyi bugun p) hr
          simp [markRecurringTriggered, TetikBozuk, hs, ht', hf, flushOncesi, durumYaz, Db.write, this]
        · simp [markRecurringTriggered, TetikBozuk, hs, ht', hf, flushOncesi, durumYaz]
      · rw [hother ht ht']
        simp [TetikBozuk, hs, ht, ht', flushOncesi, durumYaz]

/-- The part of the database no handler writes to. -/
theorem handler_frame {ws : List Write} (h : ∀ w ∈ ws, HandlerWrite w) (db : Db) :
    (db.writeAll ws).pendingActions = db.pendingActions ∧ (db.writeAll ws).incomes = db.incomes ∧
      (db.writeAll ws).expenses = db.expenses ∧ (db.writeAll ws).users = db.users ∧
      (db.writeAll ws).workspaces = db.workspaces ∧
      (db.writeAll ws).memberships = db.memberships := by
  induction ws generalizing db with
  | nil => exact ⟨rfl, rfl, rfl, rfl, rfl, rfl⟩
  | cons w ws ih =>
    have hrest := ih (fun x hx => h x (List.mem_cons_of_mem _ hx)) (db.write w)
    have hw := h w List.mem_cons_self
    cases hw <;> exact hrest

private theorem tetikBozuk_congr {db db' : Db} (hi : db'.incomes = db.incomes)
    (he : db'.expenses = db.expenses) (bugun : Date) (pending : PendingAction) (p : Payload) :
    TetikBozuk db' bugun pending p ↔ TetikBozuk db bugun pending p := by
  unfold TetikBozuk
  rw [hi, he]

/-- The status write fails exactly on an injected exception or a malformed recurring month. -/
theorem sonuclandir_ok_iff {ariza : Ariza} {db : Db} {bugun : Date} {actionId : ℕ}
    {pending : PendingAction} {payload : Option Payload} :
    (∃ db', sonuclandir ariza bugun db actionId pending payload = .ok db') ↔
      ariza.durum = none ∧ ariza.tetik = none ∧ ariza.sonYazim = none ∧
        ¬ TetikBozuk db bugun pending (payload.getD []) := by
  unfold sonuclandir
  cases ariza.durum with
  | some e => simp
  | none =>
    cases ariza.tetik with
    | some e => simp
    | none =>
      cases ariza.sonYazim with
      | some e => simp
      | none => simpa using mark_commit

private theorem sonuclandir_ok {ariza : Ariza} {db : Db} {bugun : Date} {actionId : ℕ}
    {pending : PendingAction} {p : Payload} :
    (∃ db', sonuclandir ariza bugun db actionId pending (some p) = .ok db') ↔
      ariza.durum = none ∧ ariza.tetik = none ∧ ariza.sonYazim = none ∧
        ¬ TetikBozuk db bugun pending p := by
  rw [sonuclandir_ok_iff, Option.getD_some]

def durumu (db : Db) (actionId : ℕ) : Option ActionStatus :=
  (db.pendingActions.get? actionId).map PendingAction.status

theorem sonuclandir_durum {ariza : Ariza} {db db' : Db} {bugun : Date} {actionId : ℕ}
    {pending : PendingAction} {payload : Option Payload}
    (h : sonuclandir ariza bugun db actionId pending payload = .ok db') :
    durumu db' actionId = (db.pendingActions.get? actionId).map (fun _ => .executed) := by
  unfold sonuclandir at h
  split at h
  · cases h
  split at h
  · cases h
  split at h
  · cases h
  obtain ⟨rfl, _⟩ := commit_ok.mp h
  have hd : durumu (db.write (durumYaz actionId .executed)) actionId =
      (db.pendingActions.get? actionId).map (fun _ => .executed) := by
    simp only [durumu, Db.write, durumYaz, Table.change, Table.get?_modify, if_true, Option.map_map]
    rfl
  rcases markRecurringTriggered_cases db bugun pending (payload.getD []) with he | ⟨_, _, he⟩ | ⟨_, _, he⟩
  all_goals
    rw [he]
    exact hd

/-- Behind the claim: nothing is committed to the ledger, or the handler's writes are and the
answer is a success exactly when no exception follows. -/
theorem uygula_cases (ariza : Ariza) (bugun : Date) (db : Db) (actionId userId : ℕ)
    (pending : PendingAction) :
    ((∀ p handler ws db', kapi db userId pending = .gec handler (some p) →
        ¬ HandlerCommit ariza ⟨db, pending.workspaceId, userId, bugun⟩ handler (some p) ws db') ∧
      (∀ c, (uygula ariza bugun db actionId userId pending).1 ≠ .basarili c) ∧
      Defter.oku (uygula ariza bugun db actionId userId pending).2 = Defter.oku db) ∨
    ∃ p handler ws db', kapi db userId pending = .gec handler (some p) ∧
      HandlerCommit ariza ⟨db, pending.workspaceId, userId, bugun⟩ handler (some p) ws db' ∧
      Defter.oku (uygula ariza bugun db actionId userId pending).2 = Defter.oku db' ∧
      ((PencereHatasi ariza db bugun pending p ∧
          (uygula ariza bugun db actionId userId pending).1.olumsuz = true) ∨
        ¬ PencereHatasi ariza db bugun pending p ∧
          (∃ c, (uygula ariza bugun db actionId userId pending).1 = .basarili c) ∧
          durumu (uygula ariza bugun db actionId userId pending).2 actionId =
            (db.pendingActions.get? actionId).map (fun _ => .executed)) := by
  cases hk : kapi db userId pending with
  | dur sebep error baslik =>
    refine .inl ⟨fun p handler ws db' h => (nomatch h), ?_, ?_⟩
    · simp [uygula, hk]
    · simp only [uygula, hk]
      rfl
  | firlat e =>
    refine .inl ⟨fun p handler ws db' h => (nomatch h), ?_, ?_⟩
    · simp [uygula, hk]
    · simp only [uygula, hk]
  | gec handler payload =>
    rcases calistir_cases ariza ⟨db, pending.workspaceId, userId, bugun⟩ handler payload with
      ⟨⟨m, hc⟩, hno⟩ | ⟨⟨e, hc⟩, hno⟩ | ⟨ws, db', hcommit, hson⟩
    · refine .inl ⟨fun p g ws db' h => ?_, ?_, ?_⟩
      · cases h
        exact hno ws db'
      · simp [uygula, hk, hc]
      · simp only [uygula, hk, hc]
        rfl
    · refine .inl ⟨fun p g ws db' h => ?_, ?_, ?_⟩
      · cases h
        exact hno ws db'
      · simp [uygula, hk, hc, beklenmeyen]
      · simp only [uygula, hk, hc, beklenmeyen]
        rfl
    · obtain ⟨p, rfl, hp⟩ := hcommit.cagri
      obtain ⟨hdb, _⟩ := commit_ok.mp hcommit.kayit
      have hframe : db'.pendingActions = db.pendingActions ∧ db'.incomes = db.incomes ∧
          db'.expenses = db.expenses := by
        have hw := handler_frame (accepted_iff.mp ⟨handler, (kapi_gec.mp hk).2.1, hp⟩).writes db
        rw [hdb]
        exact ⟨hw.1, hw.2.1, hw.2.2.1⟩
      have htetik := tetikBozuk_congr hframe.2.1 hframe.2.2 bugun pending p
      refine .inr ⟨p, handler, ws, db', rfl, hcommit, ?_⟩
      rcases hson with ⟨e, he, hc⟩ | ⟨he, cevap, hc⟩
      · refine ⟨by simp only [uygula, hk, hc, beklenmeyen]; rfl, .inl ⟨.inl (by simp [he]), ?_⟩⟩
        simp only [uygula, hk, hc, beklenmeyen, Yanit.olumsuz]
      · cases hs : sonuclandir ariza bugun db' actionId pending (some p) with
        | error e =>
          refine ⟨by simp only [uygula, hk, hc, hs, beklenmeyen]; rfl, .inl ⟨?_, ?_⟩⟩
          · by_contra hn
            simp only [PencereHatasi, not_or, Option.not_isSome_iff_eq_none, ← htetik] at hn
            obtain ⟨d, hd⟩ := sonuclandir_ok.mpr ⟨hn.2.1, hn.2.2.1, hn.2.2.2.1, hn.2.2.2.2.2⟩
            rw [hs] at hd
            cases hd
          · simp only [uygula, hk, hc, hs, beklenmeyen, Yanit.olumsuz]
        | ok db'' =>
          have hdefter := sonuclandir_defter hs
          cases hy : ariza.yanit with
          | some e =>
            refine ⟨?_, .inl ⟨.inr (.inr (.inr (.inr (.inl (by simp [hy]))))), ?_⟩⟩
            · simp only [uygula, hk, hc, hs, hy, beklenmeyen]
              exact hdefter
            · simp only [uygula, hk, hc, hs, hy, beklenmeyen, Yanit.olumsuz]
          | none =>
            obtain ⟨hd, ht, hy', hb⟩ := sonuclandir_ok.mp ⟨db'', hs⟩
            refine ⟨?_, .inr ⟨?_, ⟨cevap, ?_⟩, ?_⟩⟩
            · simp only [uygula, hk, hc, hs, hy]
              exact hdefter
            · rw [htetik] at hb
              simp [PencereHatasi, he, hd, ht, hy, hy', hb]
            · simp only [uygula, hk, hc, hs, hy]
            · simp only [uygula, hk, hc, hs, hy]
              rw [sonuclandir_durum hs, hframe.1]

theorem enforceUserRules_congr {db db' : Db} (h : aksiyonsuz db = aksiyonsuz db') (userId : ℕ)
    (t : ActionType) (payload : Option Payload) (w : Option ℕ) :
    enforceUserRules db userId t payload w = enforceUserRules db' userId t payload w := by
  cases db
  cases db'
  simp only [aksiyonsuz, Db.mk.injEq] at h
  obtain ⟨rfl, rfl, rfl, rfl, rfl, rfl, rfl, _, rfl, rfl⟩ := h
  refine congrArg₂ ilkIhlal (funext fun kural => ?_) rfl
  unfold degerlendir
  rcases kural.ruleType with _ | kind
  · rfl
  · cases kind <;> rfl

/-- The checks behind the claim see the database as it was before the claim. -/
theorem applies_iff {ariza : Ariza} {bugun : ℕ → Date} {db db' : Db} {actionId userId : ℕ}
    {pending : PendingAction} {p : Payload} {ws : List Write} (hdb : aksiyonsuz db' = aksiyonsuz db)
    (ha : kendiAksiyonu db actionId userId = some pending) (hs : pending.status = .pending) :
    (∃ handler e, kapi db' userId pending = .gec handler (some p) ∧
      HandlerCommit ariza ⟨db', pending.workspaceId, userId, bugun userId⟩ handler (some p) ws e) ↔
      ariza.handlerOnce = none ∧ Applies bugun db actionId userId pending p ws := by
  constructor
  · rintro ⟨handler, e, hk, hc⟩
    obtain ⟨hj, hh, he⟩ := kapi_gec.mp hk
    obtain ⟨q, hq, hcom⟩ := hc.cagri
    obtain rfl := Option.some.inj hq
    obtain ⟨e', hkayit, _⟩ := commit_congr hdb hc.kayit
    refine ⟨hc.saglam, ha, hs, jsonCoz_some.mp hj, ?_, ⟨handler, hh, commits_congr hdb hh hcom⟩,
      (commit_ok.mp hkayit).2⟩
    rwa [enforceUserRules_congr hdb] at he
  · rintro ⟨hn, h⟩
    obtain ⟨handler, hh, hcom⟩ := h.handler
    obtain ⟨e, hkayit, _⟩ := commit_congr hdb.symm (commit_ok.mpr ⟨rfl, h.flush⟩)
    refine ⟨handler, e, kapi_gec.mpr ⟨jsonCoz_some.mpr h.payload, hh, ?_⟩, hn,
      ⟨p, rfl, commits_congr hdb.symm hh hcom⟩, hkayit⟩
    rw [enforceUserRules_congr hdb]
    exact h.kurallar

/-- A run of the executor changes the ledger by its handler's writes or not at all; with the
writes in place it succeeds exactly when no exception follows the handler's commit. -/
theorem execute_cases (ariza : Ariza) (bugun : ℕ → Date) (db : Db) (actionId userId : ℕ) :
    ((∀ pending p ws, ariza.handlerOnce = none → ¬ Applies bugun db actionId userId pending p ws) ∧
      (∀ c, (executePendingAction ariza bugun db actionId userId).1 ≠ .basarili c) ∧
      Defter.oku (executePendingAction ariza bugun db actionId userId).2 = Defter.oku db) ∨
    ∃ pending p ws, ariza.handlerOnce = none ∧ Applies bugun db actionId userId pending p ws ∧
      Defter.oku (executePendingAction ariza bugun db actionId userId).2 = Defter.oku (db.writeAll ws) ∧
      ((PencereHatasi ariza db (bugun userId) pending p ∧
          (executePendingAction ariza bugun db actionId userId).1.olumsuz = true) ∨
        ¬ PencereHatasi ariza db (bugun userId) pending p ∧
          (∃ c, (executePendingAction ariza bugun db actionId userId).1 = .basarili c) ∧
          durumu (executePendingAction ariza bugun db actionId userId).2 actionId = some .executed) := by
  cases ha : kendiAksiyonu db actionId userId with
  | none =>
    refine .inl ⟨fun pending p ws _ h => ?_, ?_, ?_⟩
    · rw [h.aksiyon] at ha
      cases ha
    · simp [executePendingAction, ha]
    · simp only [executePendingAction, ha]
  | some pending =>
    by_cases hs : pending.status = .pending
    · obtain ⟨hg, hu⟩ := kendiAksiyonu_eq_some.mp ha
      have hsah : sahiplen db actionId = some (db.write (durumYaz actionId .approved)) :=
        sahiplen_eq_some.mpr ⟨⟨pending, hg, hs⟩, rfl⟩
      have hrun : executePendingAction ariza bugun db actionId userId = uygula ariza (bugun userId)
          (db.write (durumYaz actionId .approved)) actionId userId pending := by
        simp only [executePendingAction, ha, hs, hsah]
        rfl
      rw [hrun]
      have hdb := aksiyonsuz_durumYaz db actionId .approved
      rcases uygula_cases ariza (bugun userId) (db.write (durumYaz actionId .approved)) actionId userId
        pending with ⟨hno, hbas, hd⟩ | ⟨p, handler, ws, e, hk, hc, hd, hson⟩
      · refine .inl ⟨fun pending' p ws hn h => ?_, hbas, hd⟩
        obtain rfl : pending = pending' := by simpa [ha] using h.aksiyon
        obtain ⟨handler, e, hk, hc⟩ := (applies_iff hdb ha hs).mpr ⟨hn, h⟩
        exact hno p handler ws e hk hc
      · obtain ⟨hn, happ⟩ := (applies_iff hdb ha hs).mp ⟨handler, e, hk, hc⟩
        refine .inr ⟨pending, p, ws, hn, happ, ?_, ?_⟩
        · obtain ⟨he, _⟩ := commit_ok.mp hc.kayit
          rw [hd, he]
          exact defter_congr (aksiyonsuz_writeAll hdb ws)
        · refine hson.imp (fun h => h) (fun ⟨hp, hc, hdur⟩ => ⟨hp, hc, ?_⟩)
          rw [hdur]
          simp [Db.write, durumYaz, Table.change, hg]
    · refine .inl ⟨fun pending' p ws _ h => ?_, ?_, ?_⟩
      · obtain rfl : pending = pending' := by simpa [ha] using h.aksiyon
        exact hs h.bekliyor
      · simp [executePendingAction, ha, hs]
      · simp only [executePendingAction, ha, hs, ne_eq, not_false_eq_true, if_true]

private theorem commits_unique {r : Except Durak Islem} {ws ws' : List Write} (h : Commits r ws)
    (h' : Commits r ws') : ws = ws' := by
  obtain ⟨i, hi, rfl⟩ := h
  obtain ⟨j, hj, rfl⟩ := h'
  rw [hi] at hj
  cases hj
  rfl

/-- The state and the request determine what an action applies. -/
theorem Applies.unique {bugun : ℕ → Date} {db : Db} {actionId userId : ℕ}
    {pending pending' : PendingAction} {p p' : Payload} {ws ws' : List Write}
    (h : Applies bugun db actionId userId pending p ws)
    (h' : Applies bugun db actionId userId pending' p' ws') :
    pending = pending' ∧ p = p' ∧ ws = ws' := by
  obtain rfl : pending = pending' := by simpa [h.aksiyon] using h'.aksiyon
  obtain rfl : p = p' := by simpa [h.payload] using h'.payload
  obtain ⟨g, hg, hc⟩ := h.handler
  obtain ⟨g', hg', hc'⟩ := h'.handler
  obtain rfl : g = g' := by simpa [hg] using hg'
  exact ⟨rfl, rfl, commits_unique hc hc'⟩

end FinancialOs.Executor
