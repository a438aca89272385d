import FinancialOs.Executor.AccountEffects
import FinancialOs.Store.TouchedRows

/-! The rows an approval writes to: the action's own row, the rows of its handler
and the recurring source it marks, each with the workspace it lies in. -/
namespace FinancialOs.Executor
open Library Store Rules

/-- A write of the executor's own behind the claim: a status, or the mark on a recurring source. -/
inductive DurumYazimi (db : Db) (actionId : ℕ) (pending : PendingAction) : Write → Prop where
  | durum (f : PendingAction → PendingAction) (h : ∀ p, (f p).workspaceId = p.workspaceId)
      (hs : ∀ p, (f p).status ≠ .pending) :
      DurumYazimi db actionId pending (.pendingAction (.update actionId f))
  | gelir (id : ℕ) (r : Recurring) (f : Recurring → Recurring)
      (h : ∀ r, (f r).workspaceId = r.workspaceId) (kaynak : pending.sourceRecurringId = some id)
      (tur : pending.sourceRecurringType = some .income)
      (satir : kaynakKaydi db.incomes id pending.userId = some r) :
      DurumYazimi db actionId pending (.income (.update id f))
  | gider (id : ℕ) (r : Recurring) (f : Recurring → Recurring)
      (h : ∀ r, (f r).workspaceId = r.workspaceId) (kaynak : pending.sourceRecurringId = some id)
      (tur : pending.sourceRecurringType = some .expense)
      (satir : kaynakKaydi db.expenses id pending.userId = some r) :
      DurumYazimi db actionId pending (.expense (.update id f))

theorem durumYazimi_durumYaz (db : Db) (actionId : ℕ) (pending : PendingAction) {s : ActionStatus}
    (hs : s ≠ .pending) : DurumYazimi db actionId pending (durumYaz actionId s) :=
  .durum _ (fun _ => rfl) fun _ => hs

theorem durumYazimi_mark {db db' : Db} (hi : db'.incomes = db.incomes) (he : db'.expenses = db.expenses)
    {bugun : Date} {actionId : ℕ} {pending : PendingAction} {p : Payload} {w : Write}
    (hw : w ∈ markRecurringTriggered db' bugun pending p) : DurumYazimi db actionId pending w := by
  unfold markRecurringTriggered at hw
  rw [hi, he] at hw
  cases hs : pending.sourceRecurringId with
  | none => simp [hs] at hw
  | some id =>
    rcases ht : pending.sourceRecurringType with _ | kind
    · simp [hs, ht] at hw
    · cases kind with
      | income =>
        simp only [hs, ht] at hw
        split at hw
        · next hr =>
          obtain ⟨r, hr⟩ := Option.isSome_iff_exists.mp hr
          obtain rfl := List.mem_singleton.mp hw
          exact .gelir id r _ (fun _ => rfl) hs ht hr
        · cases hw
      | expense =>
        simp only [hs, ht] at hw
        split at hw
        · next hr =>
          obtain ⟨r, hr⟩ := Option.isSome_iff_exists.mp hr
          obtain rfl := List.mem_singleton.mp hw
          exact .gider id r _ (fun _ => rfl) hs ht hr
        · cases hw
      | unknown name => simp [hs, ht] at hw

/-- The write of `_mark_failed`. -/
def basarisizYaz (actionId : ℕ) (error : String) : Write :=
  .pendingAction (.update actionId (fun p => { p with status := .failed, errorMessage := some error }))

private theorem beklenmeyen_writes (db : Db) (actionId : ℕ) (e : PyError) :
    ∃ error, (beklenmeyen db actionId e).2 = db.writeAll [basarisizYaz actionId error] := ⟨_, rfl⟩

/-- The whole of what happens behind a claim: the handler's writes or none, then status writes. -/
theorem uygula_writes (ariza : Ariza) (bugun : Date) (db : Db) (actionId userId : ℕ)
    (pending : PendingAction) :
    ∃ ws son, (uygula ariza bugun db actionId userId pending).2 = db.writeAll (ws ++ son) ∧
      (∀ w ∈ son, DurumYazimi db actionId pending w) ∧
      (ws = [] ∨ ∃ p handler db', kapi db userId pending = .gec handler (some p) ∧
        HandlerCommit ariza ⟨db, pending.workspaceId, userId, bugun⟩ handler (some p) ws db') := by
  have hfail : ∀ error, DurumYazimi db actionId pending (basarisizYaz actionId error) :=
    fun error => .durum _ (fun _ => rfl) fun _ h => by cases h
  cases hk : kapi db userId pending with
  | dur sebep error baslik =>
    refine ⟨[], [basarisizYaz actionId sebep], ?_, by simpa using hfail sebep, .inl rfl⟩
    simp only [uygula, hk]
    rfl
  | firlat e =>
    refine ⟨[], [], ?_, by simp, .inl rfl⟩
    simp only [uygula, hk]
    rfl
  | gec handler payload =>
    rcases calistir_cases ariza ⟨db, pending.workspaceId, userId, bugun⟩ handler payload with
      ⟨⟨m, hc⟩, _⟩ | ⟨⟨e, hc⟩, _⟩ | ⟨ws, db', hcommit, hson⟩
    · refine ⟨[], [basarisizYaz actionId m], ?_, by simpa using hfail m, .inl rfl⟩
      simp only [uygula, hk, hc]
      rfl
    · obtain ⟨error, hb⟩ := beklenmeyen_writes db actionId e
      refine ⟨[], [basarisizYaz actionId error], ?_, by simpa using hfail error, .inl rfl⟩
      simp only [uygula, hk, hc]
      exact hb
    · obtain ⟨p, rfl, hp⟩ := hcommit.cagri
      obtain ⟨rfl, _⟩ := commit_ok.mp hcommit.kayit
      have hws : ∃ q handler' db', Kapi.gec handler (some p) = .gec handler' (some q) ∧
          HandlerCommit ariza ⟨db, pending.workspaceId, userId, bugun⟩ handler' (some q) ws db' :=
        ⟨p, handler, _, rfl, hcommit⟩
      rcases hson with ⟨e, _, hc⟩ | ⟨_, cevap, hc⟩
      · obtain ⟨error, hb⟩ := beklenmeyen_writes (db.writeAll ws) actionId e
        refine ⟨ws, [basarisizYaz actionId error], ?_, by simpa using hfail error, .inr hws⟩
        rw [writeAll_append, ← hb]
        simp only [uygula, hk, hc]
      · cases hs : sonuclandir ariza bugun (db.writeAll ws) actionId pending (some p) with
        | error e =>
          obtain ⟨error, hb⟩ := beklenmeyen_writes (db.writeAll ws) actionId e
          refine ⟨ws, [basarisizYaz actionId error], ?_, by simpa using hfail error, .inr hws⟩
          rw [writeAll_append, ← hb]
          simp only [uygula, hk, hc, hs]
        | ok db'' =>
          have hframe := handler_frame (accepted_iff.mp ⟨handler, (kapi_gec.mp hk).2.1, hp⟩).writes db
          obtain ⟨vs, rfl, hvs⟩ : ∃ vs, db'' = (db.writeAll ws).writeAll vs ∧
              ∀ w ∈ vs, DurumYazimi db actionId pending w := by
            unfold sonuclandir at hs
            split at hs
            · cases hs
            split at hs
            · cases hs
            split at hs
            · cases hs
            refine ⟨_, (commit_ok.mp hs).1, List.forall_mem_cons.mpr ⟨?_, fun w hw => ?_⟩⟩
            · exact durumYazimi_durumYaz db actionId pending (by decide)
            · exact durumYazimi_mark hframe.2.1 hframe.2.2.1 hw
          cases hy : ariza.yanit with
          | none =>
            refine ⟨ws, vs, ?_, hvs, .inr hws⟩
            rw [writeAll_append]
            simp only [uygula, hk, hc, hs, hy]
          | some e =>
            obtain ⟨error, hb⟩ := beklenmeyen_writes ((db.writeAll ws).writeAll vs) actionId e
            refine ⟨ws, vs ++ [basarisizYaz actionId error], ?_, ?_, .inr hws⟩
            · rw [writeAll_append, writeAll_append, ← hb]
              simp only [uygula, hk, hc, hs, hy]
            · intro w hw
              rcases List.mem_append.mp hw with hw | hw
              · exact hvs w hw
              · obtain rfl := List.mem_singleton.mp hw
                exact hfail error

/-- Everything an approval writes: nothing, or the claim, the handler's writes and the status
writes behind them. -/
theorem execute_writes (ariza : Ariza) (bugun : ℕ → Date) (db : Db) (actionId userId : ℕ) :
    (executePendingAction ariza bugun db actionId userId).2 = db ∨
    ∃ pending ws son, kendiAksiyonu db actionId userId = some pending ∧ pending.status = .pending ∧
      (executePendingAction ariza bugun db actionId userId).2 =
        db.writeAll (durumYaz actionId .approved :: (ws ++ son)) ∧
      (∀ w ∈ son, DurumYazimi db actionId pending w) ∧
      (ws = [] ∨ ∃ p, Applies bugun db actionId userId pending p ws) := by
  cases ha : kendiAksiyonu db actionId userId with
  | none =>
    left
    simp only [executePendingAction, ha]
  | some pending =>
    by_cases hs : pending.status = .pending
    · right
      have hsah : sahiplen db actionId = some (db.write (durumYaz actionId .approved)) :=
        sahiplen_eq_some.mpr ⟨⟨pending, (kendiAksiyonu_eq_some.mp ha).1, hs⟩, rfl⟩
      have hdb := aksiyonsuz_durumYaz db actionId .approved
      obtain ⟨ws, son, hrun, hson, hws⟩ := uygula_writes ariza (bugun userId)
        (db.write (durumYaz actionId .approved)) actionId userId pending
      refine ⟨pending, ws, son, rfl, hs, ?_, ?_, ?_⟩
      · simp only [executePendingAction, ha, hs, hsah]
        exact hrun
      · intro w hw
        cases hson w hw with
        | durum f h hdur => exact .durum f h hdur
        | gelir id r f h kaynak tur satir => exact .gelir id r f h kaynak tur satir
        | gider id r f h kaynak tur satir => exact .gider id r f h kaynak tur satir
      · rcases hws with hws | ⟨p, handler, e, hk, hc⟩
        · exact .inl hws
        · exact .inr ⟨p, ((applies_iff hdb ha hs).mp ⟨handler, e, hk, hc⟩).2⟩
    · left
      simp only [executePendingAction, ha, hs, ne_eq, not_false_eq_true, if_true]

section Scope
variable {o : Ortam} {p : Payload} {ws : List Write} {r : ℕ} {P : Option ℕ → Prop}

theorem scope_workspace {α : Type} [Scoped α] {a : α} {userId : ℕ}
    (h : scopeFilter userId (some r) a = true) : Scoped.workspaceId a = some r := of_decide_eq_true h

theorem kapsam_some (hk : o.kapsam none = some r) : o.kapsam (some r) = some r := by
  unfold Ortam.kapsam yazmaWorkspaceId at hk ⊢
  cases ha : o.aktif with
  | some w =>
    rw [ha] at hk
    exact hk
  | none => rfl

theorem Names.workspace (hk : o.kapsam none = some r) {v : PyValue} {id : ℕ} {a : Account}
    (h : Names o v id a) : a.workspaceId = some r := by
  have hs := (findById_eq_some.mp h).2.2
  rw [hk] at hs
  exact scope_workspace hs

theorem varsayilanNakit_workspace {db : Db} {userId : ℕ} {h : ℕ × Account}
    (hv : varsayilanNakitHesap db userId (some r) = some h) : h.2.workspaceId = some r :=
  scope_workspace (varsayilanHesap_spec hv).2.1

/-- Rewriting an account that has the property, without moving it. -/
theorem kapsaminda_account {db : Db} {id : ℕ} {a : Account} {f : Account → Account}
    (hf : ∀ b, (f b).workspaceId = b.workspaceId) (ha : db.accounts.get? id = some a)
    (hP : P a.workspaceId) : (Write.account (.update id f)).Kapsaminda P db := by
  constructor
  · intro b hb
    have hkept : P (f b).workspaceId := by
      rw [hf b]
      exact hb
    exact hkept
  · intro b hb
    obtain rfl : a = b := by simpa [ha] using hb
    exact hP

theorem kapsaminda_bakiyeEkle {db : Db} {id : ℕ} {a : Account} (ha : db.accounts.get? id = some a)
    (hP : P a.workspaceId) (q : ℚ) : (bakiyeEkle id q).Kapsaminda P db :=
  kapsaminda_account (fun _ => rfl) ha hP

/-- The accounts a handler reaches by their owner or by a trace alone, where they have the property. -/
structure AcikHesaplar (P : Option ℕ → Prop) (o : Ortam) (p : Payload) (t : ActionType) : Prop where
  fiyat : t = .updateFundPrice → ∀ id a fiyat, PriceUpdate o p id a fiyat → P a.workspaceId
  iz : t = .markDebtPaid → ∀ id d tarih h, DebtPayment o p id d tarih → d.amount ≠ 0 →
    izHesabi o.db d.settlementAccountId = some h → P h.2.workspaceId

private theorem odemeHedefi_yeri (hk : o.kapsam none = some r) (hP : P (some r))
    (hs : AcikHesaplar P o p .markDebtPaid) {id : ℕ} {d : PersonalDebt} {tarih : Date}
    (hp : DebtPayment o p id d tarih) {h : ℕ × Account} (hh : odemeHedefi o d = some h) :
    o.db.accounts.get? h.1 = some h.2 ∧ P h.2.workspaceId := by
  obtain ⟨hamount, hhedef⟩ := odemeHedefi_some.mp hh
  refine ⟨hedefHesap_row hhedef, ?_⟩
  rcases hedefHesap_cases hhedef with hi | ⟨_, hv⟩
  · exact hs.iz rfl id d tarih h hp hamount hi
  · rw [hk] at hv
    rw [varsayilanNakit_workspace hv]
    exact hP

private theorem odemeKaynagi_workspace (hk : o.kapsam none = some r) {v : PyValue} {s : ℕ × Account}
    (h : odemeKaynagi o v = .ok (some s)) : s.2.workspaceId = some r := by
  rcases odemeKaynagi_some.mp h with ⟨_, hv⟩ | ⟨_, hn⟩
  · rw [hk] at hv
    exact varsayilanNakit_workspace hv
  · exact hn.workspace hk

private theorem islem_workspace (hk : o.kapsam none = some r) {hesap : Option (ℕ × Account)}
    {txn : Transaction} (h : TransactionEntry o p hesap txn) :
    (∀ g, hesap = some g → g.2.workspaceId = some r) ∧ txn.workspaceId = some r := by
  have hhesap : ∀ g, hesap = some g → g.2.workspaceId = some r := by
    intro g hg
    subst hg
    exact (islemHesabi_some.mp h.secim).2.1.workspace hk
  refine ⟨hhesap, ?_⟩
  rw [h.kapsam]
  cases hesap with
  | none => exact hk
  | some g =>
    rw [Option.bind_some, hhesap g rfl]
    exact kapsam_some hk

/-- A handler writes to rows of its scope, as far as its open lookups stay there. -/
theorem Accepted.kapsaminda (hk : o.kapsam none = some r) (hP : P (some r)) {t : ActionType}
    (h : Accepted o p t ws) (hs : AcikHesaplar P o p t) : ∀ w ∈ ws, w.Kapsaminda P o.db := by
  have hesap : ∀ a : Account, a.workspaceId = some r → P a.workspaceId := by
    intro a ha
    rw [ha]
    exact hP
  intro w hw
  cases h with
  | bakiye id a nb h =>
    obtain rfl := List.mem_singleton.mp hw
    exact kapsaminda_account (fun _ => rfl) h.hesap.row (hesap a (h.hesap.workspace hk))
  | islem g txn h =>
    obtain ⟨hg, htxn⟩ := islem_workspace hk h
    rcases List.mem_cons.mp hw with rfl | hw
    · have hins : P txn.workspaceId := by
        rw [htxn]
        exact hP
      exact hins
    · obtain ⟨b, hb, rfl⟩ := Option.map_eq_some_iff.mp (Option.mem_toList.mp hw)
      obtain ⟨g, rfl, _, rfl⟩ := bakiyeBacagi_some.mp hb
      exact kapsaminda_bakiyeEkle (islemHesabi_some.mp h.secim).2.1.row (hesap g.2 (hg g rfl)) _
  | borc id d tarih h =>
    rcases List.mem_cons.mp hw with rfl | hw
    · obtain ⟨_, hrow, hscope⟩ := findById_eq_some.mp h.borc
      rw [hk] at hscope
      refine ⟨fun b hb => hb, fun b hb => ?_⟩
      obtain rfl : d = b := by simpa [hrow] using hb
      rw [scope_workspace hscope]
      exact hP
    · rw [(odemeSonucu_unpaid h.odenmemis tarih).1] at hw
      obtain ⟨g, hg, rfl⟩ := Option.map_eq_some_iff.mp (Option.mem_toList.mp hw)
      obtain ⟨hrow, hin⟩ := odemeHedefi_yeri hk hP hs h hg
      exact kapsaminda_bakiyeEkle hrow hin _
  | kart card source q h =>
    rcases List.mem_pair.mp hw with rfl | rfl
    · exact kapsaminda_bakiyeEkle h.kart.row (hesap card.2 (h.kart.workspace hk)) _
    · exact kapsaminda_bakiyeEkle (odemeKaynagi_row h.kaynak)
        (hesap source.2 (odemeKaynagi_workspace hk h.kaynak)) _
  | satis inv credit fiyat sim h =>
    rcases List.mem_pair.mp hw with rfl | rfl
    · exact kapsaminda_account (fun _ => rfl) h.yatirim.row (hesap inv.2 (h.yatirim.workspace hk))
    · exact kapsaminda_bakiyeEkle h.hedef.row (hesap credit.2 (h.hedef.workspace hk)) _
  | fiyat id a fiyat h =>
    obtain rfl := List.mem_singleton.mp hw
    exact kapsaminda_account (fun _ => rfl) (findById_eq_some.mp h.hesap).2.1 (hs.fiyat rfl id a fiyat h)
  | kural c h =>
    obtain rfl := List.mem_singleton.mp hw
    obtain ⟨c', hc, _, hw', _⟩ := addMasterCheckpoint_commits h
    obtain rfl : c = c' := by simpa using hc
    have hins : P c.workspaceId := by
      rw [hw', hk]
      exact hP
    exact hins

/-- The accounts a handler looks up by their owner alone, where they are in the workspace. -/
structure AcikAramalar (r : ℕ) (db : Db) (userId : ℕ) (t : ActionType) (p : Payload) : Prop where
  fiyat : t = .updateFundPrice → ∀ id a,
    findById db.accounts userId none (p.get .accountId) = .ok (some (id, a)) → Icinde r a.workspaceId
  iz : t = .markDebtPaid → ∀ id d h,
    findById db.debts userId (some r) (p.get .debtId) = .ok (some (id, d)) →
      izHesabi db d.settlementAccountId = some h → Icinde r h.2.workspaceId

/-- A handler whose open lookups stay in its scope writes to no other workspace. -/
theorem Accepted.icinde (hk : o.kapsam none = some r) {t : ActionType} (h : Accepted o p t ws)
    (hs : AcikAramalar r o.db o.userId t p) : ∀ w ∈ ws, w.Icinde r o.db := by
  have hacik : AcikHesaplar (Icinde r) o p t := by
    constructor
    · intro ht id a fiyat hf
      exact hs.fiyat ht id a hf.hesap
    · intro ht id d tarih g hd _ hi
      have hborc := hd.borc
      rw [hk] at hborc
      exact hs.iz ht id d g hborc hi
  intro w hw
  exact Write.icinde_iff.mpr (h.kapsaminda hk icinde_some hacik w hw)

end Scope

end FinancialOs.Executor
