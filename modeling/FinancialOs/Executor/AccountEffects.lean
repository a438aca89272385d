import FinancialOs.Executor.ExecutionEffects

/-! The effect of an applied action on a single account row, and what the flush
check demands of the rows an action touches. -/
namespace FinancialOs.Executor
open Library Store Rules
variable {ws : List Write}

/-- The flush check of an account, which no handler write can break or repair. -/
def KartAlanlariTutarli (a : Account) : Prop :=
  a.accountType = .creditCard ∨ doluKartAlanlari a = []

/-- What one write does to the account row under a key. -/
def hesapEtkisi (k : ℕ) (a : Account) : Write → Account
  | .account (.update id f) => if id = k then f a else a
  | _ => a

theorem hesapEtkisi_bakiyeEkle (k id : ℕ) (q : ℚ) (a : Account) :
    hesapEtkisi k a (bakiyeEkle id q) = if id = k then { a with balance := a.balance + q } else a := rfl

theorem hesapEtkisi_bakiyeYaz (k id : ℕ) (q : ℚ) (a : Account) :
    hesapEtkisi k a (bakiyeYaz id q) = if id = k then { a with balance := q } else a := rfl

theorem hesapEtkisi_satisYaz (k id : ℕ) (sim : SatisSimulasyonu) (fiyat : ℚ) (a : Account) :
    hesapEtkisi k a (satisYaz id sim fiyat) =
      if id = k then
        { a with lotCount := some sim.kalanLot, balance := sim.kalanDeger, currentPrice := some fiyat }
      else a := rfl

theorem hesapEtkisi_fiyatYaz (k id : ℕ) (fiyat deger : ℚ) (a : Account) :
    hesapEtkisi k a (fiyatYaz id fiyat deger) =
      if id = k then { a with currentPrice := some fiyat, balance := deger } else a := rfl

@[simp] theorem hesapEtkisi_odendiYaz (k id : ℕ) (tarih : Date) (iz : Option ℕ) (a : Account) :
    hesapEtkisi k a (odendiYaz id tarih iz) = a := rfl

@[simp] theorem hesapEtkisi_transaction (k : ℕ) (a : Account) (c : Table.Change Transaction) :
    hesapEtkisi k a (.transaction c) = a := rfl

@[simp] theorem hesapEtkisi_checkpoint (k : ℕ) (a : Account) (c : Table.Change MasterCheckpoint) :
    hesapEtkisi k a (.checkpoint c) = a := rfl

theorem balance_bakiyeEkle (k id : ℕ) (q : ℚ) (a : Account) :
    (hesapEtkisi k a (bakiyeEkle id q)).balance = a.balance + if id = k then q else 0 := by
  rw [hesapEtkisi_bakiyeEkle]
  split <;> simp

/-- The row under a key after the writes of a handler. -/
theorem accounts_row (h : ∀ w ∈ ws, HandlerWrite w) (db : Db) (k : ℕ) :
    (db.writeAll ws).accounts.get? k =
      (db.accounts.get? k).map (fun a => ws.foldl (hesapEtkisi k) a) := by
  induction ws generalizing db with
  | nil => simp
  | cons w ws ih =>
    rw [writeAll_cons, ih (fun x hx => h x (List.mem_cons_of_mem _ hx))]
    have hw : (db.write w).accounts.get? k = (db.accounts.get? k).map (hesapEtkisi k · w) := by
      cases h w List.mem_cons_self with
      | account id f hf =>
        simp only [Db.write, Table.change, Table.get?_modify, hesapEtkisi]
        by_cases hk : k = id
        · simp [hk]
        · have hk' : id ≠ k := fun he => hk he.symm
          simp [hk, hk']
      | transaction t => simp [Db.write, hesapEtkisi]
      | debt id f hf => simp [Db.write, hesapEtkisi]
      | checkpoint c => simp [Db.write, hesapEtkisi]
    rw [hw, Option.map_map]
    rfl

/-- The columns of an account that no handler writes. -/
structure SameIdentity (a b : Account) : Prop where
  userId : b.userId = a.userId
  workspaceId : b.workspaceId = a.workspaceId
  name : b.name = a.name
  accountType : b.accountType = a.accountType
  kart : doluKartAlanlari b = doluKartAlanlari a
  costPerLot : b.costPerLot = a.costPerLot
  isEmanet : b.isEmanet = a.isEmanet

theorem foldl_sameIdentity (h : ∀ w ∈ ws, HandlerWrite w) (k : ℕ) (a : Account) :
    SameIdentity a (ws.foldl (hesapEtkisi k) a) := by
  induction ws generalizing a with
  | nil => exact ⟨rfl, rfl, rfl, rfl, rfl, rfl, rfl⟩
  | cons w ws ih =>
    have hrest := ih (fun x hx => h x (List.mem_cons_of_mem _ hx)) (hesapEtkisi k a w)
    have hw : SameIdentity a (hesapEtkisi k a w) := by
      cases h w List.mem_cons_self with
      | account id f hf =>
        simp only [hesapEtkisi]
        split
        · rw [hf a]
          exact ⟨rfl, rfl, rfl, rfl, rfl, rfl, rfl⟩
        · exact ⟨rfl, rfl, rfl, rfl, rfl, rfl, rfl⟩
      | transaction t => exact ⟨rfl, rfl, rfl, rfl, rfl, rfl, rfl⟩
      | debt id f hf => exact ⟨rfl, rfl, rfl, rfl, rfl, rfl, rfl⟩
      | checkpoint c => exact ⟨rfl, rfl, rfl, rfl, rfl, rfl, rfl⟩
    exact ⟨hrest.userId.trans hw.userId, hrest.workspaceId.trans hw.workspaceId,
      hrest.name.trans hw.name, hrest.accountType.trans hw.accountType, hrest.kart.trans hw.kart,
      hrest.costPerLot.trans hw.costPerLot, hrest.isEmanet.trans hw.isEmanet⟩

/-- What the rows before the action must satisfy for one of its writes to be flushed. -/
def Saglam (db : Db) : Write → Prop
  | .account (.update id _) => ∀ a, db.accounts.get? id = some a → KartAlanlariTutarli a
  | .transaction (.insert t) => ∀ id, t.accountId = some id → (db.accounts.get? id).isSome = true
  | _ => True

theorem saglam_account {db : Db} {id : ℕ} {f : Account → Account} {a : Account}
    (ha : db.accounts.get? id = some a) (ht : KartAlanlariTutarli a) :
    Saglam db (.account (.update id f)) := by
  intro b hb
  obtain rfl : a = b := by simpa [ha] using hb
  exact ht

private theorem flush_account (h : ∀ w ∈ ws, HandlerWrite w) {db : Db} {id : ℕ}
    {f : Account → Account} :
    flushOncesi (db.writeAll ws) (.account (.update id f)) = .ok () ↔
      Saglam db (.account (.update id f)) := by
  simp only [flushOncesi, checkChange, accounts_row h, Saglam]
  cases hg : db.accounts.get? id with
  | none => simp
  | some a =>
    have hs := foldl_sameIdentity h id a
    simp only [Option.map_some, denetleHesap_ok, hs.accountType, hs.kart, Option.some.injEq,
      KartAlanlariTutarli, forall_eq']

private theorem flush_transaction (h : ∀ w ∈ ws, HandlerWrite w) {db : Db} {t : Transaction} :
    flushOncesi (db.writeAll ws) (.transaction (.insert t)) = .ok () ↔
      Saglam db (.transaction (.insert t)) := by
  simp only [flushOncesi, checkChange, hesapVar, Saglam]
  cases t.accountId with
  | none => simp
  | some id =>
    simp [accounts_row h, Option.isSome_iff_ne_none]

private theorem debts_kept (h : ∀ w ∈ ws, HandlerWrite w) {db : Db} {id : ℕ}
    (hd : ∀ d, db.debts.get? id = some d → d.isPaid = d.paidDate.isSome) :
    ∀ d, (db.writeAll ws).debts.get? id = some d → d.isPaid = d.paidDate.isSome := by
  induction ws generalizing db with
  | nil => exact hd
  | cons w ws ih =>
    refine ih (fun x hx => h x (List.mem_cons_of_mem _ hx)) fun d hg => ?_
    cases h w List.mem_cons_self with
    | debt k f hf =>
      simp only [Db.write, Table.change, Table.get?_modify] at hg
      split at hg
      · obtain ⟨e, _, rfl⟩ := Option.map_eq_some_iff.mp hg
        exact hf e
      · exact hd d hg
    | account k f hf => exact hd d hg
    | transaction t => exact hd d hg
    | checkpoint c => exact hd d hg

private theorem debts_written (h : ∀ w ∈ ws, HandlerWrite w) {db : Db} {id : ℕ}
    {f : PersonalDebt → PersonalDebt} (hm : .debt (.update id f) ∈ ws) :
    ∀ d, (db.writeAll ws).debts.get? id = some d → d.isPaid = d.paidDate.isSome := by
  induction ws generalizing db with
  | nil => cases hm
  | cons w ws ih =>
    have hrest := fun x hx => h x (List.mem_cons_of_mem w hx)
    rcases List.mem_cons.mp hm with rfl | hm
    · refine debts_kept hrest fun d hg => ?_
      simp only [Db.write, Table.change, Table.get?_modify, if_true] at hg
      obtain ⟨e, _, rfl⟩ := Option.map_eq_some_iff.mp hg
      cases h _ List.mem_cons_self with
      | debt _ _ hf => exact hf e
    · exact ih hrest hm

private theorem flush_debt (h : ∀ w ∈ ws, HandlerWrite w) {db : Db} {id : ℕ}
    {f : PersonalDebt → PersonalDebt} (hm : .debt (.update id f) ∈ ws) :
    flushOncesi (db.writeAll ws) (.debt (.update id f)) = .ok () := by
  simp only [flushOncesi, checkChange]
  cases hg : (db.writeAll ws).debts.get? id with
  | none => rfl
  | some d => exact denetleBorc_ok.mpr (debts_written h hm d hg)

/-- The flush check of a handler's writes, on the rows before the action. -/
theorem Accepted.flush_iff {o : Ortam} {p : Payload} {t : ActionType} (h : Accepted o p t ws) (db : Db) :
    (∀ w ∈ ws, flushOncesi (db.writeAll ws) w = .ok ()) ↔ ∀ w ∈ ws, Saglam db w := by
  have hw := h.writes
  have heach : ∀ w ∈ ws, flushOncesi (db.writeAll ws) w = .ok () ↔ Saglam db w := by
    intro w hm
    cases hw w hm with
    | account id f hf => exact flush_account hw
    | transaction t => exact flush_transaction hw
    | debt id f hf => simp [flush_debt hw hm, Saglam]
    | checkpoint c => simp [flushOncesi, Saglam]
  exact forall₂_congr heach

/-- An own pending action that decodes to an object and passes the rule gate. -/
structure Reaches (db : Db) (actionId userId : ℕ) (pending : PendingAction) (p : Payload) : Prop where
  aksiyon : kendiAksiyonu db actionId userId = some pending
  bekliyor : pending.status = .pending
  payload : pending.payload = .object p
  kurallar : enforceUserRules db userId pending.actionType (some p) pending.workspaceId = .ok none

theorem applies_iff_accepted {bugun : ℕ → Date} {db : Db} {actionId userId : ℕ}
    {pending : PendingAction} {p : Payload} :
    Applies bugun db actionId userId pending p ws ↔
      Reaches db actionId userId pending p ∧
        Accepted (ortam bugun db pending userId) p pending.actionType ws ∧ ∀ w ∈ ws, Saglam db w := by
  constructor
  · intro h
    have hacc := accepted_iff.mp h.handler
    exact ⟨⟨h.aksiyon, h.bekliyor, h.payload, h.kurallar⟩, hacc, (hacc.flush_iff db).mp h.flush⟩
  · rintro ⟨hr, hacc, hs⟩
    exact ⟨hr.aksiyon, hr.bekliyor, hr.payload, hr.kurallar, accepted_iff.mpr hacc,
      (hacc.flush_iff db).mpr hs⟩

/-- A property of the ledger after the executor, for a state in which it already holds. -/
theorem execute_defter_iff {P : Defter → Prop} {ariza : Ariza} {bugun : ℕ → Date} {db : Db}
    {actionId userId : ℕ} (h : P (Defter.oku db)) :
    P (Defter.oku (executePendingAction ariza bugun db actionId userId).2) ↔
      ∀ pending p ws, ariza.handlerOnce = none → Applies bugun db actionId userId pending p ws →
        P (Defter.oku (db.writeAll ws)) := by
  rcases execute_cases ariza bugun db actionId userId with
    ⟨hno, _, hd⟩ | ⟨pending, p, ws, hn, happ, hd, _⟩
  · rw [hd]
    exact ⟨fun _ pending p ws hn happ => absurd happ (hno pending p ws hn), fun _ => h⟩
  · rw [hd]
    constructor
    · intro hp pending' p' ws' _ happ'
      obtain ⟨_, _, rfl⟩ := happ.unique happ'
      exact hp
    · intro hp
      exact hp pending p ws hn happ

end FinancialOs.Executor
