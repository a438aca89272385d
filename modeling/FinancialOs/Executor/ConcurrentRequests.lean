import FinancialOs.Executor.ExecutionEffects
import FinancialOs.Library.Interleaving

/-! Approvals and rejections of one action running side by side. Each request takes one database
step at a time and keeps what it has read; the store serialises the steps. -/
namespace FinancialOs.Executor
open Library Store Rules
variable {ι : Type}

inductive Talep where
  | onay (userId : ℕ) (bugun : ℕ → Date) (ariza : Ariza)
  | ret (userId : ℕ) (reason : Option String)

/-- How far a request has come; what it has read travels with it. -/
inductive Konum where
  | basla
  | sahiplenecek
  | onaylayacak
  | yukleyecek
  | denetleyecek (pending : PendingAction)
  | calistiracak (pending : PendingAction) (handler : Ortam → Payload → Except Durak Islem)
      (payload : Option Payload)
  | yazacak (pending : PendingAction) (payload : Option Payload) (cevap : Cevap)
  | basarisizYazacak (mesaj : String) (yanit : Yanit)
  | reddedecek
  | bitti (yanit : Yanit)

namespace Konum

/-- The answer of a request that has returned. -/
def yanit? : Konum → Option Yanit
  | bitti yanit => some yanit
  | _ => none

/-- The request owns the row and its handler call is still ahead. -/
def once : Konum → Bool
  | onaylayacak => true
  | yukleyecek => true
  | denetleyecek _ => true
  | calistiracak _ _ _ => true
  | _ => false

end Konum

/-- The committed store and the row lock behind an uncommitted claim. Two histories go with them:
the request whose handler call is still ahead, and what the handler calls have committed. -/
structure Ortak (ι : Type) where
  db : Db
  kilit : Option ι
  sahip : Option ι
  etkiler : List (ι × List Write)

def Ortak.bos (db : Db) : Ortak ι := ⟨db, none, none, []⟩

/-- The writes a handler call commits, if it commits. -/
def islenen (ariza : Ariza) (o : Ortam) (handler : Ortam → Payload → Except Durak Islem)
    (payload : Option Payload) : Option (List Write) :=
  match ariza.handlerOnce with
  | some _ => none
  | none => match o.cagir handler payload with
    | .error _ => none
    | .ok islem => match commit o.db islem.writes with
      | .error _ => none
      | .ok _ => some islem.writes

/-- The status check on the row just read. -/
def oku (db : Db) (actionId userId : ℕ) (bulunamadi : String) (zaten : String → String) (ileri : Konum) :
    Konum :=
  match kendiAksiyonu db actionId userId with
  | none => .bitti (.bulunamadi bulunamadi)
  | some pending =>
    if pending.status ≠ .pending then .bitti (.zaten (zaten pending.status.value)) else ileri

def beklenmeyenYaz (e : PyError) : Konum :=
  let metin := hataMetni e
  .basarisizYazacak s!"Beklenmeyen hata: {metin}" (.basarisiz metin none)

/-- One database step of `execute_pending_action`. A write to the row waits for its lock. -/
def onayAdimi (actionId userId : ℕ) (bugun : ℕ → Date) (ariza : Ariza) (i : ι) (s : Ortak ι) :
    Konum → Ortak ι × Konum
  | .basla => (s, oku s.db actionId userId s!"Aksiyon bulunamadi: id={actionId}"
      (fun durum => s!"Aksiyon zaten '{durum}' durumunda — tekrar uygulanamaz.") .sahiplenecek)
  | .sahiplenecek => match s.kilit with
    | some _ => (s, .sahiplenecek)
    | none => match sahiplen s.db actionId with
      | some _ => ({ s with kilit := some i, sahip := some i }, .onaylayacak)
      | none => (s, .bitti (.zaten "Aksiyon eş zamanlı başka bir istekte işlendi."))
  | .onaylayacak =>
    ({ s with db := s.db.write (durumYaz actionId .approved), kilit := none }, .yukleyecek)
  -- the commit expired the row's attributes, so it is read again
  | .yukleyecek => match s.db.pendingActions.get? actionId with
    | none => ({ s with sahip := none }, .bitti (.firlatti .databaseError))
    | some pending => (s, .denetleyecek pending)
  | .denetleyecek pending => match kapi s.db userId pending with
    | .dur sebep error baslik =>
      ({ s with sahip := none }, .basarisizYazacak sebep (.basarisiz error baslik))
    | .firlat e => ({ s with sahip := none }, .bitti (.firlatti e))
    | .gec handler payload => (s, .calistiracak pending handler payload)
  | .calistiracak pending handler payload =>
    let o : Ortam := ⟨s.db, pending.workspaceId, userId, bugun userId⟩
    let etki := ((islenen ariza o handler payload).map (fun ws => (i, ws))).toList
    match calistir ariza o handler payload with
    | .red m => ({ s with sahip := none, etkiler := s.etkiler ++ etki },
        .basarisizYazacak m (.basarisiz m none))
    | .hata e db => ({ s with db := db, sahip := none, etkiler := s.etkiler ++ etki }, beklenmeyenYaz e)
    | .tamam cevap db => ({ s with db := db, sahip := none, etkiler := s.etkiler ++ etki },
        .yazacak pending payload cevap)
  | .yazacak pending payload cevap => match s.kilit with
    | some _ => (s, .yazacak pending payload cevap)
    | none => match sonuclandir ariza (bugun userId) s.db actionId pending payload with
      | .error e => (s, beklenmeyenYaz e)
      | .ok db => match ariza.yanit with
        | some e => ({ s with db := db }, beklenmeyenYaz e)
        | none => ({ s with db := db }, .bitti (.basarili cevap))
  | .basarisizYazacak mesaj yanit => match s.kilit with
    | some _ => (s, .basarisizYazacak mesaj yanit)
    | none => ({ s with db := markFailed s.db actionId mesaj }, .bitti yanit)
  | k => (s, k)

def retYaz (actionId : ℕ) (reason : Option String) : Write :=
  .pendingAction (.update actionId (fun p => { p with
    status := .rejected
    errorMessage := (reason.filter (· ≠ "")).orElse (fun _ => p.errorMessage) }))

/-- One database step of `reject_pending_action`; its write does not look at the status again. -/
def retAdimi (actionId userId : ℕ) (reason : Option String) (s : Ortak ι) : Konum → Ortak ι × Konum
  | .basla => (s, oku s.db actionId userId "Aksiyon bulunamadi."
      (fun durum => s!"Aksiyon zaten '{durum}'.") .reddedecek)
  | .reddedecek => match s.kilit with
    | some _ => (s, .reddedecek)
    | none => ({ s with db := s.db.write (retYaz actionId reason) }, .bitti (.reddedildi actionId))
  | k => (s, k)

def talepAdimi (talep : ι → Talep) (actionId : ℕ) (i : ι) (s : Ortak ι) (k : Konum) : Ortak ι × Konum :=
  match talep i with
  | .onay userId bugun ariza => onayAdimi actionId userId bugun ariza i s k
  | .ret userId reason => retAdimi actionId userId reason s k

def baslangic (db : Db) : Pool ι (Ortak ι) Konum := ⟨.bos db, fun _ => .basla⟩

section Alone
variable {actionId userId : ℕ} {bugun : ℕ → Date} {ariza : Ariza} {i : ι} {s : Ortak ι}

private def tekAdim (actionId userId : ℕ) (bugun : ℕ → Date) (ariza : Ariza) (i : ι)
    (r : Ortak ι × Konum) : Ortak ι × Konum := onayAdimi actionId userId bugun ariza i r.1 r.2

/-- A request that runs on undisturbed returns this answer and leaves this database. -/
private def Biter (actionId userId : ℕ) (bugun : ℕ → Date) (ariza : Ariza) (i : ι) (n : ℕ)
    (r : Ortak ι × Konum) (sonuc : Yanit × Db) : Prop :=
  ((tekAdim actionId userId bugun ariza i)^[n] r).1.db = sonuc.2 ∧
    ((tekAdim actionId userId bugun ariza i)^[n] r).2 = .bitti sonuc.1

private theorem biter_bitti (n : ℕ) (yanit : Yanit) :
    Biter actionId userId bugun ariza i n (s, .bitti yanit) (yanit, s.db) := by
  have hfix : tekAdim actionId userId bugun ariza i (s, .bitti yanit) = (s, .bitti yanit) := rfl
  rw [Biter, Function.iterate_fixed hfix]
  exact ⟨rfl, rfl⟩

private theorem biter_succ {n : ℕ} {k : Konum} {sonuc : Yanit × Db}
    (h : Biter actionId userId bugun ariza i n (onayAdimi actionId userId bugun ariza i s k) sonuc) :
    Biter actionId userId bugun ariza i (n + 1) (s, k) sonuc := by
  rw [Biter, Function.iterate_succ_apply]
  exact h

private theorem biter_basarisiz (hs : s.kilit = none) (n : ℕ) (mesaj : String) (yanit : Yanit) :
    Biter actionId userId bugun ariza i (n + 1) (s, .basarisizYazacak mesaj yanit)
      (yanit, markFailed s.db actionId mesaj) := by
  apply biter_succ
  simp only [onayAdimi, hs]
  exact biter_bitti n yanit

/-- Behind a committed claim, an undisturbed request is the executor's own run. -/
private theorem biter_uygula (hs : s.kilit = none) {pending : PendingAction}
    (hp : s.db.pendingActions.get? actionId = some pending) :
    Biter actionId userId bugun ariza i 5 (s, .yukleyecek)
      (uygula ariza (bugun userId) s.db actionId userId pending) := by
  apply biter_succ
  simp only [onayAdimi, hp]
  cases hk : kapi s.db userId pending with
  | dur sebep error baslik =>
    apply biter_succ
    simp only [onayAdimi, uygula, hk]
    exact biter_basarisiz (by exact hs) 2 sebep _
  | firlat e =>
    apply biter_succ
    simp only [onayAdimi, uygula, hk]
    exact biter_bitti 3 _
  | gec handler payload =>
    apply biter_succ
    simp only [onayAdimi, hk]
    cases hc : calistir ariza ⟨s.db, pending.workspaceId, userId, bugun userId⟩ handler payload with
    | red m =>
      apply biter_succ
      simp only [onayAdimi, uygula, hk, hc]
      exact biter_basarisiz (by exact hs) 1 m _
    | hata e db =>
      apply biter_succ
      simp only [onayAdimi, uygula, hk, hc]
      exact biter_basarisiz (by exact hs) 1 _ _
    | tamam cevap db =>
      apply biter_succ
      simp only [onayAdimi, hc]
      cases hson : sonuclandir ariza (bugun userId) db actionId pending payload with
      | error e =>
        apply biter_succ
        simp only [onayAdimi, uygula, hk, hs, hc, hson]
        exact biter_basarisiz rfl 0 _ _
      | ok db' =>
        cases hy : ariza.yanit with
        | some e =>
          apply biter_succ
          simp only [onayAdimi, uygula, hk, hs, hc, hson, hy]
          exact biter_basarisiz rfl 0 _ _
        | none =>
          apply biter_succ
          simp only [onayAdimi, uygula, hk, hs, hc, hson, hy]
          exact biter_bitti 1 _

private theorem biter_onay (hs : s.kilit = none) :
    Biter actionId userId bugun ariza i 8 (s, .basla)
      (executePendingAction ariza bugun s.db actionId userId) := by
  apply biter_succ
  cases ha : kendiAksiyonu s.db actionId userId with
  | none =>
    simp only [onayAdimi, oku, executePendingAction, ha]
    exact biter_bitti 7 _
  | some pending =>
    by_cases hp : pending.status = .pending
    · have hget := (kendiAksiyonu_eq_some.mp ha).1
      have hsah : sahiplen s.db actionId = some (s.db.write (durumYaz actionId .approved)) :=
        sahiplen_eq_some.mpr ⟨⟨pending, hget, hp⟩, rfl⟩
      simp only [onayAdimi, oku, executePendingAction, ha, hp, hsah, ne_eq, not_true_eq_false, if_false]
      apply biter_succ
      simp only [onayAdimi, hs, hsah]
      apply biter_succ
      simp only [onayAdimi]
      have hrow : (s.db.write (durumYaz actionId .approved)).pendingActions.get? actionId =
          some { pending with status := .approved } := by
        simp [durumYaz, Db.write, Table.change, hget]
      -- the reloaded row differs from the one first read in its status only, which is not read again
      have hreload : uygula ariza (bugun userId) (s.db.write (durumYaz actionId .approved)) actionId userId
          { pending with status := .approved } =
          uygula ariza (bugun userId) (s.db.write (durumYaz actionId .approved)) actionId userId pending := rfl
      rw [← hreload]
      exact biter_uygula rfl hrow
    · simp only [onayAdimi, oku, executePendingAction, ha, hp, ne_eq, not_false_eq_true, if_true]
      exact biter_bitti 7 _

/-- An approval that nobody disturbs is `execute_pending_action` as it stands. -/
theorem approve_alone [DecidableEq ι] {talep : ι → Talep} (ht : talep i = .onay userId bugun ariza)
    (p : Pool ι (Ortak ι) Konum) (hb : p.loc i = .basla) (hs : p.shared.kilit = none) :
    let q := run (Pool.step (talepAdimi talep actionId)) p (List.replicate 8 i)
    q.shared.db = (executePendingAction ariza bugun p.shared.db actionId userId).2 ∧
      q.loc i = .bitti (executePendingAction ariza bugun p.shared.db actionId userId).1 := by
  have hstep : (fun r : Ortak ι × Konum => talepAdimi talep actionId i r.1 r.2) =
      tekAdim actionId userId bugun ariza i := by
    funext r
    simp only [talepAdimi, ht, tekAdim]
  have halone := Pool.run_alone p i 8 (f := talepAdimi talep actionId)
  rw [hstep, hb] at halone
  have hbit : Biter actionId userId bugun ariza i 8 (p.shared, .basla) _ := biter_onay hs
  rw [Biter, ← halone] at hbit
  exact hbit

/-- A rejection that nobody disturbs is `reject_pending_action` as it stands. -/
theorem reject_alone [DecidableEq ι] {talep : ι → Talep} {reason : Option String}
    (ht : talep i = .ret userId reason) (p : Pool ι (Ortak ι) Konum) (hb : p.loc i = .basla)
    (hs : p.shared.kilit = none) :
    let q := run (Pool.step (talepAdimi talep actionId)) p [i, i]
    q.shared.db = (rejectPendingAction p.shared.db actionId userId reason).2 ∧
      q.loc i = .bitti (rejectPendingAction p.shared.db actionId userId reason).1 := by
  simp only [run_cons, run_nil, Pool.step_shared, Pool.step_loc_self, hb, talepAdimi, ht, retAdimi, oku]
  cases ha : kendiAksiyonu p.shared.db actionId userId with
  | none => simp [rejectPendingAction, ha]
  | some pending =>
    by_cases hp : pending.status = .pending
    · simp only [rejectPendingAction, ha, hp, hs, ne_eq, not_true_eq_false, if_false]
      exact ⟨rfl, trivial⟩
    · simp [rejectPendingAction, ha, hp]

end Alone

/-- The points at which a step can leave the status and the effects apart: a rejection may not
write over a claim that is being carried out or has been, and nothing may be raised behind the
handler's commit. -/
def Duzgun (talep : ι → Talep) (i : ι) (s : Ortak ι) (k : Konum) : Prop :=
  match talep i, k with
  | .ret _ _, .reddedecek => s.kilit = none → s.sahip = none ∧ s.etkiler = []
  | .onay userId bugun ariza, .calistiracak pending handler payload =>
    (islenen ariza ⟨s.db, pending.workspaceId, userId, bugun userId⟩ handler payload).isSome = true →
      ariza.handlerSonra = none
  | .onay userId bugun ariza, .yazacak pending payload _ =>
    ariza.durum = none ∧ ariza.tetik = none ∧ ariza.sonYazim = none ∧ ariza.yanit = none ∧
      ¬ TetikBozuk s.db (bugun userId) pending (payload.getD [])
  | _, _ => True

end FinancialOs.Executor
