import FinancialOs.Executor.ConcurrentRequests

/-! Inversion of the steps of concurrent requests: what one step can do to the row, the lock
and the ledger. Everything proved about interleavings starts from these. -/
namespace FinancialOs.Executor
open Library Store Rules
variable {ι : Type} {actionId : ℕ}

namespace Konum

/-- Between the committed claim and the handler call. -/
def tasiyan : Konum → Bool
  | yukleyecek => true
  | denetleyecek _ => true
  | calistiracak _ _ _ => true
  | _ => false

/-- A request that owns nothing and has changed nothing. -/
def etkisiz : Konum → Bool
  | sahiplenecek => true
  | reddedecek => true
  | bitti (.bulunamadi _) => true
  | bitti (.zaten _) => true
  | _ => false

/-- A claim that was given up: the failure is still to be written, or an exception has left. -/
def vazgecen : Konum → Bool
  | basarisizYazacak _ _ => true
  | bitti (.firlatti _) => true
  | _ => false

/-- A failure that is still to be written. -/
def basarisizMi : Konum → Bool
  | basarisizYazacak _ _ => true
  | _ => false

/-- The handler has committed, the final status is still to be written. -/
def yazacakMi : Konum → Bool
  | yazacak _ _ _ => true
  | _ => false

/-- A handler is only called when the dispatch table has it. -/
def Kayitli : Konum → Prop
  | calistiracak pending handler _ => actionHandlers pending.actionType = some handler
  | _ => True

end Konum

namespace Konum
variable {k : Konum}

/-- A place from which no handler call lies ahead. -/
structure Bosta (k : Konum) : Prop where
  once : k.once = false
  kilit : k ≠ .onaylayacak
  kayit : k.Kayitli

theorem tasiyan_once (h : k.tasiyan = true) : k.once = true ∧ k ≠ .onaylayacak := by
  cases k <;> simp_all [tasiyan, once]

theorem etkisiz_bosta (h : k.etkisiz = true) : k.Bosta := by
  cases k with
  | sahiplenecek => exact ⟨rfl, (nomatch ·), trivial⟩
  | reddedecek => exact ⟨rfl, (nomatch ·), trivial⟩
  | bitti yanit => exact ⟨rfl, (nomatch ·), trivial⟩
  | _ => cases h

theorem vazgecen_bosta (h : k.vazgecen = true) : k.Bosta := by
  cases k with
  | basarisizYazacak mesaj yanit => exact ⟨rfl, (nomatch ·), trivial⟩
  | bitti yanit => exact ⟨rfl, (nomatch ·), trivial⟩
  | _ => cases h

theorem basarisizMi_bosta (h : k.basarisizMi = true) : k.Bosta := by
  cases k with
  | basarisizYazacak mesaj yanit => exact ⟨rfl, (nomatch ·), trivial⟩
  | _ => cases h

theorem yazacakMi_bosta (h : k.yazacakMi = true) : k.Bosta := by
  cases k with
  | yazacak pending payload cevap => exact ⟨rfl, (nomatch ·), trivial⟩
  | _ => cases h

theorem bitti_bosta (yanit : Yanit) : (bitti yanit).Bosta := ⟨rfl, (nomatch ·), trivial⟩

end Konum

/-- What one step of a request can do. -/
inductive Hareket (talep : ι → Talep) (actionId : ℕ) (i : ι) (s : Ortak ι) :
    Konum → Ortak ι → Konum → Prop where
  | bekle (k : Konum) : Hareket talep actionId i s k s k
  | oku (k k' : Konum) (hk : k = .basla ∨ k = .sahiplenecek) (hk' : k'.etkisiz = true) :
      Hareket talep actionId i s k s k'
  | sahiplen (hkilit : s.kilit = none) (hdurum : durumu s.db actionId = some .pending) :
      Hareket talep actionId i s .sahiplenecek { s with kilit := some i, sahip := some i } .onaylayacak
  | onayla : Hareket talep actionId i s .onaylayacak
      { s with db := s.db.write (durumYaz actionId .approved), kilit := none } .yukleyecek
  | ilerle (k k' : Konum) (hk : k.tasiyan = true) (hk' : k'.tasiyan = true) (hkayit : k'.Kayitli) :
      Hareket talep actionId i s k s k'
  | vazgec (k k' : Konum) (hk : k.tasiyan = true) (hk' : k'.vazgecen = true) :
      Hareket talep actionId i s k { s with sahip := none } k'
  | isledi (k k' : Konum) (ws : List Write) (hk : k.tasiyan = true) (hws : ∀ w ∈ ws, HandlerWrite w)
      (hk' : k'.yazacakMi = true ∨ k'.basarisizMi = true ∧ ¬ Duzgun talep i s k) :
      Hareket talep actionId i s k
        { s with db := s.db.writeAll ws, sahip := none, etkiler := s.etkiler ++ [(i, ws)] } k'
  | yaz (k k' : Konum) (db : Db) (hk : k.yazacakMi = true) (hdefter : Defter.oku db = Defter.oku s.db)
      (hdurum : durumu db actionId = (durumu s.db actionId).map (fun _ => .executed))
      (hk' : (∃ cevap, k' = .bitti (.basarili cevap)) ∨ k'.basarisizMi = true ∧ ¬ Duzgun talep i s k) :
      Hareket talep actionId i s k { s with db := db } k'
  | yazamadi (k k' : Konum) (hk : k.yazacakMi = true) (hk' : k'.basarisizMi = true)
      (hd : ¬ Duzgun talep i s k) : Hareket talep actionId i s k s k'
  | basarisiz (mesaj : String) (yanit : Yanit) (hkilit : s.kilit = none) :
      Hareket talep actionId i s (.basarisizYazacak mesaj yanit)
        { s with db := markFailed s.db actionId mesaj } (.bitti yanit)
  | reddet (reason : Option String) (hkilit : s.kilit = none)
      (hd : Duzgun talep i s .reddedecek → s.sahip = none ∧ s.etkiler = []) :
      Hareket talep actionId i s .reddedecek { s with db := s.db.write (retYaz actionId reason) }
        (.bitti (.reddedildi actionId))

theorem islenen_eq_some {ariza : Ariza} {o : Ortam} {handler : Ortam → Payload → Except Durak Islem}
    {payload : Option Payload} {ws : List Write} :
    islenen ariza o handler payload = some ws ↔
      ariza.handlerOnce = none ∧ (∃ p, payload = some p ∧ Commits (handler o p) ws) ∧
        commit o.db ws = .ok (o.db.writeAll ws) := by
  unfold islenen
  cases ariza.handlerOnce with
  | some e => simp
  | none =>
    cases payload with
    | none => simp [Ortam.cagir]
    | some p =>
      cases hc : handler o p with
      | error d => simp [Ortam.cagir, hc, Commits]
      | ok islem =>
        cases hk : commit o.db islem.writes with
        | error e =>
          simp only [Ortam.cagir, hc, hk, reduceCtorEq, Option.some.injEq, exists_eq_left', Commits,
            Except.ok.injEq, true_and, false_iff, not_and]
          rintro rfl
          simp [hk]
        | ok db =>
          obtain ⟨rfl, _⟩ := commit_ok.mp hk
          simp only [Ortam.cagir, hc, hk, Option.some.injEq, exists_eq_left', Commits, Except.ok.injEq,
            true_and, iff_self_and]
          rintro rfl
          exact hk

/-- A handler call and its history agree: it commits what it records, and fails behind the commit
exactly on an exception injected there. -/
theorem calistir_islenen (ariza : Ariza) (o : Ortam) (handler : Ortam → Payload → Except Durak Islem)
    (payload : Option Payload) :
    (islenen ariza o handler payload = none ∧
      ((∃ m, calistir ariza o handler payload = .red m) ∨
        ∃ e, calistir ariza o handler payload = .hata e o.db)) ∨
    ∃ ws, islenen ariza o handler payload = some ws ∧
      ((∃ e, ariza.handlerSonra = some e ∧
          calistir ariza o handler payload = .hata e (o.db.writeAll ws)) ∨
        ∃ cevap, calistir ariza o handler payload = .tamam cevap (o.db.writeAll ws)) := by
  have hnone (hno : ∀ ws db, ¬ HandlerCommit ariza o handler payload ws db) :
      islenen ariza o handler payload = none := by
    rw [Option.eq_none_iff_forall_ne_some]
    intro ws hws
    obtain ⟨hn, hp, hc⟩ := islenen_eq_some.mp hws
    exact hno ws _ ⟨hn, hp, hc⟩
  rcases calistir_cases ariza o handler payload with
    ⟨hred, hno⟩ | ⟨hhata, hno⟩ | ⟨ws, db, hcommit, hson⟩
  · exact .inl ⟨hnone hno, .inl hred⟩
  · exact .inl ⟨hnone hno, .inr hhata⟩
  · obtain ⟨rfl, _⟩ := commit_ok.mp hcommit.kayit
    refine .inr ⟨ws, islenen_eq_some.mpr ⟨hcommit.saglam, hcommit.cagri, hcommit.kayit⟩, ?_⟩
    exact hson.imp (fun h => h) (fun h => h.2)

theorem oku_etkisiz (db : Db) (actionId userId : ℕ) (bulunamadi : String)
    (zaten : String → String) {ileri : Konum} (h : ileri.etkisiz = true) :
    (oku db actionId userId bulunamadi zaten ileri).etkisiz = true := by
  unfold oku
  cases kendiAksiyonu db actionId userId with
  | none => rfl
  | some pending =>
    by_cases hs : pending.status = .pending
    · simp [hs, h]
    · simp [hs, Konum.etkisiz]

private theorem durum_of_sahiplen {db db' : Db} (h : sahiplen db actionId = some db') :
    durumu db actionId = some .pending := by
  obtain ⟨⟨p, hp, hs⟩, _⟩ := sahiplen_eq_some.mp h
  rw [durumu, hp, Option.map_some, hs]

private theorem calistir_hareket {talep : ι → Talep} {i : ι} {userId : ℕ} {bugun : ℕ → Date}
    {ariza : Ariza} (ht : talep i = .onay userId bugun ariza) (s : Ortak ι) (pending : PendingAction)
    (handler : Ortam → Payload → Except Durak Islem) (payload : Option Payload)
    (hkayit : actionHandlers pending.actionType = some handler) :
    Hareket talep actionId i s (.calistiracak pending handler payload)
      (onayAdimi actionId userId bugun ariza i s (.calistiracak pending handler payload)).1
      (onayAdimi actionId userId bugun ariza i s (.calistiracak pending handler payload)).2 := by
  rcases calistir_islenen ariza ⟨s.db, pending.workspaceId, userId, bugun userId⟩ handler payload with
    ⟨hn, ⟨m, hc⟩ | ⟨e, hc⟩⟩ | ⟨ws, hws, hson⟩
  · simp only [onayAdimi, hn, hc, Option.map_none, Option.toList_none, List.append_nil]
    exact .vazgec _ _ rfl rfl
  · simp only [onayAdimi, hn, hc, Option.map_none, Option.toList_none, List.append_nil]
    exact .vazgec _ _ rfl rfl
  · obtain ⟨_, ⟨p, _, hp⟩, _⟩ := islenen_eq_some.mp hws
    have hw : ∀ w ∈ ws, HandlerWrite w := (accepted_iff.mp ⟨handler, hkayit, hp⟩).writes
    rcases hson with ⟨e, he, hc⟩ | ⟨cevap, hc⟩
    · simp only [onayAdimi, hws, hc, Option.map_some, Option.toList_some]
      refine .isledi _ _ ws rfl hw (.inr ⟨rfl, fun hd => ?_⟩)
      simp only [Duzgun, ht, hws, Option.isSome_some, forall_const, he] at hd
      cases hd
    · simp only [onayAdimi, hws, hc, Option.map_some, Option.toList_some]
      exact .isledi _ _ ws rfl hw (.inl rfl)

private theorem yaz_hareket {talep : ι → Talep} {i : ι} {userId : ℕ} {bugun : ℕ → Date}
    {ariza : Ariza} (ht : talep i = .onay userId bugun ariza) (s : Ortak ι) (pending : PendingAction)
    (payload : Option Payload) (cevap : Cevap) :
    Hareket talep actionId i s (.yazacak pending payload cevap)
      (onayAdimi actionId userId bugun ariza i s (.yazacak pending payload cevap)).1
      (onayAdimi actionId userId bugun ariza i s (.yazacak pending payload cevap)).2 := by
  cases hkilit : s.kilit with
  | some j =>
    simp only [onayAdimi, hkilit]
    exact .bekle _
  | none =>
    cases hs : sonuclandir ariza (bugun userId) s.db actionId pending payload with
    | error e =>
      simp only [onayAdimi, hkilit, hs]
      refine .yazamadi _ _ rfl rfl fun hd => ?_
      simp only [Duzgun, ht] at hd
      obtain ⟨db, hdb⟩ := sonuclandir_ok_iff.mpr ⟨hd.1, hd.2.1, hd.2.2.1, hd.2.2.2.2⟩
      rw [hs] at hdb
      cases hdb
    | ok db =>
      have hdurum : durumu db actionId = (durumu s.db actionId).map (fun _ => .executed) := by
        rw [sonuclandir_durum hs, durumu, Option.map_map]
        rfl
      cases hy : ariza.yanit with
      | none =>
        have he : onayAdimi actionId userId bugun ariza i s (.yazacak pending payload cevap) =
            ({ s with db := db }, .bitti (.basarili cevap)) := by simp only [onayAdimi, hkilit, hs, hy]
        rw [he]
        exact .yaz _ _ db rfl (sonuclandir_defter hs) hdurum (.inl ⟨cevap, rfl⟩)
      | some e =>
        have he : onayAdimi actionId userId bugun ariza i s (.yazacak pending payload cevap) =
            ({ s with db := db }, beklenmeyenYaz e) := by simp only [onayAdimi, hkilit, hs, hy]
        rw [he]
        refine .yaz _ _ db rfl (sonuclandir_defter hs) hdurum (.inr ⟨rfl, fun hd => ?_⟩)
        simp only [Duzgun, ht, hy] at hd
        exact absurd hd.2.2.2.1 (by simp)

private theorem onayAdimi_hareket {talep : ι → Talep} {i : ι} {userId : ℕ} {bugun : ℕ → Date}
    {ariza : Ariza} (ht : talep i = .onay userId bugun ariza) (s : Ortak ι) {k : Konum}
    (hkayit : k.Kayitli) :
    Hareket talep actionId i s k (onayAdimi actionId userId bugun ariza i s k).1
      (onayAdimi actionId userId bugun ariza i s k).2 := by
  cases k with
  | basla =>
    refine .oku _ _ (.inl rfl) ?_
    simp only [onayAdimi]
    apply oku_etkisiz
    rfl
  | sahiplenecek =>
    cases hkilit : s.kilit with
    | some j =>
      simp only [onayAdimi, hkilit]
      exact .bekle _
    | none =>
      cases hs : sahiplen s.db actionId with
      | none =>
        simp only [onayAdimi, hkilit, hs]
        exact .oku _ _ (.inr rfl) rfl
      | some db =>
        simp only [onayAdimi, hkilit, hs]
        exact .sahiplen hkilit (durum_of_sahiplen hs)
  | onaylayacak => exact .onayla
  | yukleyecek =>
    cases hp : s.db.pendingActions.get? actionId with
    | none =>
      simp only [onayAdimi, hp]
      exact .vazgec _ _ rfl rfl
    | some pending =>
      simp only [onayAdimi, hp]
      exact .ilerle _ _ rfl rfl trivial
  | denetleyecek pending =>
    cases hk : kapi s.db userId pending with
    | dur sebep error baslik =>
      simp only [onayAdimi, hk]
      exact .vazgec _ _ rfl rfl
    | firlat e =>
      simp only [onayAdimi, hk]
      exact .vazgec _ _ rfl rfl
    | gec handler payload =>
      simp only [onayAdimi, hk]
      exact .ilerle _ _ rfl rfl (kapi_gec.mp hk).2.1
  | calistiracak pending handler payload => exact calistir_hareket ht s pending handler payload hkayit
  | yazacak pending payload cevap => exact yaz_hareket ht s pending payload cevap
  | basarisizYazacak mesaj yanit =>
    cases hkilit : s.kilit with
    | some j =>
      simp only [onayAdimi, hkilit]
      exact .bekle _
    | none =>
      have he : onayAdimi actionId userId bugun ariza i s (.basarisizYazacak mesaj yanit) =
          ({ s with db := markFailed s.db actionId mesaj }, .bitti yanit) := by
        simp only [onayAdimi, hkilit]
      rw [he]
      exact .basarisiz mesaj yanit hkilit
  | reddedecek => exact .bekle _
  | bitti yanit => exact .bekle _

private theorem retAdimi_hareket {talep : ι → Talep} {i : ι} {userId : ℕ} {reason : Option String}
    (ht : talep i = .ret userId reason) (s : Ortak ι) (k : Konum) :
    Hareket talep actionId i s k (retAdimi actionId userId reason s k).1
      (retAdimi actionId userId reason s k).2 := by
  cases k with
  | basla =>
    refine .oku _ _ (.inl rfl) ?_
    simp only [retAdimi]
    apply oku_etkisiz
    rfl
  | reddedecek =>
    cases hkilit : s.kilit with
    | some j =>
      simp only [retAdimi, hkilit]
      exact .bekle _
    | none =>
      have he : retAdimi actionId userId reason s .reddedecek =
          ({ s with db := s.db.write (retYaz actionId reason) }, .bitti (.reddedildi actionId)) := by
        simp only [retAdimi, hkilit]
      rw [he]
      refine .reddet reason hkilit fun hd => ?_
      simp only [Duzgun, ht] at hd
      exact hd hkilit
  | _ => exact .bekle _

/-- Every step of every request is one of the moves. -/
theorem talepAdimi_hareket (talep : ι → Talep) (i : ι) (s : Ortak ι) {k : Konum} (hkayit : k.Kayitli) :
    Hareket talep actionId i s k (talepAdimi talep actionId i s k).1
      (talepAdimi talep actionId i s k).2 := by
  cases ht : talep i with
  | onay userId bugun ariza =>
    simp only [talepAdimi, ht]
    exact onayAdimi_hareket ht s hkayit
  | ret userId reason =>
    simp only [talepAdimi, ht]
    exact retAdimi_hareket ht s k

/-- Writes to tables act on tables. -/
private theorem defter_write {d e : Db} (h : Defter.oku d = Defter.oku e) (w : Write) :
    Defter.oku (d.write w) = Defter.oku (e.write w) := by
  cases d
  cases e
  simp only [Defter.oku, Defter.mk.injEq] at h
  obtain ⟨rfl, rfl, rfl, rfl⟩ := h
  cases w <;> rfl

theorem defter_writeAll {d e : Db} (h : Defter.oku d = Defter.oku e) (ws : List Write) :
    Defter.oku (d.writeAll ws) = Defter.oku (e.writeAll ws) := by
  induction ws generalizing d e with
  | nil => exact h
  | cons w ws ih => exact ih (defter_write h w)

theorem durumu_writeAll {ws : List Write} (h : ∀ w ∈ ws, HandlerWrite w) (db : Db) :
    durumu (db.writeAll ws) actionId = durumu db actionId := by
  rw [durumu, (handler_frame h db).1]
  rfl

/-- A write to the row replaces its status, where there is a row. -/
private theorem durumu_update {db : Db} {f : PendingAction → PendingAction} {durum : ActionStatus}
    (hf : ∀ p, (f p).status = durum) :
    durumu (db.write (.pendingAction (.update actionId f))) actionId =
      (durumu db actionId).map (fun _ => durum) := by
  simp only [durumu, Db.write, Table.change, Table.get?_modify, if_true, Option.map_map]
  congr 1
  funext p
  exact hf p

@[simp] theorem durumu_durumYaz (db : Db) (durum : ActionStatus) :
    durumu (db.write (durumYaz actionId durum)) actionId = (durumu db actionId).map (fun _ => durum) :=
  durumu_update fun _ => rfl

@[simp] theorem durumu_markFailed (db : Db) (mesaj : String) :
    durumu (markFailed db actionId mesaj) actionId = (durumu db actionId).map (fun _ => .failed) :=
  durumu_update fun _ => rfl

@[simp] theorem durumu_retYaz (db : Db) (reason : Option String) :
    durumu (db.write (retYaz actionId reason)) actionId =
      (durumu db actionId).map (fun _ => .rejected) :=
  durumu_update fun _ => rfl

/-- Once overwritten, a row is not pending. -/
theorem map_ne_pending {o : Option ActionStatus} {durum : ActionStatus} (h : durum ≠ .pending) :
    o.map (fun _ => durum) ≠ some .pending := by
  cases o with
  | none => simp
  | some d => simpa using h

/-- No move makes the row appear or go. -/
theorem Hareket.satir {talep : ι → Talep} {i : ι} {s s' : Ortak ι} {k k' : Konum}
    (h : Hareket talep actionId i s k s' k') :
    (durumu s'.db actionId).isSome = (durumu s.db actionId).isSome := by
  cases h with
  | onayla => simp
  | isledi _ _ ws _ hws _ => rw [durumu_writeAll hws]
  | yaz _ _ db _ _ hdurum _ => simp [hdurum]
  | basarisiz mesaj yanit _ => simp
  | reddet reason _ _ => simp
  | _ => rfl

end FinancialOs.Executor
