import FinancialOs.Executor.RequestSteps

/-! The database of an action that has ended `executed`: the writes of its handler, its status and the
mark on its recurring source. -/
namespace FinancialOs.Executor
open Library Store Rules
variable {ariza : Ariza} {bugun : ℕ → Date} {db : Db} {actionId userId : ℕ}

theorem sonuclandir_writes {bugun : Date} {db' : Db} {pending : PendingAction} {payload : Option Payload}
    (h : sonuclandir ariza bugun db actionId pending payload = .ok db') :
    db' = db.writeAll
      (durumYaz actionId .executed :: markRecurringTriggered db bugun pending (payload.getD [])) := by
  unfold sonuclandir at h
  split at h
  · cases h
  split at h
  · cases h
  split at h
  · cases h
  exact (commit_ok.mp h).1

theorem markFailed_ne_executed (db : Db) (mesaj : String) :
    durumu (markFailed db actionId mesaj) actionId ≠ some .executed := by
  rw [durumu_markFailed]
  cases durumu db actionId <;> simp

/-- Behind the claim, `executed` is written once the handler and the mark have gone through. -/
theorem uygula_executed {bugun : Date} {pending : PendingAction} (hb : durumu db actionId ≠ some .executed)
    (h : durumu (uygula ariza bugun db actionId userId pending).2 actionId = some .executed) :
    ∃ handler p ws d, kapi db userId pending = .gec handler (some p) ∧
      HandlerCommit ariza ⟨db, pending.workspaceId, userId, bugun⟩ handler (some p) ws d ∧
      (uygula ariza bugun db actionId userId pending).2 =
        d.writeAll (durumYaz actionId .executed :: markRecurringTriggered d bugun pending p) := by
  unfold uygula at h ⊢
  cases hk : kapi db userId pending with
  | dur sebep error baslik =>
    simp only [hk] at h
    exact absurd h (markFailed_ne_executed _ _)
  | firlat e =>
    simp only [hk] at h
    exact absurd h hb
  | gec handler payload =>
    simp only [hk] at h ⊢
    rcases calistir_cases ariza ⟨db, pending.workspaceId, userId, bugun⟩ handler payload with
      ⟨⟨m, hc⟩, -⟩ | ⟨⟨e, hc⟩, -⟩ | ⟨ws, d, hcommit, ⟨e, -, hc⟩ | ⟨-, cevap, hc⟩⟩
    · simp only [hc] at h
      exact absurd h (markFailed_ne_executed _ _)
    · simp only [hc] at h
      exact absurd h (markFailed_ne_executed _ _)
    · simp only [hc] at h
      exact absurd h (markFailed_ne_executed _ _)
    · simp only [hc] at h ⊢
      obtain ⟨p, rfl, -⟩ := hcommit.cagri
      refine ⟨handler, p, ws, d, rfl, hcommit, ?_⟩
      cases hson : sonuclandir ariza bugun d actionId pending (some p) with
      | error e =>
        simp only [hson] at h
        exact absurd h (markFailed_ne_executed _ _)
      | ok d' =>
        simp only [hson] at h ⊢
        cases hy : ariza.yanit with
        | some e =>
          simp only [hy] at h
          exact absurd h (markFailed_ne_executed _ _)
        | none => exact sonuclandir_writes hson

/-- What stands in the database when an action has ended `executed`. -/
theorem executed_db (hb : durumu db actionId ≠ some .executed)
    (h : durumu (executePendingAction ariza bugun db actionId userId).2 actionId = some .executed) :
    ∃ pending p ws, Applies bugun db actionId userId pending p ws ∧
      (executePendingAction ariza bugun db actionId userId).2 =
        (db.write (durumYaz actionId .approved)).writeAll
          (ws ++ durumYaz actionId .executed :: markRecurringTriggered db (bugun userId) pending p) := by
  cases ha : kendiAksiyonu db actionId userId with
  | none =>
    simp only [executePendingAction, ha] at h
    exact absurd h hb
  | some pending =>
    by_cases hs : pending.status = .pending
    · obtain ⟨hg, -⟩ := kendiAksiyonu_eq_some.mp ha
      have hsah : sahiplen db actionId = some (db.write (durumYaz actionId .approved)) :=
        sahiplen_eq_some.mpr ⟨⟨pending, hg, hs⟩, rfl⟩
      have happroved : durumu (db.write (durumYaz actionId .approved)) actionId ≠ some .executed := by
        rw [durumu_durumYaz]
        cases durumu db actionId <;> simp
      simp only [executePendingAction, ha, hs, ne_eq, not_true_eq_false, if_false, hsah] at h ⊢
      obtain ⟨handler, p, ws, d, hk, hcommit, hson⟩ := uygula_executed happroved h
      obtain ⟨-, happ⟩ := (applies_iff (aksiyonsuz_durumYaz db actionId .approved) ha hs).mp
        ⟨handler, d, hk, hcommit⟩
      obtain ⟨hd, -⟩ := commit_ok.mp hcommit.kayit
      have hframe := handler_frame (accepted_iff.mp happ.handler).writes (db.write (durumYaz actionId .approved))
      have hmark : markRecurringTriggered d (bugun userId) pending p =
          markRecurringTriggered db (bugun userId) pending p := by
        unfold markRecurringTriggered
        rw [hd, hframe.2.1, hframe.2.2.1]
        rfl
      exact ⟨pending, p, ws, happ, by rw [hson, hmark, writeAll_append, hd]⟩
    · simp only [executePendingAction, ha, ne_eq, hs, not_false_eq_true, if_true] at h
      exact absurd h hb

end FinancialOs.Executor
