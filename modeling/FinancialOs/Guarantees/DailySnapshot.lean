import FinancialOs.Library.TransitionRuns
import FinancialOs.Routers.Cockpit

/-! One snapshot for a workspace and a day. The rows are looked up by workspace and are unique by
user: a user who has a row in one workspace gets none in another on the same day. -/
namespace FinancialOs.Guarantees
open Library Routers

inductive SnapshotIstegi where
  | kokpit (userId : ℕ) (cockpit : KokpitOzeti) (wsId : Option ℕ) (today : Date)
  | backfill (userId : ℕ) (snapshotDate : Date) (snap : SnapshotDegerleri) (wsId : Option ℕ)

def snapshotAdimi (t : Table NetWorthSnapshot) : SnapshotIstegi → Table NetWorthSnapshot
  | .kokpit userId cockpit wsId today => getCockpit t userId cockpit wsId today
  | .backfill userId snapshotDate snap wsId => upsert t userId snapshotDate snap wsId

/-- The row belongs to the workspace and the day. -/
def GununSatiri (ws : ℕ) (day : Date) (a : NetWorthSnapshot) : Prop := a.workspaceId = some ws ∧ a.snapshotDate = day

instance gununSatiri_decidable (ws : ℕ) (day : Date) : DecidablePred (GununSatiri ws day) :=
  fun a => inferInstanceAs (Decidable (a.workspaceId = some ws ∧ a.snapshotDate = day))

/-- The one row for the workspace and the day, under its key. -/
def TekSatir (t : Table NetWorthSnapshot) (ws : ℕ) (day : Date) (k : ℕ) (a : NetWorthSnapshot) : Prop :=
  t.get? k = some a ∧ GununSatiri ws day a ∧ ∀ j b, t.get? j = some b → GununSatiri ws day b → j = k

/-- What a request leaves: a cockpit of a workspace leaves one row for its day, with the values of
that cockpit, and the other rows as they were. -/
def DogruSnapshot (t : Table NetWorthSnapshot) : SnapshotIstegi → Prop
  | .kokpit userId cockpit (some ws) today =>
    (∃ k a, TekSatir (getCockpit t userId cockpit (some ws) today) ws today k a ∧ a.degerler = cockpit.degerler) ∧
      ∀ k a, ¬ GununSatiri ws today a →
        ((getCockpit t userId cockpit (some ws) today).get? k = some a ↔ t.get? k = some a)
  | _ => True

/-- The workspace has its one row for the day, or none, and the user has none for the day at all. -/
def YerVar (t : Table NetWorthSnapshot) : SnapshotIstegi → Prop
  | .kokpit userId _ (some ws) today =>
    (∃ k a, TekSatir t ws today k a) ∨
      ∀ k a, t.get? k = some a → ¬ GununSatiri ws today a ∧ ¬ (a.userId = userId ∧ a.snapshotDate = today)
  | _ => True

section Request
variable {t : Table NetWorthSnapshot} {userId ws : ℕ} {cockpit : KokpitOzeti} {today : Date}

theorem bugunku_workspace (a : NetWorthSnapshot) :
    bugunkuKayit userId (some ws) today a = true ↔ GununSatiri ws today a := by
  simp only [bugunkuKayit, Bool.and_eq_true, decide_eq_true_eq, GununSatiri]
  exact and_comm

theorem gunSatiri_yok (h : t.first? (bugunkuKayit userId (some ws) today) = none) {k : ℕ} {a : NetWorthSnapshot}
    (ha : t.get? k = some a) : ¬ GununSatiri ws today a := by
  intro hg
  have hp := Table.first?_eq_none.mp h k a ha
  rw [(bugunku_workspace a).mpr hg] at hp
  cases hp

/-- A cockpit that finds its row writes its values there. -/
theorem getCockpit_mevcut {k : ℕ} {mevcut : NetWorthSnapshot}
    (h : t.first? (bugunkuKayit userId (some ws) today) = some (k, mevcut)) :
    getCockpit t userId cockpit (some ws) today =
      t.modify k (fun a => { a with degerler := cockpit.degerler }) := by
  by_cases he : mevcut.degerler = cockpit.degerler
  · -- unchanged values are not written again
    simp only [getCockpit, ensureTodaySnapshot, h, if_pos he]
    have hsame : t.modify k (fun a => { a with degerler := cockpit.degerler }) = t.modify k (fun a => a) := by
      apply Table.modify_congr
      intro a ha
      rw [(Table.first?_spec h).1] at ha
      rw [← Option.some.inj ha, ← he]
    rw [hsame, Table.modify_self]
  · simp only [getCockpit, ensureTodaySnapshot, h, if_neg he]

theorem getCockpit_yeni (h : t.first? (bugunkuKayit userId (some ws) today) = none)
    (hu : ∀ k a, t.get? k = some a → ¬ (a.userId = userId ∧ a.snapshotDate = today)) :
    getCockpit t userId cockpit (some ws) today = t.push ⟨userId, some ws, today, cockpit.degerler⟩ := by
  have hany : ¬ t.any (fun a => a.userId = userId ∧ a.snapshotDate = today) = true := by
    rw [Table.any_eq_true]
    rintro ⟨k, a, ha, hp⟩
    exact hu k a ha (of_decide_eq_true hp)
  simp only [getCockpit, ensureTodaySnapshot, h, snapshotEkle, if_neg hany]

/-- Behind a failed insert the request leaves the table alone. -/
theorem getCockpit_cakisma (h : t.first? (bugunkuKayit userId (some ws) today) = none) {k : ℕ} {a : NetWorthSnapshot}
    (ha : t.get? k = some a) (hu : a.userId = userId ∧ a.snapshotDate = today) :
    getCockpit t userId cockpit (some ws) today = t := by
  have hany : t.any (fun a => a.userId = userId ∧ a.snapshotDate = today) = true :=
    Table.any_eq_true.mpr ⟨k, a, ha, decide_eq_true hu⟩
  simp only [getCockpit, ensureTodaySnapshot, h, snapshotEkle, if_pos hany]

theorem dogruSnapshot_mevcut {k : ℕ} {mevcut : NetWorthSnapshot}
    (h : t.first? (bugunkuKayit userId (some ws) today) = some (k, mevcut)) :
    DogruSnapshot t (.kokpit userId cockpit (some ws) today) ↔ ∃ k a, TekSatir t ws today k a := by
  obtain ⟨hk, hp⟩ := Table.first?_spec h
  have hmevcut : GununSatiri ws today mevcut := (bugunku_workspace mevcut).mp hp
  have hget (j : ℕ) := Table.get?_modify t k j (fun a => { a with degerler := cockpit.degerler })
  simp only [DogruSnapshot]
  rw [getCockpit_mevcut h]
  constructor
  · rintro ⟨⟨i, a, ⟨_, _, htek⟩, _⟩, _⟩
    have hayni (j : ℕ) (b : NetWorthSnapshot) (hb : t.get? j = some b) (hg : GununSatiri ws today b) : j = i := by
      by_cases hj : j = k
      · exact htek j { b with degerler := cockpit.degerler } (by rw [hget, if_pos hj, hb]; rfl) hg
      · exact htek j b (by rw [hget, if_neg hj, hb]) hg
    refine ⟨k, mevcut, hk, hmevcut, fun j b hb hg => ?_⟩
    rw [hayni j b hb hg, hayni k mevcut hk hmevcut]
  · rintro ⟨i, a, hi, hg, htek⟩
    obtain rfl := htek k mevcut hk hmevcut
    refine ⟨⟨k, { mevcut with degerler := cockpit.degerler }, ⟨?_, hmevcut, fun j b hb hgb => ?_⟩, rfl⟩,
      fun j b hnot => ?_⟩
    · rw [hget, if_pos rfl, hk]
      rfl
    · by_contra hj
      rw [hget, if_neg hj] at hb
      exact hj (htek j b hb hgb)
    · rw [hget]
      split
      · next hj =>
        rw [hj, hk]
        constructor
        · intro hb
          rw [← Option.some.inj hb] at hnot
          exact absurd hmevcut hnot
        · intro hb
          rw [← Option.some.inj hb] at hnot
          exact absurd hmevcut hnot
      · exact Iff.rfl

theorem dogruSnapshot_yeni (h : t.first? (bugunkuKayit userId (some ws) today) = none) :
    DogruSnapshot t (.kokpit userId cockpit (some ws) today) ↔
      ∀ k a, t.get? k = some a → ¬ (a.userId = userId ∧ a.snapshotDate = today) := by
  simp only [DogruSnapshot]
  constructor
  · rintro ⟨⟨i, b, ⟨hb, hg, _⟩, _⟩, _⟩ k a ha hu
    rw [getCockpit_cakisma h ha hu] at hb
    exact gunSatiri_yok h hb hg
  · intro hu
    rw [getCockpit_yeni h hu]
    refine ⟨⟨t.freshKey, ⟨userId, some ws, today, cockpit.degerler⟩, ⟨?_, ⟨rfl, rfl⟩, fun j b hb hg => ?_⟩, rfl⟩, fun j b hnot => ?_⟩
    · rw [Table.get?_push, if_pos rfl]
    · by_contra hj
      rw [Table.get?_push, if_neg hj] at hb
      exact gunSatiri_yok h hb hg
    · rw [Table.get?_push]
      split
      · next hj =>
        rw [hj, Table.get?_freshKey]
        constructor
        · intro hb
          rw [← Option.some.inj hb] at hnot
          exact absurd ⟨rfl, rfl⟩ hnot
        · intro hb
          cases hb
      · exact Iff.rfl

/-- One request leaves the one true snapshot exactly when there is room for it. -/
theorem dogruSnapshot_iff (t : Table NetWorthSnapshot) (istek : SnapshotIstegi) :
    DogruSnapshot t istek ↔ YerVar t istek := by
  cases istek with
  | backfill userId snapshotDate snap wsId => exact Iff.rfl
  | kokpit userId cockpit wsId today =>
    cases wsId with
    | none => exact Iff.rfl
    | some ws =>
      cases h : t.first? (bugunkuKayit userId (some ws) today) with
      | some r =>
        rw [dogruSnapshot_mevcut h]
        refine (or_iff_left (fun hyok => ?_)).symm
        obtain ⟨hk, hp⟩ := Table.first?_spec h
        exact (hyok r.1 r.2 hk).1 ((bugunku_workspace r.2).mp hp)
      | none =>
        rw [dogruSnapshot_yeni h]
        constructor
        · exact fun hu => .inr (fun k a ha => ⟨gunSatiri_yok h ha, hu k a ha⟩)
        · rintro (⟨k, a, ha, hg, _⟩ | hu)
          · exact absurd hg (gunSatiri_yok h ha)
          · exact fun k a ha => (hu k a ha).2

end Request

/-- Over any interleaving of cockpits and backfills, every cockpit of a workspace leaves the one true
snapshot of its day exactly when each finds one row for the day, or none and none of its user. -/
theorem every_cockpit_keeps_one_snapshot (t : Table NetWorthSnapshot) (istekler : List SnapshotIstegi) :
    StepsMeet snapshotAdimi DogruSnapshot t istekler ↔ StepsMeet snapshotAdimi YerVar t istekler :=
  stepsMeet_congr (fun _ _ (h : True) => h) (fun t istek _ => dogruSnapshot_iff t istek) trivial istekler

def ozet (netDeger : ℚ) : KokpitOzeti := ⟨netDeger, netDeger, netDeger, 0, 0, 0, 0⟩

/-- A member of two workspaces opens both cockpits on one day. -/
def ikiCalismaAlani : List SnapshotIstegi :=
  [.kokpit 1 (ozet 500) (some 1) ((Date.ofYmd? 2026 5 16).get rfl),
    .kokpit 1 (ozet 900) (some 2) ((Date.ofYmd? 2026 5 16).get rfl)]

/-- The second workspace gets no snapshot for the day. -/
theorem second_workspace_left_without_snapshot :
    ¬ StepsMeet snapshotAdimi DogruSnapshot Table.empty ikiCalismaAlani := by
  intro h
  obtain ⟨k, a, ⟨ha, hg, _⟩, _⟩ := h.2.1.1
  have hrow := Table.get?_eq_some.mp ha
  have hrows : (run snapshotAdimi Table.empty ikiCalismaAlani).rows.map (fun r => r.2.workspaceId) = [some 1] := by
    decide
  have hws : a.workspaceId ∈ (run snapshotAdimi Table.empty ikiCalismaAlani).rows.map (fun r => r.2.workspaceId) :=
    List.mem_map.mpr ⟨(k, a), hrow, rfl⟩
  rw [hrows, hg.1] at hws
  revert hws
  decide

end FinancialOs.Guarantees
