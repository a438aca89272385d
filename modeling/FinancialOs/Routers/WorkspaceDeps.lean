import FinancialOs.Library.CheckedSteps
import FinancialOs.Store.Scope

/-! What every endpoint shares: the workspace of a request, the role it needs
there, and the error answers that leave the database as it was. -/
namespace FinancialOs.Routers
open Library Store

/-- A panel request: the user, the resolved workspace and the day the endpoint takes as today. -/
structure Istek where
  userId : ℕ
  wsId : Option ℕ
  bugun : Date

/-- An error answer: a body its schema refuses, an HTTP error, or an exception. -/
inductive UcHatasi where
  | sema
  | http (kod : ℕ) (detail : String)
  | hata (e : PyError)
  deriving DecidableEq

/-- A column that cannot hold null keeps its value or takes a new one. -/
def zorunlu {α : Type} (gelen : Option (Option α)) (eski : α) : Except UcHatasi α :=
  match gelen with
  | none => .ok eski
  | some none => .error (.hata .databaseError)
  | some (some yeni) => .ok yeni

/-- The state a request leaves behind: its commit, or what was there before. -/
def sonuc (db : Db) (r : Except UcHatasi (List Write)) : Db :=
  match r with
  | .ok ws => (commit db ws).toOption.getD db
  | .error _ => db

/-- The request is carried out. -/
def gecer (db : Db) (r : Except UcHatasi (List Write)) : Bool :=
  match r with
  | .ok ws => (commit db ws).toOption.isSome
  | .error _ => false

theorem gecer_iff {db : Db} {r : Except UcHatasi (List Write)} :
    gecer db r = true ↔ ∃ ws, r = .ok ws ∧ commit db ws = .ok (db.writeAll ws) := by
  cases r with
  | error e => simp [gecer]
  | ok ws =>
    cases hc : commit db ws with
    | error e => simp [gecer, hc, Except.toOption]
    | ok db' =>
      obtain ⟨rfl, _⟩ := commit_ok.mp hc
      simp [gecer, hc, Except.toOption]

theorem sonuc_of_flush {db : Db} {ws : List Write}
    (h : ∀ w ∈ ws, flushOncesi (db.writeAll ws) w = .ok ()) : sonuc db (.ok ws) = db.writeAll ws := by
  simp only [sonuc, commit_ok.mpr ⟨rfl, h⟩]
  rfl

theorem sonuc_of_not_flush {db : Db} {ws : List Write}
    (h : ¬ ∀ w ∈ ws, flushOncesi (db.writeAll ws) w = .ok ()) : sonuc db (.ok ws) = db := by
  cases hc : commit db ws with
  | ok db' => exact absurd (commit_ok.mp hc).2 h
  | error e =>
    simp only [sonuc, hc]
    rfl

theorem sonuc_cases (db : Db) (r : Except UcHatasi (List Write)) :
    sonuc db r = db ∨ ∃ ws, r = .ok ws ∧ sonuc db r = db.writeAll ws ∧
      ∀ w ∈ ws, flushOncesi (db.writeAll ws) w = .ok () := by
  cases r with
  | error e => exact .inl rfl
  | ok ws =>
    cases hc : commit db ws with
    | error e =>
      left
      simp only [sonuc, hc]
      rfl
    | ok db' =>
      obtain ⟨rfl, hf⟩ := commit_ok.mp hc
      refine .inr ⟨ws, rfl, ?_, hf⟩
      simp only [sonuc, hc]
      rfl

def roleRank : WorkspaceRole → ℕ
  | .viewer => 1
  | .editor => 2
  | .owner => 3

def roleText : WorkspaceRole → String
  | .viewer => "viewer"
  | .editor => "editor"
  | .owner => "owner"

/-- The membership of a user in the workspace a header or a lookup names. -/
def uyelik (db : Db) (workspaceId : ℤ) (userId : ℕ) : Option (ℕ × WorkspaceMembership) :=
  db.memberships.first? (fun m => (m.workspaceId : ℤ) = workspaceId ∧ m.userId = userId)

theorem uye_iff {db : Db} {w u : ℕ} : Uye db w u ↔ (uyelik db w u).isSome = true := by
  rw [Option.isSome_iff_ne_none, uyelik, Ne, Table.first?_eq_none]
  simp only [Uye, decide_eq_false_iff_not, not_forall, not_not, Nat.cast_inj, exists_prop]

instance (db : Db) (w u : ℕ) : Decidable (Uye db w u) := decidable_of_iff _ uye_iff.symm

def erisimYok : UcHatasi := .http 403 "Bu workspace'e erişiminiz yok."

/-- The workspace a request is about: its header, else the user's personal one. -/
def istenenWorkspace (db : Db) (userId : ℕ) (xWorkspaceId : Option ℤ) : Option ℤ :=
  match xWorkspaceId with
  | some w => some w
  | none => (personalWorkspace db userId).map (fun w => (w : ℤ))

def getActiveMembership (db : Db) (userId : ℕ) (xWorkspaceId : Option ℤ) :
    Except UcHatasi (ℕ × WorkspaceMembership) :=
  match istenenWorkspace db userId xWorkspaceId with
  | none => .error (.http 404 "Personal workspace bulunamadı (backfill gerekli).")
  | some w => require erisimYok (uyelik db w userId)

/-- The scope of a request; without any workspace production refuses and development goes on. -/
def activeWorkspaceId (production : Bool) (db : Db) (userId : ℕ) (xWorkspaceId : Option ℤ) :
    Except UcHatasi (Option ℕ) :=
  match xWorkspaceId with
  | some w => do
    let m ← require erisimYok (uyelik db w userId)
    return some m.2.workspaceId
  | none => match personalWorkspace db userId with
    | some w => .ok (some w)
    | none =>
      if production then
        .error (.http 500 s!"Kullanıcı {userId} için personal workspace yok — veri izolasyonu garanti edilemez. scripts/create_personal_workspaces.py çalıştırın.")
      else .ok none

def rolYetersiz (minRole role : WorkspaceRole) (ek : String) : UcHatasi :=
  let gereken := roleText minRole
  let mevcut := roleText role
  .http 403 s!"Bu işlem en az '{gereken}' rolü gerektirir (mevcut: '{mevcut}').{ek}"

/-- `require_workspace(min_role)`: a membership is mandatory. -/
def requireWorkspace (db : Db) (userId : ℕ) (xWorkspaceId : Option ℤ) (minRole : WorkspaceRole) :
    Except UcHatasi (ℕ × WorkspaceMembership) := do
  let m ← getActiveMembership db userId xWorkspaceId
  stopIf (rolYetersiz minRole m.2.role "") (roleRank m.2.role < roleRank minRole)
  return m

/-- `require_write()`: a request without any workspace is let through unchecked. -/
def requireWrite (db : Db) (userId : ℕ) (xWorkspaceId : Option ℤ) : Except UcHatasi Unit :=
  match istenenWorkspace db userId xWorkspaceId with
  | none => .ok ()
  | some w => do
    let m ← require erisimYok (uyelik db w userId)
    stopIf (rolYetersiz .editor m.2.role " Görüntüleyici (viewer) yalnız okuyabilir.")
      (roleRank m.2.role < roleRank .editor)

/-- An owner or editor membership. -/
def Yazabilir (db : Db) (workspaceId userId : ℕ) : Prop :=
  ∃ id m, db.memberships.get? id = some m ∧ m.workspaceId = workspaceId ∧ m.userId = userId ∧
    roleRank .editor ≤ roleRank m.role

theorem uyelik_spec {db : Db} {w : ℤ} {userId id : ℕ} {m : WorkspaceMembership}
    (h : uyelik db w userId = some (id, m)) :
    db.memberships.get? id = some m ∧ (m.workspaceId : ℤ) = w ∧ m.userId = userId := by
  obtain ⟨hm, hp⟩ := Table.first?_spec h
  exact ⟨hm, of_decide_eq_true hp⟩

/-- The guard vouches for the workspace of the request, when there is one. -/
theorem requireWrite_ok {db : Db} {userId w : ℕ} {xWorkspaceId : Option ℤ}
    (h : requireWrite db userId xWorkspaceId = .ok ())
    (hw : istenenWorkspace db userId xWorkspaceId = some (w : ℤ)) : Yazabilir db w userId := by
  rw [requireWrite, hw] at h
  simp only [bind_eq_ok, require_eq_ok, stopIf_eq_ok, not_lt] at h
  obtain ⟨⟨id, m⟩, hm, hrank⟩ := h
  obtain ⟨hget, hws, huser⟩ := uyelik_spec hm
  exact ⟨id, m, hget, by exact_mod_cast hws, huser, hrank⟩

end FinancialOs.Routers
