import FinancialOs.Routers.WorkspaceDeps
import FinancialOs.Rules.QuickEntry

/-! Workspaces and their members: a shared workspace starts with its owner, others come in
by an invitation and go when the owner removes them. -/
namespace FinancialOs.Routers
open Library Store Rules

/-- What an invitation token carries; the signature keeps anyone but the server from making one. -/
structure Davet where
  workspaceId : ℕ
  email : List Char
  role : WorkspaceRole
  exp : ℕ
  deriving DecidableEq

/-- One hour, in seconds. -/
def davetSuresi : ℕ := 3600

def createWorkspace (db : Db) (userId : ℕ) (name : String) : Except UcHatasi (List Write) := do
  stopIf .sema (name.length < 1 ∨ 100 < name.length)
  return [.workspace (.insert ⟨userId, false⟩),
    .membership (.insert ⟨db.workspaces.freshKey, userId, .owner⟩)]

/-- The workspace of the path, which the owner's header names too and which is not personal. -/
def ortakWorkspace (db : Db) (m : ℕ × WorkspaceMembership) (workspaceId : ℤ) (kisisel : String) :
    Except UcHatasi (ℕ × Workspace) := do
  stopIf (.http 400 "X-Workspace-Id header path'teki workspace ile eşleşmiyor.")
    ((m.2.workspaceId : ℤ) ≠ workspaceId)
  let ws ← require (.http 404 "Workspace bulunamadı.") (db.workspaces.get? m.2.workspaceId)
  stopIf (.http 400 kisisel) ws.isPersonal
  return (m.2.workspaceId, ws)

/-- `invite_member`; whether the closed beta lets the address open an account is an input. -/
def inviteMember (db : Db) (userId : ℕ) (xWorkspaceId : Option ℤ) (workspaceId : ℤ) (email : String)
    (role : WorkspaceRole) (hesapAcabilir : Bool) (simdi : ℕ) : Except UcHatasi Davet := do
  let m ← requireWorkspace db userId xWorkspaceId .owner
  stopIf .sema (email.length < 3 ∨ 255 < email.length)
  let ws ← ortakWorkspace db m workspaceId "Personal workspace'e davet edilemez."
  stopIf (.http 400 "Owner rolüyle davet edilemez (owner tektir).") (role = .owner)
  stopIf (.http 400 "Bu e-posta kapalı beta listesinde değil; davet gönderilse bile hesap açamaz. Önce bu adrese bir beta daveti oluşturun.")
    (hesapAcabilir = false)
  return ⟨ws.1, sade email, role, simdi + davetSuresi⟩

/-- The account of the session is the one the invitation was sent to. -/
def davetSahibi (db : Db) (userId : ℕ) (davet : Davet) : Bool :=
  match (db.users.get? userId).bind User.email with
  | some email => email ≠ "" ∧ sade email = davet.email
  | none => false

/-- `join_workspace`; nothing stands for a token whose signature or type is wrong. -/
def joinWorkspace (db : Db) (userId : ℕ) (token : Option Davet) (simdi : ℕ) :
    Except UcHatasi (List Write) := do
  let davet ← require (.http 400 "Geçersiz davet token'ı.") token
  stopIf (.http 400 "Davet süresi dolmuş (1 saat). Yeni davet isteyin.") (davet.exp ≤ simdi)
  stopIf (.http 403 "Bu davet başka bir e-posta için. Davet edilen hesapla giriş yapın.")
    (davetSahibi db userId davet = false)
  let _ ← require (.http 404 "Workspace bulunamadı (silinmiş olabilir).")
    (db.workspaces.get? davet.workspaceId)
  match uyelik db davet.workspaceId userId with
  | some _ => return []
  | none => return [.membership (.insert ⟨davet.workspaceId, userId, davet.role⟩)]

def removeMember (db : Db) (userId : ℕ) (xWorkspaceId : Option ℤ) (workspaceId targetUserId : ℤ) :
    Except UcHatasi (List Write) := do
  let m ← requireWorkspace db userId xWorkspaceId .owner
  let ws ← ortakWorkspace db m workspaceId "Personal workspace'ten üye çıkarılamaz."
  stopIf (.http 400 "Owner çıkarılamaz (önce sahiplik devri gerekir).")
    (targetUserId = ws.2.ownerUserId)
  let target ← require (.http 404 "Üye bulunamadı.")
    (db.memberships.first? (fun m => m.workspaceId = ws.1 ∧ (m.userId : ℤ) = targetUserId))
  return [.membership (.delete target.1)]

section Specs
variable {db : Db} {userId : ℕ} {x : Option ℤ} {workspaceId targetUserId : ℤ} {simdi : ℕ} {ws : List Write}

theorem createWorkspace_ok {name : String} (h : createWorkspace db userId name = .ok ws) :
    ws = [.workspace (.insert ⟨userId, false⟩), .membership (.insert ⟨db.workspaces.freshKey, userId, .owner⟩)] := by
  simp only [createWorkspace, bind_eq_ok, pure_eq_ok] at h
  obtain ⟨_, _, rfl⟩ := h
  rfl

theorem inviteMember_ok {email : String} {role : WorkspaceRole} {hesapAcabilir : Bool} {davet : Davet}
    (h : inviteMember db userId x workspaceId email role hesapAcabilir simdi = .ok davet) :
    davet.role ≠ .owner ∧ davet.exp = simdi + davetSuresi := by
  simp only [inviteMember, bind_eq_ok, pure_eq_ok, stopIf_eq_ok] at h
  obtain ⟨_, _, _, _, _, _, _, hrole, _, _, rfl⟩ := h
  exact ⟨hrole, rfl⟩

theorem joinWorkspace_ok {token : Option Davet} (h : joinWorkspace db userId token simdi = .ok ws) :
    ∃ davet, token = some davet ∧ simdi < davet.exp ∧ davetSahibi db userId davet = true ∧
      (db.workspaces.get? davet.workspaceId).isSome = true ∧
        (ws = [] ∨ uyelik db davet.workspaceId userId = none ∧
          ws = [.membership (.insert ⟨davet.workspaceId, userId, davet.role⟩)]) := by
  simp only [joinWorkspace, bind_eq_ok, require_eq_ok, stopIf_eq_ok, not_le, Bool.not_eq_false] at h
  obtain ⟨davet, htoken, _, hexp, _, hsahip, w, hw, h⟩ := h
  refine ⟨davet, htoken, hexp, hsahip, by rw [hw]; rfl, ?_⟩
  split at h
  · cases h
    exact .inl rfl
  · next hyok =>
    cases h
    exact .inr ⟨hyok, rfl⟩

theorem removeMember_ok (h : removeMember db userId x workspaceId targetUserId = .ok ws) :
    ∃ (w : ℕ) (row : Workspace) (k : ℕ) (m : WorkspaceMembership), workspaceId = w ∧
      db.workspaces.get? w = some row ∧ targetUserId ≠ row.ownerUserId ∧ db.memberships.get? k = some m ∧
        m.workspaceId = w ∧ (m.userId : ℤ) = targetUserId ∧ ws = [.membership (.delete k)] := by
  simp only [removeMember, ortakWorkspace, bind_eq_ok, require_eq_ok, stopIf_eq_ok, pure_eq_ok, not_not] at h
  obtain ⟨m, _, _, ⟨_, hpath, row, hrow, _, _, rfl⟩, _, hne, ⟨k, target⟩, htarget, rfl⟩ := h
  obtain ⟨hget, hp⟩ := Table.first?_spec htarget
  obtain ⟨hw, hu⟩ := of_decide_eq_true hp
  exact ⟨m.2.workspaceId, row, k, target, hpath.symm, hrow, hne, hget, by exact_mod_cast hw, hu, rfl⟩

end Specs

end FinancialOs.Routers
