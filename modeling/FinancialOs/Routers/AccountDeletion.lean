import FinancialOs.Routers.Workspaces
import FinancialOs.Store.PersonalData

/-! The life of an account: a personal workspace comes with it, and its deletion takes the user's rows
along, hands shared workspaces on and removes those that have no other member. -/
namespace FinancialOs.Routers
open Library Store

/-- What a workspace endpoint leaves of the workspaces and their members. -/
def workspaceUcu (v : KisiselDb) (r : Except UcHatasi (List Write)) : KisiselDb :=
  let db := sonuc v.db r
  { v with workspaces := db.workspaces, memberships := db.memberships }

def ownerUyeligiEkle (v : KisiselDb) (workspaceId userId : ℕ) : KisiselDb :=
  if v.memberships.any (fun m => m.workspaceId = workspaceId ∧ m.userId = userId) then v
  else { v with memberships := v.memberships.push ⟨workspaceId, userId, .owner⟩ }

def ensurePersonalWorkspace (v : KisiselDb) (userId : ℕ) : KisiselDb :=
  match personalWorkspace v.db userId with
  | some w => ownerUyeligiEkle v w userId
  | none => ownerUyeligiEkle { v with workspaces := v.workspaces.push ⟨userId, true⟩ } v.workspaces.freshKey userId

/-- The rows of a registration that goes through. -/
def kayitSatirlari (v : KisiselDb) (email : String) : KisiselDb :=
  ensurePersonalWorkspace { v with users := v.users.push ⟨some email⟩ } v.users.freshKey

/-- The oldest editor among the other members, else the oldest of them. -/
def yeniSahip (memberships : Table WorkspaceMembership) (workspaceId userId : ℕ) :
    Option (ℕ × WorkspaceMembership) :=
  let diger (m : WorkspaceMembership) : Bool := m.workspaceId = workspaceId ∧ m.userId ≠ userId
  (memberships.first? fun m => diger m ∧ m.role = .editor).or (memberships.first? diger)

theorem yeniSahip_some {ms : Table WorkspaceMembership} {w u k : ℕ} {m : WorkspaceMembership}
    (h : yeniSahip ms w u = some (k, m)) : ms.get? k = some m ∧ m.workspaceId = w ∧ m.userId ≠ u := by
  rcases Option.or_eq_some_iff.mp h with h | ⟨_, h⟩
  · obtain ⟨hk, hp⟩ := Table.first?_spec h
    exact ⟨hk, of_decide_eq_true (of_decide_eq_true hp).1⟩
  · obtain ⟨hk, hp⟩ := Table.first?_spec h
    exact ⟨hk, of_decide_eq_true hp⟩

/-- An owned workspace is handed on, or put on the list of those that go. -/
def devret (userId : ℕ) (d : KisiselDb × List ℕ) (w : ℕ) : KisiselDb × List ℕ :=
  match yeniSahip d.1.memberships w userId with
  | none => (d.1, d.2 ++ [w])
  | some (k, m) => ({ d.1 with
      workspaces := d.1.workspaces.modify w fun ws => { ws with ownerUserId := m.userId }
      memberships := d.1.memberships.modify k fun m => { m with role := .owner } }, d.2)

def sahiplikDevri (v : KisiselDb) (userId : ℕ) : KisiselDb × List ℕ :=
  ((v.workspaces.select fun ws => ws.ownerUserId = userId).map Prod.fst).foldl (devret userId) (v, [])

/-- A row still names one of the workspaces. -/
def workspaceKullanimda (v : KisiselDb) (wsIds : List ℕ) : Prop :=
  v.memberships.any (fun m => m.workspaceId ∈ wsIds) = true ∨
    ∃ t, (v.satirlar t).any (fun r => workspaceSatiri wsIds t r.cols) = true

instance (v : KisiselDb) (wsIds : List ℕ) : Decidable (workspaceKullanimda v wsIds) :=
  inferInstanceAs (Decidable (_ ∨ _))

/-- A row still names the user. -/
def kullaniciKullanimda (v : KisiselDb) (userId : ℕ) : Prop :=
  v.workspaces.any (fun ws => ws.ownerUserId = userId) = true ∨
    v.memberships.any (fun m => m.userId = userId) = true ∨
      ∃ t, (v.satirlar t).any (fun r => kullanicininSatiri userId t r.cols) = true

instance (v : KisiselDb) (userId : ℕ) : Decidable (kullaniciKullanimda v userId) :=
  inferInstanceAs (Decidable (_ ∨ _ ∨ _))

/-- The first pass of `purge_user_data`. No table refers to the memberships, so theirs can come first. -/
def kullaniciSatirlariniSil (sira : List Tablo) (v : KisiselDb) (userId : ℕ) : Option KisiselDb :=
  (Relations.purge Tablo.anahtarlar (kullanicininSatiri userId) sira v.satirlar).map fun satirlar =>
    { v with satirlar := satirlar, memberships := v.memberships.keep fun m => m.userId ≠ userId }

/-- The second pass, over the workspaces that have no other member. -/
def workspaceleriSil (sira : List Tablo) (v : KisiselDb) (wsIds : List ℕ) : Option KisiselDb := do
  if wsIds = [] then return v
  let satirlar ← Relations.purge Tablo.anahtarlar (workspaceSatiri wsIds) sira v.satirlar
  let v' := { v with satirlar := satirlar, memberships := v.memberships.keep fun m => m.workspaceId ∉ wsIds }
  if workspaceKullanimda v' wsIds then none
  return { v' with workspaces := v.workspaces.retain fun w _ => w ∉ wsIds }

/-- `purge_user_data`; the tables come in the reverse of their dependency order. Nothing stands for a
foreign key violation. -/
def purgeUserData (sira : List Tablo) (v : KisiselDb) (userId : ℕ) : Option KisiselDb := do
  let v ← kullaniciSatirlariniSil sira v userId
  let (v, wsIds) := sahiplikDevri v userId
  workspaceleriSil sira v wsIds

/-- The deletion of an account: the purge, and then the row of the user. -/
def hesabiSil (sira : List Tablo) (v : KisiselDb) (userId : ℕ) : Option KisiselDb := do
  let v ← purgeUserData sira v userId
  if kullaniciKullanimda v userId then none
  return { v with users := v.users.erase userId }

/-- `delete_me`: a violation leaves the database as it was. -/
def deleteMe (sira : List Tablo) (v : KisiselDb) (userId : ℕ) : KisiselDb := (hesabiSil sira v userId).getD v

end FinancialOs.Routers
