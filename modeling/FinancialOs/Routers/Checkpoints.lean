import FinancialOs.Routers.WorkspaceDeps
import FinancialOs.Rules.UserRules

/-! The panel's checkpoint endpoints. A creation checks the structured rule as a whole; an update
takes each of its fields alone and checks only their lengths. -/
namespace FinancialOs.Routers
open Library Store Rules

structure CheckpointCreate where
  title : String
  description : String
  checkpointType : CheckpointType
  priority : ℤ
  isActive : Bool
  ruleType : Option String
  ruleParams : Option Payload

/-- The body of an update: a field is not sent, or sent with a value that may be null. -/
structure CheckpointUpdate where
  title : Option (Option String)
  description : Option (Option String)
  checkpointType : Option (Option CheckpointType)
  priority : Option (Option ℤ)
  isActive : Option (Option Bool)
  ruleType : Option (Option String)
  ruleParams : Option (Option Payload)

def kuralBasligi (s : String) : Bool := 1 ≤ s.length ∧ s.length ≤ 200

def kuralOnceligi (n : ℤ) : Bool := 1 ≤ n ∧ n ≤ 3

/-- The parameter a known rule type cannot do without. -/
def gerekliParametre : RuleType → Option PayloadKey
  | .minCashFloor | .maxSingleExpense => some .amount
  | .accountUntouchable => some .accountId
  | .unknown _ => none

/-- A number that is not a bool, and for which `value <= 0` does not hold. -/
def pozitifSayi : Option PyValue → Bool
  | some (.int n) => 0 < n
  | some (.float x) => !x.nonpos
  | _ => false

/-- `_kural_tutarli`. -/
def kuralTutarli (ruleType : Option String) (ruleParams : Option Payload) : Bool :=
  match ruleType with
  | none => true
  | some ad => match gerekliParametre (RuleType.ofName ad) with
    | none => false
    | some gerekli => pozitifSayi ((ruleParams.getD []).lookup gerekli)

def CheckpointCreate.uygun (data : CheckpointCreate) : Bool :=
  kuralBasligi data.title && (1 ≤ data.description.length && data.description.length ≤ 2000) &&
    kuralOnceligi data.priority && kuralTutarli data.ruleType data.ruleParams

def CheckpointUpdate.uygun (data : CheckpointUpdate) : Bool :=
  data.title.join.all kuralBasligi && data.description.join.all (fun s => 1 ≤ s.length) &&
    data.priority.join.all kuralOnceligi

def yeniCheckpoint (istek : Istek) (payload : CheckpointCreate) : MasterCheckpoint := {
  userId := istek.userId
  workspaceId := istek.wsId
  title := payload.title
  description := payload.description
  checkpointType := payload.checkpointType
  priority := payload.priority
  isActive := payload.isActive
  ruleType := payload.ruleType.map RuleType.ofName
  ruleParams := payload.ruleParams.map .object }

def createCheckpoint (istek : Istek) (payload : CheckpointCreate) : Except UcHatasi (List Write) := do
  stopIf .sema (payload.uygun = false)
  return [.checkpoint (.insert (yeniCheckpoint istek payload))]

/-- A first-priority red line. -/
def kirmiziCizgi (cp : MasterCheckpoint) : Bool := cp.priority = 1 ∧ cp.checkpointType = .redLine

/-- The sent fields on the row; a required column refuses null. -/
def CheckpointUpdate.yaz (payload : CheckpointUpdate) (cp : MasterCheckpoint) :
    Except UcHatasi MasterCheckpoint := do
  let title ← zorunlu payload.title cp.title
  let description ← zorunlu payload.description cp.description
  let checkpointType ← zorunlu payload.checkpointType cp.checkpointType
  let priority ← zorunlu payload.priority cp.priority
  let isActive ← zorunlu payload.isActive cp.isActive
  return { cp with
    title := title
    description := description
    checkpointType := checkpointType
    priority := priority
    isActive := isActive
    ruleType := (payload.ruleType.map (Option.map RuleType.ofName)).getD cp.ruleType
    ruleParams := (payload.ruleParams.map (Option.map JsonText.object)).getD cp.ruleParams }

def updateCheckpoint (db : Db) (istek : Istek) (cpId : ℤ) (payload : CheckpointUpdate) :
    Except UcHatasi (List Write) := do
  stopIf .sema (payload.uygun = false)
  let bulunan ← within .hata (findById db.checkpoints istek.userId istek.wsId (.int cpId))
  let cp ← require (.http 404 s!"Checkpoint bulunamadi (id={cpId})") bulunan
  let title := cp.2.title
  stopIf (.http 403 s!"Korunan checkpoint'in (MC{cpId} '{title}') priority/checkpoint_type alanlari degistirilemez (Master Checkpoint enforcement).")
    (kirmiziCizgi cp.2 ∧ (payload.priority.isSome ∨ payload.checkpointType.isSome))
  let yeni ← payload.yaz cp.2
  return [.checkpoint (.update cp.1 (fun _ => yeni))]

/-- `isSystem` is the column of that name, which no endpoint writes. -/
def deleteCheckpoint (isSystem : ℕ → Bool) (db : Db) (istek : Istek) (cpId : ℤ) (hard : Bool) :
    Except UcHatasi (List Write) := do
  let bulunan ← within .hata (findById db.checkpoints istek.userId istek.wsId (.int cpId))
  let cp ← require (.http 404 s!"Checkpoint bulunamadi (id={cpId})") bulunan
  let title := cp.2.title
  stopIf (.http 403 s!"Sistem/kritik checkpoint hard delete edilemez ('{title}'). Pasiflestirmek icin ?hard=false kullanin.")
    (hard ∧ (isSystem cp.1 ∨ kirmiziCizgi cp.2))
  return [.checkpoint (if hard then .delete cp.1 else .update cp.1 (fun c => { c with isActive := false }))]

theorem createCheckpoint_ok {istek : Istek} {payload : CheckpointCreate} {ws : List Write} :
    createCheckpoint istek payload = .ok ws ↔
      payload.uygun = true ∧ ws = [.checkpoint (.insert (yeniCheckpoint istek payload))] := by
  simp only [createCheckpoint, bind_eq_ok, stopIf_eq_ok, pure_eq_ok, exists_const, Bool.not_eq_false]
  exact and_congr_right fun _ => eq_comm

theorem CheckpointUpdate.yaz_ok {payload : CheckpointUpdate} {cp yeni : MasterCheckpoint}
    (h : payload.yaz cp = .ok yeni) :
    zorunlu payload.isActive cp.isActive = .ok yeni.isActive ∧
      yeni.ruleType = (payload.ruleType.map (Option.map RuleType.ofName)).getD cp.ruleType ∧
      yeni.ruleParams = (payload.ruleParams.map (Option.map JsonText.object)).getD cp.ruleParams := by
  simp only [CheckpointUpdate.yaz, bind_eq_ok, pure_eq_ok] at h
  obtain ⟨title, _, description, _, tip, _, oncelik, _, aktif, ha, rfl⟩ := h
  exact ⟨ha, rfl, rfl⟩

theorem updateCheckpoint_ok {db : Db} {istek : Istek} {cpId : ℤ} {payload : CheckpointUpdate}
    {ws : List Write} :
    updateCheckpoint db istek cpId payload = .ok ws ↔
      payload.uygun = true ∧ ∃ id cp yeni,
        findById db.checkpoints istek.userId istek.wsId (.int cpId) = .ok (some (id, cp)) ∧
        ¬ (kirmiziCizgi cp = true ∧ (payload.priority.isSome = true ∨ payload.checkpointType.isSome = true)) ∧
        payload.yaz cp = .ok yeni ∧ ws = [.checkpoint (.update id (fun _ => yeni))] := by
  simp only [updateCheckpoint, bind_eq_ok, stopIf_eq_ok, within_eq_ok, require_eq_ok, pure_eq_ok,
    exists_const, Bool.not_eq_false]
  constructor
  · rintro ⟨hu, _, hf, ⟨id, cp⟩, rfl, hk, yeni, hy, rfl⟩
    exact ⟨hu, id, cp, yeni, hf, hk, hy, rfl⟩
  · rintro ⟨hu, id, cp, yeni, hf, hk, hy, rfl⟩
    exact ⟨hu, _, hf, (id, cp), rfl, hk, yeni, hy, rfl⟩

theorem deleteCheckpoint_ok {isSystem : ℕ → Bool} {db : Db} {istek : Istek} {cpId : ℤ} {hard : Bool}
    {ws : List Write} (h : deleteCheckpoint isSystem db istek cpId hard = .ok ws) :
    ∃ id, ws = [.checkpoint (.delete id)] ∨
      ws = [.checkpoint (.update id (fun c => { c with isActive := false }))] := by
  simp only [deleteCheckpoint, bind_eq_ok, stopIf_eq_ok, within_eq_ok, require_eq_ok, pure_eq_ok,
    exists_const] at h
  obtain ⟨_, _, cp, _, _, rfl⟩ := h
  refine ⟨cp.1, ?_⟩
  cases hard with
  | true => exact .inl rfl
  | false => exact .inr rfl

end FinancialOs.Routers
