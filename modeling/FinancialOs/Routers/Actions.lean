import FinancialOs.Executor.PendingActions
import FinancialOs.Routers.WorkspaceDeps
import FinancialOs.Rules.ActionSchema

/-! The endpoints around the coach's proposals: a proposal is stored in a workspace, and its
owner approves or rejects it later, with whatever workspace that request then names. -/
namespace FinancialOs.Routers
open Library Store Rules Executor

/-- The arguments of `propose_action`, with the recurring source a trigger adds to its proposal. -/
structure Oneri where
  userId : ℕ
  actionType : ActionType
  payload : Payload
  summary : String
  kaynak : Option (ℕ × RecurringKind)

/-- What `propose_action` does with the text around a payload: the checks on the summary and the
message may refuse it, and a transaction's payload is normalised. -/
abbrev MetinDenetimi := Db → Option ℕ → Oneri → Except PyError Payload

def proposeAction (metin : MetinDenetimi) (db : Db) (workspaceId : Option ℕ) (o : Oneri) :
    Except UcHatasi (List Write) := do
  let tur := actionTypeText o.actionType
  stopIf (.hata (.raised s!"Bilinmeyen aksiyon türü: {tur}")) (payloadSemalari o.actionType).isNone
  stopIf (.hata (.raised "PAYLOAD_GECERSIZ")) (semayaUyar o.actionType o.payload = false)
  let payload ← within .hata (metin db workspaceId o)
  return [.pendingAction (.insert {
    userId := o.userId
    workspaceId := workspaceId.orElse (fun _ => personalWorkspace db o.userId)
    actionType := o.actionType
    payload := .object payload
    summary := o.summary
    status := .pending
    errorMessage := none
    sourceRecurringId := o.kaynak.map Prod.fst
    sourceRecurringType := o.kaynak.map Prod.snd })]

/-- A proposal made in the coach's chat, which any member of the workspace may open. -/
def sohbetOnerisi (metin : MetinDenetimi) (production : Bool) (db : Db) (xWorkspaceId : Option ℤ)
    (o : Oneri) : Except UcHatasi (List Write) := do
  let wsId ← activeWorkspaceId production db o.userId xWorkspaceId
  proposeAction metin db wsId { o with kaynak := none }

/-- A proposal for a recurring record that is due, stored in the user's own workspace. -/
def tetikOnerisi (metin : MetinDenetimi) (db : Db) (xWorkspaceId : Option ℤ) (o : Oneri) :
    Except UcHatasi (List Write) := do
  requireWrite db o.userId xWorkspaceId
  proposeAction metin db none o

/-- `_yurutucu_hatasi`: the executor's refusal as an HTTP error. -/
def yurutucuHatasi (varsayilan : String) : Yanit → UcHatasi
  | .bulunamadi error => .http 404 (if error = "" then varsayilan else error)
  | .zaten error => .http 409 (if error = "" then varsayilan else error)
  | .basarisiz error checkpointTitle =>
    .http (if checkpointTitle.isSome then 403 else 422) (if error = "" then varsayilan else error)
  | .firlatti e => .hata e
  | _ => .http 422 varsayilan

/-- The dependencies of the action endpoints: the role check, then the scope of the request. -/
def aksiyonKapisi (production : Bool) (db : Db) (userId : ℕ) (xWorkspaceId : Option ℤ) :
    Except UcHatasi (Option ℕ) := do
  requireWrite db userId xWorkspaceId
  activeWorkspaceId production db userId xWorkspaceId

def approveAction (production : Bool) (ariza : Ariza) (bugun : ℕ → Date) (db : Db) (userId : ℕ)
    (xWorkspaceId : Option ℤ) (actionId : ℕ) : Except UcHatasi Cevap × Db :=
  match aksiyonKapisi production db userId xWorkspaceId with
  | .error e => (.error e, db)
  | .ok _ => match kendiAksiyonu db actionId userId with
    | none => (.error (.http 404 s!"Aksiyon bulunamadi: id={actionId}"), db)
    | some _ => match executePendingAction ariza bugun db actionId userId with
      | (.basarili cevap, db') => (.ok cevap, db')
      | (yanit, db') => (.error (yurutucuHatasi "Aksiyon uygulanamadi." yanit), db')

/-- `reject_action`: the role check only, no scope. -/
def rejectAction (db : Db) (userId : ℕ) (xWorkspaceId : Option ℤ) (actionId : ℕ)
    (reason : Option String) : Except UcHatasi ℕ × Db :=
  match requireWrite db userId xWorkspaceId with
  | .error e => (.error e, db)
  | .ok () => match rejectPendingAction db actionId userId reason with
    | (.reddedildi id, db') => (.ok id, db')
    | (yanit, db') => (.error (yurutucuHatasi "Aksiyon reddetme basarisiz." yanit), db')

/-- What an approval leaves behind is what the executor leaves behind, or nothing new. -/
theorem approveAction_db (production : Bool) (ariza : Ariza) (bugun : ℕ → Date) (db : Db)
    (userId : ℕ) (xWorkspaceId : Option ℤ) (actionId : ℕ) :
    (approveAction production ariza bugun db userId xWorkspaceId actionId).2 = db ∨
      (∃ wsId, aksiyonKapisi production db userId xWorkspaceId = .ok wsId) ∧
        (approveAction production ariza bugun db userId xWorkspaceId actionId).2 =
          (executePendingAction ariza bugun db actionId userId).2 := by
  unfold approveAction
  cases hk : aksiyonKapisi production db userId xWorkspaceId with
  | error e => exact .inl rfl
  | ok wsId =>
    cases kendiAksiyonu db actionId userId with
    | none => exact .inl rfl
    | some pending =>
      right
      refine ⟨⟨wsId, rfl⟩, ?_⟩
      rcases executePendingAction ariza bugun db actionId userId with ⟨yanit, db'⟩
      cases yanit <;> rfl

end FinancialOs.Routers
