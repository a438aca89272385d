import FinancialOs.Library.RowCounts
import FinancialOs.Store.Rows

/-! The memory of the coach: what a completed turn writes, what the next one reads of it, and the message lists
that the providers get. -/
namespace FinancialOs.Routers
open Library Store

inductive MesajRolu where
  | user
  | assistant
  | tool
  deriving DecidableEq

/-- A call as `tool_calls_json` keeps it. -/
structure ToolCall where
  id : String
  name : String
  args : JsonText
  deriving DecidableEq

/-- A message as the history hands it on. -/
structure Mesaj where
  role : MesajRolu
  content : String
  toolCallsJson : Option (List ToolCall)
  toolCallId : Option String
  deriving DecidableEq

structure CoachMemory extends Mesaj where
  userId : ℕ
  pendingActionIds : Option (List ℕ)
  timestamp : ℤ

/-- What the clock shows at one save after another. -/
structure Saat where
  an : ℕ → ℤ
  artar : ∀ ⦃i j : ℕ⦄, i < j → an i < an j

structure KocDb where
  memories : Table CoachMemory
  pendings : Table PendingAction

/-- A turn that came to its end: the texts, and the rows `propose_action` stored for it, each with the gap its
key left. -/
structure KocTuru where
  userId : ℕ
  userMessage : String
  cleanText : String
  reply : String
  oneriler : List (ℕ × PendingAction)

section Writing

/-- `_save_message`. -/
def saveMessage (saat : Saat) (userId : ℕ) (s : KocDb) (m : Mesaj × Option (List ℕ)) : KocDb :=
  { s with memories := s.memories.push ⟨m.1, userId, m.2, saat.an s.memories.rows.length⟩ }

/-- The rows of the proposals, under the keys they get. -/
def onerileriYaz : Table PendingAction → List (ℕ × PendingAction) → Table PendingAction × List (ℕ × PendingAction)
  | t, [] => (t, [])
  | t, (bosluk, row) :: l =>
    let kalan := onerileriYaz (t.pushAbove bosluk row) l
    (kalan.1, (t.freshKey + bosluk, row) :: kalan.2)

def duzMesaj (role : MesajRolu) (content : String) : Mesaj := ⟨role, content, none, none⟩

def callId (actionId : ℕ) : String := "call_" ++ toString actionId

def aksiyonMesaji (a : ℕ × PendingAction) : Mesaj where
  role := .tool
  content := "action_id=" ++ toString a.1 ++ ", status=pending, summary=" ++ a.2.summary
  toolCallsJson := none
  toolCallId := some (callId a.1)

def cagriMesaji (cleanText : String) (proposed : List (ℕ × PendingAction)) : Mesaj where
  role := .assistant
  content := cleanText
  toolCallsJson := some (proposed.map fun a => ⟨callId a.1, "propose_action", a.2.payload⟩)
  toolCallId := none

/-- What a turn saves, in this order. -/
def turMesajlari (tur : KocTuru) (proposed : List (ℕ × PendingAction)) : List (Mesaj × Option (List ℕ)) :=
  (duzMesaj .user tur.userMessage, none) ::
    if proposed = [] then [(duzMesaj .assistant tur.reply, none)]
    else (cagriMesaji tur.cleanText proposed, some (proposed.map Prod.fst)) ::
      proposed.map fun a => (aksiyonMesaji a, none)

/-- The last step of `chat`. -/
def turuKaydet (saat : Saat) (s : KocDb) (tur : KocTuru) : KocDb :=
  let yazilan := onerileriYaz s.pendings tur.oneriler
  (turMesajlari tur yazilan.2).foldl (saveMessage saat tur.userId) { s with pendings := yazilan.1 }

end Writing

section Reading

def maxHistoryMessageChars : ℕ := 1500
def maxTotalHistoryChars : ℕ := 6000

/-- `_truncate_long_message`. -/
def truncateLongMessage (content : String) (role : MesajRolu) : String :=
  if role ≠ .assistant then content
  else if content.length ≤ maxHistoryMessageChars then content
  else
    String.ofList (content.toList.take 1000) ++ "\n\n[... onceki rapor uzun, ortasi ozetlendi ...]\n\n" ++
      String.ofList (content.toList.drop (content.length - 300))

def toplamUzunluk (ms : List Mesaj) : ℕ := (ms.map fun m => m.content.length).sum

def yetimMi (m : Mesaj) : Bool := m.role = .tool ∨ m.toolCallId.any (· ≠ "")

/-- The loop of `_trim_history_to_size` once a message has been dropped: first the tool messages behind it go. -/
def kirpmayaDevam : List Mesaj → List Mesaj
  | [] => []
  | m :: ms =>
    if yetimMi m then kirpmayaDevam ms
    else if toplamUzunluk (m :: ms) > maxTotalHistoryChars ∧ ms ≠ [] then kirpmayaDevam ms
    else m :: ms

/-- `_trim_history_to_size`. -/
def trimHistoryToSize (ms : List Mesaj) : List Mesaj :=
  if toplamUzunluk ms ≤ maxTotalHistoryChars then ms
  else
    match ms with
    | _ :: m :: ms => kirpmayaDevam (m :: ms)
    | ms => ms

/-- The last messages of the user, long reports shortened. -/
def sonMesajlar (maxHistoryTurns : ℕ) (s : KocDb) (userId : ℕ) : List Mesaj :=
  let memories := (s.memories.rows.map Prod.snd).filter fun m => m.userId = userId
  let son := ((memories.mergeSort fun a b => b.timestamp ≤ a.timestamp).take (maxHistoryTurns * 2)).reverse
  son.map fun m => { m.toMesaj with content := truncateLongMessage m.content m.role }

/-- `_load_history`. -/
def loadHistory (maxHistoryTurns : ℕ) (s : KocDb) (userId : ℕ) : List Mesaj :=
  trimHistoryToSize (sonMesajlar maxHistoryTurns s userId)

end Reading

section Adapters

structure OpenAiMesaj where
  role : MesajRolu
  content : String
  toolCallId : Option String
  toolCalls : Option (List ToolCall)

def validTcIds (ms : List Mesaj) : List String :=
  ms.flatMap fun m => if m.role = .assistant then (m.toolCallsJson.getD []).map ToolCall.id else []

/-- The calls that have a name. -/
def adliCagrilar (m : Mesaj) : List ToolCall := (m.toolCallsJson.getD []).filter fun tc => tc.name ≠ ""

def openAiMesaji (m : Mesaj) : OpenAiMesaj :=
  match m.role, m.toolCallsJson with
  | .tool, _ => ⟨.tool, m.content, m.toolCallId, none⟩
  | .assistant, some _ =>
    ⟨.assistant, m.content, none, if adliCagrilar m = [] then none else some (adliCagrilar m)⟩
  | role, _ => ⟨role, m.content, none, none⟩

/-- A tool message whose call is not in the list is an orphan. -/
def oksuzMu (valid : List String) (m : Mesaj) : Bool :=
  m.role = .tool ∧ ¬ m.toolCallId.any fun id => id ∈ valid

/-- `_to_openai_messages`. -/
def toOpenAiMessages (ms : List Mesaj) : List OpenAiMesaj :=
  (ms.filter fun m => ! oksuzMu (validTcIds ms) m).map openAiMesaji

inductive AnthropicBlok where
  | text (text : String)
  | toolUse (id name : String) (input : JsonText)
  | toolResult (toolUseId : Option String) (content : String)

inductive AnthropicIcerik where
  | metin (text : String)
  | bloklar (blocks : List AnthropicBlok)

structure AnthropicMesaj where
  role : MesajRolu
  content : AnthropicIcerik

def dolu (content : String) : String := if content = "" then "(bos)" else content

def cagriBloklari (m : Mesaj) : List AnthropicBlok :=
  let blocks := (if m.content = "" then [] else [.text m.content]) ++
    (adliCagrilar m).map fun tc => .toolUse tc.id tc.name tc.args
  if blocks = [] then [.text (dolu m.content)] else blocks

def anthropicMesaji (m : Mesaj) : Option AnthropicMesaj :=
  match m.role, m.toolCallsJson with
  | .tool, _ => some ⟨.user, .bloklar [.toolResult m.toolCallId (dolu m.content)]⟩
  | .assistant, some _ => some ⟨.assistant, .bloklar (cagriBloklari m)⟩
  | role, _ =>
    if m.content = "" then none
    else some ⟨if role = .user then .user else .assistant, .metin m.content⟩

/-- `_to_anthropic_messages`. -/
def toAnthropicMessages (ms : List Mesaj) : List AnthropicMesaj := ms.filterMap anthropicMesaji

end Adapters

end FinancialOs.Routers
