import FinancialOs.Library.BacktrackingMatch
import FinancialOs.Library.RecentKeys
import FinancialOs.Routers.CoachHistory
import FinancialOs.Rules.DecisionRhythm
import FinancialOs.Rules.PromptSafety

/-! The extractor of explicit red lines: what a user refuses in so many words, with the messages that say so. -/
namespace FinancialOs.Rules
open Library Store Routers

/-- A letter that the patterns compare without regard to case. -/
def erlKatla (c : Char) : Char :=
  if c = 'Ç' then 'ç' else if c = 'Ğ' then 'ğ' else if c = 'Ö' then 'ö' else if c = 'Ş' then 'ş' else if c = 'Ü' then 'ü'
  else harfKatla c

/-- The class between the words of a pattern. -/
def erlSinif (c : Char) : Bool :=
  (97 ≤ (erlKatla c).toNat ∧ (erlKatla c).toNat ≤ 122) ∨ erlKatla c ∈ ['ç', 'ğ', 'ö', 'ş', 'ü'] ∨ boslukMu c

def erlSozcuk (w : String) : Matcher Char := fun s =>
  if (s.take w.length).map erlKatla = w.toList.map erlKatla then [s.drop w.length] else []

/-- One of the words, the first that goes on to match. -/
def erlSozcukler (ws : List String) : Matcher Char := fun s => ws.flatMap fun w => erlSozcuk w s

def erlBosluk : Matcher Char := .many1 (.one boslukMu)

/-- `{1,n}?` of the class. -/
def erlAra (n : ℕ) : Matcher Char := (Matcher.one erlSinif).seq (.upToLazy (n - 1) (.one erlSinif))

structure ErlDesen where
  category : String
  desen : Matcher Char
  /-- Whether the message has to be about money. -/
  anchor : Bool

section Patterns
variable (kelime : Char → Bool)

/-- The end of a word, behind a letter. -/
def erlSon : Matcher Char := fun s => if s.head?.any kelime then [] else [s]

/-- `ERL_PATTERNS`, behind the boundary that each begins with; `kelime` is `\w`. -/
def erlPatterns : List ErlDesen := [
  ⟨"mutlak_red", (erlSozcuk "asla").seq (erlBosluk.seq ((erlAra 40).seq ((erlSozcukler ["mam", "mem", "mayacagim",
    "meyecegim", "mayacağım", "meyeceğim", "maz", "mez"]).seq (erlSon kelime)))), true⟩,
  ⟨"niyet_beyani", (Matcher.one erlSinif).seq ((erlAra 49).seq (erlBosluk.seq ((erlSozcukler ["istemiyorum", "istemem",
    "istemiyrum"]).seq (erlSon kelime)))), true⟩,
  ⟨"vaat", (erlSozcuk "bir").seq (erlBosluk.seq ((erlSozcuk "daha").seq (erlBosluk.seq ((erlAra 40).seq (erlBosluk.seq
    ((erlSozcukler ["çekmem", "cekmem", "almam", "yapmam", "açmam", "acmam", "kapatmam", "odemem", "ödemem",
      "harcamam"]).seq (erlSon kelime))))))), false⟩,
  ⟨"kesin_red", (erlSozcuk "kesinlikle").seq (erlBosluk.seq ((erlAra 40).seq ((erlSozcukler ["maz", "mez", "mam", "mem",
    "miyorum", "miyrum"]).seq (erlSon kelime)))), true⟩,
  ⟨"acik_sinir", ((erlSozcuk "kırmızı").seq (erlBosluk.seq ((erlSozcuk "çizgi").seq ((Matcher.upTo 1 (erlSozcukler ["m",
    "mdir"])).seq (erlSon kelime))))).alt ((erlSozcuk "kirmizi").seq (erlBosluk.seq ((erlSozcuk "cizgi").seq ((Matcher.upTo
    1 (erlSozcukler ["m", "mdir"])).seq (erlSon kelime))))), false⟩]

/-- `ERL_FINANCIAL_RE`. -/
def erlFinancial : Matcher Char := (erlSozcukler ["para", "nakit", "kart", "kredi", "borç", "borc", "harca", "harcama",
  "tl", "lira", "taksit", "faiz", "kumar", "bahis", "yatırım", "yatirim", "fon", "hesap", "öde", "ode", "tasarruf", "bütçe",
  "butce", "kripto", "hisse", "altın", "altin", "döviz", "doviz", "limit", "maaş", "maas", "fatura", "abonelik",
  "zarf"]).seq ((Matcher.many (.one kelime)).seq (erlSon kelime))

/-- `search`: where the first match begins and ends, from a word boundary. -/
def erlSearch (desen : Matcher Char) : ℕ → Option Char → List Char → Option (ℕ × ℕ)
  | i, once, s =>
    match if once.any kelime = s.head?.any kelime then none else (desen s).head? with
    | some kalan => some (i, i + (s.length - kalan.length))
    | none =>
      match s with
      | [] => none
      | c :: s => erlSearch desen (i + 1) (some c) s

def erlPeriodDays : ℕ := 90

def erlMaxMessageLen : ℕ := 200

def erlDominantPriority : ℤ := 15

def erlKayitSiniri : ℕ := 50

/-- `_erl_extract_match_text`. -/
def erlExtractMatchText (start stop : ℕ) (fullText : List Char) : List Char :=
  let excerpt := kirp ((fullText.take (stop + 20)).drop (start - 10))
  if 80 < excerpt.length then (excerpt.take 80).rdropWhile boslukMu ++ "...".toList else excerpt

/-- What a message says in the words of a pattern: the title of the insight and the text that triggers it. -/
structure ErlBulgu where
  title : String
  category : String
  excerpt : String
  deriving DecidableEq

def erlBaslik (category : String) (excerpt : List Char) : String :=
  let title := ("Kirmizi cizgi [" ++ category ++ "]: ").toList ++ excerpt
  String.ofList (if 200 < title.length then title.take 197 ++ "...".toList else title)

def erlBul (d : ErlDesen) (content : List Char) : Option ErlBulgu :=
  (erlSearch kelime d.desen 0 none content).bind fun m =>
    if d.anchor ∧ (erlSearch kelime (erlFinancial kelime) 0 none content).isNone then none
    else
      let excerpt := erlExtractMatchText m.1 m.2 content
      some ⟨erlBaslik d.category excerpt, d.category, String.ofList excerpt⟩

/-- What the loop over the patterns finds in a message. -/
def erlBulgular (ham : String) : List ErlBulgu :=
  let content := kirp ham.toList
  if content = [] ∨ erlMaxMessageLen < content.length ∨ content.getLast? = some '?' then []
  else (erlPatterns kelime).filterMap fun d => erlBul kelime d content

end Patterns

def erlRef (memoryId : ℕ) : String := "coach_memory:" ++ toString memoryId

structure ErlRapor where
  matchedMessages : ℕ
  newInsights : ℕ
  updatedInsights : ℕ
  skippedDedup : ℕ
  scannedMessages : ℕ

/-- The variables of the loop: the rows, `existing_refs_map`, `existing_titles`, `seen_titles_this_run` and the
counters. -/
structure ErlDurum where
  tablo : Table CoachInsight
  refs : String → Option (List String)
  titles : List String
  seen : List String
  rapor : ErlRapor

section Run
variable (now : ℤ) (userId : ℕ)

def erlIcgoru (b : ErlBulgu) (sourceRefs : List String) : YeniIcgoru where
  insightType := .explicitRedLine
  title := b.title
  content := "Kullanici acikca '" ++ b.category ++ "' kategorisinde bir kirmizi cizgi ifade etti. Tetikleyici metin: \x22" ++
    b.excerpt ++ "\x22. Bu ifade kullanicinin kendi sozune dayanir, kanit dogrudan."
  confidenceBasis := .dataGrounded
  sourceRefs := sourceRefs
  isSupportingEvidence := true
  paraCategory := .area
  priority := erlDominantPriority

/-- What the loop does with one finding in a message, and whether the message counts as matched. -/
def erlIsle (memoryId : ℕ) (s : ErlDurum × Bool) (b : ErlBulgu) : ErlDurum × Bool :=
  let d := s.1
  let eski := (d.refs b.title).getD []
  if erlRef memoryId ∈ eski then ({ d with rapor := { d.rapor with skippedDedup := d.rapor.skippedDedup + 1 } }, s.2)
  else
    let refsList := (eski ++ [erlRef memoryId]).rtake erlKayitSiniri
    let rapor := if b.title ∈ d.seen then d.rapor
      else if b.title ∈ d.titles then { d.rapor with updatedInsights := d.rapor.updatedInsights + 1 }
      else { d.rapor with newInsights := d.rapor.newInsights + 1 }
    ({ tablo := saveOrUpdateInsight now userId (erlIcgoru b refsList) d.tablo
       refs := Function.update d.refs b.title (some refsList)
       titles := if b.title ∈ d.titles then d.titles else b.title :: d.titles
       seen := if b.title ∈ d.seen then d.seen else b.title :: d.seen
       rapor := rapor }, true)

def erlMesajIsle (kelime : Char → Bool) (d : ErlDurum) (m : ℕ × CoachMemory) : ErlDurum :=
  let s := (erlBulgular kelime m.2.content).foldl (erlIsle now userId m.1) (d, false)
  if s.2 then { s.1 with rapor := { s.1.rapor with matchedMessages := s.1.rapor.matchedMessages + 1 } } else s.1

/-- The messages that are scanned: those of the user within the window, the earliest first. -/
def erlMesajlar (memories : Table CoachMemory) : List (ℕ × CoachMemory) :=
  (memories.select fun m => m.userId = userId ∧ m.role = .user ∧
    now - erlPeriodDays * 86400000000 ≤ m.timestamp).mergeSort fun a b => a.2.timestamp ≤ b.2.timestamp

/-- The insights that are there when the extractor begins. -/
def erlMevcut (t : Table CoachInsight) : List (ℕ × CoachInsight) :=
  t.select fun i => i.userId = userId ∧ i.insightType = some .explicitRedLine

def erlBaslangic (memories : Table CoachMemory) (t : Table CoachInsight) : ErlDurum where
  tablo := t
  refs title := ((erlMevcut userId t).find? fun i => i.2.title = some title).map fun i => i.2.sourceRefs
  titles := (erlMevcut userId t).filterMap fun i => i.2.title
  seen := []
  rapor := ⟨0, 0, 0, 0, (erlMesajlar now userId memories).length⟩

/-- `extract_explicit_red_line_k1`, with the rows it leaves. -/
def extractExplicitRedLineK1 (kelime : Char → Bool) (memories : Table CoachMemory) (t : Table CoachInsight) :
    ErlRapor × Table CoachInsight :=
  let d := (erlMesajlar now userId memories).foldl (erlMesajIsle now userId kelime) (erlBaslangic now userId memories t)
  (d.rapor, d.tablo)

end Run
end FinancialOs.Rules
