import FinancialOs.Routers.LlmQuota
import FinancialOs.Routers.WorkspaceDeps

/-! A message to the coach as the ledger of calls sees it: the quota is checked, a row is reserved, the
calls are made, and the ledger is reconciled with what was measured. -/
namespace FinancialOs.Routers
open Library Store

/-- One request that went out to a provider. -/
structure Cagri where
  saglayici : String
  model : Option String
  tokensIn : Option ℤ
  tokensOut : Option ℤ
  sureMs : Option ℤ

/-- The environment: the ceiling, the providers' daily limits (`PROVIDER_DAILY_LIMITS`), their rounded use in
percent, the price list, and the masking of error texts. -/
structure KotaAyari where
  tavan : ℕ
  limitler : String → Option ℕ
  yuzde : ℕ → ℕ → ℚ
  maliyetUsd : Cagri → Option ℚ
  temizle : String → String

/-- A message; which calls it makes and how it ends is up to the providers. A call comes with the instant
its row would be written. -/
structure KocIstegi where
  provider : String
  model : String
  alternatifVar : Bool
  kapasiteVar : Bool
  onAn : ℤ
  an : ℤ
  sayimAni : ℤ
  bosluk : ℕ
  cagrilar : List (Cagri × ℤ)
  success : Bool
  providerUsed : Option String
  durationMs : ℤ
  toolCallsCount : ℕ
  errorMessage : Option String

/-- A text that Python takes for true. -/
def doluYazi (s : Option String) : Option String := s.filter (· ≠ "")

/-- `_satiri_doldur`. -/
def satiriDoldur (ayar : KotaAyari) (amac : String) (cagri : Cagri) (satir : ApiCallLog) : ApiCallLog :=
  { satir with
    provider := cagri.saglayici
    model := (doluYazi cagri.model).getD satir.model
    tokensIn := cagri.tokensIn
    tokensOut := cagri.tokensOut
    estCostUsd := ayar.maliyetUsd cagri
    durationMs := cagri.sureMs
    amac := if amac = "" then satir.amac else some amac }

/-- The row of a further call. -/
def ekSatir (ayar : KotaAyari) (userId : ℕ) (amac : String) (c : Cagri × ℤ) : ApiCallLog :=
  satiriDoldur ayar amac c.1 {
    userId := userId
    provider := c.1.saglayici
    model := (doluYazi c.1.model).getD "?"
    status := .success
    tokensIn := none
    tokensOut := none
    estCostUsd := none
    amac := some amac
    toolCallsCount := 0
    durationMs := none
    errorMessage := none
    calledAt := c.2 }

def satirlariEkle (rows : Table ApiCallLog) (satirlar : List ApiCallLog) : Table ApiCallLog :=
  satirlar.foldl (fun rows r => rows.pushAbove 0 r) rows

/-- `ek_cagrilari_uzlastir`: the first call fills the reserved row, every other one gets a row. -/
def ekCagrilariUzlastir (ayar : KotaAyari) (rows : Table ApiCallLog) (userId : ℕ) (olcum : List (Cagri × ℤ))
    (rezervasyon : Option ℕ) (amac : String) : Table ApiCallLog :=
  match olcum, rezervasyon with
  | [], _ => rows
  | ilk :: kalan, some id =>
    satirlariEkle (rows.modify id (satiriDoldur ayar amac ilk.1)) (kalan.map (ekSatir ayar userId amac))
  | olcum, none => satirlariEkle rows (olcum.map (ekSatir ayar userId amac))

/-- What `tamamla` makes of the reserved row. -/
def tamamlanan (ayar : KotaAyari) (istek : KocIstegi) (log : ApiCallLog) : ApiCallLog := { log with
  provider := saglayiciAdi ((doluYazi istek.providerUsed).getD istek.provider)
  status := if istek.success then .success else .failed
  durationMs := some istek.durationMs
  toolCallsCount := istek.toolCallsCount
  errorMessage := (doluYazi istek.errorMessage).map ayar.temizle }

/-- `_daily_constrained_provider`. -/
def gunlukSaglayici (provider : String) : String :=
  if provider = "fallback" ∨ provider = "gemini" then "gemini" else provider

/-- The `block` of `_build_usage_info`: the providers' shared limit is used up and nobody stands in. -/
def paylasilanDolu (ayar : KotaAyari) (rows : Table ApiCallLog) (istek : KocIstegi) : Bool :=
  let target := gunlukSaglayici istek.provider
  match ayar.limitler target with
  | none | some 0 => false
  | some limit => 100 ≤ ayar.yuzde (paylasilanCagriSayisi rows target istek.onAn) limit ∧ ¬ istek.alternatifVar

def kotaMesaji : String := "Bugunku koc kullanim hakkin doldu. Yarin yeniden sohbet edebilirsin — " ++
  "paneller ve hesaplamalar calismaya devam ediyor."

/-- The reservation of a message. -/
def KocIstegi.rezervasyon (istek : KocIstegi) (userId : ℕ) : Rezervasyon :=
  ⟨userId, istek.provider, istek.model, "koc", istek.an, istek.sayimAni, istek.bosluk⟩

/-- `chat`, down to the rows it leaves. -/
def kocSohbet (ayar : KotaAyari) (userId : ℕ) (rows : Table ApiCallLog) (istek : KocIstegi) :
    Except UcHatasi (Table ApiCallLog) := do
  stopIf (.http 429 kotaMesaji) (ayar.tavan ≠ 0 ∧ ayar.tavan ≤ bugunkuCagriSayisi rows userId istek.onAn)
  stopIf (.http 429 ("Koc su an yogun (gunluk kapasite doldu). Yarin yeniden dene — " ++
    "paneller ve hesaplamalar calismaya devam ediyor.")) (paylasilanDolu ayar rows istek)
  stopIf (.http 503 ("Sistem şu an yoğun. Birkaç saniye sonra tekrar dene — " ++
    "panellerin ve hesaplamaların çalışmaya devam ediyor.")) (istek.kapasiteVar = false)
  match rezerveEtTek ayar.tavan (istek.rezervasyon userId) rows with
  | (rows, .bitti (some id)) =>
    return ekCagrilariUzlastir ayar (rows.modify id (tamamlanan ayar istek)) userId istek.cagrilar (some id) "koc"
  | _ => .error (.http 429 kotaMesaji)

/-- The ledger behind a message; a refused one leaves it as it was. -/
def kocAdimi (ayar : KotaAyari) (userId : ℕ) (rows : Table ApiCallLog) (istek : KocIstegi) : Table ApiCallLog :=
  (kocSohbet ayar userId rows istek).toOption.getD rows

end FinancialOs.Routers
