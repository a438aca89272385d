import FinancialOs.Routers.CoachQuota

/-! The chain of the coach's providers: what an error of a provider means, how often it is asked again, and who is
asked next. What a provider answers is up to it, and to all that was asked before. -/
namespace FinancialOs.Routers
open Library Store

inductive HataSinifi where
  | kota | gecici | istekCokBuyuk | kalici
  deriving DecidableEq, Repr

/-- An exception of a provider, as far as it is looked at: the status code and the seconds to wait that were found in
it, its text, and whether it stands for an empty answer. -/
structure SaglayiciHatasi where
  durumKodu : Option ℕ
  metin : String
  bosYanit : Bool
  retryAfterSaniye : Option ℚ

/-- `_COK_BUYUK_DESENI`, `_KOTA_DESENI` and `_GECICI_DESENI`. -/
structure MetinDesenleri where
  cokBuyuk : String → Bool
  kota : String → Bool
  gecici : String → Bool

structure Siniflandirma where
  sinif : HataSinifi
  gerekce : String
  durumKodu : Option ℕ

/-- `_DURUM_KODU_SINIFI`, where it says that the error passes. -/
def geciciKodlar : List ℕ := [500, 502, 503, 504, 529]

/-- `siniflandir`. -/
def siniflandir (d : MetinDesenleri) (e : SaglayiciHatasi) : Siniflandirma :=
  if e.durumKodu = some 413 ∨ d.cokBuyuk e.metin then
    ⟨.istekCokBuyuk, "istek tek basina model/tier limitini asiyor", e.durumKodu⟩
  else if e.durumKodu = some 429 ∨ e.durumKodu = some 402 ∨ d.kota e.metin then ⟨.kota, "kota/oran limiti", e.durumKodu⟩
  else if e.durumKodu.any (· ∈ geciciKodlar) ∨ d.gecici e.metin then
    ⟨.gecici, "gecici sunucu/yuk hatasi", e.durumKodu⟩
  else ⟨.kalici, "kalici hata (tekrar denemek beyhude)", e.durumKodu⟩

def isQuotaExceeded (d : MetinDesenleri) (e : SaglayiciHatasi) : Bool := (siniflandir d e).sinif = .kota

def isRetryableError (d : MetinDesenleri) (e : SaglayiciHatasi) : Bool := (siniflandir d e).sinif = .gecici

def isRequestTooLarge (d : MetinDesenleri) (e : SaglayiciHatasi) : Bool := (siniflandir d e).sinif = .istekCokBuyuk

structure LLMResponse where
  text : String
  tokensIn : Option ℤ
  tokensOut : Option ℤ
  providerUsed : Option String
  modelName : Option String
  deriving DecidableEq

/-- A provider with its `NAME` and its model. -/
structure Saglayici where
  ad : String
  model : String
  deriving DecidableEq

/-- A request that went out, and how it ended. -/
structure HamCagri where
  saglayici : Saglayici
  sonuc : Except SaglayiciHatasi LLMResponse
  sureMs : ℤ

/-- The network: what a provider answers after all the requests so far, and how long it takes. -/
abbrev Ag := List HamCagri → Saglayici → Except SaglayiciHatasi LLMResponse × ℤ

/-- `_raw_chat` under its hook: the request is on record however it ends. -/
def hamCagri (ag : Ag) (p : Saglayici) (gecmis : List HamCagri) : HamCagri := ⟨p, (ag gecmis p).1, (ag gecmis p).2⟩

/-- `cagri_kaydet`: what the measurement keeps of a request. -/
def cagriKaydet (c : HamCagri) : Cagri :=
  match c.sonuc with
  | .ok y => ⟨saglayiciAdi c.saglayici.ad, some ((doluYazi y.modelName).getD c.saglayici.model), y.tokensIn, y.tokensOut,
      some c.sureMs⟩
  | .error _ => ⟨saglayiciAdi c.saglayici.ad, some c.saglayici.model, none, none, some c.sureMs⟩

/-- What the loop of `_call_with_retry` needs to know of its surroundings: the patterns, and
`retry_after_tavani_sn`. -/
structure DenemeAyari where
  desenler : MetinDesenleri
  retryAfterTavani : ℚ

/-- The same provider is asked again: after the seconds that it asked for, if they are few, or after a passing error. -/
def yenidenDenenir (ayar : DenemeAyari) (e : SaglayiciHatasi) : Bool :=
  if isQuotaExceeded ayar.desenler e then e.retryAfterSaniye.any (· ≤ ayar.retryAfterTavani)
  else !e.bosYanit && isRetryableError ayar.desenler e

/-- `_call_with_retry`, with so many attempts behind the next one. -/
def callWithRetry (ayar : DenemeAyari) (ag : Ag) (p : Saglayici) (gecmis : List HamCagri) (kalan : ℕ) :
    Except SaglayiciHatasi LLMResponse × List HamCagri :=
  let c := hamCagri ag p gecmis
  match c.sonuc with
  | .ok y => (.ok y, gecmis ++ [c])
  | .error e =>
    match kalan with
    | 0 => (.error e, gecmis ++ [c])
    | kalan + 1 =>
      if yenidenDenenir ayar e then callWithRetry ayar ag p (gecmis ++ [c]) kalan else (.error e, gecmis ++ [c])

/-- A `FallbackProvider`, and all requests that its process has sent. -/
structure FallbackProvider where
  providers : List Saglayici
  dolu : providers ≠ []
  lastUsedProvider : Option String
  fallbackCount : ℕ
  oversizedProviders : List String
  gecmis : List HamCagri

/-- `candidates`: those passed over are left out, unless nobody is left. -/
def FallbackProvider.candidates (z : FallbackProvider) : List Saglayici :=
  let kalan := z.providers.filter fun p => p.ad ∉ z.oversizedProviders
  if kalan = [] then z.providers else kalan

theorem FallbackProvider.candidates_ne_nil (z : FallbackProvider) : z.candidates ≠ [] := by
  rw [FallbackProvider.candidates]
  split_ifs with h
  · exact z.dolu
  · exact h

/-- A candidate has failed; one whom the request is too large for is passed over from now on. -/
def FallbackProvider.dustu (ayar : DenemeAyari) (z : FallbackProvider) (p : Saglayici) (e : SaglayiciHatasi)
    (gecmis : List HamCagri) : FallbackProvider :=
  { z with
    oversizedProviders := if isRequestTooLarge ayar.desenler e ∧ p.ad ∉ z.oversizedProviders then
      p.ad :: z.oversizedProviders else z.oversizedProviders
    gecmis := gecmis }

/-- The chain from one candidate on. -/
def dene (ayar : DenemeAyari) (ag : Ag) (ilk : Bool) (p : Saglayici) (sonraki : List Saglayici) (z : FallbackProvider) :
    Except SaglayiciHatasi LLMResponse × FallbackProvider :=
  let r := callWithRetry ayar ag p z.gecmis 2
  match r.1 with
  | .ok y => (.ok { y with providerUsed := some p.ad.toLower }, { z with
      lastUsedProvider := some p.ad
      fallbackCount := if ilk then z.fallbackCount else z.fallbackCount + 1
      gecmis := r.2 })
  | .error e =>
    match sonraki with
    | [] => (.error e, z.dustu ayar p e r.2)
    | q :: sonraki => dene ayar ag false q sonraki (z.dustu ayar p e r.2)

/-- `FallbackProvider.chat`. -/
def FallbackProvider.chat (ayar : DenemeAyari) (ag : Ag) (z : FallbackProvider) :
    Except SaglayiciHatasi LLMResponse × FallbackProvider :=
  match h : z.candidates with
  | [] => absurd h z.candidates_ne_nil
  | p :: sonraki => dene ayar ag true p sonraki z

end FinancialOs.Routers
