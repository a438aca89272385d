import FinancialOs.Library.Interleaving
import FinancialOs.Routers.Auth

/-! Opening an account in the closed beta, by password or with a provider. Each registration takes one
database step at a time: it looks the invitation up, looks the address up, and writes user and mark at once. -/
namespace FinancialOs.Routers
open Library Store Rules

structure BetaInvite where
  code : String
  email : Option String
  expiresAt : Option ℤ
  usedAt : Option ℤ
  usedByUserId : Option ℕ
  deriving DecidableEq

structure BetaDb where
  kimlik : KimlikDb
  davetler : Table BetaInvite

/-- Unused, not expired, and for this address if it is for one. -/
def davetGecerli (email : String) (now : ℤ) (davet : BetaInvite) : Bool :=
  davet.usedAt = none ∧ ¬ davet.expiresAt.any (· < now) ∧ davet.email.all fun e => e = "" ∨ e = epostaDuz email

/-- `davet_dogrula`. -/
def davetDogrula (davetler : Table BetaInvite) (code : Option String) (email : String) (now : ℤ) :
    Option (ℕ × BetaInvite) :=
  let kod := code.getD ""
  if kod = "" then none
  else (davetler.first? fun d => d.code.toList = NumberText.strip kod.toList).filter fun d =>
    davetGecerli email now d.2

/-- `eposta_daveti_bul`: invitations without an address are not found this way. -/
def epostaDavetiBul (davetler : Table BetaInvite) (email : String) (now : ℤ) : Option (ℕ × BetaInvite) :=
  let normal := epostaDuz email
  if normal = "" then none
  else davetler.first? fun d => d.email = some normal ∧ d.usedAt = none ∧
    (davetDogrula davetler (some d.code) normal now).isSome

/-- `davet_kullan`. -/
def davetKullan (now : ℤ) (userId : ℕ) (davet : BetaInvite) : BetaInvite :=
  { davet with usedAt := some now, usedByUserId := some userId }

/-- The mark, on the invitation that a registration carries. -/
def davetiIsaretle (davetler : Table BetaInvite) (now : ℤ) (userId : ℕ) : Option ℕ → Table BetaInvite
  | some d => davetler.modify d (davetKullan now userId)
  | none => davetler

inductive KayitYolu where
  | sifreli (body : RegisterIn) (inviteCode : Option String)
  | oauth (info : OAuthInfo)

structure KayitIstegi where
  yol : KayitYolu
  now : ℤ

inductive KayitSonucu where
  | red (e : AuthHatasi)
  | mevcut
  | acildi (userId : ℕ) (davet : Option ℕ)
  deriving DecidableEq

/-- How far a registration has come; the invitation it has read and the row it is to write travel with it. -/
inductive KayitKonumu where
  | basla
  | kullaniciBakacak (davet : Option ℕ)
  | davetBakacak
  | baglayacak (userId : ℕ)
  | kaydedecek (davet : Option ℕ) (user : Kullanici)
  | bitti (sonuc : KayitSonucu)
  deriving DecidableEq

/-- The address an account is opened under. -/
def KayitYolu.email : KayitYolu → String
  | .sifreli body _ => epostaDuz body.email
  | .oauth info => epostaDuz info.email

/-- The checks on the body, before the database is asked. -/
def kayitKontrol (ayar : AuthAyarlari) (body : RegisterIn) : Except AuthHatasi Unit := do
  stopIf .sema (ayar.emailGecerli body.email = false ∨ parolaUzunlugu 8 body.password = false ∨
    body.name.any (fun ad => 100 < ad.length))
  stopIf (.http 422 "KVKK açık rıza zorunlu (kvkk_consent=true).") (body.kvkkConsent = false)
  sifreDogrula ayar body.password (some body.email) body.name

/-- The row of a registration by password. -/
def sifreliSatir (ayar : AuthAyarlari) (body : RegisterIn) (passwordHash : String) : Kullanici where
  email := some (epostaDuz body.email)
  name := if bosYazi body.name then yerelKisim (epostaDuz body.email) else body.name.getD ""
  passwordHash := some passwordHash
  oauthProvider := none
  oauthSub := none
  emailVerifiedAt := none
  isActive := ayar.emailVerificationRequired = false
  tokenVersion := 0

/-- The row of a registration with a provider. -/
def oauthSatiri (info : OAuthInfo) : Kullanici where
  email := some (epostaDuz info.email)
  name := if bosYazi info.name then yerelKisim (epostaDuz info.email) else info.name.getD ""
  passwordHash := none
  oauthProvider := some info.provider
  oauthSub := some info.sub
  emailVerifiedAt := none
  isActive := true
  tokenVersion := 0

def davetliKayit : AuthHatasi := .http 403 "Kayıt şu anda davetlilere açık. Geçerli bir davet kodu gerekli."

def davetliListesi : AuthHatasi :=
  .http 403 "FinancialOS şu anda kapalı betada. Bu e-posta davetli listesinde olmadığı için hesap açılamadı."

/-- Where a registration by password goes after it has looked its invitation up. -/
def davetSonrasi (ayar : AuthAyarlari) (davetler : Table BetaInvite) (body : RegisterIn) (code : Option String)
    (now : ℤ) : KayitKonumu :=
  match kayitKontrol ayar body with
  | .error e => .bitti (.red e)
  | .ok _ =>
    if ayar.inviteRequired then
      match davetDogrula davetler code (epostaDuz body.email) now with
      | some d => .kullaniciBakacak (some d.1)
      | none => .bitti (.red davetliKayit)
    else .kullaniciBakacak none

/-- And after it has looked the address up. -/
def adresSonrasi (ayar : AuthAyarlari) (s : KimlikDb) (davet : Option ℕ) (body : RegisterIn) : KayitKonumu :=
  match s.epostaylaBul (epostaDuz body.email) with
  | some _ =>
    if ayar.emailVerificationRequired then .bitti .mevcut else .bitti (.red (.http 409 "Bu e-posta zaten kayıtlı."))
  | none =>
    match hashPassword ayar body.password with
    | .error e => .bitti (.red e)
    | .ok passwordHash => .kaydedecek davet (sifreliSatir ayar body passwordHash)

/-- Where a sign-in with a provider goes after it has looked the address up. -/
def oauthAdresSonrasi (ayar : AuthAyarlari) (s : KimlikDb) (info : OAuthInfo) : KayitKonumu :=
  match s.epostaylaBul (epostaDuz info.email) with
  | some (id, user) =>
    if user.isActive = false then .bitti (.red (.http 403 "Hesap pasif."))
    else if bosYazi user.oauthProvider then .baglayacak id
    else .bitti .mevcut
  | none => if ayar.inviteRequired then .davetBakacak else .kaydedecek none (oauthSatiri info)

/-- And after it has looked for an invitation to the address. -/
def oauthDavetSonrasi (davetler : Table BetaInvite) (info : OAuthInfo) (now : ℤ) : KayitKonumu :=
  match epostaDavetiBul davetler (epostaDuz info.email) now with
  | some d => .kaydedecek (some d.1) (oauthSatiri info)
  | none => .bitti (.red davetliListesi)

/-- The user and the mark on the invitation are one commit; the address is unique. -/
def kaydet (s : BetaDb) (now : ℤ) (davet : Option ℕ) (user : Kullanici) : BetaDb × KayitKonumu :=
  if (s.kimlik.epostaylaBul (user.email.getD "")).isSome then (s, .bitti (.red (.hata .databaseError)))
  else
    let userId := s.kimlik.users.freshKey
    ({ kimlik := s.kimlik.kullaniciEkle user
       davetler := davetiIsaretle s.davetler now userId davet }, .bitti (.acildi userId davet))

/-- One database step of `register` or of `oauth_callback`, once the provider has answered. -/
def kayitAdimi (ayar : AuthAyarlari) (istek : KayitIstegi) (s : BetaDb) : KayitKonumu → BetaDb × KayitKonumu
  | .basla => match istek.yol with
    | .sifreli body code => (s, davetSonrasi ayar s.davetler body code istek.now)
    | .oauth info => (s, oauthAdresSonrasi ayar s.kimlik info)
  | .kullaniciBakacak davet => match istek.yol with
    | .sifreli body _ => (s, adresSonrasi ayar s.kimlik davet body)
    | .oauth _ => (s, .kullaniciBakacak davet)
  | .davetBakacak => match istek.yol with
    | .oauth info => (s, oauthDavetSonrasi s.davetler info istek.now)
    | .sifreli _ _ => (s, .davetBakacak)
  | .baglayacak userId => match istek.yol with
    | .oauth info => ({ s with kimlik := s.kimlik.kullaniciYaz userId fun u =>
        { u with oauthProvider := some info.provider, oauthSub := some info.sub } }, .bitti .mevcut)
    | .sifreli _ _ => (s, .baglayacak userId)
  | .kaydedecek davet user => kaydet s istek.now davet user
  | .bitti sonuc => (s, .bitti sonuc)

end FinancialOs.Routers
