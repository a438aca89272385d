import FinancialOs.Library.CheckedSteps
import FinancialOs.Rules.QuickEntry
import FinancialOs.Store.Credentials

/-! The authentication endpoints. Each reads the users, the signed tokens and the revoked ones, and
answers with an error, a message or a pair of tokens. -/
namespace FinancialOs.Routers
open Library Store Rules

inductive AuthHatasi where
  | sema
  | http (kod : ℕ) (detail : String)
  | unauthorized (code message : String)
  | hata (e : PyError)
  deriving DecidableEq

/-- The environment of the endpoints, with the password policy and the libraries they call. -/
structure AuthAyarlari where
  authEnabled : Bool
  isProduction : Bool
  smtpConfigured : Bool
  inviteRequired : Bool
  emailVerificationRequired : Bool
  accessTtl : ℤ
  refreshTtl : ℤ
  emailGecerli : String → Bool
  passwordProblems : String → Option String → Option String → List String
  hashpw : String → String
  checkpw : String → String → Bool

/-- The body of an answer; tokens are named by their `jti`. -/
inductive Govde where
  | tokenOut (userId accessToken refreshToken : ℕ)
  | mesaj (message : String) (devToken : Option ℕ)
  | oauthState (state : ℕ)
  | oauthSuccess (code : ℕ)
  | bos
  deriving DecidableEq

/-- An answer, and the user it acts as or hands tokens to. -/
structure AuthYaniti where
  kimlik : Option ℕ
  govde : Except AuthHatasi Govde

def Govde.kimlik : Govde → Option ℕ
  | .tokenOut userId _ _ => some userId
  | _ => none

/-- The answer of an endpoint without a session: an error leaves the database as it was. -/
def cevapla (s : KimlikDb) (r : Except AuthHatasi (Govde × KimlikDb)) : AuthYaniti × KimlikDb :=
  match r with
  | .ok (govde, s') => (⟨govde.kimlik, .ok govde⟩, s')
  | .error e => (⟨none, .error e⟩, s)

def epostaDuz (email : String) : String := String.ofList (sade email)

def bosYazi (s : Option String) : Bool := s.all (· = "")

/-- `_sifre_dogrula`. -/
def sifreDogrula (ayar : AuthAyarlari) (password : String) (email name : Option String) :
    Except AuthHatasi Unit :=
  let sorunlar := ayar.passwordProblems password email name
  let liste := "; ".intercalate sorunlar
  stopIf (.http 422 s!"Sifre kabul edilmedi: {liste}") (sorunlar ≠ [])

def hashPassword (ayar : AuthAyarlari) (password : String) : Except AuthHatasi String := do
  stopIf (.hata .valueError) (72 < password.utf8ByteSize)
  return ayar.hashpw password

def verifyPassword (ayar : AuthAyarlari) (password : String) (passwordHash : Option String) : Bool :=
  match passwordHash with
  | some h => h ≠ "" ∧ ayar.checkpw password h
  | none => false

def parolaUzunlugu (alt : ℕ) (s : String) : Bool := alt ≤ s.length ∧ s.length ≤ 72

/-- `_issue_tokens`: both tokens carry the user's current version. -/
def issueTokens (ayar : AuthAyarlari) (now : ℤ) (s : KimlikDb) (id : ℕ) : Govde × KimlikDb :=
  let tv := s.surumu id
  let s1 := s.createToken id .access ayar.accessTtl now tv
  let s2 := s1.createToken id .refresh ayar.refreshTtl now tv
  (.tokenOut id s.tokens.freshKey s1.tokens.freshKey, s2)

def surumArtir (user : Kullanici) : Kullanici := { user with tokenVersion := user.tokenVersion + 1 }

def sifreYaz (passwordHash : String) (u : Kullanici) : Kullanici :=
  surumArtir { u with passwordHash := some passwordHash }

/-- The user a valid access token stands for. -/
def erisimSahibi (s : KimlikDb) (now : ℤ) (token : ℕ) : Option (ℕ × Kullanici) := do
  let payload ← s.decodeToken now token .access
  let user ← s.kullanici payload.sub
  if user.isActive ∧ ¬ s.tokenRevoked token ∧ tokenVersionOk payload user then
    some (payload.sub, user)
  else none

def fallbackUser (s : KimlikDb) : Except AuthHatasi (ℕ × Kullanici) :=
  require (.http 404 "Kullanici kurulumu yapilmamis. POST /api/user ile olusturun veya scripts/setup_data.py calistirin.")
    (s.ilkKullanici fun _ => true)

/-- `get_current_user`: without enforced authentication a bad token is ignored. -/
def getCurrentUser (ayar : AuthAyarlari) (s : KimlikDb) (now : ℤ) (header : Option ℕ) :
    Except AuthHatasi (ℕ × Kullanici) :=
  match header with
  | some token => match erisimSahibi s now token with
    | some u => .ok u
    | none =>
      if ayar.authEnabled then .error (.unauthorized "token_expired" "Geçersiz veya süresi geçmiş token.")
      else fallbackUser s
  | none =>
    if ayar.authEnabled then
      .error (.unauthorized "auth_required" "Kimlik doğrulama gerekli (Authorization: Bearer <token>).")
    else fallbackUser s

/-- An endpoint behind `get_current_user`; it acts as that user whatever it then answers. -/
def oturumla (ayar : AuthAyarlari) (s : KimlikDb) (now : ℤ) (header : Option ℕ)
    (f : ℕ → Kullanici → Except AuthHatasi (Govde × KimlikDb)) : AuthYaniti × KimlikDb :=
  match getCurrentUser ayar s now header with
  | .error e => (⟨none, .error e⟩, s)
  | .ok (id, user) => match f id user with
    | .error e => (⟨some id, .error e⟩, s)
    | .ok (govde, s') => (⟨some id, .ok govde⟩, s')

def kayitJenerikYanit : Govde :=
  .mesaj "Kayıt alındı. E-postandaki bağlantıyla hesabını etkinleştir." none

def yerelKisim (email : String) : String := String.ofList (email.toList.takeWhile (· ≠ '@'))

structure RegisterIn where
  email : String
  password : String
  name : Option String
  kvkkConsent : Bool

/-- `register`; whether the invite code is accepted is decided by the beta gate. -/
def register (ayar : AuthAyarlari) (now : ℤ) (s : KimlikDb) (body : RegisterIn) (davetli : Bool) :
    Except AuthHatasi (Govde × KimlikDb) := do
  stopIf .sema (ayar.emailGecerli body.email = false ∨ parolaUzunlugu 8 body.password = false ∨
    body.name.any (fun ad => 100 < ad.length))
  stopIf (.http 422 "KVKK açık rıza zorunlu (kvkk_consent=true).") (body.kvkkConsent = false)
  sifreDogrula ayar body.password (some body.email) body.name
  let email := epostaDuz body.email
  stopIf (.http 403 "Kayıt şu anda davetlilere açık. Geçerli bir davet kodu gerekli.")
    (ayar.inviteRequired ∧ ¬ davetli)
  match s.epostaylaBul email with
  | some _ =>
    stopIf (.http 409 "Bu e-posta zaten kayıtlı.") (ayar.emailVerificationRequired = false)
    return (kayitJenerikYanit, s)
  | none =>
    let passwordHash ← hashPassword ayar body.password
    let s1 := s.kullaniciEkle {
      email := some email
      name := if bosYazi body.name then yerelKisim email else body.name.getD ""
      passwordHash := some passwordHash
      oauthProvider := none
      oauthSub := none
      emailVerifiedAt := none
      isActive := ayar.emailVerificationRequired = false
      tokenVersion := 0 }
    if ayar.emailVerificationRequired then
      return (kayitJenerikYanit, s1.createToken s.users.freshKey .emailVerify (48 * 3600) now 0)
    else return issueTokens ayar now s1 s.users.freshKey

/-- `verify_email`. -/
def verifyEmail (now : ℤ) (s : KimlikDb) (token : ℕ) : Except AuthHatasi (Govde × KimlikDb) := do
  let payload ← require (.http 400 "Geçersiz veya süresi geçmiş doğrulama bağlantısı.")
    (s.decodeToken now token .emailVerify)
  stopIf (.http 400 "Bu bağlantı daha önce kullanıldı.") (s.tokenRevoked token)
  let _ ← require (.http 404 "Kullanıcı bulunamadı.") (s.kullanici payload.sub)
  let s1 := s.kullaniciYaz payload.sub fun user => { user with emailVerifiedAt := some now, isActive := true }
  return (.mesaj "E-posta doğrulandı. Artık giriş yapabilirsin." none, s1.revokeJti token)

/-- `login`. -/
def login (ayar : AuthAyarlari) (now : ℤ) (s : KimlikDb) (email password : String) :
    Except AuthHatasi (Govde × KimlikDb) := do
  stopIf .sema (ayar.emailGecerli email = false ∨ parolaUzunlugu 1 password = false)
  let bulunan := s.epostaylaBul (epostaDuz email)
  let user ← require (.http 401 "E-posta veya şifre hatalı.") (bulunan.filter fun u =>
    verifyPassword ayar password u.2.passwordHash ∧ u.2.isActive)
  return issueTokens ayar now s user.1

/-- The checks on the user behind an unused refresh token. -/
def refreshKontrol (payload : Token) (bulunan : Option Kullanici) : Except AuthHatasi Unit := do
  let user ← require (.http 401 "Kullanıcı bulunamadı veya pasif.") (bulunan.filter Kullanici.isActive)
  stopIf (.http 401 "Refresh token geçersiz (şifre değişti — yeniden giriş yapın).")
    (tokenVersionOk payload user = false)

/-- The rotation of an unused refresh token. -/
def refreshDevam (ayar : AuthAyarlari) (now : ℤ) (s : KimlikDb) (token : ℕ) (payload : Token) :
    Except AuthHatasi (Govde × KimlikDb) := do
  refreshKontrol payload (s.kullanici payload.sub)
  return issueTokens ayar now (s.revokeJti token) payload.sub

/-- `refresh`: a revoked token that comes back ends every session of its user. -/
def refresh (ayar : AuthAyarlari) (now : ℤ) (s : KimlikDb) (token : ℕ) : AuthYaniti × KimlikDb :=
  match s.decodeToken now token .refresh with
  | none => (⟨none, .error (.http 401 "Geçersiz veya süresi geçmiş refresh token.")⟩, s)
  | some payload =>
    if s.tokenRevoked token then
      (⟨none, .error (.http 401 "Refresh token geçersiz kılınmış. Yeniden giriş yapın.")⟩,
        s.kullaniciYaz payload.sub surumArtir)
    else cevapla s (refreshDevam ayar now s token payload)

/-- Revoke a token of a type, if it still decodes. -/
def iptal (now : ℤ) (s : KimlikDb) (type : TokenType) (token : ℕ) : KimlikDb :=
  if (s.decodeToken now token type).isSome then s.revokeJti token else s

/-- `logout`. -/
def logout (now : ℤ) (s : KimlikDb) (header : Option ℕ) (refreshToken : ℕ) : Govde × KimlikDb :=
  let s1 := match header with
    | some token => iptal now s .access token
    | none => s
  (.bos, iptal now s1 .refresh refreshToken)

/-- `change_password`. -/
def changePassword (ayar : AuthAyarlari) (now : ℤ) (s : KimlikDb) (id : ℕ) (user : Kullanici)
    (currentPassword newPassword : String) : Except AuthHatasi (Govde × KimlikDb) := do
  stopIf .sema (parolaUzunlugu 1 currentPassword = false ∨ parolaUzunlugu 8 newPassword = false)
  stopIf (.http 400 "Bu hesap sosyal giris (OAuth) ile acilmis — henuz sifresi yok. Once /api/auth/set-password ile bir sifre belirle.")
    (bosYazi user.passwordHash)
  stopIf (.http 401 "Mevcut sifre hatali.") (verifyPassword ayar currentPassword user.passwordHash = false)
  sifreDogrula ayar newPassword none none
  let passwordHash ← hashPassword ayar newPassword
  return issueTokens ayar now (s.kullaniciYaz id (sifreYaz passwordHash)) id

/-- `set_password`: the first password of an account that has none. -/
def setPassword (ayar : AuthAyarlari) (now : ℤ) (s : KimlikDb) (id : ℕ) (user : Kullanici)
    (newPassword : String) : Except AuthHatasi (Govde × KimlikDb) := do
  stopIf .sema (parolaUzunlugu 8 newPassword = false)
  stopIf (.http 400 "Bu hesabin zaten bir sifresi var. Degistirmek icin mevcut sifrenle /api/auth/change-password kullan.")
    (bosYazi user.passwordHash = false)
  sifreDogrula ayar newPassword none none
  let passwordHash ← hashPassword ayar newPassword
  return issueTokens ayar now (s.kullaniciYaz id (sifreYaz passwordHash)) id

/-- A mailed token, shown in the answer only where there is no mail and no production. -/
def jenerik (ayar : AuthAyarlari) (message : String) (token : ℕ) : Govde :=
  .mesaj message (if ayar.smtpConfigured ∨ ayar.isProduction then none else some token)

/-- `create_email_change_token`: the claims carry both addresses and no version. -/
def createEmailChangeToken (now : ℤ) (s : KimlikDb) (id : ℕ) (new old : String) : KimlikDb :=
  { s with tokens := s.tokens.push {
    sub := id
    type := .emailChange
    tv := 0
    new := epostaDuz new
    old := epostaDuz old
    iat := now
    exp := now + 2 * 3600
    surum := s.surumu id } }

def degisimYaniti : String := "Adres uygunsa doğrulama bağlantısı yeni adrese gönderildi."

/-- `change_email`. -/
def changeEmail (ayar : AuthAyarlari) (now : ℤ) (s : KimlikDb) (id : ℕ) (user : Kullanici)
    (newEmail : String) (currentPassword : Option String) : Except AuthHatasi (Govde × KimlikDb) := do
  stopIf .sema (ayar.emailGecerli newEmail = false ∨ currentPassword.any (fun s => 72 < s.length))
  let yeni := epostaDuz newEmail
  let mevcut := epostaDuz (user.email.getD "")
  stopIf (.http 422 "Mevcut sifre gerekli.")
    (bosYazi user.passwordHash = false ∧ bosYazi currentPassword)
  stopIf (.http 401 "Mevcut sifre hatali.") (bosYazi user.passwordHash = false ∧
    verifyPassword ayar (currentPassword.getD "") user.passwordHash = false)
  stopIf (.http 400 "Yeni adres mevcut adresle ayni.") (yeni = mevcut)
  if (s.epostaylaBul yeni).isSome then return (.mesaj degisimYaniti none, s)
  else return (jenerik ayar degisimYaniti s.tokens.freshKey, createEmailChangeToken now s id yeni mevcut)

/-- The checks on the user behind an unused change link; the new address is still to be looked up. -/
def adresKontrol (payload : Token) (bulunan : Option Kullanici) : Except AuthHatasi Unit := do
  let user ← require (.http 404 "Kullanıcı bulunamadı.") bulunan
  stopIf (.http 403 "Hesap pasif.") (user.isActive = false)
  stopIf (.http 400 "Bağlantı artık geçerli değil (adres bu arada değişti).")
    (epostaDuz (user.email.getD "") ≠ payload.old)
  stopIf (.http 400 "Bağlantı eksik.") (epostaDuz payload.new = "")

/-- Another user has the new address. -/
def adresDolu (s : KimlikDb) (payload : Token) : Bool :=
  s.users.rows.any fun r => r.1 ≠ payload.sub ∧ r.2.any fun u => u.email = some (epostaDuz payload.new)

def adresYaz (now : ℤ) (payload : Token) (u : Kullanici) : Kullanici :=
  surumArtir { u with email := some (epostaDuz payload.new), emailVerifiedAt := some now }

def adresYaniti : Govde :=
  .mesaj "E-posta adresin güncellendi. Güvenlik için tüm oturumlar kapatıldı." none

/-- `change_email_confirm`. -/
def changeEmailConfirm (now : ℤ) (s : KimlikDb) (token : ℕ) : Except AuthHatasi (Govde × KimlikDb) := do
  let payload ← require (.http 400 "Geçersiz veya süresi geçmiş doğrulama bağlantısı.")
    (s.decodeToken now token .emailChange)
  stopIf (.http 400 "Bu bağlantı daha önce kullanıldı.") (s.tokenRevoked token)
  adresKontrol payload (s.kullanici payload.sub)
  stopIf (.http 409 "Bu adres artık kullanilamiyor.") (adresDolu s payload)
  return (adresYaniti, (s.kullaniciYaz payload.sub (adresYaz now payload)).revokeJti token)

/-- `password_reset_request`. -/
def passwordResetRequest (ayar : AuthAyarlari) (now : ℤ) (s : KimlikDb) (email : String) :
    Except AuthHatasi (Govde × KimlikDb) := do
  stopIf .sema (ayar.emailGecerli email = false)
  let generic := "E-posta kayıtlıysa sıfırlama bağlantısı gönderildi."
  match s.epostaylaBul (epostaDuz email) with
  | none => return (.mesaj generic none, s)
  | some user => return (jenerik ayar generic s.tokens.freshKey,
      s.createToken user.1 .pwreset (30 * 60) now (s.surumu user.1))

/-- The checks behind an unused reset link, down to the hash of the new password. -/
def resetKontrol (ayar : AuthAyarlari) (payload : Token) (bulunan : Option Kullanici)
    (newPassword : String) : Except AuthHatasi String := do
  let user ← require (.http 404 "Kullanıcı bulunamadı.") bulunan
  stopIf (.http 403 "Hesap pasif.") (user.isActive = false)
  stopIf (.http 400 "Bu sıfırlama bağlantısı artık geçerli değil (şifre bu bağlantı üretildikten sonra değişti). Lütfen yeniden sıfırlama isteyin.")
    (tokenVersionOk payload user = false)
  sifreDogrula ayar newPassword none none
  hashPassword ayar newPassword

def resetYaniti : Govde := .mesaj "Şifre güncellendi. Güvenlik için tüm oturumlar kapatıldı." none

/-- `password_reset_confirm`. -/
def passwordResetConfirm (ayar : AuthAyarlari) (now : ℤ) (s : KimlikDb) (token : ℕ)
    (newPassword : String) : Except AuthHatasi (Govde × KimlikDb) := do
  stopIf .sema (parolaUzunlugu 8 newPassword = false)
  let payload ← require (.http 400 "Geçersiz veya süresi geçmiş sıfırlama token'ı.")
    (s.decodeToken now token .pwreset)
  stopIf (.http 400 "Bu sıfırlama bağlantısı daha önce kullanıldı.") (s.tokenRevoked token)
  let passwordHash ← resetKontrol ayar payload (s.kullanici payload.sub) newPassword
  return (resetYaniti, (s.kullaniciYaz payload.sub (sifreYaz passwordHash)).revokeJti token)

/-- `new_state`: a state token stands for no user. -/
def oauthLogin (now : ℤ) (s : KimlikDb) : Govde × KimlikDb :=
  (.oauthState s.tokens.freshKey, s.createToken 0 .oauthState 600 now 0)

/-- `consume_state` over the database. -/
def consumeState (now : ℤ) (s : KimlikDb) (state : ℕ) : Option KimlikDb :=
  if (s.decodeToken now state .oauthState).isSome ∧ ¬ s.tokenRevoked state then some (s.revokeJti state)
  else none

/-- What a provider answers for a code. -/
structure OAuthInfo where
  provider : String
  sub : String
  email : String
  name : Option String

/-- The user of a provider's answer: an existing one is linked, a new one is opened. -/
def oauthKullanici (ayar : AuthAyarlari) (s : KimlikDb) (info : OAuthInfo) (davetli : Bool) :
    Except AuthHatasi (ℕ × KimlikDb) :=
  match s.epostaylaBul info.email with
  | some (id, user) => do
    stopIf (.http 403 "Hesap pasif.") (user.isActive = false)
    return (id, if bosYazi user.oauthProvider then s.kullaniciYaz id fun u =>
      { u with oauthProvider := some info.provider, oauthSub := some info.sub } else s)
  | none => do
    stopIf (.http 403 "FinancialOS şu anda kapalı betada. Bu e-posta davetli listesinde olmadığı için hesap açılamadı.")
      (ayar.inviteRequired ∧ ¬ davetli)
    return (s.users.freshKey, s.kullaniciEkle {
      email := some info.email
      name := if bosYazi info.name then yerelKisim info.email else info.name.getD ""
      passwordHash := none
      oauthProvider := some info.provider
      oauthSub := some info.sub
      emailVerifiedAt := none
      isActive := true
      tokenVersion := 0 })

/-- What follows a consumed state: the provider's answer leads to an exchange code. -/
def callbackDevam (ayar : AuthAyarlari) (now : ℤ) (s : KimlikDb) (info : Except String OAuthInfo)
    (davetli : Bool) : AuthYaniti × KimlikDb :=
  match info with
  | .error e => (⟨none, .error (.http 400 s!"OAuth doğrulama başarısız: {e}")⟩, s)
  | .ok info => match oauthKullanici ayar s info davetli with
    | .error e => (⟨none, .error e⟩, s)
    | .ok (id, s') => (⟨none, .ok (.oauthSuccess s'.tokens.freshKey)⟩,
        s'.createToken id .oauthExchange 60 now 0)

/-- `oauth_callback`: the state is consumed before the provider is asked. -/
def oauthCallback (ayar : AuthAyarlari) (now : ℤ) (s : KimlikDb) (state : ℕ)
    (info : Except String OAuthInfo) (davetli : Bool) : AuthYaniti × KimlikDb :=
  match consumeState now s state with
  | none => (⟨none, .error (.http 400 "Geçersiz veya süresi geçmiş state (CSRF koruması).")⟩, s)
  | some s1 => callbackDevam ayar now s1 info davetli

/-- The check on the user behind an unused exchange code. -/
def exchangeKontrol (bulunan : Option Kullanici) : Except AuthHatasi Unit :=
  stopIf (.http 401 "Kullanıcı bulunamadı veya pasif.") (bulunan.any Kullanici.isActive = false)

/-- `oauth_exchange`: the code is single-use and carries no version. -/
def oauthExchange (ayar : AuthAyarlari) (now : ℤ) (s : KimlikDb) (code : ℕ) :
    Except AuthHatasi (Govde × KimlikDb) := do
  let payload ← require (.http 401 "Geçersiz veya süresi geçmiş oturum kodu.")
    (s.decodeToken now code .oauthExchange)
  stopIf (.http 401 "Bu oturum kodu daha önce kullanıldı.") (s.tokenRevoked code)
  exchangeKontrol (s.kullanici payload.sub)
  return issueTokens ayar now (s.revokeJti code) payload.sub

inductive AuthIstegi where
  | register (body : RegisterIn) (davetli : Bool)
  | verifyEmail (token : ℕ)
  | login (email password : String)
  | refresh (token : ℕ)
  | logout (header : Option ℕ) (refreshToken : ℕ)
  | diger (header : Option ℕ)
  | changePassword (header : Option ℕ) (currentPassword newPassword : String)
  | setPassword (header : Option ℕ) (newPassword : String)
  | changeEmail (header : Option ℕ) (newEmail : String) (currentPassword : Option String)
  | changeEmailConfirm (token : ℕ)
  | passwordResetRequest (email : String)
  | passwordResetConfirm (token : ℕ) (newPassword : String)
  | oauthLogin
  | oauthCallback (state : ℕ) (info : Except String OAuthInfo) (davetli : Bool)
  | oauthExchange (code : ℕ)
  | deleteMe (header : Option ℕ)

/-- The endpoints at a time; `diger` is any other endpoint behind `get_current_user`. -/
def authUcu (ayar : AuthAyarlari) (now : ℤ) (s : KimlikDb) : AuthIstegi → AuthYaniti × KimlikDb
  | .register body davetli => cevapla s (register ayar now s body davetli)
  | .verifyEmail token => cevapla s (verifyEmail now s token)
  | .login email password => cevapla s (login ayar now s email password)
  | .refresh token => refresh ayar now s token
  | .logout header refreshToken => cevapla s (.ok (logout now s header refreshToken))
  | .diger header => oturumla ayar s now header fun _ _ => .ok (.bos, s)
  | .changePassword header currentPassword newPassword => oturumla ayar s now header fun id user =>
      changePassword ayar now s id user currentPassword newPassword
  | .setPassword header newPassword => oturumla ayar s now header fun id user =>
      setPassword ayar now s id user newPassword
  | .changeEmail header newEmail currentPassword => oturumla ayar s now header fun id user =>
      changeEmail ayar now s id user newEmail currentPassword
  | .changeEmailConfirm token => cevapla s (changeEmailConfirm now s token)
  | .passwordResetRequest email => cevapla s (passwordResetRequest ayar now s email)
  | .passwordResetConfirm token newPassword => cevapla s (passwordResetConfirm ayar now s token newPassword)
  | .oauthLogin => cevapla s (.ok (oauthLogin now s))
  | .oauthCallback state info davetli => oauthCallback ayar now s state info davetli
  | .oauthExchange code => cevapla s (oauthExchange ayar now s code)
  | .deleteMe header => oturumla ayar s now header fun id _ => .ok (.bos, s.kullaniciSil id)

section Specs
variable {ayar : AuthAyarlari} {now : ℤ} {s s' : KimlikDb} {id token : ℕ} {govde : Govde}

theorem ilerler_cevapla {r : Except AuthHatasi (Govde × KimlikDb)}
    (h : ∀ govde s', r = .ok (govde, s') → Ilerler s s') : Ilerler s (cevapla s r).2 := by
  cases r with
  | error e => exact .ayni
  | ok c => exact h c.1 c.2 rfl

theorem ilerler_oturumla {header : Option ℕ} {f : ℕ → Kullanici → Except AuthHatasi (Govde × KimlikDb)}
    (h : ∀ id user govde s', f id user = .ok (govde, s') → Ilerler s s') :
    Ilerler s (oturumla ayar s now header f).2 := by
  unfold oturumla
  rcases getCurrentUser ayar s now header with e | ⟨id, user⟩
  · exact .ayni
  · dsimp only
    cases hf : f id user with
    | error e => exact .ayni
    | ok c => exact h id user c.1 c.2 hf

/-- Both tokens carry the version of their user. -/
theorem ilerler_issueTokens (h : Ilerler s s') (id : ℕ) : Ilerler s (issueTokens ayar now s' id).2 := by
  apply ilerler_createToken
  · apply ilerler_createToken h
    · exact fun _ => rfl
    · exact fun ht => by cases ht
  · exact fun _ => rfl
  · exact fun ht => by cases ht

theorem ilerler_sifreYaz (h : Ilerler s s') (id : ℕ) (passwordHash : String) :
    Ilerler s (s'.kullaniciYaz id (sifreYaz passwordHash)) :=
  .yaz id _ (fun u => Nat.le_succ u.tokenVersion) h

theorem register_ilerler {body : RegisterIn} {davetli : Bool}
    (h : register ayar now s body davetli = .ok (govde, s')) : Ilerler s s' := by
  simp only [register, bind_eq_ok] at h
  obtain ⟨_, _, _, _, _, _, _, _, h⟩ := h
  split at h
  · simp only [bind_eq_ok, pure_eq_ok, Prod.mk.injEq] at h
    obtain ⟨_, _, _, rfl⟩ := h
    exact .ayni
  · simp only [bind_eq_ok] at h
    obtain ⟨_, _, h⟩ := h
    split at h
    · cases h
      apply ilerler_createToken (.ekle _ .ayni)
      · rintro (ht | ht | ht) <;> cases ht
      · exact fun ht => by cases ht
    · cases h
      exact ilerler_issueTokens (.ekle _ .ayni) _

theorem verifyEmail_ok :
    verifyEmail now s token = .ok (govde, s') ↔ ∃ payload user,
      s.decodeToken now token .emailVerify = some payload ∧ s.tokenRevoked token = false ∧
        s.kullanici payload.sub = some user ∧
          govde = .mesaj "E-posta doğrulandı. Artık giriş yapabilirsin." none ∧
            s' = (s.kullaniciYaz payload.sub fun user =>
              { user with emailVerifiedAt := some now, isActive := true }).revokeJti token := by
  simp only [verifyEmail, bind_eq_ok, require_eq_ok, stopIf_eq_ok, pure_eq_ok, exists_const, Prod.mk.injEq,
    Bool.not_eq_true]
  constructor
  · rintro ⟨payload, hd, hr, user, hu, rfl, rfl⟩
    exact ⟨payload, user, hd, hr, hu, rfl, rfl⟩
  · rintro ⟨payload, user, hd, hr, hu, rfl, rfl⟩
    exact ⟨payload, hd, hr, user, hu, rfl, rfl⟩

theorem changeEmailConfirm_ok :
    changeEmailConfirm now s token = .ok (govde, s') ↔ ∃ payload user,
      s.decodeToken now token .emailChange = some payload ∧ s.tokenRevoked token = false ∧
        s.kullanici payload.sub = some user ∧ user.isActive = true ∧
          epostaDuz (user.email.getD "") = payload.old ∧ epostaDuz payload.new ≠ "" ∧
            adresDolu s payload = false ∧ govde = adresYaniti ∧
              s' = (s.kullaniciYaz payload.sub (adresYaz now payload)).revokeJti token := by
  simp only [changeEmailConfirm, adresKontrol, bind_eq_ok, require_eq_ok, stopIf_eq_ok, pure_eq_ok,
    exists_const, Prod.mk.injEq, Bool.not_eq_true, Bool.not_eq_false, not_not]
  constructor
  · rintro ⟨payload, hd, hr, ⟨user, hu, ha, ho, hn⟩, hf, rfl, rfl⟩
    exact ⟨payload, user, hd, hr, hu, ha, ho, hn, hf, rfl, rfl⟩
  · rintro ⟨payload, user, hd, hr, hu, ha, ho, hn, hf, rfl, rfl⟩
    exact ⟨payload, hd, hr, ⟨user, hu, ha, ho, hn⟩, hf, rfl, rfl⟩

theorem oauthExchange_ok :
    oauthExchange ayar now s token = .ok (govde, s') ↔ ∃ payload user,
      s.decodeToken now token .oauthExchange = some payload ∧ s.tokenRevoked token = false ∧
        s.kullanici payload.sub = some user ∧ user.isActive = true ∧
          (govde, s') = issueTokens ayar now (s.revokeJti token) payload.sub := by
  simp only [oauthExchange, exchangeKontrol, bind_eq_ok, require_eq_ok, stopIf_eq_ok, pure_eq_ok,
    exists_const, Option.any_eq_true, Bool.not_eq_true, Bool.not_eq_false]
  constructor
  · rintro ⟨payload, hd, hr, ⟨user, hu, ha⟩, he⟩
    exact ⟨payload, user, hd, hr, hu, ha, he.symm⟩
  · rintro ⟨payload, user, hd, hr, hu, ha, he⟩
    exact ⟨payload, hd, hr, ⟨user, hu, ha⟩, he.symm⟩

/-- A reset goes through only with the version it was signed under. -/
theorem passwordResetConfirm_ok {newPassword : String}
    (h : passwordResetConfirm ayar now s token newPassword = .ok (govde, s')) :
    ∃ payload user passwordHash, s.decodeToken now token .pwreset = some payload ∧
      s.kullanici payload.sub = some user ∧ tokenVersionOk payload user = true ∧
        s' = (s.kullaniciYaz payload.sub (sifreYaz passwordHash)).revokeJti token := by
  simp only [passwordResetConfirm, resetKontrol, bind_eq_ok, require_eq_ok, stopIf_eq_ok, pure_eq_ok,
    exists_const, Prod.mk.injEq, Bool.not_eq_false] at h
  obtain ⟨_, payload, hd, _, passwordHash, ⟨user, hu, _, hv, _⟩, _, rfl⟩ := h
  exact ⟨payload, user, passwordHash, hd, hu, hv, rfl⟩

theorem refreshDevam_ok {payload : Token} (h : refreshDevam ayar now s token payload = .ok (govde, s')) :
    ∃ user, s.kullanici payload.sub = some user ∧ tokenVersionOk payload user = true ∧
      (govde, s') = issueTokens ayar now (s.revokeJti token) payload.sub := by
  simp only [refreshDevam, refreshKontrol, bind_eq_ok, require_eq_ok, stopIf_eq_ok, pure_eq_ok,
    Option.filter_eq_some_iff, Bool.not_eq_false] at h
  obtain ⟨_, ⟨user, ⟨hu, _⟩, hv⟩, he⟩ := h
  exact ⟨user, hu, hv, he.symm⟩

theorem changePassword_ilerler {user : Kullanici} {currentPassword newPassword : String}
    (h : changePassword ayar now s id user currentPassword newPassword = .ok (govde, s')) :
    Ilerler s s' := by
  simp only [changePassword, bind_eq_ok, pure_eq_ok] at h
  obtain ⟨_, _, _, _, _, _, _, _, passwordHash, _, he⟩ := h
  rw [show s' = _ from congrArg Prod.snd he.symm]
  exact ilerler_issueTokens (ilerler_sifreYaz .ayni id passwordHash) id

theorem setPassword_ilerler {user : Kullanici} {newPassword : String}
    (h : setPassword ayar now s id user newPassword = .ok (govde, s')) : Ilerler s s' := by
  simp only [setPassword, bind_eq_ok, pure_eq_ok] at h
  obtain ⟨_, _, _, _, _, _, passwordHash, _, he⟩ := h
  rw [show s' = _ from congrArg Prod.snd he.symm]
  exact ilerler_issueTokens (ilerler_sifreYaz .ayni id passwordHash) id

theorem changeEmail_ilerler {user : Kullanici} {newEmail : String} {currentPassword : Option String}
    (h : changeEmail ayar now s id user newEmail currentPassword = .ok (govde, s')) : Ilerler s s' := by
  simp only [changeEmail, bind_eq_ok] at h
  obtain ⟨_, _, _, _, _, _, _, _, h⟩ := h
  split at h
  · cases h
    exact .ayni
  · cases h
    refine .bas _ ⟨?_, fun ht => by cases ht⟩ rfl .ayni
    rintro (ht | ht | ht) <;> cases ht

theorem passwordResetRequest_ilerler {email : String}
    (h : passwordResetRequest ayar now s email = .ok (govde, s')) : Ilerler s s' := by
  simp only [passwordResetRequest, bind_eq_ok] at h
  obtain ⟨_, _, h⟩ := h
  split at h
  · cases h
    exact .ayni
  · cases h
    exact ilerler_createToken .ayni (fun _ => rfl) fun ht => by cases ht

theorem login_ilerler {email password : String} (h : login ayar now s email password = .ok (govde, s')) :
    Ilerler s s' := by
  simp only [login, bind_eq_ok, pure_eq_ok] at h
  obtain ⟨_, _, user, _, he⟩ := h
  rw [show s' = _ from congrArg Prod.snd he.symm]
  exact ilerler_issueTokens .ayni user.1

theorem ilerler_iptal (h : Ilerler s s') (type : TokenType) (token : ℕ) :
    Ilerler s (iptal now s' type token) := by
  unfold iptal
  split
  · exact .iptal token h
  · exact h

theorem oauthKullanici_ilerler {info : OAuthInfo} {davetli : Bool}
    (h : oauthKullanici ayar s info davetli = .ok (id, s')) : Ilerler s s' := by
  unfold oauthKullanici at h
  split at h
  · simp only [bind_eq_ok, pure_eq_ok, Prod.mk.injEq] at h
    obtain ⟨_, _, _, rfl⟩ := h
    split
    · exact .yaz _ _ (fun u => le_rfl) .ayni
    · exact .ayni
  · simp only [bind_eq_ok, pure_eq_ok, Prod.mk.injEq] at h
    obtain ⟨_, _, _, rfl⟩ := h
    exact .ekle _ .ayni

theorem callbackDevam_ilerler {info : Except String OAuthInfo} {davetli : Bool} :
    Ilerler s (callbackDevam ayar now s info davetli).2 := by
  unfold callbackDevam
  split
  · exact .ayni
  · split
    · exact .ayni
    · next hk =>
      apply ilerler_createToken (oauthKullanici_ilerler hk)
      · rintro (ht | ht | ht) <;> cases ht
      · exact fun ht => by cases ht

theorem oauthCallback_ilerler {state : ℕ} {info : Except String OAuthInfo} {davetli : Bool} :
    Ilerler s (oauthCallback ayar now s state info davetli).2 := by
  unfold oauthCallback consumeState
  split
  · exact .ayni
  · next s1 hs1 =>
    have hrev : Ilerler s s1 := by
      split at hs1
      · cases hs1
        exact .iptal state .ayni
      · cases hs1
    exact hrev.trans callbackDevam_ilerler

/-- Whatever an endpoint does, it makes these moves. -/
theorem authUcu_ilerler (ayar : AuthAyarlari) (now : ℤ) (s : KimlikDb) (istek : AuthIstegi) :
    Ilerler s (authUcu ayar now s istek).2 := by
  cases istek with
  | register body davetli => exact ilerler_cevapla fun _ _ => register_ilerler
  | verifyEmail token =>
    refine ilerler_cevapla fun govde s' h => ?_
    obtain ⟨payload, user, _, _, _, _, rfl⟩ := verifyEmail_ok.mp h
    exact .iptal token (.yaz payload.sub _ (fun u => le_rfl) .ayni)
  | login email password => exact ilerler_cevapla fun _ _ => login_ilerler
  | refresh token =>
    simp only [authUcu, refresh]
    split
    · exact .ayni
    · next payload _ =>
      split
      · exact .yaz payload.sub _ (fun u => Nat.le_succ u.tokenVersion) .ayni
      · refine ilerler_cevapla fun govde s' h => ?_
        obtain ⟨_, _, _, he⟩ := refreshDevam_ok h
        rw [show s' = _ from congrArg Prod.snd he]
        exact ilerler_issueTokens (.iptal token .ayni) payload.sub
  | logout header refreshToken =>
    refine ilerler_iptal ?_ .refresh refreshToken
    cases header with
    | none => exact .ayni
    | some token => exact ilerler_iptal .ayni .access token
  | diger header =>
    refine ilerler_oturumla fun id user govde s' h => ?_
    cases h
    exact .ayni
  | changePassword header currentPassword newPassword =>
    exact ilerler_oturumla fun _ _ _ _ => changePassword_ilerler
  | setPassword header newPassword => exact ilerler_oturumla fun _ _ _ _ => setPassword_ilerler
  | changeEmail header newEmail currentPassword => exact ilerler_oturumla fun _ _ _ _ => changeEmail_ilerler
  | changeEmailConfirm token =>
    refine ilerler_cevapla fun govde s' h => ?_
    obtain ⟨payload, user, _, _, _, _, _, _, _, _, rfl⟩ := changeEmailConfirm_ok.mp h
    exact .iptal token (.yaz payload.sub _ (fun u => Nat.le_succ u.tokenVersion) .ayni)
  | passwordResetRequest email => exact ilerler_cevapla fun _ _ => passwordResetRequest_ilerler
  | passwordResetConfirm token newPassword =>
    refine ilerler_cevapla fun govde s' h => ?_
    obtain ⟨payload, user, passwordHash, _, _, _, rfl⟩ := passwordResetConfirm_ok h
    exact .iptal token (ilerler_sifreYaz .ayni payload.sub passwordHash)
  | oauthLogin =>
    apply ilerler_createToken .ayni
    · rintro (ht | ht | ht) <;> cases ht
    · exact fun _ => rfl
  | oauthCallback state info davetli => exact oauthCallback_ilerler
  | oauthExchange code =>
    refine ilerler_cevapla fun govde s' h => ?_
    obtain ⟨payload, user, _, _, _, _, he⟩ := oauthExchange_ok.mp h
    rw [show s' = _ from congrArg Prod.snd he]
    exact ilerler_issueTokens (.iptal code .ayni) payload.sub
  | deleteMe header =>
    refine ilerler_oturumla fun id user govde s' h => ?_
    cases h
    exact .sil id .ayni

end Specs

end FinancialOs.Routers
