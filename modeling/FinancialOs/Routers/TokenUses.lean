import FinancialOs.Library.Interleaving
import FinancialOs.Routers.Auth

/-! Requests that present the same single-use token side by side. Each takes one database step at a
time and keeps what it has read; the insert of a revocation waits for another uncommitted one. -/
namespace FinancialOs.Routers
open Library Store Rules
variable {ι : Type}

inductive TekKullanim where
  | refresh
  | passwordReset (newPassword : String)
  | emailChange
  | oauthState (info : Except String OAuthInfo) (davetli : Bool)
  | oauthExchange

structure Kullanim where
  uc : TekKullanim
  now : ℤ

namespace TekKullanim

def type : TekKullanim → TokenType
  | refresh => .refresh
  | passwordReset _ => .pwreset
  | emailChange => .emailChange
  | oauthState _ _ => .oauthState
  | oauthExchange => .oauthExchange

/-- The same request where nobody else is at work. -/
def istek (jti : ℕ) : TekKullanim → AuthIstegi
  | refresh => .refresh jti
  | passwordReset newPassword => .passwordResetConfirm jti newPassword
  | emailChange => .changeEmailConfirm jti
  | oauthState info davetli => .oauthCallback jti info davetli
  | oauthExchange => .oauthExchange jti

/-- The answer to a token that does not decode. -/
def gecersiz : TekKullanim → AuthHatasi
  | refresh => .http 401 "Geçersiz veya süresi geçmiş refresh token."
  | passwordReset _ => .http 400 "Geçersiz veya süresi geçmiş sıfırlama token'ı."
  | emailChange => .http 400 "Geçersiz veya süresi geçmiş doğrulama bağlantısı."
  | oauthState _ _ => .http 400 "Geçersiz veya süresi geçmiş state (CSRF koruması)."
  | oauthExchange => .http 401 "Geçersiz veya süresi geçmiş oturum kodu."

/-- The answer to a token that is already revoked. -/
def kullanilmis : TekKullanim → AuthHatasi
  | refresh => .http 401 "Refresh token geçersiz kılınmış. Yeniden giriş yapın."
  | passwordReset _ => .http 400 "Bu sıfırlama bağlantısı daha önce kullanıldı."
  | emailChange => .http 400 "Bu bağlantı daha önce kullanıldı."
  | oauthState _ _ => .http 400 "Geçersiz veya süresi geçmiş state (CSRF koruması)."
  | oauthExchange => .http 401 "Bu oturum kodu daha önce kullanıldı."

/-- The body is refused before the endpoint runs. -/
def semaDisi : TekKullanim → Bool
  | passwordReset newPassword => parolaUzunlugu 8 newPassword = false
  | _ => false

end TekKullanim

/-- How far a request has come; the payload, the row it loaded and the columns it is to write travel
with it. -/
inductive TokenKonumu where
  | basla
  | bakacak (payload : Token) (okunan : Option Kullanici)
  | dusurecek (payload : Token) (okunan : Kullanici)
  | yukleyecek (payload : Token)
  | adresBakacak (payload : Token) (yaz : Option (Kullanici → Kullanici))
  | tekrarBakacak (payload : Token) (yaz : Option (Kullanici → Kullanici))
  | ekleyecek (payload : Token) (yaz : Option (Kullanici → Kullanici))
  | eklendi (payload : Token) (yaz : Option (Kullanici → Kullanici))
  | kaydedecek (payload : Token) (yaz : Option (Kullanici → Kullanici))
  | cevaplayacak (payload : Token)
  | bitti (yanit : Except AuthHatasi Govde)

/-- The committed rows and the request behind an uncommitted revocation; a history keeps the request
whose revocation was committed. -/
structure TokenOrtak (ι : Type) where
  db : KimlikDb
  kilit : Option ι
  alan : Option ι

/-- A version is written from the row that was loaded, not from the one it replaces. -/
def surumYaz (okunan u : Kullanici) : Kullanici := { u with tokenVersion := okunan.tokenVersion + 1 }

def satirYaz (s : KimlikDb) (id : ℕ) (yaz : Option (Kullanici → Kullanici)) : KimlikDb :=
  match yaz with
  | some f => s.kullaniciYaz id f
  | none => s

/-- The checks on the loaded user, down to the columns the endpoint will write. -/
def kullanimKontrol (ayar : AuthAyarlari) (k : Kullanim) (payload : Token) (okunan : Option Kullanici) :
    Except AuthHatasi (Option (Kullanici → Kullanici)) :=
  match k.uc with
  | .refresh => do
    refreshKontrol payload okunan
    return none
  | .passwordReset newPassword => do
    let passwordHash ← resetKontrol ayar payload okunan newPassword
    return okunan.map fun user u => surumYaz user { u with passwordHash := some passwordHash }
  | .emailChange => do
    adresKontrol payload okunan
    return okunan.map fun user u => surumYaz user
      { u with email := some (epostaDuz payload.new), emailVerifiedAt := some k.now }
  | .oauthState _ _ => .ok none
  | .oauthExchange => do
    exchangeKontrol okunan
    return none

/-- Behind the checks; only a changed address is still to be looked up. -/
def kontrolSonrasi (ayar : AuthAyarlari) (k : Kullanim) (payload : Token) (okunan : Option Kullanici) :
    TokenKonumu :=
  match kullanimKontrol ayar k payload okunan with
  | .error e => .bitti (.error e)
  | .ok yaz => match k.uc with
    | .emailChange => .adresBakacak payload yaz
    | _ => .tekrarBakacak payload yaz

/-- `token_revoked` ahead of the rest of an endpoint. -/
def kullanilmadiysa (k : Kullanim) (s : KimlikDb) (jti : ℕ) (ileri : TokenKonumu) : TokenKonumu :=
  if s.tokenRevoked jti then .bitti (.error k.uc.kullanilmis) else ileri

/-- The first read of an endpoint: `refresh` loads the user, the others look the token up. -/
def ilkOkuma (k : Kullanim) (s : KimlikDb) (jti : ℕ) : TokenKonumu :=
  if k.uc.semaDisi then .bitti (.error .sema)
  else match s.decodeToken k.now jti k.uc.type with
    | none => .bitti (.error k.uc.gecersiz)
    | some payload => match k.uc with
      | .refresh => .bakacak payload (s.kullanici payload.sub)
      | .oauthState _ _ => kullanilmadiysa k s jti (.tekrarBakacak payload none)
      | _ => kullanilmadiysa k s jti (.yukleyecek payload)

/-- A new address that another user has is refused by the unique column. -/
def adresCakisir (k : Kullanim) (s : KimlikDb) (payload : Token) : Bool :=
  match k.uc with
  | .emailChange => adresDolu s payload
  | _ => false

/-- Behind the commit: tokens are issued from the reloaded user, a callback goes on to the provider. -/
def kayitSonrasi (k : Kullanim) (payload : Token) : TokenKonumu :=
  match k.uc with
  | .passwordReset _ => .bitti (.ok resetYaniti)
  | .emailChange => .bitti (.ok adresYaniti)
  | _ => .cevaplayacak payload

def sonCevap (ayar : AuthAyarlari) (k : Kullanim) (s : KimlikDb) (payload : Token) :
    KimlikDb × Except AuthHatasi Govde :=
  match k.uc with
  | .oauthState info davetli =>
    ((callbackDevam ayar k.now s info davetli).2, (callbackDevam ayar k.now s info davetli).1.govde)
  | _ => ((issueTokens ayar k.now s payload.sub).2, .ok (issueTokens ayar k.now s payload.sub).1)

/-- One database step of a request. -/
def kullanimAdimi (ayar : AuthAyarlari) (kullanim : ι → Kullanim) (jti : ℕ) (i : ι) (s : TokenOrtak ι) :
    TokenKonumu → TokenOrtak ι × TokenKonumu
  | .basla => (s, ilkOkuma (kullanim i) s.db jti)
  | .bakacak payload okunan =>
    if s.db.tokenRevoked jti then
      (s, match okunan with
        | some user => .dusurecek payload user
        | none => .bitti (.error (kullanim i).uc.kullanilmis))
    else (s, kontrolSonrasi ayar (kullanim i) payload okunan)
  | .dusurecek payload okunan =>
    ({ s with db := s.db.kullaniciYaz payload.sub (surumYaz okunan) },
      .bitti (.error (kullanim i).uc.kullanilmis))
  | .yukleyecek payload => (s, kontrolSonrasi ayar (kullanim i) payload (s.db.kullanici payload.sub))
  | .adresBakacak payload yaz =>
    (s, if adresDolu s.db payload then .bitti (.error (.http 409 "Bu adres artık kullanilamiyor."))
      else .tekrarBakacak payload yaz)
  -- `revoke_jti` looks the token up once more and leaves a revoked one alone
  | .tekrarBakacak payload yaz =>
    (s, if s.db.tokenRevoked jti then .kaydedecek payload yaz else .ekleyecek payload yaz)
  | .ekleyecek payload yaz => match s.kilit with
    | some _ => (s, .ekleyecek payload yaz)
    | none =>
      if s.db.tokenRevoked jti ∨ adresCakisir (kullanim i) s.db payload then
        (s, .bitti (.error (.hata .databaseError)))
      else ({ s with kilit := some i }, .eklendi payload yaz)
  | .eklendi payload yaz =>
    ({ db := (satirYaz s.db payload.sub yaz).revokeJti jti, kilit := none, alan := some i },
      kayitSonrasi (kullanim i) payload)
  | .kaydedecek payload yaz =>
    if adresCakisir (kullanim i) s.db payload then (s, .bitti (.error (.hata .databaseError)))
    else ({ s with db := satirYaz s.db payload.sub yaz }, kayitSonrasi (kullanim i) payload)
  | .cevaplayacak payload =>
    ({ s with db := (sonCevap ayar (kullanim i) s.db payload).1 },
      .bitti (sonCevap ayar (kullanim i) s.db payload).2)
  | .bitti yanit => (s, .bitti yanit)

def tokenBaslangic (db : KimlikDb) : Pool ι (TokenOrtak ι) TokenKonumu := ⟨⟨db, none, none⟩, fun _ => .basla⟩

section Alone
variable {ayar : AuthAyarlari} {kullanim : ι → Kullanim} {jti : ℕ} {i : ι} {s : TokenOrtak ι}

/-- A request that runs on undisturbed for some steps leaves these rows and this answer. -/
private def Durur (ayar : AuthAyarlari) (kullanim : ι → Kullanim) (jti : ℕ) (i : ι) (n : ℕ)
    (r : TokenOrtak ι × TokenKonumu) (sonuc : AuthYaniti × KimlikDb) : Prop :=
  let q := (fun r : TokenOrtak ι × TokenKonumu => kullanimAdimi ayar kullanim jti i r.1 r.2)^[n] r
  q.1.db = sonuc.2 ∧ q.2 = .bitti sonuc.1.govde

private theorem durur_bitti (n : ℕ) {yanit : Except AuthHatasi Govde} {sonuc : AuthYaniti × KimlikDb}
    (hd : s.db = sonuc.2) (hy : yanit = sonuc.1.govde) :
    Durur ayar kullanim jti i n (s, .bitti yanit) sonuc := by
  have hfix : (fun r : TokenOrtak ι × TokenKonumu => kullanimAdimi ayar kullanim jti i r.1 r.2)
      (s, .bitti yanit) = (s, .bitti yanit) := rfl
  rw [Durur, Function.iterate_fixed hfix]
  exact ⟨hd, congrArg TokenKonumu.bitti hy⟩

private theorem durur_succ {n : ℕ} {k : TokenKonumu} {sonuc : AuthYaniti × KimlikDb}
    (h : Durur ayar kullanim jti i n (kullanimAdimi ayar kullanim jti i s k) sonuc) :
    Durur ayar kullanim jti i (n + 1) (s, k) sonuc := by
  rw [Durur, Function.iterate_succ_apply]
  exact h

/-- From its own second lookup on, an undisturbed request revokes the token and answers. -/
private theorem durur_tekrar {payload : Token} {yaz : Option (Kullanici → Kullanici)} (hs : s.kilit = none)
    (hr : s.db.tokenRevoked jti = false) (hc : adresCakisir (kullanim i) s.db payload = false) {n : ℕ}
    {sonuc : AuthYaniti × KimlikDb}
    (h : Durur ayar kullanim jti i n
      (⟨(satirYaz s.db payload.sub yaz).revokeJti jti, none, some i⟩, kayitSonrasi (kullanim i) payload)
      sonuc) :
    Durur ayar kullanim jti i (n + 3) (s, .tekrarBakacak payload yaz) sonuc := by
  apply durur_succ
  simp only [kullanimAdimi, hr, Bool.false_eq_true, if_false]
  apply durur_succ
  simp only [kullanimAdimi, hs, hr, hc, Bool.false_eq_true, or_false, if_false]
  apply durur_succ
  exact h

private theorem durur_cevapla {payload : Token} {n : ℕ} :
    Durur ayar kullanim jti i (n + 1) (s, .cevaplayacak payload)
      (⟨none, (sonCevap ayar (kullanim i) s.db payload).2⟩, (sonCevap ayar (kullanim i) s.db payload).1) := by
  apply durur_succ
  exact durur_bitti n rfl rfl

private theorem durur_congr {n : ℕ} {r : TokenOrtak ι × TokenKonumu} {sonuc sonuc' : AuthYaniti × KimlikDb}
    (h : Durur ayar kullanim jti i n r sonuc) (hg : sonuc.1.govde = sonuc'.1.govde)
    (hd : sonuc.2 = sonuc'.2) : Durur ayar kullanim jti i n r sonuc' :=
  ⟨h.1.trans hd, h.2.trans (congrArg TokenKonumu.bitti hg)⟩

private theorem durur_refresh (hu : (kullanim i).uc = .refresh) (hs : s.kilit = none) :
    Durur ayar kullanim jti i 6 (s, .basla) (refresh ayar (kullanim i).now s.db jti) := by
  apply durur_succ
  simp only [kullanimAdimi, ilkOkuma, hu, TekKullanim.semaDisi, TekKullanim.type, TekKullanim.gecersiz,
    Bool.false_eq_true, if_false, refresh]
  cases hd : s.db.decodeToken (kullanim i).now jti .refresh with
  | none => exact durur_bitti 5 rfl rfl
  | some payload =>
    apply durur_succ
    simp only [kullanimAdimi]
    cases hr : s.db.tokenRevoked jti with
    | true =>
      simp only [if_true]
      cases hk : s.db.kullanici payload.sub with
      | none =>
        apply durur_bitti 4
        · exact (kullaniciYaz_yok hk).symm
        · rw [hu]
          rfl
      | some user =>
        apply durur_succ
        apply durur_bitti 3
        · apply kullaniciYaz_congr
          intro u h
          rw [hk] at h
          cases h
          rfl
        · rw [hu]
          rfl
    | false =>
      simp only [Bool.false_eq_true, if_false, kontrolSonrasi, kullanimKontrol, hu, refreshDevam]
      cases hk : refreshKontrol payload (s.db.kullanici payload.sub) with
      | error e => exact durur_bitti 4 rfl rfl
      | ok _ =>
        have hc : adresCakisir (kullanim i) s.db payload = false := by
          simp only [adresCakisir, hu]
        apply durur_tekrar hs hr hc
        simp only [kayitSonrasi, hu]
        apply durur_congr durur_cevapla
        · simp only [sonCevap, hu]
          rfl
        · simp only [sonCevap, hu]
          rfl

private theorem reset_yeni {now : ℤ} {db : KimlikDb} {newPassword : String} {payload : Token}
    (hp : parolaUzunlugu 8 newPassword = true) (hd : db.decodeToken now jti .pwreset = some payload)
    (hr : db.tokenRevoked jti = false) :
    passwordResetConfirm ayar now db jti newPassword =
      (resetKontrol ayar payload (db.kullanici payload.sub) newPassword).map fun passwordHash =>
        (resetYaniti, (db.kullaniciYaz payload.sub (sifreYaz passwordHash)).revokeJti jti) := by
  simp only [passwordResetConfirm, hp, hd, hr]
  rfl

private theorem adres_yeni {now : ℤ} {db : KimlikDb} {payload : Token}
    (hd : db.decodeToken now jti .emailChange = some payload) (hr : db.tokenRevoked jti = false) :
    changeEmailConfirm now db jti = (adresKontrol payload (db.kullanici payload.sub)).bind fun _ =>
      (stopIf (.http 409 "Bu adres artık kullanilamiyor.") (adresDolu db payload)).map fun _ =>
        (adresYaniti, (db.kullaniciYaz payload.sub (adresYaz now payload)).revokeJti jti) := by
  simp only [changeEmailConfirm, hd, hr]
  rfl

private theorem exchange_yeni {now : ℤ} {db : KimlikDb} {payload : Token}
    (hd : db.decodeToken now jti .oauthExchange = some payload) (hr : db.tokenRevoked jti = false) :
    oauthExchange ayar now db jti = (exchangeKontrol (db.kullanici payload.sub)).map fun _ =>
      issueTokens ayar now (db.revokeJti jti) payload.sub := by
  simp only [oauthExchange, hd, hr]
  rfl

private theorem durur_reset {newPassword : String} (hu : (kullanim i).uc = .passwordReset newPassword)
    (hs : s.kilit = none) :
    Durur ayar kullanim jti i 6 (s, .basla)
      (cevapla s.db (passwordResetConfirm ayar (kullanim i).now s.db jti newPassword)) := by
  apply durur_succ
  simp only [kullanimAdimi, ilkOkuma, hu, TekKullanim.semaDisi, TekKullanim.type, TekKullanim.gecersiz,
    kullanilmadiysa]
  cases hp : parolaUzunlugu 8 newPassword with
  | false =>
    simp only [passwordResetConfirm, hp]
    exact durur_bitti 5 rfl rfl
  | true =>
    cases hd : s.db.decodeToken (kullanim i).now jti .pwreset with
    | none =>
      simp only [passwordResetConfirm, hp, hd]
      exact durur_bitti 5 rfl rfl
    | some payload =>
      cases hr : s.db.tokenRevoked jti with
      | true =>
        simp only [passwordResetConfirm, hp, hd, hr]
        exact durur_bitti 5 rfl rfl
      | false =>
        rw [reset_yeni hp hd hr]
        simp only [Bool.true_eq_false, decide_false, Bool.false_eq_true, if_false]
        apply durur_succ
        simp only [kullanimAdimi, kontrolSonrasi, kullanimKontrol, hu]
        cases hk : resetKontrol ayar payload (s.db.kullanici payload.sub) newPassword with
        | error e => exact durur_bitti 4 rfl rfl
        | ok passwordHash =>
          have hc : adresCakisir (kullanim i) s.db payload = false := by
            simp only [adresCakisir, hu]
          obtain ⟨user, huser⟩ : ∃ user, s.db.kullanici payload.sub = some user := by
            simp only [resetKontrol, bind_eq_ok, require_eq_ok] at hk
            exact hk.imp fun _ h => h.1
          apply durur_tekrar hs hr hc
          simp only [kayitSonrasi, hu]
          apply durur_bitti 1
          · apply congrArg (KimlikDb.revokeJti · jti)
            rw [huser]
            apply kullaniciYaz_congr
            intro u h
            rw [huser] at h
            cases h
            rfl
          · rfl

private theorem durur_adres (hu : (kullanim i).uc = .emailChange) (hs : s.kilit = none) :
    Durur ayar kullanim jti i 6 (s, .basla)
      (cevapla s.db (changeEmailConfirm (kullanim i).now s.db jti)) := by
  apply durur_succ
  simp only [kullanimAdimi, ilkOkuma, hu, TekKullanim.semaDisi, TekKullanim.type, TekKullanim.gecersiz,
    Bool.false_eq_true, if_false, kullanilmadiysa]
  cases hd : s.db.decodeToken (kullanim i).now jti .emailChange with
  | none =>
    simp only [changeEmailConfirm, hd]
    exact durur_bitti 5 rfl rfl
  | some payload =>
    cases hr : s.db.tokenRevoked jti with
    | true =>
      simp only [changeEmailConfirm, hd, hr]
      exact durur_bitti 5 rfl rfl
    | false =>
      rw [adres_yeni hd hr]
      simp only [Bool.false_eq_true, if_false]
      apply durur_succ
      simp only [kullanimAdimi, kontrolSonrasi, kullanimKontrol, hu]
      cases hk : adresKontrol payload (s.db.kullanici payload.sub) with
      | error e => exact durur_bitti 4 rfl rfl
      | ok _ =>
        simp only [bind, Except.bind, pure, Except.pure]
        apply durur_succ
        simp only [kullanimAdimi]
        cases ha : adresDolu s.db payload with
        | true => exact durur_bitti 3 rfl rfl
        | false =>
          have hc : adresCakisir (kullanim i) s.db payload = false := by
            simp only [adresCakisir, hu, ha]
          obtain ⟨user, huser⟩ : ∃ user, s.db.kullanici payload.sub = some user := by
            simp only [adresKontrol, bind_eq_ok, require_eq_ok] at hk
            exact hk.imp fun _ h => h.1
          apply durur_tekrar hs hr hc
          simp only [kayitSonrasi, hu]
          apply durur_bitti 0
          · apply congrArg (KimlikDb.revokeJti · jti)
            rw [huser]
            apply kullaniciYaz_congr
            intro u h
            rw [huser] at h
            cases h
            rfl
          · rfl

private theorem durur_exchange (hu : (kullanim i).uc = .oauthExchange) (hs : s.kilit = none) :
    Durur ayar kullanim jti i 6 (s, .basla)
      (cevapla s.db (oauthExchange ayar (kullanim i).now s.db jti)) := by
  apply durur_succ
  simp only [kullanimAdimi, ilkOkuma, hu, TekKullanim.semaDisi, TekKullanim.type, TekKullanim.gecersiz,
    Bool.false_eq_true, if_false, kullanilmadiysa]
  cases hd : s.db.decodeToken (kullanim i).now jti .oauthExchange with
  | none =>
    simp only [oauthExchange, hd]
    exact durur_bitti 5 rfl rfl
  | some payload =>
    cases hr : s.db.tokenRevoked jti with
    | true =>
      simp only [oauthExchange, hd, hr]
      exact durur_bitti 5 rfl rfl
    | false =>
      rw [exchange_yeni hd hr]
      simp only [Bool.false_eq_true, if_false]
      apply durur_succ
      simp only [kullanimAdimi, kontrolSonrasi, kullanimKontrol, hu]
      cases hk : exchangeKontrol (s.db.kullanici payload.sub) with
      | error e => exact durur_bitti 4 rfl rfl
      | ok _ =>
        have hc : adresCakisir (kullanim i) s.db payload = false := by
          simp only [adresCakisir, hu]
        apply durur_tekrar hs hr hc
        simp only [kayitSonrasi, hu]
        apply durur_congr durur_cevapla
        · simp only [sonCevap, hu]
          rfl
        · simp only [sonCevap, hu]
          rfl

private theorem durur_state {info : Except String OAuthInfo} {davetli : Bool}
    (hu : (kullanim i).uc = .oauthState info davetli) (hs : s.kilit = none) :
    Durur ayar kullanim jti i 6 (s, .basla)
      (oauthCallback ayar (kullanim i).now s.db jti info davetli) := by
  apply durur_succ
  simp only [kullanimAdimi, ilkOkuma, hu, TekKullanim.semaDisi, TekKullanim.type, TekKullanim.gecersiz,
    Bool.false_eq_true, if_false, oauthCallback, consumeState, kullanilmadiysa]
  cases hd : s.db.decodeToken (kullanim i).now jti .oauthState with
  | none => exact durur_bitti 5 rfl rfl
  | some payload =>
    cases hr : s.db.tokenRevoked jti with
    | true => exact durur_bitti 5 rfl rfl
    | false =>
      have hc : adresCakisir (kullanim i) s.db payload = false := by
        simp only [adresCakisir, hu]
      apply durur_tekrar hs hr hc
      simp only [kayitSonrasi, hu]
      apply durur_congr durur_cevapla
      · simp only [sonCevap, hu]
        rfl
      · simp only [sonCevap, hu]
        rfl

/-- A request that nobody disturbs is the endpoint as it stands. -/
theorem use_alone [DecidableEq ι] (p : Pool ι (TokenOrtak ι) TokenKonumu) (hb : p.loc i = .basla)
    (hs : p.shared.kilit = none) :
    let q := run (Pool.step (kullanimAdimi ayar kullanim jti)) p (List.replicate 6 i)
    let sonuc := authUcu ayar (kullanim i).now p.shared.db ((kullanim i).uc.istek jti)
    q.shared.db = sonuc.2 ∧ q.loc i = .bitti sonuc.1.govde := by
  have hdurur : Durur ayar kullanim jti i 6 (p.shared, .basla)
      (authUcu ayar (kullanim i).now p.shared.db ((kullanim i).uc.istek jti)) := by
    cases hu : (kullanim i).uc with
    | refresh => exact durur_refresh hu hs
    | passwordReset newPassword => exact durur_reset hu hs
    | emailChange => exact durur_adres hu hs
    | oauthState info davetli => exact durur_state hu hs
    | oauthExchange => exact durur_exchange hu hs
  have halone := Pool.run_alone p i 6 (f := kullanimAdimi ayar kullanim jti)
  rw [hb] at halone
  rw [Durur, ← halone] at hdurur
  exact hdurur

end Alone

end FinancialOs.Routers
