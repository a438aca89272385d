import FinancialOs.Library.TransitionRuns
import FinancialOs.Routers.Auth

/-! Signing out everywhere. A user's version counts up and every older token should be dead; three
types of token do not carry the version, and one check of the fourth comes too late. -/
namespace FinancialOs.Guarantees
open Library Store Routers

structure AuthCagrisi where
  now : ℤ
  istek : AuthIstegi

/-- The bearer header of the endpoints behind `get_current_user`. -/
def baslik : AuthIstegi → Option (Option ℕ)
  | .diger header => some header
  | .changePassword header _ _ => some header
  | .setPassword header _ => some header
  | .changeEmail header _ _ => some header
  | .deleteMe header => some header
  | _ => none

/-- The tokens a request presents. -/
def sunulan : AuthIstegi → List ℕ
  | .verifyEmail token => [token]
  | .refresh token => [token]
  | .logout header refreshToken => refreshToken :: header.toList
  | .changeEmailConfirm token => [token]
  | .passwordResetConfirm token _ => [token]
  | .oauthCallback state _ _ => [state]
  | .oauthExchange code => [code]
  | istek => (baslik istek).join.toList

/-- The user's version was incremented after the token was signed. -/
def Eski (s : KimlikDb) (t : Token) : Prop :=
  ∃ user, s.kullanici t.sub = some user ∧ t.surum < user.tokenVersion

def authAdimi (ayar : AuthAyarlari) (s : KimlikDb) (c : AuthCagrisi) : KimlikDb :=
  (authUcu ayar c.now s c.istek).2

/-- A token from before the increment authenticates nobody and leaves its user's row alone. -/
def CikisKalici (ayar : AuthAyarlari) (s : KimlikDb) (c : AuthCagrisi) : Prop :=
  ∀ k ∈ sunulan c.istek, ∀ t, s.tokens.get? k = some t → Eski s t →
    (authUcu ayar c.now s c.istek).1.kimlik = none ∧
      (authAdimi ayar s c).users.get? t.sub = s.users.get? t.sub

/-- The old tokens that still work: an unused exchange code, an unused verification or email change
link, and a refresh token that was already revoked. Without enforced authentication an old token is
ignored and the request runs as the first user. -/
inductive Acik (ayar : AuthAyarlari) (s : KimlikDb) (now : ℤ) : AuthIstegi → Prop where
  | degisim (code : ℕ) (t : Token) (user : Kullanici) (h : s.decodeToken now code .oauthExchange = some t)
      (yeni : s.tokenRevoked code = false) (sahip : s.kullanici t.sub = some user)
      (eski : t.surum < user.tokenVersion) (aktif : user.isActive = true) : Acik ayar s now (.oauthExchange code)
  | dogrulama (token : ℕ) (t : Token) (user : Kullanici) (h : s.decodeToken now token .emailVerify = some t)
      (yeni : s.tokenRevoked token = false) (sahip : s.kullanici t.sub = some user)
      (eski : t.surum < user.tokenVersion)
      (fark : { user with emailVerifiedAt := some now, isActive := true } ≠ user) :
      Acik ayar s now (.verifyEmail token)
  | adres (token : ℕ) (t : Token) (user : Kullanici) (h : s.decodeToken now token .emailChange = some t)
      (yeni : s.tokenRevoked token = false) (sahip : s.kullanici t.sub = some user)
      (eski : t.surum < user.tokenVersion) (aktif : user.isActive = true)
      (adres : epostaDuz (user.email.getD "") = t.old) (dolu : epostaDuz t.new ≠ "")
      (bos : adresDolu s t = false) : Acik ayar s now (.changeEmailConfirm token)
  | tekrar (token : ℕ) (t : Token) (user : Kullanici) (h : s.decodeToken now token .refresh = some t)
      (kullanilmis : s.tokenRevoked token = true) (sahip : s.kullanici t.sub = some user)
      (eski : t.surum < user.tokenVersion) : Acik ayar s now (.refresh token)
  | kapali (istek : AuthIstegi) (k : ℕ) (t : Token) (u : ℕ × Kullanici) (hb : baslik istek = some (some k))
      (h : s.tokens.get? k = some t) (eski : Eski s t) (kapali : ayar.authEnabled = false)
      (ilk : fallbackUser s = .ok u) : Acik ayar s now istek

section Steps
variable {ayar : AuthAyarlari} {now : ℤ} {s : KimlikDb} {k : ℕ} {t : Token}

/-- A token that carries the version is refused once the version has moved on. -/
private theorem eski_reddedilir (hs : ImzaliTokenlar s) (ht : s.tokens.get? k = some t)
    (htip : t.type = .access ∨ t.type = .refresh ∨ t.type = .pwreset) {user : Kullanici}
    (hu : s.kullanici t.sub = some user) (heski : Eski s t) : tokenVersionOk t user = false := by
  obtain ⟨v, hv, hlt⟩ := heski
  rw [hu] at hv
  obtain rfl := Option.some.inj hv
  have htv := (hs k t ht).surum htip
  rw [tokenVersionOk, decide_eq_false_iff_not]
  omega

private theorem erisimSahibi_eski (hs : ImzaliTokenlar s) (ht : s.tokens.get? k = some t)
    (heski : Eski s t) : erisimSahibi s now k = none := by
  unfold erisimSahibi
  cases hd : s.decodeToken now k .access with
  | none => rfl
  | some payload =>
    obtain ⟨hget, htip, _⟩ := decodeToken_some.mp hd
    obtain rfl := Option.some.inj (ht.symm.trans hget)
    cases hu : s.kullanici t.sub with
    | none => simp [hu]
    | some user => simp [hu, eski_reddedilir hs ht (.inl htip) hu heski]

/-- Behind `get_current_user` an old token is as good as none. -/
private theorem getCurrentUser_eski (hs : ImzaliTokenlar s) (ht : s.tokens.get? k = some t)
    (heski : Eski s t) :
    getCurrentUser ayar s now (some k) = if ayar.authEnabled then
      .error (.unauthorized "token_expired" "Geçersiz veya süresi geçmiş token.") else fallbackUser s := by
  simp only [getCurrentUser, erisimSahibi_eski hs ht heski]

private theorem authUcu_baslik {istek : AuthIstegi} {header : Option ℕ} (h : baslik istek = some header) :
    sunulan istek = header.toList ∧ ∃ f, authUcu ayar now s istek = oturumla ayar s now header f := by
  cases istek <;> cases h
  case diger => exact ⟨rfl, fun _ _ => .ok (.bos, s), rfl⟩
  case deleteMe => exact ⟨rfl, fun id _ => .ok (.bos, s.kullaniciSil id), rfl⟩
  all_goals exact ⟨rfl, _, rfl⟩

/-- An endpoint behind `get_current_user`. -/
private theorem cikis_oturum (hs : ImzaliTokenlar s) {istek : AuthIstegi} {header : Option ℕ}
    (hb : baslik istek = some header) : CikisKalici ayar s ⟨now, istek⟩ ↔ ¬ Acik ayar s now istek := by
  obtain ⟨hsun, f, hf⟩ : sunulan istek = header.toList ∧
      ∃ f, authUcu ayar now s istek = oturumla ayar s now header f := authUcu_baslik hb
  simp only [CikisKalici, authAdimi, hsun, hf, Option.mem_toList]
  constructor
  · intro hcikis hacik
    cases hacik with
    | kapali _ k t u hk h eski kapali ilk =>
      rw [hb, Option.some.injEq] at hk
      have hnone := (hcikis k hk t h eski).1
      rw [oturumla, hk, getCurrentUser_eski hs h eski, kapali, if_neg Bool.false_ne_true, ilk] at hnone
      dsimp only at hnone
      split at hnone <;> cases hnone
    | degisim => cases hb
    | dogrulama => cases hb
    | adres => cases hb
    | tekrar => cases hb
  · rintro hacik k rfl t ht heski
    have hdur : ∃ e, getCurrentUser ayar s now (some k) = .error e := by
      rw [getCurrentUser_eski hs ht heski]
      split
      · exact ⟨_, rfl⟩
      · next hkapali =>
        cases hilk : fallbackUser s with
        | error e => exact ⟨e, rfl⟩
        | ok u =>
          exact absurd (.kapali istek k t u hb ht heski (Bool.eq_false_iff.mpr hkapali) hilk) hacik
    obtain ⟨e, he⟩ := hdur
    rw [oturumla, he]
    exact ⟨rfl, rfl⟩

/-- A request that presents no token. -/
private theorem cikis_tokensiz {istek : AuthIstegi} (hsun : sunulan istek = []) :
    CikisKalici ayar s ⟨now, istek⟩ := by
  intro k hk
  rw [hsun] at hk
  cases hk

/-- A request that presents one token. -/
private theorem cikis_token {istek : AuthIstegi} {token : ℕ} (r : AuthYaniti × KimlikDb)
    (hsun : sunulan istek = [token]) (hr : authUcu ayar now s istek = r) :
    CikisKalici ayar s ⟨now, istek⟩ ↔ ∀ t, s.tokens.get? token = some t → Eski s t →
      r.1.kimlik = none ∧ r.2.users.get? t.sub = s.users.get? t.sub := by
  simp only [CikisKalici, authAdimi, hsun, hr, List.mem_singleton, forall_eq]

private theorem users_yaz_ayni {id : ℕ} {f : Kullanici → Kullanici} {user : Kullanici}
    (hu : s.kullanici id = some user) (hf : f user = user) :
    (s.kullaniciYaz id f).users.get? id = s.users.get? id := by
  rw [users_kullaniciYaz hu, hf, kullanici_some.mp hu]

private theorem cikis_verifyEmail (token : ℕ) :
    CikisKalici ayar s ⟨now, .verifyEmail token⟩ ↔ ¬ Acik ayar s now (.verifyEmail token) := by
  refine Iff.trans (cikis_token (cevapla s (verifyEmail now s token)) rfl rfl) ?_
  constructor
  · rintro hcikis (_ | ⟨_, t, user, h, yeni, sahip, eski, fark⟩ | _ | _ | ⟨_, _, _, _, hb⟩)
    · have husers := (hcikis t (decodeToken_some.mp h).1 ⟨user, sahip, eski⟩).2
      rw [verifyEmail_ok.mpr ⟨t, user, h, yeni, sahip, rfl, rfl⟩] at husers
      simp only [cevapla, users_revokeJti, users_kullaniciYaz sahip, kullanici_some.mp sahip,
        Option.some.injEq] at husers
      exact fark husers
    · cases hb
  · intro hacik t ht heski
    rcases hr : verifyEmail now s token with e | ⟨govde, s'⟩
    · exact ⟨rfl, rfl⟩
    · obtain ⟨payload, user, hd, hrev, hu, rfl, rfl⟩ := verifyEmail_ok.mp hr
      obtain rfl := Option.some.inj (ht.symm.trans (decodeToken_some.mp hd).1)
      refine ⟨rfl, ?_⟩
      simp only [cevapla, users_revokeJti]
      apply users_yaz_ayni hu
      by_contra hfark
      obtain ⟨v, hv, hlt⟩ := heski
      rw [hu] at hv
      obtain rfl := Option.some.inj hv
      exact hacik (.dogrulama token t user hd hrev hu hlt hfark)

private theorem cikis_changeEmailConfirm (token : ℕ) :
    CikisKalici ayar s ⟨now, .changeEmailConfirm token⟩ ↔ ¬ Acik ayar s now (.changeEmailConfirm token) := by
  refine Iff.trans (cikis_token (cevapla s (changeEmailConfirm now s token)) rfl rfl) ?_
  constructor
  · rintro hcikis (_ | _ | ⟨_, t, user, h, yeni, sahip, eski, aktif, adres, dolu, bos⟩ | _ | ⟨_, _, _, _, hb⟩)
    · have husers := (hcikis t (decodeToken_some.mp h).1 ⟨user, sahip, eski⟩).2
      rw [changeEmailConfirm_ok.mpr ⟨t, user, h, yeni, sahip, aktif, adres, dolu, bos, rfl, rfl⟩] at husers
      simp only [cevapla, users_revokeJti, users_kullaniciYaz sahip, kullanici_some.mp sahip,
        Option.some.injEq] at husers
      exact absurd (congrArg Kullanici.tokenVersion husers) (Nat.succ_ne_self _)
    · cases hb
  · intro hacik t ht heski
    rcases hr : changeEmailConfirm now s token with e | ⟨govde, s'⟩
    · exact ⟨rfl, rfl⟩
    · obtain ⟨payload, user, hd, hrev, hu, haktif, hadres, hdolu, hbos, _, _⟩ := changeEmailConfirm_ok.mp hr
      obtain rfl := Option.some.inj (ht.symm.trans (decodeToken_some.mp hd).1)
      obtain ⟨v, hv, hlt⟩ := heski
      rw [hu] at hv
      obtain rfl := Option.some.inj hv
      exact absurd (.adres token t user hd hrev hu hlt haktif hadres hdolu hbos) hacik

private theorem cikis_oauthExchange (code : ℕ) :
    CikisKalici ayar s ⟨now, .oauthExchange code⟩ ↔ ¬ Acik ayar s now (.oauthExchange code) := by
  refine Iff.trans (cikis_token (cevapla s (oauthExchange ayar now s code)) rfl rfl) ?_
  constructor
  · rintro hcikis (⟨_, t, user, h, yeni, sahip, eski, aktif⟩ | _ | _ | _ | ⟨_, _, _, _, hb⟩)
    · have hkimlik := (hcikis t (decodeToken_some.mp h).1 ⟨user, sahip, eski⟩).1
      have hok : oauthExchange ayar now s code = .ok (issueTokens ayar now (s.revokeJti code) t.sub) :=
        oauthExchange_ok.mpr ⟨t, user, h, yeni, sahip, aktif, rfl⟩
      rw [hok] at hkimlik
      cases hkimlik
    · cases hb
  · intro hacik t ht heski
    rcases hr : oauthExchange ayar now s code with e | ⟨govde, s'⟩
    · exact ⟨rfl, rfl⟩
    · obtain ⟨payload, user, hd, hrev, hu, haktif, _⟩ := oauthExchange_ok.mp hr
      obtain rfl := Option.some.inj (ht.symm.trans (decodeToken_some.mp hd).1)
      obtain ⟨v, hv, hlt⟩ := heski
      rw [hu] at hv
      obtain rfl := Option.some.inj hv
      exact absurd (.degisim code t user hd hrev hu hlt haktif) hacik

private theorem cikis_refresh (hs : ImzaliTokenlar s) (token : ℕ) :
    CikisKalici ayar s ⟨now, .refresh token⟩ ↔ ¬ Acik ayar s now (.refresh token) := by
  refine Iff.trans (cikis_token (refresh ayar now s token) rfl rfl) ?_
  constructor
  · rintro hcikis (_ | _ | _ | ⟨_, t, user, h, kullanilmis, sahip, eski⟩ | ⟨_, _, _, _, hb⟩)
    · have husers := (hcikis t (decodeToken_some.mp h).1 ⟨user, sahip, eski⟩).2
      simp only [refresh, h, kullanilmis, if_true, users_kullaniciYaz sahip, kullanici_some.mp sahip,
        Option.some.injEq] at husers
      exact absurd (congrArg Kullanici.tokenVersion husers) (Nat.succ_ne_self _)
    · cases hb
  · intro hacik t ht heski
    unfold refresh
    split
    · exact ⟨rfl, rfl⟩
    · next payload hd =>
      obtain ⟨hget, htip, _⟩ := decodeToken_some.mp hd
      obtain rfl := Option.some.inj (ht.symm.trans hget)
      split
      · next hrev =>
        obtain ⟨user, hu, hlt⟩ := heski
        exact absurd (.tekrar token t user hd hrev hu hlt) hacik
      · rcases hr : refreshDevam ayar now s token t with e | ⟨govde, s'⟩
        · exact ⟨rfl, rfl⟩
        · obtain ⟨user, hu, hv, _⟩ := refreshDevam_ok hr
          rw [eski_reddedilir hs ht (.inr (.inl htip)) hu heski] at hv
          cases hv

private theorem cikis_passwordResetConfirm (hs : ImzaliTokenlar s) (token : ℕ) (newPassword : String) :
    CikisKalici ayar s ⟨now, .passwordResetConfirm token newPassword⟩ := by
  refine Iff.mpr (cikis_token (cevapla s (passwordResetConfirm ayar now s token newPassword)) rfl rfl) ?_
  intro t ht heski
  rcases hr : passwordResetConfirm ayar now s token newPassword with e | ⟨govde, s'⟩
  · exact ⟨rfl, rfl⟩
  · obtain ⟨payload, user, _, hd, hu, hv, _⟩ := passwordResetConfirm_ok hr
    obtain ⟨hget, htip, _⟩ := decodeToken_some.mp hd
    obtain rfl := Option.some.inj (ht.symm.trans hget)
    rw [eski_reddedilir hs ht (.inr (.inr htip)) hu heski] at hv
    cases hv

private theorem cikis_logout (header : Option ℕ) (refreshToken : ℕ) :
    CikisKalici ayar s ⟨now, .logout header refreshToken⟩ := by
  have husers (e : KimlikDb) (type : TokenType) (k : ℕ) : (iptal now e type k).users = e.users := by
    unfold iptal
    split
    · exact users_revokeJti
    · rfl
  intro k _ t _ _
  refine ⟨rfl, ?_⟩
  have hstate : (authUcu ayar now s (.logout header refreshToken)).2.users = s.users := by
    cases header with
    | none => exact husers s .refresh refreshToken
    | some token => exact (husers _ .refresh refreshToken).trans (husers s .access token)
  exact congrArg (fun u => Table.get? u t.sub) hstate

/-- A state token stands for no user, and no other token is taken for one. -/
private theorem cikis_oauthCallback (hs : ImzaliTokenlar s) (state : ℕ) (info : Except String OAuthInfo)
    (davetli : Bool) : CikisKalici ayar s ⟨now, .oauthCallback state info davetli⟩ := by
  refine Iff.mpr (cikis_token (oauthCallback ayar now s state info davetli) rfl rfl) ?_
  intro t ht heski
  have hdecode : s.decodeToken now state .oauthState = none := by
    cases hd : s.decodeToken now state .oauthState with
    | none => rfl
    | some payload =>
      obtain ⟨hget, htip, _⟩ := decodeToken_some.mp hd
      obtain rfl := Option.some.inj (ht.symm.trans hget)
      obtain ⟨user, hu, _⟩ := heski
      rw [(hs state t ht).durum htip, kullanici_zero] at hu
      cases hu
  simp only [oauthCallback, consumeState, hdecode, Option.isSome_none, Bool.false_eq_true, false_and,
    if_false, and_self]

/-- The endpoints that take a token without comparing its version first. -/
private def surumsuz : AuthIstegi → Bool
  | .verifyEmail _ => true
  | .refresh _ => true
  | .changeEmailConfirm _ => true
  | .oauthExchange _ => true
  | _ => false

private theorem acik_yok {istek : AuthIstegi} (hb : baslik istek = none) (hs : surumsuz istek = false) :
    ¬ Acik ayar s now istek := by
  intro h
  cases h with
  | degisim => cases hs
  | dogrulama => cases hs
  | adres => cases hs
  | tekrar => cases hs
  | kapali _ k t u hk =>
    rw [hb] at hk
    cases hk

/-- A request leaves the old tokens dead exactly when it is none of those above. -/
theorem cikisKalici_iff (hs : ImzaliTokenlar s) (istek : AuthIstegi) :
    CikisKalici ayar s ⟨now, istek⟩ ↔ ¬ Acik ayar s now istek := by
  cases istek with
  | register body davetli =>
    exact iff_of_true (cikis_tokensiz rfl) (acik_yok rfl rfl)
  | verifyEmail token => exact cikis_verifyEmail token
  | login email password =>
    exact iff_of_true (cikis_tokensiz rfl) (acik_yok rfl rfl)
  | refresh token => exact cikis_refresh hs token
  | logout header refreshToken =>
    exact iff_of_true (cikis_logout header refreshToken) (acik_yok rfl rfl)
  | diger header => exact cikis_oturum hs rfl
  | changePassword header currentPassword newPassword => exact cikis_oturum hs rfl
  | setPassword header newPassword => exact cikis_oturum hs rfl
  | changeEmail header newEmail currentPassword => exact cikis_oturum hs rfl
  | changeEmailConfirm token => exact cikis_changeEmailConfirm token
  | passwordResetRequest email =>
    exact iff_of_true (cikis_tokensiz rfl) (acik_yok rfl rfl)
  | passwordResetConfirm token newPassword =>
    exact iff_of_true (cikis_passwordResetConfirm hs token newPassword)
      (acik_yok rfl rfl)
  | oauthLogin =>
    exact iff_of_true (cikis_tokensiz rfl) (acik_yok rfl rfl)
  | oauthCallback state info davetli =>
    exact iff_of_true (cikis_oauthCallback hs state info davetli)
      (acik_yok rfl rfl)
  | oauthExchange code => exact cikis_oauthExchange code
  | deleteMe header => exact cikis_oturum hs rfl

end Steps

section Runs
variable {ayar : AuthAyarlari} {s : KimlikDb}

theorem ilerler_run (ayar : AuthAyarlari) (s : KimlikDb) (cagrilar : List AuthCagrisi) :
    Ilerler s (run (authAdimi ayar) s cagrilar) := by
  induction cagrilar generalizing s with
  | nil => exact .ayni
  | cons c cagrilar ih => exact (authUcu_ilerler ayar c.now s c.istek).trans (ih (authAdimi ayar s c))

/-- A token that has once been left behind stays so, as long as its user is there. -/
theorem eski_kalir {t : Token} (h : Eski s t) (cagrilar : List AuthCagrisi) {user : Kullanici}
    (hu : (run (authAdimi ayar) s cagrilar).kullanici t.sub = some user) :
    Eski (run (authAdimi ayar) s cagrilar) t := by
  obtain ⟨v, hv, hlt⟩ := h
  exact ⟨user, hu, hlt.trans_le (tokenVersion_ilerler (ilerler_run ayar s cagrilar) hv hu)⟩

end Runs

private theorem empty_imzali : ImzaliTokenlar .empty := by
  intro k t ht
  cases ht

def yalinAyar : AuthAyarlari :=
  ⟨true, true, true, false, false, 1800, 2592000, fun _ => true, fun _ _ _ => [], id, fun a b => a == b⟩

/-- A user signs in with a provider, has a second exchange code sent, and sets a password. -/
def saglayiciGirisi : List AuthCagrisi :=
  let info : Except String OAuthInfo := .ok ⟨"google", "7", "a@b.c", some "A"⟩
  [⟨0, .oauthLogin⟩, ⟨0, .oauthCallback 1 info false⟩, ⟨0, .oauthExchange 2⟩, ⟨1, .oauthLogin⟩,
    ⟨1, .oauthCallback 5 info false⟩, ⟨2, .setPassword (some 3) "yeni-gizli"⟩]

end FinancialOs.Guarantees
