import FinancialOs.Guarantees.GlobalSignOut
import FinancialOs.Store.RevokedTokens

/-! Revocation outlives its row: the nightly sweep takes the row of a revoked token only when the token
itself has expired. -/
namespace FinancialOs.Guarantees
open Library Store Routers

/-- The users, the signed tokens, the rows of the revoked ones, and the clock. -/
structure IptalSistemi where
  saat : ℤ
  users : Table (Option Kullanici)
  tokens : Table Token
  iptaller : Table RevokedToken

namespace IptalSistemi

/-- What the endpoints read of the rows. -/
def kimlik (s : IptalSistemi) : KimlikDb := ⟨s.users, s.tokens, s.iptaller.rows.map fun r => r.2.jti⟩

/-- PyJWT looks at whole seconds of the claims. -/
def simdi (s : IptalSistemi) : ℤ := s.saat / saniye

/-- `revoke_jti` as the endpoints call it, with the `jti` and the `exp` of a payload they have decoded. -/
def iptalEt (s : IptalSistemi) (jti : ℕ) : IptalSistemi :=
  match s.tokens.get? jti with
  | some payload => { s with iptaller := revokeJti s.iptaller s.saat (some jti) (some payload.exp) }
  | none => s

end IptalSistemi

inductive IptalOlayi where
  | uc (istek : AuthIstegi)
  | iptal (jti : ℕ)
  | temizlik
  | gecen (mikrosaniye : ℕ)

/-- An endpoint revokes what it puts on its list; the row gets the token's own expiry. -/
def ucSonrasi (s : IptalSistemi) (db : KimlikDb) : IptalSistemi :=
  db.revoked.foldr (fun jti s => s.iptalEt jti) { s with users := db.users, tokens := db.tokens }

def iptalAdimi (ayar : AuthAyarlari) (s : IptalSistemi) : IptalOlayi → IptalSistemi
  | .uc istek => ucSonrasi s (authUcu ayar s.simdi s.kimlik istek).2
  | .iptal jti => s.iptalEt jti
  | .temizlik => { s with iptaller := saklamaUygula s.saat s.iptaller }
  | .gecen mikrosaniye => { s with saat := s.saat + mikrosaniye }

/-- An endpoint takes the token for what it is. -/
inductive TokenKabul (ayar : AuthAyarlari) (s : KimlikDb) (now : ℤ) (k : ℕ) : Prop where
  | erisim (u : ℕ × Kullanici) (h : erisimSahibi s now k = some u)
  | dogrulama (c : Govde × KimlikDb) (h : verifyEmail now s k = .ok c)
  | yenileme (govde : Govde) (h : (refresh ayar now s k).1.govde = .ok govde)
  | adres (c : Govde × KimlikDb) (h : changeEmailConfirm now s k = .ok c)
  | sifirlama (newPassword : String) (c : Govde × KimlikDb) (h : passwordResetConfirm ayar now s k newPassword = .ok c)
  | durum (db : KimlikDb) (h : consumeState now s k = some db)
  | degisim (c : Govde × KimlikDb) (h : oauthExchange ayar now s k = .ok c)

section Endpoints
variable {ayar : AuthAyarlari} {s : KimlikDb} {now : ℤ} {k : ℕ}

/-- Every endpoint decodes the token and looks it up among the revoked ones. -/
theorem TokenKabul.gecerli (h : TokenKabul ayar s now k) :
    ∃ t, s.tokens.get? k = some t ∧ now < t.exp ∧ s.tokenRevoked k = false := by
  obtain ⟨type, t, ht, hr⟩ : ∃ type t, s.decodeToken now k type = some t ∧ s.tokenRevoked k = false := by
    cases h with
    | erisim u h =>
      simp only [erisimSahibi, Option.bind_eq_bind, Option.bind_eq_some_iff] at h
      obtain ⟨t, ht, user, hu, h⟩ := h
      split at h
      · next hc => exact ⟨_, t, ht, Bool.eq_false_of_not_eq_true hc.2.1⟩
      · cases h
    | dogrulama c h =>
      obtain ⟨t, user, ht, hr, -⟩ := verifyEmail_ok.mp h
      exact ⟨_, t, ht, hr⟩
    | yenileme govde h =>
      unfold refresh at h
      split at h
      · cases h
      · next t ht =>
        split at h
        · cases h
        · next hr => exact ⟨_, t, ht, Bool.eq_false_of_not_eq_true hr⟩
    | adres c h =>
      obtain ⟨t, user, ht, hr, -⟩ := changeEmailConfirm_ok.mp h
      exact ⟨_, t, ht, hr⟩
    | sifirlama newPassword c h =>
      simp only [passwordResetConfirm, bind_eq_ok, require_eq_ok, stopIf_eq_ok, exists_const,
        Bool.not_eq_true] at h
      obtain ⟨_, t, ht, hr, -⟩ := h
      exact ⟨_, t, ht, hr⟩
    | durum db h =>
      unfold consumeState at h
      split at h
      · next hc =>
        obtain ⟨t, ht⟩ := Option.isSome_iff_exists.mp hc.1
        exact ⟨_, t, ht, Bool.eq_false_of_not_eq_true hc.2⟩
      · cases h
    | degisim c h =>
      obtain ⟨t, user, ht, hr, -⟩ := oauthExchange_ok.mp h
      exact ⟨_, t, ht, hr⟩
  obtain ⟨hget, -, -, hexp⟩ := decodeToken_some.mp ht
  exact ⟨t, hget, hexp, hr⟩

/-- A signed token stays signed. -/
theorem tokens_ilerler {e : KimlikDb} {t : Token} (h : Ilerler s e) (ht : s.tokens.get? k = some t) :
    e.tokens.get? k = some t := by
  induction h with
  | ayni => exact ht
  | yaz id f hf h ih => exact ih
  | ekle user h ih => exact ih
  | sil id h ih => exact ih
  | iptal j h ih => rwa [tokens_revokeJti]
  | @bas e u _ _ h ih =>
    have hne : k ≠ e.tokens.freshKey := by
      rintro rfl
      rw [Table.get?_freshKey] at ih
      cases ih
    rw [Table.get?_push, if_neg hne]
    exact ih

end Endpoints

/-- The rows keep the expiry of their tokens, or none. -/
def SureUyumu (s : IptalSistemi) : Prop :=
  ∀ i r, s.iptaller.get? i = some r → ∃ t, s.tokens.get? r.jti = some t ∧
    ∀ e ∈ r.expiresAt, e = t.exp * saniye

/-- The token is signed, and revoked or expired. -/
def Olu (k : ℕ) (s : IptalSistemi) : Prop :=
  ∃ t, s.tokens.get? k = some t ∧ (tokenRevoked s.iptaller (some k) = true ∨ t.exp * saniye < s.saat)

section Steps
variable {ayar : AuthAyarlari} {s : IptalSistemi} {k : ℕ}

theorem iptalEt_tokens (s : IptalSistemi) (jti : ℕ) :
    (s.iptalEt jti).tokens = s.tokens ∧ (s.iptalEt jti).saat = s.saat := by
  rw [IptalSistemi.iptalEt]
  split <;> exact ⟨rfl, rfl⟩

theorem sureUyumu_iptalEt (h : SureUyumu s) (jti : ℕ) : SureUyumu (s.iptalEt jti) := by
  intro i r hr
  rw [(iptalEt_tokens s jti).1]
  rw [IptalSistemi.iptalEt] at hr
  split at hr
  · next payload hp =>
    rcases get?_revokeJti hr with hr | rfl
    · exact h i r hr
    · refine ⟨payload, hp, fun e he => ?_⟩
      obtain ⟨x, hx, rfl⟩ := Option.map_eq_some_iff.mp he
      rw [Option.some.inj (Option.filter_eq_some_iff.mp hx).1]
  · exact h i r hr

theorem Olu.iptalEt (h : Olu k s) (jti : ℕ) : Olu k (s.iptalEt jti) := by
  obtain ⟨t, ht, hson⟩ := h
  refine ⟨t, by rw [(iptalEt_tokens s jti).1, ht], hson.imp (fun hr => ?_) fun hexp => ?_⟩
  · rw [IptalSistemi.iptalEt]
    split
    · exact tokenRevoked_revokeJti_mono hr
    · exact hr
  · rwa [(iptalEt_tokens s jti).2]

/-- The rows of an endpoint come one after another. -/
theorem ucSonrasi_rec {P : IptalSistemi → Prop} (hP : ∀ s jti, P s → P (s.iptalEt jti)) (db : KimlikDb)
    (h : P { s with users := db.users, tokens := db.tokens }) : P (ucSonrasi s db) := by
  unfold ucSonrasi
  induction db.revoked with
  | nil => exact h
  | cons jti l ih => exact hP _ jti ih

theorem sureUyumu_adim (h : SureUyumu s) (olay : IptalOlayi) : SureUyumu (iptalAdimi ayar s olay) := by
  cases olay with
  | uc istek =>
    refine ucSonrasi_rec (P := SureUyumu) (fun s jti hs => sureUyumu_iptalEt hs jti) _ fun i r hr => ?_
    obtain ⟨t, ht, hexp⟩ := h i r hr
    exact ⟨t, tokens_ilerler (authUcu_ilerler ayar s.simdi s.kimlik istek) ht, hexp⟩
  | iptal jti => exact sureUyumu_iptalEt h jti
  | temizlik => exact fun i r hr => h i r (get?_saklamaUygula.mp hr).1
  | gecen mikrosaniye => exact h

/-- The sweep takes the row of a token only when the token has expired. -/
theorem olu_adim (huyum : SureUyumu s) (h : Olu k s) (olay : IptalOlayi) : Olu k (iptalAdimi ayar s olay) := by
  cases olay with
  | uc istek =>
    obtain ⟨t, ht, hson⟩ := h
    refine ucSonrasi_rec (P := Olu k) (fun s jti hs => hs.iptalEt jti) _ ?_
    exact ⟨t, tokens_ilerler (authUcu_ilerler ayar s.simdi s.kimlik istek) ht, hson⟩
  | iptal jti => exact h.iptalEt jti
  | temizlik =>
    obtain ⟨t, ht, hr | hexp⟩ := h
    · refine ⟨t, ht, ?_⟩
      by_cases hlt : t.exp * saniye < s.saat
      · exact .inr hlt
      · obtain ⟨i, r, hi, rfl⟩ := tokenRevoked_iff.mp hr
        obtain ⟨t', ht', hsure⟩ := huyum i r hi
        obtain rfl := Option.some.inj (ht.symm.trans ht')
        refine .inl (tokenRevoked_iff.mpr ⟨i, r, get?_saklamaUygula.mpr ⟨hi, fun e he => ?_⟩, rfl⟩)
        rw [hsure e he]
        exact not_lt.mp hlt
    · exact ⟨t, ht, .inr hexp⟩
  | gecen mikrosaniye =>
    obtain ⟨t, ht, hson⟩ := h
    refine ⟨t, ht, hson.imp_right fun hexp => ?_⟩
    change t.exp * saniye < s.saat + mikrosaniye
    omega

theorem Olu.kabulsuz (h : Olu k s) : ¬ TokenKabul ayar s.kimlik s.simdi k := by
  intro hkabul
  obtain ⟨t, ht, hson⟩ := h
  obtain ⟨t', ht', hexp, hr⟩ := hkabul.gecerli
  obtain rfl := Option.some.inj (ht.symm.trans ht')
  rcases hson with hrev | hlt
  · obtain ⟨i, r, hi, rfl⟩ := tokenRevoked_iff.mp hrev
    have hmem : r.jti ∈ s.kimlik.revoked := List.mem_map.mpr ⟨(i, r), Table.get?_eq_some.mp hi, rfl⟩
    exact of_decide_eq_false hr hmem
  · have := (Int.ediv_lt_iff_lt_mul (by decide : (0 : ℤ) < saniye)).mp hexp
    omega

end Steps

/-- Once a signed token has been revoked, no endpoint takes it any more, whatever is requested, swept or
waited for. -/
theorem revocation_is_permanent (ayar : AuthAyarlari) (s₀ : IptalSistemi) (hs₀ : SureUyumu s₀)
    (once sonra : List IptalOlayi) (k : ℕ) (hk : ((run (iptalAdimi ayar) s₀ once).tokens.get? k).isSome = true) :
    let s := run (iptalAdimi ayar) (iptalAdimi ayar (run (iptalAdimi ayar) s₀ once) (.iptal k)) sonra
    ¬ TokenKabul ayar s.kimlik s.simdi k := by
  intro s
  have huyum : SureUyumu (run (iptalAdimi ayar) s₀ once) := by
    refine run_invariant_all (fun s olay h => ?_) once hs₀
    exact sureUyumu_adim h olay
  have hiptal : Olu k (iptalAdimi ayar (run (iptalAdimi ayar) s₀ once) (.iptal k)) := by
    obtain ⟨t, ht⟩ := Option.isSome_iff_exists.mp hk
    refine ⟨t, ?_, .inl ?_⟩
    · rw [iptalAdimi, (iptalEt_tokens _ k).1, ht]
    · rw [iptalAdimi, IptalSistemi.iptalEt, ht]
      exact tokenRevoked_revokeJti_self
  have hadim (s : IptalSistemi) (olay : IptalOlayi) (h : SureUyumu s ∧ Olu k s) :
      SureUyumu (iptalAdimi ayar s olay) ∧ Olu k (iptalAdimi ayar s olay) :=
    ⟨sureUyumu_adim h.1 olay, olu_adim h.1 h.2 olay⟩
  exact (run_invariant_all hadim sonra ⟨sureUyumu_adim huyum _, hiptal⟩).2.kabulsuz

/-- A signed-in user with a refresh token of one hour. -/
def oturumluSistem : IptalSistemi where
  saat := 0
  users := Table.empty.push (some ⟨some "a@b.c", "A", none, none, none, none, true, 0⟩)
  tokens := Table.empty.push ⟨1, .refresh, 0, "", "", 0, 3600, 0⟩
  iptaller := .empty

/-- The token is rotated, swept over before and after its hour, and presented again. -/
theorem revocation_is_permanent_oturumlu :
    let s := run (iptalAdimi yalinAyar) (iptalAdimi yalinAyar oturumluSistem (.iptal 1))
      [.temizlik, .uc (.refresh 1), .gecen 3600000001, .temizlik]
    ¬ TokenKabul yalinAyar s.kimlik s.simdi 1 := by
  have hs₀ : SureUyumu oturumluSistem := fun i r hr => absurd hr (Option.some_ne_none r).symm
  exact revocation_is_permanent yalinAyar oturumluSistem hs₀ []
    [.temizlik, .uc (.refresh 1), .gecen 3600000001, .temizlik] 1 (by decide +kernel)

end FinancialOs.Guarantees
