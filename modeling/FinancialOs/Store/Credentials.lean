import FinancialOs.Library.KeyedTable

/-! Users as the authentication endpoints see them, and the tokens that are signed for them.
A token is presented by its `jti`; only a token that was signed here can be decoded. -/
namespace FinancialOs.Store
open Library

structure Kullanici where
  email : Option String
  name : String
  passwordHash : Option String
  oauthProvider : Option String
  oauthSub : Option String
  emailVerifiedAt : Option ℤ
  isActive : Bool
  tokenVersion : ℕ
  deriving DecidableEq

inductive TokenType where
  | access | refresh | pwreset | emailVerify | emailChange | oauthExchange | oauthState
  deriving DecidableEq, Repr

/-- The signed claims; a missing `tv` reads as 0. The subject's version at the time of signing is
kept beside them and is not part of the payload. -/
structure Token where
  sub : ℕ
  type : TokenType
  tv : ℕ
  new : String
  old : String
  iat : ℤ
  exp : ℤ
  surum : ℕ
  deriving DecidableEq

/-- The rows behind the endpoints. The id of a deleted user is not handed out again. -/
structure KimlikDb where
  users : Table (Option Kullanici)
  tokens : Table Token
  revoked : List ℕ

namespace KimlikDb

def empty : KimlikDb := ⟨.empty, .empty, []⟩

variable (s : KimlikDb)

def kullanici (id : ℕ) : Option Kullanici := (s.users.get? id).join

/-- `int(user.token_version or 0)`. -/
def surumu (id : ℕ) : ℕ := ((s.kullanici id).map Kullanici.tokenVersion).getD 0

def kullaniciYaz (id : ℕ) (f : Kullanici → Kullanici) : KimlikDb :=
  { s with users := s.users.modify id (Option.map f) }

def kullaniciEkle (user : Kullanici) : KimlikDb := { s with users := s.users.push (some user) }

def kullaniciSil (id : ℕ) : KimlikDb := { s with users := s.users.modify id fun _ => none }

/-- The first user, by id, with a property. -/
def ilkKullanici (p : Kullanici → Bool) : Option (ℕ × Kullanici) :=
  match s.users.first? (fun row => row.any p) with
  | some (id, some user) => some (id, user)
  | _ => none

/-- `db.query(User).filter(User.email == email).first()`. -/
def epostaylaBul (email : String) : Option (ℕ × Kullanici) :=
  s.ilkKullanici fun user => user.email = some email

/-- `_create_token`. -/
def createToken (sub : ℕ) (type : TokenType) (ttl now : ℤ) (tv : ℕ) : KimlikDb :=
  { s with tokens := s.tokens.push {
    sub := sub
    type := type
    tv := tv
    new := ""
    old := ""
    iat := now
    exp := now + ttl
    surum := s.surumu sub } }

/-- `decode_token`: the signature, the type and the time window. -/
def decodeToken (now : ℤ) (jti : ℕ) (type : TokenType) : Option Token :=
  (s.tokens.get? jti).filter (fun t => t.type = type ∧ t.iat ≤ now ∧ now < t.exp)

def tokenRevoked (jti : ℕ) : Bool := jti ∈ s.revoked

/-- `revoke_jti`: a token that is already revoked is left alone. -/
def revokeJti (jti : ℕ) : KimlikDb := if s.tokenRevoked jti then s else { s with revoked := jti :: s.revoked }

end KimlikDb

def tokenVersionOk (payload : Token) (user : Kullanici) : Bool := payload.tv = user.tokenVersion

/-- What the issuers see to: three types carry the version in their payload, and a state token
stands for no user. -/
structure Imzali (t : Token) : Prop where
  surum : t.type = .access ∨ t.type = .refresh ∨ t.type = .pwreset → t.tv = t.surum
  durum : t.type = .oauthState → t.sub = 0

/-- What the endpoints do to the rows, one move after another: a user's version never goes down,
and a token is signed under the current one. -/
inductive Ilerler (s : KimlikDb) : KimlikDb → Prop where
  | ayni : Ilerler s s
  | yaz {e : KimlikDb} (id : ℕ) (f : Kullanici → Kullanici) (hf : ∀ u, u.tokenVersion ≤ (f u).tokenVersion)
      (h : Ilerler s e) : Ilerler s (e.kullaniciYaz id f)
  | ekle {e : KimlikDb} (user : Kullanici) (h : Ilerler s e) : Ilerler s (e.kullaniciEkle user)
  | sil {e : KimlikDb} (id : ℕ) (h : Ilerler s e) : Ilerler s (e.kullaniciSil id)
  | iptal {e : KimlikDb} (k : ℕ) (h : Ilerler s e) : Ilerler s (e.revokeJti k)
  | bas {e : KimlikDb} (t : Token) (ht : Imzali t) (hs : t.surum = e.surumu t.sub) (h : Ilerler s e) :
      Ilerler s { e with tokens := e.tokens.push t }

section Lemmas
variable {s : KimlikDb} {id : ℕ} {k : ℕ} {t : Token}

theorem decodeToken_some {now : ℤ} {type : TokenType} :
    s.decodeToken now k type = some t ↔
      s.tokens.get? k = some t ∧ t.type = type ∧ t.iat ≤ now ∧ now < t.exp := by
  simp [KimlikDb.decodeToken, Option.filter_eq_some_iff]

@[simp] theorem users_revokeJti : (s.revokeJti k).users = s.users := by
  unfold KimlikDb.revokeJti
  split <;> rfl

@[simp] theorem tokens_revokeJti : (s.revokeJti k).tokens = s.tokens := by
  unfold KimlikDb.revokeJti
  split <;> rfl

@[simp] theorem users_createToken {sub : ℕ} {type : TokenType} {ttl now : ℤ} {tv : ℕ} :
    (s.createToken sub type ttl now tv).users = s.users := rfl

theorem kullanici_some {user : Kullanici} :
    s.kullanici id = some user ↔ s.users.get? id = some (some user) := Option.join_eq_some_iff

theorem users_kullaniciYaz {f : Kullanici → Kullanici} {user : Kullanici} (h : s.kullanici id = some user) :
    (s.kullaniciYaz id f).users.get? id = some (some (f user)) := by
  rw [KimlikDb.kullaniciYaz, Table.get?_modify, if_pos rfl, kullanici_some.mp h]
  rfl

theorem kullanici_zero : s.kullanici 0 = none := by
  rw [KimlikDb.kullanici, Table.get?_zero]
  rfl

theorem kullanici_yaz {e : KimlikDb} {j : ℕ} {f : Kullanici → Kullanici} :
    (e.kullaniciYaz j f).kullanici id = if id = j then (e.kullanici id).map f else e.kullanici id := by
  rw [KimlikDb.kullanici, KimlikDb.kullaniciYaz, Table.get?_modify]
  split
  · rw [KimlikDb.kullanici]
    cases e.users.get? id with
    | none => rfl
    | some row => rfl
  · rfl

/-- Only what a write does to the user that is there matters. -/
theorem kullaniciYaz_congr {f g : Kullanici → Kullanici} (h : ∀ u, s.kullanici id = some u → f u = g u) :
    s.kullaniciYaz id f = s.kullaniciYaz id g := by
  have hmod : s.users.modify id (Option.map f) = s.users.modify id (Option.map g) := by
    apply Table.modify_congr
    intro row hrow
    cases row with
    | none => rfl
    | some u => exact congrArg some (h u (kullanici_some.mpr hrow))
  rw [KimlikDb.kullaniciYaz, hmod]
  rfl

theorem kullaniciYaz_yok {f : Kullanici → Kullanici} (h : s.kullanici id = none) :
    s.kullaniciYaz id f = s := by
  have hrow : ∀ row, s.users.get? id = some row → Option.map f row = row := by
    intro row hrow
    cases row with
    | none => rfl
    | some u =>
      rw [kullanici_some.mpr hrow] at h
      cases h
  rw [KimlikDb.kullaniciYaz, (Table.modify_congr hrow : s.users.modify id _ = s.users.modify id fun row => row)]
  exact congrArg (KimlikDb.mk · s.tokens s.revoked) (Table.modify_self s.users id)

theorem Ilerler.trans {e d : KimlikDb} (h : Ilerler s e) (h' : Ilerler e d) : Ilerler s d := by
  induction h' with
  | ayni => exact h
  | yaz id f hf _ ih => exact .yaz id f hf ih
  | ekle user _ ih => exact .ekle user ih
  | sil id _ ih => exact .sil id ih
  | iptal k _ ih => exact .iptal k ih
  | bas t ht hs _ ih => exact .bas t ht hs ih

theorem ilerler_createToken {e : KimlikDb} {sub : ℕ} {type : TokenType} {ttl now : ℤ} {tv : ℕ}
    (h : Ilerler s e) (ht : type = .access ∨ type = .refresh ∨ type = .pwreset → tv = e.surumu sub)
    (hs : type = .oauthState → sub = 0) : Ilerler s (e.createToken sub type ttl now tv) :=
  .bas _ ⟨ht, hs⟩ rfl h

/-- Every token was signed by one of the issuers. -/
def ImzaliTokenlar (s : KimlikDb) : Prop := ∀ k t, s.tokens.get? k = some t → Imzali t

theorem imzaliTokenlar_ilerler {e : KimlikDb} (h : Ilerler s e) (hs : ImzaliTokenlar s) :
    ImzaliTokenlar e := by
  induction h with
  | ayni => exact hs
  | yaz id f hf h ih => exact ih
  | ekle user h ih => exact ih
  | sil id h ih => exact ih
  | iptal k h ih =>
    intro j t ht
    rw [tokens_revokeJti] at ht
    exact ih j t ht
  | bas t ht _ h ih =>
    intro j u hu
    rw [Table.get?_push] at hu
    split at hu
    · obtain rfl := Option.some.inj hu
      exact ht
    · exact ih j u hu

/-- An id that was handed out stays in the table. -/
theorem users_isSome_ilerler {e : KimlikDb} (h : Ilerler s e) (hs : (s.users.get? id).isSome = true) :
    (e.users.get? id).isSome = true := by
  induction h with
  | ayni => exact hs
  | @yaz e j f hf h ih =>
    rw [KimlikDb.kullaniciYaz, Table.get?_modify]
    split
    · rwa [Option.isSome_map]
    · exact ih
  | ekle user h ih =>
    rw [KimlikDb.kullaniciEkle, Table.get?_push]
    split
    · rfl
    · exact ih
  | sil j h ih =>
    rw [KimlikDb.kullaniciSil, Table.get?_modify]
    split
    · rwa [Option.isSome_map]
    · exact ih
  | iptal k h ih => rwa [users_revokeJti]
  | bas t _ _ h ih => exact ih

/-- A user that is there before and after has not lost a version. -/
theorem tokenVersion_ilerler {e : KimlikDb} (h : Ilerler s e) {u v : Kullanici}
    (hu : s.kullanici id = some u) (hv : e.kullanici id = some v) : u.tokenVersion ≤ v.tokenVersion := by
  induction h generalizing v with
  | ayni =>
    rw [hu] at hv
    cases hv
    exact le_rfl
  | yaz j f hf h ih =>
    rw [kullanici_yaz] at hv
    split at hv
    · obtain ⟨w, hw, rfl⟩ := Option.map_eq_some_iff.mp hv
      exact (ih hw).trans (hf w)
    · exact ih hv
  | @ekle e user h ih =>
    have hvar : (s.users.get? id).isSome = true := by
      rw [kullanici_some.mp hu]
      rfl
    have hne : id ≠ e.users.freshKey := by
      rintro rfl
      have := users_isSome_ilerler h hvar
      rw [Table.get?_freshKey] at this
      cases this
    rw [KimlikDb.kullanici, KimlikDb.kullaniciEkle, Table.get?_push, if_neg hne] at hv
    exact ih hv
  | sil j h ih =>
    rw [kullanici_some, KimlikDb.kullaniciSil, Table.get?_modify] at hv
    split at hv
    · obtain ⟨_, _, hnone⟩ := Option.map_eq_some_iff.mp hv
      cases hnone
    · exact ih (kullanici_some.mpr hv)
  | iptal k h ih =>
    rw [KimlikDb.kullanici, users_revokeJti] at hv
    exact ih hv
  | bas t _ _ h ih => exact ih hv

end Lemmas

end FinancialOs.Store
