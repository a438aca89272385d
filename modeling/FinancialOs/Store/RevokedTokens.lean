import FinancialOs.Store.Credentials

/-! The rows behind the revoked tokens, with the retention rule that sweeps them. Instants count
microseconds of UTC. -/
namespace FinancialOs.Store
open Library

structure RevokedToken where
  jti : ℕ
  revokedAt : ℤ
  expiresAt : Option ℤ
  deriving DecidableEq

def saniye : ℤ := 1000000

/-- `token_revoked`; a token without a `jti` never is. -/
def tokenRevoked (rows : Table RevokedToken) (jti : Option ℕ) : Bool :=
  jti.any fun j => rows.any fun r => r.jti = j

/-- `revoke_jti`: idempotent, and without an `exp` the row never expires. -/
def revokeJti (rows : Table RevokedToken) (simdi : ℤ) (jti : Option ℕ) (exp : Option ℤ) : Table RevokedToken :=
  match jti with
  | none => rows
  | some j =>
    if rows.any (fun r => r.jti = j) then rows
    else rows.push ⟨j, simdi, (exp.filter (· ≠ 0)).map (· * saniye)⟩

/-- The rows that a retention rule leaves: those whose column is not older than its days. -/
def saklamaKurali {α : Type} (sutun : α → Option ℤ) (gun : ℕ) (simdi : ℤ) (rows : Table α) : Table α :=
  rows.keep fun a => ¬ (sutun a).any (· < simdi - gun * 86400 * saniye)

/-- `saklama_uygula` on the revoked tokens. -/
def saklamaUygula (simdi : ℤ) (rows : Table RevokedToken) : Table RevokedToken :=
  saklamaKurali RevokedToken.expiresAt 0 simdi rows

section Lemmas
variable {rows : Table RevokedToken} {simdi : ℤ} {j k : ℕ} {exp : Option ℤ}

theorem tokenRevoked_iff : tokenRevoked rows (some k) = true ↔ ∃ i r, rows.get? i = some r ∧ r.jti = k := by
  simp only [tokenRevoked, Option.any_some, Table.any_eq_true, decide_eq_true_eq]

theorem get?_revokeJti {i : ℕ} {r : RevokedToken} (h : (revokeJti rows simdi (some j) exp).get? i = some r) :
    rows.get? i = some r ∨ r = ⟨j, simdi, (exp.filter (· ≠ 0)).map (· * saniye)⟩ := by
  rw [revokeJti] at h
  split at h
  · exact .inl h
  · rw [Table.get?_push] at h
    split at h
    · exact .inr (Option.some.inj h).symm
    · exact .inl h

theorem tokenRevoked_revokeJti_self : tokenRevoked (revokeJti rows simdi (some j) exp) (some j) = true := by
  rw [revokeJti]
  split
  · assumption
  · exact tokenRevoked_iff.mpr ⟨rows.freshKey, _, by rw [Table.get?_push, if_pos rfl], rfl⟩

theorem tokenRevoked_revokeJti_mono (h : tokenRevoked rows (some k) = true) :
    tokenRevoked (revokeJti rows simdi (some j) exp) (some k) = true := by
  rw [revokeJti]
  split
  · exact h
  · obtain ⟨i, r, hr, hk⟩ := tokenRevoked_iff.mp h
    have hne : i ≠ rows.freshKey := by
      rintro rfl
      rw [Table.get?_freshKey] at hr
      cases hr
    exact tokenRevoked_iff.mpr ⟨i, r, by rw [Table.get?_push, if_neg hne, hr], hk⟩

theorem get?_saklamaUygula {i : ℕ} {r : RevokedToken} :
    (saklamaUygula simdi rows).get? i = some r ↔ rows.get? i = some r ∧ ∀ e ∈ r.expiresAt, simdi ≤ e := by
  rw [saklamaUygula, saklamaKurali, Table.get?_keep]
  refine and_congr_right fun _ => ?_
  cases r.expiresAt <;> simp

end Lemmas

end FinancialOs.Store
