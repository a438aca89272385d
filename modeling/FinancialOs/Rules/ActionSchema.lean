import FinancialOs.Store.Rows

/-! The payload contract of each action type: its fields with their JSON types and
bounds. Unknown fields are refused; an optional field that is absent stays absent. -/
namespace FinancialOs.Rules
open Library Store

inductive AlanTuru where
  | kimlik
  | tutar
  | bakiye
  | metin (enAz : ℕ)
  | tarih
  | secim (degerler : List String)
  | mantik
  | tamsayi (enAz enCok : ℤ)

structure Alan where
  ad : PayloadKey
  tur : AlanTuru
  zorunlu : Bool

/-- One trillion: the bound of every amount and balance. -/
def finMax : ℚ := 10 ^ 12

/-- A value of the JSON type and within the bounds its field declares. -/
def AlanTuru.uyar : AlanTuru → PyValue → Bool
  | .kimlik, .int n => 0 < n
  | .tutar, .int n => 0 < n ∧ (n : ℚ) ≤ finMax
  | .tutar, .float (.finite q) => 0 < q ∧ q ≤ finMax
  | .bakiye, .int n => -finMax ≤ (n : ℚ) ∧ (n : ℚ) ≤ finMax
  | .bakiye, .float (.finite q) => -finMax ≤ q ∧ q ≤ finMax
  | .metin enAz, .str s => enAz ≤ s.length
  | .tarih, .str s => (Date.fromIso? s).isSome
  | .secim degerler, .str s => s ∈ degerler
  | .mantik, .bool _ => true
  | .tamsayi enAz enCok, .int n => enAz ≤ n ∧ n ≤ enCok
  | _, _ => false

def zorunlu (ad : PayloadKey) (tur : AlanTuru) : Alan := ⟨ad, tur, true⟩

def opsiyonel (ad : PayloadKey) (tur : AlanTuru) : Alan := ⟨ad, tur, false⟩

def payloadSemalari : ActionType → Option (List Alan)
  | .updateAccountBalance => some [zorunlu .accountId .kimlik, zorunlu .newBalance .bakiye]
  | .addTransaction => some [
      zorunlu .transactionType (.secim ["income", "expense", "transfer"]), zorunlu .amount .tutar,
      opsiyonel .category (.metin 0), opsiyonel .description (.metin 0),
      opsiyonel .transactionDate .tarih, opsiyonel .accountId .kimlik,
      opsiyonel .isCardExpense .mantik, opsiyonel .autoUpdateBalance .mantik]
  | .markDebtPaid => some [zorunlu .debtId .kimlik, opsiyonel .paidDate .tarih]
  | .payCreditCard => some [
      opsiyonel .cardAccountId .kimlik, opsiyonel .accountId .kimlik, zorunlu .amount .tutar,
      opsiyonel .sourceAccountId .kimlik]
  | .sellInvestment => some [
      zorunlu .investmentId .kimlik, zorunlu .lotsToSell .tutar, opsiyonel .actualPrice .tutar,
      opsiyonel .creditToAccountId .kimlik]
  | .updateFundPrice => some [zorunlu .accountId .kimlik, zorunlu .newPrice .tutar]
  | .addMasterCheckpoint => some [
      zorunlu .title (.metin 1), zorunlu .description (.metin 1),
      zorunlu .checkpointType (.secim ["red_line", "strategy", "rule", "context"]),
      opsiyonel .priority (.tamsayi 1 3)]
  | .unknown _ => none

/-- A payload that passes validation as it stands, with no lenient conversion of its values. -/
def semayaUyar (t : ActionType) (p : Payload) : Bool :=
  match payloadSemalari t with
  | none => false
  | some alanlar =>
    p.all (fun r => alanlar.any (fun a => a.ad = r.1 ∧ a.tur.uyar r.2)) ∧
      alanlar.all (fun a => !a.zorunlu || (p.lookup a.ad).isSome)

private theorem mem_of_lookup {p : Payload} {k : PayloadKey} {v : PyValue} (h : p.lookup k = some v) :
    (k, v) ∈ p := by
  induction p with
  | nil => cases h
  | cons r p ih =>
    obtain ⟨j, w⟩ := r
    rw [List.lookup_cons] at h
    by_cases hk : k = j
    · subst hk
      simp only [beq_self_eq_true, Option.some.injEq] at h
      subst h
      exact List.mem_cons_self
    · have hb : (k == j) = false := by simpa using hk
      rw [hb] at h
      exact List.mem_cons_of_mem _ (ih h)

private theorem accountId_kimlik {t : ActionType} {alanlar : List Alan}
    (h : payloadSemalari t = some alanlar) : ∀ a ∈ alanlar, a.ad = .accountId → a.tur = .kimlik := by
  cases t <;> cases h <;> simp [zorunlu, opsiyonel]

/-- In a valid payload the account field, where there is one, holds a positive integer. -/
theorem semayaUyar_accountId {t : ActionType} {p : Payload} (h : semayaUyar t p = true) :
    p.get .accountId = .none ∨ ∃ n, 0 < n ∧ p.get .accountId = .int n := by
  cases hl : p.lookup .accountId with
  | none => exact .inl (by simp [Payload.get, hl])
  | some v =>
    right
    rw [show p.get .accountId = v by simp [Payload.get, hl]]
    unfold semayaUyar at h
    cases ht : payloadSemalari t with
    | none => simp [ht] at h
    | some alanlar =>
      simp only [ht, decide_eq_true_eq, List.all_eq_true] at h
      have hv := h.1 _ (mem_of_lookup hl)
      simp only [List.any_eq_true, decide_eq_true_eq] at hv
      obtain ⟨a, ha, had, huyar⟩ := hv
      rw [accountId_kimlik ht a ha had] at huyar
      cases v with
      | int n => exact ⟨n, by simpa [AlanTuru.uyar] using huyar, rfl⟩
      | _ => simp [AlanTuru.uyar] at huyar

end FinancialOs.Rules
