import FinancialOs.Executor.ExecutionEffects

/-! When a failed action leaves the ledger alone. A handler commits its rows before
the status is written, so an exception between the two commits is the only way
to report a failure over changed rows. -/
namespace FinancialOs.Guarantees
open Library Store Rules Executor

/-- No account, transaction, debt or checkpoint row differs. -/
structure RowsUnchanged (d e : Defter) : Prop where
  accounts : ∀ id, e.accounts.get? id = d.accounts.get? id
  transactions : ∀ id, e.transactions.get? id = d.transactions.get? id
  debts : ∀ id, e.debts.get? id = d.debts.get? id
  checkpoints : ∀ id, e.checkpoints.get? id = d.checkpoints.get? id

theorem RowsUnchanged.refl (d : Defter) : RowsUnchanged d d :=
  ⟨fun _ => rfl, fun _ => rfl, fun _ => rfl, fun _ => rfl⟩

/-- A run that answers `success: False`, or leaves the status `failed`, changes no row. -/
def FailedMeansNoEffect (ariza : Ariza) (bugun : ℕ → Date) (db : Db) (actionId userId : ℕ) : Prop :=
  ((executePendingAction ariza bugun db actionId userId).1.olumsuz = true ∨
      durumu (executePendingAction ariza bugun db actionId userId).2 actionId = some .failed) →
    RowsUnchanged (Defter.oku db)
      (Defter.oku (executePendingAction ariza bugun db actionId userId).2)

/-- The handler's commit changes a row and an exception follows it. -/
def LateFailure (ariza : Ariza) (bugun : ℕ → Date) (db : Db) (actionId userId : ℕ) : Prop :=
  ariza.handlerOnce = none ∧ ∃ pending p ws, Applies bugun db actionId userId pending p ws ∧
    PencereHatasi ariza db (bugun userId) pending p ∧
    ¬ RowsUnchanged (Defter.oku db) (Defter.oku (db.writeAll ws))

/-- A failed action has no effect exactly when no exception follows an effective commit. -/
theorem failed_means_no_effect_iff (ariza : Ariza) (bugun : ℕ → Date) (db : Db)
    (actionId userId : ℕ) :
    FailedMeansNoEffect ariza bugun db actionId userId ↔
      ¬ LateFailure ariza bugun db actionId userId := by
  rcases execute_cases ariza bugun db actionId userId with
    ⟨hno, _, hd⟩ | ⟨pending, p, ws, hn, happ, hd, hson⟩
  · constructor
    · rintro _ ⟨hn, pending, p, ws, happ, _⟩
      exact hno pending p ws hn happ
    · intro _ _
      rw [hd]
      exact .refl _
  · unfold FailedMeansNoEffect
    rw [hd]
    constructor
    · rintro h ⟨_, pending', p', ws', happ', hpen, hrow⟩
      obtain ⟨rfl, rfl, rfl⟩ := happ.unique happ'
      rcases hson with ⟨_, holumsuz⟩ | ⟨hnot, _⟩
      · exact hrow (h (.inl holumsuz))
      · exact hnot hpen
    · intro h hfail
      rcases hson with ⟨hpen, _⟩ | ⟨_, ⟨c, hc⟩, hdur⟩
      · by_contra hrow
        exact h ⟨hn, pending, p, ws, happ, hpen, hrow⟩
      · rcases hfail with hfail | hfail
        · rw [hc] at hfail
          cases hfail
        · rw [hdur] at hfail
          cases hfail

/-- One user, a cash account and a monthly expense whose edited proposal carries a basic-format date. -/
def lateFailureDb : Db := Db.empty.writeAll [
  .account (.insert ⟨1, none, "Nakit", .cash, 1000, none, none, none, none, none, none, none, false⟩),
  .expense (.insert ⟨1, none, "Kira", 1000, none, none, 1, true, none⟩),
  .pendingAction (.insert ⟨1, none, .addTransaction, .object [
      (.transactionType, .str "expense"), (.amount, .int 100), (.accountId, .int 1),
      (.transactionDate, .str "20260501"), (.autoUpdateBalance, .bool true)],
    "Kira", .pending, none, some 1, some .expense⟩)]

def mayisBiri : Date := ⟨2026, 5, 1, by decide, by decide, by decide⟩

/-- The month key `2026050` fails the flush check after the expense is already committed. -/
theorem failed_action_took_money :
    ¬ ∀ ariza bugun db actionId userId, FailedMeansNoEffect ariza bugun db actionId userId := by
  intro h
  have hrow := (h .yok (fun _ => mayisBiri) lateFailureDb 1 1 (.inl (by decide +kernel))).accounts 1
  have hbal := congrArg (Option.map Account.balance) hrow
  exact absurd hbal (by decide +kernel)

end FinancialOs.Guarantees
