import FinancialOs.Guarantees.Earmarking

/-! The cached amount and progress of cash targets. Every request that reaches the goal engine
refreshes the goal it is about; the cascade of a deleted transaction, and what rules publish with
their savepoints, take allocations away or add them behind its back. -/
namespace FinancialOs.Guarantees
open Library Store Rules Routers

/-- The sum of a goal's allocations. -/
def tahsisToplami (allocations : Table GoalAllocation) (goalId : ℕ) : ℚ :=
  allocations.total (fun a => if a.goalId = goalId then a.amount else 0)

/-- A sum as the goal engine shows it. -/
def gosterilen (toplam : ℚ) : ℚ := max (roundHalfUp toplam 2) 0

/-- The cached amount of a cash target is what the engine computes, its progress a percentage. -/
def OnbellekTutar (s : GoalDb) : Prop :=
  ∀ id goal, s.goals.get? id = some goal → goal.goalType = .cashTarget →
    goal.currentAmount = gosterilen (tahsisToplami s.allocations id) ∧
      0 ≤ goal.progressPercent ∧ goal.progressPercent ≤ 100

/-- The foreign keys of an allocation. -/
structure TahsisBagli (s : GoalDb) : Prop where
  islem : BagliIslemVar s
  hedef : ∀ k a, s.allocations.get? k = some a → (s.goals.get? a.goalId).isSome = true

inductive HedefIstegi where
  | olustur (istek : Istek) (payload : TransactionCreate)
  | guncelle (istek : Istek) (txnId : ℤ) (payload : TransactionUpdate)
  | sil (istek : Istek) (txnId : ℤ) (autoRevertBalance : Bool)
  | tahsisEt (istek : Istek) (goalId transactionId : ℤ) (amount : ℚ)
  | tahsisSil (istek : Istek) (allocationId : ℤ)
  | hedefAc (istek : Istek) (payload : GoalCreate)
  | hedefGuncelle (istek : Istek) (goalId : ℤ) (payload : GoalUpdate)

def hedefAdimi (v : Surucu) (s : GoalDb) : HedefIstegi → GoalDb
  | .olustur istek payload => kalan s (createTransactionRequest v s istek payload)
  | .guncelle istek txnId payload => kalan s (updateTransactionRequest s istek txnId payload)
  | .sil istek txnId autoRevert => kalan s (deleteTransactionRequest s istek txnId autoRevert)
  | .tahsisEt istek goalId transactionId amount =>
    kalan s (createAllocation v s istek goalId transactionId amount)
  | .tahsisSil istek allocationId => kalan s (deleteAllocation s istek allocationId)
  | .hedefAc istek payload => kalan s (createGoal v s istek payload)
  | .hedefGuncelle istek goalId payload => kalan s (updateGoal v s istek goalId payload)

/-- Every cash target shows the same over a changed sum. -/
def GosterimAyni (s : GoalDb) (toplam : ℕ → ℚ) : Prop :=
  ∀ id goal, s.goals.get? id = some goal → goal.goalType = .cashTarget →
    gosterilen (toplam id) = gosterilen (tahsisToplami s.allocations id)

/-- The deletion of a transaction takes nothing that a cash target shows, and the rules behind a
creation publish nothing that one would show. -/
def OnbellekKalir (v : Surucu) (s : GoalDb) : HedefIstegi → Prop
  | .olustur istek payload => (createTransactionRequest v s istek payload).isOk = true →
      ∀ yeni, yeniIslem s.db istek payload = .ok yeni → GosterimAyni s (fun id =>
        tahsisToplami s.allocations id +
          ((kalanTahsisler v s yeni.txn).map (fun a => if a.goalId = id then a.amount else 0)).sum)
  | .sil istek txnId autoRevert => (deleteTransactionRequest s istek txnId autoRevert).isOk = true →
      ∀ k txn, findById s.db.transactions istek.userId istek.wsId (.int txnId) = .ok (some (k, txn)) →
        GosterimAyni s (fun id => s.allocations.total
          (fun a => if a.goalId = id ∧ a.transactionId ≠ k then a.amount else 0))
  | _ => True

section Refresh
variable {d e s : GoalDb} {g : ℕ}

/-- A refresh settles its own goal, and leaves the others to what they were. -/
theorem onbellek_refresh (h : refreshGoal d g = .ok e)
    (hd : ∀ id goal, id ≠ g → d.goals.get? id = some goal → goal.goalType = .cashTarget →
      goal.currentAmount = gosterilen (tahsisToplami d.allocations id) ∧
        0 ≤ goal.progressPercent ∧ goal.progressPercent ≤ 100) : OnbellekTutar e := by
  obtain ⟨goal, yeni, hg, htip, hp, h0, h100, rfl⟩ := refreshGoal_goals h
  intro id row hrow hcash
  simp only [Table.get?_modify] at hrow
  split at hrow
  · next hid =>
    rw [hid, hg] at hrow
    obtain rfl := Option.some.inj hrow
    refine ⟨?_, h0, h100⟩
    rw [htip] at hcash
    simp only [computeProgress, hcash, Except.ok.injEq, computeCashTarget, Prod.mk.injEq] at hp
    rw [hid]
    exact hp.1.symm
  · next hid => exact hd id row hid hrow hcash

private theorem bagli_refresh (h : refreshGoal d g = .ok e) (hb : TahsisBagli d) : TahsisBagli e := by
  obtain ⟨goal, yeni, hg, _, _, _, _, rfl⟩ := refreshGoal_goals h
  refine ⟨hb.islem, fun k a ha => ?_⟩
  have hhedef := hb.hedef k a ha
  simp only [Table.get?_modify]
  split
  · rw [Option.isSome_map]
    exact hhedef
  · exact hhedef

/-- A sum that only rows of another goal enter or leave stays. -/
private theorem tahsisToplami_push (allocations : Table GoalAllocation) (a : GoalAllocation) {id : ℕ}
    (h : id ≠ a.goalId) : tahsisToplami (allocations.push a) id = tahsisToplami allocations id := by
  rw [tahsisToplami, Table.total_push, if_neg (Ne.symm h), add_zero]
  rfl

private theorem tahsisToplami_erase {allocations : Table GoalAllocation} {k id : ℕ} {a : GoalAllocation}
    (ha : allocations.get? k = some a) (h : id ≠ a.goalId) :
    tahsisToplami (allocations.erase k) id = tahsisToplami allocations id := by
  rw [tahsisToplami, Table.total_erase ha, if_neg (Ne.symm h), sub_zero]
  rfl

/-- Nothing is allotted to a goal id that is not in use. -/
private theorem tahsisToplami_unused (hb : TahsisBagli s) {id : ℕ} (hid : s.goals.get? id = none) :
    tahsisToplami s.allocations id = 0 := by
  have hzero : tahsisToplami s.allocations id = s.allocations.total (fun _ => (0 : ℚ)) := by
    apply Table.total_congr
    intro k a ha
    apply if_neg
    rintro rfl
    have := hb.hedef k a ha
    rw [hid] at this
    cases this
  rw [hzero]
  simp [Table.total]

end Refresh

section Requests
variable {v : Surucu} {s d : GoalDb} {istek : Istek}

/-- Over unchanged goals the cache tells the truth exactly where a changed sum shows the same. -/
private theorem onbellek_of_goals (hg : d.goals = s.goals) (hs : OnbellekTutar s) :
    OnbellekTutar d ↔ GosterimAyni s (tahsisToplami d.allocations) := by
  constructor
  · intro hd id goal hgoal hcash
    rw [← (hd id goal (hg ▸ hgoal) hcash).1]
    exact (hs id goal hgoal hcash).1
  · intro hayni id goal hgoal hcash
    rw [hg] at hgoal
    obtain ⟨hcurrent, hprogress⟩ := hs id goal hgoal hcash
    exact ⟨hcurrent.trans (hayni id goal hgoal hcash).symm, hprogress⟩

private theorem goalId_yayinlanan {txId : ℕ} {tx : Transaction} (rs : List (ℕ × GoalRule)) (bagli : List ℕ) :
    ∀ a ∈ yayinlanan v s txId tx rs bagli, (s.goals.get? a.goalId).isSome = true := by
  induction rs generalizing bagli with
  | nil =>
    intro a ha
    cases ha
  | cons r rs ih =>
    unfold yayinlanan
    split
    · next haktif =>
      split
      · intro a ha
        cases ha
      · exact ih bagli
      · split
        · exact ih bagli
        · split
          · intro a ha
            cases ha
          · intro a ha
            rcases List.mem_cons.mp ha with rfl | ha
            · obtain ⟨goal, hgoal, _⟩ := (Option.any_eq_true _ _).mp haktif
              exact Option.isSome_iff_exists.mpr ⟨goal, hgoal⟩
            · exact ih _ a ha
    · exact ih bagli

private theorem onbellek_create {payload : TransactionCreate} (hb : TahsisBagli s)
    (h : createTransactionRequest v s istek payload = .ok d) :
    (∀ k a, d.allocations.get? k = some a → (d.goals.get? a.goalId).isSome = true) ∧
      (OnbellekTutar s → (OnbellekTutar d ↔ ∀ yeni, yeniIslem s.db istek payload = .ok yeni →
        GosterimAyni s (fun id => tahsisToplami s.allocations id +
          ((kalanTahsisler v s yeni.txn).map (fun a => if a.goalId = id then a.amount else 0)).sum))) := by
  obtain ⟨yeni, e, hy, hk, rfl⟩ := create_kalan hb.islem h
  obtain ⟨_, hgoals, htotal⟩ := foldl_tahsisEkle (kalanTahsisler v s yeni.txn) e
  have hgoals' := hgoals.trans hk.kurallar.goals
  constructor
  · intro k a ha
    rw [hgoals']
    rcases mem_foldl_tahsisEkle _ e ha with ha | ha
    · rw [hk.allocations] at ha
      exact hb.hedef k a ha
    · unfold kalanTahsisler at ha
      split at ha
      · exact goalId_yayinlanan _ _ a ha
      · cases ha
  · intro hs
    have hsum : tahsisToplami ((kalanTahsisler v s yeni.txn).foldl (fun e a => tahsisEkle a e) e).allocations =
        fun id => tahsisToplami s.allocations id +
          ((kalanTahsisler v s yeni.txn).map (fun a => if a.goalId = id then a.amount else 0)).sum := by
      funext id
      rw [tahsisToplami, htotal, hk.allocations]
      rfl
    rw [onbellek_of_goals hgoals' hs, hsum]
    constructor
    · intro hayni yeni' hy'
      obtain rfl : yeni = yeni' := by simpa [hy] using hy'
      exact hayni
    · intro hayni
      exact hayni yeni hy

private theorem onbellek_delete {txnId : ℤ} {autoRevert : Bool} (hb : TahsisBagli s)
    (h : deleteTransactionRequest s istek txnId autoRevert = .ok d) :
    (∀ k a, d.allocations.get? k = some a → (d.goals.get? a.goalId).isSome = true) ∧
      (OnbellekTutar s → (OnbellekTutar d ↔
        ∀ k txn, findById s.db.transactions istek.userId istek.wsId (.int txnId) = .ok (some (k, txn)) →
          GosterimAyni s (fun id => s.allocations.total
            (fun a => if a.goalId = id ∧ a.transactionId ≠ k then a.amount else 0)))) := by
  have hgoals := goals_deleteTransactionRequest h
  obtain ⟨id, txn, hf, _, hallocs⟩ := deleteTransactionRequest_ok h
  constructor
  · intro k a ha
    rw [hallocs, Table.get?_keep] at ha
    rw [hgoals]
    exact hb.hedef k a ha.1
  · intro hs
    have hsum : tahsisToplami d.allocations = fun g => s.allocations.total
        (fun a => if a.goalId = g ∧ a.transactionId ≠ id then a.amount else 0) := by
      funext g
      rw [tahsisToplami, hallocs, Table.total_keep]
      apply Table.total_congr
      intro k a _
      by_cases hk : a.transactionId = id <;> simp [hk]
    rw [onbellek_of_goals hgoals hs, hsum]
    constructor
    · intro hayni k txn' hf'
      rw [hf, Except.ok.injEq, Option.some.injEq, Prod.mk.injEq] at hf'
      rw [← hf'.1]
      exact hayni
    · intro hayni
      exact hayni id txn hf

private theorem onbellek_allocate {goalId transactionId : ℤ} {amount : ℚ} (hb : TahsisBagli s)
    (h : createAllocation v s istek goalId transactionId amount = .ok d) :
    (∀ k a, d.allocations.get? k = some a → (d.goals.get? a.goalId).isSome = true) ∧
      (OnbellekTutar s → OnbellekTutar d) := by
  obtain ⟨g, id, hg, hd⟩ := createAllocation_tazele h
  constructor
  · obtain ⟨goal, yeni, _, _, _, _, _, rfl⟩ := refreshGoal_goals hd
    intro k a ha
    have hgoal : (s.goals.get? a.goalId).isSome = true := by
      simp only [tahsisEkle, Table.get?_push] at ha
      split at ha
      · obtain rfl := Option.some.inj ha
        exact hg
      · exact hb.hedef k a ha
    simp only [tahsisEkle, Table.get?_modify]
    split
    · rw [Option.isSome_map]
      exact hgoal
    · exact hgoal
  · intro hs
    refine onbellek_refresh hd fun j goal hj hgoal hcash => ?_
    rw [tahsisEkle, tahsisToplami_push _ _ hj]
    exact hs j goal hgoal hcash

private theorem onbellek_release {allocationId : ℤ} (hb : TahsisBagli s)
    (h : deleteAllocation s istek allocationId = .ok d) :
    (∀ k a, d.allocations.get? k = some a → (d.goals.get? a.goalId).isSome = true) ∧
      (OnbellekTutar s → OnbellekTutar d) := by
  obtain ⟨id, a, ha, hd⟩ := deleteAllocation_tazele h
  constructor
  · obtain ⟨goal, yeni, _, _, _, _, _, rfl⟩ := refreshGoal_goals hd
    intro k b hk
    have hgoal : (s.goals.get? b.goalId).isSome = true := by
      simp only [Table.get?_erase] at hk
      split at hk
      · cases hk
      · exact hb.hedef k b hk
    simp only [Table.get?_modify]
    split
    · rw [Option.isSome_map]
      exact hgoal
    · exact hgoal
  · intro hs
    refine onbellek_refresh hd fun j goal hj hgoal hcash => ?_
    rw [tahsisToplami_erase ha hj]
    exact hs j goal hgoal hcash

/-- The refresh behind the commit of a goal keeps what the commit left in order. -/
private theorem tazele_kurallari {e : GoalDb} {g : ℕ} (hb : TahsisBagli e) :
    TahsisBagli (tazeleVeKaydet e g) ∧ (OnbellekTutar e → OnbellekTutar (tazeleVeKaydet e g)) := by
  unfold tazeleVeKaydet
  cases h : refreshGoal e g with
  | error hata => exact ⟨hb, fun hs => hs⟩
  | ok d =>
    refine ⟨bagli_refresh h hb, fun hs => onbellek_refresh h fun j goal _ hgoal hcash => ?_⟩
    exact hs j goal hgoal hcash

private theorem onbellek_createGoal {payload : GoalCreate} (hb : TahsisBagli s)
    (h : createGoal v s istek payload = .ok d) :
    TahsisBagli d ∧ (OnbellekTutar s → OnbellekTutar d) := by
  obtain rfl := createGoal_ok h
  have hb' : TahsisBagli { s with goals := s.goals.push (yeniHedef v s.db istek payload) } := by
    refine ⟨hb.islem, fun k a ha => ?_⟩
    have hgoal := hb.hedef k a ha
    simp only [Table.get?_push]
    split
    · rfl
    · exact hgoal
  obtain ⟨hbagli, honbellek⟩ := tazele_kurallari hb' (g := s.goals.freshKey)
  refine ⟨hbagli, fun hs => honbellek fun id goal hgoal hcash => ?_⟩
  simp only [Table.get?_push] at hgoal
  split at hgoal
  · next hid =>
    obtain rfl := Option.some.inj hgoal
    have hbos : tahsisToplami s.allocations id = 0 := by
      rw [hid]
      exact tahsisToplami_unused hb (Table.get?_freshKey _)
    refine ⟨?_, le_refl 0, ?_⟩
    · rw [hbos, gosterilen, roundHalfUp_zero, max_self]
      rfl
    · show (0 : ℚ) ≤ 100
      norm_num
  · exact hs id goal hgoal hcash

private theorem onbellek_updateGoal {goalId : ℤ} {payload : GoalUpdate} (hb : TahsisBagli s)
    (h : updateGoal v s istek goalId payload = .ok d) :
    TahsisBagli d ∧ (OnbellekTutar s → OnbellekTutar d) := by
  obtain ⟨id, goal, yeni, hg, htip, hcurrent, hprogress, rfl⟩ := updateGoal_ok h
  have hb' : TahsisBagli { s with goals := s.goals.modify id (fun _ => yeni) } := by
    refine ⟨hb.islem, fun k a ha => ?_⟩
    have hgoal := hb.hedef k a ha
    simp only [Table.get?_modify]
    split
    · rw [Option.isSome_map]
      exact hgoal
    · exact hgoal
  obtain ⟨hbagli, honbellek⟩ := tazele_kurallari hb' (g := id)
  refine ⟨hbagli, fun hs => honbellek fun j row hrow hcash => ?_⟩
  simp only [Table.get?_modify] at hrow
  split at hrow
  · next hj =>
    rw [hj, hg] at hrow
    obtain rfl := Option.some.inj hrow
    rw [hcurrent, hprogress, hj]
    exact hs id goal hg (htip ▸ hcash)
  · exact hs j row hrow hcash

end Requests

private theorem islemVar_hedefAdimi {v : Surucu} {s : GoalDb} (hb : TahsisBagli s) (r : HedefIstegi) :
    BagliIslemVar (hedefAdimi v s r) := by
  cases r with
  | olustur istek payload => exact (adim_sigar (v := v) (.olustur istek payload) hb.islem).1
  | guncelle istek txnId payload => exact (adim_sigar (v := v) (.guncelle istek txnId payload) hb.islem).1
  | sil istek txnId autoRevert => exact (adim_sigar (v := v) (.sil istek txnId autoRevert) hb.islem).1
  | tahsisEt istek goalId transactionId amount =>
    exact (adim_sigar (v := v) (.tahsisEt istek goalId transactionId amount) hb.islem).1
  | tahsisSil istek allocationId => exact (adim_sigar (v := v) (.tahsisSil istek allocationId) hb.islem).1
  | hedefAc istek payload =>
    cases h : createGoal v s istek payload with
    | error e =>
      simp only [hedefAdimi, h, kalan]
      exact hb.islem
    | ok d =>
      simp only [hedefAdimi, h, kalan]
      exact (onbellek_createGoal hb h).1.islem
  | hedefGuncelle istek goalId payload =>
    cases h : updateGoal v s istek goalId payload with
    | error e =>
      simp only [hedefAdimi, h, kalan]
      exact hb.islem
    | ok d =>
      simp only [hedefAdimi, h, kalan]
      exact (onbellek_updateGoal hb h).1.islem

/-- One request keeps the foreign keys, and the cache exactly when it meets its condition. -/
private theorem adim_onbellek {v : Surucu} {s : GoalDb} (r : HedefIstegi) (hb : TahsisBagli s) :
    TahsisBagli (hedefAdimi v s r) ∧
      (OnbellekTutar s → (OnbellekTutar (hedefAdimi v s r) ↔ OnbellekKalir v s r)) := by
  have hislem := islemVar_hedefAdimi (v := v) hb r
  have hred : ∀ {c : Prop}, OnbellekTutar s → (OnbellekTutar s ↔ (false = true → c)) :=
    fun hs => iff_of_true hs fun hok => absurd hok Bool.false_ne_true
  cases r with
  | olustur istek payload =>
    cases h : createTransactionRequest v s istek payload with
    | error e =>
      simp only [hedefAdimi, OnbellekKalir, h, kalan]
      exact ⟨hb, hred⟩
    | ok d =>
      simp only [hedefAdimi, OnbellekKalir, h, kalan, Except.isOk, Except.toBool, forall_const] at hislem ⊢
      obtain ⟨hhedef, hiff⟩ := onbellek_create hb h
      exact ⟨⟨hislem, hhedef⟩, hiff⟩
  | guncelle istek txnId payload =>
    cases h : updateTransactionRequest s istek txnId payload with
    | error e =>
      simp only [hedefAdimi, OnbellekKalir, h, kalan]
      exact ⟨hb, fun hs => iff_of_true hs trivial⟩
    | ok d =>
      simp only [hedefAdimi, OnbellekKalir, h, kalan] at hislem ⊢
      have hgoals := goals_updateTransactionRequest h
      have hallocs := (updateTransactionRequest_ok h).1
      refine ⟨⟨hislem, fun k a ha => ?_⟩, fun hs => ?_⟩
      · rw [hallocs] at ha
        rw [hgoals]
        exact hb.hedef k a ha
      · rw [onbellek_of_goals hgoals hs, hallocs]
        exact iff_of_true (fun _ _ _ _ => rfl) trivial
  | sil istek txnId autoRevert =>
    cases h : deleteTransactionRequest s istek txnId autoRevert with
    | error e =>
      simp only [hedefAdimi, OnbellekKalir, h, kalan]
      exact ⟨hb, hred⟩
    | ok d =>
      simp only [hedefAdimi, OnbellekKalir, h, kalan, Except.isOk, Except.toBool, forall_const] at hislem ⊢
      obtain ⟨hhedef, hiff⟩ := onbellek_delete hb h
      exact ⟨⟨hislem, hhedef⟩, hiff⟩
  | tahsisEt istek goalId transactionId amount =>
    cases h : createAllocation v s istek goalId transactionId amount with
    | error e =>
      simp only [hedefAdimi, OnbellekKalir, h, kalan]
      exact ⟨hb, fun hs => iff_of_true hs trivial⟩
    | ok d =>
      simp only [hedefAdimi, OnbellekKalir, h, kalan] at hislem ⊢
      obtain ⟨hhedef, honbellek⟩ := onbellek_allocate hb h
      exact ⟨⟨hislem, hhedef⟩, fun hs => iff_of_true (honbellek hs) trivial⟩
  | tahsisSil istek allocationId =>
    cases h : deleteAllocation s istek allocationId with
    | error e =>
      simp only [hedefAdimi, OnbellekKalir, h, kalan]
      exact ⟨hb, fun hs => iff_of_true hs trivial⟩
    | ok d =>
      simp only [hedefAdimi, OnbellekKalir, h, kalan] at hislem ⊢
      obtain ⟨hhedef, honbellek⟩ := onbellek_release hb h
      exact ⟨⟨hislem, hhedef⟩, fun hs => iff_of_true (honbellek hs) trivial⟩
  | hedefAc istek payload =>
    cases h : createGoal v s istek payload with
    | error e =>
      simp only [hedefAdimi, OnbellekKalir, h, kalan]
      exact ⟨hb, fun hs => iff_of_true hs trivial⟩
    | ok d =>
      simp only [hedefAdimi, OnbellekKalir, h, kalan]
      obtain ⟨hbagli, honbellek⟩ := onbellek_createGoal hb h
      exact ⟨hbagli, fun hs => iff_of_true (honbellek hs) trivial⟩
  | hedefGuncelle istek goalId payload =>
    cases h : updateGoal v s istek goalId payload with
    | error e =>
      simp only [hedefAdimi, OnbellekKalir, h, kalan]
      exact ⟨hb, fun hs => iff_of_true hs trivial⟩
    | ok d =>
      simp only [hedefAdimi, OnbellekKalir, h, kalan]
      obtain ⟨hbagli, honbellek⟩ := onbellek_updateGoal hb h
      exact ⟨hbagli, fun hs => iff_of_true (honbellek hs) trivial⟩

/-- The cache is right in every state of a run exactly when no deletion takes away, and no rule
publishes, what a cash target shows. -/
theorem goal_cache_coherent (v : Surucu) (s : GoalDb) (istekler : List HedefIstegi) (hb : TahsisBagli s)
    (hs : OnbellekTutar s) :
    (∀ n, OnbellekTutar (run (hedefAdimi v) s (istekler.take n))) ↔
      StepsMeet (hedefAdimi v) (OnbellekKalir v) s istekler :=
  prefixes_iff_stepsMeet (fun _ r hb => (adim_onbellek r hb).1) (fun _ r hb hs => (adim_onbellek r hb).2 hs)
    hb hs istekler

/-- A cash account and nothing else. -/
def kasaliDb : GoalDb := { GoalDb.empty with
  db := Db.empty.writeAll [
    .account (.insert ⟨1, none, "Nakit", .cash, 1000, none, none, none, none, none, none, none, false⟩)] }

def kasaIstegi : Istek := ⟨1, none, (Date.ofYmd? 2026 5 13).get rfl⟩

/-- A goal of 1000 is opened, an income of 100 is booked and linked to it. -/
def birikenGelir : List HedefIstegi := [
  .hedefAc kasaIstegi ⟨.cashTarget, "Tatil", 1000, false⟩,
  .olustur kasaIstegi ⟨some 1, some .income, some 100, none, none, none, none, none, none⟩,
  .tahsisEt kasaIstegi 1 1 100]

private theorem kasaliDb_bagli : TahsisBagli kasaliDb := by
  constructor
  · intro k a h
    cases h
  · intro k a h
    cases h

private theorem kasaliDb_onbellek : OnbellekTutar kasaliDb := by
  intro id goal h
  cases h

theorem goal_cache_coherent_birikenGelir :
    (∀ n, OnbellekTutar (run (hedefAdimi ⟨false, id⟩) kasaliDb (birikenGelir.take n))) ↔
      StepsMeet (hedefAdimi ⟨false, id⟩) (OnbellekKalir ⟨false, id⟩) kasaliDb birikenGelir :=
  goal_cache_coherent ⟨false, id⟩ kasaliDb birikenGelir kasaliDb_bagli kasaliDb_onbellek

/-- The income is deleted again, its allocation goes with it, and the goal still shows 100. -/
theorem deletion_left_a_stale_goal :
    ¬ ∀ (v : Surucu) (s : GoalDb) (istekler : List HedefIstegi), TahsisBagli s → OnbellekTutar s →
      OnbellekTutar (run (hedefAdimi v) s istekler) := by
  intro h
  have hrun := h ⟨false, id⟩ kasaliDb (birikenGelir ++ [.sil kasaIstegi 1 false]) kasaliDb_bagli kasaliDb_onbellek
  have hgoal := hrun 1 ⟨some 1, none, .cashTarget, 1000, none, .active, 100, 10⟩ (by decide +kernel) rfl
  exact absurd hgoal.1 (by decide +kernel)

end FinancialOs.Guarantees
