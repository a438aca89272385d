import FinancialOs.Library.TransitionRuns
import FinancialOs.Routers.Goals

/-! What all goals together take from one transaction, over every run of the requests that
move either side of the limit. -/
namespace FinancialOs.Guarantees
open Library Store Rules Routers

/-- The requests, with the goals and their rules edited at will between them. -/
inductive TahsisIstegi where
  | olustur (istek : Istek) (payload : TransactionCreate)
  | guncelle (istek : Istek) (txnId : ℤ) (payload : TransactionUpdate)
  | sil (istek : Istek) (txnId : ℤ) (autoRevertBalance : Bool)
  | tahsisEt (istek : Istek) (goalId transactionId : ℤ) (amount : ℚ)
  | tahsisSil (istek : Istek) (allocationId : ℤ)
  | hedefler (goals : Table Goal) (rules : Table GoalRule)

/-- A refused request leaves the store as it was. -/
def kalan (s : GoalDb) : Except UcHatasi GoalDb → GoalDb
  | .ok d => d
  | .error _ => s

def tahsisAdimi (v : Surucu) (s : GoalDb) : TahsisIstegi → GoalDb
  | .olustur istek payload => kalan s (createTransactionRequest v s istek payload)
  | .guncelle istek txnId payload => kalan s (updateTransactionRequest s istek txnId payload)
  | .sil istek txnId autoRevert => kalan s (deleteTransactionRequest s istek txnId autoRevert)
  | .tahsisEt istek goalId transactionId amount =>
    kalan s (createAllocation v s istek goalId transactionId amount)
  | .tahsisSil istek allocationId => kalan s (deleteAllocation s istek allocationId)
  | .hedefler goals rules => { s with goals := goals, rules := rules }

/-- No transaction is allotted to goals beyond its amount. -/
def AsimYok (s : GoalDb) : Prop :=
  ∀ k tx, s.db.transactions.get? k = some tx → s.allocations.total (bagliTutar k) ≤ |tx.amount|

/-- The foreign key of an allocation to its transaction. -/
def BagliIslemVar (s : GoalDb) : Prop :=
  ∀ k a, s.allocations.get? k = some a → (s.db.transactions.get? a.transactionId).isSome = true

/-- What the rules publish for a transaction, in order. A goal that comes a second time leaves its
savepoint open, and nothing behind it is published. -/
def yayinlanan (v : Surucu) (d : GoalDb) (txId : ℕ) (tx : Transaction) :
    List (ℕ × GoalRule) → List ℕ → List GoalAllocation
  | [], _ => []
  | r :: rs, bagli =>
    if hedefAktif d r.2 then
      match ruleMatches d.db tx r.2.criteria with
      | .error _ => []
      | .ok false => yayinlanan v d txId tx rs bagli
      | .ok true =>
        if computeAllocationAmount tx r.2 = 0 then yayinlanan v d txId tx rs bagli
        else if r.2.goalId ∈ bagli then []
        else kuralTahsisi v txId tx r :: yayinlanan v d txId tx rs (r.2.goalId :: bagli)
    else yayinlanan v d txId tx rs bagli

/-- The rule allocations that a creation leaves in the committed store. -/
def kalanTahsisler (v : Surucu) (s : GoalDb) (tx : Transaction) : List GoalAllocation :=
  if v.releaseYayinlar then
    yayinlanan v s s.db.transactions.freshKey tx (kapsamKurallari s tx) []
  else []

/-- A request that is carried out keeps the allotted amounts within the transaction: what rules
leave behind fits into it, a new amount covers what is linked, and the amount column rounds no
allocation over the limit. -/
def Sigar (v : Surucu) (s : GoalDb) : TahsisIstegi → Prop
  | .olustur istek payload => (createTransactionRequest v s istek payload).isOk = true →
      ∀ yeni, yeniIslem s.db istek payload = .ok yeni →
        ((kalanTahsisler v s yeni.txn).map (fun a => |a.amount|)).sum ≤ |yeni.txn.amount|
  | .guncelle istek txnId payload => (updateTransactionRequest s istek txnId payload).isOk = true →
      ∀ k eski q, findById s.db.transactions istek.userId istek.wsId (.int txnId) = .ok (some (k, eski)) →
        payload.amount = some (some q) → s.allocations.total (bagliTutar k) ≤ |q|
  | .tahsisEt istek goalId transactionId amount =>
      (createAllocation v s istek goalId transactionId amount).isOk = true →
      ∀ k tx, findById s.db.transactions istek.userId istek.wsId (.int transactionId) = .ok (some (k, tx)) →
        |v.kurus amount| + s.allocations.total (bagliTutar k) ≤ |tx.amount|
  | _ => True

section Rules
variable {v : Surucu} {d : GoalDb} {txId : ℕ} {tx : Transaction}

/-- With a savepoint left open nothing is published any more. -/
private theorem savepointTahsisi_acik (a : GoalAllocation) (s : Session GoalDb) (hs : s.savepoints ≠ []) :
    (savepointTahsisi v a s).1.close = s.close ∧ (savepointTahsisi v a s).1.savepoints ≠ [] := by
  unfold savepointTahsisi
  split
  · exact ⟨rfl, List.cons_ne_nil _ _⟩
  · have hopen : s.savepoints.isEmpty = false := by
      cases hl : s.savepoints with
      | nil => exact absurd hl hs
      | cons x xs => rfl
    rw [Session.release_nested, hopen, Bool.and_false, Bool.false_and, if_neg Bool.false_ne_true]
    exact ⟨rfl, hs⟩

private theorem close_kurallariIsle_acik (rs : List (ℕ × GoalRule)) (s : Session GoalDb)
    (hs : s.savepoints ≠ []) (hedefler : List ℕ) :
    (kurallariIsle v d txId tx rs s hedefler).1.close = s.close := by
  induction rs generalizing s hedefler with
  | nil => rfl
  | cons r rs ih =>
    unfold kurallariIsle
    split
    · split
      · rfl
      · exact ih s hs hedefler
      · split
        · exact ih s hs hedefler
        · obtain ⟨hclose, hopen⟩ := savepointTahsisi_acik (v := v) (kuralTahsisi v txId tx r) s hs
          exact (ih _ hopen _).trans hclose
    · exact ih s hs hedefler

private theorem zatenBagli_tahsisEkle (e : GoalDb) (a : GoalAllocation) (goalId k : ℕ) :
    zatenBagli (tahsisEkle a e) goalId k = true ↔
      zatenBagli e goalId k = true ∨ a.goalId = goalId ∧ a.transactionId = k := by
  simp [zatenBagli, tahsisEkle, Table.any, Table.push, List.any_append]

/-- Under a publishing driver the committed store takes the published allocations one by one. -/
private theorem close_kurallariIsle_yayin (hv : v.releaseYayinlar = true) (rs : List (ℕ × GoalRule))
    (e : GoalDb) (hedefler bagli : List ℕ) (hb : ∀ g, zatenBagli e g txId = true ↔ g ∈ bagli) :
    (kurallariIsle v d txId tx rs (Session.start e) hedefler).1.close =
      (yayinlanan v d txId tx rs bagli).foldl (fun e a => tahsisEkle a e) e := by
  induction rs generalizing e hedefler bagli with
  | nil => rfl
  | cons r rs ih =>
    cases haktif : hedefAktif d r.2 with
    | false =>
      simp only [kurallariIsle, yayinlanan, haktif, Bool.false_eq_true, if_false]
      exact ih e hedefler bagli hb
    | true =>
      rcases hm : ruleMatches d.db tx r.2.criteria with hata | _ | _
      · simp only [kurallariIsle, yayinlanan, haktif, hm, if_true]
        rfl
      · simp only [kurallariIsle, yayinlanan, haktif, hm, if_true]
        exact ih e hedefler bagli hb
      by_cases hsifir : computeAllocationAmount tx r.2 = 0
      · simp only [kurallariIsle, yayinlanan, haktif, hm, hsifir, if_true]
        exact ih e hedefler bagli hb
      simp only [kurallariIsle, yayinlanan, haktif, hm, hsifir, if_true, if_false]
      by_cases hg : r.2.goalId ∈ bagli
      · have hz : zatenBagli e r.2.goalId txId = true := (hb _).mpr hg
        have hsave : savepointTahsisi v (kuralTahsisi v txId tx r) (Session.start e) =
            ((Session.start e).beginNested, false) := if_pos hz
        rw [hsave, if_pos hg]
        exact close_kurallariIsle_acik rs _ (List.cons_ne_nil _ _) _
      · have hz : ¬ zatenBagli e r.2.goalId txId = true := fun h => hg ((hb _).mp h)
        have hsave : savepointTahsisi v (kuralTahsisi v txId tx r) (Session.start e) =
            (Session.start (tahsisEkle (kuralTahsisi v txId tx r) e), true) := by
          unfold savepointTahsisi
          rw [Session.release_nested, hv]
          exact if_neg hz
        rw [hsave, if_neg hg, List.foldl_cons]
        apply ih
        intro g
        rw [zatenBagli_tahsisEkle, hb, List.mem_cons, or_comm, eq_comm (a := g)]
        exact or_congr_left (and_iff_left rfl)

/-- The published allocations all link the one transaction. -/
private theorem transactionId_yayinlanan (rs : List (ℕ × GoalRule)) (bagli : List ℕ) :
    ∀ a ∈ yayinlanan v d txId tx rs bagli, a.transactionId = txId := by
  induction rs generalizing bagli with
  | nil =>
    intro a ha
    cases ha
  | cons r rs ih =>
    unfold yayinlanan
    split
    · split
      · intro a ha
        cases ha
      · exact ih bagli
      · split
        · exact ih bagli
        · split
          · intro a ha
            cases ha
          · intro a ha
            rcases List.mem_cons.mp ha with rfl | ha
            · rfl
            · exact ih _ a ha
    · exact ih bagli

private theorem yayinlanan_congr {e : GoalDb} (h : AyniKurallar d e) (rs : List (ℕ × GoalRule))
    (bagli : List ℕ) : yayinlanan v e txId tx rs bagli = yayinlanan v d txId tx rs bagli := by
  induction rs generalizing bagli with
  | nil => rfl
  | cons r rs ih =>
    have haktif : hedefAktif e r.2 = hedefAktif d r.2 := by rw [hedefAktif, h.goals, hedefAktif]
    simp only [yayinlanan, haktif, h.ruleMatches, ih]

private theorem kapsamKurallari_congr {e : GoalDb} (h : AyniKurallar d e) (tx : Transaction) :
    kapsamKurallari e tx = kapsamKurallari d tx := by
  simp only [kapsamKurallari, h.goals, h.rules]

end Rules

section Totals
variable {s : GoalDb}

/-- Rule allocations are appended, to nothing but the table of allocations. -/
theorem foldl_tahsisEkle (as : List GoalAllocation) (e : GoalDb) :
    (as.foldl (fun e a => tahsisEkle a e) e).db = e.db ∧
      (as.foldl (fun e a => tahsisEkle a e) e).goals = e.goals ∧
      ∀ w : GoalAllocation → ℚ, (as.foldl (fun e a => tahsisEkle a e) e).allocations.total w =
        e.allocations.total w + (as.map w).sum := by
  induction as generalizing e with
  | nil => exact ⟨rfl, rfl, fun w => by simp⟩
  | cons a as ih =>
    obtain ⟨hdb, hgoals, htotal⟩ := ih (tahsisEkle a e)
    refine ⟨hdb, hgoals, fun w => ?_⟩
    have hone : (tahsisEkle a e).allocations.total w = e.allocations.total w + w a :=
      Table.total_push e.allocations a w
    rw [List.foldl_cons, htotal w, hone, List.map_cons, List.sum_cons, add_assoc]

/-- A row behind the appended ones was there or is one of them. -/
theorem mem_foldl_tahsisEkle (as : List GoalAllocation) (e : GoalDb) {k : ℕ} {b : GoalAllocation}
    (h : (as.foldl (fun e a => tahsisEkle a e) e).allocations.get? k = some b) :
    e.allocations.get? k = some b ∨ b ∈ as := by
  induction as generalizing e with
  | nil => exact .inl h
  | cons a as ih =>
    rcases ih (tahsisEkle a e) h with h | h
    · have hpush : (e.allocations.push a).get? k = some b := h
      rw [Table.get?_push] at hpush
      split at hpush
      · obtain rfl := Option.some.inj hpush
        exact .inr List.mem_cons_self
      · exact .inl hpush
    · exact .inr (List.mem_cons_of_mem _ h)

/-- Nothing is linked to a row id that is not in use. -/
private theorem total_unused (hb : BagliIslemVar s) {k : ℕ} (hk : s.db.transactions.get? k = none) :
    s.allocations.total (bagliTutar k) = 0 := by
  have hzero : s.allocations.total (bagliTutar k) = s.allocations.total (fun _ => (0 : ℚ)) := by
    apply Table.total_congr
    intro j a ha
    apply if_neg
    rintro rfl
    have := hb j a ha
    rw [hk] at this
    cases this
  rw [hzero]
  simp [Table.total]

end Totals

/-- A creation that is carried out: the new row, and the rule allocations behind it. -/
theorem create_kalan {v : Surucu} {s d : GoalDb} {istek : Istek} {payload : TransactionCreate}
    (hb : BagliIslemVar s) (h : createTransactionRequest v s istek payload = .ok d) :
    ∃ yeni e, yeniIslem s.db istek payload = .ok yeni ∧ Kaydedilen s e yeni.txn ∧
      d = (kalanTahsisler v s yeni.txn).foldl (fun e a => tahsisEkle a e) e := by
  obtain ⟨ws, e, hw, he, rfl⟩ := createTransactionRequest_ok h
  obtain ⟨yeni, hy, _⟩ := createTransaction_ok hw
  have hk := kaydedilen_of_create hy hw he
  refine ⟨yeni, e, hy, hk, ?_⟩
  unfold kalanTahsisler
  cases hv : v.releaseYayinlar with
  | false =>
    rw [close_evaluate hv, if_neg Bool.false_ne_true]
    rfl
  | true =>
    have hrow : e.db.transactions.get? s.db.transactions.freshKey = some yeni.txn := by
      rw [hk.islemler, Table.get?_push, if_pos rfl]
    have hbos : ∀ g, zatenBagli e g s.db.transactions.freshKey = true ↔ g ∈ ([] : List ℕ) := by
      intro g
      simp only [List.not_mem_nil, iff_false]
      intro hz
      rw [zatenBagli, hk.allocations] at hz
      obtain ⟨k, a, ha, hp⟩ := Table.any_eq_true.mp hz
      have hfk := hb k a ha
      rw [(of_decide_eq_true hp).2, Table.get?_freshKey] at hfk
      cases hfk
    have hclose : (kurallariIsle v e s.db.transactions.freshKey yeni.txn (kapsamKurallari e yeni.txn)
        (Session.start e) []).1.close = _ :=
      close_kurallariIsle_yayin hv (kapsamKurallari e yeni.txn) e [] [] hbos
    rw [yayinlanan_congr hk.kurallar, kapsamKurallari_congr hk.kurallar] at hclose
    rw [if_pos rfl, ← hclose, ← kapsamKurallari_congr hk.kurallar]
    unfold evaluateRulesForTransaction
    have hcur : (Session.start e).current = e := rfl
    rw [hcur, hrow]
    dsimp only
    split
    · next s' _ hki => rw [hki]
    · next s' hedefler hki => rw [hki, close_hedefleriTazele]

/-- The limit, behind the commit of a creation. -/
private theorem asimYok_create {v : Surucu} {s d : GoalDb} {istek : Istek} {payload : TransactionCreate}
    (hb : BagliIslemVar s) (h : createTransactionRequest v s istek payload = .ok d) :
    BagliIslemVar d ∧ (AsimYok s → (AsimYok d ↔ ∀ yeni, yeniIslem s.db istek payload = .ok yeni →
      ((kalanTahsisler v s yeni.txn).map (fun a => |a.amount|)).sum ≤ |yeni.txn.amount|)) := by
  obtain ⟨yeni, e, hy, hk, rfl⟩ := create_kalan hb h
  obtain ⟨hdb, _, htotal⟩ := foldl_tahsisEkle (kalanTahsisler v s yeni.txn) e
  have hid : ∀ a ∈ kalanTahsisler v s yeni.txn, a.transactionId = s.db.transactions.freshKey := by
    unfold kalanTahsisler
    split
    · exact transactionId_yayinlanan _ _
    · intro a ha
      cases ha
  have hrow : ∀ k, e.db.transactions.get? k =
      if k = s.db.transactions.freshKey then some yeni.txn else s.db.transactions.get? k := by
    intro k
    rw [hk.islemler, Table.get?_push]
  constructor
  · intro k a hm
    rw [hdb, hrow]
    rcases mem_foldl_tahsisEkle _ e hm with hm | hm
    · rw [hk.allocations] at hm
      split
      · rfl
      · exact hb k a hm
    · rw [if_pos (hid a hm)]
      rfl
  · intro ha
    have hyeni : ((kalanTahsisler v s yeni.txn).map (bagliTutar s.db.transactions.freshKey)).sum =
        ((kalanTahsisler v s yeni.txn).map (fun a => |a.amount|)).sum := by
      apply congrArg List.sum
      apply List.map_congr_left
      intro a hm
      exact if_pos (hid a hm)
    have hdiger : ∀ k, k ≠ s.db.transactions.freshKey →
        ((kalanTahsisler v s yeni.txn).map (bagliTutar k)).sum = 0 := by
      intro k hne
      apply List.sum_eq_zero
      intro q hq
      obtain ⟨a, hm, rfl⟩ := List.mem_map.mp hq
      apply if_neg
      rw [hid a hm]
      exact fun he => hne he.symm
    constructor
    · intro hd yeni' hy'
      obtain rfl : yeni = yeni' := by simpa [hy] using hy'
      have hnew := hd s.db.transactions.freshKey yeni.txn (by rw [hdb, hrow, if_pos rfl])
      rw [htotal, hk.allocations, total_unused hb (Table.get?_freshKey _), zero_add, hyeni] at hnew
      exact hnew
    · intro hsum k tx hg
      rw [htotal, hk.allocations]
      rw [hdb, hrow] at hg
      split at hg
      · next he =>
        obtain rfl := Option.some.inj hg
        rw [he, total_unused hb (Table.get?_freshKey _), zero_add, hyeni]
        exact hsum yeni hy
      · next hne =>
        rw [hdiger k hne, add_zero]
        exact ha k tx hg

private theorem asimYok_update {s d : GoalDb} {istek : Istek} {txnId : ℤ} {payload : TransactionUpdate}
    (hb : BagliIslemVar s) (h : updateTransactionRequest s istek txnId payload = .ok d) :
    BagliIslemVar d ∧ (AsimYok s → (AsimYok d ↔ ∀ k eski q,
      findById s.db.transactions istek.userId istek.wsId (.int txnId) = .ok (some (k, eski)) →
        payload.amount = some (some q) → s.allocations.total (bagliTutar k) ≤ |q|)) := by
  obtain ⟨hallocs, id, eski, yeni, hf, hy, hrow⟩ := updateTransactionRequest_ok h
  have hget : s.db.transactions.get? id = some eski := (findById_eq_some.mp hf).2.1
  constructor
  · intro k a hm
    rw [hallocs] at hm
    rw [hrow]
    split
    · rfl
    · exact hb k a hm
  · intro ha
    constructor
    · intro hd k eski' q hf' hq
      rw [hf, Except.ok.injEq, Option.some.injEq, Prod.mk.injEq] at hf'
      obtain ⟨rfl, rfl⟩ := hf'
      have hnew := hd id yeni (by rw [hrow, if_pos rfl])
      rw [hallocs] at hnew
      rcases guncelIslem_amount hy with ⟨hn, _⟩ | ⟨q', hq', hyeni⟩
      · rw [hn] at hq
        cases hq
      · obtain rfl : q' = q := by simpa [hq'] using hq
        rw [hyeni] at hnew
        exact hnew
    · intro hq k tx hg
      rw [hallocs]
      rw [hrow] at hg
      split at hg
      · next hk =>
        obtain rfl := Option.some.inj hg
        rw [hk]
        rcases guncelIslem_amount hy with ⟨_, hyeni⟩ | ⟨q, hp, hyeni⟩
        · rw [hyeni]
          exact ha id eski hget
        · rw [hyeni]
          exact hq id eski q hf hp
      · exact ha k tx hg

private theorem asimYok_delete {s d : GoalDb} {istek : Istek} {txnId : ℤ} {autoRevert : Bool}
    (hb : BagliIslemVar s) (h : deleteTransactionRequest s istek txnId autoRevert = .ok d) :
    BagliIslemVar d ∧ (AsimYok s → AsimYok d) := by
  obtain ⟨id, _, _, hrows, hallocs⟩ := deleteTransactionRequest_ok h
  constructor
  · intro k a hm
    rw [hallocs, Table.get?_keep, decide_eq_true_eq] at hm
    rw [hrows, Table.get?_erase, if_neg hm.2]
    exact hb k a hm.1
  · intro ha k tx hg
    rw [hrows, Table.get?_erase] at hg
    split at hg
    · cases hg
    · rw [hallocs, Table.total_keep]
      refine le_trans (le_of_eq ?_) (ha k tx hg)
      apply Table.total_congr
      intro j a _
      by_cases hj : a.transactionId = id
      · have hne : a.transactionId ≠ k := fun he => absurd (he.symm.trans hj) ‹_›
        simp [hj, bagliTutar, hj ▸ hne]
      · simp [hj]

private theorem asimYok_allocate {v : Surucu} {s d : GoalDb} {istek : Istek} {goalId transactionId : ℤ}
    {amount : ℚ} (hb : BagliIslemVar s) (h : createAllocation v s istek goalId transactionId amount = .ok d) :
    BagliIslemVar d ∧ (AsimYok s → (AsimYok d ↔ ∀ k tx,
      findById s.db.transactions istek.userId istek.wsId (.int transactionId) = .ok (some (k, tx)) →
        |v.kurus amount| + s.allocations.total (bagliTutar k) ≤ |tx.amount|)) := by
  obtain ⟨g, id, tx, hf, _, hdb, hallocs⟩ := createAllocation_ok h
  have hget : s.db.transactions.get? id = some tx := (findById_eq_some.mp hf).2.1
  have hself : bagliTutar id ⟨g, id, v.kurus amount, .manual, none⟩ = |v.kurus amount| := if_pos rfl
  constructor
  · intro k a hm
    rw [hallocs, Table.get?_push] at hm
    rw [hdb]
    split at hm
    · obtain rfl := Option.some.inj hm
      exact Option.isSome_iff_exists.mpr ⟨tx, hget⟩
    · exact hb k a hm
  · intro ha
    constructor
    · intro hd k tx' hf'
      rw [hf, Except.ok.injEq, Option.some.injEq, Prod.mk.injEq] at hf'
      obtain ⟨rfl, rfl⟩ := hf'
      have hnew := hd id tx (by rw [hdb]; exact hget)
      rw [hallocs, Table.total_push, hself, add_comm] at hnew
      exact hnew
    · intro hfit k tx' hg
      rw [hdb] at hg
      rw [hallocs, Table.total_push]
      by_cases hk : id = k
      · subst hk
        obtain rfl : tx = tx' := by simpa [hget] using hg
        rw [hself, add_comm]
        exact hfit id tx hf
      · have hzero : bagliTutar k ⟨g, id, v.kurus amount, .manual, none⟩ = 0 := if_neg hk
        rw [hzero, add_zero]
        exact ha k tx' hg

private theorem asimYok_release {s d : GoalDb} {istek : Istek} {allocationId : ℤ} (hb : BagliIslemVar s)
    (h : deleteAllocation s istek allocationId = .ok d) : BagliIslemVar d ∧ (AsimYok s → AsimYok d) := by
  obtain ⟨id, a, hget, hdb, hallocs⟩ := deleteAllocation_ok h
  constructor
  · intro k b hm
    rw [hallocs, Table.get?_erase] at hm
    rw [hdb]
    split at hm
    · cases hm
    · exact hb k b hm
  · intro ha k tx hg
    rw [hdb] at hg
    rw [hallocs, Table.total_erase hget]
    have hpos := bagliTutar_nonneg k a
    have hle := ha k tx hg
    linarith

/-- One request keeps the foreign key, and the limit exactly when its amounts fit. -/
theorem adim_sigar {v : Surucu} {s : GoalDb} (r : TahsisIstegi) (hb : BagliIslemVar s) :
    BagliIslemVar (tahsisAdimi v s r) ∧ (AsimYok s → (AsimYok (tahsisAdimi v s r) ↔ Sigar v s r)) := by
  have hred : ∀ {c : Prop}, AsimYok s → (AsimYok s ↔ (false = true → c)) :=
    fun ha => iff_of_true ha fun hok => absurd hok Bool.false_ne_true
  cases r with
  | olustur istek payload =>
    cases h : createTransactionRequest v s istek payload with
    | error e =>
      simp only [tahsisAdimi, Sigar, h, kalan]
      exact ⟨hb, hred⟩
    | ok d =>
      simp only [tahsisAdimi, Sigar, h, kalan, Except.isOk, Except.toBool, forall_const]
      exact asimYok_create hb h
  | guncelle istek txnId payload =>
    cases h : updateTransactionRequest s istek txnId payload with
    | error e =>
      simp only [tahsisAdimi, Sigar, h, kalan]
      exact ⟨hb, hred⟩
    | ok d =>
      simp only [tahsisAdimi, Sigar, h, kalan, Except.isOk, Except.toBool, forall_const]
      exact asimYok_update hb h
  | sil istek txnId autoRevert =>
    cases h : deleteTransactionRequest s istek txnId autoRevert with
    | error e =>
      simp only [tahsisAdimi, h, kalan]
      exact ⟨hb, fun ha => iff_of_true ha trivial⟩
    | ok d =>
      simp only [tahsisAdimi, h, kalan]
      obtain ⟨hfk, hlimit⟩ := asimYok_delete hb h
      exact ⟨hfk, fun ha => iff_of_true (hlimit ha) trivial⟩
  | tahsisEt istek goalId transactionId amount =>
    cases h : createAllocation v s istek goalId transactionId amount with
    | error e =>
      simp only [tahsisAdimi, Sigar, h, kalan]
      exact ⟨hb, hred⟩
    | ok d =>
      simp only [tahsisAdimi, Sigar, h, kalan, Except.isOk, Except.toBool, forall_const]
      exact asimYok_allocate hb h
  | tahsisSil istek allocationId =>
    cases h : deleteAllocation s istek allocationId with
    | error e =>
      simp only [tahsisAdimi, h, kalan]
      exact ⟨hb, fun ha => iff_of_true ha trivial⟩
    | ok d =>
      simp only [tahsisAdimi, h, kalan]
      obtain ⟨hfk, hlimit⟩ := asimYok_release hb h
      exact ⟨hfk, fun ha => iff_of_true (hlimit ha) trivial⟩
  | hedefler goals rules => exact ⟨hb, fun ha => iff_of_true ha trivial⟩

/-- In every state of a run no transaction is allotted beyond its amount, exactly when every request
that moves a limit keeps within it. -/
theorem no_double_earmarking (v : Surucu) (s : GoalDb) (istekler : List TahsisIstegi)
    (hb : BagliIslemVar s) (ha : AsimYok s) :
    (∀ n, AsimYok (run (tahsisAdimi v) s (istekler.take n))) ↔
      StepsMeet (tahsisAdimi v) (Sigar v) s istekler :=
  prefixes_iff_stepsMeet (fun _ r hb => (adim_sigar r hb).1) (fun _ r hb ha => (adim_sigar r hb).2 ha)
    hb ha istekler

/-- A goal of 1000 without rules, and a cash account. -/
def birikimDb : GoalDb where
  db := Db.empty.writeAll [
    .account (.insert ⟨1, none, "Nakit", .cash, 1000, none, none, none, none, none, none, none, false⟩)]
  goals := Table.empty.push ⟨some 1, none, .cashTarget, 1000, none, .active, 0, 0⟩
  rules := .empty
  allocations := .empty

def birikimIstegi : Istek := ⟨1, none, (Date.ofYmd? 2026 5 9).get rfl⟩

/-- An income of 100 is booked, linked to the goal in full, and then corrected to 50. -/
def duzeltilenGelir : List TahsisIstegi := [
  .olustur birikimIstegi ⟨some 1, some .income, some 100, none, none, none, none, none, none⟩,
  .tahsisEt birikimIstegi 1 1 100,
  .guncelle birikimIstegi 1 ⟨none, none, some (some 50), none, none, none, none, none⟩]

private theorem birikimDb_bagli : BagliIslemVar birikimDb := by
  intro k a h
  cases h

private theorem birikimDb_asimYok : AsimYok birikimDb := by
  intro k tx h
  cases h

theorem no_double_earmarking_birikimDb :
    (∀ n, AsimYok (run (tahsisAdimi ⟨false, id⟩) birikimDb (duzeltilenGelir.take n))) ↔
      StepsMeet (tahsisAdimi ⟨false, id⟩) (Sigar ⟨false, id⟩) birikimDb duzeltilenGelir :=
  no_double_earmarking ⟨false, id⟩ birikimDb duzeltilenGelir birikimDb_bagli birikimDb_asimYok

/-- Lowering the amount leaves 100 allotted out of 50. -/
theorem correction_left_an_overdraft :
    ¬ ∀ (v : Surucu) (s : GoalDb) (istekler : List TahsisIstegi), BagliIslemVar s → AsimYok s →
      ∀ n, AsimYok (run (tahsisAdimi v) s (istekler.take n)) := by
  intro h
  have hlimit := h ⟨false, id⟩ birikimDb duzeltilenGelir birikimDb_bagli birikimDb_asimYok 3 1
    ⟨1, none, some 1, .income, 50, none, none, birikimIstegi.bugun, false⟩ (by decide +kernel)
  exact absurd hlimit (by decide +kernel)

end FinancialOs.Guarantees
