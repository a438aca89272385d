import FinancialOs.Guarantees.AllocationDurability
import FinancialOs.Library.FirstPerKey

/-! Which rules allot a transaction: of each goal the first that matches it, and none the second time. -/
namespace FinancialOs.Guarantees
open Library Store Rules Routers

/-- The allocations that link a goal to a transaction. -/
def islemTahsisleri (d : GoalDb) (goalId txId : ℕ) : List GoalAllocation :=
  (d.allocations.select fun a => a.goalId = goalId ∧ a.transactionId = txId).map Prod.snd

/-- By priority, and then by id. -/
def dahaOnce (x y : ℕ × GoalRule) : Prop :=
  x.2.priority < y.2.priority ∨ x.2.priority = y.2.priority ∧ x.1 < y.1

/-- An active rule of an active goal in the scope of the transaction whose criteria raise. -/
structure KuralPatlar (d : GoalDb) (tx : Transaction) (id : ℕ) (rule : GoalRule) : Prop where
  kural : d.rules.get? id = some rule
  aktif : rule.isActive = true
  hedef : ∃ goal, d.goals.get? rule.goalId = some goal ∧ goalScope tx.userId tx.workspaceId goal = true ∧
    goal.status = .active
  hata : ∃ e, ruleMatches d.db tx rule.criteria = .error e

/-- Each goal with a matching rule is allotted by the first of them, no other goal is, and what was there stays. -/
structure TekTahsis (v : Surucu) (txId : ℕ) (tx : Transaction) (d e : GoalDb) : Prop where
  eski : ∀ k a, d.allocations.get? k = some a → e.allocations.get? k = some a
  yeni : ∀ k a, e.allocations.get? k = some a → d.allocations.get? k = some a ∨ a.transactionId = txId
  secilen : ∀ goalId goal id rule, KuralUyar d tx goalId goal id rule → ∃ id' rule',
    KuralUyar d tx goalId goal id' rule' ∧
      (∀ id'' rule'', KuralUyar d tx goalId goal id'' rule'' → ¬ dahaOnce (id'', rule'') (id', rule')) ∧
      islemTahsisleri e goalId txId = [kuralTahsisi v txId tx (id', rule')]
  uymayan : ∀ goalId, (∀ goal id rule, ¬ KuralUyar d tx goalId goal id rule) → islemTahsisleri e goalId txId = []

/-- A goal each of whose matching rules comes behind one that raises. -/
def KesilenHedef (d : GoalDb) (tx : Transaction) (goalId : ℕ) (goal : Goal) : Prop :=
  (∃ id rule, KuralUyar d tx goalId goal id rule) ∧ ∀ id rule, KuralUyar d tx goalId goal id rule →
    ∃ id' rule', KuralPatlar d tx id' rule' ∧ dahaOnce (id', rule') (id, rule)

/-- What the loop decides about a rule. -/
def kuralKarari (d : GoalDb) (tx : Transaction) (r : ℕ × GoalRule) : Except PyError Bool :=
  if hedefAktif d r.2 then
    match ruleMatches d.db tx r.2.criteria with
    | .error e => .error e
    | .ok uyar => .ok (uyar && computeAllocationAmount tx r.2 ≠ 0)
  else .ok false

/-- The rules that allot. -/
def secilenKurallar (d : GoalDb) (tx : Transaction) (rs : List (ℕ × GoalRule)) (bagli : List ℕ) : List (ℕ × GoalRule) :=
  firstPerKey (kuralKarari d tx) (fun r => r.2.goalId) bagli rs

section Loop
variable {v : Surucu} {d : GoalDb} {txId : ℕ} {tx : Transaction}

def tahsisleriEkle (v : Surucu) (txId : ℕ) (tx : Transaction) (rs : List (ℕ × GoalRule)) (e : GoalDb) : GoalDb :=
  rs.foldl (fun e r => tahsisEkle (kuralTahsisi v txId tx r) e) e

theorem zatenBagli_yeni (a : GoalAllocation) (e : GoalDb) (goalId : ℕ) :
    zatenBagli (tahsisEkle a e) goalId txId =
      (zatenBagli e goalId txId || decide (a.goalId = goalId ∧ a.transactionId = txId)) := by
  simp only [zatenBagli, tahsisEkle, Table.any, Table.push, List.any_append, List.any_cons, List.any_nil, Bool.or_false]

theorem savepointTahsisi_current (a : GoalAllocation) (s : Session GoalDb) :
    savepointTahsisi v a s = if zatenBagli s.current a.goalId a.transactionId then (s.beginNested.rollbackTo, false)
      else ((s.beginNested.write (tahsisEkle a)).release v.releaseYayinlar, true) := rfl

theorem current_release (f : GoalDb → GoalDb) (s : Session GoalDb) (b : Bool) :
    ((s.beginNested.write f).release b).current = f s.current := by
  rw [Session.release_nested]
  split
  · rfl
  · rfl

theorem kurallariIsle_cons (r : ℕ × GoalRule) (rs : List (ℕ × GoalRule)) (s : Session GoalDb) (hedefler : List ℕ) :
    kurallariIsle v d txId tx (r :: rs) s hedefler =
      match kuralKarari d tx r with
      | .error e => (s, .error e)
      | .ok false => kurallariIsle v d txId tx rs s hedefler
      | .ok true =>
        kurallariIsle v d txId tx rs (savepointTahsisi v (kuralTahsisi v txId tx r) s).1
          (if (savepointTahsisi v (kuralTahsisi v txId tx r) s).2 then hedefler ++ [r.2.goalId] else hedefler) := by
  rw [kurallariIsle, kuralKarari]
  split
  · cases ruleMatches d.db tx r.2.criteria with
    | error e => rfl
    | ok uyar =>
      cases uyar with
      | false => rfl
      | true =>
        by_cases hsifir : computeAllocationAmount tx r.2 = 0
        · simp [hsifir]
        · simp [hsifir]
  · rfl

/-- The loop takes the first accepted rule of each goal that is not linked yet, up to one that raises. -/
theorem kurallariIsle_spec (rs : List (ℕ × GoalRule)) (s : Session GoalDb) (hedefler bagli : List ℕ)
    (hbagli : ∀ g, zatenBagli s.current g txId = true ↔ g ∈ bagli) :
    (kurallariIsle v d txId tx rs s hedefler).1.current =
        tahsisleriEkle v txId tx (secilenKurallar d tx rs bagli) s.current ∧
      ((∃ e, (kurallariIsle v d txId tx rs s hedefler).2 = .error e) ∨
        (∀ r ∈ rs, ∃ x, kuralKarari d tx r = .ok x) ∧ (kurallariIsle v d txId tx rs s hedefler).2 =
          .ok (hedefler ++ (secilenKurallar d tx rs bagli).map fun r => r.2.goalId)) := by
  induction rs generalizing s hedefler bagli with
  | nil => exact ⟨rfl, .inr ⟨by simp, by simp [kurallariIsle, secilenKurallar, firstPerKey]⟩⟩
  | cons r rs ih =>
    rw [kurallariIsle_cons, secilenKurallar, firstPerKey]
    cases hkarar : kuralKarari d tx r with
    | error e => exact ⟨rfl, .inl ⟨e, rfl⟩⟩
    | ok alinan =>
      have hok (h : ∀ q ∈ rs, ∃ x, kuralKarari d tx q = .ok x) : ∀ q ∈ r :: rs, ∃ x, kuralKarari d tx q = .ok x :=
        List.forall_mem_cons.mpr ⟨⟨alinan, hkarar⟩, h⟩
      cases alinan with
      | false =>
        obtain ⟨hcurrent, hson⟩ := ih s hedefler bagli hbagli
        exact ⟨hcurrent, hson.imp_right fun h => ⟨hok h.1, h.2⟩⟩
      | true =>
        dsimp only
        rw [savepointTahsisi_current]
        by_cases hin : r.2.goalId ∈ bagli
        · have hlinked : zatenBagli s.current (kuralTahsisi v txId tx r).goalId (kuralTahsisi v txId tx r).transactionId =
              true := (hbagli _).mpr hin
          rw [if_pos hin, if_pos hlinked]
          obtain ⟨hcurrent, hson⟩ := ih s.beginNested.rollbackTo hedefler bagli hbagli
          exact ⟨hcurrent, hson.imp_right fun h => ⟨hok h.1, h.2⟩⟩
        · have hfree : ¬ zatenBagli s.current (kuralTahsisi v txId tx r).goalId (kuralTahsisi v txId tx r).transactionId =
              true := fun h => hin ((hbagli _).mp h)
          rw [if_neg hin, if_neg hfree]
          have hnext (g : ℕ) : zatenBagli ((s.beginNested.write (tahsisEkle (kuralTahsisi v txId tx r))).release
              v.releaseYayinlar).current g txId = true ↔ g ∈ r.2.goalId :: bagli := by
            rw [current_release, zatenBagli_yeni, Bool.or_eq_true, hbagli, decide_eq_true_iff, List.mem_cons,
              or_comm]
            exact or_congr_left ⟨fun h => h.1.symm, fun h => ⟨h.symm, rfl⟩⟩
          obtain ⟨hcurrent, hson⟩ := ih _ (hedefler ++ [r.2.goalId]) (r.2.goalId :: bagli) hnext
          rw [current_release] at hcurrent
          refine ⟨hcurrent, hson.imp_right fun h => ⟨hok h.1, ?_⟩⟩
          rw [if_pos rfl, h.2, List.append_assoc]
          rfl

theorem tahsisleriEkle_cons (r : ℕ × GoalRule) (rs : List (ℕ × GoalRule)) (e : GoalDb) :
    tahsisleriEkle v txId tx (r :: rs) e = tahsisleriEkle v txId tx rs (tahsisEkle (kuralTahsisi v txId tx r) e) := rfl

/-- New allocations change nothing else. -/
theorem tahsisleriEkle_frame (rs : List (ℕ × GoalRule)) (e : GoalDb) :
    (tahsisleriEkle v txId tx rs e).db = e.db ∧ (tahsisleriEkle v txId tx rs e).goals = e.goals ∧
      (tahsisleriEkle v txId tx rs e).rules = e.rules := by
  induction rs generalizing e with
  | nil => exact ⟨rfl, rfl, rfl⟩
  | cons r rs ih => exact ih (tahsisEkle (kuralTahsisi v txId tx r) e)

theorem tahsisleriEkle_eski (rs : List (ℕ × GoalRule)) (e : GoalDb) {k : ℕ} {a : GoalAllocation}
    (h : e.allocations.get? k = some a) : (tahsisleriEkle v txId tx rs e).allocations.get? k = some a := by
  induction rs generalizing e with
  | nil => exact h
  | cons r rs ih =>
    apply ih (tahsisEkle (kuralTahsisi v txId tx r) e)
    change (e.allocations.push (kuralTahsisi v txId tx r)).get? k = some a
    rw [Table.get?_push, if_neg]
    · exact h
    · rintro rfl
      rw [Table.get?_freshKey] at h
      cases h

theorem tahsisleriEkle_yeni (rs : List (ℕ × GoalRule)) (e : GoalDb) {k : ℕ} {a : GoalAllocation}
    (h : (tahsisleriEkle v txId tx rs e).allocations.get? k = some a) :
    e.allocations.get? k = some a ∨ a.transactionId = txId := by
  induction rs generalizing e with
  | nil => exact .inl h
  | cons r rs ih =>
    rcases ih (tahsisEkle (kuralTahsisi v txId tx r) e) h with hk | hk
    · change (e.allocations.push (kuralTahsisi v txId tx r)).get? k = some a at hk
      rw [Table.get?_push] at hk
      split at hk
      · exact .inr (by rw [← Option.some.inj hk]; rfl)
      · exact .inl hk
    · exact .inr hk

/-- The allocations of a goal are those of its rules among the new ones. -/
theorem islemTahsisleri_tahsisleriEkle (rs : List (ℕ × GoalRule)) (e : GoalDb) (goalId : ℕ) :
    islemTahsisleri (tahsisleriEkle v txId tx rs e) goalId txId = islemTahsisleri e goalId txId ++
      (rs.filter fun r => r.2.goalId = goalId).map (kuralTahsisi v txId tx) := by
  induction rs generalizing e with
  | nil => exact (List.append_nil _).symm
  | cons r rs ih =>
    rw [tahsisleriEkle_cons, ih, List.filter_cons]
    have hpush : islemTahsisleri (tahsisEkle (kuralTahsisi v txId tx r) e) goalId txId = islemTahsisleri e goalId txId ++
        if r.2.goalId = goalId then [kuralTahsisi v txId tx r] else [] := by
      simp only [islemTahsisleri, tahsisEkle, Table.select_push, kuralTahsisi, and_true, decide_eq_true_eq]
    rw [hpush]
    by_cases hg : r.2.goalId = goalId
    · simp [hg]
    · simp [hg]

theorem zatenBagli_eq_false {e : GoalDb} {goalId : ℕ} :
    zatenBagli e goalId txId = false ↔ islemTahsisleri e goalId txId = [] := by
  simp only [zatenBagli, Table.any, islemTahsisleri, Table.select, List.map_eq_nil_iff, List.filter_eq_nil_iff,
    List.any_eq_false]

end Loop

/-- A store that differs in what the refresh of goals writes. -/
structure Tazelenmis (d e : GoalDb) : Prop where
  db : e.db = d.db
  rules : e.rules = d.rules
  allocations : e.allocations = d.allocations
  kapsam : ∀ k userId workspaceId, (e.goals.get? k).any (goalScope userId workspaceId) =
    (d.goals.get? k).any (goalScope userId workspaceId)
  aktif : ∀ rule, hedefAktif e rule = true → hedefAktif d rule = true

theorem tazelenmis_refreshGoal {d e : GoalDb} {goalId : ℕ} (h : refreshGoal d goalId = .ok e) : Tazelenmis d e := by
  obtain ⟨hdb, hrules, hallocs⟩ := refreshGoal_ok h
  unfold refreshGoal at h
  cases hg : d.goals.get? goalId with
  | none =>
    rw [hg] at h
    cases h
  | some goal =>
    simp only [hg, bind_eq_ok, pure_eq_ok] at h
    obtain ⟨_, _, _, _, rfl⟩ := h
    refine ⟨hdb, hrules, hallocs, fun k userId workspaceId => ?_, fun rule => ?_⟩
    · simp only [Table.get?_modify]
      split
      · next hk =>
        rw [hk, hg]
        rfl
      · rfl
    · simp only [hedefAktif, Table.get?_modify]
      split
      · next hk =>
        rw [hk, hg]
        simp only [Option.map_some, Option.any_some, decide_eq_true_eq]
        split
        · next hdurum => exact fun _ => hdurum.2
        · exact id
      · exact id

theorem tazelenmis_hedefleriTazele (gs : List ℕ) (s : Session GoalDb) :
    Tazelenmis s.current (hedefleriTazele gs s).current := by
  induction gs generalizing s with
  | nil => exact ⟨rfl, rfl, rfl, fun _ _ _ => rfl, fun _ h => h⟩
  | cons g gs ih =>
    unfold hedefleriTazele
    split
    · exact ⟨rfl, rfl, rfl, fun _ _ _ => rfl, fun _ h => h⟩
    · next d hd =>
      have hilk := tazelenmis_refreshGoal hd
      have hson := ih (s.write fun _ => d)
      rw [Session.current_write] at hson
      exact ⟨hson.db.trans hilk.db, hson.rules.trans hilk.rules, hson.allocations.trans hilk.allocations,
        fun k u w => (hson.kapsam k u w).trans (hilk.kapsam k u w), fun r h => hilk.aktif r (hson.aktif r h)⟩

section Order
variable {d : GoalDb} {tx : Transaction}

theorem mem_kapsamKurallari {r : ℕ × GoalRule} : r ∈ kapsamKurallari d tx ↔ d.rules.get? r.1 = some r.2 ∧
    r.2.isActive = true ∧ (d.goals.get? r.2.goalId).any (goalScope tx.userId tx.workspaceId) = true := by
  rw [kapsamKurallari, List.mem_insertionSort, Table.mem_select, Bool.and_eq_true]

theorem dahaOnce_asymm (x y : ℕ × GoalRule) (h : dahaOnce x y) : ¬ dahaOnce y x := by
  unfold dahaOnce at *
  omega

/-- The rules come strictly by priority and id. -/
theorem kapsamKurallari_sirali : (kapsamKurallari d tx).Pairwise dahaOnce := by
  have htotal : Std.Total onceGelir := ⟨fun x y => by
    unfold onceGelir
    omega⟩
  have htrans : IsTrans (ℕ × GoalRule) onceGelir := ⟨fun x y z hxy hyz => by
    unfold onceGelir at *
    omega⟩
  have hkeys : ((kapsamKurallari d tx).map Prod.fst).Nodup := by
    have hperm := List.perm_insertionSort onceGelir (d.rules.select fun r => r.isActive &&
      (d.goals.get? r.goalId).any (goalScope tx.userId tx.workspaceId))
    exact (hperm.map Prod.fst).nodup_iff.mpr (d.rules.nodup.sublist (List.filter_sublist.map _))
  have hne : (kapsamKurallari d tx).Pairwise fun x y => x.1 ≠ y.1 := List.pairwise_map.mp hkeys
  have hsorted : (kapsamKurallari d tx).Pairwise onceGelir := List.pairwise_insertionSort onceGelir _
  refine (hsorted.and hne).imp ?_
  rintro x y ⟨hxy, hne⟩
  unfold onceGelir at hxy
  unfold dahaOnce
  omega

theorem hedefAktif_iff {rule : GoalRule} :
    hedefAktif d rule = true ↔ ∃ goal, d.goals.get? rule.goalId = some goal ∧ goal.status = .active := by
  simp only [hedefAktif, Option.any_eq_true, decide_eq_true_eq]

theorem kuralKarari_eq_true {r : ℕ × GoalRule} : kuralKarari d tx r = .ok true ↔ hedefAktif d r.2 = true ∧
    ruleMatches d.db tx r.2.criteria = .ok true ∧ computeAllocationAmount tx r.2 ≠ 0 := by
  rw [kuralKarari]
  split
  · next h =>
    cases ruleMatches d.db tx r.2.criteria with
    | error e => simp
    | ok uyar => cases uyar <;> simp [h]
  · next h => simp [h]

theorem kuralKarari_eq_error {r : ℕ × GoalRule} : (∃ e, kuralKarari d tx r = .error e) ↔ hedefAktif d r.2 = true ∧
    ∃ e, ruleMatches d.db tx r.2.criteria = .error e := by
  rw [kuralKarari]
  split
  · next h =>
    cases ruleMatches d.db tx r.2.criteria with
    | error e => simp [h]
    | ok uyar => simp
  · next h => simp [h]

theorem kuralUyar_iff_kapsam {goalId id : ℕ} {goal : Goal} {rule : GoalRule} :
    KuralUyar d tx goalId goal id rule ↔ (id, rule) ∈ kapsamKurallari d tx ∧ kuralKarari d tx (id, rule) = .ok true ∧
      rule.goalId = goalId ∧ d.goals.get? goalId = some goal := by
  rw [mem_kapsamKurallari, kuralKarari_eq_true, hedefAktif_iff]
  constructor
  · rintro ⟨hedef, kapsam, durum, kural, rfl, aktif, uyar, tutar⟩
    have hscope : (d.goals.get? rule.goalId).any (goalScope tx.userId tx.workspaceId) = true := by
      rw [hedef]
      exact kapsam
    exact ⟨⟨kural, aktif, hscope⟩, ⟨⟨goal, hedef, durum⟩, uyar, tutar⟩, rfl, hedef⟩
  · rintro ⟨⟨kural, aktif, hscope⟩, ⟨⟨goal', hedef', durum⟩, uyar, tutar⟩, rfl, hedef⟩
    obtain rfl : goal = goal' := Option.some.inj (hedef.symm.trans hedef')
    rw [hedef] at hscope
    exact ⟨hedef, hscope, durum, kural, rfl, aktif, uyar, tutar⟩

theorem kuralPatlar_iff_kapsam {id : ℕ} {rule : GoalRule} : KuralPatlar d tx id rule ↔
    (id, rule) ∈ kapsamKurallari d tx ∧ ∃ e, kuralKarari d tx (id, rule) = .error e := by
  rw [mem_kapsamKurallari, kuralKarari_eq_error, hedefAktif_iff]
  constructor
  · rintro ⟨kural, aktif, ⟨goal, hedef, kapsam, durum⟩, hata⟩
    have hscope : (d.goals.get? rule.goalId).any (goalScope tx.userId tx.workspaceId) = true := by
      rw [hedef]
      exact kapsam
    exact ⟨⟨kural, aktif, hscope⟩, ⟨goal, hedef, durum⟩, hata⟩
  · rintro ⟨⟨kural, aktif, hscope⟩, ⟨goal, hedef, durum⟩, hata⟩
    have hscope : (d.goals.get? rule.goalId).any (goalScope tx.userId tx.workspaceId) = true := hscope
    rw [hedef] at hscope
    exact ⟨kural, aktif, ⟨goal, hedef, hscope, durum⟩, hata⟩

/-- A rule is selected of a transaction without allocations when nothing before it raises or allots its goal. -/
theorem mem_secilenKurallar {r : ℕ × GoalRule} : r ∈ secilenKurallar d tx (kapsamKurallari d tx) [] ↔
    r ∈ kapsamKurallari d tx ∧ kuralKarari d tx r = .ok true ∧ ∀ q ∈ kapsamKurallari d tx, dahaOnce q r →
      (∃ x, kuralKarari d tx q = .ok x) ∧ (kuralKarari d tx q = .ok true → q.2.goalId ≠ r.2.goalId) := by
  rw [secilenKurallar, mem_firstPerKey dahaOnce_asymm kapsamKurallari_sirali]
  simp only [List.not_mem_nil, not_false_eq_true, true_and]

theorem secilen_uyar {r : ℕ × GoalRule} (hr : r ∈ secilenKurallar d tx (kapsamKurallari d tx) []) :
    ∃ goal, KuralUyar d tx r.2.goalId goal r.1 r.2 := by
  obtain ⟨hmem, hkarar, -⟩ := mem_secilenKurallar.mp hr
  obtain ⟨goal, hgoal, -⟩ := hedefAktif_iff.mp (kuralKarari_eq_true.mp hkarar).1
  exact ⟨goal, kuralUyar_iff_kapsam.mpr ⟨hmem, hkarar, rfl, hgoal⟩⟩

theorem secilen_patlamaz {r : ℕ × GoalRule} (hr : r ∈ secilenKurallar d tx (kapsamKurallari d tx) []) {id : ℕ}
    {rule : GoalRule} (h : KuralPatlar d tx id rule) : ¬ dahaOnce (id, rule) r := by
  intro honce
  obtain ⟨-, -, hrilk⟩ := mem_secilenKurallar.mp hr
  obtain ⟨hkapsam, f, hf⟩ := kuralPatlar_iff_kapsam.mp h
  obtain ⟨x, hx⟩ := (hrilk _ hkapsam honce).1
  cases hf.symm.trans hx

/-- The first matching rule of a goal that is not cut off is selected. -/
theorem secilen_of_ilk {r : ℕ × GoalRule} {goal : Goal} (huyar : KuralUyar d tx r.2.goalId goal r.1 r.2)
    (hilk : ∀ id rule, KuralUyar d tx r.2.goalId goal id rule → ¬ dahaOnce (id, rule) r)
    (hkesilmez : ¬ KesilenHedef d tx r.2.goalId goal) : r ∈ secilenKurallar d tx (kapsamKurallari d tx) [] := by
  obtain ⟨hmem, hkarar, -, -⟩ := kuralUyar_iff_kapsam.mp huyar
  refine mem_secilenKurallar.mpr ⟨hmem, hkarar, fun q hq honce => ⟨?_, fun hqkarar hqgoal => ?_⟩⟩
  · cases hkq : kuralKarari d tx q with
    | ok x => exact ⟨x, rfl⟩
    | error f =>
      -- a rule that raises before the first match is before every match
      have hpatlar : KuralPatlar d tx q.1 q.2 := kuralPatlar_iff_kapsam.mpr ⟨hq, f, hkq⟩
      refine absurd ⟨⟨r.1, r.2, huyar⟩, fun id rule h => ⟨q.1, q.2, hpatlar, ?_⟩⟩ hkesilmez
      have hson := hilk id rule h
      unfold dahaOnce at *
      dsimp only at *
      omega
  · exact hilk q.1 q.2 (kuralUyar_iff_kapsam.mpr ⟨hq, hqkarar, hqgoal, huyar.hedef⟩) honce

end Order

section Run
variable {v : Surucu} {txId : ℕ} {tx : Transaction}

/-- What an evaluation leaves: the allocations of the selected rules, and refreshed goals if no rule raised. -/
theorem evaluate_current {s : Session GoalDb} (hislem : s.current.db.transactions.get? txId = some tx) {bagli : List ℕ}
    (hbagli : ∀ g, zatenBagli s.current g txId = true ↔ g ∈ bagli) :
    let secilen := secilenKurallar s.current tx (kapsamKurallari s.current tx) bagli
    Tazelenmis (tahsisleriEkle v txId tx secilen s.current) (evaluateRulesForTransaction v txId s).current ∧
      ((evaluateRulesForTransaction v txId s).current = tahsisleriEkle v txId tx secilen s.current ∨
        secilen ≠ [] ∧ ∀ r ∈ kapsamKurallari s.current tx, ∃ x, kuralKarari s.current tx r = .ok x) := by
  intro secilen
  obtain ⟨hcurrent, hson⟩ := @kurallariIsle_spec v s.current txId tx (kapsamKurallari s.current tx) s []
    bagli hbagli
  have hayni : Tazelenmis (tahsisleriEkle v txId tx secilen s.current) (tahsisleriEkle v txId tx secilen s.current) :=
    ⟨rfl, rfl, rfl, fun _ _ _ => rfl, fun _ h => h⟩
  simp only [evaluateRulesForTransaction, hislem]
  generalize kurallariIsle v s.current txId tx (kapsamKurallari s.current tx) s [] = p at hcurrent hson ⊢
  obtain ⟨s', cevap⟩ := p
  have hcurrent : s'.current = tahsisleriEkle v txId tx secilen s.current := hcurrent
  rcases hson with ⟨e, rfl⟩ | ⟨hok, rfl⟩
  · dsimp only
    rw [hcurrent]
    exact ⟨hayni, .inl rfl⟩
  · dsimp only
    refine ⟨hcurrent ▸ tazelenmis_hedefleriTazele _ s', ?_⟩
    by_cases hbos : secilen = []
    · have hliste : [] ++ (secilenKurallar s.current tx (kapsamKurallari s.current tx) bagli).map (fun r => r.2.goalId) =
          [] := by
        rw [show secilenKurallar s.current tx (kapsamKurallari s.current tx) bagli = [] from hbos]
        rfl
      rw [hliste]
      exact .inl hcurrent
    · exact .inr ⟨hbos, hok⟩

theorem kapsamKurallari_tazelenmis {d e : GoalDb} (h : Tazelenmis d e) : kapsamKurallari e tx = kapsamKurallari d tx := by
  simp only [kapsamKurallari, h.rules, h.kapsam]

/-- Refreshed goals can only stop their rules. -/
theorem kuralKarari_tazelenmis {d e : GoalDb} (h : Tazelenmis d e) {r : ℕ × GoalRule}
    (hk : kuralKarari e tx r = .ok true) : kuralKarari d tx r = .ok true := by
  rw [kuralKarari_eq_true] at hk ⊢
  exact ⟨h.aktif r.2 hk.1, h.db ▸ hk.2.1, hk.2.2⟩

theorem kuralKarari_tahsisleriEkle (rs : List (ℕ × GoalRule)) (d : GoalDb) :
    kuralKarari (tahsisleriEkle v txId tx rs d) tx = kuralKarari d tx ∧
      kapsamKurallari (tahsisleriEkle v txId tx rs d) tx = kapsamKurallari d tx := by
  obtain ⟨hdb, hgoals, hrules⟩ := @tahsisleriEkle_frame v txId tx rs d
  constructor
  · funext r
    simp only [kuralKarari, hedefAktif, hdb, hgoals]
    rfl
  · simp only [kapsamKurallari, hgoals, hrules]

/-- The goals that are linked to a transaction. -/
def bagliHedefler (d : GoalDb) (txId : ℕ) : List ℕ :=
  (d.allocations.select fun a => a.transactionId = txId).map fun r => r.2.goalId

theorem mem_bagliHedefler {d : GoalDb} {goalId : ℕ} : zatenBagli d goalId txId = true ↔ goalId ∈ bagliHedefler d txId := by
  simp only [zatenBagli, Table.any_eq_true, bagliHedefler, List.mem_map, Prod.exists, Table.mem_select,
    decide_eq_true_eq]
  constructor
  · rintro ⟨k, a, hk, rfl, rfl⟩
    exact ⟨k, a, ⟨hk, rfl⟩, rfl⟩
  · rintro ⟨k, a, ⟨hk, rfl⟩, rfl⟩
    exact ⟨k, a, hk, rfl, rfl⟩

theorem zatenBagli_tahsisleriEkle (rs : List (ℕ × GoalRule)) (d : GoalDb) (goalId : ℕ) :
    zatenBagli (tahsisleriEkle v txId tx rs d) goalId txId = true ↔
      zatenBagli d goalId txId = true ∨ goalId ∈ rs.map fun r => r.2.goalId := by
  induction rs generalizing d with
  | nil => simp [tahsisleriEkle]
  | cons r rs ih =>
    rw [tahsisleriEkle_cons, ih, zatenBagli_yeni, Bool.or_eq_true, decide_eq_true_iff, List.map_cons,
      List.mem_cons, or_assoc]
    have hilk : (kuralTahsisi v txId tx r).goalId = goalId ∧ (kuralTahsisi v txId tx r).transactionId = txId ↔
        goalId = r.2.goalId := ⟨fun h => h.1.symm, fun h => ⟨h.symm, rfl⟩⟩
    rw [hilk]

/-- The second evaluation of a transaction allots nothing. -/
theorem evaluate_again {s t : Session GoalDb} (hislem : s.current.db.transactions.get? txId = some tx)
    (ht : t.current = (evaluateRulesForTransaction v txId s).current) :
    (evaluateRulesForTransaction v txId t).current.allocations = t.current.allocations := by
  obtain ⟨htaze, hson⟩ := evaluate_current (v := v) hislem (fun _ => mem_bagliHedefler)
  set secilen := secilenKurallar s.current tx (kapsamKurallari s.current tx) (bagliHedefler s.current txId) with hsec
  rw [← ht] at htaze hson
  obtain ⟨hkarar, hkapsam⟩ := @kuralKarari_tahsisleriEkle v txId tx secilen s.current
  have hbagli (g : ℕ) : g ∈ bagliHedefler t.current txId ↔
      g ∈ bagliHedefler s.current txId ∨ g ∈ secilen.map fun r => r.2.goalId := by
    rw [← mem_bagliHedefler, ← mem_bagliHedefler, ← @zatenBagli_tahsisleriEkle v txId tx, zatenBagli,
      htaze.allocations]
    rfl
  have hislem' : t.current.db.transactions.get? txId = some tx := by
    rw [htaze.db, (tahsisleriEkle_frame secilen s.current).1]
    exact hislem
  have hbos : secilenKurallar t.current tx (kapsamKurallari t.current tx) (bagliHedefler t.current txId) = [] := by
    rcases hson with he | ⟨-, hok⟩
    · -- the same rules decide alike, and their goals are linked
      rw [he, secilenKurallar, hkarar, hkapsam, ← he]
      exact firstPerKey_again (fun k hk => (hbagli k).mpr (.inl hk))
        fun a ha => (hbagli _).mpr (.inr (List.mem_map_of_mem ha))
    · apply firstPerKey_eq_nil
      intro a ha hk
      rw [kapsamKurallari_tazelenmis htaze, hkapsam] at ha
      have hk := kuralKarari_tazelenmis htaze hk
      rw [hkarar] at hk
      have hkapsar : a.2.goalId ∈ bagliHedefler s.current txId ∨ a.2.goalId ∈ secilen.map fun r => r.2.goalId :=
        @firstPerKey_covers _ _ _ _ (kuralKarari s.current tx) (fun r => r.2.goalId) _ _ _ hok ha hk
      exact (hbagli _).mpr hkapsar
  have hikinci := (evaluate_current (v := v) hislem' (fun _ => mem_bagliHedefler)).1.allocations
  rw [hbos] at hikinci
  exact hikinci

/-- The first evaluation selects as it should where no goal is cut off by a rule that raises. -/
theorem tekTahsis_iff {s : Session GoalDb} (hislem : s.current.db.transactions.get? txId = some tx)
    (hbos : ∀ g, zatenBagli s.current g txId = false) :
    TekTahsis v txId tx s.current (evaluateRulesForTransaction v txId s).current ↔
      ∀ goalId goal, ¬ KesilenHedef s.current tx goalId goal := by
  have hbagli (g : ℕ) : zatenBagli s.current g txId = true ↔ g ∈ ([] : List ℕ) := by
    rw [hbos g]
    exact iff_of_false Bool.false_ne_true List.not_mem_nil
  have hallocs := (evaluate_current (v := v) hislem hbagli).1.allocations
  set d := s.current with hd
  set e := (evaluateRulesForTransaction v txId s).current with he
  set secilen := secilenKurallar d tx (kapsamKurallari d tx) [] with hsecilen
  have hgoal (g : ℕ) : islemTahsisleri e g txId =
      (secilen.filter fun r => r.2.goalId = g).map (kuralTahsisi v txId tx) := by
    have h := @islemTahsisleri_tahsisleriEkle v txId tx secilen d g
    rw [zatenBagli_eq_false.mp (hbos g), List.nil_append, islemTahsisleri, ← hallocs] at h
    exact h
  constructor
  · rintro htek goalId goal ⟨⟨id, rule, huyar⟩, hkesik⟩
    obtain ⟨id', rule', huyar', -, htahsis⟩ := htek.secilen goalId goal id rule huyar
    obtain ⟨id'', rule'', hpatlar, honce⟩ := hkesik id' rule' huyar'
    -- the allotment comes from a selected rule, and nothing before it raises
    obtain ⟨r, hr, hayni⟩ : ∃ r ∈ secilen, kuralTahsisi v txId tx r = kuralTahsisi v txId tx (id', rule') := by
      have hmem := htahsis.symm ▸ List.mem_singleton_self (kuralTahsisi v txId tx (id', rule'))
      rw [hgoal] at hmem
      obtain ⟨r, hr, hayni⟩ := List.mem_map.mp hmem
      exact ⟨r, (List.mem_filter.mp hr).1, hayni⟩
    have hid : r.1 = id' := Option.some.inj (congrArg GoalAllocation.ruleId hayni)
    have hrule : r.2 = rule' := by
      have hsome := (mem_kapsamKurallari.mp (mem_secilenKurallar.mp hr).1).1
      rw [hid, huyar'.kural] at hsome
      exact (Option.some.inj hsome).symm
    rw [← hid, ← hrule] at honce
    exact secilen_patlamaz hr hpatlar honce
  · intro hkesilmez
    constructor
    case eski =>
      intro k a hk
      rw [hallocs]
      exact tahsisleriEkle_eski _ d hk
    case yeni =>
      intro k a hk
      rw [hallocs] at hk
      exact tahsisleriEkle_yeni _ d hk
    case secilen =>
      intro goalId goal id rule huyar
      obtain ⟨hmem, hkarar, hgid, -⟩ := kuralUyar_iff_kapsam.mp huyar
      obtain ⟨r, hr, ⟨hrkarar, rfl⟩, hilk⟩ := exists_first dahaOnce_asymm kapsamKurallari_sirali
        (p := fun r => kuralKarari d tx r = .ok true ∧ r.2.goalId = goalId) hmem ⟨hkarar, hgid⟩
      have hruyar : KuralUyar d tx r.2.goalId goal r.1 r.2 :=
        kuralUyar_iff_kapsam.mpr ⟨hr, hrkarar, rfl, huyar.hedef⟩
      have hrilk : ∀ id'' rule'', KuralUyar d tx r.2.goalId goal id'' rule'' → ¬ dahaOnce (id'', rule'') r := by
        intro id'' rule'' h''
        obtain ⟨hmem'', hkarar'', hgid'', -⟩ := kuralUyar_iff_kapsam.mp h''
        exact hilk _ hmem'' ⟨hkarar'', hgid''⟩
      have htek : secilen.filter (fun q => q.2.goalId = r.2.goalId) = [r] :=
        filter_key_eq_singleton firstPerKey_keys.1 (secilen_of_ilk hruyar hrilk (hkesilmez _ goal))
      refine ⟨r.1, r.2, hruyar, hrilk, ?_⟩
      rw [hgoal, htek]
      rfl
    case uymayan =>
      intro goalId huymaz
      rw [hgoal, List.map_eq_nil_iff, List.filter_eq_nil_iff]
      intro r hr hgid
      obtain ⟨goal, huyar⟩ := secilen_uyar hr
      exact huymaz goal r.1 r.2 (of_decide_eq_true hgid ▸ huyar)

end Run

/-- A new transaction is allotted by the first matching rule of each goal exactly when none of them is cut off by a
rule that raises; the second evaluation changes no allocation. -/
theorem rule_selection_iff (v : Surucu) (txId : ℕ) (s : Session GoalDb) {tx : Transaction}
    (hislem : s.current.db.transactions.get? txId = some tx)
    (hbos : ∀ k a, s.current.allocations.get? k = some a → a.transactionId ≠ txId) :
    (TekTahsis v txId tx s.current (evaluateRulesForTransaction v txId s).current ↔
      ∀ goalId goal, ¬ KesilenHedef s.current tx goalId goal) ∧
    ∀ t : Session GoalDb, t.current = (evaluateRulesForTransaction v txId s).current →
      (evaluateRulesForTransaction v txId t).current.allocations = t.current.allocations := by
  refine ⟨tekTahsis_iff hislem fun g => ?_, fun t ht => evaluate_again hislem ht⟩
  by_contra hbagli
  obtain ⟨k, a, hk, hayni⟩ := Table.any_eq_true.mp (Bool.eq_true_of_not_eq_false hbagli)
  exact hbos k a hk (of_decide_eq_true hayni).2

def kuralGunu : Date := (Date.ofYmd? 2026 6 3).get rfl

def kuralGeliri : Transaction := ⟨1, none, some 1, .income, 100, none, none, kuralGunu, false⟩

def nakitHedefi : Goal := ⟨some 1, none, .cashTarget, 1000, none, .active, 0, 0⟩

/-- A rule for every income. -/
def gelirKurali (goalId : ℕ) : GoalRule :=
  ⟨goalId, 0, ⟨some (.str "income"), none, none, none, none, none⟩, .full, none, true⟩

/-- A rule whose least amount is no number. -/
def bozukKural : GoalRule := ⟨1, 0, ⟨none, some (.str "bin"), none, none, none, none⟩, .full, none, true⟩

def kuralDb (kurallar : List GoalRule) : GoalDb where
  db := Db.empty.writeAll [.transaction (.insert kuralGeliri)]
  goals := (Table.empty.push nakitHedefi).push nakitHedefi
  rules := kurallar.foldl Table.push .empty
  allocations := .empty

theorem rule_selection_iff_gelir :
    (TekTahsis ⟨false, id⟩ 1 kuralGeliri (kuralDb [gelirKurali 1, gelirKurali 2])
        (evaluateRulesForTransaction ⟨false, id⟩ 1 (.start (kuralDb [gelirKurali 1, gelirKurali 2]))).current ↔
      ∀ goalId goal, ¬ KesilenHedef (kuralDb [gelirKurali 1, gelirKurali 2]) kuralGeliri goalId goal) ∧
    ∀ t : Session GoalDb, t.current =
        (evaluateRulesForTransaction ⟨false, id⟩ 1 (.start (kuralDb [gelirKurali 1, gelirKurali 2]))).current →
      (evaluateRulesForTransaction ⟨false, id⟩ 1 t).current.allocations = t.current.allocations :=
  rule_selection_iff ⟨false, id⟩ 1 (.start (kuralDb [gelirKurali 1, gelirKurali 2])) rfl (fun k a h => by cases h)

/-- The first goal's rule raises, and the second goal, whose rule matches, gets nothing. -/
theorem rule_behind_a_broken_one_was_skipped :
    ¬ ∀ (v : Surucu) (txId : ℕ) (s : Session GoalDb) (tx : Transaction),
      s.current.db.transactions.get? txId = some tx →
      (∀ k a, s.current.allocations.get? k = some a → a.transactionId ≠ txId) →
        TekTahsis v txId tx s.current (evaluateRulesForTransaction v txId s).current := by
  intro h
  have hk := h ⟨false, id⟩ 1 (.start (kuralDb [bozukKural, gelirKurali 2])) kuralGeliri rfl (fun k a h => by cases h)
  have huyar : KuralUyar (kuralDb [bozukKural, gelirKurali 2]) kuralGeliri 2 nakitHedefi 2 (gelirKurali 2) :=
    ⟨rfl, by decide, rfl, rfl, rfl, rfl, by decide +kernel, by decide +kernel⟩
  obtain ⟨id', rule', -, -, htahsis⟩ := hk.secilen 2 nakitHedefi 2 (gelirKurali 2) huyar
  have hbos : islemTahsisleri
      (evaluateRulesForTransaction ⟨false, id⟩ 1 (.start (kuralDb [bozukKural, gelirKurali 2]))).current 2 1 = [] := by
    decide +kernel
  rw [hbos] at htahsis
  cases htahsis

end FinancialOs.Guarantees
