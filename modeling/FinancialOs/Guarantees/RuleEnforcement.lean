import FinancialOs.Library.TransitionRuns
import FinancialOs.Routers.Checkpoints
import Mathlib.Algebra.Order.Archimedean.Basic
import Mathlib.Tactic.Linarith

/-! Structured rules the engine can read. What a creation checks and what an evaluator accepts are
not the same, and an update checks nothing; a rule that an evaluator cannot read objects to nothing. -/
namespace FinancialOs.Guarantees
open Library Store Rules Routers

/-- What an evaluator is handed; broken text never reaches it. -/
def kuralParametreleri : Option JsonText → Option Payload
  | none => some []
  | some (.object p) => some p
  | some .broken => none
  | some .otherValue => none

/-- `D(value) > 0`. -/
def pozitifPara (v : PyValue) : Bool :=
  match paraD v with
  | .ok taban => PyFloat.lt (.finite 0) taban = .ok true
  | .error _ => false

/-- The evaluator of the type reads the positive parameter it needs. -/
def okunur : RuleType → Option JsonText → Bool
  | .minCashFloor, s | .maxSingleExpense, s =>
    (kuralParametreleri s).any (fun p => pozitifPara (p.getD .amount (.int 0)))
  | .accountUntouchable, s => (kuralParametreleri s).any (fun p => (p.get .accountId).asInstanceInt.isSome)
  | .unknown _, _ => false

/-- Every active structured rule is readable. -/
def KurallarOkunur (db : Db) : Prop :=
  ∀ id cp, db.checkpoints.get? id = some cp → cp.isActive = true →
    cp.ruleType.all (okunur · cp.ruleParams) = true

inductive CheckpointTalebi where
  | olustur (istek : Istek) (payload : CheckpointCreate)
  | guncelle (istek : Istek) (cpId : ℤ) (payload : CheckpointUpdate)
  | sil (istek : Istek) (cpId : ℤ) (hard : Bool)

def checkpointAdimi (isSystem : ℕ → Bool) (db : Db) : CheckpointTalebi → Db
  | .olustur istek payload => sonuc db (createCheckpoint istek payload)
  | .guncelle istek cpId payload => sonuc db (updateCheckpoint db istek cpId payload)
  | .sil istek cpId hard => sonuc db (deleteCheckpoint isSystem db istek cpId hard)

/-- The two parameters that a creation takes for a positive number and no evaluator does: a
fractional account id, and NaN. -/
def okunmazParametre (ruleType : String) (params : Payload) : Bool :=
  match RuleType.ofName ruleType with
  | .accountUntouchable => (params.lookup .accountId).any (fun v => v.asInstanceInt.isNone)
  | .minCashFloor | .maxSingleExpense => params.lookup .amount = some (.float .nan)
  | .unknown _ => false

/-- An update that is carried out on the row, apart from nulls in required columns. -/
def guncellenir (payload : CheckpointUpdate) (cp : MasterCheckpoint) : Bool :=
  payload.uygun && !(kirmiziCizgi cp && (payload.priority.isSome || payload.checkpointType.isSome)) &&
    payload.title ≠ some none && payload.description ≠ some none && payload.checkpointType ≠ some none &&
    payload.priority ≠ some none && payload.isActive ≠ some none

/-- The type and the parameters an update leaves together, sent or stored, fit each other. -/
def birlikteOkunur (payload : CheckpointUpdate) (cp : MasterCheckpoint) : Bool :=
  ((payload.ruleType.map (Option.map RuleType.ofName)).getD cp.ruleType).all
    (okunur · ((payload.ruleParams.map (Option.map JsonText.object)).getD cp.ruleParams))

/-- A creation with a parameter its evaluator reads, and an update that leaves an active row with a
type and parameters that fit each other. -/
def kuralKorunur (db : Db) : CheckpointTalebi → Bool
  | .olustur _ payload =>
    !(payload.uygun && payload.isActive) ||
      !payload.ruleType.any (okunmazParametre · (payload.ruleParams.getD []))
  | .guncelle istek cpId payload =>
    match findById db.checkpoints istek.userId istek.wsId (.int cpId) with
    | .ok (some (_, cp)) =>
      !(guncellenir payload cp && payload.isActive.join.getD cp.isActive) || birlikteOkunur payload cp
    | _ => true
  | .sil _ _ _ => true

section Evaluators
variable {db : Db} {userId : ℕ} {workspaceId : Option ℕ} {actionType : ActionType}
variable {payload : Option Payload} {kural : MasterCheckpoint} {params : Option Payload} {aciklama : String}

private theorem taban_pozitif {v : PyValue} {taban : PyFloat} (hd : paraD v = .ok taban)
    (h : PyFloat.lt (.finite 0) taban = .ok true) : pozitifPara v = true := by
  simp only [pozitifPara, hd, h, decide_true]

theorem minCashFloor_itiraz
    (h : minCashFloor db userId workspaceId actionType payload params = .ok (some aciklama)) :
    ∃ p, params = some p ∧ pozitifPara (p.getD .amount (.int 0)) = true := by
  simp only [minCashFloor, bind_eq_ok] at h
  obtain ⟨deger, hdeger, taban, htaban, var, hvar, h⟩ := h
  cases params with
  | none => cases hdeger
  | some p =>
    cases hdeger
    cases var with
    | false => cases h
    | true => exact ⟨p, rfl, taban_pozitif htaban hvar⟩

theorem maxSingleExpense_itiraz
    (h : maxSingleExpense db userId workspaceId actionType payload params = .ok (some aciklama)) :
    ∃ p, params = some p ∧ pozitifPara (p.getD .amount (.int 0)) = true := by
  simp only [maxSingleExpense, bind_eq_ok] at h
  obtain ⟨deger, hdeger, tavan, htavan, var, hvar, h⟩ := h
  cases params with
  | none => cases hdeger
  | some p =>
    cases hdeger
    cases var with
    | false => cases h
    | true => exact ⟨p, rfl, taban_pozitif htavan hvar⟩

theorem accountUntouchable_itiraz
    (h : accountUntouchable db userId workspaceId actionType payload params = .ok (some aciklama)) :
    ∃ p, params = some p ∧ (p.get .accountId).asInstanceInt.isSome = true := by
  simp only [accountUntouchable, bind_eq_ok] at h
  obtain ⟨korunan, hkorunan, h⟩ := h
  cases params with
  | none => cases hkorunan
  | some p =>
    cases hkorunan
    cases hid : (p.get .accountId).asInstanceInt with
    | none => simp [hid] at h
    | some id => exact ⟨p, rfl, by simp [hid]⟩

private theorem any_of_verilen {s : Option JsonText} {params : Option Payload} {P : Payload → Bool}
    (hp : ∃ p, params = some p ∧ P p = true) (hs : params = kuralParametreleri s ∨ params = none) :
    (kuralParametreleri s).any P = true := by
  obtain ⟨p, rfl, hp⟩ := hp
  rcases hs with hs | hs
  · rw [← hs]
    exact hp
  · cases hs

/-- Only a readable rule ever objects to an action. -/
theorem okunur_of_itiraz
    (h : degerlendir db userId workspaceId actionType payload kural = .ok (some aciklama)) :
    ∃ t, kural.ruleType = some t ∧ okunur t kural.ruleParams = true := by
  unfold degerlendir at h
  rcases ht : kural.ruleType with _ | t
  · simp [ht] at h
  · refine ⟨t, rfl, ?_⟩
    rcases hs : kural.ruleParams with _ | _ | p | _ <;> cases t <;> simp only [ht, hs] at h
    all_goals simp only [okunur]
    all_goals first
      | cases h
      | exact any_of_verilen (minCashFloor_itiraz h) (by simp [kuralParametreleri])
      | exact any_of_verilen (accountUntouchable_itiraz h) (by simp [kuralParametreleri])
      | exact any_of_verilen (maxSingleExpense_itiraz h) (by simp [kuralParametreleri])

/-- The payload of an expense. -/
def harcamaPayloadu (tutar : ℤ) : Payload := [(.transactionType, .str "expense"), (.amount, .int tutar)]

private theorem pozitifPara_iff {v : PyValue} :
    pozitifPara v = true ↔ ∃ taban, paraD v = .ok taban ∧ PyFloat.lt (.finite 0) taban = .ok true := by
  unfold pozitifPara
  cases h : paraD v with
  | error e => simp
  | ok taban => simp

private theorem lt_of_pozitif {taban : PyFloat} {q : ℚ} (hq : q < 0)
    (h : PyFloat.lt (.finite 0) taban = .ok true) : PyFloat.lt (.finite q) taban = .ok true := by
  cases taban with
  | finite r =>
    simp only [PyFloat.lt, Except.ok.injEq, decide_eq_true_eq] at h ⊢
    exact hq.trans h
  | infinite negative => exact h
  | nan => cases h

private theorem harcama_tip (n : ℤ) :
    alan (some (harcamaPayloadu n)) .transactionType = .ok (.str "expense") := rfl

private theorem harcama_tutar (n : ℤ) :
    paraD (Payload.getD (harcamaPayloadu n) .amount (.int 0)) = .ok (.finite n) := rfl

private theorem harcamaTutari_nat (n : ℕ) :
    harcamaTutari .addTransaction (some (harcamaPayloadu n)) = .ok (.finite n) := by
  have habs : |((n : ℤ) : ℚ)| = n := by
    rw [Int.cast_natCast]
    exact abs_of_nonneg (Nat.cast_nonneg n)
  rw [← habs]
  rfl

/-- A readable floor stops an expense that is large enough. -/
theorem minCashFloor_engeller {p : Payload} (hp : pozitifPara (p.getD .amount (.int 0)) = true) :
    ∃ tutar aciklama, minCashFloor db userId workspaceId .addTransaction (some (harcamaPayloadu tutar))
      (some p) = .ok (some aciklama) := by
  obtain ⟨taban, htaban, hpos⟩ := pozitifPara_iff.mp hp
  obtain ⟨n, hn⟩ := exists_nat_gt (max 0 (nakitToplami db userId workspaceId))
  obtain ⟨hn, hnakit⟩ := max_lt_iff.mp hn
  have hlt : PyFloat.lt ((PyFloat.finite n).subFrom (nakitToplami db userId workspaceId)) taban = .ok true :=
    lt_of_pozitif (sub_neg.mpr hnakit) hpos
  have hcikis : PyFloat.lt (.finite 0) (.finite (n : ℚ)) = .ok true := by
    simp only [PyFloat.lt, hn, decide_true]
  refine ⟨n, ?_⟩
  simp only [minCashFloor, alanYaSifir, bind, Except.bind, htaban, hpos, harcamaTutari_nat, hcikis,
    hlt, Bool.not_true, Bool.false_eq_true, if_false, if_true]
  exact ⟨_, rfl⟩

/-- A readable finite ceiling stops an expense above it. -/
theorem maxSingleExpense_engeller {p : Payload} {tavan : ℚ}
    (hp : paraD (p.getD .amount (.int 0)) = .ok (.finite tavan)) (hpos : 0 < tavan) :
    ∃ tutar aciklama, maxSingleExpense db userId workspaceId .addTransaction (some (harcamaPayloadu tutar))
      (some p) = .ok (some aciklama) := by
  obtain ⟨n, hn⟩ := exists_nat_gt tavan
  have habs : |((n : ℤ) : ℚ)| = n := by
    rw [Int.cast_natCast]
    exact abs_of_nonneg (Nat.cast_nonneg n)
  have hvar : PyFloat.lt (.finite 0) (.finite tavan) = .ok true := by simp only [PyFloat.lt, hpos, decide_true]
  have hasti : PyFloat.lt (.finite tavan) (.finite |((n : ℤ) : ℚ)|) = .ok true := by
    simp only [PyFloat.lt, habs, hn, decide_true]
  refine ⟨n, ?_⟩
  simp only [maxSingleExpense, alanYaSifir, bind, Except.bind, hp, hvar, harcama_tip, harcama_tutar,
    PyFloat.abs, hasti, Bool.not_true, Bool.false_eq_true, ne_eq, not_true_eq_false, or_self, if_false,
    if_true]
  exact ⟨_, rfl⟩

/-- A readable account id, as the driver can bind it, stops an action on that account. -/
theorem accountUntouchable_engeller {p : Payload} {id : ℤ}
    (hp : (p.get .accountId).asInstanceInt = some id) (hid : id.natAbs < 2 ^ 63) :
    ∃ aciklama, accountUntouchable db userId workspaceId actionType (some [(.accountId, .int id)]) (some p) =
      .ok (some aciklama) := by
  have hkey : ∃ k, primaryKey (p.get .accountId) = .ok k := by
    cases hv : p.get .accountId with
    | bool b => exact ⟨_, rfl⟩
    | int n =>
      rw [hv] at hp
      cases hp
      exact ⟨_, if_neg (not_le.mpr hid)⟩
    | _ => simp [hv, PyValue.asInstanceInt] at hp
  obtain ⟨k, hk⟩ := hkey
  have hf : ∃ hesap, findById db.accounts userId workspaceId (p.get .accountId) = .ok hesap := by
    unfold findById
    rw [hk]
    cases k with
    | none => exact ⟨_, rfl⟩
    | some k => exact ⟨_, rfl⟩
  obtain ⟨hesap, hf⟩ := hf
  have hetkilenen : etkilenenHesapId (some [(.accountId, .int id)]) = .ok (some id) := rfl
  simp only [accountUntouchable, alan, bind, Except.bind, hp, hetkilenen, if_true, hf]
  exact ⟨_, rfl⟩

end Evaluators

section Steps
variable {isSystem : ℕ → Bool} {db : Db} {istek : Istek} {cpId : ℤ}

/-- One checkpoint change, which no flush refuses. -/
private theorem sonuc_checkpoint (c : Table.Change MasterCheckpoint) :
    sonuc db (.ok [.checkpoint c]) = { db with checkpoints := db.checkpoints.change c } := by
  refine sonuc_of_flush fun w hw => ?_
  rw [List.mem_singleton.mp hw]
  rfl

private theorem okunur_tutar {t : RuleType} (ht : gerekliParametre t = some .amount) {params : Option Payload} :
    okunur t (params.map .object) = pozitifPara (Payload.getD (params.getD []) .amount (.int 0)) := by
  cases params <;> cases t <;> first | rfl | cases ht

private theorem okunur_hesap {params : Option Payload} :
    okunur .accountUntouchable (params.map .object) =
      (Payload.get (params.getD []) .accountId).asInstanceInt.isSome := by
  cases params <;> rfl

private theorem pozitifPara_of_sayi {p : Payload} (h : pozitifSayi (p.lookup .amount) = true) :
    pozitifPara (p.getD .amount (.int 0)) = !decide (p.lookup .amount = some (.float .nan)) := by
  unfold Payload.getD
  cases hv : p.lookup .amount with
  | none => simp [hv, pozitifSayi] at h
  | some v =>
    rw [hv] at h
    cases v with
    | int n =>
      have hn : (0 : ℚ) < n := by exact_mod_cast of_decide_eq_true h
      simp [pozitifPara, paraD, PyValue.toDecimal, PyFloat.lt, hn]
    | float x =>
      cases x with
      | finite q =>
        have hq : 0 < q := by simpa [pozitifSayi, PyFloat.nonpos] using h
        simp [pozitifPara, paraD, PyValue.toDecimal, PyFloat.lt, hq]
      | infinite negative =>
        have hpos : negative = false := by simpa [pozitifSayi, PyFloat.nonpos] using h
        simp [pozitifPara, paraD, PyValue.toDecimal, PyFloat.lt, hpos]
      | nan => rfl
    | _ => cases h

private theorem hesap_of_sayi {p : Payload} (h : pozitifSayi (p.lookup .accountId) = true) :
    (p.get .accountId).asInstanceInt.isSome =
      !(p.lookup .accountId).any (fun v => v.asInstanceInt.isNone) := by
  unfold Payload.get
  cases hv : p.lookup .accountId with
  | none => simp [hv, pozitifSayi] at h
  | some v =>
    rw [Option.getD_some, Option.any_some]
    cases v.asInstanceInt <;> rfl

/-- What a creation lets through is readable, but for the two parameters it misjudges. -/
theorem okunur_of_tutarli {ad : String} {params : Option Payload} (h : kuralTutarli (some ad) params = true) :
    okunur (RuleType.ofName ad) (params.map .object) = !okunmazParametre ad (params.getD []) := by
  unfold okunmazParametre
  simp only [kuralTutarli] at h
  cases ht : RuleType.ofName ad with
  | minCashFloor =>
    rw [ht] at h
    rw [okunur_tutar rfl]
    exact pozitifPara_of_sayi h
  | maxSingleExpense =>
    rw [ht] at h
    rw [okunur_tutar rfl]
    exact pozitifPara_of_sayi h
  | accountUntouchable =>
    rw [ht] at h
    rw [okunur_hesap]
    exact hesap_of_sayi h
  | unknown name =>
    rw [ht] at h
    cases h

private theorem kurallar_insert {cp : MasterCheckpoint} (hdb : KurallarOkunur db) :
    KurallarOkunur { db with checkpoints := db.checkpoints.change (.insert cp) } ↔
      (cp.isActive = true → cp.ruleType.all (okunur · cp.ruleParams) = true) := by
  constructor
  · intro h hactive
    exact h db.checkpoints.freshKey cp (by simp [Table.change]) hactive
  · intro h id c hc hactive
    simp only [Table.change, Table.get?_push] at hc
    split at hc
    · obtain rfl := Option.some.inj hc
      exact h hactive
    · exact hdb id c hc hactive

private theorem kurallar_update {id : ℕ} {cp yeni : MasterCheckpoint} (hdb : KurallarOkunur db)
    (hcp : db.checkpoints.get? id = some cp) :
    KurallarOkunur { db with checkpoints := db.checkpoints.change (.update id (fun _ => yeni)) } ↔
      (yeni.isActive = true → yeni.ruleType.all (okunur · yeni.ruleParams) = true) := by
  constructor
  · intro h hactive
    exact h id yeni (by simp [Table.change, hcp]) hactive
  · intro h j c hc hactive
    simp only [Table.change, Table.get?_modify] at hc
    split at hc
    · next hj =>
      rw [hj, hcp] at hc
      obtain rfl := Option.some.inj hc
      exact h hactive
    · exact hdb j c hc hactive

private theorem kurallar_olustur {payload : CheckpointCreate} (hdb : KurallarOkunur db) :
    KurallarOkunur (sonuc db (createCheckpoint istek payload)) ↔
      kuralKorunur db (.olustur istek payload) = true := by
  cases hu : payload.uygun with
  | false =>
    have hred : createCheckpoint istek payload = .error .sema := by simp [createCheckpoint, stopIf, hu, bind, Except.bind]
    simp [hred, sonuc, hdb, kuralKorunur, hu]
  | true =>
    have htutarli : kuralTutarli payload.ruleType payload.ruleParams = true := by
      simp only [CheckpointCreate.uygun, Bool.and_eq_true] at hu
      exact hu.2
    rw [createCheckpoint_ok.mpr ⟨hu, rfl⟩, sonuc_checkpoint, kurallar_insert hdb]
    simp only [kuralKorunur, hu, yeniCheckpoint, Bool.true_and]
    cases hactive : payload.isActive with
    | false => simp
    | true =>
      cases hrt : payload.ruleType with
      | none => simp
      | some ad =>
        rw [hrt] at htutarli
        simp [okunur_of_tutarli htutarli]

private theorem guncellenir_iff {payload : CheckpointUpdate} {cp : MasterCheckpoint} :
    guncellenir payload cp = true ↔ payload.uygun = true ∧
      ¬ (kirmiziCizgi cp = true ∧ (payload.priority.isSome = true ∨ payload.checkpointType.isSome = true)) ∧
      ∃ yeni, payload.yaz cp = .ok yeni := by
  have hz {α : Type} (o : Option (Option α)) (a : α) : o ≠ some none ↔ ∃ b, Routers.zorunlu o a = .ok b := by
    rcases o with _ | _ | b <;> simp [Routers.zorunlu]
  simp only [guncellenir, CheckpointUpdate.yaz, Bool.and_eq_true, decide_eq_true_eq, Bool.not_eq_true',
    Bool.and_eq_false_iff, Bool.or_eq_false_iff, hz payload.title cp.title, hz payload.description cp.description,
    hz payload.checkpointType cp.checkpointType, hz payload.priority cp.priority,
    hz payload.isActive cp.isActive, bind_eq_ok, pure_eq_ok]
  constructor
  · rintro ⟨⟨⟨⟨⟨⟨hu, hk⟩, a, ha⟩, b, hb⟩, c, hc⟩, d, hd⟩, e, he⟩
    refine ⟨hu, ?_, _, a, ha, b, hb, c, hc, d, hd, e, he, rfl⟩
    rintro ⟨hcizgi, hsent⟩
    rcases hk with hk | ⟨hp, hc⟩
    · simp [hk] at hcizgi
    · simp [hp, hc] at hsent
  · rintro ⟨hu, hk, _, a, ha, b, hb, c, hc, d, hd, e, he, _⟩
    refine ⟨⟨⟨⟨⟨⟨hu, ?_⟩, a, ha⟩, b, hb⟩, c, hc⟩, d, hd⟩, e, he⟩
    cases hcizgi : kirmiziCizgi cp with
    | false => exact .inl rfl
    | true =>
      simp only [hcizgi, true_and, not_or, Bool.not_eq_true] at hk
      exact .inr hk

private theorem kurallar_guncelle {payload : CheckpointUpdate} (hdb : KurallarOkunur db) :
    KurallarOkunur (sonuc db (updateCheckpoint db istek cpId payload)) ↔
      kuralKorunur db (.guncelle istek cpId payload) = true := by
  cases hr : updateCheckpoint db istek cpId payload with
  | error e =>
    simp only [sonuc, hdb, true_iff, kuralKorunur]
    split
    · next id cp hf =>
      have hn : guncellenir payload cp = false := by
        by_contra hg
        obtain ⟨hu, hk, yeni, hy⟩ := guncellenir_iff.mp (by simpa using hg)
        rw [updateCheckpoint_ok.mpr ⟨hu, id, cp, yeni, hf, hk, hy, rfl⟩] at hr
        cases hr
      simp [hn]
    · rfl
  | ok ws =>
    obtain ⟨hu, id, cp, yeni, hf, hk, hy, rfl⟩ := updateCheckpoint_ok.mp hr
    have hg : guncellenir payload cp = true := guncellenir_iff.mpr ⟨hu, hk, yeni, hy⟩
    obtain ⟨haktif, htip, hparam⟩ := CheckpointUpdate.yaz_ok hy
    have haktif' : payload.isActive.join.getD cp.isActive = yeni.isActive := by
      rcases hi : payload.isActive with _ | _ | b <;> simp [hi, Routers.zorunlu] at haktif ⊢ <;> exact haktif
    rw [sonuc_checkpoint, kurallar_update hdb (findById_eq_some.mp hf).2.1]
    simp only [kuralKorunur, hf, hg, haktif', birlikteOkunur, htip, hparam, Bool.true_and]
    cases yeni.isActive <;> simp

private theorem kurallar_sil {hard : Bool} (hdb : KurallarOkunur db) :
    KurallarOkunur (sonuc db (deleteCheckpoint isSystem db istek cpId hard)) := by
  cases hr : deleteCheckpoint isSystem db istek cpId hard with
  | error e => exact hdb
  | ok ws =>
    obtain ⟨id, rfl | rfl⟩ := deleteCheckpoint_ok hr
    · rw [sonuc_checkpoint]
      intro j c hc hactive
      simp only [Table.change, Table.get?_erase] at hc
      split at hc
      · cases hc
      · exact hdb j c hc hactive
    · rw [sonuc_checkpoint]
      intro j c hc hactive
      simp only [Table.change, Table.get?_modify] at hc
      split at hc
      · obtain ⟨d, _, rfl⟩ := Option.map_eq_some_iff.mp hc
        cases hactive
      · exact hdb j c hc hactive

/-- One request keeps the rules readable exactly when it meets its condition. -/
theorem kurallar_adim (talep : CheckpointTalebi) (hdb : KurallarOkunur db) :
    KurallarOkunur (checkpointAdimi isSystem db talep) ↔ kuralKorunur db talep = true := by
  cases talep with
  | olustur istek payload => exact kurallar_olustur hdb
  | guncelle istek cpId payload => exact kurallar_guncelle hdb
  | sil istek cpId hard => exact iff_of_true (kurallar_sil hdb) rfl

end Steps

/-- The structured rules are readable in every state of a run exactly when each of its requests
creates a rule its evaluator reads and updates no active row to one it does not. -/
theorem rules_stay_readable (isSystem : ℕ → Bool) (db : Db) (hdb : KurallarOkunur db)
    (talepler : List CheckpointTalebi) :
    (∀ n, KurallarOkunur (run (checkpointAdimi isSystem) db (talepler.take n))) ↔
      StepsMeet (checkpointAdimi isSystem) (fun db talep => kuralKorunur db talep = true) db talepler :=
  prefixes_iff_stepsMeet (fun _ _ (h : True) => h) (fun _ talep _ hs => kurallar_adim talep hs) trivial hdb
    talepler

/-- A floor under the cash. -/
def tabanKurali : CheckpointCreate := {
  title := "Acil fon"
  description := "Nakit 5000 altına inmesin"
  checkpointType := .redLine
  priority := 1
  isActive := true
  ruleType := some "min_cash_floor"
  ruleParams := some [(.amount, .int 5000)] }

/-- The rule becomes one about an account. -/
def hesapKuralinaCevir (ruleParams : Option (Option Payload)) : CheckpointUpdate := {
  title := none
  description := none
  checkpointType := none
  priority := none
  isActive := none
  ruleType := some (some "account_untouchable")
  ruleParams := ruleParams }

def kuralIstegi : Istek := ⟨1, some 1, (Date.ofYmd? 2026 5 12).get rfl⟩

private theorem kurallar_bos : KurallarOkunur Db.empty := by
  intro id cp h
  cases h

/-- A type and its parameters that are sent together stay readable. -/
theorem rules_stay_readable_together :
    KurallarOkunur Db.empty ∧
      ∀ n, KurallarOkunur (run (checkpointAdimi (fun _ => false)) Db.empty
        (List.take n [.olustur kuralIstegi tabanKurali,
          .guncelle kuralIstegi 1 (hesapKuralinaCevir (some (some [(.accountId, .int 3)])))])) :=
  ⟨kurallar_bos, (rules_stay_readable _ _ kurallar_bos _).mpr (by decide +kernel)⟩

/-- A type that is sent alone meets the parameters of the old one. -/
theorem rules_unreadable_type_alone :
    ¬ ∀ (isSystem : ℕ → Bool) (talepler : List CheckpointTalebi),
      KurallarOkunur (run (checkpointAdimi isSystem) Db.empty talepler) := by
  intro h
  have hrun := h (fun _ => false)
    [.olustur kuralIstegi tabanKurali, .guncelle kuralIstegi 1 (hesapKuralinaCevir none)] 1
  have hrow : ∃ cp, (run (checkpointAdimi (fun _ => false)) Db.empty [.olustur kuralIstegi tabanKurali,
      .guncelle kuralIstegi 1 (hesapKuralinaCevir none)]).checkpoints.get? 1 = some cp ∧
      cp.isActive = true ∧ cp.ruleType.all (okunur · cp.ruleParams) = false := ⟨_, rfl, rfl, by decide +kernel⟩
  obtain ⟨cp, hcp, hactive, hread⟩ := hrow
  rw [hrun cp hcp hactive] at hread
  cases hread

end FinancialOs.Guarantees
