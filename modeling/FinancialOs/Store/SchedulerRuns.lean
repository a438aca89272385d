import FinancialOs.Library.RowCounts
import FinancialOs.Store.RevokedTokens
import Mathlib.Data.Finset.Max

/-! The ledger of the scheduled jobs, and the jobs that the application makes up for when it starts. Instants count
microseconds of UTC. -/
namespace FinancialOs.Store
open Library

structure SchedulerRun where
  jobName : String
  startedAt : ℤ
  finishedAt : Option ℤ
  ok : Option Bool
  detail : Option String
  deriving DecidableEq

/-- Where a write of the ledger breaks off: nowhere, before its commit, or right behind it. The error is swallowed. -/
inductive KayitArizasi where
  | yok | once | sonra
  deriving DecidableEq

/-- `_kayit_basla`; a key that cannot be read back behind the commit is not returned. -/
def kayitBasla (rows : Table SchedulerRun) (ariza : KayitArizasi) (bosluk : ℕ) (jobName : String) (simdi : ℤ) :
    Table SchedulerRun × Option ℕ :=
  let acilan := rows.pushAbove bosluk ⟨jobName, simdi, none, none, none⟩
  match ariza with
  | .yok => (acilan, some (rows.freshKey + bosluk))
  | .once => (rows, none)
  | .sonra => (acilan, none)

/-- How many rows of a job have a larger key. -/
def yeniKayitlar (rows : Table SchedulerRun) (jobName : String) (id : ℕ) : ℕ :=
  rows.count fun k r => r.jobName = jobName ∧ id < k

/-- The fifty newest rows of a job are left. -/
def kayitBuda (rows : Table SchedulerRun) (jobName : String) : Table SchedulerRun :=
  rows.retain fun k r => r.jobName ≠ jobName ∨ yeniKayitlar rows jobName k < 50

/-- The first commit of `_kayit_bitir`; `temizle` masks a text and cuts it off. -/
def kayitKapat (temizle : String → String) (rows : Table SchedulerRun) (id : ℕ) (ok : Bool) (detail : String)
    (simdi : ℤ) : Table SchedulerRun :=
  rows.modify id fun k => { k with
    finishedAt := some simdi
    ok := some ok
    detail := some (if detail = "" then "" else temizle detail) }

/-- `_kayit_bitir`. -/
def kayitBitir (temizle : String → String) (rows : Table SchedulerRun) (ariza : KayitArizasi) (kayitId : Option ℕ)
    (ok : Bool) (detail : String) (simdi : ℤ) : Table SchedulerRun :=
  match kayitId with
  | none => rows
  | some id =>
    match rows.get? id with
    | none => rows
    | some k =>
      match ariza with
      | .once => rows
      | .sonra => kayitKapat temizle rows id ok detail simdi
      | .yok => kayitBuda (kayitKapat temizle rows id ok detail simdi) k.jobName

structure PlanliIs where
  ad : String
  beklenenPeriyotSaat : ℕ
  deriving DecidableEq

/-- `PLANLI_ISLER`. -/
def planliIsler (isSqlite : Bool) : List PlanliIs :=
  [⟨"fetch_investment_prices", 24⟩, ⟨"nightly_batch", 24⟩] ++
    (if isSqlite then [⟨"sqlite_backup", 24⟩] else []) ++
    [⟨"k2_batch", 24⟩, ⟨"nightly_trace_cleanup", 24⟩, ⟨"weekly_smoke_test", 168⟩]

def PlanliIs.periyot (plan : PlanliIs) : ℤ := plan.beklenenPeriyotSaat * 3600 * saniye

/-- When the latest successful run of a job ended. -/
def sonOk (rows : Table SchedulerRun) (ad : String) : Option ℤ :=
  ((rows.rows.filter fun r => r.2.jobName = ad ∧ r.2.ok = some true).filterMap fun r => r.2.finishedAt).max?

def gecikti (rows : Table SchedulerRun) (simdi : ℤ) (plan : PlanliIs) : Bool :=
  (sonOk rows plan.ad).all fun son => plan.periyot < simdi - son

/-- The jobs that `kacirilan_isleri_telafi_et` runs, one after the other. -/
def telafiEdilecekler (rows : Table SchedulerRun) (simdi : ℤ) (planlar : List PlanliIs) : List PlanliIs :=
  planlar.filter (gecikti rows simdi)

section Lemmas
variable {rows : Table SchedulerRun} {simdi : ℤ} {plan : PlanliIs} {ad : String} {id i j : ℕ}

/-- A job is not overdue exactly if the ledger has a success within its period. -/
theorem gecikti_eq_false : gecikti rows simdi plan = false ↔ ∃ i r f, rows.get? i = some r ∧ r.jobName = plan.ad ∧
    r.ok = some true ∧ r.finishedAt = some f ∧ simdi - f ≤ plan.periyot := by
  have hmem : ∀ f, f ∈ (rows.rows.filter fun r => r.2.jobName = plan.ad ∧ r.2.ok = some true).filterMap
      (fun r => r.2.finishedAt) ↔ ∃ i r, rows.get? i = some r ∧ r.jobName = plan.ad ∧ r.ok = some true ∧
        r.finishedAt = some f := by
    intro f
    simp only [List.mem_filterMap, List.mem_filter, decide_eq_true_eq, Prod.exists, Table.get?_eq_some, and_assoc]
  rw [gecikti, sonOk]
  constructor
  · intro h
    cases hmax : ((rows.rows.filter fun r => r.2.jobName = plan.ad ∧ r.2.ok = some true).filterMap
        (fun r => r.2.finishedAt)).max? with
    | none =>
      rw [hmax] at h
      cases h
    | some f =>
      rw [hmax, Option.all_some, decide_eq_false_iff_not, not_lt] at h
      obtain ⟨i, r, hr, had, hok, hf⟩ := (hmem f).mp (List.max?_mem hmax)
      exact ⟨i, r, f, hr, had, hok, hf, h⟩
  · rintro ⟨i, r, f, hr, had, hok, hf, hle⟩
    have hf := (hmem f).mpr ⟨i, r, hr, had, hok, hf⟩
    cases hmax : ((rows.rows.filter fun r => r.2.jobName = plan.ad ∧ r.2.ok = some true).filterMap
        (fun r => r.2.finishedAt)).max? with
    | none =>
      rw [List.max?_eq_none_iff] at hmax
      rw [hmax] at hf
      cases hf
    | some g =>
      have hge : f ≤ g := (List.max?_eq_some_iff.mp hmax).2 f hf
      rw [Option.all_some, decide_eq_false_iff_not, not_lt]
      omega

section Closing
variable {temizle : String → String} {ariza : KayitArizasi} {ok : Bool} {detail : String} {r : SchedulerRun}

theorem kayitBitir_silinmis (h : rows.get? id = none) :
    kayitBitir temizle rows ariza (some id) ok detail simdi = rows := by
  simp only [kayitBitir, h]

theorem kayitBitir_once (h : rows.get? id = some r) :
    kayitBitir temizle rows .once (some id) ok detail simdi = rows := by
  simp only [kayitBitir, h]

theorem kayitBitir_sonra (h : rows.get? id = some r) : kayitBitir temizle rows .sonra (some id) ok detail simdi =
    kayitKapat temizle rows id ok detail simdi := by
  simp only [kayitBitir, h]

theorem kayitBitir_yok (h : rows.get? id = some r) : kayitBitir temizle rows .yok (some id) ok detail simdi =
    kayitBuda (kayitKapat temizle rows id ok detail simdi) r.jobName := by
  simp only [kayitBitir, h]

end Closing

theorem yeniKayitlar_le {rows' : Table SchedulerRun} (h : rows'.rows.Sublist rows.rows) :
    yeniKayitlar rows' ad id ≤ yeniKayitlar rows ad id :=
  (h.filter _).length_le

theorem get?_of_sublist {rows' : Table SchedulerRun} {r : SchedulerRun} (h : rows'.rows.Sublist rows.rows)
    (hr : rows'.get? i = some r) : rows.get? i = some r :=
  Table.get?_eq_some.mpr (h.subset (Table.get?_eq_some.mp hr))

theorem yeniKayitlar_kayitKapat {temizle : String → String} {ok : Bool} {detail : String} :
    yeniKayitlar (kayitKapat temizle rows j ok detail simdi) ad id = yeniKayitlar rows ad id := by
  rw [yeniKayitlar, yeniKayitlar, Table.count, Table.count, kayitKapat, Table.modify, List.filter_map, List.length_map]
  congr 2
  funext r
  by_cases hr : r.1 = j <;> simp [hr]

/-- The row with the largest key. -/
theorem exists_sonKayit {r : SchedulerRun} (h : rows.get? j = some r) :
    ∃ m a, rows.get? m = some a ∧ ∀ i b, rows.get? i = some b → i ≤ m := by
  have hkey : ∀ {i : ℕ} {b : SchedulerRun}, rows.get? i = some b → i ∈ (rows.rows.map Prod.fst).toFinset := by
    intro i b hb
    exact List.mem_toFinset.mpr (List.mem_map.mpr ⟨(i, b), Table.get?_eq_some.mp hb, rfl⟩)
  have hne : (rows.rows.map Prod.fst).toFinset.Nonempty := ⟨j, hkey h⟩
  obtain ⟨⟨m, a⟩, hm, hmax⟩ := List.mem_map.mp (List.mem_toFinset.mp (Finset.max'_mem _ hne))
  refine ⟨m, a, Table.get?_eq_some.mpr hm, fun i b hb => ?_⟩
  have hmax : m = (rows.rows.map Prod.fst).toFinset.max' hne := hmax
  rw [hmax]
  exact Finset.le_max' _ i (hkey hb)

theorem yeniKayitlar_sonKayit (h : ∀ i b, rows.get? i = some b → i ≤ j) : yeniKayitlar rows ad j = 0 := by
  rw [yeniKayitlar, Table.count, List.length_eq_zero_iff, List.filter_eq_nil_iff]
  intro r hr
  have hle := h r.1 r.2 (Table.get?_eq_some.mpr hr)
  simp only [decide_eq_true_eq, not_and, not_lt]
  exact fun _ => hle

end Lemmas

end FinancialOs.Store
