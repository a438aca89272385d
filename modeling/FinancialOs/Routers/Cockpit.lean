import FinancialOs.Library.CalendarDates
import FinancialOs.Library.CheckedSteps
import FinancialOs.Library.KeyedTable

/-! The daily net worth snapshots: each cockpit request keeps the one of its workspace and day, the
backfill the one of its user and day. -/
namespace FinancialOs.Routers
open Library

structure SnapshotDegerleri where
  netWorthSeen : ℚ
  netWorthFull : ℚ
  cash : ℚ
  cardDebt : ℚ
  loanDebt : ℚ
  investmentValue : ℚ
  receivables : ℚ
  deriving DecidableEq

structure NetWorthSnapshot where
  userId : ℕ
  workspaceId : Option ℕ
  snapshotDate : Date
  degerler : SnapshotDegerleri
  deriving DecidableEq

/-- The figures of a cockpit that the snapshot keeps. -/
structure KokpitOzeti where
  netDeger : ℚ
  netDegerTam : ℚ
  nakitKasa : ℚ
  kartBorcu : ℚ
  krediBorcu : ℚ
  yatirimDeger : ℚ
  alacaklarToplami : ℚ

def KokpitOzeti.degerler (cockpit : KokpitOzeti) : SnapshotDegerleri where
  netWorthSeen := cockpit.netDeger
  netWorthFull := cockpit.netDegerTam
  cash := cockpit.nakitKasa
  cardDebt := cockpit.kartBorcu
  loanDebt := cockpit.krediBorcu
  investmentValue := cockpit.yatirimDeger
  receivables := cockpit.alacaklarToplami

inductive SnapshotHatasi where
  | integrityError
  deriving DecidableEq

/-- An insert under `UNIQUE (user_id, snapshot_date)`. -/
def snapshotEkle (t : Table NetWorthSnapshot) (row : NetWorthSnapshot) :
    Except SnapshotHatasi (Table NetWorthSnapshot) :=
  if t.any (fun a => a.userId = row.userId ∧ a.snapshotDate = row.snapshotDate) then .error .integrityError
  else .ok (t.push row)

/-- The row of the workspace and day, or of the user and day where there is no workspace. -/
def bugunkuKayit (userId : ℕ) (workspaceId : Option ℕ) (today : Date) (a : NetWorthSnapshot) : Bool :=
  decide (a.snapshotDate = today) && match workspaceId with
    | some ws => decide (a.workspaceId = some ws)
    | none => decide (a.userId = userId)

/-- `_ensure_today_snapshot`; the rows are as they were when it looks for the row again behind a
failed insert. -/
def ensureTodaySnapshot (t : Table NetWorthSnapshot) (userId : ℕ) (cockpit : KokpitOzeti)
    (workspaceId : Option ℕ) (today : Date) : Except SnapshotHatasi (Table NetWorthSnapshot) :=
  match t.first? (bugunkuKayit userId workspaceId today) with
  | none => snapshotEkle t ⟨userId, workspaceId, today, cockpit.degerler⟩
  | some (k, mevcut) =>
    if mevcut.degerler = cockpit.degerler then .ok t
    else .ok (t.modify k (fun a => { a with degerler := cockpit.degerler }))

/-- `get_cockpit`, as far as it writes: a snapshot that cannot be kept does not fail the request. -/
def getCockpit (t : Table NetWorthSnapshot) (userId : ℕ) (cockpit : KokpitOzeti) (wsId : Option ℕ)
    (today : Date) : Table NetWorthSnapshot :=
  match ensureTodaySnapshot t userId cockpit wsId today with
  | .ok t => t
  | .error _ => t

/-- The backfill's `upsert`. -/
def upsert (t : Table NetWorthSnapshot) (userId : ℕ) (snapshotDate : Date) (snap : SnapshotDegerleri)
    (workspaceId : Option ℕ) : Table NetWorthSnapshot :=
  match t.first? (fun a => a.userId = userId ∧ a.snapshotDate = snapshotDate) with
  | some (k, _) => t.modify k (fun a => { a with
      degerler := snap
      workspaceId := a.workspaceId.or workspaceId })
  | none => t.push ⟨userId, workspaceId, snapshotDate, snap⟩

end FinancialOs.Routers
