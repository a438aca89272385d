import FinancialOs.Executor.RowAccess
import FinancialOs.Library.TransitionRuns
import FinancialOs.Routers.Actions
import FinancialOs.Routers.Workspaces

/-! Who may mutate the rows of a workspace by approving an action. The role check looks at
the workspace of the request; the effects land in the one stored with the proposal. -/
namespace FinancialOs.Guarantees
open Library Store Rules Executor Routers

/-- The database and the invitations the server has signed. -/
structure Sistem where
  db : Db
  davetler : List Davet

structure Ayar where
  production : Bool
  metin : MetinDenetimi

inductive Olay where
  | workspaceAc (userId : ℕ) (name : String)
  | davetEt (userId : ℕ) (xWorkspaceId : Option ℤ) (workspaceId : ℤ) (email : String)
      (role : WorkspaceRole) (hesapAcabilir : Bool) (simdi : ℕ)
  | katil (userId : ℕ) (token : Option Davet) (simdi : ℕ)
  | rolDegis (uyelikId : ℕ) (role : WorkspaceRole)
  | uyeCikar (userId : ℕ) (xWorkspaceId : Option ℤ) (workspaceId targetUserId : ℤ)
  | oner (xWorkspaceId : Option ℤ) (o : Oneri)
  | tetikle (xWorkspaceId : Option ℤ) (o : Oneri)
  | onayla (ariza : Ariza) (bugun : ℕ → Date) (userId : ℕ) (xWorkspaceId : Option ℤ) (actionId : ℕ)
  | reddet (userId : ℕ) (xWorkspaceId : Option ℤ) (actionId : ℕ) (reason : Option String)

/-- One request of one user. No endpoint changes a role, so that step is the database's own. -/
def adim (a : Ayar) (s : Sistem) : Olay → Sistem
  | .workspaceAc userId name => { s with db := sonuc s.db (createWorkspace s.db userId name) }
  | .davetEt userId x workspaceId email role hesapAcabilir simdi =>
    match inviteMember s.db userId x workspaceId email role hesapAcabilir simdi with
    | .ok davet => { s with davetler := davet :: s.davetler }
    | .error _ => s
  | .katil userId token simdi =>
    { s with db := sonuc s.db (joinWorkspace s.db userId (token.filter (· ∈ s.davetler)) simdi) }
  | .rolDegis uyelikId role =>
    { s with db := s.db.write (.membership (.update uyelikId (fun m => { m with role := role }))) }
  | .uyeCikar userId x workspaceId targetUserId =>
    { s with db := sonuc s.db (removeMember s.db userId x workspaceId targetUserId) }
  | .oner x o => { s with db := sonuc s.db (sohbetOnerisi a.metin a.production s.db x o) }
  | .tetikle x o => { s with db := sonuc s.db (tetikOnerisi a.metin s.db x o) }
  | .onayla ariza bugun userId x actionId =>
    { s with db := (approveAction a.production ariza bugun s.db userId x actionId).2 }
  | .reddet userId x actionId reason => { s with db := (rejectAction s.db userId x actionId reason).2 }

/-- An approval mutates rows only of workspaces its user is an owner or editor of. -/
def Yetkili (a : Ayar) (s : Sistem) : Olay → Prop
  | .onayla ariza bugun userId x actionId =>
    ∀ w, Etkilenen s.db (adim a s (.onayla ariza bugun userId x actionId)).db w → Yazabilir s.db w userId
  | _ => True

/-- The scope of an action is the workspace, and its lookups by owner do not lead out of it. -/
structure OnayYerinde (db : Db) (userId : ℕ) (pending : PendingAction) (r : ℕ) : Prop where
  kapsam : yazmaWorkspaceId db pending.workspaceId userId none = some r
  aramalar : ∀ p, pending.payload = .object p → AcikAramalar r db userId pending.actionType p
  gelir : ∀ id kayit, pending.sourceRecurringId = some id →
    pending.sourceRecurringType = some .income →
      kaynakKaydi db.incomes id pending.userId = some kayit → Icinde r kayit.workspaceId
  gider : ∀ id kayit, pending.sourceRecurringId = some id →
    pending.sourceRecurringType = some .expense →
      kaynakKaydi db.expenses id pending.userId = some kayit → Icinde r kayit.workspaceId

/-- The workspace that the request of an approval resolves to is the one its effects land in. -/
def Yerinde (a : Ayar) (s : Sistem) : Olay → Prop
  | .onayla _ _ userId x actionId => ∀ wsId pending, aksiyonKapisi a.production s.db userId x = .ok wsId →
      kendiAksiyonu s.db actionId userId = some pending → pending.status = .pending →
        ∃ r : ℕ, istenenWorkspace s.db userId x = some (r : ℤ) ∧ OnayYerinde s.db userId pending r
  | _ => True

private theorem pending_icinde {db : Db} {userId r : ℕ} {w : Option ℕ}
    (h : yazmaWorkspaceId db w userId none = some r) : Icinde r w := by
  cases w with
  | none => exact fun _ h => (nomatch h)
  | some v => exact fun w hw => (Option.some.inj hw).symm.trans (Option.some.inj h)

private theorem durumYazimi_icinde {db : Db} {actionId userId r : ℕ} {pending : PendingAction} {w : Write}
    (ha : kendiAksiyonu db actionId userId = some pending) (h : OnayYerinde db userId pending r)
    (hw : DurumYazimi db actionId pending w) : w.Icinde r db := by
  cases hw with
  | durum f hf _ =>
    refine tabloIcinde_update hf fun b hb => ?_
    obtain rfl : pending = b := by simpa [(kendiAksiyonu_eq_some.mp ha).1] using hb
    exact pending_icinde h.kapsam
  | gelir id kayit f hf kaynak tur satir =>
    refine tabloIcinde_update hf fun b hb => ?_
    have hget : db.incomes.get? id = some kayit := (Option.filter_eq_some_iff.mp satir).1
    obtain rfl : kayit = b := by simpa [hget] using hb
    exact h.gelir id kayit kaynak tur satir
  | gider id kayit f hf kaynak tur satir =>
    refine tabloIcinde_update hf fun b hb => ?_
    have hget : db.expenses.get? id = some kayit := (Option.filter_eq_some_iff.mp satir).1
    obtain rfl : kayit = b := by simpa [hget] using hb
    exact h.gider id kayit kaynak tur satir

/-- An approval whose effects land where it says they do mutates rows of that workspace only. -/
theorem execute_icinde {ariza : Ariza} {bugun : ℕ → Date} {db : Db} {actionId userId r w : ℕ}
    (h : ∀ pending, kendiAksiyonu db actionId userId = some pending → pending.status = .pending →
      OnayYerinde db userId pending r)
    (hw : Etkilenen db (executePendingAction ariza bugun db actionId userId).2 w) : w = r := by
  rcases execute_writes ariza bugun db actionId userId with
    he | ⟨pending, ws, son, ha, hs, he, hson, hws⟩
  · rw [he] at hw
    exact absurd hw not_etkilenen_self
  · have hyer := h pending ha hs
    rw [he] at hw
    refine etkilenen_writeAll (fun x hx => ?_) hw
    rcases List.mem_cons.mp hx with rfl | hx
    · exact durumYazimi_icinde ha hyer (durumYazimi_durumYaz db actionId pending (by decide))
    rcases List.mem_append.mp hx with hx | hx
    · rcases hws with rfl | ⟨p, happ⟩
      · cases hx
      · obtain ⟨hr, hacc, _⟩ := applies_iff_accepted.mp happ
        have hkapsam : (ortam bugun db pending userId).kapsam none = some r := hyer.kapsam
        exact hacc.icinde hkapsam (hyer.aramalar p hr.payload) x hx
    · exact durumYazimi_icinde ha hyer (hson x hx)

private theorem yetkili_of_yerinde {a : Ayar} {s : Sistem} {olay : Olay} (h : Yerinde a s olay) :
    Yetkili a s olay := by
  cases olay with
  | onayla ariza bugun userId x actionId =>
    intro w hw
    rcases approveAction_db a.production ariza bugun s.db userId x actionId with he | ⟨⟨wsId, hk⟩, he⟩
    · simp only [adim, he] at hw
      exact absurd hw not_etkilenen_self
    · simp only [adim, he] at hw
      have hguard : requireWrite s.db userId x = .ok () := by
        simp only [aksiyonKapisi, bind_eq_ok] at hk
        exact hk.choose_spec.1
      rcases execute_writes ariza bugun s.db actionId userId with hsame | ⟨pending, _, _, ha, hs, _⟩
      · rw [hsame] at hw
        exact absurd hw not_etkilenen_self
      · obtain ⟨r, hr, hyer⟩ := h wsId pending hk ha hs
        obtain rfl : w = r := by
          refine execute_icinde (fun q hq _ => ?_) hw
          obtain rfl : pending = q := by simpa [ha] using hq
          exact hyer
        exact requireWrite_ok hguard hr
  | _ => trivial

/-- As long as every approval is checked in the workspace it changes, no run lets a user without
an owner or editor membership mutate a row of a workspace by approving. -/
theorem approvals_authorized (a : Ayar) (s : Sistem) (olaylar : List Olay)
    (h : StepsMeet (adim a) (Yerinde a) s olaylar) : StepsMeet (adim a) (Yetkili a) s olaylar :=
  h.mono fun _ _ hc => yetkili_of_yerinde hc

/-- Two users with a personal workspace each, and an account in a third one that user 1 shares. -/
def ortakDb : Db := { Db.empty.writeAll [
  .workspace (.insert ⟨1, true⟩), .workspace (.insert ⟨2, true⟩), .workspace (.insert ⟨1, false⟩),
  .membership (.insert ⟨1, 1, .owner⟩), .membership (.insert ⟨2, 2, .owner⟩),
  .membership (.insert ⟨3, 1, .owner⟩),
  .account (.insert ⟨1, some 3, "Ortak", .cash, 1000, none, none, none, none, none, none, none, false⟩)] with
  users := (Table.empty.push ⟨some "sahip@ornek.com"⟩).push ⟨some "uye@ornek.com"⟩ }

def hamAyar : Ayar := ⟨true, fun _ _ o => .ok o.payload⟩

def sifirlama (userId : ℕ) : Oneri :=
  ⟨userId, .updateAccountBalance, [(.accountId, .int 1), (.newBalance, .int 0)],
    "Ortak hesabının bakiyesi 0 TL olarak güncellenecek.", none⟩

def onayGunu : Date := (Date.ofYmd? 2026 5 6).get rfl

/-- The stored proposal of a user who empties the shared account. -/
def sifirlamaAksiyonu (userId : ℕ) : PendingAction :=
  ⟨userId, some 3, .updateAccountBalance, .object (sifirlama userId).payload, (sifirlama userId).summary,
    .pending, none, none, none⟩

theorem approvals_authorized_ortakDb :
    StepsMeet (adim hamAyar) (Yetkili hamAyar) ⟨ortakDb, []⟩
      [.oner (some 3) (sifirlama 1), .onayla .yok (fun _ => onayGunu) 1 (some 3) 1] := by
  apply approvals_authorized
  refine ⟨trivial, fun wsId pending _ hp _ => ⟨3, rfl, ?_⟩, trivial⟩
  obtain rfl : sifirlamaAksiyonu 1 = pending := by
    have hstored : kendiAksiyonu (adim hamAyar ⟨ortakDb, []⟩ (.oner (some 3) (sifirlama 1))).db 1 1 =
        some (sifirlamaAksiyonu 1) := by decide +kernel
    exact Option.some.inj (hstored.symm.trans hp)
  exact ⟨rfl, fun _ _ => ⟨fun h => (nomatch h), fun h => (nomatch h)⟩, fun _ _ h => (nomatch h),
    fun _ _ h => (nomatch h)⟩

/-- User 2 joins as a viewer and proposes in the shared workspace. -/
def izleyiciOlaylari : List Olay := [
  .davetEt 1 (some 3) 3 "uye@ornek.com" .viewer true 0,
  .katil 2 (some ⟨3, sade "uye@ornek.com", .viewer, davetSuresi⟩) 60,
  .oner (some 3) (sifirlama 2)]

/-- A viewer empties the shared account by approving without a workspace header. -/
theorem viewer_emptied_the_shared_account :
    ¬ ∀ a s olaylar, StepsMeet (adim a) (Yetkili a) s olaylar := by
  intro h
  have hrun := (stepsMeet_append ⟨ortakDb, []⟩ izleyiciOlaylari
    [.onayla .yok (fun _ => onayGunu) 2 none 1]).mp (h hamAyar _ _)
  have hlaw := hrun.2.1 3 (.inl ⟨1, ⟨1, some 3, "Ortak", .cash, 1000, none, none, none, none, none, none,
    none, false⟩, ⟨by decide +kernel, by decide +kernel⟩, rfl⟩)
  obtain ⟨id, m, hm, hws, huser, hrank⟩ := hlaw
  have hviewer : ∀ r ∈ (run (adim hamAyar) ⟨ortakDb, []⟩ izleyiciOlaylari).db.memberships.rows,
      r.2.workspaceId = 3 → r.2.userId = 2 → r.2.role = .viewer := by decide +kernel
  rw [hviewer _ (Table.get?_eq_some.mp hm) hws huser] at hrank
  exact absurd hrank (by decide)

end FinancialOs.Guarantees
