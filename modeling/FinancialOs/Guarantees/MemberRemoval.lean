import FinancialOs.Library.TransitionRuns
import FinancialOs.Routers.Workspaces

/-! What the removal of a member is worth: who has been removed from a workspace comes back only by an
invitation, one signed after the removal or one that was still open. -/
namespace FinancialOs.Guarantees
open Library Store Routers

/-- The database, the invitations the server has signed, and its clock in seconds. -/
structure DavetSistemi where
  db : Db
  davetler : List Davet
  saat : ℕ

inductive DavetOlayi where
  | workspaceAc (userId : ℕ) (name : String)
  | davetEt (userId : ℕ) (xWorkspaceId : Option ℤ) (workspaceId : ℤ) (email : String) (role : WorkspaceRole)
      (hesapAcabilir : Bool)
  | katil (userId : ℕ) (token : Option Davet)
  | uyeCikar (userId : ℕ) (xWorkspaceId : Option ℤ) (workspaceId targetUserId : ℤ)
  | gecen (saniye : ℕ)

def davetAdimi (s : DavetSistemi) : DavetOlayi → DavetSistemi
  | .workspaceAc userId name => { s with db := sonuc s.db (createWorkspace s.db userId name) }
  | .davetEt userId x workspaceId email role hesapAcabilir =>
    match inviteMember s.db userId x workspaceId email role hesapAcabilir s.saat with
    | .ok davet => { s with davetler := davet :: s.davetler }
    | .error _ => s
  | .katil userId token =>
    { s with db := sonuc s.db (joinWorkspace s.db userId (token.filter (· ∈ s.davetler)) s.saat) }
  | .uyeCikar userId x workspaceId targetUserId =>
    { s with db := sonuc s.db (removeMember s.db userId x workspaceId targetUserId) }
  | .gecen saniye => { s with saat := s.saat + saniye }

/-- A user is a member of a workspace once, the workspace is there, and no invitation outlives its hour. -/
structure DavetUyumu (s : DavetSistemi) : Prop where
  tek : ∀ k j m n, s.db.memberships.get? k = some m → s.db.memberships.get? j = some n →
    m.workspaceId = n.workspaceId → m.userId = n.userId → k = j
  var : ∀ k m, s.db.memberships.get? k = some m → (s.db.workspaces.get? m.workspaceId).isSome = true
  sure : ∀ d ∈ s.davetler, d.exp ≤ s.saat + davetSuresi

/-- The user accepts an open invitation to the workspace. -/
structure Kabul (s : DavetSistemi) (w u : ℕ) (d : Davet) : Prop where
  imzali : d ∈ s.davetler
  workspace : d.workspaceId = w
  adres : davetSahibi s.db u d = true
  sure : s.saat < d.exp

section Steps
variable {s : DavetSistemi} {w u : ℕ}

/-- A request on the members writes one row of theirs, or opens a workspace with its owner. -/
theorem adim_cases (s : DavetSistemi) (olay : DavetOlayi) :
    (davetAdimi s olay).db = s.db ∨
    (∃ u, (davetAdimi s olay).db = { s.db with
      workspaces := s.db.workspaces.push ⟨u, false⟩
      memberships := s.db.memberships.push ⟨s.db.workspaces.freshKey, u, .owner⟩ }) ∨
    (∃ u d, olay = .katil u (some d) ∧ Kabul s d.workspaceId u d ∧ uyelik s.db d.workspaceId u = none ∧
      (s.db.workspaces.get? d.workspaceId).isSome = true ∧ (davetAdimi s olay).db = { s.db with
        memberships := s.db.memberships.push ⟨d.workspaceId, u, d.role⟩ }) ∨
    ∃ k, (davetAdimi s olay).db = { s.db with memberships := s.db.memberships.erase k } := by
  cases olay with
  | workspaceAc u name =>
    rcases sonuc_cases s.db (createWorkspace s.db u name) with he | ⟨ws, hok, he, -⟩
    · exact .inl he
    · obtain rfl := createWorkspace_ok hok
      exact .inr (.inl ⟨u, he⟩)
  | davetEt u x workspaceId email role hesapAcabilir =>
    left
    rw [davetAdimi]
    split <;> rfl
  | katil u token =>
    rcases sonuc_cases s.db (joinWorkspace s.db u (token.filter (· ∈ s.davetler)) s.saat) with he | ⟨ws, hok, he, -⟩
    · exact .inl he
    · obtain ⟨d, htoken, hexp, hsahip, hvar, rfl | ⟨hyok, rfl⟩⟩ := joinWorkspace_ok hok
      · exact .inl he
      · obtain ⟨rfl, hd⟩ := Option.filter_eq_some_iff.mp htoken
        exact .inr (.inr (.inl ⟨u, d, rfl, ⟨of_decide_eq_true hd, rfl, hsahip, hexp⟩, hyok, hvar, he⟩))
  | uyeCikar u x workspaceId target =>
    rcases sonuc_cases s.db (removeMember s.db u x workspaceId target) with he | ⟨ws, hok, he, -⟩
    · exact .inl he
    · obtain ⟨_, _, k, _, _, _, _, _, _, _, rfl⟩ := removeMember_ok hok
      exact .inr (.inr (.inr ⟨k, he⟩))
  | gecen saniye => exact .inl rfl

theorem davetler_adim (s : DavetSistemi) (olay : DavetOlayi) :
    s.saat ≤ (davetAdimi s olay).saat ∧ ∀ d ∈ (davetAdimi s olay).davetler, d ∈ s.davetler ∨
      d.exp = s.saat + davetSuresi := by
  cases olay with
  | davetEt u x workspaceId email role hesapAcabilir =>
    rw [davetAdimi]
    split
    · next davet hd =>
      refine ⟨le_rfl, fun d hmem => ?_⟩
      rcases List.mem_cons.mp hmem with rfl | hmem
      · exact .inr (inviteMember_ok hd).2
      · exact .inl hmem
    · exact ⟨le_rfl, fun _ => .inl⟩
  | gecen saniye => exact ⟨Nat.le_add_right _ _, fun _ => .inl⟩
  | workspaceAc | katil | uyeCikar => exact ⟨le_rfl, fun _ => .inl⟩

/-- A row for a user who has none yet. -/
private theorem tek_push {ms : Table WorkspaceMembership} {a : WorkspaceMembership}
    (h : ∀ k j m n, ms.get? k = some m → ms.get? j = some n → m.workspaceId = n.workspaceId →
      m.userId = n.userId → k = j)
    (ha : ∀ k m, ms.get? k = some m → m.workspaceId = a.workspaceId → m.userId ≠ a.userId)
    (k j : ℕ) (m n : WorkspaceMembership) (hk : (ms.push a).get? k = some m) (hj : (ms.push a).get? j = some n)
    (hw : m.workspaceId = n.workspaceId) (hu : m.userId = n.userId) : k = j := by
  rw [Table.get?_push] at hk hj
  split at hk <;> split at hj
  · next hk' hj' => exact hk'.trans hj'.symm
  · obtain rfl := Option.some.inj hk
    exact absurd hu.symm (ha j n hj hw.symm)
  · obtain rfl := Option.some.inj hj
    exact absurd hu (ha k m hk hw)
  · exact h k j m n hk hj hw hu

theorem davetUyumu_adim (h : DavetUyumu s) (olay : DavetOlayi) : DavetUyumu (davetAdimi s olay) := by
  obtain ⟨hsaat, hdavet⟩ := davetler_adim s olay
  have hsure : ∀ d ∈ (davetAdimi s olay).davetler, d.exp ≤ (davetAdimi s olay).saat + davetSuresi := by
    intro d hd
    rcases hdavet d hd with hd | hd
    · exact (h.sure d hd).trans (Nat.add_le_add_right hsaat _)
    · exact hd.le.trans (Nat.add_le_add_right hsaat _)
  rcases adim_cases s olay with he | ⟨u, he⟩ | ⟨u, d, -, -, hyok, hvar, he⟩ | ⟨k, he⟩
  · exact ⟨he ▸ h.tek, he ▸ h.var, hsure⟩
  · refine ⟨?_, ?_, hsure⟩ <;> rw [he]
    · refine tek_push h.tek fun k m hk hw => ?_
      have hws := h.var k m hk
      rw [hw, Table.get?_freshKey] at hws
      cases hws
    · intro k m hk
      rw [Table.get?_push] at hk ⊢
      split
      · rfl
      · next hne =>
        split at hk
        · obtain rfl := Option.some.inj hk
          exact absurd rfl hne
        · exact h.var k m hk
  · refine ⟨?_, ?_, hsure⟩ <;> rw [he]
    · refine tek_push h.tek fun k m hk hw hu => ?_
      have huye := uye_iff.mp ⟨k, m, hk, hw, hu⟩
      rw [hyok] at huye
      cases huye
    · intro k m hk
      rw [Table.get?_push] at hk
      split at hk
      · obtain rfl := Option.some.inj hk
        exact hvar
      · exact h.var k m hk
  · refine ⟨?_, ?_, hsure⟩ <;> rw [he]
    · intro i j m n hi hj
      rw [Table.get?_erase] at hi hj
      split at hi
      · cases hi
      · split at hj
        · cases hj
        · exact h.tek i j m n hi hj
    · intro j m hj
      rw [Table.get?_erase] at hj
      split at hj
      · cases hj
      · exact h.var j m hj

/-- A workspace stays, and its members come by an invitation only. -/
theorem uye_adim (hws : (s.db.workspaces.get? w).isSome = true) (olay : DavetOlayi) :
    ((davetAdimi s olay).db.workspaces.get? w).isSome = true ∧ (Uye (davetAdimi s olay).db w u →
      Uye s.db w u ∨ ∃ d, olay = .katil u (some d) ∧ Kabul s w u d) := by
  rcases adim_cases s olay with he | ⟨x, he⟩ | ⟨x, d, rfl, hkabul, -, -, he⟩ | ⟨k, he⟩ <;> rw [he]
  · exact ⟨hws, .inl⟩
  · have hne : w ≠ s.db.workspaces.freshKey := by
      rintro rfl
      rw [Table.get?_freshKey] at hws
      cases hws
    refine ⟨by rw [Table.get?_push, if_neg hne]; exact hws, fun h => .inl ?_⟩
    obtain ⟨j, m, hj, hw, hu⟩ := h
    rw [Table.get?_push] at hj
    split at hj
    · obtain rfl := Option.some.inj hj
      exact absurd hw.symm hne
    · exact ⟨j, m, hj, hw, hu⟩
  · refine ⟨hws, fun h => ?_⟩
    obtain ⟨j, m, hj, hw, hu⟩ := h
    rw [Table.get?_push] at hj
    split at hj
    · obtain rfl := Option.some.inj hj
      subst hw hu
      exact .inr ⟨d, rfl, hkabul⟩
    · exact .inl ⟨j, m, hj, hw, hu⟩
  · refine ⟨hws, fun h => .inl ?_⟩
    obtain ⟨j, m, hj, hw, hu⟩ := h
    rw [Table.get?_erase] at hj
    split at hj
    · cases hj
    · exact ⟨j, m, hj, hw, hu⟩

/-- Who was no member and is one at the end has accepted an invitation on the way. -/
theorem kabul_of_run (hws : (s.db.workspaces.get? w).isSome = true) (hyok : ¬ Uye s.db w u)
    (olaylar : List DavetOlayi) (huye : Uye (run davetAdimi s olaylar).db w u) :
    ∃ once d sonra, olaylar = once ++ .katil u (some d) :: sonra ∧ Kabul (run davetAdimi s once) w u d := by
  induction olaylar generalizing s with
  | nil => exact absurd huye hyok
  | cons olay olaylar ih =>
    obtain ⟨hws', hadim⟩ := uye_adim hws olay
    by_cases hilk : Uye (davetAdimi s olay).db w u
    · rcases hadim hilk with h | ⟨d, rfl, hkabul⟩
      · exact absurd h hyok
      · exact ⟨[], d, olaylar, rfl, hkabul⟩
    · obtain ⟨once, d, sonra, rfl, hkabul⟩ := ih hws' hilk huye
      exact ⟨olay :: once, d, sonra, rfl, hkabul⟩

/-- The row of the member goes, and the workspace stays. -/
theorem uyeCikar_spec (h : DavetUyumu s) {sahip : ℕ} {x : Option ℤ}
    (hok : gecer s.db (removeMember s.db sahip x w u) = true) :
    let s' := davetAdimi s (.uyeCikar sahip x w u)
    ¬ Uye s'.db w u ∧ (s'.db.workspaces.get? w).isSome = true := by
  intro s'
  obtain ⟨ws, hrem, hcommit⟩ := gecer_iff.mp hok
  obtain ⟨w', row, k, m, hw', hrow, -, hk, hmw, hmu, rfl⟩ := removeMember_ok hrem
  obtain rfl := Nat.cast_inj.mp hw'
  have hs' : s'.db = { s.db with memberships := s.db.memberships.erase k } := by
    change sonuc s.db (removeMember s.db sahip x w u) = _
    rw [hrem, sonuc, hcommit]
    rfl
  rw [hs']
  refine ⟨fun huye => ?_, by rw [hrow]; rfl⟩
  obtain ⟨j, n, hj, hnw, hnu⟩ := huye
  rw [Table.get?_erase] at hj
  split at hj
  · cases hj
  · next hne => exact hne (h.tek j k n m hj hk (hnw.trans hmw.symm) (hnu.trans (by exact_mod_cast hmu.symm)))

end Steps

/-- After a removal, whatever happened before it and whatever comes, the user is a member again only by
accepting an invitation: one signed after the removal, or one that was open then, within the hour. -/
theorem removed_returns_by_invitation (s₀ : DavetSistemi) (hs₀ : DavetUyumu s₀) (once sonra : List DavetOlayi)
    (sahip : ℕ) (x : Option ℤ) (w u : ℕ)
    (hok : gecer (run davetAdimi s₀ once).db
      (removeMember (run davetAdimi s₀ once).db sahip x w u) = true) :
    let s := davetAdimi (run davetAdimi s₀ once) (.uyeCikar sahip x w u)
    ¬ Uye s.db w u ∧ (Uye (run davetAdimi s sonra).db w u → ∃ pre d post, sonra = pre ++ .katil u (some d) :: post ∧
      Kabul (run davetAdimi s pre) w u d ∧
        (d ∉ s.davetler ∨ (run davetAdimi s pre).saat < s.saat + davetSuresi)) := by
  intro s
  have hadim (s : DavetSistemi) (olay : DavetOlayi) (h : DavetUyumu s) : DavetUyumu (davetAdimi s olay) :=
    davetUyumu_adim h olay
  have hson : DavetUyumu (run davetAdimi s₀ once) := run_invariant_all hadim once hs₀
  obtain ⟨hyok, hws⟩ := uyeCikar_spec hson hok
  refine ⟨hyok, fun huye => ?_⟩
  obtain ⟨pre, d, post, hsplit, hkabul⟩ := kabul_of_run hws hyok sonra huye
  refine ⟨pre, d, post, hsplit, hkabul, ?_⟩
  by_cases hd : d ∈ s.davetler
  · exact .inr (hkabul.sure.trans_le ((davetUyumu_adim hson _).sure d hd))
  · exact .inl hd

/-- A household: its owner, and a user who is not a member yet. -/
def haneDb : Db := { Db.empty with
  users := (Table.empty.push ⟨some "a@ev.com"⟩).push ⟨some "b@ev.com"⟩
  workspaces := Table.empty.push ⟨1, false⟩
  memberships := Table.empty.push ⟨1, 1, .owner⟩ }

def haneDaveti : Davet := ⟨1, "b@ev.com".toList, .editor, davetSuresi⟩

def haneOncesi : List DavetOlayi := [.davetEt 1 (some 1) 1 "b@ev.com" .editor true, .katil 2 (some haneDaveti)]

theorem haneUyumu : DavetUyumu ⟨haneDb, [], 0⟩ where
  tek k j m n hk hj _ _ := by
    have h1 : ∀ i a, haneDb.memberships.get? i = some a → i = 1 := fun i a hi => by
      have hmem := Table.get?_eq_some.mp hi
      have hrows : haneDb.memberships.rows = [(1, ⟨1, 1, .owner⟩)] := by decide +kernel
      rw [hrows, List.mem_singleton] at hmem
      exact (Prod.mk.inj hmem).1
    exact (h1 k m hk).trans (h1 j n hj).symm
  var k m hk := by
    have hmem := Table.get?_eq_some.mp hk
    have hrows : haneDb.memberships.rows = [(1, ⟨1, 1, .owner⟩)] := by decide +kernel
    rw [hrows, List.mem_singleton] at hmem
    rw [(Prod.mk.inj hmem).2]
    decide +kernel
  sure d hd := absurd hd List.not_mem_nil

def haneSonrasi : List DavetOlayi := [.gecen 60, .katil 2 (some haneDaveti)]

theorem removed_returns_by_invitation_hane :
    let s := davetAdimi (run davetAdimi ⟨haneDb, [], 0⟩ haneOncesi) (.uyeCikar 1 (some 1) 1 2)
    ∃ pre d post, haneSonrasi = pre ++ .katil 2 (some d) :: post ∧ Kabul (run davetAdimi s pre) 1 2 d ∧
      (d ∉ s.davetler ∨ (run davetAdimi s pre).saat < s.saat + davetSuresi) :=
  (removed_returns_by_invitation _ haneUyumu haneOncesi haneSonrasi 1 (some 1) 1 2 (by decide +kernel)).2
    (by decide +kernel)

/-- The removed member comes back with the invitation that was accepted once already; none was signed
after the removal. -/
theorem spent_invitation_readmits :
    let s := run davetAdimi ⟨haneDb, [], 0⟩ haneOncesi
    let s' := davetAdimi s (.uyeCikar 1 (some 1) 1 2)
    let son := run davetAdimi s' haneSonrasi
    gecer s.db (removeMember s.db 1 (some 1) 1 2) = true ∧ ¬ Uye s'.db 1 2 ∧ Uye son.db 1 2 ∧
      son.davetler = s'.davetler := by
  decide +kernel

end FinancialOs.Guarantees
